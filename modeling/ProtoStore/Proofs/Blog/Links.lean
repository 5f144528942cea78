import ProtoStore.Blog.Domain
import ProtoStore.Proofs.Domain.Frame

/-!
# The links of the blog

What holds of each link by its name holds of all links of messages: of the one reference
(`forall_reference`), of all children (`forall_children`), and of all joined messages
(`forall_joined`). `collected_article`, `collected_thread` and `collected_digest` say which records are
linked to a message, `Entity.linkedKinds` in which tables they are saved, and `Entity.prunedKinds` from
which they are deleted. The writer of an article is the only one that is saved before the row of its message
(`WriterPrepared`).
-/

namespace ProtoStore.Blog

open Domain Operations

theorem forall_reference {P : (e : Entity) → Reference e → Prop}
    (writer : P .article articleWriter) {e : Entity} {link : Reference e}
    (h : .reference link ∈ Bindings.links e) : P e link := by
  cases e with
  | article =>
    change MessageLink.reference link ∈ [.reference articleWriter, .children articleComments,
      .joined articleTags] at h
    simp only [List.mem_cons, MessageLink.reference.injEq, reduceCtorEq, List.not_mem_nil,
      or_false] at h
    exact h ▸ writer
  | thread =>
    change MessageLink.reference link ∈ [.children threadReplies, .joined threadTopics] at h
    simp at h
  | digest =>
    change MessageLink.reference link ∈ [.children digestEntries, .joined digestFeatured,
      .joined digestHidden] at h
    simp at h
  | blogPost | author | comment | tag | reply => cases h

theorem forall_children {P : (e : Entity) → Children e → Prop}
    (comments : P .article articleComments) (replies : P .thread threadReplies)
    (entries : P .digest digestEntries) {e : Entity} {link : Children e}
    (h : .children link ∈ Bindings.links e) : P e link := by
  cases e with
  | article =>
    change MessageLink.children link ∈ [.reference articleWriter, .children articleComments,
      .joined articleTags] at h
    simp only [List.mem_cons, MessageLink.children.injEq, reduceCtorEq, List.not_mem_nil,
      or_false, false_or] at h
    exact h ▸ comments
  | thread =>
    change MessageLink.children link ∈ [.children threadReplies, .joined threadTopics] at h
    simp only [List.mem_cons, MessageLink.children.injEq, reduceCtorEq, List.not_mem_nil,
      or_false] at h
    exact h ▸ replies
  | digest =>
    change MessageLink.children link ∈ [.children digestEntries, .joined digestFeatured,
      .joined digestHidden] at h
    simp only [List.mem_cons, MessageLink.children.injEq, reduceCtorEq, List.not_mem_nil,
      or_false] at h
    exact h ▸ entries
  | blogPost | author | comment | tag | reply => cases h

theorem forall_joined {P : (e : Entity) → Joined e → Prop}
    (tags : P .article articleTags) (topics : P .thread threadTopics)
    (featured : P .digest digestFeatured) (hidden : P .digest digestHidden)
    {e : Entity} {link : Joined e} (h : .joined link ∈ Bindings.links e) : P e link := by
  cases e with
  | article =>
    change MessageLink.joined link ∈ [.reference articleWriter, .children articleComments,
      .joined articleTags] at h
    simp only [List.mem_cons, MessageLink.joined.injEq, reduceCtorEq, List.not_mem_nil,
      or_false, false_or] at h
    exact h ▸ tags
  | thread =>
    change MessageLink.joined link ∈ [.children threadReplies, .joined threadTopics] at h
    simp only [List.mem_cons, MessageLink.joined.injEq, reduceCtorEq, List.not_mem_nil,
      or_false, false_or] at h
    exact h ▸ topics
  | digest =>
    change MessageLink.joined link ∈ [.children digestEntries, .joined digestFeatured,
      .joined digestHidden] at h
    simp only [List.mem_cons, MessageLink.joined.injEq, reduceCtorEq, List.not_mem_nil,
      or_false, false_or] at h
    rcases h with rfl | rfl
    · exact featured
    · exact hidden
  | blogPost | author | comment | tag | reply => cases h

/-! ## Records of links -/

/-- The records of messages, where none fails to be one. -/
theorem rows_of_converts {e : Entity} {f : e.Message → Record e} {messages : List e.Message}
    {rows : List (Record e)} (hf : ∀ m, e.fillRecord m e.blankRecord = .ok (f m))
    (h : List.Forall₂ (Converts e) messages rows) : rows = messages.map f := by
  induction h with
  | nil => rfl
  | @cons m row messages rows converts _ ih =>
    have same : f m = row := Except.ok.inj ((hf m).symm.trans converts)
    rw [ih, List.map_cons, same]

theorem collected_article {m : Article} {pending : List (Pending Entity.article)}
    (h : List.Forall₂ (Collected (e := Entity.article) m) (Bindings.links Entity.article) pending) :
    ∃ writer comments tags, pending = [.reference articleWriter writer,
        .children articleComments comments, .joined articleTags tags] ∧
      Option.Rel (Converts Entity.author) m.writer writer ∧
      List.Forall₂ (Converts Entity.comment) m.comments comments ∧
      List.Forall₂ (Converts Entity.tag) m.tags tags := by
  change List.Forall₂ (Collected (e := Entity.article) m) [.reference articleWriter,
    .children articleComments, .joined articleTags] pending at h
  obtain _ | ⟨⟨hw⟩, _ | ⟨⟨⟩, _ | ⟨⟨⟩, ⟨⟩⟩⟩⟩ := h
  next hc _ ht => exact ⟨_, _, _, rfl, hw, hc, ht⟩

theorem collected_thread {m : Thread} {pending : List (Pending Entity.thread)}
    (h : List.Forall₂ (Collected (e := Entity.thread) m) (Bindings.links Entity.thread) pending) :
    ∃ replies topics, pending = [.children threadReplies replies, .joined threadTopics topics] ∧
      List.Forall₂ (Converts Entity.reply) m.replies replies ∧
      List.Forall₂ (Converts Entity.tag) m.topics topics := by
  change List.Forall₂ (Collected (e := Entity.thread) m) [.children threadReplies,
    .joined threadTopics] pending at h
  obtain _ | ⟨⟨⟩, _ | ⟨⟨⟩, ⟨⟩⟩⟩ := h
  next hr _ ht => exact ⟨_, _, rfl, hr, ht⟩

theorem collected_digest {m : Digest} {pending : List (Pending Entity.digest)}
    (h : List.Forall₂ (Collected (e := Entity.digest) m) (Bindings.links Entity.digest) pending) :
    ∃ entries featured hidden, pending = [.children digestEntries entries,
        .joined digestFeatured featured, .joined digestHidden hidden] ∧
      List.Forall₂ (Converts Entity.reply) m.entries entries ∧
      List.Forall₂ (Converts Entity.tag) m.featured featured ∧
      List.Forall₂ (Converts Entity.tag) m.hidden hidden := by
  change List.Forall₂ (Collected (e := Entity.digest) m) [.children digestEntries,
    .joined digestFeatured, .joined digestHidden] pending at h
  obtain _ | ⟨⟨⟩, _ | ⟨⟨⟩, _ | ⟨⟨⟩, ⟨⟩⟩⟩⟩ := h
  next he _ hf _ hh => exact ⟨_, _, _, rfl, he, hf, hh⟩

/-! ## The writer of an article -/

/-- What is done before the row of an article is stored: its writer is saved, if it has one, and the row points
to it. -/
inductive WriterPrepared (m : Article) (context : Context) (s : Store Kind) (row : Record Entity.article) :
    Record Entity.article → World Kind Unit → Prop
  | without (absent : m.writer = none) :
    WriterPrepared m context s row (articleWriter.assign none row) ⟨s, context, ()⟩
  | saved {author : Author} {target written : AuthorRecord} {u : Store Kind} (provided : m.writer = some author)
    (converts : Converts Entity.author author target)
    (saves : s.save context (.record .author) target = ⟨u, written, .ok ()⟩) :
    WriterPrepared m context s row (articleWriter.assign (some written) row) ⟨u, context, ()⟩

theorem writer_prepared {m : Article} {pending : List (Pending Entity.article)} {row prepared : Record Entity.article}
    {s : Store Kind} {context : Context} [context.Timeless] {last : World Kind Unit}
    (hc : List.Forall₂ (Collected (e := Entity.article) m) (Bindings.links Entity.article) pending)
    (h : prepare pending row ⟨s, context, ()⟩ = (.ok prepared, last)) :
    WriterPrepared m context s row prepared last := by
  obtain ⟨writer, comments, tags, rfl, converts, -⟩ := collected_article hc
  unfold prepare at h
  generalize provided : m.writer = author? at converts
  cases converts with
  | none =>
    cases h
    exact .without provided
  | some converts =>
    obtain ⟨pointed, after, first, rest⟩ := Action.bind_ok.mp h
    obtain ⟨written, _, wrote, done⟩ := Action.bind_ok.mp first
    obtain ⟨u, saves, rfl⟩ := Action.write_ok.mp wrote
    cases done
    cases rest
    rw [World.after_timeless]
    exact .saved provided converts saves

/-! ## Kinds of rows -/

/-- The kinds of rows that are saved for links of a message. -/
def Entity.linkedKinds : Entity → List Kind
  | article => [.record author, .record comment, .record tag, .articleTag]
  | thread => [.record reply, .record tag, .threadTopic]
  | digest => [.record tag, .digestFeatured]
  | blogPost | author | comment | tag | reply => []

/-- The kinds of rows that are deleted for links of a message. -/
def Entity.prunedKinds : Entity → List Kind
  | article => [.record comment, .articleTag]
  | thread => [.record reply, .threadTopic]
  | digest => [.record reply, .digestFeatured, .digestHidden]
  | blogPost | author | comment | tag | reply => []

section

variable {e : Entity} {m : e.Message} {pending : List (Pending e)}

theorem mem_linkedKinds_of_writes (hc : List.Forall₂ (Collected m) (Bindings.links e) pending) :
    ∀ p ∈ pending, ∀ kind ∈ p.writes, kind ∈ e.linkedKinds := by
  intro p hp
  obtain ⟨link, hl, hc⟩ := exists_of_forall₂ hc hp
  cases hc with
  | reference _ =>
    exact forall_reference (P := fun e link => ∀ kind ∈ [table link.target], kind ∈ e.linkedKinds)
      (by decide) hl
  | children _ =>
    exact forall_children (P := fun e link => ∀ kind ∈ (Pending.children link []).writes,
      kind ∈ e.linkedKinds) (by decide) (by decide) (by decide) hl
  | joined _ =>
    exact forall_joined (P := fun e link => ∀ kind ∈ (Pending.joined link []).writes,
      kind ∈ e.linkedKinds) (by decide) (by decide) (by decide) (by decide) hl

theorem mem_prunedKinds_of_prunes (hc : List.Forall₂ (Collected m) (Bindings.links e) pending) :
    ∀ p ∈ pending, ∀ kind ∈ p.prunes, kind ∈ e.prunedKinds := by
  intro p hp
  obtain ⟨link, hl, hc⟩ := exists_of_forall₂ hc hp
  cases hc with
  | reference _ => exact List.forall_mem_nil _
  | children _ =>
    exact forall_children (P := fun e link => ∀ kind ∈ [table link.target], kind ∈ e.prunedKinds)
      (by decide) (by decide) (by decide) hl
  | joined _ =>
    exact forall_joined (P := fun e link => ∀ kind ∈ [link.join], kind ∈ e.prunedKinds)
      (by decide) (by decide) (by decide) (by decide) hl

/-- No link is stored in the table of its own message. -/
theorem table_not_mem_writes (hc : List.Forall₂ (Collected m) (Bindings.links e) pending) :
    ∀ p ∈ pending, table e ∉ p.writes := by
  have hn : Kind.record e ∉ e.linkedKinds := by cases e <;> decide
  exact fun p hp h => hn (mem_linkedKinds_of_writes hc p hp _ h)

end

end ProtoStore.Blog
