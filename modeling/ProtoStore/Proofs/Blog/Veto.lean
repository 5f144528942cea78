import ProtoStore.Proofs.Blog.Children
import ProtoStore.Proofs.Blog.Partial
import ProtoStore.Proofs.Domain.Cleaning
import ProtoStore.Proofs.Domain.Veto

/-!
# Hooks of the blog that reject

A hook that rejects ends its call before anything is written, with one exception: right before the row of
an update is saved, what the update cleans up is gone already (`Entity.cleaned`, `vetoed_by_hook`).
-/

namespace ProtoStore.Blog

open Domain Store Operations Domain.Action

/-- Whether the strategies of a message delete a row that is linked to the row of the message. -/
def Entity.discards : (e : Entity) → e.Record → e.Message → (kind : Kind) → Row kind → Bool
  | article, (r : ArticleRecord), (m : Article), kind, x => match kind, x with
    | .record .comment, (x : CommentRecord) =>
      x.articleId == r.id && !m.comments.any fun comment => comment.id != 0 && comment.id == x.id
    | _, _ => false
  | thread, (r : ThreadRecord), _, kind, x => match kind, x with
    | .record .reply, (x : ReplyRecord) => x.threadId == some r.id
    | .threadTopic, (x : ThreadTopic) => x.threadId == r.id
    | _, _ => false
  | digest, (r : DigestRecord), _, kind, x => match kind, x with
    | .record .reply, (x : ReplyRecord) => x.digestId == some r.id
    | .digestFeatured, (x : DigestTag) | .digestHidden, (x : DigestTag) => x.digestId == r.id
    | _, _ => false
  | blogPost, _, _, _, _ | author, _, _, _, _ | comment, _, _, _, _ | tag, _, _, _, _
  | reply, _, _, _, _ => false

/-- The rows of a kind that an update of a message leaves until it saves the row of the message: a provided
writer is stored, and what the strategies discard is deleted if the message has a key. -/
def Entity.cleaned (e : Entity) (row : e.Record) (m : e.Message) (store : Store Kind) (kind : Kind) :
    List (Row kind) :=
  ((e.withWriter m store).rows kind).filter fun x =>
    !(!(record (Kind.record e)).keyIsEmpty row && e.discards row m kind x)

section

variable {e : Entity} {m : e.Message} {row : Record e} {pending : List (Pending e)} {kind : Kind}

theorem isIn_presentKeys {comments : List (Record articleComments.target)} {provided : List Comment}
    (h : List.Forall₂ (Converts Entity.comment) provided comments) (x : CommentRecord) :
    (toValue x.id).isIn (presentKeys comments) =
      provided.any fun comment => comment.id != 0 && comment.id == x.id := by
  obtain rfl : comments = provided.map commentRecord := rows_of_converts (fun _ => rfl) h
  have same : ∀ comment : Comment, (toValue comment.id).same (toValue x.id) = (comment.id == x.id) := by
    intro comment
    rw [Bool.eq_iff_iff, Value.same_iff (Or.inl rfl), beq_iff_eq]
    exact ⟨fun h => Value.uint.inj h, congrArg toValue⟩
  show ((((provided.map commentRecord).filter fun r : CommentRecord => !(r.id == 0)).map
    fun r : CommentRecord => toValue r.id).any fun b => b.same (toValue x.id)) = _
  rw [List.any_map, List.any_filter, List.any_map]
  exact congrArg provided.any (funext fun comment => congrArg (comment.id != 0 && ·) (same comment))

theorem takes_comments {comments : List (Record articleComments.target)} {provided : List Comment}
    {row : ArticleRecord} (h : List.Forall₂ (Converts Entity.comment) provided comments)
    (x : CommentRecord) : (Pending.children articleComments comments).takes row (Kind.record .comment) x =
      (x.articleId == row.id && !provided.any fun comment => comment.id != 0 && comment.id == x.id) := by
  have linked : (record (Kind.record .comment)).satisfies
      [.eq articleComments.column (keyOf Entity.article row)] x = (x.articleId == row.id) := by
    rw [Bool.eq_iff_iff, beq_iff_eq]
    exact linked_comment_iff
  rw [← linked, ← isIn_presentKeys h]
  exact any_prunedChildren _ _ _ _

theorem satisfies_number {column : String} {x : Row kind} {n k : UInt64}
    (h : (record kind).value? x column = some (.uint n)) :
    (record kind).satisfies [.eq column (.uint k)] x = (n == k) := by
  rw [Bool.eq_iff_iff, beq_iff_eq]
  exact (linked_iff h rfl).trans ⟨Value.uint.inj, congrArg Value.uint⟩

theorem satisfies_parent {column : String} {x : Row kind} {parent : Option UInt64} {k : UInt64}
    (h : (record kind).value? x column = some (toValue parent)) :
    (record kind).satisfies [.eq column (.uint k)] x = (parent == some k) := by
  rw [Bool.eq_iff_iff, beq_iff_eq]
  have parents : toValue parent = toValue (some k) ↔ parent = some k := toValue_number_injective.eq_iff
  exact (linked_iff h (isExact_number parent)).trans parents

/-- What is deleted for a message is told by its links. -/
theorem any_takes (hc : List.Forall₂ (Collected m) (Bindings.links e) pending) (x : Row kind) :
    (pending.any fun p => p.takes row kind x) = e.discards row m kind x := by
  cases e with
  | article =>
    obtain ⟨writer, comments, tags, rfl, -, hcomments, -⟩ := collected_article hc
    have tags : (Pending.joined articleTags tags).takes row kind x = false := by
      simp [Pending.takes, articleTags]
    rw [List.any_cons, List.any_cons, List.any_cons, tags, List.any_nil, Bool.or_false, Bool.or_false]
    cases kind with
    | record e =>
      cases e with
      | comment => exact takes_comments hcomments x
      | blogPost | author | tag | article | reply | thread | digest => rfl
    | articleTag | threadTopic | digestFeatured | digestHidden => rfl
  | thread =>
    obtain ⟨replies, topics, rfl, -⟩ := collected_thread hc
    cases kind with
    | record e =>
      cases e with
      | reply => exact (Bool.or_false _).trans (satisfies_parent rfl)
      | blogPost | author | comment | tag | article | thread | digest => rfl
    | threadTopic => exact (Bool.or_false _).trans (satisfies_number rfl)
    | articleTag | digestFeatured | digestHidden => rfl
  | digest =>
    obtain ⟨entries, featured, hidden, rfl, -⟩ := collected_digest hc
    cases kind with
    | record e =>
      cases e with
      | reply => exact (Bool.or_false _).trans (satisfies_parent rfl)
      | blogPost | author | comment | tag | article | thread | digest => rfl
    | digestFeatured => exact (Bool.or_false _).trans (satisfies_number rfl)
    | digestHidden => exact (Bool.or_false _).trans (satisfies_number rfl)
    | articleTag | threadTopic => rfl
  | blogPost | author | comment | tag | reply =>
    obtain rfl := pending_eq_nil rfl hc
    rfl

/-- Preparing a record changes neither its key nor what is deleted for it. -/
theorem discards_prepared {s : Store Kind} {locked : Bool × Record e} {prepared : Record e} {referred : Store Kind}
    (hc : List.Forall₂ (Collected m) (Bindings.links e) pending) (locks : Locks .unlimited s e row locked)
    (prepares : prepare pending locked.2 ⟨s, .unlimited, ()⟩ = (.ok prepared, ⟨referred, .unlimited, ()⟩))
    (x : Row kind) :
    (!(record (Kind.record e)).keyIsEmpty prepared && e.discards prepared m kind x) =
      (!(record (Kind.record e)).keyIsEmpty row && e.discards row m kind x) := by
  cases e with
  | article =>
    obtain ⟨_, _, rfl⟩ := locks
    cases writer_prepared hc prepares <;> rfl
  | thread =>
    obtain ⟨_, _, rfl⟩ := locks
    obtain ⟨replies, topics, rfl, -⟩ := collected_thread hc
    cases prepares
    rfl
  | digest =>
    obtain ⟨_, _, rfl⟩ := locks
    obtain ⟨entries, featured, hidden, rfl, -⟩ := collected_digest hc
    cases prepares
    rfl
  | blogPost | author | comment | tag | reply =>
    exact (Bool.and_false _).trans (Bool.and_false _).symm

theorem rows_of_cleaned {s t : Store Kind} (h : Cleaned (e := e) m s t) :
    ∃ row, Converts e m row ∧ ∀ kind, t.rows kind = e.cleaned row m s kind := by
  obtain ⟨row, pending, locked, prepared, referred, converts, collected, locks, prepares, prunes⟩ := h
  have links : ∀ p ∈ pending, p.link ∈ Bindings.links e := fun _ hp => link_mem_of_collected collected hp
  refine ⟨row, converts, fun kind => ?_⟩
  rw [rows_prune links prunes, rows_of_prepare collected prepares]
  refine List.filter_congr fun x _ => congrArg not ?_
  rw [any_takes collected]
  exact discards_prepared collected locks prepares x

end

/-! ## What is left -/

/-- A call that fails because its own hook rejects answers with that, and leaves the store as it was; only
right before the row of an update is saved, a provided writer is stored already, and the rows are deleted
that the strategies discard. -/
theorem vetoed_by_hook {σ : Type} (hooks : Hooks Entity σ) (quiet : hooks.Quiet)
    (world : World Kind σ) (call : Call Entity) (point text : String) (own : point ∈ call.phases)
    (rejected : (call.journal hooks world).getLast? = some ⟨point, some text⟩) :
    let after := call.act hooks world
    after.1 = .error (.hook text) ∧
      (point ≠ "before_strict_update_save" → after.2.store = world.store) ∧
      (point = "before_strict_update_save" → ∃ e m row, call = .strictUpdate e (some m) ∧
        Converts e m row ∧ ∀ kind, after.2.store.rows kind = e.cleaned row m world.store kind) := by
  obtain ⟨answer, spares⟩ := Call.vetoed quiet own rejected
  refine ⟨answer, spares.same, fun save => ?_⟩
  obtain ⟨e, m, update, cleaned⟩ := spares.cleaned save
  obtain ⟨row, converts, rows⟩ := rows_of_cleaned cleaned
  exact ⟨e, m, row, update, converts, rows⟩

/-- An update that takes the reply and the topic from the thread of `openingCalls`. -/
def retitling : Call Entity := .strictUpdate .thread (some (⟨3, "On time", [], []⟩ : Thread))

/-- Hooks that reject an update of a thread right before its row is saved. -/
def lateVeto : Hooks Entity (List String) :=
  (Script.rejecting ["Thread.before_strict_update_save"]).hooks Entity.name

/-- The thread keeps its title, but its reply and the link to its topic are deleted already. -/
theorem cleaned_before_veto :
    let world : World Kind (List String) := ⟨run (Store.empty oddUuid) openingCalls, .unlimited, []⟩
    let after := retitling.act lateVeto world
    lateVeto.Quiet ∧
      (retitling.journal lateVeto world).getLast? = some ⟨"before_strict_update_save",
        some "rejected by Thread.before_strict_update_save"⟩ ∧
      after.1 = .error (.hook "rejected by Thread.before_strict_update_save") ∧
      (after.2.store.rows (.record .thread)).map ThreadRecord.title = ["On stores"] ∧
      ¬∀ kind, (after.2.store.rows kind).Perm (world.store.rows kind) := by
  intro world after
  have quiet : lateVeto.Quiet := Script.quiet_rejecting _ _
  have heard : (retitling.journal lateVeto world).getLast? = some ⟨"before_strict_update_save",
      some "rejected by Thread.before_strict_update_save"⟩ := by decide +kernel
  have none : after.2.store.rows (.record .reply) = [] := by decide +kernel
  have one : (world.store.rows (.record .reply)).length = 1 := by decide +kernel
  refine ⟨quiet, heard, (Call.vetoed quiet (by decide) heard).1, by decide +kernel, fun same => ?_⟩
  have perm := same (.record .reply)
  rw [none, List.nil_perm] at perm
  rw [perm] at one
  cases one

/-- Hooks that reject the message that a patch is about to save. -/
def patchVeto : Hooks Entity (List String) :=
  (Script.rejecting ["Thread.before_patch_save"]).hooks Entity.name

theorem vetoed_by_patchVeto :
    let world : World Kind (List String) := ⟨run (Store.empty oddUuid) openingCalls, .unlimited, []⟩
    let patching : Call Entity := .patch .thread (some (⟨3, "On time", [], []⟩ : Thread)) ["Replies"]
    (world.store.rows (.record .reply)).length = 1 ∧
      (patching.act patchVeto world).1 = .error (.hook "rejected by Thread.before_patch_save") ∧
      (patching.act patchVeto world).2.store = world.store ∧
      (retitling.act lateVeto world).1 =
        .error (.hook "rejected by Thread.before_strict_update_save") ∧
      ∀ kind, (retitling.act lateVeto world).2.store.rows kind =
        Entity.thread.cleaned (⟨3, "On time"⟩ : ThreadRecord) (⟨3, "On time", [], []⟩ : Thread)
          world.store kind := by
  intro world patching
  have one : (world.store.rows (.record .reply)).length = 1 := by decide +kernel
  obtain ⟨answer, same, -⟩ := vetoed_by_hook patchVeto (Script.quiet_rejecting _ _) world patching
    "before_patch_save" "rejected by Thread.before_patch_save" (by decide) (by decide +kernel)
  obtain ⟨late, -, cleaned⟩ := vetoed_by_hook lateVeto (Script.quiet_rejecting _ _) world retitling
    "before_strict_update_save" "rejected by Thread.before_strict_update_save" (by decide)
    (by decide +kernel)
  obtain ⟨e, m, row, update, converts, rows⟩ := cleaned rfl
  cases update
  obtain rfl : (⟨3, "On time"⟩ : ThreadRecord) = row := Except.ok.inj converts
  exact ⟨one, answer, same (by decide), late, rows⟩

end ProtoStore.Blog
