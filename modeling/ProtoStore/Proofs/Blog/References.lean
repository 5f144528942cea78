import ProtoStore.Proofs.Blog.Conversion
import ProtoStore.Proofs.Blog.Links
import ProtoStore.Proofs.Domain.Run

/-!
# References lead to stored rows

`references row` : the rows that a row points to, by their kinds and keys. As long as no rows are
deleted that others point to, every reference leads to a stored row (`references_held_run`), also where
an operation stops between two writes. The discipline `referential` says so of single steps, for all rows
or for some join rows.
-/

namespace ProtoStore.Blog

open Domain Store

/-- The rows that a row points to. -/
def references : (kind : Kind) → Row kind → List (Kind × Value)
  | .record .article, (r : ArticleRecord) =>
    r.writerId.toList.map fun id => (.record .author, toValue id)
  | .record .comment, (r : CommentRecord) =>
    r.articleId.toList.map fun id => (.record .article, toValue id)
  | .record .reply, (r : ReplyRecord) =>
    r.threadId.toList.map (fun id => (.record .thread, toValue id)) ++
      r.digestId.toList.map fun id => (.record .digest, toValue id)
  | .articleTag, (r : ArticleTag) =>
    [(.record .article, toValue r.articleId), (.record .tag, toValue r.tagId)]
  | .threadTopic, (r : ThreadTopic) =>
    [(.record .thread, toValue r.threadId), (.record .tag, toValue r.tagId)]
  | .digestFeatured, (r : DigestTag) | .digestHidden, (r : DigestTag) =>
    [(.record .digest, toValue r.digestId), (.record .tag, toValue r.tagId)]
  | .record .blogPost, _ | .record .author, _ | .record .tag, _ | .record .thread, _
  | .record .digest, _ => []

/-- The messages whose rows others point to. -/
def Entity.targets : List Entity := [author, tag, article, thread, digest]

/-- The kinds of those rows. -/
def Kind.targets : List Kind := Entity.targets.map .record

theorem mem_targets_of_references {kind : Kind} {row : Row kind} {reference : Kind × Value}
    (h : reference ∈ references kind row) : reference.1 ∈ Kind.targets := by
  have targets : Kind.targets = [.record .author, .record .tag, .record .article, .record .thread,
    .record .digest] := rfl
  rw [targets]
  rcases kind with (_ | _ | _ | _ | _ | _ | _ | _) | _ | _ | _ | _ <;>
    simp only [references, List.mem_append, List.mem_map, List.mem_cons, List.not_mem_nil,
      or_false] at h <;> aesop

/-! ## Stored keys -/

/-- There is a row of a kind and key. -/
def Stored (s : Store Kind) (kind : Kind) (k : Value) : Prop := k ∈ (s.rows kind).map key

variable {s t after : Store Kind} {kind : Kind}

/-- All rows that a row points to are stored. -/
def Held (s : Store Kind) (kind : Kind) (row : Row kind) : Prop :=
  ∀ reference ∈ references kind row, Stored s reference.1 reference.2

/-- Rows that others point to stay. -/
def Keeps (s t : Store Kind) : Prop := ∀ kind ∈ Kind.targets, ∀ k, Stored s kind k → Stored t kind k

theorem Held.mono {row : Row kind} (hl : Keeps s t) (h : Held s kind row) : Held t kind row :=
  fun reference hr => hl _ (mem_targets_of_references hr) _ (h reference hr)

theorem keeps_of_altered {rows : List (Row kind)} (ha : Altered s kind rows t)
    (h : kind ∈ Kind.targets → ∀ k, Stored s kind k → k ∈ rows.map key) : Keeps s t := by
  intro other ho k hk
  rw [Stored]
  by_cases e : other = kind
  · subst e
    rw [ha.rows_self]
    exact h ho k hk
  · rw [ha.rows_of_ne e]
    exact hk

theorem references_setKey {row : Row kind} {n : UInt64} {fresh : Uuid} {k : (record kind).Key}
    (h : (record kind).rowKey.generate n fresh = some k) :
    references kind ((record kind).setKey k row) = references kind row := by
  cases kind with
  | record e => cases e <;> rfl
  | articleTag | threadTopic | digestFeatured | digestHidden => cases h

theorem references_of_fillRecord {e : Entity} {m : e.Message} {row : Record e}
    (h : Bindings.fillRecord e m (Bindings.blankRecord e) = .ok row) : references (table e) row = [] := by
  cases e with
  | article =>
    obtain ⟨id, publishedAt, -, -, rfl⟩ := fillArticleRecord_ok h
    rfl
  | blogPost | author | comment | tag | reply | thread | digest => cases h; rfl

theorem references_keepParents {e : Entity} {keep : Record e → Record e → Record e}
    {stored row : Record e} (hk : Bindings.keepParents? e = some keep) :
    references (table e) (keep stored row) = references (table e) stored := by
  cases e with
  | comment | reply => cases hk; rfl
  | blogPost | author | tag | article | thread | digest => cases hk

/-! ## Single steps -/

theorem held_articleWriter {row : Record Entity.article} {target : Option (Record Entity.author)}
    (ht : ∀ t ∈ target, Stored s (.record .author) (key t)) :
    Held s (.record .article) (articleWriter.assign target row) := by
  intro reference hr
  obtain ⟨id, hid, rfl⟩ := List.mem_map.mp hr
  obtain ⟨t, hm, rfl⟩ := Option.map_eq_some_iff.mp (Option.mem_toList.mp hid)
  exact ht t hm

theorem held_articleComments {parent : Record Entity.article} {row : Record Entity.comment}
    (hp : Stored s (.record .article) (key parent)) :
    Held s (.record .comment) (articleComments.attach parent row) := by
  intro reference hr
  obtain ⟨id, hid, rfl⟩ := List.mem_map.mp hr
  have hk : key parent = toValue id := congrArg toValue (Option.mem_toList.mp hid)
  rw [hk] at hp
  exact hp

theorem held_threadReplies {parent : Record Entity.thread} {row : Record Entity.reply}
    (hp : Stored s (.record .thread) (key parent)) (hr : Held s (.record .reply) row) :
    Held s (.record .reply) (threadReplies.attach parent row) := by
  intro reference h
  rcases List.mem_append.mp h with h | h
  · obtain ⟨id, hid, rfl⟩ := List.mem_map.mp h
    cases Option.mem_toList.mp hid
    exact hp
  · exact hr reference (List.mem_append_right _ h)

theorem held_of_pair {join owner target : Kind} {row : Row join} {x : Row owner} {y : Row target}
    (hr : references join row = [(owner, key x), (target, key y)])
    (hx : Stored s owner (key x)) (hy : Stored s target (key y)) : Held s join row := by
  intro reference h
  rw [hr, List.mem_cons, List.mem_singleton] at h
  rcases h with rfl | rfl
  · exact hx
  · exact hy

/-- Which rows are to point to stored rows: all of them, or join rows only. -/
structure Watch where
  on : (kind : Kind) → Row kind → Prop
  whole : (∀ kind row, on kind row) ∨ ∀ e row, ¬on (.record e) row

namespace Watch

/-- All rows are watched. -/
def all : Watch := ⟨fun _ _ => True, Or.inl fun _ _ => trivial⟩

/-- No row is watched. -/
def none : Watch := ⟨fun _ _ => False, Or.inr fun _ _ => id⟩

/-- If the record of a message is watched, all records are. -/
theorem on_record {watch : Watch} {e : Entity} {row : Record e} (h : watch.on (table e) row)
    (row' : Record e) : watch.on (table e) row' := by
  rcases watch.whole with all | none
  · exact all _ _
  · exact absurd h (none e row)

end Watch

/-- Rows that are written and watched point to stored rows. -/
def referential (watch : Watch) : Discipline Entity where
  admits _ _ := True
  allows s kind row := watch.on kind row → Held s kind row
  holds s kind row := kind ∈ Kind.targets → Stored s kind (key row)
  leads := Keeps
  yields kind := kind ∉ Kind.targets
  refl _ _ _ _ h := h
  trans h h' kind hk k hs := h' kind hk k (h kind hk k hs)
  allows_mono hl h hw := (h hw).mono hl
  holds_mono hl h ht := hl _ ht _ (h ht)
  leads_draw _ _ _ _ h := h
  leads_see _ _ _ _ _ h := h
  leads_put altered h := keeps_of_altered altered fun _ k hk => h k hk
  leads_delete altered hy _ := keeps_of_altered altered fun ht => absurd ht hy
  allows_setKey {s kind row k} hk h hw := by
    have watched : watch.on kind row := by
      cases kind with
      | record e => exact Watch.on_record hw row
      | articleTag | threadTopic | digestFeatured | digestHidden => cases hk
    rw [Held, references_setKey hk]
    exact h watched
  holds_put {s after t kind row written rows} _ altered hw _ := by
    rw [Stored, altered.rows_self]
    exact List.mem_map_of_mem hw
  record s _ h := by
    intro _ reference hr
    rw [references_of_fillRecord h] at hr
    cases hr
  message _ _ := trivial
  keep hk hs _ := by
    intro hw reference hr
    rw [references_keepParents hk] at hr
    exact hs (Watch.on_record hw _) reference hr
  masked _ _ _ := trivial
  get_reference _ _ _ _ := trivial
  set_reference _ _ := trivial
  assign {s e link row target} hl ht _ _ := forall_reference
    (P := fun e link => ∀ (row : Record e) (target : Option (Record link.target)),
      (∀ t ∈ target, table link.target ∈ Kind.targets → Stored s (table link.target) (key t)) →
        Held s (table e) (link.assign target row))
    (fun _ _ ht => held_articleWriter fun t hm => ht t hm (by decide)) hl row target ht
  get_children _ _ _ _ := trivial
  set_children _ _ := trivial
  yields_children hl := forall_children (P := fun _ link => table link.target ∉ Kind.targets)
    (by decide) (by decide) (by decide) hl
  attach {s e link parent row} hl hs hp ha hw := forall_children
    (P := fun e link => ∀ (parent : Record e) (row : Record link.target), link.strategy ≠ .clear →
      (table e ∈ Kind.targets → Stored s (table e) (key parent)) →
        Held s (table link.target) row → Held s (table link.target) (link.attach parent row))
    (fun _ _ _ hp _ => held_articleComments (hp (by decide)))
    (fun _ _ _ hp hr => held_threadReplies (hp (by decide)) hr)
    (fun _ _ hs => absurd rfl hs) hl parent row hs hp (ha (Watch.on_record hw row))
  get_joined _ _ _ _ := trivial
  set_joined _ _ := trivial
  yields_joined hl := forall_joined (P := fun _ link => link.join ∉ Kind.targets)
    (by decide) (by decide) (by decide) (by decide) hl
  join {s e link owner target} hl _ ho ht _ := forall_joined
    (P := fun e link => ∀ (owner : Record e) (target : Record link.target),
      (table e ∈ Kind.targets → Stored s (table e) (key owner)) →
        (table link.target ∈ Kind.targets → Stored s (table link.target) (key target)) →
          Held s link.join (link.link owner target))
    (fun _ _ ho ht => held_of_pair rfl (ho (by decide)) (ht (by decide)))
    (fun _ _ ho ht => held_of_pair rfl (ho (by decide)) (ht (by decide)))
    (fun _ _ ho ht => held_of_pair rfl (ho (by decide)) (ht (by decide)))
    (fun _ _ ho ht => held_of_pair rfl (ho (by decide)) (ht (by decide))) hl owner target ho ht

/-! ## Runs -/

/-- As long as rows that others point to are not deleted, every reference leads to a stored row. The context of a
call may end at any moment, so this goes for every store between two writes of a call: what a row points to is
stored before the row. -/
theorem references_held_run (fresh : Nat → Uuid) (calls : List (Context × Call Entity))
    (h : ∀ call ∈ calls, call.2.Deletes (· ∉ Entity.targets)) :
    let store : Store Kind := run (Store.empty fresh) calls
    ∀ (kind : Kind), ∀ row ∈ store.rows kind, ∀ reference ∈ references kind row,
      ∃ other ∈ store.rows reference.1, key other = reference.2 := by
  intro store kind row hm reference hr
  have inv : (referential .all).Inv store := by
    refine ((referential .all).inv_empty_run fresh (fun call _ => ?_) fun call hc => ?_).1
    · exact Call.Writes.of_forall (fun _ _ => trivial) call.2
    · refine (h call hc).mono fun e he hk => he ?_
      obtain ⟨other, ho, heq⟩ := List.mem_map.mp hk
      cases heq
      exact ho
  have held : Held store kind row := inv.allowed hm trivial
  exact List.mem_map.mp (held reference hr)

/-- A run of three calls. The second takes the only reply from the thread that the first stores; the third is
stopped when a writer and an article are stored. -/
def threadCalls : List (Context × Call Entity) := [
  (.unlimited, .create .thread (some (⟨0, "on keys", [⟨0, "first"⟩], [⟨"a", "A"⟩]⟩ : Thread))),
  (.unlimited, .delete .reply (some (⟨2, ""⟩ : Reply))),
  (.withTimeout 2, .create .article (some { (default : Article) with
    title := "On time", writer := some ⟨0, "Bo", none⟩, comments := [⟨0, "No.", []⟩] }))]

theorem references_held_thread :
    let store : Store Kind := run (Store.empty fun _ => .nil) threadCalls
    (∀ call ∈ threadCalls, call.2.Deletes (· ∉ Entity.targets)) ∧
      (store.rows (.record .reply)).length = 0 ∧ (store.rows .threadTopic).length = 1 ∧
        (store.rows (.record .author)).map AuthorRecord.id = [3] ∧
        (store.rows (.record .article)).map ArticleRecord.writerId = [some 3] ∧
        (store.rows (.record .comment)).length = 0 ∧
        ∀ (kind : Kind), ∀ row ∈ store.rows kind, ∀ reference ∈ references kind row,
          ∃ other ∈ store.rows reference.1, key other = reference.2 := by
  have deletes : ∀ call ∈ threadCalls, call.2.Deletes (· ∉ Entity.targets) := by
    simp [threadCalls, Call.Deletes, Entity.targets]
  exact ⟨deletes, by decide +kernel, by decide +kernel, by decide +kernel, by decide +kernel, by decide +kernel,
    references_held_run _ _ deletes⟩

end ProtoStore.Blog
