import ProtoStore.Proofs.Blog.Conversion
import ProtoStore.Proofs.Blog.Links
import ProtoStore.Proofs.Domain.Mask
import ProtoStore.Proofs.Domain.Run

/-!
# Keys stay distinct and rows convertible

Whatever operations are called, with what arguments and in what order, and whether they succeed, fail or are
cut off between two calls of the store: no two rows of a kind have the same key, and every row of a message has
a message (`distinct_and_convertible_run`). The discipline `faithful` says so of single steps.
-/

namespace ProtoStore.Blog

open Domain

/-! ## Single steps -/

theorem faithful_setKey {kind : Kind} {row : Row kind} (key : (record kind).Key)
    (h : Faithful kind row) : Faithful kind ((record kind).setKey key row) := by
  cases kind with
  | record e => cases e <;> exact h
  | articleTag | threadTopic | digestFeatured | digestHidden => trivial

theorem faithful_keepParents {e : Entity} {keep : e.Record → e.Record → e.Record}
    {stored row : e.Record} (hk : e.keepParents? = some keep) (h : Faithful (.record e) row) :
    Faithful (.record e) (keep stored row) := by
  cases e with
  | comment | reply => cases hk; exact h
  | blogPost | author | tag | article | thread | digest => cases hk

theorem addressable_article_copy {source target : Article}
    (hs : Entity.article.Addressable source) (ht : Entity.article.Addressable target) :
    ∀ field ∈ Article.maskFields, Entity.article.Addressable (field.copy source target) := by
  simp only [Article.maskFields, List.forall_mem_cons, MaskField.whole, MaskField.holding]
  exact ⟨ht, ht, ht, ht, ht, ht, ht, ht, hs, ht, fun _ h => nomatch h⟩

theorem addressable_article_merge {source target : Article}
    (ht : Entity.article.Addressable target) :
    ∀ field ∈ Article.maskFields, ∀ merge ∈ field.merge?, ∀ paths root,
      Entity.article.Addressable (merge paths root source target) := by
  intro field hf merge hm paths root
  simp only [Article.maskFields, List.mem_cons, List.not_mem_nil, or_false] at hf
  rcases hf with rfl | rfl | rfl | rfl | rfl | rfl | rfl | rfl | rfl | rfl
  case inr.inr.inl =>
    cases hm
    dsimp only
    split <;> exact ht
  all_goals cases hm

theorem addressable_apply {e : Entity} {source target : e.Message} (mask : List String)
    (hs : e.Addressable source) (ht : e.Addressable target) :
    e.Addressable (Mask.apply e.maskFields mask "" source target) := by
  cases e with
  | article =>
    exact Mask.apply_keeps (P := Entity.article.Addressable)
      (fun field hf x hx => addressable_article_copy hs hx field hf)
      (fun field hf merge hm paths root x hx =>
        addressable_article_merge hx field hf merge hm paths root) mask "" ht
  | blogPost | author | comment | tag | reply | thread | digest => trivial

/-- Rows that are written read back. -/
def faithful : Discipline Entity where
  admits := Entity.Addressable
  allows _ := Faithful
  holds _ _ _ := True
  leads _ _ := True
  yields _ := True
  refl _ := trivial
  trans _ _ := trivial
  allows_mono _ h := h
  holds_mono _ h := h
  leads_draw _ := trivial
  leads_see _ _ := trivial
  leads_put _ _ := trivial
  leads_delete _ _ _ := trivial
  allows_setKey _ h := faithful_setKey _ h
  holds_put _ _ _ := trivial
  record _ ha h := faithful_of_fillRecord ha h
  message h hm := by
    obtain ⟨m, he, ha, -⟩ := fillMessage_faithful h
    cases he.symm.trans hm
    exact ha
  keep hk _ h := faithful_keepParents hk h
  masked mask hs ht := addressable_apply mask hs ht
  get_reference hl _ _ _ := forall_reference
    (P := fun _ link => ∀ t, Entity.Addressable link.target t) (fun _ => trivial) hl _
  set_reference {e link m t} hl := forall_reference
    (P := fun e link => ∀ (m : e.Message) t, e.Addressable m → e.Addressable (link.set t m))
    (fun _ _ h => h) hl m t
  assign {s e link row target} hl _ := forall_reference
    (P := fun e link => ∀ (row : e.Record) t, Faithful (.record e) row →
      Faithful (.record e) (link.assign t row)) (fun _ _ h => h) hl row target
  get_children hl _ _ _ := forall_children
    (P := fun _ link => ∀ t, Entity.Addressable link.target t)
    (fun _ => trivial) (fun _ => trivial) (fun _ => trivial) hl _
  set_children {e link m ts} hl := forall_children
    (P := fun e link => ∀ (m : e.Message) ts, e.Addressable m → e.Addressable (link.set ts m))
    (fun _ _ h => h) (fun _ _ h => h) (fun _ _ h => h) hl m ts
  yields_children _ := trivial
  attach {s e link parent row} hl _ _ := forall_children
    (P := fun e link => ∀ (parent : e.Record) row, Faithful (.record link.target) row →
      Faithful (.record link.target) (link.attach parent row))
    (fun _ _ h => h) (fun _ _ h => h) (fun _ _ h => h) hl parent row
  get_joined hl _ _ _ := forall_joined
    (P := fun _ link => ∀ t, Entity.Addressable link.target t)
    (fun _ => trivial) (fun _ => trivial) (fun _ => trivial) (fun _ => trivial) hl _
  set_joined {e link m ts} hl := forall_joined
    (P := fun e link => ∀ (m : e.Message) ts, e.Addressable m → e.Addressable (link.set ts m))
    (fun _ _ h => h) (fun _ _ h => h) (fun _ _ h => h) (fun _ _ h => h) hl m ts
  yields_joined _ := trivial
  join {s e link owner target} hl _ _ _ := forall_joined
    (P := fun e link => ∀ owner target, Faithful link.join (link.link owner target))
    (fun _ _ => trivial) (fun _ _ => trivial) (fun _ _ => trivial) (fun _ _ => trivial) hl owner target

/-! ## Runs -/

theorem faithful_run (fresh : Nat → Uuid) {calls : List (Context × Call Entity)}
    (h : ∀ call ∈ calls, call.2.Writes Entity.Addressable) :
    faithful.Inv (run (Store.empty fresh : Store Kind) calls) := by
  refine (faithful.inv_empty_run fresh h fun call _ => ?_).1
  cases call.2 <;> trivial

theorem toMessage_of_faithful {e : Entity} {row : e.Record} (h : Faithful (.record e) row)
    (world : World Kind Unit) :
    ∃ message, (Operations.toMessage Hooks.none e row world).1 = .ok message := by
  obtain ⟨message, hm, -, -⟩ := fillMessage_faithful h
  rw [Operations.toMessage_none]
  exact ⟨message, hm⟩

/-- In every store that calls leave, keys are distinct and all rows of messages convert back. The context of a
call may end at any moment, so this goes for every store between two writes of a call. -/
theorem distinct_and_convertible_run (fresh : Nat → Uuid) (calls : List (Context × Call Entity))
    (h : ∀ call ∈ calls, call.2.Writes Entity.Addressable) :
    let store : Store Kind := run (Store.empty fresh) calls
    store.Distinct ∧ ∀ (e : Entity), ∀ row ∈ store.rows (.record e), ∀ world,
      ∃ message, (Operations.toMessage Hooks.none e row world).1 = .ok message := by
  have inv := faithful_run fresh h
  exact ⟨inv.distinct, fun e row hm world => toMessage_of_faithful (inv.allowed hm) world⟩

/-- A run of two calls, the first of which stores rows in five tables; the second fails. -/
def draftCalls : List (Context × Call Entity) := [
  (.unlimited, .create .article (some { (default : Article) with
    title := "On stores", writer := some ⟨0, "Ada", none⟩, comments := [⟨0, "Yes.", ["new"]⟩]
    tags := [⟨"a", "A"⟩, ⟨"b", "B"⟩], keywords := ["x"], meta_ := some ⟨"draft", 2⟩ })),
  (.unlimited, .create .tag (some (⟨"a", "again"⟩ : Tag)))]

/-- An article whose creation is stopped when its writer and its row are stored. -/
def stoppedCalls : List (Context × Call Entity) := draftCalls ++ [
  (.withTimeout 2, .create .article (some { (default : Article) with
    title := "On time", writer := some ⟨0, "Bo", none⟩, comments := [⟨0, "No.", []⟩], tags := [⟨"c", "C"⟩] }))]

theorem distinct_and_convertible_stopped :
    let store : Store Kind := run (Store.empty fun n => ⟨.ofNat 128 (n + 1)⟩) stoppedCalls
    (∀ call ∈ stoppedCalls, call.2.Writes Entity.Addressable) ∧
      (store.rows (.record .article)).length = 2 ∧ (store.rows (.record .author)).length = 2 ∧
        (store.rows (.record .comment)).length = 1 ∧ (store.rows .articleTag).length = 2 ∧
          store.Distinct ∧ ∀ (e : Entity), ∀ row ∈ store.rows (.record e), ∀ world,
            ∃ message, (Operations.toMessage Hooks.none e row world).1 = .ok message := by
  have writes : ∀ call ∈ stoppedCalls, call.2.Writes Entity.Addressable := by
    simp [stoppedCalls, draftCalls, Call.Writes, Entity.Addressable, Metadata.Addressable]
    decide
  exact ⟨writes, by decide +kernel, by decide +kernel, by decide +kernel, by decide +kernel,
    distinct_and_convertible_run _ _ writes⟩

end ProtoStore.Blog
