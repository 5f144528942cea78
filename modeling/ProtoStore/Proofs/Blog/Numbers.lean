import ProtoStore.Proofs.Blog.Conversion
import ProtoStore.Proofs.Blog.Links
import ProtoStore.Proofs.Domain.Run
import ProtoStore.Proofs.Store.NewKeys

/-!
# Numbers in use

As long as the running number has not come past its end (`Unexhausted`), no row has an empty key, and no
number in use is greater than it: not that of a row, nor that of the thread of a reply or the owner of a
join row, which may be gone already. A new number is therefore one that nothing points to. The discipline
`numbered` says so of single steps, and that the links which no update stores stay empty: no reply is in a
digest, and no digest hides a tag.
-/

namespace ProtoStore.Blog

open Domain Store

/-- The running number has not begun again, and new identifiers are not nil. -/
def Unexhausted (s : Store Kind) : Prop :=
  s.sequence < UInt64.size ∧ ∀ n, (s.fresh n).isNil = false

/-- The number that a value is, if it is one. -/
def number : Value → Nat
  | .uint n => n.toNat
  | _ => 0

/-- What rows may hold, where `sequence` is the running number. -/
def Admissible (sequence : Nat) : (kind : Kind) → Row kind → Prop
  | .record .reply, (r : ReplyRecord) => r.digestId = none ∧ ∀ n ∈ r.threadId, n.toNat ≤ sequence
  | .record .article, (r : ArticleRecord) => r.writerId ≠ some 0
  | .threadTopic, (r : ThreadTopic) => r.threadId.toNat ≤ sequence
  | .digestFeatured, (r : DigestTag) => r.digestId.toNat ≤ sequence
  | .digestHidden, _ => False
  | .record .blogPost, _ | .record .author, _ | .record .comment, _ | .record .tag, _
  | .record .thread, _ | .record .digest, _ | .articleTag, _ => True

variable {s t after : Store Kind} {kind : Kind} {sequence sequence' : Nat}

theorem Admissible.mono {row : Row kind} (hs : sequence ≤ sequence')
    (h : Admissible sequence kind row) : Admissible sequence' kind row := by
  cases kind with
  | record e =>
    cases e with
    | reply => exact ⟨h.1, fun n hn => Nat.le_trans (h.2 n hn) hs⟩
    | article => exact h
    | blogPost | author | comment | tag | thread | digest => trivial
  | articleTag => trivial
  | threadTopic | digestFeatured => exact Nat.le_trans h hs
  | digestHidden => exact h

theorem admissible_setKey {row : Row kind} {n : UInt64} {fresh : Uuid} {k : (record kind).Key}
    (hk : (record kind).rowKey.generate n fresh = some k) (h : Admissible sequence kind row) :
    Admissible sequence kind ((record kind).setKey k row) := by
  cases kind with
  | record e => cases e <;> exact h
  | articleTag | threadTopic | digestFeatured | digestHidden => cases hk

theorem admissible_of_fillRecord {e : Entity} {m : e.Message} {row : Record e}
    (h : Bindings.fillRecord e m (Bindings.blankRecord e) = .ok row) :
    Admissible sequence (table e) row := by
  cases e with
  | article =>
    obtain ⟨id, publishedAt, -, -, rfl⟩ := fillArticleRecord_ok h
    exact nofun
  | reply => cases h; exact ⟨rfl, nofun⟩
  | blogPost | author | comment | tag | thread | digest => trivial

theorem admissible_keepParents {e : Entity} {keep : Record e → Record e → Record e}
    {stored row : Record e} (hk : Bindings.keepParents? e = some keep)
    (h : Admissible sequence (table e) stored) : Admissible sequence (table e) (keep stored row) := by
  cases e with
  | reply => cases hk; exact h
  | comment => trivial
  | blogPost | author | tag | article | thread | digest => cases hk

/-! ## Running numbers -/

theorem number_le_observe (sequence : Nat) (k : Value) : number k ≤ observe sequence k := by
  unfold number
  split
  · exact toNat_le_reach sequence _
  · exact Nat.zero_le _

/-- A new key is not empty, and is not greater than the running number. -/
theorem new_key {row : Row kind} {k : (record kind).Key} (hs : sequence + 1 < UInt64.size)
    {fresh : Uuid} (hf : fresh.isNil = false)
    (hk : (record kind).rowKey.generate (.ofNat (sequence + 1)) fresh = some k) :
    (record kind).keyIsEmpty ((record kind).setKey k row) = false ∧
      number (key ((record kind).setKey k row)) ≤ sequence + 1 := by
  obtain ⟨toNat, h0⟩ := next_number hs
  have ne : (UInt64.ofNat (sequence + 1) == 0) = false := beq_false_of_ne h0
  cases kind with
  | record e =>
    cases e with
    | tag => cases hk
    | article =>
      cases hk
      exact ⟨hf, Nat.zero_le _⟩
    | blogPost | author | comment | reply | thread | digest =>
      cases hk
      exact ⟨ne, Nat.le_of_eq toNat⟩
  | articleTag | threadTopic | digestFeatured | digestHidden => cases hk

/-- A store goes on to another by giving out keys. -/
structure Counts (s t : Store Kind) : Prop where
  sequence : s.sequence ≤ t.sequence
  fresh : t.fresh = s.fresh

namespace Counts

theorem refl (s : Store Kind) : Counts s s := ⟨Nat.le_refl _, rfl⟩

theorem trans {u : Store Kind} (h : Counts s t) (h' : Counts t u) : Counts s u :=
  ⟨Nat.le_trans h.sequence h'.sequence, h'.fresh.trans h.fresh⟩

theorem unexhausted (h : Counts s t) (hu : Unexhausted t) : Unexhausted s :=
  ⟨Nat.lt_of_le_of_lt h.sequence hu.1, h.fresh ▸ hu.2⟩

theorem draw (s : Store Kind) : Counts s s.draw := ⟨Nat.le_succ _, rfl⟩

theorem see (s : Store Kind) (k : Value) : Counts s (s.see k) := ⟨le_observe _ _, rfl⟩

end Counts

theorem number_of_assignKey {row written : Row kind} (h : s.assignKey kind row = (after, .ok written))
    (hu : Unexhausted after) :
    (record kind).keyIsEmpty written = false ∧ number (key written) ≤ after.sequence := by
  rcases assignKey_ok h with ⟨keyed, rfl, rfl⟩ | ⟨-, rfl, k, hk, rfl⟩
  · exact ⟨keyed, number_le_observe _ _⟩
  · exact new_key hu.1 (hu.2 _) hk

/-! ## Single steps -/

theorem admissible_articleWriter {row : Record Entity.article} {target : Option (Record Entity.author)}
    (ht : ∀ t ∈ target, (record (table Entity.author)).keyIsEmpty t = false) :
    Admissible sequence (.record .article) (articleWriter.assign target row) := by
  intro hw
  obtain ⟨t, hm, hid⟩ := Option.map_eq_some_iff.mp hw
  have keyed : (AuthorRecord.id t == 0) = false := ht t hm
  rw [hid] at keyed
  cases keyed

/-- No number is greater than the running number, until that has come past its end. -/
def numbered : Discipline Entity where
  admits _ _ := True
  allows s kind row := Unexhausted s → Admissible s.sequence kind row
  holds s kind row :=
    Unexhausted s → (record kind).keyIsEmpty row = false ∧ number (key row) ≤ s.sequence
  leads := Counts
  yields _ := True
  refl := Counts.refl
  trans := Counts.trans
  allows_mono hl h hu := (h (hl.unexhausted hu)).mono hl.sequence
  holds_mono hl h hu :=
    ⟨(h (hl.unexhausted hu)).1, Nat.le_trans (h (hl.unexhausted hu)).2 hl.sequence⟩
  leads_draw := Counts.draw
  leads_see := Counts.see
  leads_put altered _ := ⟨Nat.le_of_eq altered.sequence.symm, altered.fresh⟩
  leads_delete altered _ _ := ⟨Nat.le_of_eq altered.sequence.symm, altered.fresh⟩
  allows_setKey {s kind row k} hk h hu :=
    admissible_setKey hk ((h ((Counts.draw s).unexhausted hu)).mono (Counts.draw s).sequence)
  holds_put {s after t kind row written rows} h altered _ hu := by
    have counts : Counts after t := ⟨Nat.le_of_eq altered.sequence.symm, altered.fresh⟩
    have numbers := number_of_assignKey h (counts.unexhausted hu)
    rwa [← altered.sequence] at numbers
  record _ _ h _ := admissible_of_fillRecord h
  message _ _ := trivial
  keep hk hs _ hu := admissible_keepParents hk (hs hu)
  masked _ _ _ := trivial
  get_reference _ _ _ _ := trivial
  set_reference _ _ := trivial
  assign {s e link row target} hl ht _ hu := forall_reference
    (P := fun e link => ∀ (row : Record e) (target : Option (Record link.target)),
      (∀ t ∈ target, (record (table link.target)).keyIsEmpty t = false) →
        Admissible s.sequence (table e) (link.assign target row))
    (fun _ _ h => admissible_articleWriter h) hl row target fun t hm => (ht t hm hu).1
  get_children _ _ _ _ := trivial
  set_children _ _ := trivial
  yields_children _ := trivial
  attach {s e link parent row} hl hs ho ha hu := forall_children
    (P := fun e link => ∀ (parent : Record e) (row : Record link.target), link.strategy ≠ .clear →
      number (key parent) ≤ s.sequence → Admissible s.sequence (table link.target) row →
        Admissible s.sequence (table link.target) (link.attach parent row))
    (fun _ _ _ _ _ => trivial)
    (fun _ _ _ hn h => ⟨h.1, fun _ hp => Option.mem_some.mp hp ▸ hn⟩)
    (fun _ _ hs => absurd rfl hs) hl parent row hs (ho hu).2 (ha hu)
  get_joined _ _ _ _ := trivial
  set_joined _ _ := trivial
  yields_joined _ := trivial
  join {s e link owner target} hl hs ho _ hu := forall_joined
    (P := fun e link => ∀ (owner : Record e) (target : Record link.target), link.strategy ≠ .clear →
      number (key owner) ≤ s.sequence → Admissible s.sequence link.join (link.link owner target))
    (fun _ _ _ _ => trivial) (fun _ _ _ h => h) (fun _ _ _ h => h) (fun _ _ hs => absurd rfl hs) hl
    owner target hs (ho hu).2

/-! ## Runs -/

theorem numbered_run (fresh : Nat → Uuid) (calls : List (Context × Call Entity)) :
    numbered.Inv (run (Store.empty fresh : Store Kind) calls) ∧
      Counts (Store.empty fresh) (run (Store.empty fresh : Store Kind) calls) := by
  refine numbered.inv_empty_run fresh (fun call _ => ?_) fun call _ => ?_
  · exact Call.Writes.of_forall (fun _ _ => trivial) call.2
  · cases call.2 <;> trivial

/-- What a run leaves is not exhausted if its running number has not come past its end. -/
theorem unexhausted_of_run {fresh : Nat → Uuid} (hf : ∀ n, (fresh n).isNil = false)
    {calls : List (Context × Call Entity)}
    (counts : Counts (run (Store.empty fresh : Store Kind) calls) t) (hs : t.sequence < UInt64.size) :
    Unexhausted t := by
  refine ⟨hs, fun n => ?_⟩
  rw [counts.fresh, (numbered_run fresh calls).2.fresh]
  exact hf n

/-- Identifiers that are all different and not nil. -/
def oddUuid (n : Nat) : Uuid := ⟨.ofNat 128 (2 * n + 1)⟩

theorem isNil_oddUuid (n : Nat) : (oddUuid n).isNil = false := by
  refine beq_false_of_ne fun e => ?_
  have bits := congrArg (fun u : Uuid => u.bits.toNat) e
  change (2 * n + 1) % 2 ^ 128 = 0 at bits
  omega

end ProtoStore.Blog
