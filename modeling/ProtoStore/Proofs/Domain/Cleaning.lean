import ProtoStore.Proofs.Domain.Frame
import ProtoStore.Proofs.Domain.Repeat

/-!
# Rows that an update deletes

Before the row of a message is saved, the rows of its links are deleted that their strategies do not
keep. `Pending.takes` says which these are, and `rows_prune` that exactly these are gone. So right after
that no join rows are left that a strategy removes (`not_linked_of_prune`).
-/

namespace ProtoStore.Domain.Operations

open Store Domain.Action

variable {E K σ : Type} [DecidableEq K] [Catalog K] [Bindings E K] {e : E} {row : Record e}
  {pending : List (Pending e)} {world last : World K σ} {kind : K}

/-- Whether a row is deleted when a link of another row is pruned. -/
def Pending.takes (row : Record e) (kind : K) (x : Row kind) : Pending e → Bool
  | .reference _ _ => false
  | .children link rows => decide (kind = table link.target) &&
    (prunedChildren (table link.target) link.strategy link.column (keyOf e row) rows).any
      fun query => (record kind).satisfies query.conditions x
  | .joined link _ => decide (kind = link.join) && (decide (link.strategy ≠ .append) &&
    (record kind).satisfies [.eq link.ownerColumn (keyOf e row)] x)

omit [DecidableEq K] in
theorem link_mem_of_collected {message : Message e} {links : List (MessageLink e)} {p : Pending e}
    (collected : List.Forall₂ (Collected message) links pending) (hp : p ∈ pending) : p.link ∈ links := by
  obtain ⟨link, hl, hc⟩ := exists_of_forall₂ collected hp
  cases hc <;> exact hl

/-- For a link only rows of the kinds are deleted that it prunes. -/
theorem Pending.takes_of_not_mem {p : Pending e} (h : kind ∉ p.prunes) (x : Row kind) :
    p.takes row kind x = false := by
  cases p with
  | reference link target => rfl
  | children link rows =>
    have apart : kind ≠ table link.target := List.ne_of_not_mem_cons h
    rw [Pending.takes, decide_eq_false apart, Bool.false_and]
  | joined link rows =>
    have apart : kind ≠ link.join := List.ne_of_not_mem_cons h
    rw [Pending.takes, decide_eq_false apart, Bool.false_and]

/-- A strategy that drops all children deletes them. -/
theorem Pending.takes_children {x : Row kind} {link : Children e} {rows : List (Record link.target)}
    (hs : link.strategy = .clear) (same : kind = table link.target)
    (linked : Linked kind link.column (keyOf e row) x) : (children link rows).takes row kind x = true := by
  subst same
  simp only [Pending.takes, hs, prunedChildren, decide_true, Bool.true_and, Option.any_some]
  exact linked

/-- Join rows that are not kept are deleted. -/
theorem Pending.takes_joined {x : Row kind} {link : Joined e} {rows : List (Record link.target)}
    (hs : link.strategy ≠ .append) (same : kind = link.join)
    (linked : Linked kind link.ownerColumn (keyOf e row) x) :
    (joined link rows).takes row kind x = true := by
  subst same
  simp only [Pending.takes, decide_true, Bool.true_and, decide_eq_true hs]
  exact linked

theorem rows_deleteSome {s t : Store K} {table : K} {context : Context} {query : Option Query} {n : Nat}
    (reads : ∀ q ∈ query, (record table).Reads q.conditions)
    (h : s.deleteSome context table query = .ok (t, n)) :
    t.rows kind = (s.rows kind).filter fun x =>
      !(decide (kind = table) && query.any fun q => (record kind).satisfies q.conditions x) := by
  cases query with
  | none =>
    cases h
    simp
  | some query =>
    obtain ⟨chosen, others, split, -, altered, -⟩ := delete_ok h
    rw [RecordType.split_eq (reads query rfl), Except.ok.injEq, Prod.mk.injEq] at split
    obtain ⟨-, rfl⟩ := split
    by_cases same : kind = table
    · subst same
      simp [altered.rows_self]
    · simp [altered.rows_of_ne same, same]

variable [Loadable E]

omit [DecidableEq K] in
/-- Only children that are linked to a parent are pruned. -/
theorem linked_of_prunedChildren {target : E} {strategy : Strategy} {column : String} {k : Value}
    {kept : List (Record target)} {query : Query} (hc : HasColumn (table target) column)
    (h : query ∈ prunedChildren (table target) strategy column k kept) :
    (record (table target)).Reads query.conditions ∧ ∀ x,
      (record (table target)).satisfies query.conditions x = true → Linked (table target) column k x := by
  have linked : (record (table target)).Reads (linkedBy column k).conditions ∧ ∀ x,
      (record (table target)).satisfies (linkedBy column k).conditions x = true →
        Linked (table target) column k x := ⟨reads_of_hasColumn hc, fun _ h => h⟩
  cases strategy with
  | append => cases h
  | default | clear => cases h; exact linked
  | replace =>
    unfold prunedChildren at h
    dsimp only at h
    split at h
    · cases h
      exact linked
    · cases h
      refine ⟨fun condition hm => ?_, fun x hx => ?_⟩
      · rcases List.mem_cons.mp hm with rfl | hm
        · exact hc
        · rw [List.mem_singleton.mp hm]
          exact hasColumn_key target
      · obtain ⟨met, -⟩ := Bool.and_eq_true_iff.mp ((RecordType.satisfies_cons _ _ x).symm.trans hx)
        exact (Bool.and_true _).trans met

omit [DecidableEq K] in
/-- A replacing strategy deletes the children that are not provided again. -/
theorem any_prunedChildren {target : E} (column : String) (k : Value) (kept : List (Record target))
    (x : Record target) : ((prunedChildren (table target) .replace column k kept).any fun query =>
      (record (table target)).satisfies query.conditions x) =
        ((record (table target)).satisfies [.eq column k] x &&
          !((record (table target)).keyValue x).isIn (presentKeys kept)) := by
  unfold prunedChildren
  dsimp only
  cases presentKeys kept with
  | nil =>
    rw [show ((record (table target)).keyValue x).isIn [] = false from rfl, Bool.not_false, Bool.and_true]
    rfl
  | cons k keys =>
    have key : (record (table target)).satisfies
        [.notIn (record (table target)).keyColumn (k :: keys)] x =
          !((record (table target)).keyValue x).isIn (k :: keys) := by
      rw [satisfies_singleton, Condition.column, KeyColumns.value?, Option.getD_some, Condition.holds]
    rw [← key]
    exact List.all_append

omit [DecidableEq K] in
theorem reads_prunedLinks {link : Joined e} (hl : .joined link ∈ Bindings.links e) (k : Value) :
    ∀ q ∈ (if link.strategy = .append then none else some (linkedBy link.ownerColumn k)),
      (record link.join).Reads q.conditions := by
  intro q hq
  split at hq <;> cases hq
  exact reads_of_hasColumn (Loadable.joined hl)

theorem rows_pruneOne {p : Pending e} (hl : p.link ∈ Bindings.links e)
    (h : pruneOne row p world = (.ok (), last)) :
    last.store.rows kind = (world.store.rows kind).filter fun x => !p.takes row kind x := by
  unfold pruneOne at h
  cases p with
  | reference link target =>
    cases h
    simp [Pending.takes]
  | children link rows =>
    obtain ⟨t, n, removed, rfl⟩ := remove_ok.mp h
    exact rows_deleteSome (fun q hq => (linked_of_prunedChildren (Loadable.children hl) hq).1) removed
  | joined link rows =>
    obtain ⟨t, n, removed, rfl⟩ := remove_ok.mp h
    rw [rows_deleteSome (reads_prunedLinks hl (keyOf e row)) removed]
    refine List.filter_congr fun x _ => ?_
    unfold Pending.takes
    by_cases hs : link.strategy = .append
    · simp [hs]
    · simp [hs, linkedBy, Query.filter, Query.all]

theorem rows_prune (hl : ∀ p ∈ pending, p.link ∈ Bindings.links e)
    (h : prune pending row world = (.ok (), last)) :
    last.store.rows kind = (world.store.rows kind).filter fun x =>
      !(!(record (table e)).keyIsEmpty row && pending.any fun p => p.takes row kind x) := by
  unfold prune at h
  split at h
  · next empty =>
    cases h
    simp [empty]
  · next keyed =>
    simp only [Bool.eq_false_iff.mpr keyed, Bool.not_false, Bool.true_and]
    clear keyed
    induction pending generalizing world with
    | nil =>
      cases h
      simp
    | cons p pending ih =>
      obtain ⟨first, rest⟩ := List.forall_mem_cons.mp hl
      obtain ⟨_, after, one, others⟩ := bind_ok.mp h
      rw [ih rest others, rows_pruneOne first one, List.filter_filter]
      refine List.filter_congr fun x _ => ?_
      rw [List.any_cons, Bool.not_or, Bool.and_comm]

/-- Where a strategy removes join rows, none of the owner is left after pruning. -/
theorem not_linked_of_prune {link : Joined e} {rows : List (Record link.target)}
    (hl : ∀ p ∈ pending, p.link ∈ Bindings.links e) (h : prune pending row world = (.ok (), last))
    (keyed : (record (table e)).keyIsEmpty row = false) (hp : .joined link rows ∈ pending)
    (hs : link.strategy ≠ .append) :
    ∀ x ∈ last.store.rows link.join, ¬Linked link.join link.ownerColumn (keyOf e row) x := by
  intro x hx linked
  have taken : (pending.any fun p => p.takes row link.join x) = true :=
    List.any_eq_true.mpr ⟨_, hp, Pending.takes_joined hs rfl linked⟩
  rw [rows_prune hl h, List.mem_filter, keyed, taken] at hx
  cases hx.2

end ProtoStore.Domain.Operations
