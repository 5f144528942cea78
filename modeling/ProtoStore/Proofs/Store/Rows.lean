import Mathlib.Data.List.Induction
import Mathlib.Data.List.Nodup
import Mathlib.Data.List.Perm.Subperm
import ProtoStore.Proofs.Store.Equality
import ProtoStore.Store.Basic

/-!
# Rows of one kind

* `key row` : the value of a row's key, which tells rows apart (`sameKey_iff`);
* `replaceOrAdd` : a row put in place of another; no key comes twice (`nodup_replaceOrAdd`), which rows there are afterwards
  (`mem_replaceOrAdd`), and in which place (`replaceOrAdd_append`);
* `putAll` : several rows put one after the other, of which the last of a key stays (`mem_putAll`), and
  all stay exactly if their keys are different (`length_filter_putAll_iff`);
* `RecordType.split` : which rows meet conditions, and which do not. For conditions on existing columns it is
  a filter (`split_eq`), and in any case what it leaves is part of the rows (`sublist_of_split`);
* `RecordType.answer` : what a query shows of rows of one kind.
-/

namespace ProtoStore

namespace Store

variable {K : Type} [Catalog K] {kind : K} {row x : Row kind} {rows : List (Row kind)}

/-- The value of a row's key. -/
abbrev key {kind : K} (row : Row kind) : Value := (record kind).keyValue row

theorem eq_of_key {a b : Row kind} (h : (rows.map key).Nodup) (ha : a ∈ rows) (hb : b ∈ rows)
    (e : key a = key b) : a = b :=
  List.inj_on_of_nodup_map h ha hb e

/-! ## One row put -/

/-- Rows with `row` in place of the first of the same key, or else at the end. -/
def replaceOrAdd (row : Row kind) : List (Row kind) → List (Row kind)
  | [] => [row]
  | other :: rest => if sameKey other row then row :: rest else other :: replaceOrAdd row rest

theorem mem_replaceOrAdd_self : row ∈ replaceOrAdd row rows := by
  induction rows with
  | nil => exact List.mem_singleton_self row
  | cons other rest ih =>
    rw [replaceOrAdd]
    split
    · exact List.mem_cons_self
    · exact List.mem_cons_of_mem other ih

theorem eq_or_mem_of_mem_replaceOrAdd (h : x ∈ replaceOrAdd row rows) : x = row ∨ x ∈ rows := by
  induction rows with
  | nil => exact Or.inl (List.mem_singleton.mp h)
  | cons other rest ih =>
    rw [replaceOrAdd] at h
    split at h
    · exact (List.mem_cons.mp h).imp id (List.mem_cons_of_mem other)
    · rcases List.mem_cons.mp h with rfl | h
      · exact Or.inr List.mem_cons_self
      · exact (ih h).imp id (List.mem_cons_of_mem other)

theorem nodup_append_key (h : (rows.map key).Nodup) (hn : key row ∉ rows.map key) :
    ((rows ++ [row]).map key).Nodup := by
  rw [List.map_append, List.nodup_append]
  refine ⟨h, List.nodup_singleton _, fun a ha b hb => ?_⟩
  rw [List.mem_singleton.mp hb]
  exact fun e => hn (e ▸ ha)

variable [ExactKeys K]

theorem sameKey_iff {a b : Row kind} : sameKey a b = true ↔ key a = key b :=
  Value.same_iff (Or.inl (ExactKeys.isExact kind a))

theorem map_key_replaceOrAdd_of_mem (h : key row ∈ rows.map key) :
    (replaceOrAdd row rows).map key = rows.map key := by
  induction rows with
  | nil => cases h
  | cons other rest ih =>
    rw [replaceOrAdd]
    split
    · next hs => rw [List.map_cons, List.map_cons, sameKey_iff.mp hs]
    · next hs =>
      rw [List.map_cons] at h
      have hr := (List.mem_cons.mp h).resolve_left fun e => hs (sameKey_iff.mpr e.symm)
      rw [List.map_cons, List.map_cons, ih hr]

theorem replaceOrAdd_of_not_mem (h : key row ∉ rows.map key) :
    replaceOrAdd row rows = rows ++ [row] := by
  induction rows with
  | nil => rfl
  | cons other rest ih =>
    rw [List.map_cons, List.mem_cons, not_or] at h
    rw [replaceOrAdd, if_neg fun hs => h.1 (sameKey_iff.mp hs).symm, ih h.2, List.cons_append]

/-- A row put under a key that is there takes the place of the row of this key. -/
theorem replaceOrAdd_append {old : Row kind} {before after : List (Row kind)}
    (h : ((before ++ old :: after).map key).Nodup) (hk : key row = key old) :
    replaceOrAdd row (before ++ old :: after) = before ++ row :: after := by
  induction before with
  | nil => rw [List.nil_append, List.nil_append, replaceOrAdd, if_pos (sameKey_iff.mpr hk.symm)]
  | cons other before ih =>
    rw [List.cons_append, List.map_cons, List.nodup_cons] at h
    have apart : key other ≠ key row := fun e => h.1 <| by
      rw [e, hk, List.map_append]
      exact List.mem_append_right _ List.mem_cons_self
    rw [List.cons_append, replaceOrAdd, if_neg fun e => apart (sameKey_iff.mp e), ih h.2, List.cons_append]

theorem key_mem_replaceOrAdd {k : Value} (h : k ∈ rows.map key) :
    k ∈ (replaceOrAdd row rows).map key := by
  by_cases hk : key row ∈ rows.map key
  · rwa [map_key_replaceOrAdd_of_mem hk]
  · rw [replaceOrAdd_of_not_mem hk, List.map_append]
    exact List.mem_append_left _ h

theorem nodup_replaceOrAdd (h : (rows.map key).Nodup) : ((replaceOrAdd row rows).map key).Nodup := by
  by_cases hk : key row ∈ rows.map key
  · rwa [map_key_replaceOrAdd_of_mem hk]
  · rw [replaceOrAdd_of_not_mem hk]
    exact nodup_append_key h hk

/-- Rows of other keys stay. -/
theorem mem_replaceOrAdd_of_ne (h : x ∈ rows) (hk : key x ≠ key row) :
    x ∈ replaceOrAdd row rows := by
  induction rows with
  | nil => cases h
  | cons other rest ih =>
    rw [replaceOrAdd]
    rcases List.mem_cons.mp h with rfl | h
    · rw [if_neg fun e => hk (sameKey_iff.mp e)]
      exact List.mem_cons_self
    · split
      · exact List.mem_cons_of_mem row h
      · exact List.mem_cons_of_mem other (ih h)

theorem mem_replaceOrAdd (h : (rows.map key).Nodup) :
    x ∈ replaceOrAdd row rows ↔ x = row ∨ x ∈ rows ∧ key x ≠ key row := by
  constructor
  · intro hx
    by_cases e : x = row
    · exact Or.inl e
    · refine Or.inr ⟨(eq_or_mem_of_mem_replaceOrAdd hx).resolve_left e, fun hk => e ?_⟩
      exact eq_of_key (nodup_replaceOrAdd h) hx mem_replaceOrAdd_self hk
  · rintro (rfl | ⟨hx, hk⟩)
    · exact mem_replaceOrAdd_self
    · exact mem_replaceOrAdd_of_ne hx hk

/-! ## Several rows put -/

/-- Puts rows one after the other. -/
def putAll (rows : List (Row kind)) (written : List (Row kind)) : List (Row kind) :=
  written.foldl (fun rows row => replaceOrAdd row rows) rows

theorem mem_or_of_mem_putAll {written : List (Row kind)} (h : (rows.map key).Nodup)
    (hx : x ∈ putAll rows written) : x ∈ written ∨ x ∈ rows ∧ key x ∉ written.map key := by
  induction written generalizing rows with
  | nil => exact Or.inr ⟨hx, List.not_mem_nil⟩
  | cons row written ih =>
    rcases ih (nodup_replaceOrAdd h) hx with hw | ⟨hx, hn⟩
    · exact Or.inl (List.mem_cons_of_mem row hw)
    · rcases (mem_replaceOrAdd h).mp hx with rfl | ⟨hx, hk⟩
      · exact Or.inl List.mem_cons_self
      · refine Or.inr ⟨hx, ?_⟩
        simp only [List.map_cons, List.mem_cons, not_or]
        exact ⟨hk, hn⟩

omit [ExactKeys K] in
theorem putAll_concat (rows written : List (Row kind)) (row : Row kind) :
    putAll rows (written ++ [row]) = replaceOrAdd row (putAll rows written) :=
  List.foldl_concat _ _ _ _

theorem nodup_putAll {written : List (Row kind)} (h : (rows.map key).Nodup) :
    ((putAll rows written).map key).Nodup := by
  induction written generalizing rows with
  | nil => exact h
  | cons row written ih => exact ih (nodup_replaceOrAdd h)

theorem key_mem_putAll {written : List (Row kind)} {k : Value}
    (h : k ∈ rows.map key ∨ k ∈ written.map key) : k ∈ (putAll rows written).map key := by
  induction written generalizing rows with
  | nil => exact h.resolve_right List.not_mem_nil
  | cons row written ih =>
    refine ih ?_
    rcases h with h | h
    · exact Or.inl (key_mem_replaceOrAdd h)
    · rcases List.mem_cons.mp h with rfl | h
      · exact Or.inl (List.mem_map_of_mem mem_replaceOrAdd_self)
      · exact Or.inr h

/-- Of the rows put under a key the last one stays. -/
theorem mem_putAll {written : List (Row kind)} (h : (rows.map key).Nodup) :
    x ∈ putAll rows written ↔
      (written.reverse.find? fun row => sameKey row x).elim (x ∈ rows) fun row => x = row := by
  -- From the end of the list, since the row put last decides.
  induction written using List.reverseRecOn with
  | nil => exact Iff.rfl
  | append_singleton written row ih =>
    have last : (written ++ [row]).reverse = row :: written.reverse := by
      rw [List.reverse_append, List.reverse_singleton, List.singleton_append]
    rw [putAll_concat, mem_replaceOrAdd (nodup_putAll h), last, List.find?_cons]
    cases same : sameKey row x with
    | true =>
      have equal : key x = key row := (sameKey_iff.mp same).symm
      simp only [equal, ne_eq, not_true_eq_false, and_false, or_false, Option.elim_some]
    | false =>
      have differ : key x ≠ key row := by
        intro e
        rw [sameKey_iff.mpr e.symm] at same
        cases same
      have other : x ≠ row := fun e => differ (congrArg key e)
      simp only [other, false_or, differ, ne_eq, not_false_eq_true, and_true]
      exact ih

/-! ## Rows of a property replaced -/

section

variable {written : List (Row kind)} {P : Row kind → Bool} (h : (rows.map key).Nodup)
include h

theorem key_mem_filter_putAll (new : ∀ x ∈ written, P x = true) {k : Value}
    (hk : k ∈ written.map key) : k ∈ ((putAll rows written).filter P).map key := by
  have there : k ∈ (putAll rows written).map key := key_mem_putAll (Or.inr hk)
  obtain ⟨x, hx, rfl⟩ := List.mem_map.mp there
  refine List.mem_map_of_mem (List.mem_filter.mpr ⟨hx, ?_⟩)
  rcases mem_or_of_mem_putAll h hx with put | ⟨-, apart⟩
  · exact new x put
  · exact absurd hk apart

variable (old : ∀ x ∈ rows, P x = true → key x ∈ written.map key)
include old

/-- Where rows are put over all rows of a property, only those put are left that have it. -/
theorem filter_putAll_subset : (putAll rows written).filter P ⊆ written := by
  intro x hx
  obtain ⟨there, property⟩ := List.mem_filter.mp hx
  rcases mem_or_of_mem_putAll h there with put | ⟨stayed, apart⟩
  · exact put
  · exact absurd (old x stayed property) apart

variable (new : ∀ x ∈ written, P x = true)
include new

/-- Rows put under different keys all stay. -/
theorem perm_filter_putAll (distinct : (written.map key).Nodup) :
    written.Perm ((putAll rows written).filter P) := by
  have left : ((putAll rows written).filter P).Nodup := (nodup_putAll h).of_map.filter _
  refine (List.perm_ext_iff_of_nodup distinct.of_map left).mpr fun x => ⟨fun hx => ?_, fun left =>
    filter_putAll_subset h old left⟩
  obtain ⟨y, hy, same⟩ := List.mem_map.mp (key_mem_filter_putAll h new (List.mem_map_of_mem hx))
  obtain rfl : y = x := eq_of_key distinct (filter_putAll_subset h old hy) hx same
  exact hy

/-- As many rows are left as are put exactly if these have different keys. -/
theorem length_filter_putAll_iff :
    ((putAll rows written).filter P).length = written.length ↔ (written.map key).Nodup := by
  constructor
  · intro length
    have left : (((putAll rows written).filter P).map key).Nodup :=
      (nodup_putAll h).sublist (List.filter_sublist.map key)
    have among : ((putAll rows written).filter P).map key ⊆ written.map key :=
      List.map_subset key (filter_putAll_subset h old)
    have same : (((putAll rows written).filter P).map key).Perm (written.map key) := by
      refine (List.subperm_of_subset left among).perm_of_length_le (Nat.le_of_eq ?_)
      rw [List.length_map, List.length_map, length]
    exact same.nodup_iff.mp left
  · exact fun distinct => (perm_filter_putAll h old new distinct).length_eq.symm

end

end Store

namespace RecordType

variable {R : Type} (type : RecordType R)

/-! ## Conditions -/

/-- The rows that meet all conditions, and the others. -/
def split (conditions : List Condition) : List R → Except StoreError (List R × List R)
  | [] => .ok ([], [])
  | row :: rows =>
    match type.meets conditions row with
    | .error e => .error e
    | .ok met => (split conditions rows).map fun (chosen, others) =>
        if met then (row :: chosen, others) else (chosen, row :: others)

/-- The rows that meet all conditions. -/
def select (conditions : List Condition) (rows : List R) : Except StoreError (List R) :=
  (type.split conditions rows).map (·.1)

/-- What a query shows of rows. -/
def answer (query : Query) (rows : List R) : Except Failure (List R) := do
  let chosen ← (type.select query.conditions rows).mapError .store
  type.arrange query chosen

/-- Whether a record meets all conditions; columns that do not exist count as null. -/
def satisfies (conditions : List Condition) (row : R) : Bool :=
  conditions.all fun condition => condition.holds ((type.value? row condition.column).getD .null)

/-- All conditions are on columns that exist. -/
def Reads (conditions : List Condition) : Prop :=
  ∀ condition ∈ conditions, (type.column? condition.column).isSome = true

variable {type}

theorem satisfies_cons (condition : Condition) (conditions : List Condition) (row : R) :
    type.satisfies (condition :: conditions) row =
      (condition.holds ((type.value? row condition.column).getD .null) && type.satisfies conditions row) := rfl

theorem meets_eq {conditions : List Condition} (h : type.Reads conditions) (row : R) :
    type.meets conditions row = .ok (type.satisfies conditions row) := by
  induction conditions with
  | nil => rfl
  | cons condition rest ih =>
    obtain ⟨column, hc⟩ := Option.isSome_iff_exists.mp (h condition List.mem_cons_self)
    have ih := ih fun other ho => h other (List.mem_cons_of_mem condition ho)
    simp only [meets, require, value?, hc, Option.map_some]
    cases hh : condition.holds (column.value row) with
    | true => simp [ih, satisfies, value?, hc, hh]
    | false => simp [satisfies, value?, hc, hh]

theorem satisfies_of_meets {conditions : List Condition} {row : R} {met : Bool}
    (h : type.meets conditions row = .ok met) : type.satisfies conditions row = met := by
  induction conditions with
  | nil => exact Except.ok.inj h
  | cons condition rest ih =>
    rw [meets, require] at h
    cases hv : type.value? row condition.column with
    | none =>
      rw [hv] at h
      cases h
    | some value =>
      simp only [hv] at h
      rw [satisfies_cons, hv, Option.getD_some]
      cases hh : condition.holds value with
      | true =>
        rw [hh, if_pos rfl] at h
        rw [ih h, Bool.true_and]
      | false =>
        rw [hh, if_neg Bool.false_ne_true] at h
        rw [Bool.false_and]
        exact Except.ok.inj h

theorem split_eq {conditions : List Condition} (h : type.Reads conditions) (rows : List R) :
    type.split conditions rows = .ok (rows.filter (type.satisfies conditions),
      rows.filter fun row => !type.satisfies conditions row) := by
  induction rows with
  | nil => rfl
  | cons row rows ih =>
    simp only [split, meets_eq h, ih, Except.map]
    cases hs : type.satisfies conditions row <;> simp [hs]

theorem select_eq {conditions : List Condition} (h : type.Reads conditions) (rows : List R) :
    type.select conditions rows = .ok (rows.filter (type.satisfies conditions)) := by
  rw [select, split_eq h]
  rfl

/-- However a row is told from the others, it is by the conditions. -/
theorem eq_of_split {conditions : List Condition} {rows chosen others : List R}
    (h : type.split conditions rows = .ok (chosen, others)) :
    chosen = rows.filter (type.satisfies conditions) ∧
      others = rows.filter fun row => !type.satisfies conditions row := by
  induction rows generalizing chosen others with
  | nil =>
    cases h
    exact ⟨rfl, rfl⟩
  | cons row rows ih =>
    rw [split] at h
    split at h
    · cases h
    · next met hm =>
      cases hr : type.split conditions rows with
      | error e => simp [hr, Except.map] at h
      | ok parts =>
        obtain ⟨hc, ho⟩ := ih hr
        rw [List.filter_cons, List.filter_cons, satisfies_of_meets hm, ← hc, ← ho]
        cases met <;> simp only [hr, Except.map, Except.ok.injEq, if_true, if_false,
          Bool.false_eq_true, Prod.mk.injEq] at h <;> obtain ⟨rfl, rfl⟩ := h <;> exact ⟨rfl, rfl⟩

theorem sublist_of_split {conditions : List Condition} {rows chosen others : List R}
    (h : type.split conditions rows = .ok (chosen, others)) :
    chosen.Sublist rows ∧ others.Sublist rows := by
  obtain ⟨rfl, rfl⟩ := eq_of_split h
  exact ⟨List.filter_sublist, List.filter_sublist⟩

end RecordType

end ProtoStore
