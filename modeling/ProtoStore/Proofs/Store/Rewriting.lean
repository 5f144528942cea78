import ProtoStore.Proofs.Store.Alike
import ProtoStore.Proofs.Store.Rows

/-!
# Stores with rows rewritten

`Store.filterMap f s` : the store `s` with some rows left out and others put in the places of rows of the
same keys (`KeepsKeys`). What is loaded of a parent is rewritten in the same way
(`loadChildren_filterMap`), and what is loaded through join rows stays as long as these lead to the same
targets (`loadLinked_congr`).
-/

namespace ProtoStore.Store

variable {K : Type} [Catalog K] {s t : Store K} {kind join : K} {context later : Context}

/-- A store with rows left out or rewritten. -/
def filterMap (f : (kind : K) → Row kind → Option (Row kind)) (s : Store K) : Store K :=
  { s with tables := fun name => (s.tables name).filterMap fun stored =>
      (f stored.kind stored.row).map fun row => ⟨stored.kind, row⟩ }

/-- Rows are rewritten under their keys. -/
def KeepsKeys (f : (kind : K) → Row kind → Option (Row kind)) : Prop :=
  ∀ {kind : K} {x y : Row kind}, f kind x = some y → key y = key x

variable [DecidableEq K] {f : (kind : K) → Row kind → Option (Row kind)}

theorem rowsIn_filterMap (table : List (AnyRow K)) :
    rowsIn kind (table.filterMap fun stored =>
      (f stored.kind stored.row).map fun row => (⟨stored.kind, row⟩ : AnyRow K)) =
        (rowsIn kind table).filterMap (f kind) := by
  induction table with
  | nil => rfl
  | cons first rest ih =>
    obtain ⟨other, x⟩ := first
    by_cases same : kind = other
    · subst same
      rw [rowsIn_cons_self, List.filterMap_cons, List.filterMap_cons]
      cases f kind x with
      | none => exact ih
      | some y => exact rowsIn_cons_self.trans (congrArg (y :: ·) ih)
    · rw [rowsIn_cons_of_ne same, List.filterMap_cons]
      cases f other x with
      | none => exact ih
      | some y => exact (rowsIn_cons_of_ne same).trans ih

theorem rows_filterMap : (s.filterMap f).rows kind = (s.rows kind).filterMap (f kind) :=
  rowsIn_filterMap _

theorem mem_filterMap {y : Row kind} :
    y ∈ (s.filterMap f).rows kind ↔ ∃ x ∈ s.rows kind, f kind x = some y := by
  rw [rows_filterMap]
  exact List.mem_filterMap

theorem Distinct.filterMap (h : s.Distinct) (keeps : KeepsKeys f) : (s.filterMap f).Distinct := by
  intro kind
  rw [rows_filterMap]
  exact (map_filterMap_sublist (fun _ _ => keeps) (s.rows kind)).nodup (h kind)

theorem rows_filterMap_of_some (h : ∀ x ∈ s.rows kind, f kind x = some x) :
    (s.filterMap f).rows kind = s.rows kind := by
  rw [rows_filterMap]
  exact (List.filterMap_congr h).trans List.filterMap_some

/-! ## Children -/

omit [DecidableEq K] in
/-- Rows of one key stand at one place in the order of keys. -/
theorem SortedByKey.rank_eq {α : Type} [Ord α] [Std.LawfulEqOrd α] [Std.TransOrd α]
    {rank : Row kind → α} (hk : KeyColumn kind)
    (ranked : (record kind).RankedBy [⟨(record kind).keyColumn, false⟩] rank) {x y : Row kind}
    (h : key y = key x) : rank y = rank x := by
  have same : (record kind).compareBy [⟨(record kind).keyColumn, false⟩] y x =
      (record kind).compareBy [⟨(record kind).keyColumn, false⟩] x x := by
    unfold RecordType.compareBy RecordType.compareIn
    rw [List.foldr_cons, List.foldr_cons, hk, hk, h]
    rfl
  rw [ranked, ranked] at same
  exact Std.LawfulEqOrd.eq_of_compare (same.trans Std.ReflCmp.compare_self)

theorem filter_filterMap {α : Type} {p : α → Bool} {g : α → Option α}
    (h : ∀ x y, g x = some y → p y = p x) (xs : List α) :
    (xs.filterMap g).filter p = (xs.filter p).filterMap g := by
  rw [List.filter_filterMap, List.filterMap_filter]
  refine List.filterMap_congr fun x _ => ?_
  cases hx : g x with
  | none => split <;> rfl
  | some y =>
    rw [Option.filter_some, h x y hx]

variable {column : String} {parent : Value} {rows : List (Row kind)}

theorem loadChildren_filterMap (hs : s.Distinct) (alive : context.check = .ok ())
    (live : later.check = .ok ()) (hr : HasColumn kind column)
    (hc : HasColumn kind (record kind).keyColumn) (hk : KeyColumn kind) (sorted : SortedByKey kind)
    (keeps : KeepsKeys f) (parents : ∀ x y : Row kind, f kind x = some y →
      (record kind).satisfies [.eq column parent] y = (record kind).satisfies [.eq column parent] x)
    (h : s.loadChildren context kind column parent = .ok rows) :
    (s.filterMap f).loadChildren later kind column parent = .ok (rows.filterMap (f kind)) := by
  have hr : HasColumn kind (Condition.eq column parent).column := hr
  unfold loadChildren linkedBy at h ⊢
  rw [find_sorted_eq alive hr hc sorted, Except.ok.injEq] at h
  rw [find_sorted_eq live hr hc sorted, rows_filterMap, ← h]
  obtain ⟨α, _, _, _, rank, ranked, inj⟩ := sorted
  have distinct : (((s.rows kind).filter ((record kind).satisfies [.eq column parent])).map rank).Nodup := by
    have keys := (hs kind).sublist
      ((List.filter_sublist (p := (record kind).satisfies [.eq column parent])).map key)
    exact keys.of_map.map_on fun a ha b hb e => eq_of_key keys ha hb (inj a b e)
  rw [← RecordType.sort_filterMap ranked distinct fun x y hxy =>
    SortedByKey.rank_eq hk ranked (keeps hxy)]
  exact congrArg _ (congrArg _ (filter_filterMap parents (s.rows kind)))

/-! ## Joined rows -/

variable [ExactKeys K] {owner target : String} {k : Value}

theorem loadLinked_congr [context.Timeless] [later.Timeless] (alive : context.check = .ok ())
    (live : later.check = .ok ()) (ho : HasColumn join owner) (hc : HasColumn kind (record kind).keyColumn)
    (hk : KeyColumn kind) (sorted : SortedByKey kind) (rows : t.rows kind = s.rows kind) (targets : ∀ x ∈ s.rows kind,
      key x ∈ targetKeys t join owner k target ↔ key x ∈ targetKeys s join owner k target) :
    t.loadLinked later kind join owner k target = s.loadLinked context kind join owner k target := by
  rw [loadLinked_eq alive ho hc sorted, loadLinked_eq live ho hc sorted, rows]
  refine congrArg _ (congrArg _ (List.filter_congr fun x hx => ?_))
  rw [satisfies_singleton, satisfies_singleton, Condition.column, Condition.column, hk, Bool.eq_iff_iff]
  exact (Value.isIn_iff (ExactKeys.isExact kind x)).trans
    ((targets x hx).trans (Value.isIn_iff (ExactKeys.isExact kind x)).symm)

omit [ExactKeys K] in
/-- An owner without join rows is linked to nothing. -/
theorem loadLinked_eq_nil [later.Timeless] (live : later.check = .ok ()) (ho : HasColumn join owner)
    (hc : HasColumn kind (record kind).keyColumn) (sorted : SortedByKey kind)
    (h : ∀ x ∈ t.rows join, (record join).satisfies [.eq owner k] x ≠ true) :
    t.loadLinked later kind join owner k target = .ok [] := by
  have none : targetKeys t join owner k target = [] := by
    unfold targetKeys
    rw [List.filter_eq_nil_iff.mpr h, List.filterMap_nil]
  have unasked : (t.rows kind).filter
      ((record kind).satisfies [.isIn (record kind).keyColumn []]) = [] := by
    refine List.filter_eq_nil_iff.mpr fun x _ => ?_
    rw [satisfies_singleton]
    exact Bool.false_ne_true
  rw [loadLinked_eq live ho hc sorted, none, unasked]
  rfl

end ProtoStore.Store
