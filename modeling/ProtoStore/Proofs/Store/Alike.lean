import Mathlib.Data.List.Nodup
import Mathlib.Data.List.Perm.Basic
import ProtoStore.Proofs.Store.Order
import ProtoStore.Store.Linked

/-!
# Stores with the same rows

`Alike s t` : the stores hold the same rows, in whatever places. What is loaded does not tell them
apart, nor does the context it is loaded in, as long as that is not over:

* `loadOne_alike` : there is one row of a key at most;
* `loadChildren_alike`, `loadLinked_alike` : rows are sorted by their keys.
-/

namespace ProtoStore.Store

variable {K : Type} [DecidableEq K] [Catalog K]

/-- Two stores hold the same rows, each under a key of its own. -/
structure Alike (s t : Store K) : Prop where
  left : s.Distinct
  right : t.Distinct
  mem_iff {kind : K} {row : Row kind} : row ∈ s.rows kind ↔ row ∈ t.rows kind

namespace Alike

variable {s t : Store K} {kind : K}

theorem refl (h : s.Distinct) : Alike s s := ⟨h, h, Iff.rfl⟩

theorem symm (h : Alike s t) : Alike t s := ⟨h.right, h.left, h.mem_iff.symm⟩

theorem perm (h : Alike s t) (kind : K) : (s.rows kind).Perm (t.rows kind) :=
  (List.perm_ext_iff_of_nodup (h.left kind).of_map (h.right kind).of_map).mpr fun _ => h.mem_iff

end Alike

/-! ## One row -/

theorem find?_congr {R : Type} {rows rows' : List R} {p : R → Bool}
    (hm : ∀ x, x ∈ rows ↔ x ∈ rows')
    (hu : ∀ x ∈ rows, ∀ y ∈ rows, p x = true → p y = true → x = y) :
    rows.find? p = rows'.find? p := by
  cases hf : rows.find? p with
  | none =>
    rw [List.find?_eq_none] at hf
    refine (List.find?_eq_none.mpr fun x hx => hf x ((hm x).mpr hx)).symm
  | some x =>
    have px : p x = true := List.find?_some hf
    have hx : x ∈ rows := List.mem_of_find?_eq_some hf
    cases hf' : rows'.find? p with
    | none => exact absurd px (List.find?_eq_none.mp hf' x ((hm x).mp hx))
    | some y =>
      have hy : y ∈ rows := (hm y).mpr (List.mem_of_find?_eq_some hf')
      rw [hu x hx y hy px (List.find?_some hf')]

section

variable {s t : Store K} {kind : K} {context later : Context}

/-- The key of rows stands in the key column. -/
def KeyColumn (kind : K) : Prop :=
  ∀ row : Row kind, (record kind).value? row (record kind).keyColumn = some (key row)

/-- Rows are sorted by their keys into a total order. -/
def SortedByKey (kind : K) : Prop :=
  ∃ (α : Type) (_ : Ord α) (_ : Std.TransOrd α) (_ : Std.LawfulEqOrd α) (rank : Row kind → α),
    (record kind).RankedBy [⟨(record kind).keyColumn, false⟩] rank ∧
      ∀ a b, rank a = rank b → key a = key b

/-- A column that records have. -/
def HasColumn (kind : K) (column : String) : Prop := ((record kind).column? column).isSome = true

instance (kind : K) (column : String) : Decidable (HasColumn kind column) :=
  inferInstanceAs (Decidable (_ = true))

omit [DecidableEq K] in
theorem reads_of_hasColumn {condition : Condition} (h : HasColumn kind condition.column) :
    (record kind).Reads [condition] := by
  intro other ho
  rw [List.mem_singleton.mp ho]
  exact h

omit [DecidableEq K] in
theorem satisfies_singleton (condition : Condition) (row : Row kind) :
    (record kind).satisfies [condition] row =
      condition.holds (((record kind).value? row condition.column).getD .null) := by
  unfold RecordType.satisfies
  rw [List.all_cons, List.all_nil, Bool.and_true]

variable [ExactKeys K]

omit [ExactKeys K] in
theorem loadOne_eq (alive : context.check = .ok ()) (hk : KeyColumn kind)
    (hc : HasColumn kind (record kind).keyColumn) (k : Value) :
    s.loadOne context kind k = .ok ((s.rows kind).find? fun row => (key row).same k) := by
  have hs : (record kind).satisfies [.eq (record kind).keyColumn k] = fun row => (key row).same k := by
    funext row
    rw [satisfies_singleton, Condition.column, hk]
    rfl
  rw [← hs]
  exact first_eq alive (reads_of_hasColumn hc) rfl rfl rfl

theorem loadOne_alike (h : Alike s t) (together : context.check = later.check) (hk : KeyColumn kind)
    (hc : HasColumn kind (record kind).keyColumn) (k : Value) :
    s.loadOne context kind k = t.loadOne later kind k := by
  rcases context.check_cases with alive | ended
  · rw [loadOne_eq alive hk hc, loadOne_eq (together ▸ alive) hk hc]
    refine congrArg Except.ok (find?_congr (fun _ => h.mem_iff) fun x hx y hy px py => ?_)
    rw [Value.same_iff (Or.inl (ExactKeys.isExact kind _))] at px py
    exact h.left.eq_of_key hx hy (px.trans py.symm)
  · unfold loadOne first
    rw [find_eq, find_eq, ← together, ended]
    rfl

/-! ## Several rows -/

omit [ExactKeys K] in
theorem find_sorted_eq (alive : context.check = .ok ()) {condition : Condition}
    (hr : HasColumn kind condition.column) (hc : HasColumn kind (record kind).keyColumn)
    (sorted : SortedByKey kind) :
    s.find context kind ((Query.all.filter condition).orderBy (record kind).keyColumn) =
      .ok ((record kind).sort [⟨(record kind).keyColumn, false⟩]
        ((s.rows kind).filter ((record kind).satisfies [condition]))) := by
  obtain ⟨α, _, _, _, rank, ranked, -⟩ := sorted
  refine find_ok.mpr ⟨alive,
    RecordType.answer_eq _ (reads_of_hasColumn hr) ?_ ranked.transitive.inOrder rfl⟩
  intro term ht
  rw [List.mem_singleton.mp ht]
  exact hc

omit [ExactKeys K] in
theorem find_sorted_alike (h : Alike s t) (together : context.check = later.check) {condition other : Condition}
    (hr : HasColumn kind condition.column) (hr' : HasColumn kind other.column)
    (same : (record kind).satisfies [condition] = (record kind).satisfies [other])
    (hc : HasColumn kind (record kind).keyColumn) (sorted : SortedByKey kind) :
    s.find context kind ((Query.all.filter condition).orderBy (record kind).keyColumn) =
      t.find later kind ((Query.all.filter other).orderBy (record kind).keyColumn) := by
  rcases context.check_cases with alive | ended
  · rw [find_sorted_eq alive hr hc sorted, find_sorted_eq (together ▸ alive) hr' hc sorted, ← same]
    obtain ⟨α, _, _, _, rank, ranked, inj⟩ := sorted
    refine congrArg Except.ok
      (RecordType.sort_eq_of_perm ranked.transitive (ranked.separated ?_) ((h.perm kind).filter _))
    have keys : (((s.rows kind).filter ((record kind).satisfies [condition])).map key).Nodup :=
      (h.left kind).sublist (List.filter_sublist.map key)
    refine List.Nodup.map_on ?_ keys.of_map
    intro a ha b hb e
    exact eq_of_key keys ha hb (inj a b e)
  · rw [find_eq, find_eq, ← together, ended]
    rfl

omit [ExactKeys K] in
theorem loadChildren_alike (h : Alike s t) (together : context.check = later.check) {column : String}
    (hr : HasColumn kind column) (hc : HasColumn kind (record kind).keyColumn) (sorted : SortedByKey kind)
    (parent : Value) : s.loadChildren context kind column parent = t.loadChildren later kind column parent := by
  have hr : HasColumn kind (Condition.eq column parent).column := hr
  exact find_sorted_alike h together hr hr rfl hc sorted

omit [ExactKeys K] in
theorem mem_loadChildren {column : String} {parent : Value} {rows : List (Row kind)}
    (alive : context.check = .ok ()) (hr : HasColumn kind column)
    (hc : HasColumn kind (record kind).keyColumn) (sorted : SortedByKey kind)
    (h : s.loadChildren context kind column parent = .ok rows) {x : Row kind} :
    x ∈ rows ↔ x ∈ s.rows kind ∧ (record kind).satisfies [.eq column parent] x = true := by
  have hr : HasColumn kind (Condition.eq column parent).column := hr
  unfold loadChildren linkedBy at h
  rw [find_sorted_eq alive hr hc sorted, Except.ok.injEq] at h
  rw [← h, (RecordType.sort_perm _ _).mem_iff, List.mem_filter]

/-! ## Joined rows -/

variable {join : K} {owner target : String} {k : Value}

/-- The keys of the targets that join rows connect with an owner. -/
def targetKeys (s : Store K) (join : K) (owner : String) (k : Value) (target : String) : List Value :=
  ((s.rows join).filter ((record join).satisfies [.eq owner k])).filterMap fun link =>
    (record join).value? link target

omit [ExactKeys K] in
/-- Join rows are found first, and their targets a moment later. -/
theorem loadLinked_of_check (alive : context.check = .ok ()) (ho : HasColumn join owner) :
    s.loadLinked context kind join owner k target =
      match targetKeys s join owner k target with
      | [] => .ok []
      | keys => s.find (context.after 1) kind
        ((Query.all.filter (.isIn (record kind).keyColumn keys)).orderBy (record kind).keyColumn) := by
  have links : s.find context join (linkedBy owner k) =
      .ok ((s.rows join).filter ((record join).satisfies [.eq owner k])) := by
    refine find_ok.mpr ⟨alive, ?_⟩
    have hr : (record join).Reads [.eq owner k] := reads_of_hasColumn ho
    have answer : (record join).answer (linkedBy owner k) (s.rows join) = .ok ((record join).sort []
        ((s.rows join).filter ((record join).satisfies [.eq owner k]))) :=
      RecordType.answer_eq (s.rows join) hr (fun _ h => nomatch h) (RecordType.inOrder_nil _) rfl
    rw [answer, RecordType.sort_nil]
  unfold loadLinked targetKeys
  rw [links]
  rfl

omit [ExactKeys K] in
theorem loadLinked_eq [context.Timeless] (alive : context.check = .ok ()) (ho : HasColumn join owner)
    (hc : HasColumn kind (record kind).keyColumn) (sorted : SortedByKey kind) :
    s.loadLinked context kind join owner k target =
      .ok ((record kind).sort [⟨(record kind).keyColumn, false⟩] ((s.rows kind).filter
        ((record kind).satisfies [.isIn (record kind).keyColumn (targetKeys s join owner k target)]))) := by
  rw [loadLinked_of_check alive ho]
  cases targetKeys s join owner k target with
  | nil =>
    have none : (s.rows kind).filter ((record kind).satisfies [.isIn (record kind).keyColumn []]) = [] := by
      refine List.filter_eq_nil_iff.mpr fun row _ => ?_
      rw [satisfies_singleton]
      exact Bool.false_ne_true
    rw [none]
    rfl
  | cons first rest =>
    simp only [Context.after_timeless]
    exact find_sorted_eq alive hc hc sorted

omit [ExactKeys K] in
theorem mem_targetKeys {x : Value} : x ∈ targetKeys s join owner k target ↔
    ∃ link ∈ s.rows join, (record join).satisfies [.eq owner k] link = true ∧
      (record join).value? link target = some x := by
  unfold targetKeys
  simp only [List.mem_filterMap, List.mem_filter, and_assoc]

theorem mem_loadLinked [context.Timeless] {rows : List (Row kind)} (alive : context.check = .ok ())
    (ho : HasColumn join owner) (hk : KeyColumn kind) (hc : HasColumn kind (record kind).keyColumn)
    (sorted : SortedByKey kind) (h : s.loadLinked context kind join owner k target = .ok rows) {x : Row kind} :
    x ∈ rows ↔ x ∈ s.rows kind ∧ key x ∈ targetKeys s join owner k target := by
  rw [loadLinked_eq alive ho hc sorted, Except.ok.injEq] at h
  rw [← h, (RecordType.sort_perm _ _).mem_iff, List.mem_filter, satisfies_singleton, Condition.column,
    hk]
  exact and_congr_right fun _ => Value.isIn_iff (ExactKeys.isExact kind x)

omit [ExactKeys K] in
/-- Contexts that are over together need not be so a moment later. -/
theorem loadLinked_alike (h : Alike s t) (together : context.check = later.check)
    (next : (context.after 1).check = (later.after 1).check) (ho : HasColumn join owner)
    (hc : HasColumn kind (record kind).keyColumn) (sorted : SortedByKey kind) :
    s.loadLinked context kind join owner k target = t.loadLinked later kind join owner k target := by
  rcases context.check_cases with alive | ended
  · rw [loadLinked_of_check alive ho, loadLinked_of_check (together ▸ alive) ho]
    have perm : (targetKeys s join owner k target).Perm (targetKeys t join owner k target) :=
      ((h.perm join).filter _).filterMap _
    generalize targetKeys s join owner k target = keys at perm ⊢
    generalize targetKeys t join owner k target = others at perm ⊢
    have same : (record kind).satisfies [.isIn (record kind).keyColumn keys] =
        (record kind).satisfies [.isIn (record kind).keyColumn others] := by
      funext row
      rw [satisfies_singleton, satisfies_singleton]
      exact perm.any_eq
    cases keys with
    | nil => rw [List.nil_perm.mp perm]
    | cons first rest =>
      cases others with
      | nil => exact absurd perm.length_eq (Nat.succ_ne_zero _)
      | cons first' rest' => exact find_sorted_alike h next hc hc same hc sorted
  · unfold loadLinked
    rw [find_eq, find_eq, ← together, ended]
    rfl

end

end ProtoStore.Store
