import ProtoStore.Proofs.Store.Equality
import ProtoStore.Store.Table

/-!
# The order of values and rows

Floats that are not numbers have no order, and rows that differ in such floats count as equal where these are
compared. The order of three things is that of the one between them (`Through`) wherever there are orders:

* `Value.compare?_swap`, `Value.compare?_through`, `Value.exists_compare?` : values;
* `RecordType.compareIn_through`, `RecordType.compareBy_through` : rows whose columns hold numbers only.

Rows are compared the other way round with the other result in any case (`RecordType.compareBy_swap`).
-/

namespace ProtoStore

open Number

/-! ## Three things -/

/-- The order of `a` and `c` is told by `b`, if that stands between them. -/
def Through {α : Type} (cmp : α → α → Ordering) (a b c : α) : Prop :=
  (cmp a b).isLE = true → (cmp b c).isLE = true → cmp a c = (cmp a b).then (cmp b c)

namespace Through

variable {α : Type} {cmp next : α → α → Ordering} {a b c : α}

theorem of_transCmp [Std.TransCmp cmp] (a b c : α) : Through cmp a b c := by
  intro first second
  cases h : cmp a b with
  | lt => exact Std.TransCmp.lt_of_lt_of_isLE h second
  | eq => exact Std.TransCmp.congr_left h
  | gt => simp [h] at first

theorem isLE (h : Through cmp a b c) (first : (cmp a b).isLE = true) (second : (cmp b c).isLE = true) :
    (cmp a c).isLE = true := by
  rw [h first second]
  exact Ordering.isLE_then_iff_and.mpr ⟨first, Or.inr second⟩

theorem swap (swap : ∀ x y, (cmp x y).swap = cmp y x) (h : Through cmp c b a) :
    Through (fun x y => (cmp x y).swap) a b c := by
  intro first second
  simp only [swap] at first second ⊢
  rw [h second first]
  revert first second
  cases cmp b a <;> cases cmp c b <;> decide

theorem andThen (h : Through cmp a b c) (hn : Through next a b c) :
    Through (fun x y => (cmp x y).then (next x y)) a b c := by
  intro first second
  dsimp only at first second ⊢
  rw [Ordering.isLE_then_iff_and] at first second
  rw [h first.1 second.1]
  cases hab : cmp a b with
  | lt => rfl
  | gt => simp [hab] at first
  | eq =>
    have before : (next a b).isLE = true := by simpa [hab] using first
    cases hbc : cmp b c with
    | lt =>
      revert before
      cases next a b <;> simp
    | gt => simp [hbc] at second
    | eq => exact hn before (by simpa [hbc] using second)

end Through

/-! ## Values -/

instance : Std.TransCmp Moment.compare :=
  inferInstanceAs (Std.TransCmp (compareLex (compareOn Moment.seconds) (compareOn Moment.nanos)))

namespace Value

theorem compare?_of_kind_ne {a b : Value} (h : a.kind ≠ b.kind) :
    a.compare? b = some (compare a.kind b.kind) := by
  cases a <;> cases b <;> first | rfl | exact absurd rfl h

/-- The values of a kind are what `hold` makes, and are in the order of what it makes them from. -/
structure Ranked (kind : Nat) {α : Type} (cmp : α → α → Ordering) (hold : α → Value) : Prop where
  transCmp : Std.TransCmp cmp
  exists_eq (a : Value) : a.kind = kind → ∃ x, a = hold x
  compare?_eq (x y : α) : (hold x).compare? (hold y) = some (cmp x y)

/-- Values of one kind have a total order, but for floats and lists. -/
theorem exists_ranked (a : Value) : (∃ x, a = .float x) ∨ (∃ as, a = .list as) ∨
    ∃ (α : Type) (cmp : α → α → Ordering) (hold : α → Value), Ranked a.kind cmp hold := by
  cases a
  case float x => exact Or.inl ⟨x, rfl⟩
  case list as => exact Or.inr (Or.inl ⟨as, rfl⟩)
  all_goals refine Or.inr (Or.inr ?_)
  -- The values of each other kind are made by one constructor.
  case' null => refine ⟨Unit, compareOn fun _ => null.kind, fun _ => .null, inferInstance, ?_, fun _ _ => rfl⟩
  case' bool => refine ⟨Bool, compare, .bool, inferInstance, ?_, fun _ _ => rfl⟩
  case' int => refine ⟨Int64, compare, .int, inferInstance, ?_, fun _ _ => rfl⟩
  case' uint => refine ⟨UInt64, compare, .uint, inferInstance, ?_, fun _ _ => rfl⟩
  case' string => refine ⟨String, compare, .string, inferInstance, ?_, fun _ _ => rfl⟩
  case' bytes => refine ⟨List UInt8, compare, .bytes, inferInstance, ?_, fun _ _ => rfl⟩
  case' uuid => refine ⟨Uuid, compareOn fun u => u.bits.toNat, .uuid, inferInstance, ?_, fun _ _ => rfl⟩
  case' moment => refine ⟨Moment, Moment.compare, .moment, inferInstance, ?_, fun _ _ => rfl⟩
  all_goals
    intro b h
    cases b <;> first | exact ⟨_, rfl⟩ | exact ⟨(), rfl⟩ | exact absurd h nofun

theorem float_of_kind {x : Double} {b : Value} (h : (Value.float x).kind = b.kind) : ∃ y, b = .float y := by
  cases b with
  | float y => exact ⟨y, rfl⟩
  | _ => exact absurd h nofun

theorem list_of_kind {as : List Value} {b : Value} (h : (Value.list as).kind = b.kind) :
    ∃ bs, b = .list bs := by
  cases b with
  | list bs => exact ⟨bs, rfl⟩
  | _ => exact absurd h nofun

/-! ### The other way round -/

theorem compare?_swap_of_scalar {a : Value} (scalar : ∀ as, a ≠ .list as) (b : Value) :
    (a.compare? b).map Ordering.swap = b.compare? a := by
  by_cases kinds : a.kind = b.kind
  · rcases exists_ranked a with ⟨x, rfl⟩ | ⟨as, rfl⟩ | ⟨α, cmp, hold, ranked⟩
    · obtain ⟨y, rfl⟩ := float_of_kind kinds
      rw [compare?, compare?, Double.compare?, Double.compare?, Bool.or_comm]
      split
      · rfl
      · exact congrArg some Std.OrientedCmp.eq_swap.symm
    · exact absurd rfl (scalar as)
    · have := ranked.transCmp
      obtain ⟨x, rfl⟩ := ranked.exists_eq a rfl
      obtain ⟨y, rfl⟩ := ranked.exists_eq b kinds.symm
      rw [ranked.compare?_eq, ranked.compare?_eq]
      exact congrArg some Std.OrientedCmp.eq_swap.symm
  · rw [compare?_of_kind_ne kinds, compare?_of_kind_ne (Ne.symm kinds)]
    exact congrArg some Std.OrientedCmp.eq_swap.symm

mutual
theorem compare?_swap : ∀ a b : Value, (a.compare? b).map Ordering.swap = b.compare? a
  | .list as, b => by
    cases b with
    | list bs =>
      rw [compare?, compare?]
      exact compareParts?_swap as bs
    | _ => rfl
  | .null, b | .bool _, b | .int _, b | .uint _, b | .float _, b | .string _, b | .bytes _, b
  | .uuid _, b | .moment _, b => compare?_swap_of_scalar (by nofun) b

theorem compareParts?_swap : ∀ as bs : List Value,
    (compareParts? as bs).map Ordering.swap = compareParts? bs as
  | [], [] | [], _ :: _ | _ :: _, [] => rfl
  | a :: as, b :: bs => by
    rw [compareParts?, compareParts?, ← compare?_swap a b, ← compareParts?_swap as bs]
    rcases a.compare? b with _ | _ | _ | _ <;> rfl
end

/-! ### Three values -/

section

variable {a b c : Value} {first second : Ordering}

theorem kind_le (h : a.compare? b = some first) (le : first.isLE = true) : a.kind ≤ b.kind := by
  by_cases kinds : a.kind = b.kind
  · exact Nat.le_of_eq kinds
  · rw [compare?_of_kind_ne kinds, Option.some.injEq] at h
    rw [← h] at le
    exact Nat.isLE_compare.mp le

/-- A value of another kind stands before or after. -/
theorem compare?_through_of_kind_ne (kinds : ¬ (a.kind = b.kind ∧ b.kind = c.kind))
    (h : a.compare? b = some first) (h' : b.compare? c = some second) (le : first.isLE = true)
    (le' : second.isLE = true) : a.compare? c = some (first.then second) := by
  have below : a.kind ≤ b.kind := kind_le h le
  have above : b.kind ≤ c.kind := kind_le h' le'
  have apart : a.kind < c.kind := by omega
  have lt : first.then second = .lt := by
    by_cases same : a.kind = b.kind
    · have less : b.kind < c.kind := by omega
      rw [compare?_of_kind_ne (Nat.ne_of_lt less), Nat.compare_eq_lt.mpr less] at h'
      cases h'
      revert le
      cases first <;> simp
    · have less : a.kind < b.kind := by omega
      rw [compare?_of_kind_ne (Nat.ne_of_lt less), Nat.compare_eq_lt.mpr less] at h
      cases h
      rfl
  rw [compare?_of_kind_ne (Nat.ne_of_lt apart), Nat.compare_eq_lt.mpr apart, lt]

theorem some_through {α : Type} {cmp : α → α → Ordering} [Std.TransCmp cmp] {x y z : α}
    (h : some (cmp x y) = some first) (h' : some (cmp y z) = some second) (le : first.isLE = true)
    (le' : second.isLE = true) : some (cmp x z) = some (first.then second) := by
  cases h
  cases h'
  exact congrArg some (Through.of_transCmp x y z le le')

theorem compare?_float_ok {x y : Double} : (Value.float x).compare? (.float y) = some first ↔
    (x.isNaN = false ∧ y.isNaN = false) ∧ some (compare x.rank y.rank) = some first := by
  rw [← Bool.or_eq_false_iff, compare?, Double.compare?]
  split
  · next h => simp [h]
  · next h => simp [h]

theorem compareParts?_cons_ok {as bs : List Value} (le : first.isLE = true) :
    compareParts? (a :: as) (b :: bs) = some first ↔ a.compare? b = some .lt ∧ first = .lt ∨
      a.compare? b = some .eq ∧ compareParts? as bs = some first := by
  rw [compareParts?]
  rcases a.compare? b with _ | _ | _ | _ <;> cases first <;> simp at le ⊢

theorem compare?_through_of_scalar (scalar : ∀ as, a ≠ .list as) (h : a.compare? b = some first)
    (h' : b.compare? c = some second) (le : first.isLE = true) (le' : second.isLE = true) :
    a.compare? c = some (first.then second) := by
  by_cases kinds : a.kind = b.kind ∧ b.kind = c.kind
  · rcases exists_ranked a with ⟨x, rfl⟩ | ⟨as, rfl⟩ | ⟨α, cmp, hold, ranked⟩
    · obtain ⟨y, rfl⟩ := float_of_kind kinds.1
      obtain ⟨z, rfl⟩ := float_of_kind kinds.2
      rw [compare?_float_ok] at h h' ⊢
      exact ⟨⟨h.1.1, h'.1.2⟩, some_through h.2 h'.2 le le'⟩
    · exact absurd rfl (scalar as)
    · have := ranked.transCmp
      obtain ⟨x, rfl⟩ := ranked.exists_eq a rfl
      obtain ⟨y, rfl⟩ := ranked.exists_eq b kinds.1.symm
      obtain ⟨z, rfl⟩ := ranked.exists_eq c (kinds.1.trans kinds.2).symm
      rw [ranked.compare?_eq] at h h' ⊢
      exact some_through h h' le le'
  · exact compare?_through_of_kind_ne kinds h h' le le'

end

mutual
/-- The order of two values is told by one that stands between them. -/
theorem compare?_through : ∀ {a b c : Value} {first second : Ordering}, a.compare? b = some first →
    b.compare? c = some second → first.isLE = true → second.isLE = true →
      a.compare? c = some (first.then second)
  | .list as, b, c, _, _, h, h', le, le' => by
    by_cases kinds : (Value.list as).kind = b.kind ∧ b.kind = c.kind
    · obtain ⟨bs, rfl⟩ := list_of_kind kinds.1
      obtain ⟨cs, rfl⟩ := list_of_kind kinds.2
      rw [compare?] at h h' ⊢
      exact compareParts?_through h h' le le'
    · exact compare?_through_of_kind_ne kinds h h' le le'
  | .null, _, _, _, _, h, h', le, le' | .bool _, _, _, _, _, h, h', le, le'
  | .int _, _, _, _, _, h, h', le, le' | .uint _, _, _, _, _, h, h', le, le'
  | .float _, _, _, _, _, h, h', le, le' | .string _, _, _, _, _, h, h', le, le'
  | .bytes _, _, _, _, _, h, h', le, le' | .uuid _, _, _, _, _, h, h', le, le'
  | .moment _, _, _, _, _, h, h', le, le' => compare?_through_of_scalar (by nofun) h h' le le'

theorem compareParts?_through : ∀ {as bs cs : List Value} {first second : Ordering},
    compareParts? as bs = some first → compareParts? bs cs = some second → first.isLE = true →
      second.isLE = true → compareParts? as cs = some (first.then second)
  | [], [], cs, _, _, h, h', _, _ => by
    cases h
    exact h'
  | [], _ :: _, [], _, _, _, h', _, le' => by
    cases h'
    cases le'
  | [], _ :: _, _ :: _, _, _, h, _, _, _ => by
    cases h
    rfl
  | _ :: _, [], _, _, _, h, _, le, _ => by
    cases h
    cases le
  | _ :: _, _ :: _, [], _, _, _, h', _, le' => by
    cases h'
    cases le'
  | _ :: _, _ :: _, _ :: _, first, second, h, h', le, le' => by
    rw [compareParts?_cons_ok (Ordering.isLE_then_iff_and.mpr ⟨le, Or.inr le'⟩)]
    -- The first elements tell the outer lists apart if they do so for either pair, and else the rest does.
    rcases (compareParts?_cons_ok le).mp h with ⟨head, rfl⟩ | ⟨head, tail⟩ <;>
      rcases (compareParts?_cons_ok le').mp h' with ⟨head', rfl⟩ | ⟨head', tail'⟩
    · exact Or.inl ⟨compare?_through head head' rfl rfl, rfl⟩
    · exact Or.inl ⟨compare?_through head head' rfl rfl, rfl⟩
    · refine Or.inl ⟨compare?_through head head' rfl rfl, ?_⟩
      cases first with
      | lt | eq => rfl
      | gt => cases le
    · exact Or.inr ⟨compare?_through head head' rfl rfl, compareParts?_through tail tail' le le'⟩
end

/-! ### Numbers -/

mutual
/-- Whether all floats in a value are numbers. -/
def isOrdered : Value → Bool
  | .float x => !x.isNaN
  | .list parts => areOrdered parts
  | _ => true

/-- Whether all floats in some values are numbers. -/
def areOrdered : List Value → Bool
  | [] => true
  | a :: as => isOrdered a && areOrdered as
end

mutual
theorem isOrdered_of_isExact : ∀ {a : Value}, a.isExact = true → a.isOrdered = true
  | .list _, h => areOrdered_of_areExact h
  | .null, _ | .bool _, _ | .int _, _ | .uint _, _ | .string _, _ | .bytes _, _ | .uuid _, _
  | .moment _, _ => rfl

theorem areOrdered_of_areExact : ∀ {as : List Value}, areExact as = true → areOrdered as = true
  | [], _ => rfl
  | _ :: _, h => by
    rw [areExact, Bool.and_eq_true] at h
    rw [areOrdered, isOrdered_of_isExact h.1, areOrdered_of_areExact h.2]
    rfl
end

theorem exists_compare?_of_scalar {a b : Value} (scalar : ∀ as, a ≠ .list as) (h : a.isOrdered = true)
    (h' : b.isOrdered = true) : ∃ order, a.compare? b = some order := by
  by_cases kinds : a.kind = b.kind
  · rcases exists_ranked a with ⟨x, rfl⟩ | ⟨as, rfl⟩ | ⟨α, cmp, hold, ranked⟩
    · obtain ⟨y, rfl⟩ := float_of_kind kinds
      rw [isOrdered, Bool.not_eq_true'] at h h'
      exact ⟨_, compare?_float_ok.mpr ⟨⟨h, h'⟩, rfl⟩⟩
    · exact absurd rfl (scalar as)
    · obtain ⟨x, rfl⟩ := ranked.exists_eq a rfl
      obtain ⟨y, rfl⟩ := ranked.exists_eq b kinds.symm
      exact ⟨_, ranked.compare?_eq x y⟩
  · exact ⟨_, compare?_of_kind_ne kinds⟩

mutual
/-- There is an order but for floats that are not numbers. -/
theorem exists_compare? : ∀ {a b : Value}, a.isOrdered = true → b.isOrdered = true →
    ∃ order, a.compare? b = some order
  | .list as, b, h, h' => by
    by_cases kinds : (Value.list as).kind = b.kind
    · obtain ⟨bs, rfl⟩ := list_of_kind kinds
      rw [compare?]
      exact exists_compareParts? h h'
    · exact ⟨_, compare?_of_kind_ne kinds⟩
  | .null, _, h, h' | .bool _, _, h, h' | .int _, _, h, h' | .uint _, _, h, h' | .float _, _, h, h'
  | .string _, _, h, h' | .bytes _, _, h, h' | .uuid _, _, h, h' | .moment _, _, h, h' =>
    exists_compare?_of_scalar (by nofun) h h'

theorem exists_compareParts? : ∀ {as bs : List Value}, areOrdered as = true → areOrdered bs = true →
    ∃ order, compareParts? as bs = some order
  | [], [], _, _ | [], _ :: _, _, _ | _ :: _, [], _, _ => ⟨_, rfl⟩
  | _ :: _, _ :: _, h, h' => by
    rw [areOrdered, Bool.and_eq_true] at h h'
    obtain ⟨order, head⟩ := exists_compare? h.1 h'.1
    rw [compareParts?, head]
    cases order with
    | eq => exact exists_compareParts? h.2 h'.2
    | lt | gt => exact ⟨_, rfl⟩
end

end Value

/-! ## Rows -/

namespace RecordType

variable {R : Type} {type : RecordType R} {terms : List SortTerm} {a b c : R}

/-- The order of two records in one column, the lowest first. -/
def compareAt (type : RecordType R) (column : String) (a b : R) : Ordering :=
  type.compareIn ⟨column, false⟩ a b

theorem compareIn_eq (term : SortTerm) (a b : R) : type.compareIn term a b =
    if term.descending then (type.compareAt term.column a b).swap else type.compareAt term.column a b := rfl

theorem compareAt_eq {column : String} {x y : Value} (hx : type.value? a column = some x)
    (hy : type.value? b column = some y) : type.compareAt column a b = (x.compare? y).getD .eq := by
  unfold compareAt compareIn
  rw [hx, hy]
  rfl

theorem compareAt_of_none {column : String} (h : type.column? column = none) (a b : R) :
    type.compareAt column a b = .eq := by
  unfold compareAt compareIn value?
  rw [h]
  rfl

theorem compareBy_cons (term : SortTerm) (terms : List SortTerm) (a b : R) :
    type.compareBy (term :: terms) a b = (type.compareIn term a b).then (type.compareBy terms a b) := rfl

theorem compareBy_append (terms others : List SortTerm) (a b : R) :
    type.compareBy (terms ++ others) a b = (type.compareBy terms a b).then (type.compareBy others a b) := by
  induction terms with
  | nil => rfl
  | cons term terms ih => rw [List.cons_append, compareBy_cons, ih, compareBy_cons, Ordering.then_assoc]

/-! ### The other way round -/

theorem compareAt_swap (column : String) (a b : R) :
    (type.compareAt column a b).swap = type.compareAt column b a := by
  cases h : type.column? column with
  | none => rw [compareAt_of_none h, compareAt_of_none h, Ordering.swap_eq]
  | some found =>
    have value (row : R) : type.value? row column = some (found.value row) := by
      rw [value?, h, Option.map_some]
    rw [compareAt_eq (value a) (value b), compareAt_eq (value b) (value a),
      ← Value.compare?_swap (found.value a)]
    cases (found.value a).compare? (found.value b) <;> rfl

theorem compareIn_swap (term : SortTerm) (a b : R) :
    (type.compareIn term a b).swap = type.compareIn term b a := by
  rw [compareIn_eq, compareIn_eq]
  split
  · rw [compareAt_swap, compareAt_swap]
  · exact compareAt_swap term.column a b

theorem compareBy_swap (terms : List SortTerm) (a b : R) :
    (type.compareBy terms a b).swap = type.compareBy terms b a := by
  induction terms with
  | nil => rfl
  | cons term terms ih => rw [compareBy_cons, compareBy_cons, Ordering.swap_then, compareIn_swap, ih]

/-! ### Three rows -/

/-- The columns to sort by hold numbers only. -/
def Orderly (type : RecordType R) (terms : List SortTerm) (row : R) : Prop :=
  ∀ term ∈ terms, ∀ value, type.value? row term.column = some value → value.isOrdered = true

theorem compareAt_through {column : String}
    (h : ∀ row ∈ [a, b, c], ∀ value, type.value? row column = some value → value.isOrdered = true) :
    Through (type.compareAt column) a b c := by
  cases known : type.column? column with
  | none =>
    intro _ _
    rw [compareAt_of_none known, compareAt_of_none known, compareAt_of_none known]
    rfl
  | some found =>
    have value (row : R) : type.value? row column = some (found.value row) := by
      rw [value?, known, Option.map_some]
    have ordered (row : R) (there : row ∈ [a, b, c]) : (found.value row).isOrdered = true :=
      h row there _ (value row)
    obtain ⟨first, hab⟩ := Value.exists_compare? (ordered a (by simp)) (ordered b (by simp))
    obtain ⟨second, hbc⟩ := Value.exists_compare? (ordered b (by simp)) (ordered c (by simp))
    intro le le'
    rw [compareAt_eq (value a) (value b), hab, Option.getD_some] at le ⊢
    rw [compareAt_eq (value b) (value c), hbc, Option.getD_some] at le' ⊢
    rw [compareAt_eq (value a) (value c), Value.compare?_through hab hbc le le', Option.getD_some]

theorem compareBy_through (h : ∀ row ∈ [a, b, c], type.Orderly terms row) :
    Through (type.compareBy terms) a b c := by
  induction terms with
  | nil => exact fun _ _ => rfl
  | cons term terms ih =>
    have rest : Through (type.compareBy terms) a b c :=
      ih fun row there other inside => h row there other (List.mem_cons_of_mem term inside)
    refine Through.andThen ?_ rest
    have first : ∀ row ∈ [a, b, c], ∀ value, type.value? row term.column = some value →
        value.isOrdered = true := fun row there => h row there term List.mem_cons_self
    cases down : term.descending with
    | false =>
      have up : type.compareIn term = type.compareAt term.column := by
        funext x y
        rw [compareIn_eq, down]
        rfl
      rw [up]
      exact compareAt_through first
    | true =>
      have turned : type.compareIn term = fun x y => (type.compareAt term.column x y).swap := by
        funext x y
        rw [compareIn_eq, down]
        rfl
      rw [turned]
      refine Through.swap (compareAt_swap term.column) (compareAt_through fun row there => first row ?_)
      simp only [List.mem_cons, List.not_mem_nil, or_false] at there ⊢
      rcases there with rfl | rfl | rfl <;> simp

end RecordType

end ProtoStore
