import ProtoStore.Proofs.Store.Comparing
import ProtoStore.Proofs.Store.Reading

/-!
# Sorted rows

Rows are put in order one by one, each among those before it. If the order is transitive on them, they end up
in order (`sort_rising`), and if no two of them are equal in it, then in one order, whatever places they had
(`sort_eq_of_perm`). Where no two are equal, they end up in order exactly if no three of them are in a circle
(`sort_rising_iff`).

An order is transitive where it is that of some `rank` (`RankedBy`): rows may then be rewritten before or after
they are sorted (`sort_filterMap`).
-/

namespace ProtoStore

/-- What rewriting keeps of elements, it keeps of their list in this order. -/
theorem map_filterMap_sublist {α β : Type} {f : α → Option α} {k : α → β}
    (h : ∀ x y, f x = some y → k y = k x) (xs : List α) : ((xs.filterMap f).map k).Sublist (xs.map k) := by
  induction xs with
  | nil => exact List.Sublist.refl _
  | cons x xs ih =>
    cases hx : f x with
    | none =>
      rw [List.filterMap_cons_none hx, List.map_cons]
      exact ih.cons _
    | some y =>
      rw [List.filterMap_cons_some hx, List.map_cons, List.map_cons, h x y hx]
      exact ih.cons_cons _

namespace RecordType

variable {R : Type} {type : RecordType R} {terms : List SortTerm} {rows sorted : List R}

/-! ## Sorting -/

/-- Rows are in order by terms. -/
def Rising (type : RecordType R) (terms : List SortTerm) (rows : List R) : Prop :=
  rows.Pairwise fun a b => (type.compareBy terms a b).isLE = true

/-- The order by terms is transitive on rows. -/
def Transitive (type : RecordType R) (terms : List SortTerm) (rows : List R) : Prop :=
  ∀ a ∈ rows, ∀ b ∈ rows, ∀ c ∈ rows, (type.compareBy terms a b).isLE = true →
    (type.compareBy terms b c).isLE = true → (type.compareBy terms a c).isLE = true

/-- Rows that are equal in the order by terms are the same. -/
def Separated (type : RecordType R) (terms : List SortTerm) (rows : List R) : Prop :=
  ∀ a ∈ rows, ∀ b ∈ rows, type.compareBy terms a b = .eq → a = b

theorem isTransitive_iff : type.isTransitive terms rows = true ↔ type.Transitive terms rows := by
  simp only [isTransitive, Transitive, List.all_eq_true, Bool.or_eq_true, Bool.not_eq_true', Bool.and_eq_false_iff]
  refine forall₂_congr fun a _ => forall₂_congr fun b _ => forall₂_congr fun c _ => ?_
  cases (type.compareBy terms a b).isLE <;> cases (type.compareBy terms b c).isLE <;> simp

/-- Rows are sorted if their order is transitive, however many they are. -/
theorem Transitive.inOrder (h : type.Transitive terms rows) :
    type.inOrder terms rows = .ok (type.sort terms rows) := by
  rw [RecordType.inOrder, isTransitive_iff.mpr h, Bool.or_true, if_pos rfl]

theorem Transitive.mono {others : List R} (h : type.Transitive terms rows) (sub : ∀ row ∈ others, row ∈ rows) :
    type.Transitive terms others :=
  fun a ha b hb c hc => h a (sub a ha) b (sub b hb) c (sub c hc)

theorem Separated.mono {others : List R} (h : type.Separated terms rows) (sub : ∀ row ∈ others, row ∈ rows) :
    type.Separated terms others :=
  fun a ha b hb => h a (sub a ha) b (sub b hb)

theorem transitive_of_orderly (h : ∀ row ∈ rows, type.Orderly terms row) : type.Transitive terms rows := by
  intro a ha b hb c hc first second
  refine Through.isLE (compareBy_through ?_) first second
  simpa using ⟨h a ha, h b hb, h c hc⟩

theorem mem_insertDown {row x : R} : x ∈ type.insertDown terms row rows ↔ x = row ∨ x ∈ rows :=
  (insertDown_perm terms row rows).mem_iff.trans List.mem_cons

/-- What is inserted stands before rows that precede it, and these stay in order. -/
theorem pairwise_insertDown {row : R} (trans : type.Transitive terms (row :: rows))
    (h : rows.Pairwise fun a b => (type.compareBy terms b a).isLE = true) :
    (type.insertDown terms row rows).Pairwise fun a b => (type.compareBy terms b a).isLE = true := by
  induction rows with
  | nil => exact List.pairwise_singleton _ _
  | cons last rest ih =>
    obtain ⟨below, falls⟩ := List.pairwise_cons.mp h
    unfold insertDown
    split
    · next lower =>
      rw [beq_iff_eq] at lower
      refine List.pairwise_cons.mpr ⟨fun x hx => ?_, ih (trans.mono ?_) falls⟩
      · rcases mem_insertDown.mp hx with rfl | hx
        · rw [lower]
          rfl
        · exact below x hx
      · intro x hx
        exact (List.mem_cons.mp hx).elim (fun first => first ▸ List.mem_cons_self) fun rest =>
          List.mem_cons_of_mem _ (List.mem_cons_of_mem _ rest)
    · next higher =>
      rw [beq_iff_eq] at higher
      have first : (type.compareBy terms last row).isLE = true := by
        rw [← compareBy_swap]
        revert higher
        cases type.compareBy terms row last <;> decide
      refine List.pairwise_cons.mpr ⟨fun x hx => ?_, h⟩
      rcases List.mem_cons.mp hx with rfl | hx
      · exact first
      · exact trans x (List.mem_cons_of_mem _ (List.mem_cons_of_mem _ hx)) last
          (List.mem_cons_of_mem _ List.mem_cons_self) row List.mem_cons_self (below x hx) first

theorem pairwise_foldl (trans : type.Transitive terms (rows ++ sorted))
    (h : sorted.Pairwise fun a b => (type.compareBy terms b a).isLE = true) :
    (rows.foldl (fun sorted row => type.insertDown terms row sorted) sorted).Pairwise fun a b =>
      (type.compareBy terms b a).isLE = true := by
  induction rows generalizing sorted with
  | nil => exact h
  | cons row rows ih =>
    refine ih (trans.mono fun x hx => ?_) (pairwise_insertDown (trans.mono fun x hx => ?_) h)
    · rcases List.mem_append.mp hx with hx | hx
      · exact List.mem_append_left _ (List.mem_cons_of_mem row hx)
      · rcases mem_insertDown.mp hx with rfl | hx
        · exact List.mem_append_left _ List.mem_cons_self
        · exact List.mem_append_right _ hx
    · rcases List.mem_cons.mp hx with rfl | hx
      · exact List.mem_append_left _ List.mem_cons_self
      · exact List.mem_append_right _ hx

/-- Rows that are sorted by a transitive order are in order. -/
theorem sort_rising (trans : type.Transitive terms rows) : type.Rising terms (type.sort terms rows) := by
  unfold Rising sort
  -- The rows put in order so far are kept with the last one first, and turned round at the end.
  rw [List.pairwise_reverse]
  exact pairwise_foldl (by rwa [List.append_nil]) List.Pairwise.nil

/-- There is one order in which rows rise. -/
theorem sort_eq_of_rising (trans : type.Transitive terms rows) (apart : type.Separated terms rows)
    (perm : rows.Perm sorted) (rises : type.Rising terms sorted) : type.sort terms rows = sorted := by
  refine List.Perm.eq_of_pairwise ?_ (sort_rising trans) rises ((sort_perm terms rows).trans perm)
  intro a b ha hb first second
  refine apart a ((sort_perm terms rows).mem_iff.mp ha) b (perm.mem_iff.mpr hb) ?_
  rw [← compareBy_swap terms a b, Ordering.isLE_swap] at second
  exact Ordering.eq_eq_of_isLE_of_isGE first second

/-- Rows in other places are sorted into the same order. -/
theorem sort_eq_of_perm {rows' : List R} (trans : type.Transitive terms rows) (apart : type.Separated terms rows)
    (perm : rows.Perm rows') : type.sort terms rows = type.sort terms rows' :=
  sort_eq_of_rising trans apart (perm.trans (sort_perm terms rows').symm)
    (sort_rising (trans.mono fun _ there => perm.mem_iff.mpr there))

/-! ## Circles -/

/-- Three rows each of which comes before the next one, and the last before the first. -/
def Circular (type : RecordType R) (terms : List SortTerm) (rows : List R) : Prop :=
  ∃ a ∈ rows, ∃ b ∈ rows, ∃ c ∈ rows, type.compareBy terms a b = .lt ∧ type.compareBy terms b c = .lt ∧
    type.compareBy terms c a = .lt

theorem compareBy_self (terms : List SortTerm) (a : R) : type.compareBy terms a a = .eq := by
  have turned : (type.compareBy terms a a).swap = type.compareBy terms a a := compareBy_swap terms a a
  revert turned
  cases type.compareBy terms a a <;> decide

/-- Rows that are told apart and are in no circle are in a transitive order. -/
theorem transitive_of_not_circular (apart : type.Separated terms rows) (straight : ¬ type.Circular terms rows) :
    type.Transitive terms rows := by
  have strict : ∀ a ∈ rows, ∀ b ∈ rows, (type.compareBy terms a b).isLE = true →
      a = b ∨ type.compareBy terms a b = .lt := by
    intro a ha b hb le
    cases order : type.compareBy terms a b with
    | lt => exact Or.inr rfl
    | eq => exact Or.inl (apart a ha b hb order)
    | gt => simp [order] at le
  intro a ha b hb c hc first second
  rcases strict a ha b hb first with rfl | lt
  · exact second
  rcases strict b hb c hc second with rfl | lt'
  · exact first
  · rw [Ordering.isLE_iff_ne_gt]
    intro gt
    refine straight ⟨a, ha, b, hb, c, hc, lt, lt', ?_⟩
    rw [← compareBy_swap, gt]
    rfl

theorem not_circular_of_transitive (trans : type.Transitive terms rows) : ¬ type.Circular terms rows := by
  rintro ⟨a, ha, b, hb, c, hc, ab, bc, ca⟩
  have le : (type.compareBy terms a c).isLE = true := trans a ha b hb c hc (by rw [ab]; rfl) (by rw [bc]; rfl)
  rw [← compareBy_swap, ca] at le
  cases le

/-- The first of some rows that are in order comes after none of the others. -/
theorem Rising.not_lt_head {a c : R} (rises : type.Rising terms (a :: rows)) (there : c ∈ rows) :
    type.compareBy terms c a ≠ .lt := by
  have le : (type.compareBy terms a c).isLE = true := (List.pairwise_cons.mp rises).1 c there
  intro lt
  rw [← compareBy_swap, lt] at le
  cases le

theorem not_circular_of_rising (rises : type.Rising terms rows) : ¬ type.Circular terms rows := by
  induction rows with
  | nil => exact fun ⟨_, ha, _⟩ => nomatch ha
  | cons row rows ih =>
    obtain ⟨-, rest⟩ := List.pairwise_cons.mp rises
    -- The one before the first of them comes after it.
    have head {x : R} (there : x ∈ row :: rows) (lt : type.compareBy terms x row = .lt) : False := by
      rcases List.mem_cons.mp there with rfl | there
      · rw [compareBy_self] at lt
        cases lt
      · exact rises.not_lt_head there lt
    rintro ⟨a, ha, b, hb, c, hc, ab, bc, ca⟩
    rcases List.mem_cons.mp ha with rfl | ha'
    · exact head hc ca
    rcases List.mem_cons.mp hb with rfl | hb'
    · exact head ha ab
    rcases List.mem_cons.mp hc with rfl | hc'
    · exact head hb bc
    · exact ih rest ⟨a, ha', b, hb', c, hc', ab, bc, ca⟩

theorem Circular.mono {others : List R} (h : type.Circular terms rows) (sub : ∀ row ∈ rows, row ∈ others) :
    type.Circular terms others := by
  obtain ⟨a, ha, b, hb, c, hc, circle⟩ := h
  exact ⟨a, sub a ha, b, sub b hb, c, sub c hc, circle⟩

/-- However rows are sorted that are told apart, they can be in order just if they are in no circle. -/
theorem sort_rising_iff (apart : type.Separated terms rows) :
    type.Rising terms (type.sort terms rows) ↔ ¬ type.Circular terms rows := by
  constructor
  · intro rises circle
    exact not_circular_of_rising rises (circle.mono fun _ there => (sort_perm terms rows).mem_iff.mpr there)
  · exact fun straight => sort_rising (transitive_of_not_circular apart straight)

/-! ## Ranks -/

variable {α : Type} [Ord α] [Std.TransOrd α] [Std.LawfulEqOrd α] {rank : R → α}

/-- Sorting orders rows as their ranks are. -/
def RankedBy (type : RecordType R) (terms : List SortTerm) (rank : R → α) : Prop :=
  ∀ a b, type.compareBy terms a b = compare (rank a) (rank b)

omit [Std.LawfulEqOrd α] in
theorem RankedBy.transitive (ranked : type.RankedBy terms rank) : type.Transitive terms rows := by
  intro a _ b _ c _ first second
  rw [ranked] at first second ⊢
  exact Std.TransCmp.isLE_trans first second

omit [Std.TransOrd α] in
theorem RankedBy.separated (ranked : type.RankedBy terms rank) (distinct : (rows.map rank).Nodup) :
    type.Separated terms rows := by
  intro a ha b hb equal
  rw [ranked] at equal
  exact List.inj_on_of_nodup_map distinct ha hb (Std.LawfulEqOrd.eq_of_compare equal)

/-- Rows that are left out, or replaced by rows of the same rank, do not change the order of others. -/
theorem sort_filterMap {f : R → Option R} (ranked : type.RankedBy terms rank)
    (distinct : (rows.map rank).Nodup) (hf : ∀ x y, f x = some y → rank y = rank x) :
    type.sort terms (rows.filterMap f) = (type.sort terms rows).filterMap f := by
  refine sort_eq_of_rising ranked.transitive
    (ranked.separated ((map_filterMap_sublist hf rows).nodup distinct))
    ((sort_perm terms rows).filterMap f).symm ?_
  refine (sort_rising ranked.transitive).filterMap f fun a b le x hx y hy => ?_
  rwa [ranked, hf a x hx, hf b y hy, ← ranked]

end RecordType

end ProtoStore
