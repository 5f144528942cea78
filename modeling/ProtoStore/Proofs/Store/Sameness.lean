import ProtoStore.Proofs.Store.Comparing
import ProtoStore.Proofs.Store.Rows

/-!
# Rows told apart by their keys

Whether two rows have the same key is found by comparing, and a key may hold a float, which is not always
the same as itself. All the same:

* `sameKey_symm`, `sameKey_trans` : to have the same key is symmetric and transitive;
* `Apart rows` : no two of the rows have the same key;
* `replaceOrAdd_perm`, `putAll_perm` : of rows that are apart, those of the keys that are put go, and all
  others stay.
-/

namespace ProtoStore

/-! ## Values -/

namespace Value

theorem same_symm {a b : Value} (h : a.same b = true) : b.same a = true := by
  rw [same, beq_iff_eq] at h ⊢
  rw [← compare?_swap, h]
  rfl

theorem same_trans {a b c : Value} (h : a.same b = true) (h' : b.same c = true) : a.same c = true := by
  rw [same, beq_iff_eq] at h h' ⊢
  exact compare?_through h h' rfl rfl

end Value

namespace Store

variable {K : Type} [Catalog K] {kind : K} {row x y z : Row kind} {rows written : List (Row kind)}

/-! ## Rows of the same key -/

theorem sameKey_symm (h : sameKey x y = true) : sameKey y x = true := Value.same_symm h

theorem sameKey_trans (h : sameKey x y = true) (h' : sameKey y z = true) : sameKey x z = true :=
  Value.same_trans h h'

theorem sameKey_comm (x y : Row kind) : sameKey x y = sameKey y x :=
  Bool.eq_iff_iff.mpr ⟨sameKey_symm, sameKey_symm⟩

/-- No two of some rows have the same key. -/
def Apart (rows : List (Row kind)) : Prop := rows.Pairwise fun x y => sameKey x y = false

instance (rows : List (Row kind)) : Decidable (Apart rows) :=
  inferInstanceAs (Decidable (rows.Pairwise fun x y => sameKey x y = false))

theorem Apart.perm (apart : Apart rows) (h : rows.Perm written) : Apart written :=
  (h.pairwise_iff fun {x y} differ => by rwa [sameKey_comm]).mp apart

/-! ## Rows put -/

/-- The row that is put takes the place of the one of its key. -/
theorem replaceOrAdd_perm (apart : Apart rows) :
    (replaceOrAdd row rows).Perm (row :: rows.filter fun x => !sameKey x row) := by
  induction rows with
  | nil => exact List.Perm.refl _
  | cons other rest ih =>
    obtain ⟨first, others⟩ := List.pairwise_cons.mp apart
    rw [replaceOrAdd]
    split
    · next same =>
      have stay : rest.filter (fun x => !sameKey x row) = rest := by
        refine List.filter_eq_self.mpr fun x hx => ?_
        rw [Bool.not_eq_true', Bool.eq_false_iff]
        intro again
        exact Bool.eq_false_iff.mp (first x hx) (sameKey_trans same (sameKey_symm again))
      rw [List.filter_cons_of_neg (by rw [same]; decide), stay]
    · next differ =>
      rw [List.filter_cons_of_pos (by rw [Bool.eq_false_iff.mpr differ]; rfl)]
      exact ((ih others).cons other).trans (List.Perm.swap row other _)

theorem Apart.replaceOrAdd (apart : Apart rows) (row : Row kind) : Apart (replaceOrAdd row rows) := by
  refine Apart.perm ?_ (replaceOrAdd_perm apart).symm
  refine List.pairwise_cons.mpr ⟨fun x hx => ?_, apart.filter _⟩
  have differ : (!sameKey x row) = true := (List.mem_filter.mp hx).2
  rw [sameKey_comm, ← Bool.not_eq_true']
  exact differ

theorem Apart.putAll (apart : Apart rows) (written : List (Row kind)) :
    Apart (putAll rows written) := by
  induction written generalizing rows with
  | nil => exact apart
  | cons row written ih => exact ih (apart.replaceOrAdd row)

theorem apart_nil : Apart ([] : List (Row kind)) := List.Pairwise.nil

/-- Rows of keys that are not put stay, and what the others leave does not depend on what was there. -/
theorem putAll_perm (apart : Apart rows) (written : List (Row kind)) :
    (putAll rows written).Perm
      ((rows.filter fun x => !written.any (sameKey x)) ++ putAll [] written) := by
  -- From the end of the list, since of the rows of one key the last stays.
  induction written using List.reverseRecOn with
  | nil =>
    have all : rows.filter (fun x => !([] : List (Row kind)).any (sameKey x)) = rows :=
      List.filter_eq_self.mpr fun _ _ => rfl
    rw [all]
    exact List.Perm.of_eq (List.append_nil rows).symm
  | append_singleton written row ih =>
    have stay : (rows.filter fun x => !written.any (sameKey x)).filter (fun x => !sameKey x row) =
        rows.filter fun x => !(written ++ [row]).any (sameKey x) := by
      rw [List.filter_filter]
      refine List.filter_congr fun x _ => ?_
      rw [List.any_append, List.any_cons, List.any_nil, Bool.or_false, Bool.not_or, Bool.and_comm]
    have put : (replaceOrAdd row (putAll rows written)).Perm _ := replaceOrAdd_perm (apart.putAll written)
    have left := put.trans ((ih.filter fun x => !sameKey x row).cons row)
    have right : (replaceOrAdd row (putAll [] written)).Perm _ := replaceOrAdd_perm (apart_nil.putAll written)
    rw [List.filter_append, stay] at left
    rw [putAll_concat, putAll_concat]
    exact left.trans (List.perm_middle.symm.trans (right.symm.append_left _))

theorem mem_of_mem_putAll_nil (h : x ∈ putAll [] written) : x ∈ written := by
  induction written using List.reverseRecOn with
  | nil => cases h
  | append_singleton written row ih =>
    rw [putAll_concat] at h
    rcases eq_or_mem_of_mem_replaceOrAdd h with rfl | h
    · exact List.mem_append_right written (List.mem_singleton_self x)
    · exact List.mem_append_left _ (ih h)

/-- Some row is left under each key that is put. -/
theorem exists_mem_putAll (h : ∃ w ∈ written, sameKey x w = true) :
    ∃ w ∈ putAll [] written, sameKey x w = true := by
  induction written using List.reverseRecOn with
  | nil => exact absurd h nofun
  | append_singleton written row ih =>
    rw [putAll_concat]
    by_cases same : sameKey x row = true
    · exact ⟨row, mem_replaceOrAdd_self, same⟩
    · obtain ⟨w, hw, sw⟩ := h
      have before : w ∈ written := by
        refine (List.mem_append.mp hw).resolve_right fun last => same ?_
        rwa [← List.mem_singleton.mp last]
      obtain ⟨v, hv, sv⟩ := ih ⟨w, before, sw⟩
      have stays : v ∈ (putAll [] written).filter fun x => !sameKey x row := by
        refine List.mem_filter.mpr ⟨hv, ?_⟩
        rw [Bool.not_eq_true', Bool.eq_false_iff]
        exact fun again => same (sameKey_trans sv again)
      exact ⟨v, (replaceOrAdd_perm (apart_nil.putAll written)).mem_iff.mpr
        (List.mem_cons_of_mem row stays), sv⟩

end Store

end ProtoStore
