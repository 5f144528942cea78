import ProtoStore.Store.Record

/-!
# Equality of values and keys

* `Value.isExact` : there is no float in a value;
* `Value.same_iff` : an exact value is the same only as itself, on either side of the comparison;
* `ExactKeys` : catalogs all keys of which are exact, so that stored rows can be told apart by `=` on
  the values of their keys.
-/

namespace ProtoStore

namespace Uuid

theorem toNat_bits_inj {u v : Uuid} : u.bits.toNat = v.bits.toNat ↔ u = v := by
  cases u; cases v
  simp [BitVec.toNat_inj]

end Uuid

namespace Moment

theorem compare_eq_iff {x y : Moment} : x.compare y = .eq ↔ x = y := by
  cases x; cases y
  simp [compare, Ordering.then_eq_eq]

end Moment

namespace Value

/-! ## Values without floats -/

mutual
/-- Whether there is no float in a value. -/
def isExact : Value → Bool
  | .float _ => false
  | .list parts => areExact parts
  | _ => true

/-- Whether there is no float in any of some values. -/
def areExact : List Value → Bool
  | [] => true
  | a :: as => isExact a && areExact as
end

-- Floats are the only values with more than one spelling (of zero) or without any order (not a
-- number), so one side without floats is enough.
mutual
theorem compare?_eq_iff : ∀ {a b : Value}, a.isExact = true ∨ b.isExact = true →
    (a.compare? b = some .eq ↔ a = b)
  | .null, b, _ => by cases b <;> simp [compare?, kind]
  | .bool _, b, _ => by cases b <;> simp [compare?, kind]
  | .int _, b, _ => by cases b <;> simp [compare?, kind]
  | .uint _, b, _ => by cases b <;> simp [compare?, kind]
  | .float _, b, h => by cases b <;> simp [compare?, kind, isExact] at h ⊢
  | .string _, b, _ => by cases b <;> simp [compare?, kind]
  | .bytes _, b, _ => by cases b <;> simp [compare?, kind]
  | .uuid _, b, _ => by cases b <;> simp [compare?, kind, Uuid.toNat_bits_inj]
  | .moment _, b, _ => by cases b <;> simp [compare?, kind, Moment.compare_eq_iff]
  | .list as, .list bs, h => by
    simp only [isExact] at h
    rw [compare?, compareParts?_eq_iff h, list.injEq]
  | .list _, .null, _ | .list _, .bool _, _ | .list _, .int _, _ | .list _, .uint _, _
  | .list _, .float _, _ | .list _, .string _, _ | .list _, .bytes _, _ | .list _, .uuid _, _
  | .list _, .moment _, _ => by simp [compare?, kind]

theorem compareParts?_eq_iff : ∀ {as bs : List Value}, areExact as = true ∨ areExact bs = true →
    (compareParts? as bs = some .eq ↔ as = bs)
  | [], [], _ => by simp [compareParts?]
  | [], _ :: _, _ => by simp [compareParts?]
  | _ :: _, [], _ => by simp [compareParts?]
  | a :: as, b :: bs, h => by
    simp only [areExact, Bool.and_eq_true] at h
    have head : a.compare? b = some .eq ↔ a = b := compare?_eq_iff (h.imp And.left And.left)
    have tail : compareParts? as bs = some .eq ↔ as = bs :=
      compareParts?_eq_iff (h.imp And.right And.right)
    rw [compareParts?, List.cons.injEq, ← head, ← tail]
    split <;> simp_all
end

theorem same_iff {a b : Value} (h : a.isExact = true ∨ b.isExact = true) :
    a.same b = true ↔ a = b := by
  rw [same, beq_iff_eq, compare?_eq_iff h]

theorem isIn_iff {a : Value} {values : List Value} (h : a.isExact = true) :
    a.isIn values = true ↔ a ∈ values := by
  simp only [isIn, List.any_eq_true, same_iff (Or.inr h), exists_eq_right]

end Value

/-! ## Keys -/

/-- A catalog none of whose keys holds a float. -/
class ExactKeys (K : Type) [Catalog K] : Prop where
  isExact (kind : K) (row : Row kind) : ((record kind).keyValue row).isExact = true

end ProtoStore
