import ProtoStore.Proofs.Number.Shortest

/-!
# Rounding to the nearest magnitude

* `Format.nearest_of_contains` : whatever lies in the interval of a magnitude is rounded to it, so the
  number of a magnitude is not changed (`Format.Small.nearest_toRat`);
* `Double.times_of_contains`, `Double.dividedBy_of_contains` : products and quotients are what their
  exact values are rounded to;
* `Double.is_ofFraction` : integers with a significand of at most 53 bits are doubles.
-/

namespace ProtoStore.Number

/-- The fractions that are rounded to a natural number: those at most one half away, if it is even, and
otherwise those nearer than one half. -/
def RoundsTo (q : ℚ) (m : Nat) : Prop :=
  if m % 2 = 0 then (m : ℚ) - 1 / 2 ≤ q ∧ q ≤ m + 1 / 2 else (m : ℚ) - 1 / 2 < q ∧ q < m + 1 / 2

/-- What is rounded to `m`, in units of one over `2 * d`. -/
theorem RoundsTo.units {n d m : Nat} (hd : 0 < d) (h : RoundsTo (n / d) m) :
    2 * (m * d) ≤ 2 * n + d ∧ 2 * n ≤ 2 * (m * d) + d ∧
      (m % 2 = 1 → 2 * (m * d) < 2 * n + d ∧ 2 * n < 2 * (m * d) + d) := by
  have pos : (0 : ℚ) < d := by exact_mod_cast hd
  unfold RoundsTo at h
  split at h
  · next even =>
    have lower := (le_div_iff₀ pos).mp h.1
    have upper := (div_le_iff₀ pos).mp h.2
    have lower : (2 * (m * d) : ℚ) ≤ 2 * n + d := by linarith
    have upper : (2 * n : ℚ) ≤ 2 * (m * d) + d := by linarith
    exact ⟨by exact_mod_cast lower, by exact_mod_cast upper, fun odd => by omega⟩
  · have lower := (lt_div_iff₀ pos).mp h.1
    have upper := (div_lt_iff₀ pos).mp h.2
    have lower : (2 * (m * d) : ℚ) < 2 * n + d := by linarith
    have upper : (2 * n : ℚ) < 2 * (m * d) + d := by linarith
    have lower : 2 * (m * d) < 2 * n + d := by exact_mod_cast lower
    have upper : 2 * n < 2 * (m * d) + d := by exact_mod_cast upper
    exact ⟨lower.le, upper.le, fun _ => ⟨lower, upper⟩⟩

theorem roundQuotient_eq {n d m : Nat} (hd : 0 < d) (h : RoundsTo (n / d) m) :
    Format.roundQuotient n d = m := by
  obtain ⟨lower, upper, strict⟩ := h.units hd
  have split := Nat.div_add_mod' n d
  have less := Nat.mod_lt n hd
  unfold Format.roundQuotient
  generalize n / d = q at split
  generalize n % d = r at split less
  -- The quotient is the number itself or the one below it.
  have near : m = q ∨ m = q + 1 := by
    have notLess : ¬ m + 1 ≤ q := fun h => by
      have := Nat.mul_le_mul_right d h
      rw [Nat.succ_mul] at this
      omega
    have notMore : ¬ q + 2 ≤ m := fun h => by
      have := Nat.mul_le_mul_right d h
      rw [Nat.add_mul] at this
      omega
    omega
  simp only [Bool.or_eq_true, decide_eq_true_eq, Bool.and_eq_true, beq_iff_eq]
  rcases near with rfl | rfl
  · rw [if_pos (by omega)]
  · rw [Nat.add_mul q 1 d, Nat.one_mul] at lower upper strict
    rw [if_neg (by omega)]

namespace Format

variable {format : Format}

/-! ## The exponent of two -/

theorem log2_bounds {n : Nat} (h : 0 < n) :
    (2 : ℚ) ^ (n.log2 : Int) ≤ n ∧ (n : ℚ) < 2 ^ ((n.log2 : Int) + 1) := by
  constructor
  · rw [zpow_natCast]
    exact_mod_cast Nat.log2_self_le h.ne'
  · rw [← Nat.cast_succ, zpow_natCast]
    exact_mod_cast Nat.lt_log2_self

/-- The exponent gives a full significand, or is the least one. -/
theorem scaleOf_spec (format : Format) {n d : Nat} (hn : 0 < n) (hd : 0 < d) : ∃ exact : Int,
    format.scaleOf n d = max exact format.leastScale ∧
      (2 : ℚ) ^ (exact + format.fractionBits) ≤ n / d ∧
      (n : ℚ) / d < 2 ^ (exact + format.fractionBits + 1) := by
  have near := quotient_bounds (by norm_num) (log2_bounds hn) (log2_bounds hd)
  have definition : format.scaleOf n d =
      max (if (scaled n d (-((n.log2 : Int) - d.log2 - format.fractionBits))).1 <
          (scaled n d (-((n.log2 : Int) - d.log2 - format.fractionBits))).2 * 2 ^ format.fractionBits
        then (n.log2 : Int) - d.log2 - format.fractionBits - 1
        else (n.log2 : Int) - d.log2 - format.fractionBits) format.leastScale := rfl
  generalize hg : (n.log2 : Int) - d.log2 - format.fractionBits = guess at definition
  rw [show (n.log2 : Int) - d.log2 = guess + format.fractionBits by omega] at near
  have pos : (0 : ℚ) < (scaled n d (-guess)).2 := by exact_mod_cast scaled_pos hd n _
  have less : (scaled n d (-guess)).1 < (scaled n d (-guess)).2 * 2 ^ format.fractionBits ↔
      (n : ℚ) / d < 2 ^ (guess + format.fractionBits) := by
    rw [eq_mul_zpow (by norm_num) (scaled_eq n d (-guess)), zpow_add₀ (by norm_num), zpow_natCast,
      mul_comm (2 ^ guess), mul_lt_mul_iff_of_pos_right (by positivity), div_lt_iff₀' pos]
    norm_cast
  refine ⟨_, definition, ?_⟩
  have spec := exponent_of_guess near less
  split at spec
  · next below =>
    rw [if_pos below, sub_add_eq_add_sub]
    exact spec
  · next above =>
    rw [if_neg above]
    exact spec

/-! ## Rounding -/

variable {magnitude : Nat}

/-- A magnitude from its significand and its exponent of two. -/
theorem magnitude_eq (format : Format) (magnitude : Nat) : magnitude =
    (format.scale magnitude - format.leastScale).toNat * 2 ^ format.fractionBits +
      format.significand magnitude := by
  have split := Nat.div_add_mod' magnitude (2 ^ format.fractionBits)
  unfold scale significand
  simp only [Nat.pow_eq, add_sub_cancel_left, Int.toNat_natCast]
  split
  · next small =>
    rw [Nat.div_eq_of_lt small, Nat.mod_eq_of_lt small]
    simp
  · next large =>
    have pos : 0 < magnitude / 2 ^ format.fractionBits :=
      Nat.div_pos (Nat.le_of_not_lt large) (Nat.pow_pos (by decide))
    obtain ⟨steps, hs⟩ := Nat.exists_eq_succ_of_ne_zero pos.ne'
    rw [hs] at split ⊢
    rw [Nat.succ_mul] at split
    simp only [Nat.succ_sub_one]
    omega

/-- Above the least exponent of two significands are full. -/
theorem full_of_leastScale_lt (h : format.leastScale < format.scale magnitude) :
    2 ^ format.fractionBits ≤ format.significand magnitude ∧ 2 ^ (format.fractionBits + 1) ≤ magnitude := by
  unfold scale at h
  simp only [Nat.pow_eq] at h
  have steps : 2 ≤ magnitude / 2 ^ format.fractionBits := by omega
  have large := (Nat.le_div_iff_mul_le (Nat.pow_pos (by decide))).mp steps
  have large : 2 ^ (format.fractionBits + 1) ≤ magnitude := by rwa [pow_succ, Nat.mul_comm]
  refine ⟨?_, large⟩
  unfold significand
  simp only [Nat.pow_eq]
  rw [if_neg (by rw [pow_succ] at large; omega)]
  omega

/-- In units of the last place, an interval reaches one half to both sides. -/
theorem contains_roundsTo {q : ℚ} (pos : 0 < magnitude) (h : (format.interval magnitude).Contains q) :
    RoundsTo (q / 2 ^ format.scale magnitude) (format.significand magnitude) := by
  have least := format.significand_pos pos
  have unit : (0 : ℚ) < 2 ^ format.scale magnitude := by positivity
  have lower : (4 * format.significand magnitude - 2 : ℚ) ≤ (format.interval magnitude).lower := by
    simp only [interval]
    rw [Nat.cast_sub (by split <;> omega)]
    split <;> push_cast <;> linarith
  have upper : ((format.interval magnitude).upper : ℚ) = 4 * format.significand magnitude + 2 := by
    simp only [interval]
    push_cast
    rfl
  have scale : (format.interval magnitude).scale = format.scale magnitude - 2 := rfl
  have closed : (format.interval magnitude).closed = (format.significand magnitude % 2 == 0) := rfl
  unfold Interval.Contains at h
  unfold RoundsTo
  rw [scale, closed, quarter_eq, upper] at h
  by_cases even : format.significand magnitude % 2 = 0
  · rw [if_pos (by simpa using even)] at h
    rw [if_pos even, le_div_iff₀ unit, div_le_iff₀ unit]
    constructor <;> nlinarith [h.1, h.2]
  · rw [if_neg (by simpa using even)] at h
    rw [if_neg even, lt_div_iff₀ unit, div_lt_iff₀ unit]
    constructor <;> nlinarith [h.1, h.2]

/-- An interval reaches one half of the last place to both sides at most. -/
theorem bounds_of_contains {q : ℚ} (pos : 0 < magnitude) (h : (format.interval magnitude).Contains q) :
    (format.significand magnitude - 1 / 2 : ℚ) * 2 ^ format.scale magnitude ≤ q ∧
      q ≤ (format.significand magnitude + 1 / 2 : ℚ) * 2 ^ format.scale magnitude := by
  have unit : (0 : ℚ) < 2 ^ format.scale magnitude := by positivity
  have rounds := contains_roundsTo pos h
  unfold RoundsTo at rounds
  rw [← le_div_iff₀ unit, ← div_le_iff₀ unit]
  split at rounds
  · exact rounds
  · exact ⟨rounds.1.le, rounds.2.le⟩

/-- The least full significand has its lower neighbours only half as far away. -/
theorem lower_of_edge {q : ℚ} (h : (format.interval magnitude).Contains q)
    (edge : format.significand magnitude = 2 ^ format.fractionBits)
    (large : 2 ^ (format.fractionBits + 1) ≤ magnitude) :
    (2 ^ format.fractionBits - 1 / 4 : ℚ) * 2 ^ format.scale magnitude ≤ q := by
  have one : 1 ≤ 2 ^ format.fractionBits := Nat.one_le_two_pow
  have lower : ((format.interval magnitude).lower : ℚ) = 4 * 2 ^ format.fractionBits - 1 := by
    simp only [interval, Nat.pow_eq, edge, beq_self_eq_true, large, decide_true, Bool.and_true, if_true]
    rw [Nat.cast_sub (by omega)]
    push_cast
    rfl
  have bound := h.bounds.1
  rw [lower, show (format.interval magnitude).scale = format.scale magnitude - 2 from rfl,
    quarter_eq] at bound
  refine le_trans (le_of_eq ?_) bound
  ring

/-! ## The place of the significand -/

/-- The least full significand, some places up or down. -/
theorem full_eq (k : Int) : (2 : ℚ) ^ (format.scale magnitude + k + format.fractionBits) =
    2 ^ k * (2 ^ format.fractionBits * 2 ^ format.scale magnitude) := by
  rw [zpow_add₀ (by norm_num), zpow_add₀ (by norm_num), zpow_natCast]
  ring

section

variable {q : ℚ} {exact : Int}

/-- What lies in an interval has no full significand at greater exponents: it would be at least the next
power of two. -/
theorem le_scale_of_contains (pos : 0 < magnitude) (h : (format.interval magnitude).Contains q)
    (lower : (2 : ℚ) ^ (exact + format.fractionBits) ≤ q) : exact ≤ format.scale magnitude := by
  by_contra above
  have unit : (0 : ℚ) < 2 ^ format.scale magnitude := by positivity
  have few : format.significand magnitude + 1 ≤ 2 ^ format.fractionBits * 2 := by
    have full : format.significand magnitude < 2 ^ (format.fractionBits + 1) := format.significand_lt
    rwa [pow_succ] at full
  have few : (format.significand magnitude + 1 : ℚ) ≤ 2 ^ format.fractionBits * 2 := by exact_mod_cast few
  have large : (2 : ℚ) ^ (format.scale magnitude + 1 + format.fractionBits) ≤ q :=
    (zpow_le_zpow_right₀ (by norm_num) (by omega)).trans lower
  rw [full_eq 1, zpow_one] at large
  have upper := (bounds_of_contains pos h).2
  nlinarith

/-- Where it has one at a smaller exponent, that is the one before, and it lies below the least full
significand of the interval, whose magnitude has it. -/
theorem edge_of_contains (pos : 0 < magnitude) (h : (format.interval magnitude).Contains q)
    (upper : q < 2 ^ (exact + format.fractionBits + 1)) (below : exact < format.scale magnitude)
    (least : format.leastScale < format.scale magnitude) :
    exact = format.scale magnitude - 1 ∧ format.significand magnitude = 2 ^ format.fractionBits ∧
      q < 2 ^ format.fractionBits * 2 ^ format.scale magnitude := by
  have unit : (0 : ℚ) < 2 ^ format.scale magnitude := by positivity
  obtain ⟨full, large⟩ := full_of_leastScale_lt least
  have small : q < 2 ^ (format.scale magnitude + 0 + format.fractionBits) :=
    upper.trans_le (zpow_le_zpow_right₀ (by norm_num) (by omega))
  rw [full_eq 0, zpow_zero, one_mul] at small
  have edge : format.significand magnitude = 2 ^ format.fractionBits := by
    by_contra more
    have more : (2 ^ format.fractionBits + 1 : ℚ) ≤ format.significand magnitude := by
      exact_mod_cast Nat.lt_of_le_of_ne full (Ne.symm more)
    have lower := (bounds_of_contains pos h).1
    nlinarith
  -- Not further below: the number is above the half of the least full significand.
  have half : (2 : ℚ) ^ (format.scale magnitude + (-1) + format.fractionBits) ≤ q := by
    have one : (1 : ℚ) ≤ 2 ^ format.fractionBits := one_le_pow₀ (by norm_num)
    have bound := lower_of_edge h edge large
    rw [full_eq (-1), zpow_neg_one]
    nlinarith
  have next : format.scale magnitude + (-1) + format.fractionBits < exact + format.fractionBits + 1 :=
    (zpow_lt_zpow_iff_right₀ (by norm_num : (1 : ℚ) < 2)).mp (half.trans_lt upper)
  exact ⟨by omega, edge, small⟩

end

/-! ## Rounding to a magnitude -/

section

variable {n d : Nat} (hn : 0 < n) (hd : 0 < d)

include hn hd

/-- Rounding is that of the significand. -/
theorem nearest_of_roundsTo {m : Nat} (h : RoundsTo ((n : ℚ) / d / 2 ^ format.scaleOf n d) m) :
    format.nearest n d =
      min ((format.scaleOf n d - format.leastScale).toNat * 2 ^ format.fractionBits + m)
        format.infinity := by
  have moved := scaled_eq n d (-format.scaleOf n d)
  rw [zpow_neg, ← div_eq_mul_inv] at moved
  have rounded := roundQuotient_eq (scaled_pos hd n (-format.scaleOf n d)) (moved ▸ h)
  unfold nearest
  rw [if_neg (by simpa using hn.ne')]
  simp only [rounded, Nat.pow_eq]

variable (pos : 0 < magnitude) (h : (format.interval magnitude).Contains (n / d))

include pos h

/-- What lies in an interval is written with the exponent of its magnitude, unless it is below the least
full significand: then with the one before. -/
theorem scaleOf_of_contains : format.scaleOf n d = format.scale magnitude ∨
    format.scaleOf n d = format.scale magnitude - 1 ∧
      format.significand magnitude = 2 ^ format.fractionBits ∧
      format.leastScale < format.scale magnitude ∧
      (n : ℚ) / d < 2 ^ format.fractionBits * 2 ^ format.scale magnitude := by
  obtain ⟨exact, place, lower, upper⟩ := format.scaleOf_spec hn hd
  have notAbove : exact ≤ format.scale magnitude := le_scale_of_contains pos h lower
  have leastScale : format.leastScale ≤ format.scale magnitude := by
    unfold scale
    omega
  rcases eq_or_lt_of_le (max_le notAbove leastScale) with same | below
  · exact .inl (place.trans same)
  · have least : format.leastScale < format.scale magnitude := by omega
    obtain ⟨before, edge, small⟩ := edge_of_contains pos h upper (by omega) least
    exact .inr ⟨by omega, edge, least, small⟩

/-- Whatever lies in the interval of a magnitude is rounded to it. -/
theorem nearest_of_contains (finite : magnitude < format.infinity) : format.nearest n d = magnitude := by
  have parts := format.magnitude_eq magnitude
  rcases scaleOf_of_contains hn hd pos h with same | ⟨below, edge, least, small⟩
  · rw [nearest_of_roundsTo hn hd (same ▸ contains_roundsTo pos h), same, ← parts]
    exact Nat.min_eq_left finite.le
  · -- The significand is rounded up to twice the least full one.
    have large := (full_of_leastScale_lt least).2
    have bound := lower_of_edge h edge large
    have unit : (0 : ℚ) < 2 ^ format.scale magnitude := by positivity
    have half : (2 : ℚ) ^ format.scaleOf n d = 2 ^ format.scale magnitude / 2 := by
      rw [below, zpow_sub₀ (by norm_num), zpow_one]
    have rounds : RoundsTo ((n : ℚ) / d / 2 ^ format.scaleOf n d) (2 ^ format.fractionBits * 2) := by
      rw [RoundsTo, if_pos (Nat.mul_mod_left _ 2), half, le_div_iff₀ (by positivity),
        div_le_iff₀ (by positivity)]
      push_cast
      constructor <;> nlinarith
    rw [nearest_of_roundsTo hn hd rounds]
    have steps : (format.scale magnitude - format.leastScale).toNat =
        (format.scaleOf n d - format.leastScale).toNat + 1 := by omega
    rw [steps, edge, Nat.succ_mul] at parts
    omega

end

/-- The number of a magnitude is not changed. -/
theorem Small.nearest_toRat (small : format.Small) (pos : 0 < magnitude)
    (finite : magnitude < format.infinity) {n d : Nat} (hn : 0 < n) (hd : 0 < d)
    (h : (n : ℚ) / d = format.toRat magnitude) : format.nearest n d = magnitude := by
  refine nearest_of_contains hn hd pos (small.interval_contains pos ?_) finite
  rw [h, sub_self, abs_zero]
  have := format.toRat_pos pos
  positivity

/-- The magnitude of a full significand. -/
theorem scale_significand {significand : Nat} (full : 2 ^ format.fractionBits ≤ significand)
    (few : significand < 2 ^ format.fractionBits * 2) (steps : Nat) :
    format.significand (steps * 2 ^ format.fractionBits + significand) = significand ∧
      format.scale (steps * 2 ^ format.fractionBits + significand) = format.leastScale + steps := by
  have unit : 0 < 2 ^ format.fractionBits := Nat.pow_pos (by decide)
  obtain ⟨rest, rfl⟩ := Nat.exists_eq_add_of_le full
  have less : rest < 2 ^ format.fractionBits := by omega
  have parts : steps * 2 ^ format.fractionBits + (2 ^ format.fractionBits + rest) =
      rest + (steps + 1) * 2 ^ format.fractionBits := by
    rw [Nat.succ_mul]
    omega
  have enough : ¬ rest + (steps + 1) * 2 ^ format.fractionBits < 2 ^ format.fractionBits := by
    rw [Nat.succ_mul]
    omega
  unfold Format.significand scale
  simp only [Nat.pow_eq]
  rw [parts, if_neg enough, Nat.add_mul_mod_self_right, Nat.mod_eq_of_lt less,
    Nat.add_mul_div_right _ _ unit, Nat.div_eq_of_lt less]
  simp

end Format

/-! ## Doubles -/

namespace Double

/-- Numbers with a significand of at most 53 bits are doubles. -/
theorem exists_magnitude {a k : Nat} (pos : 0 < a) (few : a < 2 ^ 53) (small : k ≤ 900) :
    ∃ magnitude, 0 < magnitude ∧ magnitude < Format.double.infinity ∧
      Format.double.toRat magnitude = a * 2 ^ k := by
  have bits : a.log2 < 53 := (Nat.log2_lt pos.ne').mpr few
  have lower := Nat.log2_self_le pos.ne'
  have upper : a < 2 ^ (a.log2 + 1) := Nat.lt_log2_self
  generalize a.log2 = p at *
  have shift : 2 ^ p * 2 ^ (52 - p) = 2 ^ 52 := by
    rw [← Nat.pow_add]
    congr 1
    omega
  have full : 2 ^ Format.double.fractionBits ≤ a * 2 ^ (52 - p) := by
    rw [show 2 ^ Format.double.fractionBits = 2 ^ p * 2 ^ (52 - p) from shift.symm]
    exact Nat.mul_le_mul_right _ lower
  have few : a * 2 ^ (52 - p) < 2 ^ Format.double.fractionBits * 2 := by
    rw [show 2 ^ Format.double.fractionBits = 2 ^ p * 2 ^ (52 - p) from shift.symm, Nat.mul_right_comm,
      ← pow_succ]
    exact Nat.mul_lt_mul_of_pos_right upper (Nat.pow_pos (by decide))
  obtain ⟨significand, scale⟩ := Format.scale_significand full few (p + k + 1022)
  refine ⟨(p + k + 1022) * 2 ^ Format.double.fractionBits + a * 2 ^ (52 - p), ?_, ?_, ?_⟩
  · exact Nat.add_pos_right _ (Nat.mul_pos pos (Nat.pow_pos (by decide)))
  · have : (p + k + 1022) * 2 ^ Format.double.fractionBits ≤ 1974 * 2 ^ Format.double.fractionBits :=
      Nat.mul_le_mul_right _ (by omega)
    have : Format.double.infinity = 2047 * 2 ^ Format.double.fractionBits := rfl
    omega
  · rw [Format.toRat, significand, scale,
      show Format.double.leastScale + ((p + k + 1022 : Nat) : Int) = (p : Int) - 52 + k by
        rw [show Format.double.leastScale = -1074 from rfl]
        push_cast
        ring]
    push_cast
    rw [mul_assoc, zpow_add₀ (by norm_num), zpow_natCast, ← mul_assoc ((2 : ℚ) ^ (52 - p)), ← zpow_natCast,
      ← zpow_add₀ (by norm_num), show ((52 - p : Nat) : Int) + ((p : Int) - 52) = 0 by omega, zpow_zero,
      one_mul]

theorem infinity_lt : Format.double.infinity < 2 ^ 63 := by decide

theorem toNat_ofMagnitude (negative : Bool) {magnitude : Nat} (h : magnitude < 2 ^ 63) :
    (ofMagnitude negative magnitude).bits.toNat = (if negative then 2 ^ 63 else 0) + magnitude := by
  simp only [ofMagnitude, Nat.pow_eq]
  rw [UInt64.toNat_ofNat_of_lt']
  simp only [UInt64.size]
  split <;> omega

@[simp]
theorem magnitude_ofMagnitude (negative : Bool) {magnitude : Nat} (h : magnitude < 2 ^ 63) :
    (ofMagnitude negative magnitude).magnitude = magnitude := by
  rw [Double.magnitude, toNat_ofMagnitude negative h, Nat.pow_eq]
  split <;> omega

theorem isNegative_ofMagnitude (negative : Bool) {magnitude : Nat} (h : magnitude < 2 ^ 63) :
    (ofMagnitude negative magnitude).isNegative = negative := by
  rw [isNegative, toNat_ofMagnitude negative h, Nat.pow_eq]
  cases negative with
  | true => simp
  | false => simpa using h

theorem ofMagnitude_self (x : Double) : ofMagnitude x.isNegative x.magnitude = x := by
  have bound := x.bits.toNat_lt
  have less : x.magnitude < 2 ^ 63 := Nat.mod_lt _ (by decide)
  have bits : (ofMagnitude x.isNegative x.magnitude).bits.toNat = x.bits.toNat := by
    rw [toNat_ofMagnitude _ less, isNegative, Double.magnitude, Nat.pow_eq]
    by_cases h : 2 ^ 63 ≤ x.bits.toNat
    · rw [if_pos (by simpa using h)]
      omega
    · rw [if_neg (by simpa using h)]
      omega
  cases x
  exact congrArg Double.mk (UInt64.toNat_inj.mp bits)

theorem negate_ofMagnitude {magnitude : Nat} (h : magnitude < 2 ^ 63) :
    (ofMagnitude false magnitude).negate = ofMagnitude true magnitude := by
  rw [negate, isNegative_ofMagnitude false h, magnitude_ofMagnitude false h, Bool.not_false]

/-- The number of a finite double without its sign. -/
def toRat (x : Double) : ℚ := Format.double.toRat x.magnitude

theorem toFraction_eq (magnitude : Nat) : ((Format.double.toFraction magnitude).1 : ℚ) /
    (Format.double.toFraction magnitude).2 = Format.double.toRat magnitude := by
  rw [Format.toFraction, scaled_eq, Nat.cast_one, div_one]
  rfl

theorem toFraction_pos {magnitude : Nat} (h : 0 < magnitude) :
    0 < (Format.double.toFraction magnitude).1 ∧ 0 < (Format.double.toFraction magnitude).2 := by
  have value := Format.double.toRat_pos h
  rw [← toFraction_eq] at value
  refine ⟨?_, scaled_pos one_pos _ _⟩
  by_contra none
  rw [Nat.eq_zero_of_not_pos none, Nat.cast_zero, zero_div] at value
  exact value.false

section

variable {x y : Double} (hx : 0 < x.magnitude) (hy : 0 < y.magnitude) {magnitude : Nat} (pos : 0 < magnitude)
  (finite : magnitude < Format.double.infinity)

include hx hy pos finite

/-- A product is what its exact value is rounded to. -/
theorem times_of_contains (h : (Format.double.interval magnitude).Contains (x.toRat * y.toRat)) :
    x.times y = ofMagnitude false magnitude := by
  obtain ⟨xn, xd⟩ := toFraction_pos hx
  obtain ⟨yn, yd⟩ := toFraction_pos hy
  rw [toRat, toRat, ← toFraction_eq, ← toFraction_eq, div_mul_div_comm, ← Nat.cast_mul, ← Nat.cast_mul] at h
  exact congrArg (ofMagnitude false)
    (Format.nearest_of_contains (Nat.mul_pos xn yn) (Nat.mul_pos xd yd) pos h finite)

/-- A quotient is what its exact value is rounded to. -/
theorem dividedBy_of_contains (h : (Format.double.interval magnitude).Contains (x.toRat / y.toRat)) :
    x.dividedBy y = ofMagnitude false magnitude := by
  obtain ⟨xn, xd⟩ := toFraction_pos hx
  obtain ⟨yn, yd⟩ := toFraction_pos hy
  rw [toRat, toRat, ← toFraction_eq, ← toFraction_eq, div_div_div_eq, ← Nat.cast_mul, ← Nat.cast_mul] at h
  exact congrArg (ofMagnitude false)
    (Format.nearest_of_contains (Nat.mul_pos xn yd) (Nat.mul_pos xd yn) pos h finite)

end

/-- A double that is a given number. -/
structure Is (x : Double) (q : ℚ) : Prop where
  positive : 0 < x.magnitude
  finite : x.magnitude < Format.double.infinity
  value : x.toRat = q

/-- Integers with a significand of at most 53 bits are not rounded. -/
theorem is_ofFraction {a k n : Nat} (pos : 0 < a) (few : a < 2 ^ 53) (small : k ≤ 900) (h : n = a * 2 ^ k) :
    (ofFraction false n 1).Is n := by
  obtain ⟨magnitude, hm, finite, value⟩ := exists_magnitude pos few small
  have npos : 0 < n := by
    rw [h]
    exact Nat.mul_pos pos (Nat.pow_pos (by decide))
  have number : (n : ℚ) = a * 2 ^ k := by
    rw [h]
    push_cast
    rfl
  have nearest : Format.double.nearest n 1 = magnitude :=
    Format.small_double.nearest_toRat hm finite npos one_pos (by rw [Nat.cast_one, div_one, number, value])
  have same : (ofFraction false n 1).magnitude = magnitude := by
    rw [ofFraction, nearest, magnitude_ofMagnitude false (finite.trans infinity_lt)]
  exact ⟨by rwa [same], by rwa [same], by rw [toRat, same, value, number]⟩

end Double

end ProtoStore.Number
