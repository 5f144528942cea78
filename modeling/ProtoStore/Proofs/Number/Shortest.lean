import Mathlib.Algebra.Order.Field.Power
import Mathlib.Algebra.Order.Field.Rat
import Mathlib.Tactic.FieldSimp
import Mathlib.Tactic.Linarith
import Mathlib.Tactic.NormNum
import Mathlib.Tactic.Positivity
import Mathlib.Tactic.Ring
import ProtoStore.Number.Shortest

/-!
# The shortest decimals are near

`Format.toRat` is the number that a magnitude stands for, and `Interval.Contains` the numbers that read
back as it. `shortest_found` : the search for the shortest decimal of a positive finite magnitude
succeeds, since seventeen places always suffice; what it finds lies in the interval, has a significand
below `2 * 10 ^ 17` and an exponent of few digits.
-/

namespace ProtoStore.Number

/-! ## Fractions -/

/-- A fraction times a power, the power in the numerator or in the denominator. -/
theorem shift_eq (b n d : Nat) (e : Int) :
    let (m, k) := if 0 ≤ e then (n * Nat.pow b e.toNat, d) else (n, d * Nat.pow b (-e).toNat)
    (m : ℚ) / k = n / d * b ^ e := by
  by_cases h : 0 ≤ e
  · obtain ⟨i, rfl⟩ := Int.eq_ofNat_of_zero_le h
    simp only [h, if_true, Nat.pow_eq, Int.toNat_natCast, zpow_natCast]
    push_cast
    ring
  · obtain ⟨i, hi⟩ := Int.eq_ofNat_of_zero_le (by omega : 0 ≤ -e)
    obtain rfl : e = -(i : Int) := by omega
    simp only [h, if_false, Nat.pow_eq, neg_neg, Int.toNat_natCast, zpow_neg, zpow_natCast]
    push_cast
    rw [div_mul_eq_div_div, div_eq_mul_inv (_ / _)]

theorem scaled_eq (n d : Nat) (e : Int) :
    ((Format.scaled n d e).1 : ℚ) / (Format.scaled n d e).2 = n / d * 2 ^ e := shift_eq 2 n d e

theorem tenfold_eq (n d : Nat) (e : Int) :
    ((tenfold n d e).1 : ℚ) / (tenfold n d e).2 = n / d * 10 ^ e := shift_eq 10 n d e

theorem scaled_pos {d : Nat} (h : 0 < d) (n : Nat) (e : Int) : 0 < (Format.scaled n d e).2 := by
  unfold Format.scaled
  split
  · exact h
  · exact Nat.mul_pos h (Nat.pow_pos (by decide))

theorem tenfold_pos {d : Nat} (h : 0 < d) (n : Nat) (e : Int) : 0 < (tenfold n d e).2 := by
  unfold tenfold
  split
  · exact h
  · exact Nat.mul_pos h (Nat.pow_pos (by decide))

/-- A fraction in units of a power, if it is that fraction times the other one. -/
theorem eq_mul_zpow {b q m : ℚ} (hb : b ≠ 0) {guess : Int} (h : m = q * b ^ (-guess)) :
    q = m * b ^ guess := by
  rw [h, mul_assoc, ← zpow_add₀ hb, neg_add_cancel, zpow_zero, mul_one]

/-- Rounding moves a fraction by at most one half. -/
theorem abs_roundQuotient_sub_le (n : Nat) {d : Nat} (h : 0 < d) :
    |(Format.roundQuotient n d : ℚ) - n / d| ≤ 1 / 2 := by
  have pos : (0 : ℚ) < d := by exact_mod_cast h
  have parts : (n : ℚ) / d = (n / d : Nat) + (n % d : Nat) / (d : ℚ) := by
    rw [eq_comm, ← mul_right_inj' pos.ne', mul_add, mul_div_cancel₀ _ pos.ne', mul_div_cancel₀ _ pos.ne']
    exact_mod_cast Nat.div_add_mod n d
  have nonneg : (0 : ℚ) ≤ (n % d : Nat) / (d : ℚ) := by positivity
  have below : ((n % d : Nat) : ℚ) / d < 1 := by
    rw [div_lt_one pos]
    exact_mod_cast Nat.mod_lt n h
  rw [parts, abs_le]
  unfold Format.roundQuotient
  simp only [Bool.or_eq_true, decide_eq_true_eq, Bool.and_eq_true, beq_iff_eq]
  split
  · next less =>
    have : 2 * (n % d) ≤ d := by omega
    have half : ((n % d : Nat) : ℚ) / d ≤ 1 / 2 := by
      rw [div_le_iff₀ pos]
      have : (2 : ℚ) * (n % d : Nat) ≤ d := by exact_mod_cast this
      linarith
    constructor <;> linarith
  · next more =>
    have : d ≤ 2 * (n % d) := by omega
    have half : 1 / 2 ≤ ((n % d : Nat) : ℚ) / d := by
      rw [le_div_iff₀ pos]
      have : (d : ℚ) ≤ 2 * (n % d : Nat) := by exact_mod_cast this
      linarith
    push_cast
    constructor <;> linarith

/-! ## Exponents -/

/-- The exponent of a quotient is that of the difference, or one less. -/
theorem quotient_bounds {b n d : ℚ} (hb : 1 < b) {i j : Int} (hn : b ^ i ≤ n ∧ n < b ^ (i + 1))
    (hd : b ^ j ≤ d ∧ d < b ^ (j + 1)) : b ^ (i - j - 1) ≤ n / d ∧ n / d < b ^ (i - j + 1) := by
  have base : (0 : ℚ) < b := one_pos.trans hb
  have pos : 0 < d := (zpow_pos base j).trans_le hd.1
  constructor
  · rw [le_div_iff₀ pos]
    calc b ^ (i - j - 1) * d ≤ b ^ (i - j - 1) * b ^ (j + 1) :=
          mul_le_mul_of_nonneg_left hd.2.le (zpow_pos base _).le
      _ = b ^ i := by
        rw [← zpow_add₀ base.ne']
        congr 1
        omega
      _ ≤ n := hn.1
  · rw [div_lt_iff₀ pos]
    calc n < b ^ (i + 1) := hn.2
      _ = b ^ (i - j + 1) * b ^ j := by
        rw [← zpow_add₀ base.ne']
        congr 1
        omega
      _ ≤ b ^ (i - j + 1) * d := mul_le_mul_of_nonneg_left hd.1 (zpow_pos base _).le

/-- An exponent that is right or one too great is put right by one comparison. -/
theorem exponent_of_guess {b q : ℚ} {guess : Int} (near : b ^ (guess - 1) ≤ q ∧ q < b ^ (guess + 1))
    {less : Prop} [Decidable less] (h : less ↔ q < b ^ guess) :
    b ^ (if less then guess - 1 else guess) ≤ q ∧ q < b ^ ((if less then guess - 1 else guess) + 1) := by
  split
  · next below =>
    rw [sub_add_cancel]
    exact ⟨near.1, h.mp below⟩
  · next above => exact ⟨not_lt.mp fun below => above (h.mpr below), near.2⟩

theorem digitCount_bounds {n : Nat} (h : 0 < n) :
    (10 : ℚ) ^ ((digitCount n : Int) - 1) ≤ n ∧ (n : ℚ) < 10 ^ ((digitCount n : Int) - 1 + 1) := by
  have pos : 0 < digitCount n := Nat.length_toDigits_pos
  constructor
  · rw [show (digitCount n : Int) - 1 = ((digitCount n - 1 : Nat) : Int) by omega, zpow_natCast]
    by_cases one : digitCount n = 1
    · rw [one]
      simpa using Nat.one_le_iff_ne_zero.mpr h.ne'
    · by_contra less
      have less : n < 10 ^ (digitCount n - 1) := by
        rw [not_le] at less
        exact_mod_cast less
      have := (Nat.length_toDigits_le_iff (by decide) (by omega)).mpr less
      unfold digitCount at this pos one
      omega
  · rw [sub_add_cancel, zpow_natCast]
    exact_mod_cast (Nat.length_toDigits_le_iff (by decide) pos).mp le_rfl

/-- The first digit of a positive fraction has the leading exponent. -/
theorem leadingExponent_spec {n d : Nat} (hn : 0 < n) (hd : 0 < d) :
    (10 : ℚ) ^ leadingExponent n d ≤ n / d ∧ (n : ℚ) / d < 10 ^ (leadingExponent n d + 1) := by
  have near := quotient_bounds (by norm_num) (digitCount_bounds hn) (digitCount_bounds hd)
  rw [sub_sub_sub_cancel_right] at near
  have definition : leadingExponent n d =
      if (tenfold n d (-((digitCount n : Int) - digitCount d))).1 <
          (tenfold n d (-((digitCount n : Int) - digitCount d))).2 then
        (digitCount n : Int) - digitCount d - 1 else (digitCount n : Int) - digitCount d := rfl
  generalize (digitCount n : Int) - digitCount d = guess at near definition
  have pos : (0 : ℚ) < (tenfold n d (-guess)).2 := by exact_mod_cast tenfold_pos hd n _
  rw [definition]
  apply exponent_of_guess near
  rw [eq_mul_zpow (by norm_num) (tenfold_eq n d (-guess)), mul_lt_iff_lt_one_left (by positivity),
    div_lt_one pos, Nat.cast_lt]

/-! ## The numbers that read back -/

/-- Whether a number lies between the bounds of an interval. -/
def Interval.Contains (i : Interval) (q : ℚ) : Prop :=
  if i.closed then i.lower * (2 : ℚ) ^ i.scale ≤ q ∧ q ≤ i.upper * (2 : ℚ) ^ i.scale
  else i.lower * (2 : ℚ) ^ i.scale < q ∧ q < i.upper * (2 : ℚ) ^ i.scale

/-- The number that a decimal stands for. -/
def Decimal.toRat (d : Decimal) : ℚ := d.digits * 10 ^ d.exponent

namespace Interval

variable {i : Interval}

theorem contains_of_lt {q : ℚ} (lower : i.lower * (2 : ℚ) ^ i.scale < q)
    (upper : q < i.upper * (2 : ℚ) ^ i.scale) : i.Contains q := by
  unfold Contains
  split
  · exact ⟨lower.le, upper.le⟩
  · exact ⟨lower, upper⟩

theorem Contains.bounds {q : ℚ} (h : i.Contains q) :
    i.lower * (2 : ℚ) ^ i.scale ≤ q ∧ q ≤ i.upper * (2 : ℚ) ^ i.scale := by
  unfold Contains at h
  split at h
  · exact h
  · exact ⟨h.1.le, h.2.le⟩

theorem holds_iff {digits : Nat} {exponent : Int} :
    i.holds digits exponent = true ↔ i.Contains (Decimal.toRat ⟨digits, exponent⟩) := by
  have dpos : (0 : ℚ) < (tenfold digits 1 exponent).2 := by exact_mod_cast tenfold_pos one_pos digits exponent
  have epos : (0 : ℚ) < (Format.scaled i.lower 1 i.scale).2 := by
    exact_mod_cast scaled_pos one_pos i.lower i.scale
  have same : (Format.scaled i.upper 1 i.scale).2 = (Format.scaled i.lower 1 i.scale).2 := by
    unfold Format.scaled
    split <;> rfl
  have decimal := tenfold_eq digits 1 exponent
  have lower := scaled_eq i.lower 1 i.scale
  have upper := scaled_eq i.upper 1 i.scale
  rw [same] at upper
  simp only [Nat.cast_one, div_one] at decimal lower upper
  rw [Decimal.toRat, Contains, ← decimal, ← lower, ← upper, holds]
  by_cases hc : i.closed
  · simp only [hc, if_true, Bool.and_eq_true, decide_eq_true_eq, div_le_div_iff₀ epos dpos,
      div_le_div_iff₀ dpos epos]
    norm_cast
  · simp only [hc, Bool.false_eq_true, if_false, Bool.and_eq_true, decide_eq_true_eq,
      div_lt_div_iff₀ epos dpos, div_lt_div_iff₀ dpos epos]
    norm_cast

/-- The number in the middle of an interval. -/
def center (i : Interval) : ℚ := i.middle * 2 ^ i.scale

theorem center_eq (i : Interval) :
    ((Format.scaled i.middle 1 i.scale).1 : ℚ) / (Format.scaled i.middle 1 i.scale).2 = i.center := by
  rw [scaled_eq, Nat.cast_one, div_one]
  rfl

/-- The digits nearest to the middle that end with a place. -/
def nearestAt (i : Interval) (exponent : Int) : Nat :=
  let (n, d) := Format.scaled i.middle 1 i.scale
  let (m, k) := tenfold n d (-exponent)
  Format.roundQuotient m k

theorem abs_nearestAt_sub_le (i : Interval) (exponent : Int) :
    |(i.nearestAt exponent : ℚ) - i.center * 10 ^ (-exponent)| ≤ 1 / 2 := by
  have dpos := scaled_pos one_pos i.middle i.scale
  rw [← center_eq, ← tenfold_eq]
  exact abs_roundQuotient_sub_le _ (tenfold_pos dpos _ (-exponent))

/-- One of two candidates is taken. -/
theorem atPlace?_eq (i : Interval) (exponent : Int) : ∃ other, i.atPlace? exponent =
    if i.holds (i.nearestAt exponent) exponent then some ⟨i.nearestAt exponent, exponent⟩
    else if i.holds other exponent then some ⟨other, exponent⟩ else none := ⟨_, rfl⟩

theorem atPlace?_some {exponent : Int} {d : Decimal} (h : i.atPlace? exponent = some d) :
    i.Contains d.toRat ∧ d.exponent = exponent := by
  obtain ⟨other, eq⟩ := i.atPlace?_eq exponent
  rw [eq] at h
  split at h
  · next holds =>
    cases h
    exact ⟨holds_iff.mp holds, rfl⟩
  · split at h
    · next holds =>
      cases h
      exact ⟨holds_iff.mp holds, rfl⟩
    · cases h

theorem search_some {count : Nat} {exponent : Int} {d : Decimal}
    (h : i.search count exponent = some d) :
    i.Contains d.toRat ∧ exponent - count < d.exponent ∧ d.exponent ≤ exponent := by
  induction count generalizing exponent with
  | zero => cases h
  | succ count ih =>
    rcases Option.or_eq_some_iff.mp h with here | ⟨-, later⟩
    · obtain ⟨contained, place⟩ := atPlace?_some here
      exact ⟨contained, by omega, by omega⟩
    · obtain ⟨contained, above, below⟩ := ih later
      exact ⟨contained, by omega, by omega⟩

/-- What the last place gives is found at the latest there. -/
theorem search_isSome {count : Nat} {exponent : Int}
    (h : (i.atPlace? (exponent - count)).isSome) : (i.search (count + 1) exponent).isSome := by
  induction count generalizing exponent with
  | zero => simpa [search] using h
  | succ count ih =>
    have later : (i.search (count + 1) (exponent - 1)).isSome := ih (by
      rwa [show exponent - 1 - (count : Int) = exponent - (count + 1 : Nat) by omega])
    rw [search, Option.isSome_or, later, Bool.or_true]

/-- A place is found where the interval reaches half a place around its middle. -/
theorem atPlace?_isSome {exponent : Int}
    (near : ∀ q, |q - i.center| ≤ 10 ^ exponent / 2 → i.Contains q) : (i.atPlace? exponent).isSome := by
  have power : (0 : ℚ) < 10 ^ exponent := by positivity
  have holds : i.holds (i.nearestAt exponent) exponent = true := by
    rw [holds_iff]
    apply near
    have unit : Decimal.toRat ⟨i.nearestAt exponent, exponent⟩ - i.center =
        (i.nearestAt exponent - i.center * 10 ^ (-exponent)) * 10 ^ exponent := by
      rw [Decimal.toRat, sub_mul, mul_assoc i.center, ← zpow_add₀ (by norm_num), neg_add_cancel, zpow_zero,
        mul_one]
    rw [unit, abs_mul, abs_of_pos power]
    linarith [mul_le_mul_of_nonneg_right (i.abs_nearestAt_sub_le exponent) power.le]
  obtain ⟨other, eq⟩ := i.atPlace?_eq exponent
  rw [eq, if_pos holds]
  rfl

end Interval

/-! ## The shortest decimal -/

namespace Format

variable (format : Format) {magnitude : Nat}

/-- The number that a finite magnitude stands for. -/
def toRat (magnitude : Nat) : ℚ := format.significand magnitude * 2 ^ format.scale magnitude

theorem significand_lt : format.significand magnitude < 2 ^ (format.fractionBits + 1) := by
  have := Nat.mod_lt magnitude (Nat.pow_pos (n := format.fractionBits) (by decide : 0 < 2))
  unfold significand
  simp only [Nat.pow_eq, pow_succ]
  split <;> omega

theorem significand_pos (h : 0 < magnitude) : 0 < format.significand magnitude := by
  unfold significand
  simp only [Nat.pow_eq]
  split
  · next small =>
    rw [Nat.mod_eq_of_lt small]
    exact h
  · exact Nat.add_pos_left (Nat.pow_pos (by decide)) _

theorem toRat_pos (h : 0 < magnitude) : 0 < format.toRat magnitude := by
  have : (0 : ℚ) < format.significand magnitude := by exact_mod_cast format.significand_pos h
  unfold toRat
  positivity

/-- In the units of an interval, one step of the significand is four. -/
theorem quarter_eq (magnitude : Nat) :
    (2 : ℚ) ^ (format.scale magnitude - 2) = 2 ^ format.scale magnitude / 4 := by
  rw [zpow_sub₀ two_ne_zero]
  norm_num

theorem toRat_eq_quarters (magnitude : Nat) : format.toRat magnitude =
    4 * format.significand magnitude * 2 ^ (format.scale magnitude - 2) := by
  rw [toRat, quarter_eq]
  ring

theorem center_interval : (format.interval magnitude).center = format.toRat magnitude := by
  rw [toRat_eq_quarters, Interval.center, interval]
  push_cast
  rfl

/-- Formats of at most double precision. -/
structure Small : Prop where
  fraction : format.fractionBits ≤ 52
  exponent : format.exponentBits ≤ 11

theorem small_double : Format.double.Small := ⟨by decide, by decide⟩

theorem small_single : Format.single.Small := ⟨by decide, by decide⟩

variable {format}

theorem Small.significand_lt (h : format.Small) : (format.significand magnitude : ℚ) < 2 ^ 53 := by
  have : format.significand magnitude < 2 ^ 53 :=
    (format.significand_lt).trans_le (Nat.pow_le_pow_right (by decide) (by have := h.fraction; omega))
  exact_mod_cast this

/-- The interval of a magnitude reaches one part in `2 * 10 ^ 16` around it. -/
theorem Small.interval_contains (h : format.Small) (pos : 0 < magnitude) {q : ℚ}
    (near : |q - format.toRat magnitude| ≤ format.toRat magnitude / (2 * 10 ^ 16)) :
    (format.interval magnitude).Contains q := by
  have large : (format.significand magnitude : ℚ) < 2 ^ 53 := h.significand_lt
  have least : 1 ≤ format.significand magnitude := format.significand_pos pos
  have edge : format.significand magnitude = 2 ^ format.fractionBits →
      (format.significand magnitude : ℚ) ≤ 2 ^ 52 := by
    intro he
    rw [he]
    exact_mod_cast Nat.pow_le_pow_right (n := 2) (by decide) h.fraction
  have unit : (0 : ℚ) < 2 ^ (format.scale magnitude - 2) := by positivity
  rw [toRat_eq_quarters, abs_le] at near
  apply Interval.contains_of_lt
  · simp only [interval, Nat.pow_eq]
    split
    · next he =>
      have few := edge (by simpa using (Bool.and_eq_true_iff.mp he).1)
      rw [Nat.cast_sub (by omega)]
      push_cast
      nlinarith
    · rw [Nat.cast_sub (by omega)]
      push_cast
      nlinarith
  · simp only [interval]
    push_cast
    nlinarith

/-- The bounds of the interval of a magnitude are positive, and at most half of it away. -/
theorem interval_bounds (pos : 0 < magnitude) {q : ℚ} (h : (format.interval magnitude).Contains q) :
    0 < q ∧ q ≤ 3 / 2 * format.toRat magnitude := by
  have least : 1 ≤ format.significand magnitude := format.significand_pos pos
  have cast : (1 : ℚ) ≤ format.significand magnitude := by exact_mod_cast least
  have unit : (0 : ℚ) < 2 ^ (format.scale magnitude - 2) := by positivity
  obtain ⟨lower, upper⟩ := h.bounds
  constructor
  · refine lt_of_lt_of_le ?_ lower
    have : 0 < (format.interval magnitude).lower := by
      simp only [interval]
      split <;> omega
    have : (0 : ℚ) < (format.interval magnitude).lower := by exact_mod_cast this
    simp only [interval] at this ⊢
    positivity
  · refine upper.trans ?_
    rw [toRat_eq_quarters]
    simp only [interval]
    push_cast
    nlinarith

/-- The exponents of two of a format are at most of four digits. -/
theorem Small.scale_bounds (h : format.Small) (finite : magnitude < format.infinity) :
    -1074 ≤ format.scale magnitude ∧ format.scale magnitude ≤ 2048 := by
  have fraction := h.fraction
  have most : 2 ^ format.exponentBits ≤ 2 ^ 11 := Nat.pow_le_pow_right (by decide) h.exponent
  have half : 2 ^ (format.exponentBits - 1) ≤ 2 ^ 10 :=
    Nat.pow_le_pow_right (by decide) (by have := h.exponent; omega)
  have one : 1 ≤ 2 ^ (format.exponentBits - 1) := Nat.one_le_two_pow
  have steps : magnitude / 2 ^ format.fractionBits < 2 ^ format.exponentBits - 1 := by
    rw [Nat.div_lt_iff_lt_mul (Nat.pow_pos (by decide))]
    exact finite
  unfold scale leastScale
  simp only [Nat.pow_eq]
  omega

theorem Small.toRat_bounds (h : format.Small) (pos : 0 < magnitude) (finite : magnitude < format.infinity) :
    (10 : ℚ) ^ (-1074 : Int) ≤ format.toRat magnitude ∧ format.toRat magnitude < 10 ^ (2101 : Int) := by
  obtain ⟨least, greatest⟩ := h.scale_bounds finite
  have one : (1 : ℚ) ≤ format.significand magnitude := by exact_mod_cast format.significand_pos pos
  have unit : (0 : ℚ) < 2 ^ format.scale magnitude := by positivity
  constructor
  · calc (10 : ℚ) ^ (-1074 : Int) ≤ 2 ^ (-1074 : Int) := by
          rw [zpow_neg, zpow_neg]
          gcongr
          exact zpow_le_zpow_left₀ (by norm_num) (by norm_num) (by norm_num)
      _ ≤ 2 ^ format.scale magnitude := zpow_le_zpow_right₀ (by norm_num) least
      _ ≤ format.toRat magnitude := le_mul_of_one_le_left unit.le one
  · calc format.toRat magnitude < 2 ^ 53 * 2 ^ format.scale magnitude := by
          unfold toRat
          gcongr
          exact h.significand_lt
      _ ≤ 2 ^ 53 * 2 ^ (2048 : Int) := by
          gcongr
          norm_num
      _ ≤ 10 ^ (2101 : Int) := by
          rw [← zpow_natCast, ← zpow_add₀ (by norm_num),
            show ((53 : Nat) : Int) + 2048 = 2101 by norm_num]
          exact zpow_le_zpow_left₀ (by norm_num) (by norm_num) (by norm_num)

end Format

/-- What the search for the shortest decimal of a magnitude finds. -/
structure Found (format : Format) (magnitude : Nat) (d : Decimal) : Prop where
  /-- It reads back as the magnitude. -/
  contained : (format.interval magnitude).Contains d.toRat
  positive : 0 < d.digits
  digits : d.digits < 2 * 10 ^ 17
  exponent : d.exponent.natAbs ≤ 3000

section

variable {format : Format} {magnitude : Nat} (pos : 0 < magnitude)

include pos

/-- The search begins at the first digit of the number. -/
theorem shortest_eq : ∃ first : Int,
    shortest format magnitude = ((format.interval magnitude).search 17 first).getD ⟨0, 0⟩ ∧
      (10 : ℚ) ^ first ≤ format.toRat magnitude ∧ format.toRat magnitude < 10 ^ (first + 1) := by
  have dpos := scaled_pos one_pos (format.interval magnitude).middle (format.interval magnitude).scale
  have fraction := (format.interval magnitude).center_eq
  generalize hn : (Format.scaled (format.interval magnitude).middle 1
    (format.interval magnitude).scale).1 = n at fraction
  generalize hd : (Format.scaled (format.interval magnitude).middle 1
    (format.interval magnitude).scale).2 = d at dpos fraction
  have definition : shortest format magnitude =
      ((format.interval magnitude).search 17 (leadingExponent n d)).getD ⟨0, 0⟩ := by
    rw [← hn, ← hd]
    rfl
  rw [Format.center_interval] at fraction
  have npos : 0 < n := by
    by_contra zero
    rw [Nat.eq_zero_of_not_pos zero, Nat.cast_zero, zero_div] at fraction
    exact (format.toRat_pos pos).ne fraction
  refine ⟨_, definition, ?_⟩
  rw [← fraction]
  exact leadingExponent_spec npos dpos

/-- Seventeen places are fine enough for the interval of a magnitude. -/
theorem Format.Small.search_isSome (h : format.Small) {first : Int}
    (lower : (10 : ℚ) ^ first ≤ format.toRat magnitude) :
    ((format.interval magnitude).search 17 first).isSome := by
  refine Interval.search_isSome (Interval.atPlace?_isSome fun q near => h.interval_contains pos ?_)
  rw [Format.center_interval, zpow_sub₀ (by norm_num)] at near
  refine near.trans ?_
  rw [div_div, div_le_div_iff₀ (by positivity) (by positivity)]
  norm_num
  nlinarith

/-- Seventeen places suffice. -/
theorem shortest_found (h : format.Small) (finite : magnitude < format.infinity) :
    Found format magnitude (shortest format magnitude) := by
  obtain ⟨least, greatest⟩ := h.toRat_bounds pos finite
  obtain ⟨first, definition, lower, upper⟩ := shortest_eq pos
  obtain ⟨decimal, found⟩ := Option.isSome_iff_exists.mp (h.search_isSome pos lower)
  rw [definition, found, Option.getD_some]
  obtain ⟨contained, above, below⟩ := Interval.search_some found
  obtain ⟨positive, most⟩ := Format.interval_bounds pos contained
  have power : (0 : ℚ) < 10 ^ decimal.exponent := by positivity
  have ten : (1 : ℚ) < 10 := by norm_num
  have firstLe : first < 2101 := (zpow_lt_zpow_iff_right₀ ten).mp (lower.trans_lt greatest)
  have firstGe : -1074 < first + 1 := (zpow_lt_zpow_iff_right₀ ten).mp (least.trans_lt upper)
  refine ⟨contained, ?_, ?_, by omega⟩
  · by_contra zero
    rw [Decimal.toRat, Nat.eq_zero_of_not_pos zero, Nat.cast_zero, zero_mul] at positive
    exact positive.false
  · have : (decimal.digits : ℚ) * 10 ^ decimal.exponent < 2 * 10 ^ 17 * 10 ^ decimal.exponent := by
      calc (decimal.digits : ℚ) * 10 ^ decimal.exponent ≤ 3 / 2 * format.toRat magnitude := most
        _ < 2 * 10 ^ (first + 1) := by linarith
        _ ≤ 2 * 10 ^ (17 + decimal.exponent) :=
          mul_le_mul_of_nonneg_left (zpow_le_zpow_right₀ (by norm_num) (by omega)) (by norm_num)
        _ = 2 * 10 ^ 17 * 10 ^ decimal.exponent := by
          rw [zpow_add₀ (by norm_num), mul_assoc]
          norm_num
    exact_mod_cast lt_of_mul_lt_mul_right this power.le

end

end ProtoStore.Number
