import ProtoStore.Proofs.Json.Decimals
import ProtoStore.Proofs.Number.Nearest

/-!
# Floats read back

A finite float is written as its shortest decimal, and the reader makes a double of it again by one
multiplication or division by a power of ten. `Double.reread` and `Single.reread` are what comes of
this arithmetic.

* `readsIn_double`, `readsIn_single` : the text of a float is read as `reread`, and that of a float that
  is not finite, `null`, not at all;
* `Double.reread_of_short` : the arithmetic is right for decimals with a significand below `2 ^ 53` and
  an exponent of ten of at most 22, to both sides.
-/

namespace ProtoStore.Number

open ProtoStore.Json

/-- The decimal that a finite magnitude is written as. -/
def Format.decimal (format : Format) (magnitude : Nat) : Decimal :=
  if magnitude = 0 then ⟨0, 0⟩ else shortest format magnitude

/-- What the reader makes of the text of a finite float: the significand in it as a double, once
multiplied or divided by a power of ten, with the sign of the float. -/
def reread (format : Format) (layout : Layout) (negative : Bool) (magnitude : Nat) : Option Double :=
  let spelled := layout.spelled (format.decimal magnitude)
  (scaleByTen (Double.ofInt spelled.digits) spelled.exponent).map fun x =>
    if negative then x.negate else x

/-- What a double is read as, if its text can be read. -/
def Double.reread (x : Double) : Option Double :=
  if x.isFinite then Number.reread .double .double x.isNegative x.magnitude else none

/-- What a single is read as, if its text can be read: it is read as a double first. -/
def Single.reread (x : Single) : Option Single :=
  if x.isFinite then (Number.reread .single .single x.isNegative x.magnitude).map Single.ofDouble
  else none

/-! ## Short decimals -/

/-- The text of a decimal stands for it. -/
theorem Layout.spelled_toRat (layout : Layout) (d : Decimal) : (layout.spelled d).toRat = d.toRat := by
  have digits : (d.digits : ℚ) =
      valueOf d.kept * 10 ^ (((natText d.digits).length : Int) - d.kept.length) := by
    have value := d.valueOf_kept_mul
    have few := d.kept_length_le
    conv_lhs => rw [← value]
    rw [← Nat.cast_sub few, zpow_natCast]
    push_cast
    rfl
  have whole : (d.digits : ℚ) * 10 ^ d.exponent =
      valueOf d.kept * 10 ^ (d.leading + 1 - d.kept.length) := by
    rw [digits, mul_assoc, ← zpow_add₀ (by norm_num), Decimal.leading]
    congr 2
    ring
  unfold Layout.spelled
  split
  · next h =>
    rw [Decimal.toRat, Decimal.toRat, whole]
    push_cast
    rw [mul_assoc, ← zpow_natCast, ← zpow_add₀ (by norm_num), Int.toNat_of_nonneg (by omega)]
    congr 2
    ring
  · rw [Decimal.toRat, Decimal.toRat, whole]

/-- Decimals that the reader's arithmetic is exact for, but for one rounding: their significand is a
double, and so is the power of ten. -/
structure Decimal.Short (d : Decimal) : Prop where
  digits : d.digits < 2 ^ 53
  exponent : d.exponent.natAbs ≤ 22

instance (d : Decimal) : Decidable d.Short :=
  decidable_of_iff (d.digits < 2 ^ 53 ∧ d.exponent.natAbs ≤ 22) ⟨fun h => ⟨h.1, h.2⟩, fun h => ⟨h.1, h.2⟩⟩

theorem is_powerOfTen {n : Nat} (h : n ≤ 22) : (powerOfTen n).Is (10 ^ n : ℚ) := by
  have few : 5 ^ n < 2 ^ 53 := lt_of_le_of_lt (Nat.pow_le_pow_right (by decide) h) (by decide)
  have power : Nat.pow 10 n = 5 ^ n * 2 ^ n := Nat.mul_pow 5 2 n
  have is := Double.is_ofFraction (Nat.pow_pos (by decide)) few (by omega : n ≤ 900) power
  rwa [Nat.pow_eq, Nat.cast_pow] at is

theorem is_ofInt {n : Nat} (pos : 0 < n) (few : n < 2 ^ 53) : (Double.ofInt n).Is n := by
  have is := Double.is_ofFraction pos few (Nat.zero_le 900) (by simp : n = n * 2 ^ 0)
  have natural : Double.ofInt n = Double.ofFraction false n 1 := by
    rw [Double.ofInt, decide_eq_false (Int.not_lt.mpr (Int.natCast_nonneg n)), Int.natAbs_natCast]
  rwa [natural]

/-- A short decimal is read as the double in whose interval it lies. -/
theorem scaleByTen_of_contains {d : Decimal} (positive : 0 < d.digits) (short : d.Short) {magnitude : Nat}
    (pos : 0 < magnitude) (finite : magnitude < Format.double.infinity)
    (h : (Format.double.interval magnitude).Contains d.toRat) :
    scaleByTen (Double.ofInt d.digits) d.exponent = some (.ofMagnitude false magnitude) := by
  have significand := is_ofInt positive short.digits
  have small := short.exponent
  have nonzero : ¬ ((Double.ofInt d.digits).magnitude == 0) = true := by
    simpa using significand.positive.ne'
  rw [scaleByTen, if_neg nonzero]
  by_cases sign : 0 ≤ d.exponent
  · obtain ⟨n, hn⟩ := Int.eq_ofNat_of_zero_le sign
    have power := is_powerOfTen (by omega : n ≤ 22)
    have value : d.toRat = (Double.ofInt d.digits).toRat * (powerOfTen n).toRat := by
      rw [significand.value, power.value, Decimal.toRat, hn, zpow_natCast]
    rw [if_pos sign, if_pos (by omega), hn, Int.toNat_natCast,
      Double.times_of_contains significand.positive power.positive pos finite (value ▸ h)]
    have isFinite : (Double.ofMagnitude false magnitude).isFinite = true := by
      rw [Double.isFinite, Double.magnitude_ofMagnitude false (finite.trans Double.infinity_lt)]
      simpa using finite
    simp only [isFinite, if_true]
  · obtain ⟨n, hn⟩ := Int.eq_ofNat_of_zero_le (by omega : 0 ≤ -d.exponent)
    have power := is_powerOfTen (by omega : n ≤ 22)
    have value : d.toRat = (Double.ofInt d.digits).toRat / (powerOfTen n).toRat := by
      rw [significand.value, power.value, Decimal.toRat, show d.exponent = -(n : Int) by omega, zpow_neg,
        zpow_natCast, div_eq_mul_inv]
    rw [if_neg sign, if_pos (by omega), hn, Int.toNat_natCast,
      Double.dividedBy_of_contains significand.positive power.positive pos finite (value ▸ h)]

/-- A finite double with a short decimal is read back as itself. -/
theorem Double.reread_of_short {x : Double} (finite : x.isFinite = true)
    (short : (Layout.double.spelled (Format.double.decimal x.magnitude)).Short) :
    x.reread = some x := by
  have bound : x.magnitude < Format.double.infinity := by simpa [Double.isFinite] using finite
  have same := x.ofMagnitude_self
  rw [Double.reread, if_pos finite, Number.reread]
  by_cases zero : x.magnitude = 0
  · have decimal : Layout.double.spelled (Format.double.decimal 0) = ⟨0, -1⟩ := by decide
    have none : scaleByTen (Double.ofInt (0 : Nat)) (-1) = some .zero := by decide +kernel
    rw [zero] at same ⊢
    simp only [decimal, none, Option.map_some]
    conv_rhs => rw [← same]
    cases x.isNegative <;> decide
  · have found := shortest_found (Nat.pos_of_ne_zero zero) Format.small_double bound
    have decimal : Format.double.decimal x.magnitude = shortest .double x.magnitude := if_neg zero
    have value := Layout.double.spelled_toRat (Format.double.decimal x.magnitude)
    have contained := found.contained
    rw [← decimal, ← value] at contained
    have positive : 0 < (Layout.double.spelled (Format.double.decimal x.magnitude)).digits := by
      by_contra none
      have := (Format.interval_bounds (Nat.pos_of_ne_zero zero) contained).1
      rw [Decimal.toRat, Nat.eq_zero_of_not_pos none, Nat.cast_zero, zero_mul] at this
      exact this.false
    simp only [scaleByTen_of_contains positive short (Nat.pos_of_ne_zero zero) bound contained,
      Option.map_some, negate_ofMagnitude (bound.trans infinity_lt)]
    conv_rhs => rw [← same]
    cases x.isNegative <;> rfl

/-! ## Texts of magnitudes -/

theorem Found.fits {format : Format} {magnitude : Nat} {d : Decimal} (h : Found format magnitude d) :
    d.Fits where
  digits := h.digits.le.trans (by decide)
  exponent := h.exponent.trans (by decide)
  zero none := absurd none h.positive.ne'

theorem Format.Small.fits_decimal {format : Format} (h : format.Small) {magnitude : Nat}
    (finite : magnitude < format.infinity) : (format.decimal magnitude).Fits := by
  unfold Format.decimal
  split
  · exact ⟨by decide, by decide, fun _ => rfl⟩
  · next pos => exact (shortest_found (Nat.pos_of_ne_zero pos) h finite).fits

/-- A layout in which zero is written as `0.0` and no more than sixteen digits stand before a point. -/
structure Layout.Usual (layout : Layout) : Prop where
  least : layout.least ≤ 0
  zero : 0 ≤ layout.greatest
  greatest : layout.greatest ≤ 15

theorem Layout.usual_double : Layout.double.Usual := ⟨by decide, by decide, by decide⟩

theorem Layout.usual_single : Layout.single.Usual := ⟨by decide, by decide, by decide⟩

theorem magnitudeText_eq {layout : Layout} (h : layout.Usual) (format : Format) (magnitude : Nat) :
    magnitudeText format layout magnitude = decimalText layout (format.decimal magnitude) := by
  unfold magnitudeText Format.decimal
  by_cases zero : magnitude = 0
  · have leading : Decimal.leading ⟨0, 0⟩ = 0 := by decide
    have layed : (layout.least ≤ Decimal.leading ⟨0, 0⟩ && Decimal.leading ⟨0, 0⟩ ≤ layout.greatest) =
        true := by simp [leading, h.least, h.zero]
    rw [if_pos (by simpa using zero), if_pos zero, decimalText_eq, if_pos layed]
    decide
  · rw [if_neg (by simpa using zero), if_neg zero]

/-- The text of a float with its sign. -/
theorem number_magnitudeText {format : Format} (small : format.Small) {layout : Layout} (h : layout.Usual)
    {magnitude : Nat} (finite : magnitude < format.infinity) (negative : Bool) {rest : List Char}
    (ends : Codec.Ends rest) :
    number ((if negative then '-' :: magnitudeText format layout magnitude
      else magnitudeText format layout magnitude) ++ rest) =
      (reread format layout negative magnitude).map fun x => (.float x, rest) := by
  have reads := unsignedNumber_decimalText h.greatest (small.fits_decimal finite)
  obtain ⟨c, more, text, digit⟩ := decimalText_starts layout (format.decimal magnitude)
  rw [magnitudeText_eq h]
  cases negative with
  | true =>
    rw [if_pos rfl, List.cons_append, number_minus, reads false ends, floatOf, reread, Option.map_map,
      Option.map_map]
    rfl
  | false =>
    rw [if_neg (by decide), text, List.cons_append, number_digit digit, ← List.cons_append, ← text,
      reads true ends, floatOf, reread, Option.map_map, Option.map_map]
    rfl

theorem numeric_magnitudeText {layout : Layout} (h : layout.Usual) (format : Format) (magnitude : Nat)
    (negative : Bool) : Numeric (if negative then '-' :: magnitudeText format layout magnitude
      else magnitudeText format layout magnitude) := by
  obtain ⟨c, more, text, digit⟩ := decimalText_starts layout (format.decimal magnitude)
  cases negative with
  | true => exact ⟨'-', _, rfl, .inl rfl⟩
  | false => exact ⟨c, more, by rw [if_neg (by decide), magnitudeText_eq h, text], .inr digit⟩

end ProtoStore.Number

namespace ProtoStore.Json.Codec

open ProtoStore.Number

/-! ## Codecs -/

/-- No number begins like `null`. -/
theorem number_null (rest : List Char) : number ("null".toList ++ rest) = none := rfl

section

variable {α : Type} {codec : Codec α} {x : α} {text : Option (List Char)} {negative finite : Bool}
  {format : Format} {layout : Layout} {magnitude : Nat}

/-- Codecs that write a float, or `null`, and make a value of the number that is read. -/
theorem readsIn_float (small : format.Small) (usual : layout.Usual)
    (bound : finite = true → magnitude < format.infinity)
    (write : codec.write x = if finite then
      if negative then '-' :: magnitudeText format layout magnitude
      else magnitudeText format layout magnitude
      else "null".toList)
    (back : Double → α)
    (read : ∀ text, number text = none → codec.read text = none)
    (readFloat : ∀ text y rest, number text = some (.float y, rest) → codec.read text = some (back y, rest)) :
    codec.ReadsIn ']' x (if finite then (reread format layout negative magnitude).map back else none) := by
  cases finite with
  | true =>
    rw [if_pos rfl] at write ⊢
    refine ⟨write ▸ (numeric_magnitudeText usual format magnitude negative).starts, fun {rest} ends => ?_⟩
    have text := number_magnitudeText small usual (bound rfl) negative ends
    rw [← write] at text
    cases h : reread format layout negative magnitude with
    | none => exact read _ (by rw [text, h]; rfl)
    | some y => exact readFloat _ y rest (by rw [text, h]; rfl)
  | false =>
    rw [if_neg (by decide)] at write ⊢
    refine ⟨⟨'n', _, write, by decide, by decide⟩, fun {rest} _ => ?_⟩
    exact read _ (write ▸ number_null rest)

end

theorem readsIn_double (x : Double) : double.ReadsIn ']' x x.reread := by
  have float : double.ReadsIn ']' x (if x.isFinite then
      (reread .double .double x.isNegative x.magnitude).map id else none) :=
    readsIn_float Format.small_double Layout.usual_double (by simp [Double.isFinite]) (by
        show x.text?.getD _ = _
        unfold Double.text?
        cases x.isFinite <;> rfl)
      id (fun text h => by simp [double, h]) (fun text y rest h => by simp [double, h])
  rwa [Option.map_id] at float

theorem readsIn_single (x : Single) : single.ReadsIn ']' x x.reread :=
  readsIn_float Format.small_single Layout.usual_single (by simp [Single.isFinite]) (by
      show x.text?.getD _ = _
      unfold Single.text?
      cases x.isFinite <;> rfl)
    Single.ofDouble (fun text h => by simp [single, h]) (fun text y rest h => by simp [single, h])

end ProtoStore.Json.Codec
