import Mathlib.Data.List.TakeWhile
import ProtoStore.Proofs.Json.Numbers

/-!
# Decimals read back

A decimal is written without the zeros at its end, either positionally or with an exponent.
`Layout.spelled` is the significand and the exponent of ten that stand in its text, and the reader
takes exactly these (`unsignedNumber_decimalText`), provided that it can count them, `Decimal.Fits`.
-/

namespace ProtoStore.Number

open ProtoStore.Json

namespace Decimal

/-- The digits that are written. -/
def kept (d : Decimal) : List Char := trimZeros (natText d.digits)

/-- The exponent of ten of the first digit. -/
def leading (d : Decimal) : Int := d.exponent + (natText d.digits).length - 1

/-- What the reader of numbers can count: a significand of 64 bits and an exponent of 32. -/
structure Fits (d : Decimal) : Prop where
  digits : d.digits ≤ wordLimit
  exponent : d.exponent.natAbs ≤ 1000000
  zero : d.digits = 0 → d.exponent = 0

end Decimal

/-- The decimal that stands in the text of another: without the zeros at its end, but for those that a
positional text adds in front of its point and the one after it. -/
def Layout.spelled (layout : Layout) (d : Decimal) : Decimal :=
  if layout.least ≤ d.leading ∧ d.leading ≤ layout.greatest ∧ (d.kept.length : Int) ≤ d.leading + 1 then
    ⟨valueOf d.kept * 10 ^ (d.leading + 2 - d.kept.length).toNat, -1⟩
  else ⟨valueOf d.kept, d.leading + 1 - d.kept.length⟩

/-! ## Digits without zeros at the end -/

/-- The zeros that are left out. -/
theorem natText_eq_trimZeros (n : Nat) :
    ∃ zeros, natText n = trimZeros (natText n) ++ List.replicate zeros '0' := by
  have whole := whole_natText n
  have split : (natText n).reverse.takeWhile (· == '0') ++ (natText n).reverse.dropWhile (· == '0') =
      (natText n).reverse := List.takeWhile_append_dropWhile
  have zeros : (natText n).reverse.takeWhile (· == '0') =
      List.replicate ((natText n).reverse.takeWhile (· == '0')).length '0' :=
    List.eq_replicate_iff.mpr ⟨rfl, fun c hc => by simpa using List.mem_takeWhile_imp hc⟩
  have parts := congrArg List.reverse split
  rw [List.reverse_append, List.reverse_reverse, zeros, List.reverse_replicate] at parts
  unfold trimZeros
  split
  · next none =>
    -- Nothing but zeros: the number is zero, and its one digit stays.
    rw [none, List.nil_append] at parts
    obtain ⟨c, more, hc⟩ := List.exists_cons_of_ne_nil whole.ne_nil
    have first : c = '0' := by
      have : c ∈ natText n := by simp [hc]
      rw [← parts] at this
      exact (List.mem_replicate.mp this).2
    exact ⟨0, by simpa using whole.leading (by rw [hc, first]; rfl)⟩
  · exact ⟨_, parts.symm⟩

namespace Decimal

variable (d : Decimal)

theorem exists_zeros : ∃ zeros, natText d.digits = d.kept ++ List.replicate zeros '0' :=
  natText_eq_trimZeros d.digits

theorem whole_kept : Whole d.kept := by
  obtain ⟨zeros, hz⟩ := d.exists_zeros
  have whole := whole_natText d.digits
  have ne : d.kept ≠ [] := by
    unfold kept trimZeros
    split
    · simp
    · next h => exact h
  have first : d.kept = (natText d.digits).take d.kept.length := by
    rw [hz, List.take_left]
  rw [first]
  exact whole.take (List.length_pos_iff.mpr ne)

/-- The zeros left out only change the exponent. -/
theorem valueOf_kept_mul : valueOf d.kept * 10 ^ ((natText d.digits).length - d.kept.length) = d.digits := by
  obtain ⟨zeros, hz⟩ := d.exists_zeros
  have value := valueOf_natText d.digits
  rw [hz, valueOf, Nat.ofDigitChars_append, Nat.ofDigitChars_replicate_zero] at value
  rw [hz, List.length_append, List.length_replicate, Nat.add_sub_cancel_left, Nat.mul_comm]
  exact value

theorem valueOf_kept_le : valueOf d.kept ≤ d.digits := by
  conv_rhs => rw [← d.valueOf_kept_mul]
  exact Nat.le_mul_of_pos_right _ (Nat.pow_pos (by decide))

theorem kept_length_le : d.kept.length ≤ (natText d.digits).length := by
  obtain ⟨zeros, hz⟩ := d.exists_zeros
  simp [hz]

variable {d}

/-- Only zero is written with a zero in front. -/
theorem Fits.leading_of_zero (h : d.Fits) (hz : d.kept = ['0']) : d.leading = 0 := by
  have none : d.digits = 0 := by
    rw [← d.valueOf_kept_mul, hz]
    simp [valueOf, Nat.ofDigitChars]
  simp [leading, none, h.zero none, natText]

theorem Fits.length_le (h : d.Fits) : (natText d.digits).length ≤ 20 :=
  (Nat.length_toDigits_le_iff (by decide) (by decide)).mpr (lt_of_le_of_lt h.digits (by decide))

theorem Fits.leading_le (h : d.Fits) : d.leading.natAbs ≤ 1000020 := by
  have few := h.length_le
  have near := h.exponent
  unfold leading
  omega

end Decimal

/-! ## The texts of decimals -/

/-- What a reader makes of a decimal after its sign. -/
def Decimal.Reads (d : Decimal) (text : List Char) : Prop :=
  ∀ positive {rest : List Char}, Codec.Ends rest → unsignedNumber positive (text ++ rest) =
    (floatOf positive d.digits d.exponent).map (·, rest)

section

variable {text : List Char} (hw : Whole text) {exponent : Int}

include hw

theorem reads_positional_of_neg (fits : valueOf text ≤ wordLimit) (neg : exponent < 0) :
    Decimal.Reads ⟨valueOf text, exponent + 1 - text.length⟩ (positional text exponent) := by
  intro positive rest h
  have digits := (digits_zeros ((-exponent).toNat - 1)).append hw.digits
  have value : valueOf (['0'] ++ (List.replicate ((-exponent).toNat - 1) '0' ++ text)) = valueOf text := by
    rw [← List.append_assoc, valueOf, Nat.ofDigitChars_append, Nat.ofDigitChars_append,
      Nat.ofDigitChars_replicate_zero]
    simp [Nat.ofDigitChars]
  have count : -((List.replicate ((-exponent).toNat - 1) '0' ++ text).length : Int) =
      exponent + 1 - text.length := by
    rw [List.length_append, List.length_replicate]
    omega
  have read := unsignedNumber_point whole_zero digits (value ▸ fits) positive (by simp [hw.ne_nil]) h
  rw [value, count] at read
  rw [positional, if_pos neg, List.append_assoc, List.append_assoc, ← List.append_assoc _ text rest]
  exact read

theorem reads_positional_of_lt (fits : valueOf text ≤ wordLimit) (nonneg : 0 ≤ exponent)
    (long : exponent + 1 < text.length) :
    Decimal.Reads ⟨valueOf text, exponent + 1 - text.length⟩ (positional text exponent) := by
  intro positive rest h
  have whole : Whole (text.take (exponent.toNat + 1)) := hw.take (Nat.succ_pos _)
  have digits : Digits (text.drop (exponent.toNat + 1)) := fun c hc => hw.digits c (List.mem_of_mem_drop hc)
  have some : text.drop (exponent.toNat + 1) ≠ [] := by
    rw [Ne, List.drop_eq_nil_iff]
    omega
  have count : -((text.drop (exponent.toNat + 1)).length : Int) = exponent + 1 - text.length := by
    rw [List.length_drop]
    omega
  have read := unsignedNumber_point whole digits (by rwa [List.take_append_drop]) positive some h
  rw [List.take_append_drop, count] at read
  have padding : exponent.toNat + 1 - text.length = 0 := by omega
  rw [positional, if_neg (by omega)]
  simp only [padding, List.replicate_zero, List.append_nil, List.isEmpty_iff, some, if_false,
    List.append_assoc, List.singleton_append]
  exact read

theorem reads_positional_of_le (small : exponent ≤ 15) (short : (text.length : Int) ≤ exponent + 1)
    (zero : text = ['0'] → exponent = 0) :
    Decimal.Reads ⟨valueOf text * 10 ^ (exponent + 2 - text.length).toNat, -1⟩
      (positional text exponent) := by
  intro positive rest h
  have pos := List.length_pos_iff.mpr hw.ne_nil
  have padding : (exponent + 2 - text.length).toNat = exponent.toNat + 1 - text.length + 1 := by omega
  have whole : Whole (text ++ List.replicate (exponent.toNat + 1 - text.length) '0') :=
    hw.append_zeros fun hz => by simp [hz, zero hz]
  have value : valueOf (text ++ List.replicate (exponent.toNat + 1 - text.length) '0' ++ ['0']) =
      valueOf text * 10 ^ (exponent + 2 - text.length).toNat := by
    rw [List.append_assoc, ← List.replicate_succ', valueOf, Nat.ofDigitChars_append,
      Nat.ofDigitChars_replicate_zero, padding, Nat.mul_comm]
  have fits : valueOf (text ++ List.replicate (exponent.toNat + 1 - text.length) '0' ++ ['0']) ≤
      wordLimit := by
    -- At most seventeen digits.
    refine (valueOf_lt (whole.digits.append (digits_zeros 1))).le.trans ?_
    refine (Nat.pow_le_pow_right (by decide) (?_ : _ ≤ 17)).trans (by decide)
    simp only [List.length_append, List.length_replicate]
    omega
  have read := unsignedNumber_point whole (digits_zeros 1) fits positive (by simp) h
  rw [show List.replicate 1 '0' = ['0'] from rfl, value] at read
  rw [positional, if_neg (by omega)]
  simp only [List.take_of_length_le (by omega : text.length ≤ exponent.toNat + 1),
    List.drop_of_length_le (by omega : text.length ≤ exponent.toNat + 1), List.isEmpty_nil, if_true,
    List.append_assoc, List.singleton_append] at read ⊢
  exact read

theorem reads_scientific (fits : valueOf text ≤ wordLimit) (small : exponent.natAbs ≤ exponentLimit)
    (counted : (exponent + 1 - text.length).natAbs ≤ exponentLimit) :
    Decimal.Reads ⟨valueOf text, exponent + 1 - text.length⟩ (scientific text exponent) := by
  intro positive rest h
  obtain ⟨c, more, rfl⟩ := List.exists_cons_of_ne_nil hw.ne_nil
  have whole : Whole [c] := by simpa using hw.take (n := 1) (by decide)
  have digits : Digits more := fun d hd => hw.digits d (List.mem_cons_of_mem c hd)
  have count : -(more.length : Int) + exponent = exponent + 1 - (c :: more).length := by
    rw [List.length_cons]
    omega
  have read := unsignedNumber_exponent whole digits fits positive small (count ▸ counted) h
  rw [count] at read
  cases more with
  | nil => simpa [scientific, exponentText] using read
  | cons d more => simpa [scientific, exponentText] using read

end

theorem decimalText_eq (layout : Layout) (d : Decimal) : decimalText layout d =
    if layout.least ≤ d.leading && d.leading ≤ layout.greatest then positional d.kept d.leading
    else scientific d.kept d.leading := rfl

/-- The reader takes what stands in the text of a decimal. -/
theorem unsignedNumber_decimalText {layout : Layout} (small : layout.greatest ≤ 15) {d : Decimal}
    (h : d.Fits) : (layout.spelled d).Reads (decimalText layout d) := by
  have whole := d.whole_kept
  have fits : valueOf d.kept ≤ wordLimit := d.valueOf_kept_le.trans h.digits
  by_cases layed : layout.least ≤ d.leading ∧ d.leading ≤ layout.greatest
  · rw [decimalText_eq, if_pos (by simpa using layed)]
    by_cases short : (d.kept.length : Int) ≤ d.leading + 1
    · rw [Layout.spelled, if_pos ⟨layed.1, layed.2, short⟩]
      exact reads_positional_of_le whole (layed.2.trans small) short h.leading_of_zero
    · rw [Layout.spelled, if_neg fun all => short all.2.2]
      by_cases neg : d.leading < 0
      · exact reads_positional_of_neg whole fits neg
      · exact reads_positional_of_lt whole fits (by omega) (by omega)
  · rw [decimalText_eq, if_neg (by simpa using layed), Layout.spelled,
      if_neg fun all => layed ⟨all.1, all.2.1⟩]
    have near := h.leading_le
    have few := d.kept_length_le.trans h.length_le
    have limit : exponentLimit = 2 ^ 31 - 1 := rfl
    exact reads_scientific whole fits (by omega) (by omega)

/-- A decimal begins with a digit. -/
theorem decimalText_starts (layout : Layout) (d : Decimal) :
    ∃ c rest, decimalText layout d = c :: rest ∧ c.isDigit = true := by
  obtain ⟨c, more, hk⟩ := List.exists_cons_of_ne_nil d.whole_kept.ne_nil
  have digit : c.isDigit = true := d.whole_kept.digits c (by simp [hk])
  rw [decimalText_eq, hk]
  split
  · unfold positional
    split
    · exact ⟨'0', _, rfl, by decide⟩
    · exact ⟨c, _, rfl, digit⟩
  · cases more with
    | nil => exact ⟨c, _, rfl, digit⟩
    | cons d more => exact ⟨c, _, rfl, digit⟩

end ProtoStore.Number
