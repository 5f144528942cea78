import Mathlib.Tactic.Linarith
import Mathlib.Tactic.Ring
import ProtoStore.Proofs.Json.Codec

/-!
# Numbers read back

What the reader of numbers makes of the texts that numbers are written as.

* `number_intText` : an integer of 64 bits is read as itself; `Codec.readsBack_int32` and its siblings,
  integers of all widths;
* `unsignedNumber_point`, `unsignedNumber_exponent` : of digits around a point, and of digits with an
  exponent, the reader takes the significand and the exponent of ten that stand there, and gives them to
  `floatOf`.
-/

namespace ProtoStore.Json

open ProtoStore.Number

/-! ## Digits -/

/-- The number that digits stand for. -/
abbrev valueOf (digits : List Char) : Nat := Nat.ofDigitChars 10 digits 0

/-- Only digits. -/
def Digits (text : List Char) : Prop := ∀ c ∈ text, c.isDigit = true

/-- No digit comes first. -/
def NoDigit (text : List Char) : Prop := ∀ c ∈ text.head?, c.isDigit = false

theorem Digits.append {text more : List Char} (h : Digits text) (hm : Digits more) :
    Digits (text ++ more) := fun c hc => (List.mem_append.mp hc).elim (h c) (hm c)

theorem digits_zeros (n : Nat) : Digits (List.replicate n '0') := by
  intro c hc
  rw [(List.mem_replicate.mp hc).2]
  rfl

theorem digits_natText (n : Nat) : Digits (natText n) := fun _ hc =>
  Nat.isDigit_of_mem_toDigits (by decide) (by decide) hc

@[simp]
theorem valueOf_natText (n : Nat) : valueOf (natText n) = n :=
  Nat.ofDigitChars_toDigits (by decide) (by decide)

theorem foldl_digitValue (text : List Char) :
    text.foldl (fun n c => n * 10 + digitValue c) 0 = valueOf text := by
  simp only [valueOf, Nat.ofDigitChars_eq_foldl, Nat.mul_comm 10]
  rfl

theorem digitValue_lt {c : Char} (h : c.isDigit = true) : digitValue c < 10 := by
  simp only [Char.isDigit, Bool.and_eq_true, decide_eq_true_eq, UInt32.le_iff_toNat_le] at h
  have := h.2
  simp only [digitValue, Char.toNat]
  change c.val.toNat ≤ 57 at this
  omega

theorem valueOf_lt {digits : List Char} (h : Digits digits) : valueOf digits < 10 ^ digits.length := by
  induction digits with
  | nil => simp [valueOf]
  | cons c digits ih =>
    have first : c.toNat - '0'.toNat < 10 := digitValue_lt (h c List.mem_cons_self)
    have more := ih fun d hd => h d (List.mem_cons_of_mem c hd)
    rw [valueOf, Nat.ofDigitChars_cons, Nat.ofDigitChars_eq_ofDigitChars_zero, List.length_cons, pow_succ]
    nlinarith [Nat.mul_le_mul_left (10 ^ digits.length) (Nat.le_of_lt_succ first)]

theorem le_ofDigitChars (digits : List Char) (n : Nat) : n ≤ Nat.ofDigitChars 10 digits n := by
  rw [Nat.ofDigitChars_eq_ofDigitChars_zero]
  have : 1 * n ≤ 10 ^ digits.length * n := Nat.mul_le_mul_right n (Nat.one_le_pow _ _ (by decide))
  omega

theorem takeWhile_noDigit {text : List Char} (h : NoDigit text) : text.takeWhile (·.isDigit) = [] := by
  cases text <;> simp_all [NoDigit]

theorem dropWhile_noDigit {text : List Char} (h : NoDigit text) : text.dropWhile (·.isDigit) = text := by
  cases text <;> simp_all [NoDigit]

theorem takeWhile_digits {digits rest : List Char} (hd : Digits digits) (hr : NoDigit rest) :
    (digits ++ rest).takeWhile (·.isDigit) = digits := by
  rw [List.takeWhile_append_of_pos hd, takeWhile_noDigit hr, List.append_nil]

theorem dropWhile_digits {digits rest : List Char} (hd : Digits digits) (hr : NoDigit rest) :
    (digits ++ rest).dropWhile (·.isDigit) = rest := by
  rw [List.dropWhile_append_of_pos hd, dropWhile_noDigit hr]

/-- Digits that fit are all taken. -/
theorem takeDigits_append {digits rest : List Char} (hd : Digits digits) (hr : NoDigit rest)
    {significand : Nat} (count : Nat) (fits : Nat.ofDigitChars 10 digits significand ≤ wordLimit) :
    takeDigits significand count (digits ++ rest) =
      (Nat.ofDigitChars 10 digits significand, count + digits.length, rest) := by
  induction digits generalizing significand count with
  | nil => cases rest <;> simp_all [NoDigit, takeDigits]
  | cons c digits ih =>
    have step : 10 * significand + (c.toNat - '0'.toNat) = significand * 10 + digitValue c := by
      rw [Nat.mul_comm]
      rfl
    rw [Nat.ofDigitChars_cons, step] at fits ⊢
    -- The digits that follow only make the significand greater.
    have first := (le_ofDigitChars digits (significand * 10 + digitValue c)).trans fits
    rw [List.cons_append, takeDigits, hd c List.mem_cons_self]
    simp only [Bool.true_and, decide_eq_true_eq, first, if_true]
    rw [ih (fun d h => hd d (List.mem_cons_of_mem c h)) (count + 1) fits, List.length_cons, Nat.add_assoc,
      Nat.add_comm 1]

/-! ## Numerals -/

/-- Digits that a number can begin with: no zero comes first but a single one. -/
structure Whole (text : List Char) : Prop where
  digits : Digits text
  ne_nil : text ≠ []
  leading : text.head? = some '0' → text = ['0']

theorem whole_zero : Whole ['0'] := ⟨digits_zeros 1, by simp, fun _ => rfl⟩

theorem whole_natText (n : Nat) : Whole (natText n) where
  digits := digits_natText n
  ne_nil := Nat.toDigits_ne_nil
  leading := by
    intro h
    obtain ⟨digits, hd⟩ := List.head?_eq_some_iff.mp h
    -- Without the zero there would be fewer digits for the same number.
    have short : valueOf digits = n := by
      rw [← valueOf_natText n, hd, valueOf, valueOf, Nat.ofDigitChars_cons]
      rfl
    have digitsOnly : Digits digits := fun c hc => digits_natText n c (by simp [hd, hc])
    by_contra hne
    have pos : 0 < digits.length := by
      cases digits with
      | nil => exact absurd hd hne
      | cons => simp
    have few := (Nat.length_toDigits_le_iff (by decide) pos).mpr (short ▸ valueOf_lt digitsOnly)
    rw [show Nat.toDigits 10 n = '0' :: digits from hd, List.length_cons] at few
    omega

/-- A prefix of a number's digits can begin a number. -/
theorem Whole.take {digits : List Char} (h : Whole digits) {n : Nat} (hn : 0 < n) :
    Whole (digits.take n) where
  digits c hc := h.digits c (List.mem_of_mem_take hc)
  ne_nil := by
    have := h.ne_nil
    cases digits <;> cases n <;> simp_all
  leading hc := by
    rw [List.head?_take, if_neg (by omega)] at hc
    rw [h.leading hc]
    cases n <;> simp_all

theorem Whole.append_zeros {text : List Char} (h : Whole text) {n : Nat} (hn : text = ['0'] → n = 0) :
    Whole (text ++ List.replicate n '0') where
  digits := h.digits.append (digits_zeros n)
  ne_nil := by simp [h.ne_nil]
  leading hc := by
    obtain ⟨c, more, rfl⟩ := List.exists_cons_of_ne_nil h.ne_nil
    have zero := h.leading hc
    rw [zero, hn zero]
    rfl

/-- A number after its sign begins with its digits, which are its significand if they fit. -/
theorem unsignedNumber_append {digits rest : List Char} (hw : Whole digits) (hr : NoDigit rest)
    (fits : valueOf digits ≤ wordLimit) (positive : Bool) :
    unsignedNumber positive (digits ++ rest) = numberEnd positive (valueOf digits) rest := by
  obtain ⟨c, more, rfl⟩ := List.exists_cons_of_ne_nil hw.ne_nil
  by_cases hz : c = '0'
  · subst hz
    obtain rfl : more = [] := by simpa using hw.leading rfl
    cases rest with
    | nil => rfl
    | cons d rest => simp [unsignedNumber, hr d rfl, valueOf, Nat.ofDigitChars]
  · have digit := hw.digits c List.mem_cons_self
    have first : valueOf (c :: more) = Nat.ofDigitChars 10 more (digitValue c) := by
      rw [valueOf, Nat.ofDigitChars_cons]
      simp [digitValue]
    rw [List.cons_append, unsignedNumber, digit, if_pos rfl,
      takeDigits_append (fun d hd => hw.digits d (List.mem_cons_of_mem c hd)) hr 0 (first ▸ fits), first]
    exact hz

theorem Codec.Ends.noDigit {rest : List Char} (h : Codec.Ends rest) : NoDigit rest := by
  intro c hc
  rcases h c hc with rfl | rfl | rfl <;> decide

/-- After a number comes neither a point nor an exponent. -/
theorem Codec.Ends.noFloat {rest : List Char} (h : Codec.Ends rest) (c : Char) (tail : List Char)
    (hc : c = '.' ∨ c = 'e' ∨ c = 'E') : rest ≠ c :: tail := by
  rintro rfl
  rcases h c rfl with rfl | rfl | rfl <;> revert hc <;> decide

/-! ## Integers -/

theorem numberEnd_ends {rest : List Char} (h : Codec.Ends rest) (positive : Bool) (significand : Nat) :
    numberEnd positive significand rest =
      if positive then some (.natural significand, rest)
      else if 0 < significand && significand ≤ Nat.pow 2 63 then some (.negative significand, rest)
      else (floatOf false significand 0).map fun x => (x, rest) := by
  unfold numberEnd
  rw [takeWhile_noDigit h.noDigit, dropWhile_noDigit h.noDigit]
  split
  · exact absurd rfl (h.noFloat '.' _ (by decide))
  · exact absurd rfl (h.noFloat 'e' _ (by decide))
  · exact absurd rfl (h.noFloat 'E' _ (by decide))
  · rfl

/-- How a number begins: with its sign or a digit. -/
def Numeric (text : List Char) : Prop := ∃ c rest, text = c :: rest ∧ (c = '-' ∨ c.isDigit = true)

theorem isBlank_of_digit {c : Char} (h : c.isDigit = true) : isBlank c = false := by
  by_contra hb
  simp only [isBlank, Bool.not_eq_false, Bool.or_eq_true, beq_iff_eq] at hb
  rcases hb with ((rfl | rfl) | rfl) | rfl <;> exact absurd h (by decide)

theorem Numeric.starts {text : List Char} (h : Numeric text) :
    ∃ c rest, text = c :: rest ∧ isBlank c = false ∧ c ≠ ']' := by
  obtain ⟨c, rest, rfl, rfl | digit⟩ := h
  · exact ⟨'-', rest, rfl, by decide, by decide⟩
  · exact ⟨c, rest, rfl, isBlank_of_digit digit, fun he => absurd (he ▸ digit) (by decide)⟩

theorem number_digit {c : Char} (h : c.isDigit = true) (rest : List Char) :
    number (c :: rest) = unsignedNumber true (c :: rest) := by
  rw [number, skipBlanks_cons (isBlank_of_digit h)]
  split
  · next he =>
    cases he
    exact absurd h (by decide)
  · rfl

theorem number_minus (text : List Char) : number ('-' :: text) = unsignedNumber false text := by
  rw [number, skipBlanks_cons (by decide)]
  rfl

/-- An integer of 64 bits as it is read. -/
def numeralOf : Int → Numeral
  | .ofNat n => .natural n
  | .negSucc n => .negative (n + 1)

theorem numeric_natText (n : Nat) : ∃ c rest, natText n = c :: rest ∧ c.isDigit = true := by
  obtain ⟨c, rest, hn⟩ := List.exists_cons_of_ne_nil (whole_natText n).ne_nil
  exact ⟨c, rest, hn, digits_natText n c (by simp [hn])⟩

theorem numeric_intText (n : Int) : Numeric (intText n) := by
  cases n with
  | ofNat n =>
    obtain ⟨c, rest, hn, digit⟩ := numeric_natText n
    exact ⟨c, rest, hn, .inr digit⟩
  | negSucc n => exact ⟨'-', _, rfl, .inl rfl⟩

theorem number_intText {n : Int} (least : -(2 : Int) ^ 63 ≤ n) (greatest : n ≤ wordLimit)
    {rest : List Char} (h : Codec.Ends rest) : number (intText n ++ rest) = some (numeralOf n, rest) := by
  have limit : wordLimit = 2 ^ 64 - 1 := rfl
  cases n with
  | ofNat n =>
    obtain ⟨c, more, hn, digit⟩ := numeric_natText n
    rw [intText, hn, List.cons_append, number_digit digit, ← List.cons_append, ← hn,
      unsignedNumber_append (whole_natText n) h.noDigit (by simpa using greatest), numberEnd_ends h,
      valueOf_natText, if_pos rfl, numeralOf]
  | negSucc n =>
    have small : n + 1 ≤ 2 ^ 63 := by omega
    rw [intText, List.cons_append, number_minus,
      unsignedNumber_append (whole_natText (n + 1)) h.noDigit (by rw [valueOf_natText]; omega),
      numberEnd_ends h, valueOf_natText, numeralOf]
    rw [if_neg (by decide), if_pos]
    simp only [Nat.zero_lt_succ, decide_true, Bool.true_and, decide_eq_true_eq]
    exact small

/-- Integers are read as what they are, whatever their width. -/
theorem Codec.readsBack_integer {α : Type} {least greatest : Int} {ofInt : Int → α} {toInt : α → Int} {a : α}
    (signed : -(2 : Int) ^ 63 ≤ least) (unsigned : greatest ≤ wordLimit) (lower : least ≤ toInt a)
    (upper : toInt a ≤ greatest) (inv : ofInt (toInt a) = a) :
    (Codec.integer least greatest ofInt toInt).ReadsBack a where
  starts := (numeric_intText (toInt a)).starts
  read {rest} ends := by
    have text := number_intText (signed.trans lower) (upper.trans unsigned) ends
    have within : (decide (least ≤ toInt a) && decide (toInt a ≤ greatest)) = true := by simp [lower, upper]
    simp only [Codec.integer, text, Option.bind_eq_bind, Option.bind_some]
    cases h : toInt a <;> rw [h] at within inv <;> exact (if_pos within).trans (by rw [← inv]; rfl)

theorem Codec.readsBack_int32 (n : Int32) : Codec.int32.ReadsBack n :=
  Codec.readsBack_integer (by decide) (by decide) n.le_toInt (Int.lt_add_one_iff.mp n.toInt_lt) n.ofInt_toInt

theorem Codec.readsBack_int64 (n : Int64) : Codec.int64.ReadsBack n :=
  Codec.readsBack_integer (by decide) (by decide) n.le_toInt (Int.lt_add_one_iff.mp n.toInt_lt) n.ofInt_toInt

theorem Codec.readsBack_uint32 (n : UInt32) : Codec.uint32.ReadsBack n :=
  Codec.readsBack_integer (by decide) (by decide) (Int.natCast_nonneg _)
    (by have := n.toNat_lt; simp only [UInt32.size]; omega) (by simp)

theorem Codec.readsBack_uint64 (n : UInt64) : Codec.uint64.ReadsBack n :=
  Codec.readsBack_integer (by decide) (by decide) (Int.natCast_nonneg _)
    (by have := n.toNat_lt; simp only [UInt64.size]; omega) (by simp)

theorem Codec.readsBack_byte (n : UInt8) : Codec.byte.ReadsBack n :=
  Codec.readsBack_integer (by decide) (by decide) (Int.natCast_nonneg _)
    (by have := n.toNat_lt; omega) (by simp)

theorem Codec.readsBack_bytes (values : List UInt8) : Codec.bytes.ReadsBack values :=
  Codec.readsBack_list fun n _ => Codec.readsBack_byte n

/-! ## Fractions and exponents -/

theorem noDigit_cons {c : Char} (h : c.isDigit = false) (rest : List Char) : NoDigit (c :: rest) := by
  intro d hd
  cases hd
  exact h

theorem floatEnd_ends {rest : List Char} (h : Codec.Ends rest) (positive : Bool) (significand : Nat)
    (exponent : Int) : floatEnd positive significand exponent rest =
      (floatOf positive significand exponent).map (·, rest) := by
  unfold floatEnd
  split
  · exact absurd rfl (h.noFloat 'e' _ (by decide))
  · exact absurd rfl (h.noFloat 'E' _ (by decide))
  · rfl

theorem fractionPart_append {digits rest : List Char} (hd : Digits digits) (ne : digits ≠ [])
    (hr : NoDigit rest) (positive : Bool) {significand : Nat} (exponent : Int)
    (fits : Nat.ofDigitChars 10 digits significand ≤ wordLimit) :
    fractionPart positive significand exponent (digits ++ rest) =
      floatEnd positive (Nat.ofDigitChars 10 digits significand) (exponent - digits.length) rest := by
  obtain ⟨c, more, rfl⟩ := List.exists_cons_of_ne_nil ne
  have taken := takeDigits_append hd hr 0 fits
  rw [List.cons_append] at taken ⊢
  simp only [fractionPart, hd c List.mem_cons_self, if_true, taken, Nat.zero_add,
    dropWhile_noDigit hr]

theorem numberEnd_point (positive : Bool) (significand : Nat) (rest : List Char) :
    numberEnd positive significand ('.' :: rest) = fractionPart positive significand 0 rest := rfl

theorem numberEnd_exponent (positive : Bool) (significand : Nat) (rest : List Char) :
    numberEnd positive significand ('e' :: rest) = exponentPart positive significand 0 rest := rfl

/-- An exponent after the `e`. -/
def exponentText (exponent : Int) : List Char :=
  (if exponent < 0 then '-' else '+') :: natText exponent.natAbs

theorem clampExponent_of_le {e : Int} (h : e.natAbs ≤ exponentLimit) : clampExponent e = e := by
  unfold clampExponent
  omega

theorem exponentPart_append {exponent before : Int} (small : exponent.natAbs ≤ exponentLimit)
    (counted : (before + exponent).natAbs ≤ exponentLimit) (positive : Bool) (significand : Nat)
    {rest : List Char} (h : Codec.Ends rest) :
    exponentPart positive significand before (exponentText exponent ++ rest) =
      (floatOf positive significand (before + exponent)).map (·, rest) := by
  have digits := digits_natText exponent.natAbs
  have taken := takeWhile_digits digits h.noDigit
  have left := dropWhile_digits digits h.noDigit
  have some : (natText exponent.natAbs).isEmpty = false := by
    simpa using (whole_natText exponent.natAbs).ne_nil
  have value : (natText exponent.natAbs).foldl (fun n c => n * 10 + digitValue c) 0 = exponent.natAbs := by
    rw [foldl_digitValue, valueOf_natText]
  have within : ¬ exponentLimit < exponent.natAbs := Nat.not_lt.mpr small
  unfold exponentText
  by_cases hn : exponent < 0
  · have total : before - (exponent.natAbs : Int) = before + exponent := by omega
    simp only [hn, if_true, List.cons_append, exponentPart, taken, left, some, value, within, if_false,
      total, clampExponent_of_le counted, Bool.false_eq_true]
  · have total : before + (exponent.natAbs : Int) = before + exponent := by omega
    simp only [hn, List.cons_append, exponentPart, taken, left, some, value, within, if_false, if_true,
      total, clampExponent_of_le counted, Bool.false_eq_true]

section

variable {whole fraction : List Char}

theorem valueOf_whole_le (fits : valueOf (whole ++ fraction) ≤ wordLimit) : valueOf whole ≤ wordLimit := by
  rw [valueOf, Nat.ofDigitChars_append] at fits
  exact (le_ofDigitChars fraction _).trans fits

variable (hw : Whole whole) (hf : Digits fraction) (fits : valueOf (whole ++ fraction) ≤ wordLimit)
  (positive : Bool)

include hw hf fits

/-- Digits around a point. -/
theorem unsignedNumber_point (ne : fraction ≠ []) {rest : List Char} (h : Codec.Ends rest) :
    unsignedNumber positive (whole ++ '.' :: (fraction ++ rest)) =
      (floatOf positive (valueOf (whole ++ fraction)) (-fraction.length)).map (·, rest) := by
  rw [unsignedNumber_append hw (noDigit_cons (by decide) _) (valueOf_whole_le fits), numberEnd_point,
    fractionPart_append hf ne h.noDigit positive 0 (by rwa [← Nat.ofDigitChars_append]),
    ← Nat.ofDigitChars_append, floatEnd_ends h, Int.zero_sub]

/-- Digits with an exponent, around a point if there is a fraction. -/
theorem unsignedNumber_exponent {exponent : Int} (small : exponent.natAbs ≤ exponentLimit)
    (counted : (-fraction.length + exponent).natAbs ≤ exponentLimit) {rest : List Char}
    (h : Codec.Ends rest) :
    unsignedNumber positive (whole ++ ((if fraction = [] then [] else '.' :: fraction) ++
        'e' :: (exponentText exponent ++ rest))) =
      (floatOf positive (valueOf (whole ++ fraction)) (-fraction.length + exponent)).map (·, rest) := by
  by_cases he : fraction = []
  · subst he
    rw [if_pos rfl, List.nil_append,
      unsignedNumber_append hw (noDigit_cons (by decide) _) (valueOf_whole_le fits), numberEnd_exponent,
      exponentPart_append small (by simpa using counted) positive _ h]
    simp
  · rw [if_neg he, List.cons_append,
      unsignedNumber_append hw (noDigit_cons (by decide) _) (valueOf_whole_le fits), numberEnd_point,
      fractionPart_append hf he (noDigit_cons (by decide) _) positive 0
        (by rwa [← Nat.ofDigitChars_append]), ← Nat.ofDigitChars_append, Int.zero_sub]
    exact exponentPart_append small counted positive _ h

end

end ProtoStore.Json
