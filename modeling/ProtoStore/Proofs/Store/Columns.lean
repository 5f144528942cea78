import ProtoStore.Proofs.Text.Hex
import ProtoStore.Store.Convert

/-!
# Column types read back

* `Uuid.parse?_text` : an identifier is read from its own text;
* `Moment.ofTimestamp_toTimestamp` : a point in time is that of its own timestamp;
* `Convert.map_text_of_uuid?`, `Convert.toTimestamp_of_moment` : what messages carry is given back by
  the column it was converted to, an identifier in its usual text (`Uuid.canonical?`);
* `Convert.moment_fails` to `Convert.ofBytes_fails` : a conversion that fails tells the field.
-/

namespace ProtoStore

namespace Uuid

open Text

theorem ofDigits?_digits (u : Uuid) : ofDigits? u.digits = some u := by
  have hlt : u.bits.toNat < Nat.pow 16 32 := u.bits.isLt
  rw [ofDigits?, digits, Hex.length_digits, Hex.number?_digits, Nat.mod_eq_of_lt hlt]
  simp

/-- The digits are what the hyphens leave. -/
theorem ofGroups?_hyphenated {digits : List Char} (h : digits.length = 32) :
    ofGroups? (hyphenated digits) = ofDigits? digits := by
  obtain ⟨a, rest, ha, rfl⟩ : ∃ a rest, a.length = 8 ∧ digits = a ++ rest :=
    ⟨digits.take 8, digits.drop 8, by simp [h], by simp⟩
  obtain ⟨b, rest, hb, rfl⟩ : ∃ b tail, b.length = 4 ∧ rest = b ++ tail :=
    ⟨rest.take 4, rest.drop 4, by simp at h ⊢; omega, by simp⟩
  obtain ⟨c, rest, hc, rfl⟩ : ∃ c tail, c.length = 4 ∧ rest = c ++ tail :=
    ⟨rest.take 4, rest.drop 4, by simp at h ⊢; omega, by simp⟩
  obtain ⟨d, e, hd, rfl⟩ : ∃ d tail, d.length = 4 ∧ rest = d ++ tail :=
    ⟨rest.take 4, rest.drop 4, by simp at h ⊢; omega, by simp⟩
  have grouped : hyphenated (a ++ (b ++ (c ++ (d ++ e)))) =
      a ++ '-' :: (b ++ '-' :: (c ++ '-' :: (d ++ '-' :: e))) := by
    simp [hyphenated, List.drop_append, List.drop_eq_nil_of_le, ha, hb, hc, hd]
  have digits : (hyphenated (a ++ (b ++ (c ++ (d ++ e))))).take 8 ++
      ((hyphenated (a ++ (b ++ (c ++ (d ++ e))))).drop 9).take 4 ++
      ((hyphenated (a ++ (b ++ (c ++ (d ++ e))))).drop 14).take 4 ++
      ((hyphenated (a ++ (b ++ (c ++ (d ++ e))))).drop 19).take 4 ++
      (hyphenated (a ++ (b ++ (c ++ (d ++ e))))).drop 24 = a ++ (b ++ (c ++ (d ++ e))) := by
    rw [grouped]
    simp [List.drop_append, List.drop_eq_nil_of_le, ha, hb, hc, hd]
  rw [ofGroups?, digits]
  simp

/-- The text of an identifier begins with a digit. -/
theorem exists_hyphenated_eq_cons (u : Uuid) :
    ∃ k < 16, ∃ rest, hyphenated u.digits = Hex.digit k :: rest := by
  have hlen : u.digits.length = 32 := Hex.length_digits 32 _
  cases hd : u.digits with
  | nil => rw [hd] at hlen; cases hlen
  | cons c rest =>
    obtain ⟨k, hk, rfl⟩ := Hex.exists_of_mem_digits (c := c) (n := u.bits.toNat)
      (by change c ∈ u.digits; rw [hd]; exact List.mem_cons_self)
    exact ⟨k, hk, _, rfl⟩

theorem parse?_text (u : Uuid) : parse? u.text = some u := by
  obtain ⟨k, hk, rest, hr⟩ := u.exists_hyphenated_eq_cons
  have all : ∀ k : Fin 16, Hex.digit k ≠ '\x7b' ∧ (Hex.digit k).toLower ≠ 'u' := by decide
  obtain ⟨brace, scheme⟩ := all ⟨k, hk⟩
  have hb : inBraces? (hyphenated u.digits) = none := by
    rw [hr, inBraces?]
    split
    · next h _ => exact absurd (Option.some.inj h) brace
    · rfl
  have hs : afterScheme? (hyphenated u.digits) = none := by
    rw [hr, afterScheme?, if_neg]
    intro h
    have h := List.head_eq_of_cons_eq (eq_of_beq h)
    exact scheme h
  rw [parse?, text, String.toList_ofList, ofChars?, hb]
  simp only [hs]
  have hlen : u.digits.length = 32 := Hex.length_digits 32 _
  rw [ofGroups?_hyphenated hlen, ofDigits?_digits]
  rfl

theorem text_ne_empty (u : Uuid) : u.text ≠ "" := by
  obtain ⟨k, -, rest, hr⟩ := u.exists_hyphenated_eq_cons
  rw [text, hr]
  intro h
  have h := congrArg String.toList h
  rw [String.toList_ofList] at h
  cases h

/-- The usual text of the identifier that a text writes. The empty text writes none. -/
def canonical? (text : String) : Option String :=
  if text = "" then none else (parse? text).map Uuid.text

end Uuid

namespace Moment

theorem ofTimestamp_toTimestamp (m : Moment) : ofTimestamp m.toTimestamp = .ok m := by
  obtain ⟨seconds, nanos, valid⟩ := m
  have hn : nanos.toNat < 2000000000 := by
    rcases valid.2.2 with h | h
    · omega
    · exact h.1
  have hi : nanos.toInt32.toInt = nanos.toNat := by
    show nanos.toBitVec.toInt = _
    refine BitVec.toInt_eq_toNat_of_lt ?_
    show 2 * nanos.toNat < _
    omega
  have hpos : ¬ (toTimestamp ⟨seconds, nanos, valid⟩).nanos < 0 := by
    rw [toTimestamp, Int32.lt_iff_toInt_lt, hi]
    exact Int.not_lt.mpr (Int.natCast_nonneg _)
  rw [ofTimestamp, if_neg hpos]
  exact dif_pos valid

theorem toTimestamp_ofTimestamp {t : Timestamp} {m : Moment} (h : ofTimestamp t = .ok m) :
    m.toTimestamp = t := by
  unfold ofTimestamp at h
  split at h
  · cases h
  · dsimp only at h
    split at h
    · obtain rfl := Except.ok.inj h
      rw [toTimestamp, Int32.toInt32_toUInt32]
    · cases h

end Moment

namespace Convert

theorem toTimestamp_of_moment {field : String} {t : Timestamp} {m : Moment}
    (h : moment field t = .ok m) : m.toTimestamp = t := by
  unfold moment at h
  cases ht : Moment.ofTimestamp t with
  | error fault =>
    rw [ht] at h
    cases fault <;> cases h
  | ok point =>
    rw [ht] at h
    obtain rfl := Except.ok.inj h
    exact Moment.toTimestamp_ofTimestamp ht

theorem eq_of_uuid? {field : String} {text : Option String} {id : Option Uuid}
    (h : uuid? field text = .ok id) : id = text.bind Uuid.parse? := by
  cases text with
  | none =>
    cases h
    rfl
  | some text =>
    unfold uuid? at h
    dsimp only at h
    rw [Option.bind_some]
    split at h
    · next empty =>
      cases h
      rw [beq_iff_eq.mp empty]
      decide
    · split at h
      · next u parsed =>
        cases h
        exact parsed.symm
      · cases h

theorem map_text_of_uuid? {field : String} {text : Option String} {id : Option Uuid}
    (h : uuid? field text = .ok id) : id.map Uuid.text = text.bind Uuid.canonical? := by
  cases text with
  | none =>
    cases h
    rfl
  | some text =>
    rw [Option.bind_some, Uuid.canonical?]
    unfold uuid? at h
    dsimp only at h
    by_cases empty : text = ""
    · rw [if_pos (beq_iff_eq.mpr empty)] at h
      cases h
      rw [if_pos empty, Option.map_none]
    · rw [if_neg fun e => empty (beq_iff_eq.mp e)] at h
      rw [if_neg empty]
      cases parsed : Uuid.parse? text with
      | none =>
        rw [parsed] at h
        cases h
      | some u =>
        rw [parsed] at h
        cases h
        rfl

/-! ## Conversions that fail -/

variable {field : String} {failure : Failure}

theorem moment_fails {t : Timestamp} (h : moment field t = .error failure) :
    ∃ fault, failure = .conversion field fault := by
  unfold moment at h
  cases point : Moment.ofTimestamp t with
  | error fault =>
    rw [point] at h
    cases fault <;> exact ⟨_, (Except.error.inj h).symm⟩
  | ok m =>
    rw [point] at h
    cases h

theorem uuid?_fails {text : Option String} (h : uuid? field text = .error failure) :
    ∃ fault, failure = .conversion field fault := by
  cases text with
  | none => cases h
  | some text =>
    unfold uuid? at h
    dsimp only at h
    split at h
    · cases h
    · split at h
      · cases h
      · exact ⟨_, (Except.error.inj h).symm⟩

theorem ofJson_fails {α : Type} [Inhabited α] {codec : Json.Codec α} {column : String}
    (h : ofJson codec field column = .error failure) : ∃ fault, failure = .conversion field fault := by
  unfold ofJson at h
  split at h
  · cases h
  · split at h
    · cases h
    · exact ⟨_, (Except.error.inj h).symm⟩

theorem ofBytes_fails {M : Type} {codec : Wire.Codec M} {column : List UInt8}
    (h : ofBytes codec field column = .error failure) : ∃ fault, failure = .conversion field fault := by
  unfold ofBytes at h
  split at h
  · cases h
  · exact ⟨_, (Except.error.inj h).symm⟩

end Convert

end ProtoStore
