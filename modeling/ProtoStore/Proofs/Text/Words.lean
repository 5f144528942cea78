import Mathlib.Data.List.Basic
import ProtoStore.Text.Words

/-!
# Words of names

* `wordsOf_flatten`, `ne_nil_of_mem_wordsOf` : the words of a name are its letters and numbers, and none is empty;
* `mapCase_outside` : which characters a change of case brings in, read off its tables;
* `lowercase_underscore`, `uppercase_underscore` : it brings in no underscore;
* `underscore_not_mem_camelCase`, `camelCase_head` : a name in camel case has none either, and does not begin with a
  lower-case letter of ASCII.
-/

namespace ProtoStore.Text

/-! ## Cutting names -/

theorem splitCase_flatten (mode : LetterMode) (word text : List Char) (h : text ≠ []) :
    (splitCase mode word text).flatten = word.reverse ++ text := by
  fun_induction splitCase mode word text with
  | case1 => exact absurd rfl h
  | case2 mode word c => simp
  | case3 mode word c d rest _ ih => simp [ih]
  | case4 mode word c d rest _ _ ih => simp [ih]
  | case5 mode word c d rest _ _ ih => simp [ih]

theorem runsOf_flatten (run text : List Char) :
    (runsOf run text).flatten = run.reverse ++ text.filter isAlphanumeric := by
  fun_induction runsOf run text with
  | case1 => simp
  | case2 run c rest letter ih => simp [ih, letter]
  | case3 run c rest other ih => simp [ih, other]

/-- The words of a name are its letters and numbers. -/
theorem wordsOf_flatten (name : List Char) : (wordsOf name).flatten = name.filter isAlphanumeric := by
  have each (run : List Char) : (splitCase .boundary [] run).flatten = run := by
    cases run with
    | nil => rfl
    | cons c rest => exact splitCase_flatten .boundary [] (c :: rest) (List.cons_ne_nil c rest)
  calc (wordsOf name).flatten
      = ((runsOf [] name).map fun run => (splitCase .boundary [] run).flatten).flatten := by
        rw [wordsOf, List.flatMap_def, List.flatten_flatten, List.map_map]
        rfl
    _ = (runsOf [] name).flatten := by simp only [each, List.map_id']
    _ = name.filter isAlphanumeric := by simpa using runsOf_flatten [] name

theorem isAlphanumeric_of_mem_wordsOf {name word : List Char} {c : Char} (there : word ∈ wordsOf name)
    (inside : c ∈ word) : c ∈ name ∧ isAlphanumeric c = true := by
  have listed : c ∈ (wordsOf name).flatten := List.mem_flatten.mpr ⟨word, there, inside⟩
  rw [wordsOf_flatten] at listed
  exact List.mem_filter.mp listed

/-- A word is read as upper case only if something has been read of it. -/
theorem ne_nil_of_mem_splitCase {mode : LetterMode} {word text found : List Char} (h : mode = .upper → word ≠ [])
    (there : found ∈ splitCase mode word text) : found ≠ [] := by
  fun_induction splitCase mode word text with
  | case1 => cases there
  | case2 mode word c =>
    rw [List.mem_singleton.mp there]
    simp
  | case3 mode word c d rest _ ih =>
    rcases List.mem_cons.mp there with rfl | later
    · simp
    · exact ih nofun later
  | case4 mode word c d rest _ upper ih =>
    rcases List.mem_cons.mp there with rfl | later
    · simp only [Bool.and_eq_true, decide_eq_true_eq] at upper
      simpa using h upper.1.1
    · exact ih nofun later
  | case5 mode word c d rest _ _ ih => exact ih (fun _ => List.cons_ne_nil c word) there

theorem ne_nil_of_mem_wordsOf {name word : List Char} (there : word ∈ wordsOf name) : word ≠ [] := by
  obtain ⟨run, -, inside⟩ := List.mem_flatMap.mp there
  exact ne_nil_of_mem_splitCase (by simp) inside

/-! ## Changing case -/

variable {expansions : List (Nat × List Nat)} {shifts : List CaseShift} {low high : Nat} {c d : Char}

theorem toNat_ofNat (n : Nat) : (Char.ofNat n).toNat = n ∨ (Char.ofNat n).toNat = 0 := by
  by_cases valid : n.isValidChar
  · exact .inl (by rw [Char.ofNat, dif_pos valid]; rfl)
  · exact .inr (by rw [Char.ofNat, dif_neg valid]; rfl)

/-- A change of case gives no character between two bounds that its tables stay outside of, unless it leaves that
character as it is. -/
theorem mapCase_outside (positive : 0 < low)
    (expanded : ∀ entry ∈ expansions, ∀ code ∈ entry.2, code < low ∨ high < code)
    (shifted : ∀ shift ∈ shifts, (shift.range.last : Int) + shift.distance < low ∨
      (high : Int) < shift.range.first + shift.distance)
    (h : d ∈ mapCase expansions shifts c) : d = c ∨ d.toNat < low ∨ high < d.toNat := by
  have of_code {n : Nat} (outside : n < low ∨ high < n) :
      (Char.ofNat n).toNat < low ∨ high < (Char.ofNat n).toNat := by
    rcases toNat_ofNat n with same | zero
    · rwa [same]
    · exact .inl (zero ▸ positive)
  unfold mapCase at h
  split at h
  · next code codes found =>
    obtain ⟨code, listed, rfl⟩ := List.mem_map.mp h
    exact .inr (of_code (expanded _ (List.mem_of_find?_eq_some found) code listed))
  · rw [List.mem_singleton.mp h]
    unfold CaseShift.target?
    cases found : shifts.find? (·.range.covers c.toNat) with
    | none => exact .inl rfl
    | some shift =>
      refine .inr (of_code ?_)
      have covered := List.find?_some (p := fun shift : CaseShift => shift.range.covers c.toNat) found
      simp only [CodeRange.covers, Bool.and_eq_true, decide_eq_true_eq] at covered
      have bounds := shifted shift (List.mem_of_find?_eq_some found)
      omega

/-- What can be looked up for each character of ASCII. -/
theorem of_ascii {P : Char → Prop} (all : ∀ n : Fin 128, P (Char.ofNat n)) (h : c.toNat < 128) : P c := by
  have this_one := all ⟨c.toNat, h⟩
  rwa [Char.ofNat_toNat] at this_one

theorem lowercase_underscore (h : '_' ∈ lowercase c) : c = '_' := by
  unfold lowercase at h
  split at h
  · next ascii =>
    exact of_ascii (P := fun c => '_' ∈ [c.toLower] → c = '_') (by decide) ascii h
  · have outside : '_' = c ∨ '_'.toNat < 0x5F ∨ 0x5F < '_'.toNat :=
      mapCase_outside (by decide) (by decide +kernel) (by decide +kernel) h
    exact outside.elim Eq.symm (absurd · (by decide))

theorem uppercase_underscore (h : '_' ∈ uppercase c) : c = '_' := by
  unfold uppercase at h
  split at h
  · next ascii =>
    exact of_ascii (P := fun c => '_' ∈ [c.toUpper] → c = '_') (by decide) ascii h
  · have outside : '_' = c ∨ '_'.toNat < 0x5F ∨ 0x5F < '_'.toNat :=
      mapCase_outside (by decide) (by decide +kernel) (by decide +kernel) h
    exact outside.elim Eq.symm (absurd · (by decide))

/-- Upper case has no lower-case letter of ASCII. -/
theorem uppercase_not_lower (h : d ∈ uppercase c) : d.isLower = false := by
  unfold uppercase at h
  split at h
  · next ascii =>
    rw [List.mem_singleton.mp h]
    exact of_ascii (P := fun c => c.toUpper.isLower = false) (by decide) ascii
  · next beyond =>
    have outside : d = c ∨ d.toNat < 0x61 ∨ 0x7A < d.toNat :=
      mapCase_outside (by decide) (by decide +kernel) (by decide +kernel) h
    have code : ¬ (0x61 ≤ d.toNat ∧ d.toNat ≤ 0x7A) := by
      rcases outside with rfl | outside <;> omega
    unfold Char.isLower
    simpa [UInt32.le_iff_toNat_le, ← Char.toNat_val] using code

theorem uppercase_ne_nil (c : Char) : uppercase c ≠ [] := by
  unfold uppercase
  split
  · simp
  unfold mapCase
  split
  · next code codes found =>
    have all : ∀ entry ∈ upperExpansions, entry.2 ≠ [] := by decide
    simpa using all _ (List.mem_of_find?_eq_some found)
  · simp

/-! ## Camel case -/

theorem mem_lowerWord {word : List Char} (h : d ∈ lowerWord word) : d = 'ς' ∨ ∃ c ∈ word, d ∈ lowercase c := by
  fun_induction lowerWord word with
  | case1 => cases h
  | case2 => exact .inl (List.mem_singleton.mp h)
  | case3 c rest _ ih =>
    rcases List.mem_append.mp h with first | later
    · exact .inr ⟨c, List.mem_cons_self, first⟩
    · exact (ih later).imp_right fun ⟨other, there, lower⟩ => ⟨other, List.mem_cons_of_mem c there, lower⟩

theorem mem_capitalWord {word : List Char} (h : d ∈ capitalWord word) :
    d = 'ς' ∨ ∃ c ∈ word, d ∈ lowercase c ∨ d ∈ uppercase c := by
  cases word with
  | nil => cases h
  | cons c rest =>
    rcases List.mem_append.mp h with first | later
    · exact .inr ⟨c, List.mem_cons_self, .inr first⟩
    · exact (mem_lowerWord later).imp_right fun ⟨other, there, lower⟩ =>
        ⟨other, List.mem_cons_of_mem c there, .inl lower⟩

theorem underscore_not_mem_camelCase (name : String) : '_' ∉ (camelCase name).toList := by
  intro there
  rw [camelCase, String.toList_ofList] at there
  obtain ⟨word, listed, inside⟩ := List.mem_flatMap.mp there
  rcases mem_capitalWord inside with sigma | ⟨c, in_word, cased⟩
  · revert sigma
    decide
  · have same : c = '_' := cased.elim lowercase_underscore uppercase_underscore
    have letter := (isAlphanumeric_of_mem_wordsOf listed in_word).2
    rw [same] at letter
    revert letter
    decide

/-- A name in camel case does not begin with a lower-case letter of ASCII. -/
theorem camelCase_head {name : String} (h : (camelCase name).toList.head? = some d) : d.isLower = false := by
  rw [camelCase, String.toList_ofList] at h
  generalize wordsOf name.toList = words at h
  induction words with
  | nil => cases h
  | cons word words ih =>
    rw [List.flatMap_cons] at h
    cases word with
    | nil => exact ih h
    | cons c rest =>
      obtain ⟨first, more, upper⟩ := List.exists_cons_of_ne_nil (uppercase_ne_nil c)
      simp only [capitalWord, upper, List.cons_append, List.head?_cons, Option.some.injEq] at h
      exact uppercase_not_lower (upper.symm ▸ h ▸ List.mem_cons_self : d ∈ uppercase c)

end ProtoStore.Text
