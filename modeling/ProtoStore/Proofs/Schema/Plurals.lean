import Mathlib.Data.List.TakeWhile
import ProtoStore.Schema.Naming

/-!
# Plurals

Which names have one plural. Words are read backwards, since their plurals depend on how they end.

* `Plural` : the rules by which a word gets its plural; it has one;
* `Plural.shared_iff` : different words share a plural only if they are `PluralsMeet`;
* `PluralsMeet.append`, `PluralsMeet.lastWord` : what stands before the last word of a name does not matter;
* `pluralize_eq_iff` : two names have one plural only if they are `SamePlural`.
-/

namespace ProtoStore.Naming

/-- A word and its plural, both read backwards. -/
inductive Plural : List Char → List Char → Prop
  | child : Plural "child".toList.reverse "children".toList.reverse
  | person : Plural "person".toList.reverse "people".toList.reverse
  | ies {stem : List Char} (consonant : endsInVowelY ('y' :: stem) = false) :
      Plural ('y' :: stem) ('s' :: 'e' :: 'i' :: stem)
  | es {word : List Char} (sibilant : takesEs word = true) : Plural word ('s' :: 'e' :: word)
  | s {word : List Char} (child : word ≠ "child".toList.reverse) (person : word ≠ "person".toList.reverse)
      (vowel : ∀ stem, word = 'y' :: stem → endsInVowelY word = true) (plain : takesEs word = false) :
      Plural word ('s' :: word)

/-- Two different words with one plural, read backwards: the plural of the first takes `es` and the second has that
`e` already, or the first turns its `y` into `ie` and the second has that already. -/
inductive PluralsMeet : List Char → List Char → Prop
  | e {word : List Char} (sibilant : takesEs word = true) : PluralsMeet word ('e' :: word)
  | ie {stem : List Char} (consonant : endsInVowelY ('y' :: stem) = false) :
      PluralsMeet ('y' :: stem) ('e' :: 'i' :: stem)

/-- Whether two names have one plural, read off their ends. -/
def SamePlural (one other : String) : Prop :=
  one = other ∨ PluralsMeet one.toList.reverse other.toList.reverse ∨
    PluralsMeet other.toList.reverse one.toList.reverse

variable {word other plural plural' : List Char}

theorem pluralWord_plural (word : List Char) : Plural word.reverse (pluralWord word).reverse := by
  unfold pluralWord
  split
  · next same =>
    rw [beq_iff_eq.mp same]
    exact .child
  next child =>
  split
  · next same =>
    rw [beq_iff_eq.mp same]
    exact .person
  next person =>
  split
  · next consonant =>
    simp only [Bool.and_eq_true, beq_iff_eq, Bool.not_eq_true'] at consonant
    obtain ⟨stem, rfl⟩ := List.getLast?_eq_some_iff.mp consonant.1
    simpa using Plural.ies (by simpa using consonant.2)
  next vowel =>
  split
  · next sibilant => simpa using Plural.es sibilant
  · next plain =>
    have apart {text : List Char} (different : ¬(word == text) = true) : word.reverse ≠ text.reverse :=
      fun same => different (beq_iff_eq.mpr (List.reverse_inj.mp same))
    simpa using Plural.s (apart child) (apart person)
      (fun stem ends => by simpa [List.getLast?_eq_head?_reverse, ends] using vowel) (by simpa using plain)

/-- A word has one plural. -/
theorem Plural.unique (one : Plural word plural) (two : Plural word plural') : plural = plural' := by
  cases one <;> cases two <;> simp_all [takesEs]

/-- A word that ends in `e` only gets an `s`. -/
theorem Plural.of_e (stem : List Char) : Plural ('e' :: stem) ('s' :: 'e' :: stem) :=
  .s (by simp) (by simp) (by simp) (by simp [takesEs])

theorem PluralsMeet.shared (h : PluralsMeet word other) : ∃ plural, Plural word plural ∧ Plural other plural := by
  cases h with
  | e sibilant => exact ⟨_, .es sibilant, .of_e word⟩
  | @ie stem consonant => exact ⟨_, .ies consonant, .of_e ('i' :: stem)⟩

theorem Plural.shared_iff (one : Plural word plural) (two : Plural other plural') :
    plural = plural' ↔ word = other ∨ PluralsMeet word other ∨ PluralsMeet other word := by
  constructor
  · rintro rfl
    cases one with
    | child | person =>
      cases two
      exact .inl rfl
    | ies consonant =>
      cases two with
      | ies => exact .inl rfl
      | es sibilant => simp [takesEs] at sibilant
      | s => exact .inr (.inl (.ie consonant))
    | es sibilant =>
      cases two with
      | ies => simp [takesEs] at sibilant
      | es => exact .inl rfl
      | s => exact .inr (.inl (.e sibilant))
    | s =>
      cases two with
      | ies consonant => exact .inr (.inr (.ie consonant))
      | es sibilant => exact .inr (.inr (.e sibilant))
      | s => exact .inl rfl
  · rintro (rfl | meet | meet)
    · exact one.unique two
    · obtain ⟨shared, first, second⟩ := meet.shared
      exact (one.unique first).trans (second.unique two)
    · obtain ⟨shared, first, second⟩ := meet.shared
      exact (one.unique second).trans (first.unique two)

/-! ## The last word of a name -/

/-- The last word of a name, read backwards. -/
def lastWord (name : List Char) : List Char := name.takeWhile (· != '_')

/-- What a name has before its last word, read backwards. -/
def beforeLastWord (name : List Char) : List Char := name.dropWhile (· != '_')

theorem lastWord_append (name : List Char) : lastWord name ++ beforeLastWord name = name :=
  List.takeWhile_append_dropWhile

theorem not_mem_lastWord (name : List Char) : '_' ∉ lastWord name := fun there => by
  simpa using List.mem_takeWhile_imp there

theorem beforeLastWord_cases (name : List Char) :
    beforeLastWord name = [] ∨ ∃ rest, beforeLastWord name = '_' :: rest := by
  cases cut : beforeLastWord name with
  | nil => exact .inl rfl
  | cons c rest =>
    have separator := List.head?_dropWhile_not (· != '_') name
    rw [show List.dropWhile (· != '_') name = c :: rest from cut] at separator
    exact .inr ⟨rest, by simpa using separator⟩

/-- A name is cut into its last word and the rest in one way. -/
theorem cut_unique (word_single : '_' ∉ word) (other_single : '_' ∉ other) {first second : List Char}
    (h : word ++ beforeLastWord first = other ++ beforeLastWord second) :
    word = other ∧ beforeLastWord first = beforeLastWord second := by
  have last {word : List Char} (single : '_' ∉ word) (name : List Char) :
      lastWord (word ++ beforeLastWord name) = word := by
    have all : ∀ c ∈ word, (c != '_') = true := fun c there => bne_iff_ne.mpr fun same => single (same ▸ there)
    unfold lastWord
    rw [List.takeWhile_append_of_pos all]
    rcases beforeLastWord_cases name with cut | ⟨rest, cut⟩ <;> simp [cut]
  have same := congrArg lastWord h
  rw [last word_single, last other_single] at same
  exact ⟨same, List.append_cancel_left (same ▸ h)⟩

theorem takesEs_cons (c : Char) (rest : List Char) : takesEs (c :: rest) =
    (c == 's' || c == 'x' || c == 'z' || (c == 'h' && rest.head?.any fun d => d == 'c' || d == 's')) := by
  cases rest
  all_goals
    unfold takesEs
    split <;> simp_all

theorem endsInVowelY_cons (stem : List Char) : endsInVowelY ('y' :: stem) =
    stem.head?.any fun d => d == 'a' || d == 'e' || d == 'i' || d == 'o' || d == 'u' := by
  cases stem <;> rfl

theorem head?_append_beforeLastWord (word name : List Char) {p : Char → Bool} (h : p '_' = false) :
    (word ++ beforeLastWord name).head?.any p = word.head?.any p := by
  rcases beforeLastWord_cases name with cut | ⟨rest, cut⟩ <;> cases word <;> simp [cut, h]

/-- How a plural is formed does not depend on what stands before the last word. -/
theorem takesEs_append (word name : List Char) : takesEs (word ++ beforeLastWord name) = takesEs word := by
  cases word with
  | nil => rcases beforeLastWord_cases name with cut | ⟨rest, cut⟩ <;> rw [cut] <;> rfl
  | cons c word => rw [List.cons_append, takesEs_cons, takesEs_cons, head?_append_beforeLastWord _ _ (by decide)]

theorem endsInVowelY_append (stem name : List Char) :
    endsInVowelY ('y' :: (stem ++ beforeLastWord name)) = endsInVowelY ('y' :: stem) := by
  rw [endsInVowelY_cons, endsInVowelY_cons, head?_append_beforeLastWord _ _ (by decide)]

theorem PluralsMeet.append (name : List Char) (h : PluralsMeet word other) :
    PluralsMeet (word ++ beforeLastWord name) (other ++ beforeLastWord name) := by
  cases h with
  | e sibilant => exact .e ((takesEs_append word name).trans sibilant)
  | @ie stem consonant => exact .ie ((endsInVowelY_append stem name).trans consonant)

theorem PluralsMeet.lastWord {one other : List Char} (h : PluralsMeet one other) :
    PluralsMeet (lastWord one) (lastWord other) ∧ beforeLastWord one = beforeLastWord other := by
  cases h with
  | e sibilant =>
    rw [← lastWord_append one, takesEs_append] at sibilant
    exact ⟨.e sibilant, rfl⟩
  | @ie stem consonant =>
    rw [← lastWord_append stem, endsInVowelY_append] at consonant
    exact ⟨.ie consonant, rfl⟩

/-! ## Plurals of names -/

theorem Plural.one_word (h : Plural word plural) (single : '_' ∉ word) : '_' ∉ plural := by
  cases h <;> simp_all

/-- The plural of a name is that of its last word. -/
theorem pluralize_backwards (name : String) :
    ∃ plural, Plural (lastWord name.toList.reverse) plural ∧
      (pluralize name).toList.reverse = plural ++ beforeLastWord name.toList.reverse :=
  ⟨_, by simpa using pluralWord_plural (lastWord name.toList.reverse).reverse,
    by simp [pluralize, lastWord, beforeLastWord]⟩

theorem toList_reverse_inj {one other : String} : one.toList.reverse = other.toList.reverse ↔ one = other := by
  rw [List.reverse_inj, String.toList_inj]

/-- Names have one plural only if they are equal or meet there. -/
theorem pluralize_eq_iff {one other : String} : pluralize one = pluralize other ↔ SamePlural one other := by
  obtain ⟨first, first_plural, first_made⟩ := pluralize_backwards one
  obtain ⟨second, second_plural, second_made⟩ := pluralize_backwards other
  rw [← toList_reverse_inj, first_made, second_made, SamePlural, ← toList_reverse_inj]
  generalize one.toList.reverse = one at *
  generalize other.toList.reverse = other at *
  constructor
  · intro same
    obtain ⟨plurals, rest⟩ := cut_unique (first_plural.one_word (not_mem_lastWord one))
      (second_plural.one_word (not_mem_lastWord other)) same
    have words := (first_plural.shared_iff second_plural).mp plurals
    rw [← lastWord_append one, ← lastWord_append other, rest]
    exact words.imp (congrArg (· ++ beforeLastWord other)) (Or.imp (.append other) (.append other))
  · rintro (rfl | meet | meet)
    · rw [first_plural.unique second_plural]
    · obtain ⟨words, rest⟩ := meet.lastWord
      rw [(first_plural.shared_iff second_plural).mpr (.inr (.inl words)), rest]
    · obtain ⟨words, rest⟩ := meet.lastWord
      rw [(first_plural.shared_iff second_plural).mpr (.inr (.inr words)), rest]

end ProtoStore.Naming
