import ProtoStore.Proofs.Text.Words

/-!
# Names of ASCII letters

Names of ASCII letters, digits and underscores that begin with a letter are identifiers, and so are their spellings
in snake case and camel case.

* `IsLettered.words` : the words of such a name, of which the first begins with a letter;
* `IsLettered.snakeCase`, `IsLettered.camelCase` : both spellings are such names again;
* `IsLettered.append` : and so is what begins with one;
* `camelCase_eq_iff` : names of these characters are the same in camel case exactly if they are the same in snake case,
  underscores before digits apart.
-/

namespace ProtoStore.Text

variable {name one other : String} {text more word : List Char} {c d : Char}

/-- Whether `c` is an ASCII letter, a digit or an underscore. -/
def isNameChar (c : Char) : Bool := isAsciiLetter c || c.isDigit || c == '_'

/-- Letters, digits and underscores of ASCII, beginning with a letter. -/
structure IsLettered (text : List Char) : Prop where
  first : text.head?.any isAsciiLetter = true
  chars : text.all isNameChar = true

theorem isLettered_iff : IsLettered text ↔
    text.head?.any isAsciiLetter = true ∧ text.all isNameChar = true :=
  ⟨fun h => ⟨h.first, h.chars⟩, fun h => ⟨h.1, h.2⟩⟩

instance : DecidablePred IsLettered := fun _ => decidable_of_iff _ isLettered_iff.symm

theorem IsLettered.char (h : IsLettered text) (there : c ∈ text) : isNameChar c = true :=
  List.all_eq_true.mp h.chars c there

theorem ascii_of_letter (h : isAsciiLetter c = true) : c.toNat < 128 := by
  unfold isAsciiLetter Char.isUpper Char.isLower at h
  simp only [Bool.or_eq_true, Bool.and_eq_true, decide_eq_true_eq, ge_iff_le, UInt32.le_iff_toNat_le,
    Char.toNat_val] at h
  have bounds : 'Z'.toNat < 128 ∧ 'z'.toNat < 128 := by decide
  omega

theorem ascii_of_nameChar (h : isNameChar c = true) : c.toNat < 128 := by
  simp only [isNameChar, Bool.or_eq_true, beq_iff_eq] at h
  rcases h with (letter | digit) | rfl
  · exact ascii_of_letter letter
  · simp only [Char.isDigit, Bool.and_eq_true, decide_eq_true_eq, ge_iff_le, UInt32.le_iff_toNat_le,
      Char.toNat_val] at digit
    have bound : '9'.toNat < 128 := by decide
    omega
  · decide

theorem IsLettered.exists_cons (h : IsLettered text) : ∃ c rest, text = c :: rest ∧ isAsciiLetter c = true := by
  cases text with
  | nil => exact absurd h.first (by simp)
  | cons c rest => exact ⟨c, rest, rfl, h.first⟩

theorem IsLettered.append (h : IsLettered text) (chars : more.all isNameChar = true) :
    IsLettered (text ++ more) := by
  obtain ⟨c, rest, rfl, letter⟩ := h.exists_cons
  exact ⟨letter, by rw [List.all_append, h.chars, chars]; rfl⟩

/-! ## Changing case -/

theorem toLower_letter (h : isAsciiLetter c = true) : isAsciiLetter c.toLower = true :=
  of_ascii (P := fun c => isAsciiLetter c = true → isAsciiLetter c.toLower = true) (by decide) (ascii_of_letter h) h

theorem toUpper_letter (h : isAsciiLetter c = true) : isAsciiLetter c.toUpper = true :=
  of_ascii (P := fun c => isAsciiLetter c = true → isAsciiLetter c.toUpper = true) (by decide) (ascii_of_letter h) h

theorem toLower_nameChar (h : isNameChar c = true) : isNameChar c.toLower = true :=
  of_ascii (P := fun c => isNameChar c = true → isNameChar c.toLower = true) (by decide) (ascii_of_nameChar h) h

theorem toUpper_nameChar (h : isNameChar c = true) : isNameChar c.toUpper = true :=
  of_ascii (P := fun c => isNameChar c = true → isNameChar c.toUpper = true) (by decide) (ascii_of_nameChar h) h

theorem lowerWord_ascii (h : ∀ c ∈ word, isNameChar c = true) : lowerWord word = word.map Char.toLower := by
  fun_induction lowerWord word with
  | case1 => rfl
  | case2 => exact absurd (ascii_of_nameChar (h 'Σ' (by simp))) (by decide)
  | case3 c rest _ ih =>
    obtain ⟨first, others⟩ := List.forall_mem_cons.mp h
    rw [ih others, lowercase, if_pos (ascii_of_nameChar first)]
    rfl

theorem capitalWord_ascii (first : isNameChar c = true) (h : ∀ d ∈ word, isNameChar d = true) :
    capitalWord (c :: word) = c.toUpper :: word.map Char.toLower := by
  rw [capitalWord, lowerWord_ascii h, uppercase, if_pos (ascii_of_nameChar first)]
  rfl

/-! ## Spellings -/

/-- The words of a lettered name, of which the first begins with its letter. -/
theorem IsLettered.words (h : IsLettered text) :
    ∃ c word words, wordsOf text = (c :: word) :: words ∧ isAsciiLetter c = true ∧
      ∀ other ∈ wordsOf text, ∀ d ∈ other, isNameChar d = true := by
  have chars : ∀ other ∈ wordsOf text, ∀ d ∈ other, isNameChar d = true := fun other there d inside =>
    h.char (isAlphanumeric_of_mem_wordsOf there inside).1
  have whole := wordsOf_flatten text
  obtain ⟨c, rest, rfl, letter⟩ := h.exists_cons
  have alphanumeric : isAlphanumeric c = true := by
    rw [isAlphanumeric, if_pos (ascii_of_letter letter), letter]
    rfl
  rw [List.filter_cons_of_pos alphanumeric] at whole
  cases found : wordsOf (c :: rest) with
  | nil => simp [found] at whole
  | cons word words =>
    obtain ⟨first, others, rfl⟩ := List.exists_cons_of_ne_nil (ne_nil_of_mem_wordsOf
      (found ▸ List.mem_cons_self : word ∈ wordsOf (c :: rest)))
    have same : first = c := by simpa [found] using congrArg List.head? whole
    exact ⟨first, others, words, rfl, same ▸ letter, found ▸ chars⟩

theorem mem_intercalate {separator : List Char} {parts : List (List Char)}
    (h : d ∈ separator.intercalate parts) : d ∈ separator ∨ ∃ part ∈ parts, d ∈ part := by
  induction parts with
  | nil => cases h
  | cons part parts ih =>
    cases parts with
    | nil =>
      rw [List.intercalate_singleton] at h
      exact .inr ⟨part, List.mem_cons_self, h⟩
    | cons next parts =>
      rw [List.intercalate_cons_cons, List.mem_append, List.mem_append] at h
      rcases h with (here | between) | later
      · exact .inr ⟨part, List.mem_cons_self, here⟩
      · exact .inl between
      · exact (ih later).imp_right fun ⟨other, there, inside⟩ => ⟨other, List.mem_cons_of_mem part there, inside⟩

theorem head?_intercalate (separator : List Char) (parts : List (List Char)) :
    (separator.intercalate ((c :: word) :: parts)).head? = some c := by
  cases parts with
  | nil => rw [List.intercalate_singleton, List.head?_cons]
  | cons next parts => rw [List.intercalate_cons_cons, List.cons_append, List.cons_append, List.head?_cons]

theorem IsLettered.snakeCase (h : IsLettered name.toList) : IsLettered (snakeCase name).toList := by
  obtain ⟨c, word, words, found, letter, chars⟩ := h.words
  rw [Text.snakeCase, String.toList_ofList]
  refine ⟨?_, List.all_eq_true.mpr fun d there => ?_⟩
  · rw [found] at chars ⊢
    rw [List.map_cons, lowerWord_ascii (chars _ List.mem_cons_self), List.map_cons, head?_intercalate]
    exact toLower_letter letter
  · rcases mem_intercalate there with between | ⟨part, listed, inside⟩
    · rw [List.mem_singleton.mp between]
      rfl
    · obtain ⟨other, in_name, rfl⟩ := List.mem_map.mp listed
      rw [lowerWord_ascii (chars other in_name)] at inside
      obtain ⟨e, in_word, rfl⟩ := List.mem_map.mp inside
      exact toLower_nameChar (chars other in_name e in_word)

theorem IsLettered.camelCase (h : IsLettered name.toList) : IsLettered (camelCase name).toList := by
  obtain ⟨c, word, words, found, letter, chars⟩ := h.words
  rw [Text.camelCase, String.toList_ofList]
  refine ⟨?_, List.all_eq_true.mpr fun d there => ?_⟩
  · rw [found] at chars ⊢
    obtain ⟨first, others⟩ := List.forall_mem_cons.mp (chars _ List.mem_cons_self)
    rw [List.flatMap_cons, capitalWord_ascii first others, List.cons_append, List.head?_cons]
    exact toUpper_letter letter
  · obtain ⟨other, listed, inside⟩ := List.mem_flatMap.mp there
    obtain ⟨e, rest, rfl⟩ := List.exists_cons_of_ne_nil (ne_nil_of_mem_wordsOf listed)
    obtain ⟨first, others⟩ := List.forall_mem_cons.mp (chars _ listed)
    rw [capitalWord_ascii first others] at inside
    rcases List.mem_cons.mp inside with rfl | later
    · exact toUpper_nameChar first
    · obtain ⟨f, in_word, rfl⟩ := List.mem_map.mp later
      exact toLower_nameChar (others f in_word)

/-! ## Underscores before digits -/

/-- A text without the underscores that a digit follows. -/
def joinDigits : List Char → List Char
  | [] => []
  | c :: rest =>
    if c = '_' ∧ rest.head?.any Char.isDigit = true then joinDigits rest else c :: joinDigits rest

/-- The spelling of a name in snake case without the underscores before digits. -/
def unbroken (name : String) : String := String.ofList (joinDigits (snakeCase name).toList)

/-- A text with an underscore and a lower-case letter for each upper-case letter of ASCII. -/
def spread (text : List Char) : List Char := text.flatMap fun c => if c.isUpper then ['_', c.toLower] else [c]

/-- A text after an underscore, unless a digit begins it. -/
def lead : List Char → List Char
  | [] => []
  | c :: rest => if c.isDigit then c :: rest else '_' :: c :: rest

theorem joinDigits_append (h : text.getLast? ≠ some '_') (more : List Char) :
    joinDigits (text ++ more) = joinDigits text ++ joinDigits more := by
  induction text with
  | nil => rfl
  | cons c rest ih =>
    rw [List.cons_append, joinDigits, joinDigits]
    cases rest with
    | nil =>
      have other : c ≠ '_' := fun same => h (congrArg some same)
      simp [joinDigits, other]
    | cons d rest =>
      rw [ih (by rwa [List.getLast?_cons_cons] at h), ← List.cons_append, apply_ite (· ++ joinDigits more)]
      rfl

theorem joinDigits_of_not_mem (h : '_' ∉ text) : joinDigits text = text := by
  induction text with
  | nil => rfl
  | cons c rest ih =>
    obtain ⟨other, later⟩ := not_or.mp (mt List.mem_cons.mpr h)
    rw [joinDigits, if_neg fun first => other first.1.symm, ih later]

theorem lead_injective : Function.Injective lead := by
  intro one other same
  cases one <;> cases other <;> grind [lead]

theorem toLower_inj (first : c.isUpper = true) (second : d.isUpper = true) (h : c.toLower = d.toLower) : c = d := by
  have back {c : Char} (upper : c.isUpper = true) : c.toLower.toUpper = c :=
    of_ascii (P := fun c => c.isUpper = true → c.toLower.toUpper = c) (by decide)
      (ascii_of_letter (by rw [isAsciiLetter, upper, Bool.true_or])) upper
  rw [← back first, ← back second, h]

theorem spread_cons (c : Char) (rest : List Char) :
    spread (c :: rest) = (if c.isUpper then ['_', c.toLower] else [c]) ++ spread rest :=
  List.flatMap_cons

theorem spread_cons_ne_nil (c : Char) (rest : List Char) : spread (c :: rest) ≠ [] := by
  rw [spread_cons]
  split <;> simp

/-- Texts without underscores are told apart by what they spread to. -/
theorem spread_inj (plain : '_' ∉ text) (bare : '_' ∉ more) (h : spread text = spread more) : text = more := by
  induction text generalizing more with
  | nil =>
    cases more with
    | nil => rfl
    | cons d more => exact absurd h.symm (spread_cons_ne_nil d more)
  | cons c rest ih =>
    obtain ⟨first, later⟩ := not_or.mp (mt List.mem_cons.mpr plain)
    cases more with
    | nil => exact absurd h (spread_cons_ne_nil c rest)
    | cons d more =>
      obtain ⟨second, others⟩ := not_or.mp (mt List.mem_cons.mpr bare)
      simp only [spread_cons] at h
      split at h <;> split at h
      · next upper capital =>
        obtain ⟨same, rests⟩ : c.toLower = d.toLower ∧ spread rest = spread more := by simpa using h
        rw [toLower_inj upper capital same, ih later others rests]
      · exact absurd (List.cons.inj h).1 second
      · exact absurd (List.cons.inj h).1.symm first
      · obtain ⟨same, rests⟩ : c = d ∧ spread rest = spread more := by simpa using h
        rw [same, ih later others rests]

theorem lead_append (ne : text ≠ []) (more : List Char) : lead (text ++ more) = lead text ++ more := by
  cases text with
  | nil => exact absurd rfl ne
  | cons c rest =>
    rw [List.cons_append, lead, lead, apply_ite (· ++ more)]
    rfl

theorem spread_of_lower (h : ∀ c ∈ text, c.isUpper = false) : spread text = text := by
  induction text with
  | nil => rfl
  | cons c rest ih =>
    obtain ⟨first, others⟩ := List.forall_mem_cons.mp h
    rw [spread_cons, first, ih others]
    rfl

/-- A capitalized word spreads to the word after an underscore, unless a digit begins it. -/
theorem spread_capitalWord (h : ∀ c ∈ word, isNameChar c = true) (plain : '_' ∉ word) :
    spread (capitalWord word) = lead (lowerWord word) := by
  cases word with
  | nil => rfl
  | cons c rest =>
    obtain ⟨first, others⟩ := List.forall_mem_cons.mp h
    obtain ⟨other, -⟩ := not_or.mp (mt List.mem_cons.mpr plain)
    have begun : (if c.toUpper.isUpper then ['_', c.toUpper.toLower] else [c.toUpper]) = lead [c.toLower] :=
      of_ascii (P := fun c => isNameChar c = true → '_' ≠ c →
        (if c.toUpper.isUpper then ['_', c.toUpper.toLower] else [c.toUpper]) = lead [c.toLower])
        (by decide) (ascii_of_nameChar first) first other
    have lower : ∀ d ∈ rest.map Char.toLower, d.isUpper = false := by
      intro d there
      obtain ⟨c, inside, rfl⟩ := List.mem_map.mp there
      exact of_ascii (P := fun c => c.toLower.isUpper = false) (by decide) (ascii_of_nameChar (others c inside))
    calc spread (capitalWord (c :: rest))
        = lead [c.toLower] ++ rest.map Char.toLower := by
          rw [capitalWord_ascii first others, spread_cons, spread_of_lower lower, begun]
      _ = lead (lowerWord (c :: rest)) := by
          rw [← lead_append (List.cons_ne_nil _ _), lowerWord_ascii h]
          rfl

theorem joinDigits_underscore (first : text.head? = some c) (other : c ≠ '_') :
    joinDigits ('_' :: text) = lead (joinDigits text) := by
  obtain ⟨rest, rfl⟩ := List.head?_eq_some_iff.mp first
  have later : joinDigits (c :: rest) = c :: joinDigits rest := by rw [joinDigits, if_neg fun h => other h.1]
  rw [joinDigits, later, lead]
  simp

/-- Underscores stay between words unless a digit begins the next one. -/
theorem lead_joinDigits_intercalate {words : List (List Char)} (ne : ∀ word ∈ words, word ≠ [])
    (plain : ∀ word ∈ words, '_' ∉ word) :
    lead (joinDigits (['_'].intercalate words)) = words.flatMap lead := by
  induction words with
  | nil => rfl
  | cons word words ih =>
    obtain ⟨filled, others_filled⟩ := List.forall_mem_cons.mp ne
    obtain ⟨bare, others_bare⟩ := List.forall_mem_cons.mp plain
    have rest := ih others_filled others_bare
    cases words with
    | nil => rw [List.intercalate_singleton, joinDigits_of_not_mem bare, List.flatMap_singleton]
    | cons next words =>
      obtain ⟨c, tail, rfl⟩ := List.exists_cons_of_ne_nil (others_filled next List.mem_cons_self)
      have other : c ≠ '_' := fun same => others_bare _ List.mem_cons_self (same ▸ List.mem_cons_self)
      have last : word.getLast? ≠ some '_' := fun found => bare (List.mem_of_getLast? found)
      rw [List.intercalate_cons_cons, List.append_assoc, joinDigits_append last, joinDigits_of_not_mem bare,
        List.singleton_append, joinDigits_underscore (head?_intercalate _ _) other, rest, lead_append filled,
        ← List.flatMap_cons]

theorem underscore_not_mem_lowerWord (plain : '_' ∉ word) : '_' ∉ lowerWord word := by
  intro there
  rcases mem_lowerWord there with sigma | ⟨c, inside, lower⟩
  · exact absurd sigma (by decide)
  · exact plain (lowercase_underscore lower ▸ inside)

/-- A name of ASCII in camel case spreads to its words in lower case, each after an underscore unless a digit begins
it. -/
theorem spread_camelCase (chars : name.toList.all isNameChar = true) :
    spread (camelCase name).toList = lead (unbroken name).toList := by
  have ascii : ∀ word ∈ wordsOf name.toList, ∀ c ∈ word, isNameChar c = true := fun word there c inside =>
    List.all_eq_true.mp chars c (isAlphanumeric_of_mem_wordsOf there inside).1
  have plain : ∀ word ∈ wordsOf name.toList, '_' ∉ word := fun word there inside =>
    absurd (isAlphanumeric_of_mem_wordsOf there inside).2 (by decide)
  have lowered : ∀ word ∈ wordsOf name.toList, lowerWord word ≠ [] ∧ '_' ∉ lowerWord word := fun word there => by
    refine ⟨?_, underscore_not_mem_lowerWord (plain word there)⟩
    rw [lowerWord_ascii (ascii word there)]
    exact mt List.map_eq_nil_iff.mp (ne_nil_of_mem_wordsOf there)
  calc spread (camelCase name).toList
      = (wordsOf name.toList).flatMap fun word => spread (capitalWord word) := by
        rw [camelCase, String.toList_ofList, spread, List.flatMap_assoc]
        rfl
    _ = ((wordsOf name.toList).map lowerWord).flatMap lead := by
        rw [List.flatMap_map]
        exact List.flatMap_congr fun word there => spread_capitalWord (ascii word there) (plain word there)
    _ = lead (unbroken name).toList := by
        rw [← lead_joinDigits_intercalate (List.forall_mem_map.mpr fun word there => (lowered word there).1)
          (List.forall_mem_map.mpr fun word there => (lowered word there).2), unbroken, String.toList_ofList,
          snakeCase, String.toList_ofList]

/-- Names of ASCII are the same in camel case exactly if they are the same in snake case, underscores before digits
apart. -/
theorem camelCase_eq_iff (first : one.toList.all isNameChar = true) (second : other.toList.all isNameChar = true) :
    camelCase one = camelCase other ↔ unbroken one = unbroken other :=
  calc camelCase one = camelCase other
      ↔ (camelCase one).toList = (camelCase other).toList := String.toList_inj.symm
    _ ↔ spread (camelCase one).toList = spread (camelCase other).toList :=
        ⟨congrArg spread, spread_inj (underscore_not_mem_camelCase one) (underscore_not_mem_camelCase other)⟩
    _ ↔ lead (unbroken one).toList = lead (unbroken other).toList := by
        rw [spread_camelCase first, spread_camelCase second]
    _ ↔ (unbroken one).toList = (unbroken other).toList := lead_injective.eq_iff
    _ ↔ unbroken one = unbroken other := String.toList_inj

end ProtoStore.Text
