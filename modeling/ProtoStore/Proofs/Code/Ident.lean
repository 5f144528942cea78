import ProtoStore.Proofs.Text.Lettered
import ProtoStore.Schema.Naming

/-!
# Identifiers of names

* `Ident.Names`, `Ident.Declares` : texts that are identifiers and name something, or can declare a field;
* `Ident.ofText_ok`, `Ident.ofText_of_valid` : what is read as an identifier;
* `Naming.snake_names`, `Naming.camel_lettered` : the spellings of lettered names are identifiers;
* `Naming.fieldIdent_ok` and its siblings : so their identifiers exist.
-/

namespace ProtoStore

open Text (IsLettered isNameChar isAsciiLetter)

variable {name before after text : String} {ident : Ident}

namespace Ident

/-- A text that is an identifier and by which a struct can declare a field. -/
structure Declares (text : String) : Prop where
  valid : Ident.valid text = true
  declares : text ∉ pathWords

/-- A text that is an identifier and by which a field can be selected. -/
structure Names (text : String) : Prop where
  valid : Ident.valid text = true
  names : text ∉ unnaming

instance : DecidablePred Declares := fun text =>
  decidable_of_iff (Ident.valid text = true ∧ text ∉ pathWords) ⟨fun h => ⟨h.1, h.2⟩, fun h => ⟨h.valid, h.declares⟩⟩

instance : DecidablePred Names := fun text =>
  decidable_of_iff (Ident.valid text = true ∧ text ∉ unnaming) ⟨fun h => ⟨h.1, h.2⟩, fun h => ⟨h.valid, h.names⟩⟩

theorem ofText_ok (h : ofText text = .ok ident) :
    valid text = true ∧ ident = ⟨text, keywords.contains text⟩ := by
  unfold ofText at h
  split at h
  · next valid =>
    cases h
    exact ⟨valid, rfl⟩
  · cases h

theorem ofText_of_valid (h : valid text = true) : ofText text = .ok ⟨text, keywords.contains text⟩ :=
  if_pos h

theorem exists_ofText (h : valid text = true) : ∃ ident, ofText text = .ok ident ∧ valid ident.text = true :=
  ⟨_, ofText_of_valid h, h⟩

theorem Names.declares (h : Names text) : Declares text :=
  ⟨h.valid, fun word => h.names (List.mem_cons_of_mem _ word)⟩

theorem Names.ofText (h : Names text) : ∃ ident, Ident.ofText text = .ok ident ∧ Names ident.text :=
  ⟨_, ofText_of_valid h.valid, h⟩

theorem valid_of_lettered (h : IsLettered text.toList) : valid text = true := by
  obtain ⟨c, rest, whole, letter⟩ := h.exists_cons
  have chars := h.chars
  unfold valid
  rw [whole] at chars ⊢
  have start : Text.isIdentStart c = true := by
    rw [Text.isIdentStart, if_pos (Text.ascii_of_letter letter), letter]
  have continues : rest.all Text.isIdentContinue = true := by
    refine List.all_eq_true.mpr fun d there => ?_
    have char := List.all_eq_true.mp chars d (List.mem_cons_of_mem c there)
    rw [Text.isIdentContinue, if_pos (Text.ascii_of_nameChar char)]
    exact char
  simp [validChars, start, continues]

/-- A lettered text names something unless it is one of the words without a raw form. -/
theorem names_of_lettered (h : IsLettered text.toList) (free : text ∉ pathWords) : Names text := by
  refine ⟨valid_of_lettered h, fun there => ?_⟩
  rcases List.mem_cons.mp there with rfl | word
  · exact absurd h.first (by decide +kernel)
  · exact free word

/-! ## Identifiers in code -/

theorem raw_ne {word : String} (h : word.toList.head? ≠ some 'r') : "r#" ++ text ≠ word := by
  rintro rfl
  simp at h

theorem spelling_ne_point (h : valid ident.text = true) : ident.spelling ≠ "." := by
  unfold spelling
  split
  · exact raw_ne (by decide +kernel)
  · intro same
    rw [same] at h
    revert h
    decide +kernel

theorem selectable_iff :
    Code.selectable (.atom ident.spelling) = true ↔ ident.raw = true ∨ ident.text ∉ unnaming := by
  have apart : ∀ word ∈ unnaming, word.toList.head? ≠ some 'r' := by decide +kernel
  unfold spelling
  split
  · next raw =>
    have free : "r#" ++ ident.text ∉ unnaming := fun there => raw_ne (apart _ there) rfl
    simpa [Code.selectable, raw] using free
  · next plain => simp [Code.selectable, plain]

end Ident

/-! ## Spellings -/

namespace Naming

theorem snake_names (h : IsLettered name.toList) : Ident.Names (snake name) := by
  unfold snake
  dsimp only
  split
  · next word =>
    have taken : ∀ word ∈ Ident.pathWords, Ident.Names (word ++ "_") := by
      refine fun word there => ⟨?_, ?_⟩ <;> revert word <;> decide +kernel
    exact taken _ (by simpa using word)
  · next free =>
    exact Ident.names_of_lettered h.snakeCase (by simpa using free)

theorem camel_lettered (h : IsLettered name.toList) : IsLettered (camel name).toList := by
  unfold camel
  dsimp only
  split
  · rw [String.toList_append]
    exact h.camelCase.append (by decide +kernel)
  · exact h.camelCase

theorem fieldIdent_ok (h : IsLettered name.toList) : ∃ ident, fieldIdent name = .ok ident ∧ Ident.Names ident.text :=
  (snake_names h).ofText

theorem typeIdent_ok (h : IsLettered name.toList) :
    ∃ ident, typeIdent name = .ok ident ∧ Ident.valid ident.text = true :=
  Ident.exists_ofText (Ident.valid_of_lettered (camel_lettered h))

theorem functionIdent_ok (before after : String) (h : IsLettered name.toList) (first : IsLettered before.toList)
    (chars : after.toList.all isNameChar = true) :
    ∃ ident, functionIdent before name after = .ok ident ∧ Ident.valid ident.text = true := by
  refine Ident.exists_ofText (Ident.valid_of_lettered ?_)
  rw [String.toList_append, String.toList_append]
  exact (first.append h.snakeCase.chars).append chars

/-- The spelling of a type goes on as a name. -/
theorem camel_append_ok (after : String) (h : IsLettered name.toList)
    (chars : after.toList.all isNameChar = true) :
    ∃ ident, Ident.ofText (camel name ++ after) = .ok ident ∧ Ident.valid ident.text = true := by
  refine Ident.exists_ofText (Ident.valid_of_lettered ?_)
  rw [String.toList_append]
  exact (camel_lettered h).append chars

theorem recordIdent_ok (h : IsLettered name.toList) :
    ∃ ident, recordIdent name = .ok ident ∧ Ident.valid ident.text = true :=
  camel_append_ok "Orm" h (by decide)

theorem hooksIdent_ok (h : IsLettered name.toList) :
    ∃ ident, hooksIdent name = .ok ident ∧ Ident.valid ident.text = true :=
  camel_append_ok "Hooks" h (by decide)

end Naming

end ProtoStore
