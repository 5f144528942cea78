import ProtoStore.Json.Codec
import ProtoStore.Proofs.Text.Hex

/-!
# JSON columns read back

`Codec.ReadsBack codec a` : wherever a value may stand in a text, what the codec writes for `a` is read
as `a`, up to what follows it.

* `readsBack_string`, `readsBack_bool` : strings and booleans;
* `readsIn_list` : a list is read as its elements are, whatever they are read as, or not at all if one of
  them is not; `readsBack_list` : lists of values that are read back;
* `decode?_of_readsIn`, `decode?_encode` : a whole column.
-/

namespace ProtoStore.Json

open ProtoStore.Text

/-! ## Marks -/

theorem skipBlanks_cons {c : Char} {rest : List Char} (h : isBlank c = false) :
    skipBlanks (c :: rest) = c :: rest := by
  simp [skipBlanks, h]

theorem mark?_cons {c : Char} (h : isBlank c = false) (rest : List Char) :
    mark? c (c :: rest) = some rest := by
  simp [mark?, skipBlanks_cons h, after?]

theorem mark?_cons_of_ne {c d : Char} (h : isBlank d = false) (hne : c ≠ d) (rest : List Char) :
    mark? c (d :: rest) = none := by
  simp [mark?, skipBlanks_cons h, after?, hne]

/-! ## Strings -/

theorem hex4_digits {a b c d : Nat} (ha : a < 16) (hb : b < 16) (hc : c < 16) (hd : d < 16)
    (rest : List Char) :
    hex4 (Hex.digit a :: Hex.digit b :: Hex.digit c :: Hex.digit d :: rest) =
      some (((a * 16 + b) * 16 + c) * 16 + d, rest) := by
  simp [hex4, Hex.value?_digit, ha, hb, hc, hd]

/-- The escape of a control character. -/
theorem unicodeEscape_control {c : Char} (h : c.toNat < 0x20) (rest : List Char) :
    unicodeEscape ('0' :: '0' :: Hex.digit (c.toNat / 16) :: Hex.digit (c.toNat % 16) :: rest) =
      some (c, rest) := by
  have zero : Hex.digit 0 = '0' := by decide
  have code : ((0 * 16 + 0) * 16 + c.toNat / 16) * 16 + c.toNat % 16 = c.toNat := by omega
  have digits := hex4_digits (by decide : 0 < 16) (by decide : 0 < 16)
    (by omega : c.toNat / 16 < 16) (by omega : c.toNat % 16 < 16) rest
  rw [zero, code] at digits
  have low : ¬ (0xDC00 ≤ c.toNat) := by omega
  have high : ¬ (0xD800 ≤ c.toNat) := by omega
  simp [unicodeEscape, digits, low, high, Char.ofNat_toNat]

theorem stringStep_plain {c : Char} (hq : c ≠ '"') (hs : c ≠ '\\') (h : ¬ c.toNat < 0x20)
    (rest : List Char) : stringStep (c :: rest) = some (some c, rest) := by
  rw [stringStep]
  · rw [if_neg h]
  · exact hq
  · exact hs

theorem stringStep_writeChar (c : Char) (rest : List Char) :
    stringStep (Codec.writeChar c ++ rest) = some (some c, rest) := by
  unfold Codec.writeChar
  split
  · next h => subst h; rfl
  split
  · next h => subst h; rfl
  split
  · next h => subst h; rfl
  split
  · next h => subst h; rfl
  split
  · next h => subst h; rfl
  split
  · next h => subst h; rfl
  split
  · next h => subst h; rfl
  split
  · next h =>
    show (unicodeEscape ('0' :: '0' :: Hex.digit (c.toNat / 16) :: Hex.digit (c.toNat % 16) ::
      rest)).map _ = _
    rw [unicodeEscape_control h]
    rfl
  · next hq hs _ _ _ _ _ h => exact stringStep_plain hq hs h rest

theorem writeChar_ne_nil (c : Char) : Codec.writeChar c ≠ [] := by
  intro h
  have step := stringStep_writeChar c []
  rw [h] at step
  cases step

theorem stringBody_write (cs rest : List Char) :
    stringBody (cs.flatMap Codec.writeChar ++ '"' :: rest) = some (cs, rest) := by
  induction cs with
  | nil =>
    rw [stringBody]
    rfl
  | cons c cs ih =>
    rw [List.flatMap_cons, List.append_assoc, stringBody, stringStep_writeChar]
    have shorter : (cs.flatMap Codec.writeChar ++ '"' :: rest).length <
        (Codec.writeChar c ++ (cs.flatMap Codec.writeChar ++ '"' :: rest)).length := by
      have := List.length_pos_iff.mpr (writeChar_ne_nil c)
      simp only [List.length_append]
      omega
    simp only [shorter, if_true, ih, Option.map_some]

theorem string_writeString (text : String) (rest : List Char) :
    string (Codec.writeString text ++ rest) = some (text, rest) := by
  have body := stringBody_write text.toList rest
  rw [string, Codec.writeString, List.cons_append, List.cons_append, List.append_assoc,
    List.singleton_append, mark?_cons (by decide)]
  simp [body]

namespace Codec

/-! ## Codecs -/

/-- What may follow a value in a text. -/
def Ends (rest : List Char) : Prop := ∀ c ∈ rest.head?, c = ',' ∨ c = ']' ∨ c = '\x7d'

/-- What a codec writes for a value is read as that value. -/
structure ReadsBack {α : Type} (codec : Codec α) (a : α) : Prop where
  starts : ∃ c rest, codec.write a = c :: rest ∧ isBlank c = false ∧ c ≠ ']'
  read {rest : List Char} : Ends rest → codec.read (codec.write a ++ rest) = some (a, rest)

theorem readsBack_string (text : String) : string.ReadsBack text where
  starts := ⟨'"', _, rfl, by decide, by decide⟩
  read _ := string_writeString text _

theorem readsBack_bool (x : Bool) : bool.ReadsBack x := by
  cases x with
  | true => exact ⟨⟨'t', _, rfl, by decide, by decide⟩, fun _ => rfl⟩
  | false => exact ⟨⟨'f', _, rfl, by decide, by decide⟩, fun _ => rfl⟩

/-! ## Collections -/

/-- What a codec writes for `a`, anywhere within a collection with a closing mark, is read as `result`,
or not at all if there is none. -/
structure ReadsIn {α : Type} (codec : Codec α) (closing : Char) (a : α) (result : Option α) :
    Prop where
  starts : ∃ c rest, codec.write a = c :: rest ∧ isBlank c = false ∧ c ≠ closing
  read {rest : List Char} : Ends rest → codec.read (codec.write a ++ rest) = result.map (·, rest)

theorem ReadsBack.readsIn {α : Type} {codec : Codec α} {a : α} (h : codec.ReadsBack a) :
    codec.ReadsIn ']' a (some a) := ⟨h.starts, h.read⟩

theorem ReadsIn.readsBack {α : Type} {codec : Codec α} {a : α} (h : codec.ReadsIn ']' a (some a)) :
    codec.ReadsBack a := ⟨h.starts, h.read⟩

section

variable {α : Type} {element : Codec α} {result : α → Option α} {closing : Char}

theorem separated_cons_append (text : List Char) (texts : List (List Char)) (rest : List Char) :
    separated (text :: texts) ++ rest =
      text ++ (texts.flatMap (fun text => ',' :: text) ++ rest) := by
  induction texts generalizing text with
  | nil => simp [separated]
  | cons next texts ih =>
    rw [separated, List.append_assoc, List.cons_append, ih next, List.flatMap_cons, List.append_assoc,
      List.cons_append]
    exact fun h => by cases h

theorem ends_parts (hc : closing = ']' ∨ closing = '\x7d') (texts : List (List Char))
    (rest : List Char) : Ends (texts.flatMap (fun text => ',' :: text) ++ closing :: rest) := by
  cases texts with
  | nil => simpa [Ends] using .inr hc
  | cons text texts => simp [Ends]

theorem readMore_write (hc : closing = ']' ∨ closing = '\x7d') {values : List α}
    (h : ∀ a ∈ values, element.ReadsIn closing a (result a)) (rest : List Char) :
    readMore element.read closing ((values.map element.write).flatMap (fun text => ',' :: text) ++
      closing :: rest) = (values.mapM result).map (·, rest) := by
  have blank : isBlank closing = false := by rcases hc with rfl | rfl <;> decide
  have comma : closing ≠ ',' := by rcases hc with rfl | rfl <;> decide
  induction values with
  | nil =>
    rw [readMore]
    simp [mark?_cons blank]
  | cons a values ih =>
    have ih := ih fun b hb => h b (List.mem_cons_of_mem a hb)
    have first := (h a List.mem_cons_self).read (ends_parts hc (values.map element.write) rest)
    obtain ⟨c, tail, hw, -, -⟩ := (h a List.mem_cons_self).starts
    rw [List.map_cons, List.flatMap_cons, List.append_assoc, List.cons_append, readMore,
      mark?_cons_of_ne (by decide) comma, mark?_cons (by decide), Option.bind_some, first]
    -- What is left is shorter, since an element is at least one character.
    have shorter : ((values.map element.write).flatMap (fun text => ',' :: text) ++
        closing :: rest).length < (',' :: (element.write a ++
        ((values.map element.write).flatMap (fun text => ',' :: text) ++ closing :: rest))).length := by
      simp only [List.length_append, List.length_cons]
      omega
    cases hr : result a with
    | none => simp [hr]
    | some b =>
      simp only [Option.map_some, shorter, if_true, ih, List.mapM_cons, hr]
      cases values.mapM result <;> rfl

theorem readBetween_write {opening : Char} (ho : isBlank opening = false)
    (hc : closing = ']' ∨ closing = '\x7d') {values : List α}
    (h : ∀ a ∈ values, element.ReadsIn closing a (result a)) (rest : List Char) :
    readBetween opening closing element.read
        (opening :: separated (values.map element.write) ++ [closing] ++ rest) =
      (values.mapM result).map (·, rest) := by
  have blank : isBlank closing = false := by rcases hc with rfl | rfl <;> decide
  rw [readBetween, List.append_assoc, List.cons_append, mark?_cons ho, List.singleton_append]
  cases values with
  | nil => simp [separated, mark?_cons blank]
  | cons a values =>
    have more := readMore_write hc (fun b hb => h b (List.mem_cons_of_mem a hb)) rest
    have first := (h a List.mem_cons_self).read (ends_parts hc (values.map element.write) rest)
    obtain ⟨c, tail, hw, hb, hne⟩ := (h a List.mem_cons_self).starts
    rw [List.map_cons, separated_cons_append]
    rw [hw, List.cons_append] at first ⊢
    simp only [Option.bind_eq_bind, Option.bind_some, mark?_cons_of_ne hb (Ne.symm hne), first]
    cases hr : result a with
    | none => simp [hr]
    | some b =>
      simp only [Option.map_some, Option.bind_some, more, List.mapM_cons, hr, Option.bind_eq_bind]
      cases values.mapM result <;> rfl

/-- A list is read as its elements are, if all of them are. -/
theorem readsIn_list {values : List α} (h : ∀ a ∈ values, element.ReadsIn ']' a (result a)) :
    element.list.ReadsIn ']' values (values.mapM result) where
  starts := ⟨'[', _, rfl, by decide, by decide⟩
  read {rest} _ := readBetween_write (by decide) (.inl rfl) h rest

theorem mapM_eq_some_self {values : List α} :
    values.mapM result = some values ↔ ∀ a ∈ values, result a = some a := by
  induction values with
  | nil => simp
  | cons a values ih =>
    simp only [List.mapM_cons, List.mem_cons, forall_eq_or_imp, ← ih]
    constructor
    · intro h
      obtain ⟨b, hb, h⟩ := Option.bind_eq_some_iff.mp h
      obtain ⟨bs, hbs, h⟩ := Option.bind_eq_some_iff.mp h
      cases h
      exact ⟨hb, hbs⟩
    · rintro ⟨ha, hs⟩
      simp [ha, hs]

theorem readsBack_list {values : List α} (h : ∀ a ∈ values, element.ReadsBack a) :
    element.list.ReadsBack values := by
  have all := readsIn_list fun a ha => (h a ha).readsIn
  rw [mapM_eq_some_self.mpr fun _ _ => rfl] at all
  exact all.readsBack

/-- A column is read as its value is. -/
theorem decode?_of_readsIn {a : α} {b : Option α} (h : element.ReadsIn ']' a b) :
    element.decode? (element.encode a) = b := by
  have read : element.read (element.write a ++ []) = b.map (·, []) := h.read (by simp [Ends])
  rw [List.append_nil] at read
  rw [decode?, encode, String.toList_ofList, read]
  cases b <;> simp [skipBlanks]

/-- A column holds what it was written for. -/
theorem decode?_encode {a : α} (h : element.ReadsBack a) :
    element.decode? (element.encode a) = some a := decode?_of_readsIn h.readsIn

theorem encode_ne_empty_of_readsIn {a : α} {b : Option α} (h : element.ReadsIn closing a b) :
    element.encode a ≠ "" := by
  obtain ⟨c, rest, hw, -, -⟩ := h.starts
  intro he
  have he := congrArg String.toList he
  rw [encode, String.toList_ofList, hw] at he
  cases he

theorem encode_ne_empty {a : α} (h : element.ReadsBack a) : element.encode a ≠ "" :=
  encode_ne_empty_of_readsIn h.readsIn

end

end Codec

end ProtoStore.Json
