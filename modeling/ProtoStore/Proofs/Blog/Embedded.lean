import Mathlib.Data.List.Infix
import ProtoStore.Proofs.Blog.Conversion
import ProtoStore.Proofs.Wire.Codec

/-!
# Columns of several messages

A column may hold messages that have no table of their own, each after its number of bytes. It is read back
as these messages (`embedded_exact`). Of a column that ends early the messages before the end are read if it
ends between two of them, and the column is refused if it ends within one.
-/

namespace ProtoStore

open Wire

/-! ## Columns -/

/-- A column of messages is read as these messages. A part of it that ends between two messages is read as
those before its end, every other part is refused. -/
structure Wire.Codec.Exact {M : Type} (codec : Codec M) (field : String) (messages : List M) : Prop where
  whole : Convert.allOfBytes codec field (codec.encodeAll messages) = .ok messages
  between : ∀ shorter, shorter <+: messages →
    Convert.allOfBytes codec field (codec.encodeAll shorter) = .ok shorter
  elsewhere : ∀ front, front <+: codec.encodeAll messages →
    (∀ shorter, shorter <+: messages → front ≠ codec.encodeAll shorter) →
      Convert.allOfBytes codec field front = .error (.conversion field .malformedMessage)

theorem Wire.Codec.exact_of_rereads {M : Type} {codec : Codec M} {messages : List M} (field : String)
    (h : ∀ m ∈ messages, codec.Rereads m) : codec.Exact field messages := by
  have read : ∀ shorter, shorter <+: messages →
      Convert.allOfBytes codec field (codec.encodeAll shorter) = .ok shorter := by
    intro shorter part
    have rereads : ∀ m ∈ shorter, codec.Rereads m := fun m there => h m (part.subset there)
    rw [Convert.allOfBytes, Codec.decodeAll?_encodeAll rereads]
  refine ⟨read messages (List.prefix_refl _), read, fun front early ne => ?_⟩
  rcases Codec.decodeAll?_of_prefix h early with ⟨shorter, part, boundary⟩ | refused
  · exact absurd boundary (ne shorter part)
  · rw [Convert.allOfBytes, refused]

/-! ## Messages -/

theorem Wire.Codec.write_length_le {M : Type} {codec : Codec M} {field : Field M} (h : field ∈ codec.fields)
    (m : M) : (field.write m).length ≤ (codec.encode m).length := by
  obtain ⟨before, after, fields⟩ := List.append_of_mem h
  rw [Codec.encode, fields, List.flatMap_append, List.flatMap_cons, List.length_append, List.length_append]
  omega

/-- A text is part of the bytes of its message. -/
theorem Wire.Codec.text_length_le {M : Type} (codec : Codec M) {number : Nat} {get : M → String}
    {set : String → M → M} (h : Field.single number .string get set ∈ codec.fields) (m : M) :
    (get m).utf8ByteSize ≤ (codec.encode m).length := by
  refine Nat.le_trans ?_ (Codec.write_length_le h m)
  show _ ≤ (if get m = default then [] else Field.writeOne number Scalar.string (get m)).length
  split
  · next absent =>
    rw [absent]
    exact Nat.zero_le _
  · show _ ≤ (writeKey number _ ++ (Varint.write (Scalar.utf8 (get m)).length ++ Scalar.utf8 (get m))).length
    have bytes : (Scalar.utf8 (get m)).length = (get m).utf8ByteSize := rfl
    rw [List.length_append, List.length_append, bytes]
    omega

theorem Blog.Metadata.rereads {m : Blog.Metadata} (fits : codec.Fits m) : codec.Rereads m :=
  ⟨fits, merge_encode (Nat.lt_of_le_of_lt (codec.text_length_le List.mem_cons_self m) fits) _⟩

theorem Wire.uuidText_rereads {m : UuidText} (fits : uuidText.Fits m) : uuidText.Rereads m := by
  have small : m.value.utf8ByteSize < UInt64.size :=
    Nat.lt_of_le_of_lt (uuidText.text_length_le List.mem_cons_self m) fits
  obtain ⟨value⟩ := m
  have text : uuidText.Merges (Codec.depthLimit - 1)
      ((Field.single 1 .string (·.value) fun x m => { m with value := x }).write (⟨value⟩ : UuidText))
      fun x => if value = default then x else { x with value } :=
    Codec.merges_single (by decide) (by decide) rfl (Scalar.readsBack_string small)
  refine ⟨fits, ((text.append Codec.merges_nil).merge_eq uuidText.blank).trans (congrArg some ?_)⟩
  show (if value = default then ⟨default⟩ else ⟨value⟩ : UuidText) = ⟨value⟩
  split
  · next absent => rw [absent]
  · rfl

namespace Blog

/-- Columns of metadata and of identifiers are read back, and where they end early that is noticed, unless
they end between two messages. -/
theorem embedded_exact (field : String) :
    (∀ messages : List Metadata, (∀ m ∈ messages, Metadata.codec.Fits m) →
      Metadata.codec.Exact field messages) ∧
    ∀ messages : List UuidText, (∀ m ∈ messages, uuidText.Fits m) → uuidText.Exact field messages :=
  ⟨fun _ fits => Codec.exact_of_rereads field fun m there => Metadata.rereads (fits m there),
    fun _ fits => Codec.exact_of_rereads field fun m there => uuidText_rereads (fits m there)⟩

/-- Two messages in a column, of which the first has all fields at their defaults and is a single zero. -/
theorem embedded_exact_cut :
    let messages : List Metadata := [default, ⟨"a", -1⟩]
    let ids : List UuidText := [⟨"b"⟩, default]
    let column : List UInt8 :=
      [0, 14, 10, 1, 97, 16, 255, 255, 255, 255, 255, 255, 255, 255, 255, 1]
    (∀ m ∈ messages, Metadata.codec.Fits m) ∧ (∀ m ∈ ids, uuidText.Fits m) ∧
      Convert.allOfBytes Metadata.codec "meta" column = .ok messages ∧
      Convert.allOfBytes Metadata.codec "meta" (column.take 1) = .ok [default] ∧
      Convert.allOfBytes Metadata.codec "meta" (column.take 5) = .error (.conversion "meta" .malformedMessage) ∧
      Convert.allOfBytes uuidText "ids" [3, 10, 1, 98, 0] = .ok ids := by
  intro messages ids column
  have small : ∀ m ∈ messages, Metadata.codec.Fits m := by
    simp only [messages, List.forall_mem_cons, Codec.Fits]
    decide +kernel
  have short : ∀ m ∈ ids, uuidText.Fits m := by
    simp only [ids, List.forall_mem_cons, Codec.Fits]
    decide +kernel
  have written : Metadata.codec.encodeAll messages = column := by decide +kernel
  have first : Metadata.codec.encodeAll [default] = column.take 1 := by decide +kernel
  have texts : uuidText.encodeAll ids = [3, 10, 1, 98, 0] := by decide +kernel
  have exact := (embedded_exact "meta").1 messages small
  have others := (embedded_exact "ids").2 ids short
  refine ⟨small, short, written ▸ exact.whole, first ▸ exact.between [default] (List.prefix_append _ _), ?_,
    texts ▸ others.whole⟩
  refine exact.elsewhere _ (written ▸ List.take_prefix 5 column) fun shorter part => ?_
  -- There are three parts of two messages, of 0, 1 and 16 bytes.
  have among : shorter ∈ messages.inits := (List.mem_inits _ _).mpr part
  have none : ∀ shorter ∈ messages.inits, column.take 5 ≠ Metadata.codec.encodeAll shorter := by decide +kernel
  exact none shorter among

end Blog

end ProtoStore
