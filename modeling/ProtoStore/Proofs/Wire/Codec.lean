import ProtoStore.Proofs.Wire.Entry
import ProtoStore.Wire.Codec

/-!
# Messages read back

* `Scalar.ReadsBack scalar a` : what is written for a value is read as that value, wherever it stands
  in a message;
* `Codec.Merges codec depth bytes f` : wherever bytes stand in an encoded message, they change the
  message that is read by `f`. Fields that are read back do so (`merges_single`), and what a message is
  made of is put together (`Merges.append`, `Merges.merge_eq`).

Messages stand one after the other, each after its number of bytes.

* `Varint.readFrom_truncated`, `readDelimited_truncated` : a number that ends early is refused, and so are
  bytes that end before their number of them is there;
* `Codec.Rereads` : messages that are read back from their bytes;
* `Codec.decodeAll?_encodeAll` : several of them are read back together;
* `Codec.decodeAll?_of_prefix` : of bytes that end early those are read that end between two messages, and
  all others are refused.
-/

namespace ProtoStore.Wire

/-! ## Scalars -/

namespace Scalar

variable {α : Type}

/-- What is written for a value is read as that value. -/
def ReadsBack (scalar : Scalar α) (a : α) : Prop :=
  ∃ payload, scalar.read payload = some a ∧ ∀ depth number rest,
    readPayload depth number (scalar.write a ++ rest) scalar.type = some (payload, rest)

theorem readsBack_number {toNat : α → Nat} {ofNat : Nat → α} {a : α} (h : toNat a < UInt64.size)
    (inv : ofNat (toNat a) = a) : (number toNat ofNat).ReadsBack a := by
  refine ⟨.varint (toNat a), congrArg some inv, fun depth number rest => ?_⟩
  show (Varint.read (Varint.write (toNat a) ++ rest)).map _ = _
  rw [Varint.read_write h]
  rfl

theorem readsBack_int32 (n : Int32) : int32.ReadsBack n :=
  readsBack_number n.toInt64.toUInt64.toNat_lt (by simp)

theorem ofUtf8?_utf8 (text : String) : ofUtf8? (utf8 text) = some text := by
  rw [ofUtf8?, utf8, String.fromUTF8?]
  exact dif_pos text.isValidUTF8

theorem readsBack_string {text : String} (h : text.utf8ByteSize < UInt64.size) :
    string.ReadsBack text := by
  refine ⟨.delimited (utf8 text), ofUtf8?_utf8 text, fun depth number rest => ?_⟩
  show (readDelimited (writeDelimited (utf8 text) ++ rest)).map _ = _
  rw [readDelimited_write]
  · rfl
  · exact h

end Scalar

/-! ## Messages -/

namespace Codec

variable {M α : Type} {codec : Codec M} {depth : Nat} {bytes more : List UInt8} {f g : M → M}

/-- Bytes change the message that is read by `f`. -/
def Merges (codec : Codec M) (depth : Nat) (bytes : List UInt8) (f : M → M) : Prop :=
  ∃ entries, Parses depth bytes entries ∧ ∀ m, entries.foldlM (codec.put depth) m = some (f m)

theorem merges_nil : codec.Merges depth [] id := ⟨[], Parses.nil, fun _ => rfl⟩

theorem Merges.append (h : codec.Merges depth bytes f) (h' : codec.Merges depth more g) :
    codec.Merges depth (bytes ++ more) (g ∘ f) := by
  obtain ⟨entries, hp, hf⟩ := h
  obtain ⟨others, hp', hg⟩ := h'
  refine ⟨entries ++ others, hp.append hp', fun m => ?_⟩
  rw [List.foldlM_append, hf]
  exact hg _

theorem Merges.merge_eq (h : codec.Merges depth bytes f) (m : M) :
    codec.merge depth bytes m = some (f m) := by
  obtain ⟨entries, hp, hf⟩ := h
  rw [Codec.merge, hp.entries?_eq, Option.bind_some]
  exact hf m

/-- A field without presence that has its default writes nothing. -/
theorem merges_single [DecidableEq α] [Inhabited α] {number : Nat} {scalar : Scalar α}
    {get : M → α} {set : α → M → M} {m : M} (h0 : 0 < number) (hn : number < Nat.pow 2 29)
    (hf : codec.fields.find? (·.number == number) = some (.single number scalar get set))
    (h : scalar.ReadsBack (get m)) :
    codec.Merges depth ((Field.single number scalar get set).write m)
      fun x => if get m = default then x else set (get m) x := by
  show codec.Merges depth (if get m = default then [] else Field.writeOne number scalar (get m)) _
  by_cases hd : get m = default
  · simp only [hd, if_true]
    exact merges_nil
  · simp only [hd, if_false]
    obtain ⟨payload, hr, hp⟩ := h
    refine ⟨[⟨number, payload⟩], Parses.one h0 hn (hp depth number), fun x => ?_⟩
    have read : (Field.single number scalar get set).read depth payload x = some (set (get m) x) := by
      show (scalar.read payload).map _ = _
      rw [hr]
      rfl
    simp [put, hf, read]

end Codec

/-- What begins a list that is put together ends within its first part, or takes in all of it. -/
theorem prefix_append_cases {α : Type} {front first second : List α} (h : front <+: first ++ second) :
    front <+: first ∧ front ≠ first ∨ ∃ more, more <+: second ∧ front = first ++ more := by
  obtain ⟨rest, whole⟩ := h
  rcases List.append_eq_append_iff.mp whole with ⟨missing, rfl, -⟩ | ⟨more, rfl, rfl⟩
  · by_cases all : missing = []
    · subst all
      exact Or.inr ⟨[], List.nil_prefix, by rw [List.append_nil, List.append_nil]⟩
    · exact Or.inl ⟨List.prefix_append _ _, fun e => all (List.self_eq_append_right.mp e)⟩
  · exact Or.inr ⟨more, List.prefix_append _ _, rfl⟩

/-! ## Bytes that end early -/

/-- A number that ends early is refused, as all bytes of it but the last say that more follow. -/
theorem Varint.readFrom_truncated {place n : Nat} {front : List UInt8} (early : front <+: write n)
    (ne : front ≠ write n) : readFrom place front = none := by
  -- The induction is on the groups of seven bits that are written, so on the bytes.
  induction n using write.induct generalizing place front with
  | case1 n small =>
    rw [write, if_pos small] at early ne
    rcases List.prefix_cons_iff.mp early with rfl | ⟨tail, rfl, more⟩
    · rfl
    · obtain rfl := List.prefix_nil.mp more
      exact absurd rfl ne
  | case2 n large ih =>
    rw [write, if_neg large] at early ne
    cases front with
    | nil => rfl
    | cons b front =>
      obtain ⟨rfl, tail⟩ := List.cons_prefix_cons.mp early
      have continues : ¬ (UInt8.ofNat (n % 128 + 128)).toNat < 128 := by
        rw [UInt8.toNat_ofNat']
        omega
      rw [readFrom, if_neg continues, ih tail fun e => ne (e ▸ rfl)]
      split <;> rfl

theorem readDelimited_truncated {bytes front : List UInt8} (fits : bytes.length < UInt64.size)
    (early : front <+: writeDelimited bytes) (ne : front ≠ writeDelimited bytes) :
    readDelimited front = none := by
  unfold writeDelimited at early ne
  rcases prefix_append_cases early with ⟨within, short⟩ | ⟨more, part, rfl⟩
  · have none : Varint.read front = none := Varint.readFrom_truncated within short
    rw [readDelimited, none]
    rfl
  · have short : ¬ bytes.length ≤ more.length := fun enough =>
      ne (congrArg (Varint.write bytes.length ++ ·) (part.eq_of_length_le enough))
    simp only [readDelimited, Varint.read_write fits, take?, if_neg short, Option.bind_eq_bind, Option.bind_some]

/-! ## Messages one after the other -/

namespace Codec

variable {M : Type} {codec : Codec M} {m : M} {messages : List M} {front rest : List UInt8}

/-- The number of a message's bytes can be written before them. -/
def Fits (codec : Codec M) (m : M) : Prop := (codec.encode m).length < UInt64.size

/-- A message is read back from its bytes. -/
structure Rereads (codec : Codec M) (m : M) : Prop where
  fits : codec.Fits m
  merge : codec.merge (depthLimit - 1) (codec.encode m) codec.blank = some m

theorem encodeDelimited_ne_nil (codec : Codec M) (m : M) : codec.encodeDelimited m ≠ [] :=
  List.append_ne_nil_of_left_ne_nil (Varint.write_ne_nil _) _

theorem encodeAll_cons (codec : Codec M) (m : M) (messages : List M) :
    codec.encodeAll (m :: messages) = codec.encodeDelimited m ++ codec.encodeAll messages :=
  List.flatMap_cons

theorem readDelimited_encodeDelimited (h : codec.Rereads m) (rest : List UInt8) :
    codec.readDelimited (codec.encodeDelimited m ++ rest) = some (m, rest) := by
  rw [Codec.readDelimited, encodeDelimited, readDelimited_write h.fits]
  simp [h.merge]

theorem readDelimited_of_prefix (h : codec.Rereads m) (early : front <+: codec.encodeDelimited m)
    (ne : front ≠ codec.encodeDelimited m) : codec.readDelimited front = none := by
  rw [Codec.readDelimited, readDelimited_truncated h.fits early ne]
  rfl

theorem decodeAll?_append (h : codec.Rereads m) (rest : List UInt8) :
    codec.decodeAll? (codec.encodeDelimited m ++ rest) = (codec.decodeAll? rest).map (m :: ·) := by
  have first := readDelimited_encodeDelimited h rest
  obtain ⟨b, bytes, hb⟩ := List.exists_cons_of_ne_nil (encodeDelimited_ne_nil codec m)
  rw [hb, List.cons_append] at first ⊢
  rw [decodeAll?, first]
  simp only [List.length_cons, List.length_append]
  rw [if_pos (by omega)]

theorem decodeAll?_within (h : codec.Rereads m) (begun : front ≠ [])
    (early : front <+: codec.encodeDelimited m) (ne : front ≠ codec.encodeDelimited m) :
    codec.decodeAll? front = none := by
  have first := readDelimited_of_prefix h early ne
  obtain ⟨b, bytes, rfl⟩ := List.exists_cons_of_ne_nil begun
  rw [decodeAll?, first]

theorem decodeAll?_encodeAll (h : ∀ m ∈ messages, codec.Rereads m) :
    codec.decodeAll? (codec.encodeAll messages) = some messages := by
  induction messages with
  | nil =>
    show codec.decodeAll? [] = some []
    rw [decodeAll?]
  | cons m messages ih =>
    obtain ⟨first, others⟩ := List.forall_mem_cons.mp h
    rw [encodeAll_cons, decodeAll?_append first, ih others]
    rfl

/-- Bytes that end early end between two messages or are refused. -/
theorem decodeAll?_of_prefix (h : ∀ m ∈ messages, codec.Rereads m)
    (early : front <+: codec.encodeAll messages) :
    (∃ shorter, shorter <+: messages ∧ front = codec.encodeAll shorter) ∨ codec.decodeAll? front = none := by
  induction messages generalizing front with
  | nil => exact Or.inl ⟨[], List.nil_prefix, List.prefix_nil.mp early⟩
  | cons m messages ih =>
    obtain ⟨first, others⟩ := List.forall_mem_cons.mp h
    rw [encodeAll_cons] at early
    rcases prefix_append_cases early with ⟨within, short⟩ | ⟨more, tail, rfl⟩
    · by_cases begun : front = []
      · exact Or.inl ⟨[], List.nil_prefix, begun⟩
      · exact Or.inr (decodeAll?_within first begun within short)
    · rcases ih others tail with ⟨shorter, part, rfl⟩ | refused
      · exact Or.inl ⟨m :: shorter, (List.prefix_cons_inj m).mpr part, (encodeAll_cons codec m shorter).symm⟩
      · refine Or.inr ?_
        rw [decodeAll?_append first, refused]
        rfl

end Codec

end ProtoStore.Wire
