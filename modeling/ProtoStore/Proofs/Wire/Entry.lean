import ProtoStore.Wire.Entry

/-!
# Entries read back

* `Varint.read_write` : numbers below `2 ^ 64` are read as they were written;
* `readDelimited_write` : so are bytes after their number;
* `readEntry_append` : an entry is what its key and its payload are read as;
* `Parses bytes entries` : wherever bytes stand in a message, they are read as entries. Bytes of parts
  that are read so one after the other are read so together (`Parses.append`).
-/

namespace ProtoStore.Wire

/-! ## Numbers -/

theorem Varint.readFrom_write {place n : Nat} (hp : place ≤ 9)
    (h : n < Nat.pow 2 (64 - 7 * place)) (rest : List UInt8) :
    readFrom place (write n ++ rest) = some (n, rest) := by
  change n < 2 ^ (64 - 7 * place) at h
  induction n using write.induct generalizing place with
  | case1 n hn =>
    rw [write, if_pos hn, List.singleton_append, readFrom]
    have hb : (UInt8.ofNat n).toNat = n := by
      rw [UInt8.toNat_ofNat']
      omega
    rw [hb, if_pos hn]
    rcases Nat.lt_or_eq_of_le hp with hp | rfl
    · have : (place == 9) = false := by simp; omega
      simp [this]
    · simp at h
      simp [h]
  | case2 n hn ih =>
    have hlt : place < 9 := by
      refine Nat.lt_of_le_of_ne hp fun e => ?_
      subst e
      simp at h
      omega
    have hb : (UInt8.ofNat (n % 128 + 128)).toNat = n % 128 + 128 := by
      rw [UInt8.toNat_ofNat']
      omega
    have next : n / 128 < 2 ^ (64 - 7 * (place + 1)) := by
      rw [Nat.div_lt_iff_lt_mul (by decide)]
      have : 2 ^ (64 - 7 * place) = 2 ^ (64 - 7 * (place + 1)) * 128 := by
        rw [show 64 - 7 * place = 64 - 7 * (place + 1) + 7 by omega, Nat.pow_add]
      omega
    have more : ¬ n % 128 + 128 < 128 := by omega
    have inside : (place == 9) = false := by simp; omega
    rw [write, if_neg hn, List.cons_append, readFrom, hb, if_neg more, inside,
      ih (by omega) next]
    simp
    omega

theorem Varint.read_write {n : Nat} (h : n < UInt64.size) (rest : List UInt8) :
    read (write n ++ rest) = some (n, rest) :=
  readFrom_write (by decide) h rest

theorem Varint.write_ne_nil (n : Nat) : write n ≠ [] := by
  rw [write]
  split <;> exact List.cons_ne_nil _ _

/-! ## Keys and payloads -/

theorem take?_append (bytes rest : List UInt8) :
    take? bytes.length (bytes ++ rest) = some (bytes, rest) := by
  simp [take?]

theorem readDelimited_write {bytes : List UInt8} (h : bytes.length < UInt64.size)
    (rest : List UInt8) : readDelimited (writeDelimited bytes ++ rest) = some (bytes, rest) := by
  rw [readDelimited, writeDelimited, List.append_assoc, Varint.read_write h]
  exact take?_append bytes rest

theorem ofCode?_code (type : WireType) : WireType.ofCode? type.code = some type := by
  cases type <;> rfl

theorem readKey_write {number : Nat} (h0 : 0 < number) (h : number < Nat.pow 2 29) (type : WireType)
    (rest : List UInt8) : readKey (writeKey number type ++ rest) = some ((number, type), rest) := by
  change number < 2 ^ 29 at h
  have code : type.code < 8 := by cases type <;> decide
  have mod : (number * 8 + type.code) % 8 = type.code := by omega
  have div : (number * 8 + type.code) / 8 = number := by omega
  have small : number * 8 + type.code < UInt32.size := by
    rw [UInt32.size]
    omega
  have big : 8 ≤ number * 8 + type.code := by omega
  have word : number * 8 + type.code < UInt64.size := Nat.lt_trans small (by decide)
  simp [readKey, writeKey, Varint.read_write word, mod, div, ofCode?_code, small, big]

theorem readEntry_append {depth number : Nat} {type : WireType} {payload : Payload}
    {bytes rest : List UInt8} (h0 : 0 < number) (h : number < Nat.pow 2 29)
    (hp : readPayload depth number (bytes ++ rest) type = some (payload, rest)) :
    readEntry depth (writeKey number type ++ bytes ++ rest) = some (⟨number, payload⟩, rest) := by
  rw [readEntry, List.append_assoc, readKey_write h0 h]
  simp [hp]

/-! ## Sequences of entries -/

/-- Bytes are read as entries, whatever follows them. -/
def Parses (depth : Nat) (bytes : List UInt8) (entries : List Entry) : Prop :=
  ∀ rest more, entries? depth rest = some more → entries? depth (bytes ++ rest) = some (entries ++ more)

namespace Parses

variable {depth : Nat} {bytes more : List UInt8} {entries others : List Entry}

theorem nil : Parses depth [] [] := fun _ _ h => h

theorem append (h : Parses depth bytes entries) (h' : Parses depth more others) :
    Parses depth (bytes ++ more) (entries ++ others) := by
  intro rest last hr
  rw [List.append_assoc, List.append_assoc]
  exact h _ _ (h' rest last hr)

theorem one {number : Nat} {type : WireType} {payload : Payload} (h0 : 0 < number)
    (h : number < Nat.pow 2 29)
    (hp : ∀ rest, readPayload depth number (bytes ++ rest) type = some (payload, rest)) :
    Parses depth (writeKey number type ++ bytes) [⟨number, payload⟩] := by
  intro rest last hr
  have hk : writeKey number type ≠ [] := Varint.write_ne_nil _
  obtain ⟨first, key, hkey⟩ := List.exists_cons_of_ne_nil hk
  have entry := readEntry_append h0 h (hp rest)
  rw [hkey] at entry ⊢
  simp only [List.cons_append] at entry ⊢
  rw [entries?, entry]
  simp [hr]
  omega

theorem entries?_eq (h : Parses depth bytes entries) : entries? depth bytes = some entries := by
  have all := h [] [] (by rw [entries?])
  simpa using all

end Parses

end ProtoStore.Wire
