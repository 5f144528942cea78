import Mathlib.Data.List.Nodup
import ProtoStore.Proofs.Json.Numbers

/-!
# Maps read back

Keys of maps are strings, or numbers and booleans written between quotes. `KeyCodec.ReadsBack` says
that a key is read as itself, and `readsIn_map` that a map whose keys are distinct is read as its values
are, each under its key.
-/

namespace ProtoStore.Json

open ProtoStore.Number

/-! ## Keys -/

/-- What a codec writes for a key, quotes included, is read as that key. -/
structure KeyCodec.ReadsBack {κ : Type} (codec : KeyCodec κ) (k : κ) : Prop where
  starts : ∃ rest, codec.write k = '"' :: rest
  read (rest : List Char) :
    ∃ name, Json.string (codec.write k ++ rest) = some (name, rest) ∧ codec.read name = some k

theorem KeyCodec.readsBack_string (text : String) : KeyCodec.string.ReadsBack text where
  starts := ⟨_, rfl⟩
  read rest := ⟨text, string_writeString text rest, rfl⟩

/-- Characters that stand for themselves between quotes. -/
def Plain (text : List Char) : Prop := ∀ c ∈ text, Codec.writeChar c = [c]

instance (text : List Char) : Decidable (Plain text) :=
  List.decidableBAll (fun c => Codec.writeChar c = [c]) text

theorem writeString_plain {text : List Char} (h : Plain text) :
    Codec.writeString (String.ofList text) = '"' :: text ++ ['"'] := by
  rw [Codec.writeString, String.toList_ofList, List.flatMap_congr h, List.flatMap_singleton']

theorem writeChar_digit {c : Char} (h : c.isDigit = true) : Codec.writeChar c = [c] := by
  have other : ∀ d : Char, d.isDigit = false → c ≠ d := by
    rintro d hd rfl
    exact absurd (h.symm.trans hd) (by decide)
  have printable : ¬ c.toNat < 0x20 := by
    simp only [Char.isDigit, Bool.and_eq_true, decide_eq_true_eq, UInt32.le_iff_toNat_le] at h
    have least := h.1
    change 48 ≤ c.toNat at least
    omega
  simp only [Codec.writeChar, other '"' (by decide), other '\\' (by decide), other '\x08' (by decide),
    other '\x0c' (by decide), other '\n' (by decide), other '\r' (by decide), other '\t' (by decide),
    printable, if_false]

theorem plain_intText (n : Int) : Plain (intText n) := by
  intro c hc
  cases n with
  | ofNat n => exact writeChar_digit (digits_natText n c hc)
  | negSucc n =>
    rcases List.mem_cons.mp hc with rfl | hc
    · decide
    · exact writeChar_digit (digits_natText _ c hc)

/-- A value that reads back can be a key if its text needs no escapes. -/
theorem KeyCodec.readsBack_quoted {κ : Type} {codec : Codec κ} {k : κ} (h : codec.ReadsBack k)
    (plain : Plain (codec.write k)) : (KeyCodec.quoted codec).ReadsBack k where
  starts := ⟨_, rfl⟩
  read rest := by
    refine ⟨String.ofList (codec.write k), ?_, ?_⟩
    · have text := string_writeString (String.ofList (codec.write k)) rest
      rwa [writeString_plain plain] at text
    · obtain ⟨c, more, hw, blank, -⟩ := h.starts
      have alone : codec.read (codec.write k ++ []) = some (k, []) := h.read (by simp [Codec.Ends])
      rw [List.append_nil] at alone
      rw [hw] at alone ⊢
      simp [quoted, blank, alone]

namespace Codec

variable {κ α : Type} {key : KeyCodec κ} {value : Codec α}

/-! ## Entries -/

/-- The entries of maps. -/
def entry (key : KeyCodec κ) (value : Codec α) : Codec (κ × α) :=
  ⟨writeEntry key value, readEntry key value⟩

theorem readsIn_entry {k : κ} {a : α} {result : Option α} (hk : key.ReadsBack k)
    (hv : value.ReadsIn ']' a result) :
    (entry key value).ReadsIn '\x7d' (k, a) (result.map (k, ·)) where
  starts := by
    obtain ⟨rest, hw⟩ := hk.starts
    show ∃ c rest, key.write k ++ ':' :: value.write a = c :: rest ∧ _
    rw [hw]
    exact ⟨'"', _, rfl, by decide, by decide⟩
  read {rest} ends := by
    obtain ⟨name, text, read⟩ := hk.read (':' :: (value.write a ++ rest))
    show readEntry key value (key.write k ++ ':' :: value.write a ++ rest) = _
    rw [List.append_assoc, List.cons_append, readEntry, text]
    simp only [Option.bind_eq_bind, Option.bind_some, read, mark?_cons (by decide : isBlank ':' = false),
      hv.read ends]
    cases result <;> rfl

/-! ## Maps -/

theorem foldl_putEntry [BEq κ] [LawfulBEq κ] {before entries : List (κ × α)}
    (h : ((before ++ entries).map Prod.fst).Nodup) : entries.foldl putEntry before = before ++ entries := by
  induction entries generalizing before with
  | nil => simp
  | cons e entries ih =>
    have absent : before.any (·.1 == e.1) = false := by
      rw [List.any_eq_false]
      intro other ho
      rw [beq_iff_eq]
      rw [List.map_append, List.nodup_append] at h
      exact h.2.2 _ (List.mem_map_of_mem ho) _ (by simp)
    rw [List.foldl_cons, putEntry, absent, if_neg (by decide), ih (by simpa using h), List.append_assoc,
      List.singleton_append]

theorem keys_of_mapM {result : α → Option α} {entries read : List (κ × α)}
    (h : entries.mapM (fun e => (result e.2).map (e.1, ·)) = some read) :
    read.map Prod.fst = entries.map Prod.fst := by
  induction entries generalizing read with
  | nil =>
    cases h
    rfl
  | cons e entries ih =>
    rw [List.mapM_cons] at h
    obtain ⟨first, hf, h⟩ := Option.bind_eq_some_iff.mp h
    obtain ⟨more, hm, h⟩ := Option.bind_eq_some_iff.mp h
    obtain ⟨a, -, rfl⟩ := Option.map_eq_some_iff.mp hf
    cases h
    rw [List.map_cons, List.map_cons, ih hm]

/-- A map whose keys are distinct is read as its values are, if all of them are. -/
theorem readsIn_map [BEq κ] [LawfulBEq κ] {result : α → Option α} {entries : List (κ × α)}
    (distinct : (entries.map Prod.fst).Nodup)
    (h : ∀ e ∈ entries, key.ReadsBack e.1 ∧ value.ReadsIn ']' e.2 (result e.2)) :
    (map key value).ReadsIn ']' entries (entries.mapM fun e => (result e.2).map (e.1, ·)) where
  starts := ⟨'\x7b', _, rfl, by decide, by decide⟩
  read {rest} _ := by
    have within : readBetween '\x7b' '\x7d' (readEntry key value)
        ('\x7b' :: separated (entries.map (writeEntry key value)) ++ ['\x7d'] ++ rest) = _ :=
      readBetween_write (by decide) (.inr rfl) (fun e he => readsIn_entry (h e he).1 (h e he).2) rest
    show (readBetween '\x7b' '\x7d' (readEntry key value)
      ('\x7b' :: separated (entries.map (writeEntry key value)) ++ ['\x7d'] ++ rest)).map _ = _
    rw [within]
    cases hr : entries.mapM fun e => (result e.2).map (e.1, ·) with
    | none => rfl
    | some read =>
      have kept : read.foldl putEntry [] = [] ++ read :=
        foldl_putEntry (by rwa [List.nil_append, keys_of_mapM hr])
      simp only [Option.map_some, kept, List.nil_append]

end Codec

end ProtoStore.Json
