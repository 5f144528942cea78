import ProtoStore.Wire.Varint

/-!
# Entries of a message

An encoded message is a sequence of entries, each of them a field number and a payload of one of five
forms. `entries?` takes a message apart without knowing its fields. Of a group, which is a message
between two keys, the bytes between these are taken.

Messages and groups may be nested to a certain depth. `depth` is how many levels are left.
-/

namespace ProtoStore.Wire

/-- The form of a payload. -/
inductive WireType
  | varint
  | fixed64
  | delimited
  | groupStart
  | groupEnd
  | fixed32
deriving Repr, DecidableEq

namespace WireType

/-- The number of a form. -/
def code : WireType → Nat
  | varint => 0
  | fixed64 => 1
  | delimited => 2
  | groupStart => 3
  | groupEnd => 4
  | fixed32 => 5

/-- The form of a number. -/
def ofCode? : Nat → Option WireType
  | 0 => some varint
  | 1 => some fixed64
  | 2 => some delimited
  | 3 => some groupStart
  | 4 => some groupEnd
  | 5 => some fixed32
  | _ => none

end WireType

/-- The payload of an entry. -/
inductive Payload
  | varint (n : Nat)
  | fixed64 (n : Nat)
  | delimited (bytes : List UInt8)
  | group (bytes : List UInt8)
  | fixed32 (n : Nat)
deriving Repr, DecidableEq

/-- An entry of a message. -/
structure Entry where
  number : Nat
  payload : Payload
deriving Repr, DecidableEq

/-! ## Writing -/

/-- A number in `count` bytes, the lowest first. -/
def writeFixed : (count : Nat) → (n : Nat) → List UInt8
  | 0, _ => []
  | count + 1, n => UInt8.ofNat (n % 256) :: writeFixed count (n / 256)

/-- The key before a payload. -/
def writeKey (number : Nat) (type : WireType) : List UInt8 :=
  Varint.write (number * 8 + type.code)

/-- Bytes after their number. -/
def writeDelimited (bytes : List UInt8) : List UInt8 := Varint.write bytes.length ++ bytes

/-! ## Reading -/

/-- The number that bytes write, the lowest first. -/
def fixed : List UInt8 → Nat
  | [] => 0
  | b :: rest => b.toNat + 256 * fixed rest

/-- The first `count` bytes and those after them, if there are so many. -/
def take? (count : Nat) (bytes : List UInt8) : Option (List UInt8 × List UInt8) :=
  if count ≤ bytes.length then some (bytes.splitAt count) else none

/-- Bytes after their number, and what follows them. -/
def readDelimited (bytes : List UInt8) : Option (List UInt8 × List UInt8) := do
  let (count, rest) ← Varint.read bytes
  take? count rest

/-- A key and the bytes after it. -/
def readKey (bytes : List UInt8) : Option ((Nat × WireType) × List UInt8) := do
  let (key, rest) ← Varint.read bytes
  let type ← WireType.ofCode? (key % 8)
  if key < UInt32.size && 8 ≤ key then return ((key / 8, type), rest) else none

/-- Skips what follows up to the end of all open groups, of which `innermost` is the last opened.
Gives the bytes from the key on that closes the first opened one, and those after that key. -/
def skipGroups (depth innermost : Nat) (outer : List Nat) (bytes : List UInt8) :
    Option (List UInt8 × List UInt8) :=
  match readKey bytes with
  | none => none
  | some ((number, .groupEnd), rest) =>
    if number = innermost ∧ rest.length < bytes.length then
      match outer with
      | [] => some (bytes, rest)
      | innermost :: outer => skipGroups depth innermost outer rest
    else none
  | some ((number, type), rest) =>
    if outer.length + 1 < depth then
      let next : Option ((Nat × List Nat) × List UInt8) := match type with
        | .varint => (Varint.read rest).map fun (_, rest) => ((innermost, outer), rest)
        | .fixed64 => (take? 8 rest).map fun (_, rest) => ((innermost, outer), rest)
        | .delimited => (readDelimited rest).map fun (_, rest) => ((innermost, outer), rest)
        | .fixed32 => (take? 4 rest).map fun (_, rest) => ((innermost, outer), rest)
        | .groupStart => some ((number, innermost :: outer), rest)
        | .groupEnd => none
      match next with
      | none => none
      | some ((innermost, outer), rest) =>
        if rest.length < bytes.length then skipGroups depth innermost outer rest else none
    else none
termination_by bytes.length

/-- A group up to the key that closes it, and the bytes after that key. -/
def readGroup (depth number : Nat) (bytes : List UInt8) : Option (List UInt8 × List UInt8) :=
  (skipGroups depth number [] bytes).map fun (closing, rest) =>
    (bytes.take (bytes.length - closing.length), rest)

/-- A payload and the bytes after it. -/
def readPayload (depth number : Nat) (bytes : List UInt8) :
    WireType → Option (Payload × List UInt8)
  | .varint => (Varint.read bytes).map fun (n, rest) => (.varint n, rest)
  | .fixed64 => (take? 8 bytes).map fun (taken, rest) => (.fixed64 (fixed taken), rest)
  | .delimited => (readDelimited bytes).map fun (taken, rest) => (.delimited taken, rest)
  | .groupStart => (readGroup depth number bytes).map fun (taken, rest) => (.group taken, rest)
  | .groupEnd => none
  | .fixed32 => (take? 4 bytes).map fun (taken, rest) => (.fixed32 (fixed taken), rest)

/-- An entry and the bytes after it. -/
def readEntry (depth : Nat) (bytes : List UInt8) : Option (Entry × List UInt8) := do
  let ((number, type), rest) ← readKey bytes
  let (payload, rest) ← readPayload depth number rest type
  return (⟨number, payload⟩, rest)

/-- The entries of a message. -/
def entries? (depth : Nat) (bytes : List UInt8) : Option (List Entry) :=
  match bytes with
  | [] => some []
  | first :: others =>
    match readEntry depth (first :: others) with
    | none => none
    | some (entry, rest) =>
      if rest.length < (first :: others).length then (entries? depth rest).map (entry :: ·)
      else none
termination_by bytes.length
decreasing_by assumption

end ProtoStore.Wire
