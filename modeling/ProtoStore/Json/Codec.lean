import ProtoStore.Json.Reader

/-!
# JSON columns

Repeated values and maps are stored as JSON text. A `Codec` writes the values of a type and reads
them back; `Codec.list` and `Codec.map` build those of collections from those of their parts.
`Codec.encode` and `Codec.decode?` are the text of a whole column, without blanks when it is written
and with blanks around it allowed when it is read.
-/

namespace ProtoStore.Json

open ProtoStore.Number

/-- How values of type `α` are written and read. A value that has no JSON form of its own is written
as `null`, which no reader of a single value accepts. -/
structure Codec (α : Type) where
  write : α → List Char
  read : Reader α

/-- How keys of maps are written, between quotes, and read back from what stands there. -/
structure KeyCodec (κ : Type) where
  write : κ → List Char
  read : String → Option κ

namespace Codec

/-! ## Strings and booleans -/

/-- One character of a string. -/
def writeChar (c : Char) : List Char :=
  if c = '"' then ['\\', '"']
  else if c = '\\' then ['\\', '\\']
  else if c = '\x08' then ['\\', 'b']
  else if c = '\x0c' then ['\\', 'f']
  else if c = '\n' then ['\\', 'n']
  else if c = '\r' then ['\\', 'r']
  else if c = '\t' then ['\\', 't']
  else if c.toNat < 0x20 then
    ['\\', 'u', '0', '0', Text.Hex.digit (c.toNat / 16), Text.Hex.digit (c.toNat % 16)]
  else [c]

/-- A string between its quotes. -/
def writeString (text : String) : List Char :=
  '"' :: text.toList.flatMap writeChar ++ ['"']

/-- Strings. -/
def string : Codec String := ⟨writeString, Json.string⟩

/-- Booleans. -/
def bool : Codec Bool where
  write x := if x then "true".toList else "false".toList
  read text :=
    let text := skipBlanks text
    match after? "true".toList text with
    | some rest => some (true, rest)
    | none => (after? "false".toList text).map fun rest => (false, rest)

/-! ## Numbers -/

/-- Integers between two bounds, given how they are made and what they are. -/
def integer {α : Type} (least greatest : Int) (ofInt : Int → α) (toInt : α → Int) : Codec α where
  write x := intText (toInt x)
  read text := do
    let (numeral, rest) ← number text
    let value ← match numeral with
      | .natural n => some (n : Int)
      | .negative n => some (-(n : Int))
      | .float _ => none
    if least ≤ value && value ≤ greatest then return (ofInt value, rest) else none

/-- Signed integers of 32 bits. -/
def int32 : Codec Int32 := integer Int32.minValue.toInt Int32.maxValue.toInt Int32.ofInt Int32.toInt

/-- Signed integers of 64 bits. -/
def int64 : Codec Int64 := integer Int64.minValue.toInt Int64.maxValue.toInt Int64.ofInt Int64.toInt

/-- Unsigned integers of 32 bits. -/
def uint32 : Codec UInt32 := integer 0 (UInt32.size - 1) (UInt32.ofNat ·.toNat) (·.toNat)

/-- Unsigned integers of 64 bits. -/
def uint64 : Codec UInt64 := integer 0 (UInt64.size - 1) (UInt64.ofNat ·.toNat) (·.toNat)

/-- Bytes as numbers. -/
def byte : Codec UInt8 := integer 0 255 (UInt8.ofNat ·.toNat) (·.toNat)

/-- Doubles. -/
def double : Codec Double where
  write x := x.text?.getD "null".toList
  read text := do
    let (numeral, rest) ← number text
    let value := match numeral with
      | .natural n => Double.ofInt n
      | .negative n => Double.ofInt (-(n : Int))
      | .float x => x
    return (value, rest)

/-- Singles. -/
def single : Codec Single where
  write x := x.text?.getD "null".toList
  read text := do
    let (numeral, rest) ← number text
    let value := match numeral with
      | .natural n => Single.ofInt n
      | .negative n => Single.ofInt (-(n : Int))
      | .float x => Single.ofDouble x
    return (value, rest)

/-! ## Collections -/

/-- Texts with commas between them. -/
def separated : List (List Char) → List Char
  | [] => []
  | [text] => text
  | text :: rest => text ++ ',' :: separated rest

/-- The elements of a list after the first, each after a comma, up to the bracket. -/
def readMore {α : Type} (item : Reader α) (closing : Char) (text : List Char) :
    Option (List α × List Char) :=
  match mark? closing text with
  | some rest => some ([], rest)
  | none =>
    match (mark? ',' text).bind item with
    | none => none
    | some (a, rest) =>
      if rest.length < text.length then
        (readMore item closing rest).map fun (more, rest) => (a :: more, rest)
      else none
termination_by text.length

/-- Elements between two marks, with commas between them. -/
def readBetween {α : Type} (opening closing : Char) (item : Reader α) : Reader (List α) :=
  fun text => do
    let inside ← mark? opening text
    match mark? closing inside with
    | some rest => return ([], rest)
    | none =>
      let (first, rest) ← item inside
      let (more, rest) ← readMore item closing rest
      return (first :: more, rest)

/-- Lists. -/
def list {α : Type} (element : Codec α) : Codec (List α) where
  write values := '[' :: separated (values.map element.write) ++ [']']
  read := readBetween '[' ']' element.read

/-- Byte strings, as lists of numbers. -/
def bytes : Codec (List UInt8) := list byte

/-- One entry of a map. -/
def writeEntry {κ α : Type} (key : KeyCodec κ) (value : Codec α) (entry : κ × α) : List Char :=
  key.write entry.1 ++ ':' :: value.write entry.2

/-- One entry of a map. -/
def readEntry {κ α : Type} (key : KeyCodec κ) (value : Codec α) : Reader (κ × α) := fun text => do
  let (name, rest) ← Json.string text
  let key ← key.read name
  let rest ← mark? ':' rest
  let (value, rest) ← value.read rest
  return ((key, value), rest)

/-- Puts an entry into a map, over one of the same key. -/
def putEntry {κ α : Type} [BEq κ] (entries : List (κ × α)) (entry : κ × α) : List (κ × α) :=
  if entries.any (·.1 == entry.1) then
    entries.map fun other => if other.1 == entry.1 then entry else other
  else entries ++ [entry]

/-- Maps as lists of entries. Of entries with one key the last counts. -/
def map {κ α : Type} [BEq κ] (key : KeyCodec κ) (value : Codec α) : Codec (List (κ × α)) where
  write entries := '\x7b' :: separated (entries.map (writeEntry key value)) ++ ['\x7d']
  read text := (readBetween '\x7b' '\x7d' (readEntry key value) text).map fun (entries, rest) =>
    (entries.foldl putEntry [], rest)

/-! ## Columns -/

/-- The text of a value. -/
def encode {α : Type} (codec : Codec α) (value : α) : String := String.ofList (codec.write value)

/-- The value of a text that holds nothing else. -/
def decode? {α : Type} (codec : Codec α) (text : String) : Option α :=
  match codec.read text.toList with
  | some (value, rest) => if (skipBlanks rest).isEmpty then some value else none
  | none => none

end Codec

namespace KeyCodec

/-- String keys. -/
def string : KeyCodec String := ⟨Codec.writeString, some⟩

/-- Keys that are written as their JSON text between quotes. -/
def quoted {κ : Type} (codec : Codec κ) : KeyCodec κ where
  write key := '"' :: codec.write key ++ ['"']
  read text :=
    match text.toList with
    | c :: rest =>
      if isBlank c then none
      else
        match codec.read (c :: rest) with
        | some (key, []) => some key
        | _ => none
    | [] => none

end KeyCodec

end ProtoStore.Json
