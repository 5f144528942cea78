import ProtoStore.Json.Codec
import ProtoStore.Store.Failure
import ProtoStore.Store.Moment
import ProtoStore.Store.Uuid
import ProtoStore.Wire.Codec

/-!
# Conversions of columns

Some columns hold the value of a field in another form: timestamps as moments, identifiers as bits,
repeated values as JSON text, messages without a table of their own in their encoded form. Writing never
fails but for what a message may carry and a column may not; each conversion that can fail is given the
name of the field, which its failure tells.
-/

namespace ProtoStore.Convert

/-- The moment of a timestamp. -/
def moment (field : String) (t : Timestamp) : Except Failure Moment :=
  (Moment.ofTimestamp t).mapError fun
    | .negativeNanos => .conversion field .negativeNanos
    | .outOfRange => .conversion field .timestampOutOfRange

/-- The identifier of a text. No text and the empty one stand for none. -/
def uuid? (field : String) : Option String → Except Failure (Option Uuid)
  | none => .ok none
  | some text =>
    if text == "" then .ok none
    else match Uuid.parse? text with
      | some u => .ok (some u)
      | none => .error (.conversion field .malformedUuid)

/-- The value of a JSON column. The empty text, which a column is reset to, stands for the default. -/
def ofJson {α : Type} [Inhabited α] (codec : Json.Codec α) (field : String) (column : String) :
    Except Failure α :=
  if column == "" then .ok default
  else match codec.decode? column with
    | some a => .ok a
    | none => .error (.conversion field .malformedJson)

/-- The message of a column that holds it encoded. -/
def ofBytes {M : Type} (codec : Wire.Codec M) (field : String) (column : List UInt8) :
    Except Failure M :=
  match codec.decode? column with
  | some message => .ok message
  | none => .error (.conversion field .malformedMessage)

/-- The messages of a column that holds them encoded. -/
def allOfBytes {M : Type} (codec : Wire.Codec M) (field : String) (column : List UInt8) :
    Except Failure (List M) :=
  match codec.decodeAll? column with
  | some messages => .ok messages
  | none => .error (.conversion field .malformedMessage)

end ProtoStore.Convert
