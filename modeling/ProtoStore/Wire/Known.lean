import ProtoStore.Store.Moment
import ProtoStore.Wire.Codec

/-!
# Well-known messages

Two messages that columns have types of their own for: identifiers, which messages carry as text, and
timestamps.
-/

namespace ProtoStore

/-- An identifier as messages carry it: any text. -/
structure UuidText where
  value : String
deriving Repr, DecidableEq, Inhabited

namespace Wire

/-- Identifiers. -/
def uuidText : Codec UuidText where
  blank := default
  fields := [.single 1 .string (·.value) fun x m => { m with value := x }]

/-- Timestamps. -/
def timestamp : Codec Timestamp where
  blank := default
  fields := [
    .single 1 .int64 (·.seconds) fun x m => { m with seconds := x },
    .single 2 .int32 (·.nanos) fun x m => { m with nanos := x }]

end Wire

end ProtoStore
