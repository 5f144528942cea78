/-!
# Moments

A `Timestamp` is what messages carry: seconds since 1970 and nanoseconds, both of them any numbers of
their width. A `Moment` is a point in time of the calendar, which is what columns hold.
`Moment.ofTimestamp` refuses a timestamp that is no such point, and `Moment.toTimestamp` gives it
back.
-/

namespace ProtoStore

/-- Seconds and nanoseconds, as messages carry them. -/
structure Timestamp where
  seconds : Int64
  nanos : Int32
deriving Repr, DecidableEq, Inhabited

namespace Moment

/-- The first second of the calendar. -/
def firstSecond : Int := -8334601228800

/-- The last second of the calendar. -/
def lastSecond : Int := 8210266876799

/-- Whether seconds and nanoseconds are a point in time. The last second of a minute may be a leap
second, which takes twice as long. -/
def Valid (seconds : Int64) (nanos : UInt32) : Prop :=
  firstSecond ≤ seconds.toInt ∧ seconds.toInt ≤ lastSecond ∧
    (nanos.toNat < 1000000000 ∨ nanos.toNat < 2000000000 ∧ seconds.toInt % 60 = 59)

instance (seconds : Int64) (nanos : UInt32) : Decidable (Valid seconds nanos) :=
  inferInstanceAs (Decidable (_ ∧ _))

end Moment

/-- A point in time. -/
structure Moment where
  seconds : Int64
  nanos : UInt32
  valid : Moment.Valid seconds nanos
deriving Repr, DecidableEq

namespace Moment

/-- Why a timestamp is not a point in time. -/
inductive Fault
  | negativeNanos
  | outOfRange
deriving Repr, DecidableEq

/-- The beginning of 1970. -/
def epoch : Moment := ⟨0, 0, by decide⟩

/-- The point in time of a timestamp. -/
def ofTimestamp (t : Timestamp) : Except Fault Moment :=
  if t.nanos < 0 then .error .negativeNanos
  else
    let nanos := t.nanos.toUInt32
    if valid : Valid t.seconds nanos then .ok ⟨t.seconds, nanos, valid⟩ else .error .outOfRange

/-- The timestamp of a point in time. -/
def toTimestamp (m : Moment) : Timestamp := ⟨m.seconds, m.nanos.toInt32⟩

/-- The order of points in time. -/
def compare (x y : Moment) : Ordering :=
  (Ord.compare x.seconds y.seconds).then (Ord.compare x.nanos y.nanos)

end Moment

end ProtoStore
