import ProtoStore.Number.Binary
import ProtoStore.Store.Moment
import ProtoStore.Store.Uuid

/-!
# Column values

A `Value` is what a store sees of a column. Values are ordered first by their kind, in the order of
the constructors, and within a kind by what they hold; floats that are not numbers are in no order
with any float, lists are compared element by element. `Value.same` is equality in that order, so
that a value with such a float is not the same as itself.
-/

namespace ProtoStore

open Number

/-- The value of a column. -/
inductive Value
  | null
  | bool (b : Bool)
  | int (n : Int64)
  | uint (n : UInt64)
  | float (x : Double)
  | string (s : String)
  | bytes (b : List UInt8)
  | uuid (u : Uuid)
  | moment (m : Moment)
  /-- The parts of a key of several columns. -/
  | list (parts : List Value)
deriving Repr

instance : Inhabited Value := ⟨.null⟩

namespace Value

/-- The place of a value's kind among the kinds. -/
def kind : Value → Nat
  | .null => 0
  | .bool _ => 1
  | .int _ => 2
  | .uint _ => 3
  | .float _ => 4
  | .string _ => 5
  | .bytes _ => 6
  | .uuid _ => 7
  | .moment _ => 8
  | .list _ => 9

mutual
/-- The order of two values, if they have one. -/
def compare? : Value → Value → Option Ordering
  | .bool a, .bool b => some (compare a b)
  | .int a, .int b => some (compare a b)
  | .uint a, .uint b => some (compare a b)
  | .float a, .float b => a.compare? b
  | .string a, .string b => some (compare a b)
  | .bytes a, .bytes b => some (compare a b)
  | .uuid a, .uuid b => some (compare a.bits.toNat b.bits.toNat)
  | .moment a, .moment b => some (a.compare b)
  | .list a, .list b => compareParts? a b
  | a, b => some (compare a.kind b.kind)

/-- The order of two lists of values: that of the first elements that are not the same. -/
def compareParts? : List Value → List Value → Option Ordering
  | [], [] => some .eq
  | [], _ :: _ => some .lt
  | _ :: _, [] => some .gt
  | a :: as, b :: bs =>
    match compare? a b with
    | some .eq => compareParts? as bs
    | order => order
end

/-- Whether two values are equal. -/
def same (a b : Value) : Bool := a.compare? b == some .eq

/-- Whether there is no value. -/
def isNull : Value → Bool
  | .null => true
  | _ => false

/-- Whether `a` comes before `b`. -/
def isBelow (a b : Value) : Bool := a.compare? b == some .lt

/-- Whether `a` comes after `b`. -/
def isAbove (a b : Value) : Bool := a.compare? b == some .gt

/-- Whether a value is among others. -/
def isIn (a : Value) (values : List Value) : Bool := values.any fun b => b.same a

end Value

/-! ## Values of column types -/

/-- A type of columns. -/
class ToValue (α : Type) where
  toValue : α → Value

export ToValue (toValue)

instance : ToValue Bool := ⟨.bool⟩
instance : ToValue Int32 := ⟨fun n => .int n.toInt64⟩
instance : ToValue Int64 := ⟨.int⟩
instance : ToValue UInt32 := ⟨fun n => .uint n.toUInt64⟩
instance : ToValue UInt64 := ⟨.uint⟩
instance : ToValue Single := ⟨fun x => .float x.toDouble⟩
instance : ToValue Double := ⟨.float⟩
instance : ToValue String := ⟨.string⟩
instance : ToValue (List UInt8) := ⟨.bytes⟩
instance : ToValue Uuid := ⟨.uuid⟩
instance : ToValue Moment := ⟨.moment⟩

/-- An absent value is null. -/
instance {α : Type} [ToValue α] : ToValue (Option α) where
  toValue
    | none => .null
    | some a => toValue a

end ProtoStore
