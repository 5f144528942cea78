import ProtoStore.Wire.Codec

/-!
# Uninterpreted options

An option is uninterpreted while it is known only by the text it was written as: a path of names to
a field of the options, and a value in one of several notations.
-/

namespace ProtoStore.Descriptor

open Number

/-- A step of a path: the name of a field, or of an extension. -/
structure NamePart where
  name : String
  isExtension : Bool
deriving Repr, DecidableEq, Inhabited

/-- An uninterpreted option. Which of the notations are there says how its value was written. -/
structure Uninterpreted where
  path : List NamePart
  identifier : Option String
  positive : Option UInt64
  negative : Option Int64
  double : Option Double
  string : Option (List UInt8)
  aggregate : Option String
deriving Repr, DecidableEq, Inhabited

open Wire

/-- Steps of a path. -/
def NamePart.codec : Wire.Codec NamePart where
  blank := default
  fields := [
    .single 1 .string (·.name) fun x p => { p with name := x },
    .single 2 .bool (·.isExtension) fun x p => { p with isExtension := x }]

/-- Uninterpreted options. -/
def Uninterpreted.codec : Wire.Codec Uninterpreted where
  blank := default
  fields := [
    .nestedAll 2 NamePart.codec (·.path) fun x o => { o with path := x },
    .optional 3 .string (·.identifier) fun x o => { o with identifier := x },
    .optional 4 .uint64 (·.positive) fun x o => { o with positive := x },
    .optional 5 .int64 (·.negative) fun x o => { o with negative := x },
    .optional 6 .double (·.double) fun x o => { o with double := x },
    .optional 7 .bytes (·.string) fun x o => { o with string := x },
    .optional 8 .string (·.aggregate) fun x o => { o with aggregate := x }]

namespace Uninterpreted

/-- The field of options that holds those that are uninterpreted. -/
def fieldNumber : Nat := 999

/-- The uninterpreted options among encoded ones. -/
def all? (options : List UInt8) : Option (List Uninterpreted) :=
  (⟨[], [.nestedAll fieldNumber codec id fun x _ => x]⟩ : Wire.Codec (List Uninterpreted)).decode?
    options

variable (option : Uninterpreted)

/-- The truth value an identifier stands for. -/
def bool? : Option Bool :=
  match option.identifier with
  | some "true" => some true
  | some "false" => some false
  | _ => none

/-- The whole number. -/
def int? : Option Int :=
  match option.positive, option.negative with
  | some n, _ => some n.toNat
  | none, some n => some n.toInt
  | none, none => none

/-- The whole number, if it is at least `least` and less than `bound`. -/
def intWithin? (least bound : Int) : Option Int :=
  option.int?.filter fun n => least ≤ n && n < bound

/-- The number, whole or not. -/
def double? : Option Double :=
  option.double <|> option.int?.map Double.ofInt

end Uninterpreted

end ProtoStore.Descriptor
