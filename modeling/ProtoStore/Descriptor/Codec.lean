import ProtoStore.Descriptor.Basic
import ProtoStore.Descriptor.Uninterpreted

/-!
# Encoded descriptors

The codecs of descriptors. What no one asks for is checked for its form and not kept. Options are
taken as they are; what they hold is read in `Content`.
-/

namespace ProtoStore.Descriptor

open Wire

/-! ## Types -/

/-- The labels and their codes; other codes count as `optional`. -/
def Label.scalar : Wire.Scalar Label :=
  .coded
    (fun
      | .optional => 1
      | .required => 2
      | .repeated => 3)
    fun code => if code == 2 then .required else if code == 3 then .repeated else .optional

/-- The types and their codes. -/
def FieldType.codes : List (Int32 × FieldType) :=
  [(1, .scalar .double), (2, .scalar .float), (3, .scalar .int64), (4, .scalar .uint64),
    (5, .scalar .int32), (6, .scalar .fixed64), (7, .scalar .fixed32), (8, .scalar .bool),
    (9, .scalar .string), (10, .group), (11, .message), (12, .scalar .bytes),
    (13, .scalar .uint32), (14, .enumeration), (15, .scalar .sfixed32), (16, .scalar .sfixed64),
    (17, .scalar .sint32), (18, .scalar .sint64)]

/-- A type as its code; other codes name no type. -/
def FieldType.scalars : Wire.Scalar (Option FieldType) :=
  .coded
    (fun type => ((codes.find? fun entry => some entry.2 == type).map (·.1)).getD 0)
    fun code => codes.lookup code

/-! ## Parts -/

/-- Options, as the bytes they are encoded as. -/
def optionBytes {M : Type} (number : Nat) (get : M → List UInt8) (set : List UInt8 → M → M) :
    Wire.Field M :=
  .verbatim number (⟨(), []⟩ : Wire.Codec Unit) get set

/-- Places in a list; of greater numbers the low bits count. -/
def places {M : Type} (number : Nat) (get : M → List Nat) (set : List Nat → M → M) :
    Wire.Field M :=
  .numbers number get fun x => set (x.map (· % UInt32.size))

/-- Ranges of numbers. -/
def Range.codec : Wire.Codec Range where
  blank := default
  fields := [
    .single 1 .int32 (·.first) fun x r => { r with first := x },
    .single 2 .int32 (·.last) fun x r => { r with last := x },
    .ignoredNested 3 ⟨(), [.ignoredNested Uninterpreted.fieldNumber Uninterpreted.codec]⟩]

/-! ## Descriptors -/

/-- Fields, and extensions. -/
def Field.codec : Wire.Codec Field where
  blank := default
  fields := [
    .single 1 .string (·.name) fun x f => { f with name := x },
    .single 2 .string (·.extendee) fun x f => { f with extendee := x },
    .single 3 .int32 (·.number) fun x f => { f with number := x },
    .single 4 Label.scalar (·.label) fun x f => { f with label := x },
    .single 5 FieldType.scalars (·.type) fun x f => { f with type := x },
    .single 6 .string (·.typeName) fun x f => { f with typeName := x },
    .optional 7 .string (·.fallback) fun x f => { f with fallback := x },
    optionBytes 8 (·.options) fun x f => { f with options := x },
    .optional 9 .int32 (·.oneofIndex) fun x f => { f with oneofIndex := x },
    .optional 10 .string (·.jsonName) fun x f => { f with jsonName := x },
    .single 17 .bool (·.proto3Optional) fun x f => { f with proto3Optional := x }]

/-- Oneofs. -/
def Oneof.codec : Wire.Codec Oneof where
  blank := default
  fields := [
    .single 1 .string (·.name) fun x o => { o with name := x },
    optionBytes 2 (·.options) fun x o => { o with options := x }]

/-- Values of enumerations. -/
def EnumerationValue.codec : Wire.Codec EnumerationValue where
  blank := default
  fields := [
    .single 1 .string (·.name) fun x v => { v with name := x },
    .single 2 .int32 (·.number) fun x v => { v with number := x },
    optionBytes 3 (·.options) fun x v => { v with options := x }]

/-- Enumerations. -/
def Enumeration.codec : Wire.Codec Enumeration where
  blank := default
  fields := [
    .single 1 .string (·.name) fun x e => { e with name := x },
    .nestedAll 2 EnumerationValue.codec (·.values) fun x e => { e with values := x },
    optionBytes 3 (·.options) fun x e => { e with options := x },
    .nestedAll 4 Range.codec (·.reserved) fun x e => { e with reserved := x },
    .ignored 5 .string]

/-- Methods of services. -/
def Method.codec : Wire.Codec Method where
  blank := default
  fields := [
    .single 1 .string (·.name) fun x m => { m with name := x },
    .single 2 .string (·.input) fun x m => { m with input := x },
    .single 3 .string (·.output) fun x m => { m with output := x },
    optionBytes 4 (·.options) fun x m => { m with options := x },
    .ignored 5 .bool,
    .ignored 6 .bool]

/-- Services. -/
def Service.codec : Wire.Codec Service where
  blank := default
  fields := [
    .single 1 .string (·.name) fun x s => { s with name := x },
    .nestedAll 2 Method.codec (·.methods) fun x s => { s with methods := x },
    optionBytes 3 (·.options) fun x s => { s with options := x }]

/-- Messages with at most `levels` levels of messages declared in them. -/
def Message.codec : (levels : Nat) → Wire.Codec Message
  | 0 => ⟨default, []⟩
  | levels + 1 => ⟨default, [
    .single 1 .string (·.name) fun x m => { m with name := x },
    .nestedAll 2 Field.codec (·.fields) fun x m => { m with fields := x },
    .nestedAll 3 (Message.codec levels) (·.nested) fun x m => { m with nested := x },
    .nestedAll 4 Enumeration.codec (·.enumerations) fun x m => { m with enumerations := x },
    .nestedAll 5 Range.codec (·.extensionRanges) fun x m => { m with extensionRanges := x },
    .nestedAll 6 Field.codec (·.extensions) fun x m => { m with extensions := x },
    optionBytes 7 (·.options) fun x m => { m with options := x },
    .nestedAll 8 Oneof.codec (·.oneofs) fun x m => { m with oneofs := x },
    .nestedAll 9 Range.codec (·.reserved) fun x m => { m with reserved := x },
    .ignored 10 .string]⟩

/-- A place in the text of a file. -/
def sourcePlace : Wire.Codec Unit where
  blank := ()
  fields := [
    .numbers 1 (fun _ => []) fun _ m => m,
    .numbers 2 (fun _ => []) fun _ m => m,
    .ignored 3 .string,
    .ignored 4 .string,
    .ignored 6 .string]

/-- Files. -/
def File.codec : Wire.Codec File where
  blank := default
  fields := [
    .single 1 .string (·.name) fun x f => { f with name := x },
    .single 2 .string (·.package) fun x f => { f with package := x },
    .repeated 3 .string (·.imports) fun x f => { f with imports := x },
    .nestedAll 4 (Message.codec Wire.Codec.depthLimit) (·.messages) fun x f => { f with messages := x },
    .nestedAll 5 Enumeration.codec (·.enumerations) fun x f => { f with enumerations := x },
    .nestedAll 6 Service.codec (·.services) fun x f => { f with services := x },
    .nestedAll 7 Field.codec (·.extensions) fun x f => { f with extensions := x },
    optionBytes 8 (·.options) fun x f => { f with options := x },
    .ignoredNested 9 ⟨(), [.ignoredNested 1 sourcePlace]⟩,
    places 10 (·.passedOn) fun x f => { f with passedOn := x },
    places 11 (·.weak) fun x f => { f with weak := x },
    .optional 12 .string (·.revision) fun x f => { f with revision := x }]

/-- The file of bytes, which lie one level deep in a request. -/
def File.decode? (bytes : List UInt8) : Option File :=
  File.codec.merge (Wire.Codec.depthLimit - 1) bytes File.codec.blank

end ProtoStore.Descriptor
