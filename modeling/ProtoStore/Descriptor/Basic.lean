import ProtoStore.Schema.Basic

/-!
# Descriptors

A compiler describes the files it has read by descriptors: files of messages, messages of fields.
Names of types in them may be relative, and are resolved in `Pool`. Options are kept as the bytes
they were encoded as, since extensions of them are known only when all files are.
-/

namespace ProtoStore.Descriptor

/-- How many values a field holds. -/
inductive Label
  | optional
  | required
  | repeated
deriving Repr, DecidableEq, Inhabited

/-- The declared type of a field; messages and enumerations are named beside it. -/
inductive FieldType
  | scalar (type : Scalar)
  | group
  | message
  | enumeration
deriving Repr, DecidableEq

/-- A range of numbers. Whether the last of them is in it depends on what is numbered. -/
structure Range where
  first : Int32
  last : Int32
deriving Repr, DecidableEq, Inhabited

/-- A field of a message, or an extension. -/
structure Field where
  name : String
  number : Int32
  label : Label
  /-- The declared type, unless it is left to the name of the type. -/
  type : Option FieldType
  /-- The name of the type, for messages and enumerations. -/
  typeName : String
  /-- The message an extension extends. -/
  extendee : String
  /-- The text of the default. -/
  fallback : Option String
  oneofIndex : Option Int32
  jsonName : Option String
  /-- Whether the field is declared optional in a file whose fields have no presence otherwise. -/
  proto3Optional : Bool
  options : List UInt8
deriving Repr, DecidableEq, Inhabited

/-- A oneof. -/
structure Oneof where
  name : String
  options : List UInt8
deriving Repr, DecidableEq, Inhabited

/-- A value of an enumeration. -/
structure EnumerationValue where
  name : String
  number : Int32
  options : List UInt8
deriving Repr, DecidableEq, Inhabited

/-- An enumeration. -/
structure Enumeration where
  name : String
  values : List EnumerationValue
  /-- The ranges no number of a value may be in; their last numbers count. -/
  reserved : List Range
  options : List UInt8
deriving Repr, DecidableEq, Inhabited

/-- A method of a service. -/
structure Method where
  name : String
  input : String
  output : String
  options : List UInt8
deriving Repr, DecidableEq, Inhabited

/-- A service. -/
structure Service where
  name : String
  methods : List Method
  options : List UInt8
deriving Repr, DecidableEq, Inhabited

/-- A message type. Ranges end before their last numbers. -/
structure Message where
  name : String
  fields : List Field
  nested : List Message
  enumerations : List Enumeration
  /-- The ranges of numbers that extensions of the message may have. -/
  extensionRanges : List Range
  /-- The extensions declared in the message. -/
  extensions : List Field
  oneofs : List Oneof
  /-- The ranges no number of a field may be in. -/
  reserved : List Range
  options : List UInt8
deriving Repr, Inhabited

/-- A file. -/
structure File where
  name : String
  package : String
  /-- The names of the files it imports. -/
  imports : List String
  /-- Which of the imports are passed on to files that import this one. -/
  passedOn : List Nat
  /-- Which of the imports may be missing when the file is used. -/
  weak : List Nat
  messages : List Message
  enumerations : List Enumeration
  services : List Service
  extensions : List Field
  /-- The revision of the language the file is written in, if it is named. -/
  revision : Option String
  options : List UInt8
deriving Repr, Inhabited

/-! ## Names -/

/-- The full name of what is declared in a scope. -/
def qualify (scope name : String) : String := if scope.isEmpty then name else scope ++ "." ++ name

/-- A name without its underscores, with a capital for what follows one. -/
def withoutUnderscores (raised : Bool) : List Char → List Char
  | [] => []
  | c :: rest =>
    if c == '_' then withoutUnderscores true rest
    else (if raised then c.toUpper else c) :: withoutUnderscores false rest

/-- The name of a field in JSON texts: that it declares, or its own without underscores. -/
def Field.json (field : Field) : String :=
  field.jsonName.getD (String.ofList (withoutUnderscores false field.name.toList))

/-- The name of a field without underscores and capitals. -/
def Field.folded (field : Field) : String :=
  String.ofList ((field.name.toList.filter (· != '_')).map Char.toLower)

/-! ## Numbers -/

/-- Whether a number is in a range that ends before its last number. -/
def Range.holdsBefore (range : Range) (number : Int32) : Bool :=
  range.first.toInt ≤ number.toInt && number.toInt < range.last.toInt

/-- Whether a number is in a range that ends with its last number. -/
def Range.holds (range : Range) (number : Int32) : Bool :=
  range.first.toInt ≤ number.toInt && number.toInt ≤ range.last.toInt

/-- Whether a field has a number that fields may have. -/
def Field.hasValidNumber (field : Field) : Bool :=
  let n := field.number.toInt
  1 ≤ n && n < 536870912 && (n < 19000 || 20000 ≤ n)

/-! ## Parts -/

/-- The oneof a field is a member of. -/
def Message.oneof? (message : Message) (field : Field) : Option Oneof :=
  field.oneofIndex.bind fun i => if i < 0 then none else message.oneofs[i.toInt.toNat]?

/-- The field with the given number. -/
def Message.field? (message : Message) (number : Int32) : Option Field :=
  message.fields.find? (·.number == number)

/-- Whether the fields of a file have presence unless they are repeated. -/
def File.hasPresence (file : File) : Bool := file.revision != some "proto3"

/-- A message with its full name and the file it is declared in. -/
structure Located where
  fullName : String
  message : Message
  file : File

mutual

/-- A message and those declared in it. -/
def Message.located (file : File) (scope : String) : Message → List Located
  | ⟨name, fields, nested, enumerations, ranges, extensions, oneofs, reserved, options⟩ =>
    ⟨qualify scope name,
      ⟨name, fields, nested, enumerations, ranges, extensions, oneofs, reserved, options⟩, file⟩
      :: Message.locatedAll file (qualify scope name) nested

/-- Messages and those declared in them. -/
def Message.locatedAll (file : File) (scope : String) : List Message → List Located
  | [] => []
  | message :: rest => message.located file scope ++ Message.locatedAll file scope rest

end

/-- All messages of a file. -/
def File.located (file : File) : List Located :=
  Message.locatedAll file file.package file.messages

end ProtoStore.Descriptor
