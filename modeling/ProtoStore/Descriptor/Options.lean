import ProtoStore.Descriptor.Pool

/-!
# Options

Everything that is declared can have options, which are messages themselves. `standardOptions` holds
their descriptors, without the extensions that files declare. Some options matter for what descriptors
mean, and are read from their bytes here.
-/

namespace ProtoStore.Descriptor

/-! ## Kinds of options -/

/-- What options belong to. -/
inductive OptionsKind
  | file
  | message
  | field
  | oneof
  | enumeration
  | enumerationValue
  | service
  | method
deriving Repr, DecidableEq

/-- The package that options are declared in. -/
def optionsPackage : String := "google.protobuf"

/-- The name of the message that options are. -/
def OptionsKind.name : OptionsKind → String
  | file => "FileOptions"
  | message => "MessageOptions"
  | field => "FieldOptions"
  | oneof => "OneofOptions"
  | enumeration => "EnumOptions"
  | enumerationValue => "EnumValueOptions"
  | service => "ServiceOptions"
  | method => "MethodOptions"

/-- The full name of the message that options are. -/
def OptionsKind.fullName (kind : OptionsKind) : String := qualify optionsPackage kind.name

/-! ## Their descriptors -/

/-- A field that is declared optional. -/
def Field.plain (type : FieldType) (typeName : String) (number : Int32) (name : String) : Field :=
  { (default : Field) with name, number, type := some type, typeName }

/-- Truth values with the given numbers and names. -/
def Field.flags (l : List (Int32 × String)) : List Field :=
  l.map fun (number, name) => .plain (.scalar .bool) "" number name

/-- Texts with the given numbers and names. -/
def Field.texts (l : List (Int32 × String)) : List Field :=
  l.map fun (number, name) => .plain (.scalar .string) "" number name

/-- An enumeration whose values are numbered from the given number on. -/
def Enumeration.counted (name : String) (first : Int32) (values : List String) : Enumeration where
  name := name
  values := values.zipIdx.map fun (value, i) => ⟨value, first + Int32.ofNat i, []⟩
  reserved := []
  options := []

/-- The options of a kind, and the field of those that are uninterpreted. -/
def OptionsKind.declare (kind : OptionsKind) (fields : List Field) (enumerations : List Enumeration) :
    Message :=
  { (default : Message) with
    name := kind.name
    fields := fields ++ [
      { Field.plain .message "UninterpretedOption" 999 "uninterpreted_option" with
        label := .repeated }]
    enumerations }

/-- Uninterpreted options. -/
def uninterpretedMessage : Message :=
  { (default : Message) with
    name := "UninterpretedOption"
    fields := [
      { Field.plain .message "NamePart" 2 "name" with label := .repeated },
      .plain (.scalar .string) "" 3 "identifier_value",
      .plain (.scalar .uint64) "" 4 "positive_int_value",
      .plain (.scalar .int64) "" 5 "negative_int_value",
      .plain (.scalar .double) "" 6 "double_value",
      .plain (.scalar .bytes) "" 7 "string_value",
      .plain (.scalar .string) "" 8 "aggregate_value"]
    nested := [
      { (default : Message) with
        name := "NamePart"
        fields := Field.texts [(1, "name_part")] ++ Field.flags [(2, "is_extension")] }] }

/-- The options of each kind. -/
def optionsMessages : List Message := [
  uninterpretedMessage,
  OptionsKind.file.declare
    (Field.texts [(1, "java_package"), (8, "java_outer_classname"), (11, "go_package"),
        (36, "objc_class_prefix"), (37, "csharp_namespace"), (39, "swift_prefix"),
        (40, "php_class_prefix"), (41, "php_namespace"), (44, "php_metadata_namespace"),
        (45, "ruby_package")]
      ++ Field.flags [(10, "java_multiple_files"), (16, "cc_generic_services"),
        (17, "java_generic_services"), (18, "py_generic_services"),
        (20, "java_generate_equals_and_hash"), (23, "deprecated"),
        (27, "java_string_check_utf8"), (31, "cc_enable_arenas"), (42, "php_generic_services")]
      ++ [.plain .enumeration "OptimizeMode" 9 "optimize_for"])
    [.counted "OptimizeMode" 1 ["SPEED", "CODE_SIZE", "LITE_RUNTIME"]],
  OptionsKind.message.declare
    (Field.flags [(1, "message_set_wire_format"), (2, "no_standard_descriptor_accessor"),
      (3, "deprecated"), (7, "map_entry")])
    [],
  OptionsKind.field.declare
    (Field.flags [(2, "packed"), (3, "deprecated"), (5, "lazy"), (10, "weak")]
      ++ [.plain .enumeration "CType" 1 "ctype", .plain .enumeration "JSType" 6 "jstype"])
    [.counted "CType" 0 ["STRING", "CORD", "STRING_PIECE"],
      .counted "JSType" 0 ["JS_NORMAL", "JS_STRING", "JS_NUMBER"]],
  OptionsKind.oneof.declare [] [],
  OptionsKind.enumeration.declare (Field.flags [(2, "allow_alias"), (3, "deprecated")]) [],
  OptionsKind.enumerationValue.declare (Field.flags [(1, "deprecated")]) [],
  OptionsKind.service.declare (Field.flags [(33, "deprecated")]) [],
  OptionsKind.method.declare
    (Field.flags [(33, "deprecated")]
      ++ [.plain .enumeration "IdempotencyLevel" 34 "idempotency_level"])
    [.counted "IdempotencyLevel" 0 ["IDEMPOTENCY_UNKNOWN", "NO_SIDE_EFFECTS", "IDEMPOTENT"]]]

/-- The descriptors of options, without extensions. -/
def standardOptions : Pool :=
  .ofFiles [{ (default : File) with package := optionsPackage, messages := optionsMessages }]

/-! ## Options that matter here -/

/-- The truth value that options hold under a number, if any. -/
def optionFlag? (number : Nat) (options : List UInt8) : Option Bool :=
  ((⟨none, [.optional number .bool id fun x _ => x]⟩ : Wire.Codec (Option Bool)).decode?
    options).bind id

/-- Whether a message is the entry of a map. -/
def Message.isMapEntry (message : Message) : Bool := (optionFlag? 7 message.options).getD false

/-- Whether values of an enumeration may share a number. It may also be said by an uninterpreted
option. -/
def Enumeration.allowsAliases (e : Enumeration) : Bool :=
  (optionFlag? 2 e.options).getD false
    || ((Uninterpreted.all? e.options).getD []).any fun option =>
      option.path == [⟨"allow_alias", false⟩] && option.bool? == some true

/-- Whether all values of a repeated field are in one entry, if they can be. Without options, this is
so where fields have no presence. -/
def Field.isPacked (file : File) (field : Field) : Bool :=
  if field.options.isEmpty then !file.hasPresence else (optionFlag? 2 field.options).getD false

end ProtoStore.Descriptor
