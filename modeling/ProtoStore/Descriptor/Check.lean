import ProtoStore.Descriptor.Default
import ProtoStore.Descriptor.Interpretation

/-!
# Checks

`Pool.checked` refuses files that do not fit together: imports that are missing, names that are
declared twice or mean nothing, numbers that are not free, defaults and options that do not fit their
types.
-/

namespace ProtoStore.Descriptor

/-- The first element that is in a list twice. -/
def repeated? {α : Type} [BEq α] : List α → Option α
  | [] => none
  | a :: rest => if rest.contains a then some a else repeated? rest

/-- Refuses a list that has an element twice. -/
def distinct {α : Type} [BEq α] (l : List α) (error : α → Error) : Except Error Unit :=
  match repeated? l with
  | some a => .error (error a)
  | none => .ok ()

namespace Pool

variable (pool : Pool)

/-- Checks that options can be read. -/
def checkOptions (kind : OptionsKind) (file : File) (scope : String) (bytes : List UInt8) :
    Except Error Unit := do
  let _ ← pool.options kind file scope bytes

/-! ## Fields -/

/-- Checks what fields and extensions have in common: number, type, default and options. -/
def checkField (file : File) (scope : String) (field : Field) : Except Error Unit := do
  let name := qualify scope field.name
  unless field.hasValidNumber do throw (.invalidNumber name field.number)
  let type ← pool.type file scope field
  match field.fallback with
  | some text => unless pool.acceptsDefault text type do throw (.invalidDefault name text)
  | none => pure ()
  pool.checkOptions .field file name field.options

/-- Checks a field of a message. -/
def checkMember (m : Located) (field : Field) : Except Error Unit := do
  let name := qualify m.fullName field.name
  pool.checkField m.file m.fullName field
  if field.oneofIndex.isSome && (m.message.oneof? field).isNone then throw (.missingOneof name)
  if (m.message.reserved ++ m.message.extensionRanges).any (·.holdsBefore field.number) then
    throw (.closedNumber name field.number)

/-- Checks an extension. -/
def checkExtension (x : Extension) : Except Error Unit := do
  pool.checkField x.file x.scope x.field
  let extended ← pool.extended x
  let ranges := ((pool.message? extended).map (·.message.extensionRanges)).getD []
  unless ranges.any (·.holdsBefore x.field.number) do
    throw (.closedNumber x.fullName x.field.number)

/-! ## Types and services -/

/-- Checks a message, but not what is declared in it. -/
def checkMessage (m : Located) : Except Error Unit := do
  let fields := m.message.fields
  for field in fields do
    pool.checkMember m field
  distinct (fields.map (·.number)) fun _ => .repeatedNumber m.fullName
  distinct (fields.map (·.json)) fun _ => .repeatedJsonName m.fullName
  unless m.file.hasPresence do
    distinct (fields.map (·.folded)) fun _ => .similarNames m.fullName
  for oneof in m.message.oneofs do
    pool.checkOptions .oneof m.file (qualify m.fullName oneof.name) oneof.options
  pool.checkOptions .message m.file m.fullName m.message.options

/-- Checks an enumeration. -/
def checkEnumeration (e : ScopedEnumeration) : Except Error Unit := do
  let values := e.enumeration.values
  match values.head? with
  | none => throw (.emptyEnumeration e.fullName)
  | some first =>
    if first.number != 0 && !e.file.hasPresence then throw (.nonzeroDefault e.fullName)
  unless e.enumeration.allowsAliases do
    distinct (values.map (·.number)) fun _ => .repeatedNumber e.fullName
  for value in values do
    let name := qualify e.scope value.name
    if e.enumeration.reserved.any (·.holds value.number) then
      throw (.closedNumber name value.number)
    pool.checkOptions .enumerationValue e.file name value.options
  pool.checkOptions .enumeration e.file e.fullName e.enumeration.options

/-- Checks a service. -/
def checkService (file : File) (service : Service) : Except Error Unit := do
  let scope := qualify file.package service.name
  for method in service.methods do
    let name := qualify scope method.name
    for type in [method.input, method.output] do
      let _ ← pool.resolve file (· == .message) name type
    pool.checkOptions .method file name method.options
  pool.checkOptions .service file scope service.options

/-! ## Files -/

/-- Checks what a file says of itself and of other files. -/
def checkFile (file : File) : Except Error Unit := do
  match file.revision with
  | none | some "proto2" | some "proto3" => pure ()
  | some revision => throw (.unknownRevision file.name revision)
  for name in file.imports do
    unless pool.files.any (·.name == name) do throw (.missingImport file.name name)
  for i in file.passedOn ++ file.weak do
    unless i < file.imports.length do throw (.missingImport file.name (toString i))

/-- Checks that files fit together. -/
def check : Except Error Unit := do
  distinct (pool.files.map (·.name)) .repeatedFile
  for file in pool.files do
    pool.checkFile file
  let packages := (pool.files.flatMap File.packages).map (·.name)
  distinct (packages.eraseDups ++ (pool.files.flatMap File.declared).map (·.name)) .repeatedName
  for m in pool.messages do
    pool.checkMessage m
  for e in pool.enumerations do
    pool.checkEnumeration e
  for x in pool.extensions do
    pool.checkExtension x
  for file in pool.files do
    for service in file.services do
      pool.checkService file service
    pool.checkOptions .file file file.package file.options

/-- The pool of files that fit together. -/
def checked (files : List File) : Except Error Pool := do
  let pool := ofFiles files
  pool.check
  return pool

end Pool

end ProtoStore.Descriptor
