import ProtoStore.Descriptor.Codec

/-!
# Pools

A pool holds files together with all names they declare. A name beginning with a dot is a full name;
others are looked up in the scope they stand in and then outward. A file sees what it declares itself,
what its imports declare, and what these pass on.

`Pool.ofFiles` puts files together as they are; `Check` refuses those that do not fit.
-/

namespace ProtoStore.Descriptor

/-- What is wrong with descriptors. -/
inductive Error
  /-- Bytes are not an encoded message of the expected type. -/
  | malformed
  | unknownRevision (file revision : String)
  | repeatedFile (file : String)
  | missingImport (file name : String)
  | repeatedName (name : String)
  | invalidNumber (field : String) (number : Int32)
  | repeatedNumber (scope : String)
  | repeatedJsonName (message : String)
  /-- Two fields have names that differ in underscores and capitals only. -/
  | similarNames (message : String)
  /-- A number is in a range that is closed to it, or in none of those open to it. -/
  | closedNumber (name : String) (number : Int32)
  | missingOneof (field : String)
  | invalidDefault (field text : String)
  | emptyEnumeration (name : String)
  /-- An enumeration does not begin with zero although its file demands it. -/
  | nonzeroDefault (name : String)
  /-- Options do not fit their descriptor, or one that was not interpreted cannot be. -/
  | invalidOptions (scope : String)
  /-- A name in a scope is that of nothing that may stand there. -/
  | unresolved (scope name : String)
deriving Repr, DecidableEq

/-- What a name is declared as. -/
inductive NameKind
  | package
  | message
  | enumeration
  | service
  | extension
  /-- A name no type can have, and in which nothing is declared. -/
  | member
deriving Repr, DecidableEq

namespace NameKind

/-- Whether other names can be declared in one of this kind. -/
def isScope : NameKind → Bool
  | member => false
  | extension => false
  | _ => true

/-- Whether names of this kind can be the type of a field. -/
def isType : NameKind → Bool
  | message => true
  | enumeration => true
  | _ => false

end NameKind

/-- A full name a file declares. -/
structure Declared where
  name : String
  kind : NameKind
  file : String
deriving Repr, DecidableEq

/-! ## The names of a file -/

/-- Names of one kind that are declared in a scope. -/
def declaredIn (file : File) (scope : String) (kind : NameKind) (names : List String) :
    List Declared :=
  names.map fun name => ⟨qualify scope name, kind, file.name⟩

/-- The names of an enumeration and of its values, which are declared beside it. -/
def Enumeration.declared (file : File) (scope : String) (e : Enumeration) : List Declared :=
  ⟨qualify scope e.name, .enumeration, file.name⟩
    :: declaredIn file scope .member (e.values.map (·.name))

/-- The names of a message and of what is declared in it, other messages excepted. -/
def Located.declared (m : Located) : List Declared :=
  ⟨m.fullName, .message, m.file.name⟩
    :: declaredIn m.file m.fullName .member (m.message.fields.map (·.name))
    ++ declaredIn m.file m.fullName .member (m.message.oneofs.map (·.name))
    ++ m.message.enumerations.flatMap (·.declared m.file m.fullName)
    ++ declaredIn m.file m.fullName .extension (m.message.extensions.map (·.name))

/-- The names of a service and of its methods. -/
def Service.declared (file : File) (service : Service) : List Declared :=
  let name := qualify file.package service.name
  ⟨name, .service, file.name⟩ :: declaredIn file name .member (service.methods.map (·.name))

/-- The parts of a text up to each dot, and all of it. -/
def upToDots (taken : List Char) : List Char → List String
  | [] => [String.ofList taken.reverse]
  | c :: rest =>
    if c == '.' then String.ofList taken.reverse :: upToDots (c :: taken) rest
    else upToDots (c :: taken) rest

/-- A scope and those around it, the widest first. -/
def scopes (scope : String) : List String :=
  "" :: if scope.isEmpty then [] else upToDots [] scope.toList

/-- The package of a file and those around it. -/
def File.packages (file : File) : List Declared :=
  (scopes file.package).tail.map fun name => ⟨name, .package, file.name⟩

/-- The names a file declares, packages excepted. -/
def File.declared (file : File) : List Declared :=
  file.located.flatMap (·.declared)
    ++ file.enumerations.flatMap (·.declared file file.package)
    ++ file.services.flatMap (·.declared file)
    ++ declaredIn file file.package .extension (file.extensions.map (·.name))

/-! ## Extensions and enumerations -/

/-- An extension, with the scope it is declared in. -/
structure Extension where
  file : File
  scope : String
  field : Field

/-- The full name of an extension. -/
def Extension.fullName (x : Extension) : String := qualify x.scope x.field.name

mutual

/-- The extensions declared in a message, those in messages declared in it first. -/
def Message.extensionsIn (file : File) (scope : String) : Message → List Extension
  | ⟨name, _, nested, _, _, extensions, _, _, _⟩ =>
    Message.extensionsInAll file (qualify scope name) nested
      ++ extensions.map fun x => ⟨file, qualify scope name, x⟩

/-- The extensions declared in messages. -/
def Message.extensionsInAll (file : File) (scope : String) : List Message → List Extension
  | [] => []
  | message :: rest => message.extensionsIn file scope ++ Message.extensionsInAll file scope rest

end

/-- All extensions of a file. -/
def File.allExtensions (file : File) : List Extension :=
  Message.extensionsInAll file file.package file.messages
    ++ file.extensions.map fun x => ⟨file, file.package, x⟩

/-- An enumeration, with the scope it is declared in. -/
structure ScopedEnumeration where
  file : File
  scope : String
  enumeration : Enumeration

/-- The full name of an enumeration. -/
def ScopedEnumeration.fullName (e : ScopedEnumeration) : String :=
  qualify e.scope e.enumeration.name

/-- All enumerations of a file. -/
def File.allEnumerations (file : File) : List ScopedEnumeration :=
  file.located.flatMap (fun m => m.message.enumerations.map fun e => ⟨file, m.fullName, e⟩)
    ++ file.enumerations.map fun e => ⟨file, file.package, e⟩

/-! ## Pools -/

/-- Files put together. -/
structure Pool where
  files : List File
  /-- All names the files declare. -/
  names : List Declared
  /-- All messages of the files. -/
  messages : List Located
  enumerations : List ScopedEnumeration
  extensions : List Extension

namespace Pool

/-- The pool of files. -/
def ofFiles (files : List File) : Pool where
  files := files
  names := files.flatMap fun file => file.packages ++ file.declared
  messages := files.flatMap File.located
  enumerations := files.flatMap File.allEnumerations
  extensions := files.flatMap File.allExtensions

variable (pool : Pool)

/-- The message with the given full name. -/
def message? (name : String) : Option Located := pool.messages.find? (·.fullName == name)

/-- The enumeration with the given full name. -/
def enumeration? (name : String) : Option Enumeration :=
  (pool.enumerations.find? (·.fullName == name)).map (·.enumeration)

/-! ## Visibility -/

/-- The names of the imports a file passes on. -/
def passedOn (name : String) : List String :=
  match pool.files.find? (·.name == name) with
  | some file => file.passedOn.filterMap (file.imports[·]?)
  | none => []

/-- Adds what a file passes on to the files that are seen. Of these, the ones that were seen before
pass on in their turn, down to a number of levels. -/
def addPassedOn : (levels : Nat) → (seen : List String) → (name : String) → List String
  | 0, seen, _ => seen
  | levels + 1, seen, name =>
    (pool.passedOn name).foldl
      (fun seen next =>
        if seen.contains next then addPassedOn levels seen next else seen ++ [next]) seen

/-- The files whose names a file sees: its own, and import by import those imported and those passed
on by them. -/
def visible (file : File) : List String :=
  file.imports.foldl
    (fun seen name =>
      pool.addPassedOn pool.files.length (if seen.contains name then seen else seen ++ [name]) name)
    [file.name]

/-! ## Resolving names -/

/-- What has the given full name, if it is seen and of an accepted kind. -/
def absolute? (visible : List String) (accepts : NameKind → Bool) (name : String) :
    Option Declared :=
  pool.names.find? fun d => d.name == name && accepts d.kind && visible.contains d.file

/-- What a name in a scope means. The first component of a dotted name decides for a scope. -/
def resolve? (visible : List String) (accepts : NameKind → Bool) (scope name : String) :
    Option Declared :=
  let inScope (outer : String) := pool.absolute? visible accepts (qualify outer name)
  match name.toList with
  | '.' :: full => pool.absolute? visible accepts (String.ofList full)
  | chars =>
    let outward := (scopes scope).reverse
    if chars.contains '.' then
      let first := String.ofList (chars.takeWhile (· != '.'))
      (outward.find? fun outer =>
        pool.names.any fun d => d.name == qualify outer first && d.kind.isScope).bind inScope
    else outward.findSome? inScope

/-- What a name in a scope of a file means. -/
def resolve (file : File) (accepts : NameKind → Bool) (scope name : String) :
    Except Error Declared :=
  match pool.resolve? (pool.visible file) accepts scope name with
  | some d => .ok d
  | none => .error (.unresolved scope name)

end Pool

/-- The type of a field, with the full name of messages and enumerations. -/
inductive ResolvedType
  | scalar (type : Scalar)
  | group (name : String)
  | message (name : String)
  | enumeration (name : String)
deriving Repr, DecidableEq

/-- The type of a field that stands in a scope of a file. If a type is named, it is the one that
counts; the declared type then only tells groups from other messages. -/
def Pool.type (pool : Pool) (file : File) (scope : String) (field : Field) :
    Except Error ResolvedType := do
  if field.typeName.isEmpty then
    match field.type with
    | none => return .scalar .double
    | some (.scalar type) => return .scalar type
    | some _ => throw (.unresolved scope field.typeName)
  else
    let named ← pool.resolve file (·.isType) scope field.typeName
    match named.kind with
    | .message =>
      return if field.type == some .group then .group named.name else .message named.name
    | _ => return .enumeration named.name

/-- The full name of the message an extension extends. -/
def Pool.extended (pool : Pool) (x : Extension) : Except Error String :=
  (pool.resolve x.file (· == .message) x.scope x.field.extendee).map (·.name)

end ProtoStore.Descriptor
