import ProtoStore.Descriptor.Schema
import ProtoStore.Emit.File

/-!
# Requests

A compiler hands a generator an encoded request: the parameter, descriptors of all files, and the
names of the files that output is wanted for. `Response.ofBytes` answers it.
-/

namespace ProtoStore

/-- A request. -/
structure Request where
  /-- The names of the files that output is wanted for. -/
  targets : List String
  parameter : Option String
  /-- The encoded descriptors of the files. -/
  files : List (List UInt8)
deriving Repr, DecidableEq, Inhabited

/-- Why a request is not answered. -/
inductive RequestError
  | descriptor (error : Descriptor.Error)
  | parameter (error : ParameterError)
  | generate (error : GenerateError)
deriving Repr, DecidableEq

namespace Request

/-- Requests. -/
def codec : Wire.Codec Request where
  blank := default
  fields := [
    .repeated 1 .string (·.targets) fun x r => { r with targets := x },
    .optional 2 .string (·.parameter) fun x r => { r with parameter := x },
    .repeated 15 .bytes (·.files) fun x r => { r with files := x }]

/-- The request of bytes. -/
def ofBytes (bytes : List UInt8) : Except Descriptor.Error Request :=
  match codec.decode? bytes with
  | some request => .ok request
  | none => .error .malformed

/-- The schema of the files of a request. -/
def schema (request : Request) : Except Descriptor.Error Schema := do
  let files ← request.files.mapM fun bytes =>
    match Descriptor.File.decode? bytes with
    | some file => .ok file
    | none => .error .malformed
  (← Descriptor.Pool.checked files).schema request.targets

end Request

/-- The answer to a request. -/
structure Response where
  /-- The features of the language that are supported, one bit for each. -/
  features : Nat
  files : List GeneratedFile

namespace Response

/-- The bit of fields that are declared optional in files whose fields have no presence otherwise. -/
def proto3Optional : Nat := 1

/-- The answer to an encoded request. -/
def ofBytes (bytes : List UInt8) : Except RequestError Response := do
  let request ← (Request.ofBytes bytes).mapError .descriptor
  let config ← (Config.parse (request.parameter.getD "")).mapError .parameter
  let schema ← request.schema.mapError .descriptor
  return ⟨proto3Optional, ← (schema.generate config).mapError .generate⟩

end Response

end ProtoStore
