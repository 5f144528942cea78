import ProtoStore.Source.Path
import ProtoStore.Schema.Naming

/-!
# Parameters

The generator is configured by a text of `key=value` pairs separated by commas: the path of the
library the generated code uses, how the segments of field masks are spelled, and the ending of the
names of generated files. Unknown keys are ignored, and of a repeated key the last one counts.
-/

namespace ProtoStore

/-- How field masks spell the names of fields. -/
inductive MaskCase
  | camel
  | proto
deriving Repr, DecidableEq

/-- The parameters of the generator. -/
structure Config where
  /-- The path of the library the generated code uses. -/
  runtime : Path
  maskCase : MaskCase
  /-- The ending of generated files. -/
  suffix : String
deriving Repr

/-- What is wrong with a parameter. -/
inductive ParameterError
  | runtime (value : String)
  | maskCase (value : String)
  | suffix
deriving Repr, DecidableEq

namespace ParameterError

/-- The key of the parameter. -/
def key : ParameterError → String
  | .runtime _ => "runtime"
  | .maskCase _ => "mask_case"
  | .suffix => "suffix"

/-- What was expected instead. -/
def reason : ParameterError → String
  | .runtime value => s!"`{value}` is not a path"
  | .maskCase value => s!"expected `camel` or `proto`, got `{value}`"
  | .suffix => "suffix cannot be empty"

/-- The wording of an error. -/
def message (error : ParameterError) : String :=
  s!"invalid plugin parameter `{error.key}`: {error.reason}"

end ParameterError

namespace Config

/-- The parameters that are used where nothing is said. -/
def default : Config := ⟨.ofName true "persist_runtime", .camel, ".persist.rs"⟩

/-- Text without the blanks around it. -/
def trim (text : List Char) : List Char :=
  ((text.dropWhile Text.isBlank).reverse.dropWhile Text.isBlank).reverse

/-- Takes one parameter, written as its key, an equals sign and its value. -/
def set (config : Config) (parameter : List Char) : Except ParameterError Config :=
  let key := String.ofList (parameter.takeWhile (· != '='))
  let value := String.ofList ((parameter.dropWhile (· != '=')).drop 1)
  if key == "runtime" then
    match Source.path? value with
    | some runtime => .ok { config with runtime }
    | none => .error (.runtime value)
  else if key == "mask_case" then
    if value == "camel" then .ok { config with maskCase := .camel }
    else if value == "proto" then .ok { config with maskCase := .proto }
    else .error (.maskCase value)
  else if key == "suffix" then
    if value.isEmpty then .error .suffix else .ok { config with suffix := value }
  else .ok config

/-- Reads the parameters. -/
def parse (text : String) : Except ParameterError Config :=
  (Naming.splitOn ',' [] text.toList).foldlM
    (fun config part =>
      let parameter := trim part.toList
      if parameter.isEmpty then .ok config else config.set parameter)
    default

/-- The name of the file generated for a schema file. -/
def outputName (config : Config) (file : String) : String :=
  let ending := ".proto".toList
  let name := file.toList
  let stem := if ending.isSuffixOf name then name.take (name.length - ending.length) else name
  String.ofList stem ++ config.suffix

/-- The spelling of a name in a field mask. -/
def segment (case : MaskCase) (name : String) : String :=
  match case with
  | .camel => Naming.camel name
  | .proto => name

end Config

end ProtoStore
