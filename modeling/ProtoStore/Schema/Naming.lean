import ProtoStore.Code.Token
import ProtoStore.Text.Words

/-!
# Names of the generated code

How the names of a schema are spelled in code: fields and modules in snake case, types in camel case,
tables in the plural. The four words that cannot even be raw identifiers get an underscore.

Packages are nested modules, so `modulePath` leads from one package to another by leaving as many
modules as are not shared and entering those of the target.
-/

namespace ProtoStore.Naming

/-- The spelling of a field or a module. -/
def snake (name : String) : String :=
  let text := Text.snakeCase name
  if Ident.pathWords.contains text then text ++ "_" else text

/-- The spelling of a type. -/
def camel (name : String) : String :=
  let text := Text.camelCase name
  if text == "Self" then text ++ "_" else text

/-- The identifier of a field or a module. -/
def fieldIdent (name : String) : Except CodeError Ident := Ident.ofText (snake name)

/-- The identifier of a type. -/
def typeIdent (name : String) : Except CodeError Ident := Ident.ofText (camel name)

/-- The identifier of a function about a message: its snake-case name between two texts. -/
def functionIdent (before message after : String) : Except CodeError Ident :=
  Ident.ofText (before ++ Text.snakeCase message ++ after)

/-- The identifier of a record type. -/
def recordIdent (message : String) : Except CodeError Ident :=
  Ident.ofText (camel message ++ "Orm")

/-- The identifier of the hook trait of a message. -/
def hooksIdent (message : String) : Except CodeError Ident :=
  Ident.ofText (camel message ++ "Hooks")

/-! ## Plurals -/

/-- Whether a word ends in a vowel and a `y`, given its last characters backwards. -/
def endsInVowelY : List Char → Bool
  | 'y' :: c :: _ => c == 'a' || c == 'e' || c == 'i' || c == 'o' || c == 'u'
  | _ => false

/-- Whether the plural of a word takes `es`, given its last characters backwards. -/
def takesEs : List Char → Bool
  | 's' :: _ | 'x' :: _ | 'z' :: _ => true
  | 'h' :: c :: _ => c == 'c' || c == 's'
  | _ => false

/-- The plural of one word. -/
def pluralWord (word : List Char) : List Char :=
  if word == "child".toList then "children".toList
  else if word == "person".toList then "people".toList
  else if word.getLast? == some 'y' && !endsInVowelY word.reverse then
    word.dropLast ++ "ies".toList
  else if takesEs word.reverse then word ++ "es".toList
  else word ++ "s".toList

/-- A name with its last word, the part after the last underscore, in the plural. -/
def pluralize (name : String) : String :=
  let backwards := name.toList.reverse
  let word := (backwards.takeWhile (· != '_')).reverse
  let head := (backwards.dropWhile (· != '_')).reverse
  String.ofList (head ++ pluralWord word)

/-- The table of a message that asks for none. -/
def tableName (message : String) : String := pluralize (Text.snakeCase message)

/-! ## Paths between packages -/

/-- The parts of a text between the separators, empty ones included. -/
def splitOn (separator : Char) (part : List Char) : List Char → List String
  | [] => [String.ofList part.reverse]
  | c :: rest =>
    if c == separator then String.ofList part.reverse :: splitOn separator [] rest
    else splitOn separator (c :: part) rest

/-- The segments of a package name. -/
def packageSegments (package : String) : List String :=
  (splitOn '.' [] package.toList).filter (!·.isEmpty)

/-- What is left of two lists after their longest common beginning. -/
def dropShared : List String → List String → List String × List String
  | a :: as, b :: bs => if a == b then dropShared as bs else (a :: as, b :: bs)
  | as, bs => (as, bs)

/-- The path that leads from the module of one package to that of another, each step followed by
`::`. -/
def modulePath (source target : String) : Except CodeError Code := do
  let (ups, downs) := dropShared (packageSegments source) (packageSegments target)
  let steps ← downs.mapM fieldIdent
  return ups.flatMap (fun _ => [.atom "super", .atom "::"])
    ++ steps.flatMap fun step => step.code ++ [.atom "::"]

/-- A name of one package as it is reached from another. -/
def pathTo (source target : String) (ident : Ident) : Except CodeError Code := do
  return (← modulePath source target) ++ ident.code

end ProtoStore.Naming
