import ProtoStore.Code.Token

/-!
# Items

A generated file is a list of items: structs, traits, implementations and functions. `Item.code`
gives the tokens of one, `Item.outline` its kind and name, and `Item.wellFormed` says whether it
parses, given that the emitters build everything but the names of fields from identifiers that can
stand where they put them. A point in code selects a field or a method.
-/

namespace ProtoStore

/-- A top-level item of a generated file. -/
inductive Item
  /-- A public struct with public fields. -/
  | record (attributes : Code) (name : Ident) (fields : List (Ident × Code))
  /-- A public trait. -/
  | interface (attributes : Code) (name : Ident) (bounds : Code) (methods : Code)
  /-- An implementation of a type, of a trait for it if one is given. -/
  | implementation (base : Option Code) (type : Code) (body : Code)
  /-- A function; `signature` follows its name. -/
  | function (attributes : Code) (isPublic isAsync : Bool) (name : Ident) (signature body : Code)

namespace Item

/-- The tokens of an item. -/
def code : Item → Code
  | .record attributes name fields =>
    attributes ++ Code.fill "pub struct $ ⟨ $ ⟩"
      [name.code, fields.flatMap fun field => Code.fill "pub $ : $ ," [field.1.code, field.2]]
  | .interface attributes name bounds methods =>
    attributes ++ Code.fill "pub trait $ : $ ⟨ $ ⟩" [name.code, bounds, methods]
  | .implementation none type body => Code.fill "impl $ ⟨ $ ⟩" [type, body]
  | .implementation (some base) type body =>
    Code.fill "impl $ for $ ⟨ $ ⟩" [base, type, body]
  | .function attributes isPublic isAsync name signature body =>
    attributes ++ (if isPublic then [.atom "pub"] else []) ++ (if isAsync then [.atom "async"] else [])
      ++ Code.fill "fn $ $ ⟨ $ ⟩" [name.code, signature, body]

/-- The text of an item. -/
def text (item : Item) : String := item.code.render

/-- Kind and name of an item. -/
def outline : Item → String
  | .record _ name _ => "struct " ++ name.spelling
  | .interface _ name _ _ => "trait " ++ name.spelling
  | .implementation none type _ => "impl " ++ type.render
  | .implementation (some base) type _ => "impl " ++ base.render ++ " for " ++ type.render
  | .function _ _ isAsync name _ _ => (if isAsync then "async fn " else "fn ") ++ name.spelling

/-- Whether every field has a name by which it can be declared or selected, wherever it is. -/
def wellFormed (item : Item) : Bool :=
  let declared := match item with
    | .record _ _ fields => fields.all (·.1.declaresField)
    | _ => true
  declared && item.code.selectsFields

end Item

/-- The attribute that documents what follows it. -/
def docAttribute (line : String) : Code :=
  [.atom "#", .group .bracket ([.atom "doc", .atom "="] ++ Code.literal line)]

/-- The attributes of a doc comment, one for each line, which they hold in raw literals. -/
def docComment (lines : List String) : Code :=
  lines.flatMap fun line =>
    let text := if line.isEmpty then "" else " " ++ line
    [.atom "#", .group .bracket [.atom "doc", .atom "=", .atom ("r\"" ++ text ++ "\"")]]

end ProtoStore
