import ProtoStore.Text.Identifier

/-!
# Identifiers of the generated code

`Ident.ofText` reads a text as an identifier. A keyword becomes a raw identifier. The four words that
have no raw form stay as they are and are identifiers only where a path may stand. The underscore stays,
too: a pattern may be one, and a struct may declare a field by it (`Ident.declaresField`), but it can be
selected nowhere.
-/

namespace ProtoStore

/-- Why no code can be emitted. -/
inductive CodeError
  /-- A name of the schema gave a text that is no identifier. -/
  | notIdentifier (text : String)
  /-- The items emitted for a file do not parse. -/
  | malformed (file : String)
deriving Repr, DecidableEq

/-- An identifier, possibly marked as raw so that a keyword can serve as a name. -/
structure Ident where
  text : String
  raw : Bool
deriving Repr, DecidableEq

namespace Ident

/-- The words that need the raw mark. -/
def keywords : List String :=
  ["abstract", "as", "async", "await", "become", "box", "break", "const", "continue", "do", "dyn",
    "else", "enum", "extern", "false", "final", "fn", "for", "gen", "if", "impl", "in", "let",
    "loop", "macro", "match", "mod", "move", "mut", "override", "priv", "pub", "ref", "return",
    "static", "struct", "trait", "true", "try", "type", "typeof", "unsafe", "unsized", "use",
    "virtual", "where", "while", "yield"]

/-- The words that have no raw form. -/
def pathWords : List String := ["self", "super", "crate", "Self"]

/-- Whether the characters form an identifier. -/
def validChars : List Char → Bool
  | [] => false
  | c :: rest => (c == '_' || Text.isIdentStart c) && rest.all Text.isIdentContinue

/-- Whether `text` is an identifier. -/
def valid (text : String) : Bool := validChars text.toList

/-- The identifier written `text`. -/
def ofText (text : String) : Except CodeError Ident :=
  if valid text then .ok ⟨text, keywords.contains text⟩ else .error (.notIdentifier text)

/-- The identifier as it is written in code. -/
def spelling (ident : Ident) : String := if ident.raw then "r#" ++ ident.text else ident.text

/-- The words that are identifiers but name nothing. -/
def unnaming : List String := "_" :: pathWords

/-- Whether a struct can declare a field by the identifier: an underscore declares one without a name. -/
def declaresField (ident : Ident) : Bool := !pathWords.contains ident.text

end Ident

end ProtoStore
