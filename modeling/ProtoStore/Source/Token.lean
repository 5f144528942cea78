import ProtoStore.Code.Token
import ProtoStore.Source.Literal
import ProtoStore.Text.Printable

/-!
# Tokens of a source text

`tokens?` reads a text that someone wrote: words, literals, marks and the groups between delimiters.
Blanks and comments separate tokens and are dropped, except for the comments that document something,
which stand for an attribute. A mark knows whether another one follows it at once, so that operators
of several characters can be told from marks that only stand in a row. `code` gives the tokens as code,
with a mark written close to what it is joined to.
-/

namespace ProtoStore.Source

/-- A token of a source text. -/
inductive Token
  | word (ident : Ident)
  | literal (text : String)
  | mark (c : Char) (joined : Bool)
  | group (delimiter : Delimiter) (body : List Token)
deriving Repr

/-! ## Blanks and comments -/

/-- Whether `c` may stand between tokens: a blank, or a mark of the direction of writing. -/
def isGap (c : Char) : Bool := Text.isBlank c || c == '\u200e' || c == '\u200f'

/-- What a comment documents. -/
inductive Subject
  | nothing
  /-- What follows the comment. -/
  | next
  /-- What the comment stands in. -/
  | around
deriving Repr, DecidableEq

/-- How a comment is written. -/
structure CommentStyle where
  /-- Whether it ends at a mark of its own, not at the end of its line. -/
  closed : Bool
  subject : Subject
deriving Repr, DecidableEq

/-- The style of the comment that a text begins with. -/
def commentStyle? : List Char → Option CommentStyle
  | '/' :: '/' :: '!' :: _ => some ⟨false, .around⟩
  | '/' :: '/' :: '/' :: '/' :: _ => some ⟨false, .nothing⟩
  | '/' :: '/' :: '/' :: _ => some ⟨false, .next⟩
  | '/' :: '/' :: _ => some ⟨false, .nothing⟩
  | '/' :: '*' :: '!' :: _ => some ⟨true, .around⟩
  | '/' :: '*' :: '*' :: '*' :: _ => some ⟨true, .nothing⟩
  | '/' :: '*' :: '*' :: '/' :: _ => some ⟨true, .nothing⟩
  | '/' :: '*' :: '*' :: _ => some ⟨true, .next⟩
  | '/' :: '*' :: _ => some ⟨true, .nothing⟩
  | _ => none

/-- What follows a closed comment, in which others may be nested. -/
def afterComment? (depth : Nat) : List Char → Option (List Char)
  | [] => none
  | '/' :: '*' :: rest => afterComment? (depth + 1) rest
  | '*' :: '/' :: rest => if depth ≤ 1 then some rest else afterComment? (depth - 1) rest
  | _ :: rest => afterComment? depth rest

/-- Whether every return in a text is followed by a line feed. -/
def returnsEndLines : List Char → Bool
  | [] => true
  | '\r' :: '\n' :: rest => returnsEndLines rest
  | '\r' :: _ => false
  | _ :: rest => returnsEndLines rest

/-- The attribute that stands for a comment. -/
def documentation (subject : Subject) (text : List Char) : List Token :=
  let note : List Token :=
    [.mark '#' false, .group .bracket
      [.word ⟨"doc", false⟩, .mark '=' false, .literal (Text.stringLiteral (String.ofList text))]]
  match subject with
  | .nothing => []
  | .next => note
  | .around => [.mark '#' false, .mark '!' false] ++ note.drop 1

/-- The text of a line, without the return before the line feed that `rest` begins with. -/
def withoutReturn (line rest : List Char) : List Char :=
  if rest.isEmpty || line.getLast? != some '\r' then line else line.dropLast

/-- Reads the comment that a text begins with: the tokens it stands for and what follows it. The
marks that open a comment which documents something have three characters. -/
def comment? (style : CommentStyle) (text : List Char) : Option (List Token × List Char) :=
  let (content, rest?) :=
    if style.closed then
      let rest? := afterComment? 0 text
      ((text.take (text.length - (rest?.getD []).length - 2)).drop 3, rest?)
    else
      let rest := text.dropWhile (· != '\n')
      (withoutReturn ((text.takeWhile (· != '\n')).drop 3) rest, some rest)
  match rest? with
  | none => none
  | some rest =>
    if style.subject == .nothing || returnsEndLines content then
      some (documentation style.subject content, rest)
    else none

/-! ## Words and marks -/

/-- What a text may not begin with if a word is to be read from it. -/
def literalBeginnings : List String :=
  ["r\"", "r#\"", "r##", "b\"", "b'", "br\"", "br#", "c\"", "cr\"", "cr#"]

/-- The identifier that a text begins with, and what follows it. -/
def ident? (text : List Char) : Option (Ident × List Char) :=
  let name (text : List Char) : Option (String × List Char) :=
    (afterWord? text).map fun rest =>
      (String.ofList (text.take (text.length - rest.length)), rest)
  match text with
  | 'r' :: '#' :: text =>
    (name text).bind fun (word, rest) =>
      if word == "_" || Ident.pathWords.contains word then none else some (⟨word, true⟩, rest)
  | _ => (name text).map fun (word, rest) => (⟨word, false⟩, rest)

/-- The word that a text begins with, and what follows it. -/
def word? (text : List Char) : Option (Ident × List Char) :=
  if literalBeginnings.any (·.toList.isPrefixOf text) then none else ident? text

/-- The characters that are marks. -/
def marks : List Char := "~!@#$%^&*-=+|;:,<.>/?'".toList

/-- Whether a text begins with a mark. -/
def beginsMark (text : List Char) : Bool :=
  (text.head?.map marks.contains).getD false && (commentStyle? text).isNone

/-- The mark that a text begins with, and what follows it. A quote is the mark of a name, which may
not have a further quote behind it. -/
def mark? (text : List Char) : Option (Token × List Char) :=
  match text with
  | [] => none
  | '\'' :: rest =>
    match ident? rest with
    | some (ident, after) =>
      if after.head? == some '\'' || (after.head? == some '#' && !ident.raw) then none
      else some (.mark '\'' true, rest)
    | none => none
  | c :: rest => if beginsMark text then some (.mark c (beginsMark rest), rest) else none

/-! ## Reading -/

/-- What stands where an expression is missing; it is read as a literal. -/
def placeholder : String := "(/*ERROR*/)"

/-- The token without delimiters that a text begins with, and what follows it. -/
def leaf? (text : List Char) : Option (Token × List Char) :=
  match afterLiteral? text with
  | some rest => some (.literal (String.ofList (text.take (text.length - rest.length))), rest)
  | none =>
    match mark? text with
    | some found => some found
    | none =>
      match word? text with
      | some (ident, rest) => some (.word ident, rest)
      | none =>
        if placeholder.toList.isPrefixOf text then
          some (.literal placeholder, text.drop placeholder.length)
        else none

/-- A token of a text before its groups are closed. -/
inductive Lexeme
  | token (token : Token)
  | opening (delimiter : Delimiter)
  | closing (delimiter : Delimiter)
deriving Repr

/-- The lexeme of a delimiter. -/
def delimiter? : Char → Option Lexeme
  | '(' => some (.opening .paren)
  | '[' => some (.opening .bracket)
  | '\x7b' => some (.opening .brace)
  | ')' => some (.closing .paren)
  | ']' => some (.closing .bracket)
  | '\x7d' => some (.closing .brace)
  | _ => none

/-- The lexemes that a text begins with and what follows them: none for a blank, those of its
attribute for a comment, and otherwise one. -/
def next? (c : Char) (rest : List Char) : Option (List Lexeme × List Char) :=
  if isGap c then some ([], rest)
  else
    match commentStyle? (c :: rest) with
    | some style => (comment? style (c :: rest)).map fun (found, rest) => (found.map .token, rest)
    | none =>
      match leaf? (c :: rest) with
      | some (token, rest) => some ([.token token], rest)
      | none => (delimiter? c).map fun lexeme => ([lexeme], rest)

/-- The lexemes of a text, of which at most `room` characters are read. -/
def lexemes? : (room : Nat) → List Char → Option (List Lexeme)
  | _, [] => some []
  | 0, _ => none
  | room + 1, c :: rest =>
    match next? c rest with
    | none => none
    | some (found, rest) => (lexemes? room rest).map (found ++ ·)

/-- Closes the groups of a lexeme sequence. `body` is the innermost group so far and `outer` the
groups around it, all with the last token first. Every group must end as it began. -/
def close? (body : List Token) : List (Delimiter × List Token) → List Lexeme → Option (List Token)
  | [], [] => some body.reverse
  | _ :: _, [] => none
  | outer, .token token :: rest => close? (token :: body) outer rest
  | outer, .opening delimiter :: rest => close? [] ((delimiter, body) :: outer) rest
  | [], .closing _ :: _ => none
  | (opened, before) :: outer, .closing delimiter :: rest =>
    if opened = delimiter then close? (.group delimiter body.reverse :: before) outer rest else none

/-- The tokens of a text, which may begin with a mark of the order of its bytes. -/
def tokens? (text : String) : Option (List Token) :=
  let chars := text.toList
  let chars := if chars.head? == some '\ufeff' then chars.drop 1 else chars
  (lexemes? chars.length chars).bind (close? [] [])

/-! ## As code -/

/-- A mark before code; if it is joined, it becomes part of the first atom. -/
def prepend (c : Char) (joined : Bool) (code : Code) : Code :=
  match joined, code with
  | true, .atom text :: rest => .atom (String.singleton c ++ text) :: rest
  | _, _ => .atom (String.singleton c) :: code

/-- The tokens as code. -/
def code : List Token → Code
  | [] => []
  | .word ident :: rest => .atom ident.spelling :: code rest
  | .literal text :: rest => .atom text :: code rest
  | .mark c joined :: rest => prepend c joined (code rest)
  | .group delimiter body :: rest => .group delimiter (code body) :: code rest

/-- The code that a text holds. -/
def code? (text : String) : Option Code := (tokens? text).map code

end ProtoStore.Source
