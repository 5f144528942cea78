import ProtoStore.Code.Ident
import ProtoStore.Text.Literal

/-!
# Code

Generated code is a list of tokens: atoms (identifiers, operators, literals) and delimited groups.
`Code.render` writes it out, `Code.ofText` reads such a text back into tokens, and `Code.fill` puts
code into the holes of a template, which is code with the atom `$` where something is missing.

Neighbouring tokens are one space apart. Parentheses and brackets hug what they hold, braces do not.
Where braces would be read as part of a Lean string, a text may have angle brackets `⟨ ⟩` instead.
-/

namespace ProtoStore

/-- The delimiters of a group. -/
inductive Delimiter
  | paren
  | bracket
  | brace
deriving Repr, DecidableEq

/-- A token of code. -/
inductive Token
  | atom (text : String)
  | group (delimiter : Delimiter) (body : List Token)
deriving Repr

/-- Whether a token is a point. -/
def Token.isPoint : Token → Bool
  | .atom text => text == "."
  | .group _ _ => false

/-- A sequence of tokens. -/
abbrev Code := List Token

/-- The identifier as code. -/
def Ident.code (ident : Ident) : Code := [.atom ident.spelling]

namespace Code

/-! ## Writing -/

/-- A rendered body between its delimiters. -/
def enclose : Delimiter → String → String
  | .paren, body => "(" ++ body ++ ")"
  | .bracket, body => "[" ++ body ++ "]"
  | .brace, body => if body.isEmpty then "\x7b \x7d" else "\x7b " ++ body ++ " \x7d"

mutual

/-- The text of one token. -/
def renderToken : Token → String
  | .atom text => text
  | .group delimiter body => enclose delimiter (" ".intercalate (renderTokens body))

/-- The texts of the tokens of a sequence. -/
def renderTokens : List Token → List String
  | [] => []
  | token :: rest => renderToken token :: renderTokens rest

end

/-- The text of code. -/
def render (code : Code) : String := " ".intercalate (renderTokens code)

/-! ## Selections -/

/-- Whether a token can follow a point. -/
def selectable : Token → Bool
  | .atom text => !Ident.unnaming.contains text
  | .group _ _ => true

mutual

/-- Whether every point in the groups of a token has something behind it that can be selected. -/
def selectsWithin : Token → Bool
  | .atom _ => true
  | .group _ body => selectsFields body

/-- Whether every point, in groups too, has something behind it that can be selected. -/
def selectsFields : Code → Bool
  | [] => true
  | token :: rest =>
    (!token.isPoint || (rest.head?.map selectable).getD true) && selectsWithin token && selectsFields rest

end

/-! ## Reading -/

/-- A token of a text before its groups are closed. -/
inductive Lexeme
  | atom (text : String)
  | opening (delimiter : Delimiter)
  | closing
deriving Repr, DecidableEq

/-- What is being read; the characters come last one first. -/
inductive Reading
  | blank
  | word (read : List Char)
  | operator (read : List Char)
  | literal (read : List Char) (escaped : Bool)
deriving Repr, DecidableEq

/-- The atom that ends where something else begins. -/
def Reading.done : Reading → List Lexeme
  | .blank => []
  | .word read | .operator read | .literal read _ => [.atom (String.ofList read.reverse)]

/-- What `c` begins when it does not continue a token: the lexeme it is by itself, and what is being
read after it. -/
def begin (c : Char) : List Lexeme × Reading :=
  match c with
  | '(' => ([.opening .paren], .blank)
  | '[' => ([.opening .bracket], .blank)
  | '\x7b' | '⟨' => ([.opening .brace], .blank)
  | ')' | ']' | '\x7d' | '⟩' => ([.closing], .blank)
  | '"' => ([], .literal ['"'] false)
  | _ =>
    if c == ' ' || c == '\n' || c == '\t' || c == '\r' then ([], .blank)
    else if Text.isIdentContinue c || c == '\'' then ([], .word [c])
    else ([], .operator [c])

/-- Whether `c` ends whatever token stands before it. -/
def separates (c : Char) : Bool :=
  c == ' ' || c == '\n' || c == '\t' || c == '\r' || c == '(' || c == ')' || c == '[' || c == ']'
    || c == '\x7b' || c == '\x7d' || c == '⟨' || c == '⟩' || c == '"' || c == '\''
    || Text.isIdentContinue c

/-- One character of a text. A word goes on through the mark of a raw identifier and into a raw
literal; operators run together; a literal ends at its closing quote. -/
def step (reading : Reading) (c : Char) : List Lexeme × Reading :=
  match reading with
  | .literal read true => ([], .literal (c :: read) false)
  | .literal read false =>
    if c == '"' then ([.atom (String.ofList (c :: read).reverse)], .blank)
    else ([], .literal (c :: read) (c == '\\'))
  | .word read =>
    if Text.isIdentContinue c || (c == '#' && read == ['r']) then ([], .word (c :: read))
    else if c == '"' && read == ['r'] then ([], .literal (c :: read) false)
    else (reading.done ++ (begin c).1, (begin c).2)
  | .operator read =>
    if separates c then (reading.done ++ (begin c).1, (begin c).2)
    else ([], .operator (c :: read))
  | .blank => begin c

/-- The lexemes of a text. -/
def lexemes (reading : Reading) : List Char → List Lexeme
  | [] => reading.done
  | c :: rest => (step reading c).1 ++ lexemes (step reading c).2 rest

/-- Closes the groups of a lexeme sequence. `code` is the innermost group so far and `outer` the
groups around it, all with the last token first. -/
def close (code : Code) : List (Delimiter × Code) → List Lexeme → Code
  | outer, [] => (outer.foldl (fun body frame => .group frame.1 body.reverse :: frame.2) code).reverse
  | outer, .atom text :: rest => close (.atom text :: code) outer rest
  | outer, .opening delimiter :: rest => close [] ((delimiter, code) :: outer) rest
  | [], .closing :: rest => close code [] rest
  | (delimiter, before) :: outer, .closing :: rest =>
    close (.group delimiter code.reverse :: before) outer rest

/-- The code written in a text. -/
def ofText (text : String) : Code := close [] [] (lexemes .blank text.toList)

/-! ## Templates -/

mutual

/-- Fills the holes of one token; gives the code and the pieces left over. -/
def fillToken (pieces : List Code) : Token → Code × List Code
  | .atom text =>
    if text == "$" then
      match pieces with
      | piece :: rest => (piece, rest)
      | [] => ([], [])
    else ([.atom text], pieces)
  | .group delimiter body =>
    let (code, rest) := fillTokens pieces body
    ([.group delimiter code], rest)

/-- Fills the holes of a sequence from left to right. -/
def fillTokens (pieces : List Code) : List Token → Code × List Code
  | [] => ([], pieces)
  | token :: tokens =>
    let (code, rest) := fillToken pieces token
    let (codes, left) := fillTokens rest tokens
    (code ++ codes, left)

end

/-- The template with its holes filled by the pieces, from left to right. -/
def fill (template : String) (pieces : List Code) : Code :=
  (fillTokens pieces (ofText template)).1

/-- The string literal of a text. -/
def literal (text : String) : Code := [.atom (Text.stringLiteral text)]

/-- Code put between the pieces. -/
def joined (separator : Code) : List Code → Code
  | [] => []
  | [piece] => piece
  | piece :: rest => piece ++ separator ++ joined separator rest

end Code

end ProtoStore
