import ProtoStore.Text.Hex
import ProtoStore.Text.Identifier

/-!
# Literals of a source text

`afterLiteral?` says where a literal ends that a text begins with: a string or a character, of text,
of bytes or with a closing zero, quoted or raw, or a number. The functions here give what follows, and
nothing if the text begins with no such thing. `room` bounds the number of characters that are read.
-/

namespace ProtoStore.Source

open Text

/-! ## Words -/

/-- Whether `c` can begin a word. -/
def beginsWord (c : Char) : Bool := c == '_' || isIdentStart c

/-- What follows the word a text begins with. -/
def afterWord? : List Char → Option (List Char)
  | [] => none
  | c :: rest => if beginsWord c then some (rest.dropWhile isIdentContinue) else none

/-- What follows the word a text may begin with. -/
def afterSuffix (text : List Char) : List Char := (afterWord? text).getD text

/-- What follows a number and its suffix; no letter of a word may stand there. -/
def afterNumber? (text : List Char) : Option (List Char) :=
  let rest := afterSuffix text
  match rest.head? with
  | some c => if isIdentContinue c then none else some rest
  | none => some rest

/-! ## Quoted literals -/

/-- What a quoted literal holds. -/
inductive Quoted
  | text
  | bytes
  /-- A text that may hold no zero, since one ends it. -/
  | terminated
deriving Repr, DecidableEq

/-- Whether `c` may stand for itself in a quoted literal. -/
def Quoted.allows (quoted : Quoted) (c : Char) : Bool :=
  match quoted with
  | text => true
  | bytes => c.toNat < 128
  | terminated => c.toNat != 0

/-- Whether two digits may follow `\x`. -/
def Quoted.allowsHex (quoted : Quoted) (first second : Char) : Bool :=
  match Hex.value? first, Hex.value? second with
  | some a, some b =>
    match quoted with
    | text => a < 8
    | bytes => true
    | terminated => a != 0 || b != 0
  | _, _ => false

/-- The number between the braces of an escape, which may have six digits, and what follows. -/
def escapedCode? (count code : Nat) : List Char → Option (Nat × List Char)
  | [] => none
  | c :: rest =>
    match Hex.value? c with
    | some digit => if count < 6 then escapedCode? (count + 1) (16 * code + digit) rest else none
    | none =>
      if count == 0 then none
      else if c == '_' then escapedCode? count code rest
      else if c == '\x7d' then some (code, rest)
      else none

/-- What follows an escape, of which the backslash is read. -/
def afterEscape? (quoted : Quoted) : List Char → Option (List Char)
  | 'x' :: first :: second :: rest => if quoted.allowsHex first second then some rest else none
  | 'u' :: '\x7b' :: rest =>
    match quoted, escapedCode? 0 0 rest with
    | .bytes, _ => none
    | .text, some (code, rest) => if Nat.isValidChar code then some rest else none
    | .terminated, some (code, rest) =>
      if Nat.isValidChar code && code != 0 then some rest else none
    | _, none => none
  | c :: rest =>
    if ['n', 'r', 't', '\\', '\'', '"'].contains c || (c == '0' && quoted != .terminated) then
      some rest
    else none
  | [] => none

/-- What follows the blanks after a line break that a backslash stands before. -/
def afterContinuation? : List Char → Option (List Char)
  | [] => none
  | '\r' :: '\n' :: rest => afterContinuation? rest
  | '\r' :: _ => none
  | c :: rest => if c == ' ' || c == '\t' || c == '\n' then afterContinuation? rest else some (c :: rest)

/-- What follows the quote that closes a literal. -/
def afterQuoted? (quoted : Quoted) : (room : Nat) → List Char → Option (List Char)
  | 0, _ => none
  | _, [] => none
  | room + 1, c :: rest =>
    if c == '"' then some rest
    else if c == '\r' then
      match rest with
      | '\n' :: rest => afterQuoted? quoted room rest
      | _ => none
    else if c == '\\' then
      let next? := match rest with
        | '\n' :: rest => afterContinuation? rest
        | '\r' :: '\n' :: rest => afterContinuation? rest
        | _ => afterEscape? quoted rest
      next?.bind (afterQuoted? quoted room)
    else if quoted.allows c then afterQuoted? quoted room rest
    else none

/-! ## Raw literals -/

/-- What follows the quote, and the given number of marks after it, that close a raw literal. -/
def afterRawBody? (quoted : Quoted) (marks : List Char) : List Char → Option (List Char)
  | [] => none
  | '\r' :: '\n' :: rest => afterRawBody? quoted marks rest
  | '\r' :: _ => none
  | c :: rest =>
    if c == '"' && marks.isPrefixOf rest then some (rest.drop marks.length)
    else if quoted.allows c then afterRawBody? quoted marks rest
    else none

/-- What follows a raw literal, of which the letters before its marks are read. -/
def afterRaw? (quoted : Quoted) (text : List Char) : Option (List Char) :=
  let marks := text.takeWhile (· == '#')
  match text.dropWhile (· == '#') with
  | '"' :: rest => if marks.length < 256 then afterRawBody? quoted marks rest else none
  | _ => none

/-! ## Characters -/

/-- What follows a character, of which the opening quote is read. -/
def afterCharacter? (quoted : Quoted) (text : List Char) : Option (List Char) :=
  let next? := match text with
    | '\\' :: rest => afterEscape? quoted rest
    | c :: rest => if quoted.allows c then some rest else none
    | [] => none
  match next? with
  | some ('\'' :: rest) => some rest
  | _ => none

/-! ## Numbers -/

/-- What follows an exponent, of which the letter is read: a sign and at least one digit. -/
def afterExponent? (signed valued : Bool) : List Char → Option (List Char)
  | [] => if valued then some [] else none
  | c :: rest =>
    if c.isDigit then afterExponent? signed true rest
    else if c == '_' then afterExponent? signed valued rest
    else if (c == '+' || c == '-') && !valued then
      if signed then none else afterExponent? true valued rest
    else if valued then some (c :: rest)
    else none

/-- Whether `c` is a digit or separates digits. -/
def isDigitMark (c : Char) : Bool := c.isDigit || c == '_'

/-- Whether a text begins with the letter of an exponent. -/
def beginsExponent (text : List Char) : Bool := text.head? == some 'e' || text.head? == some 'E'

/-- What follows the digits of a number with a point or an exponent. A point belongs to the number
unless another point or a word follows it. -/
def afterFraction? (text : List Char) : Option (List Char) :=
  if !(text.head?.map Char.isDigit).getD false then none
  else match text.dropWhile isDigitMark with
  | '.' :: rest =>
    if (rest.head?.map fun c => c == '.' || beginsWord c).getD false then none
    else
      let rest := rest.dropWhile isDigitMark
      if beginsExponent rest then some ((afterExponent? false false (rest.drop 1)).getD rest)
      else some rest
  | rest => if beginsExponent rest then afterExponent? false false (rest.drop 1) else none

/-- What follows the digits of a whole number in a base. `started` tells whether there was one. -/
def afterDigits? (base : Nat) (started : Bool) : List Char → Option (List Char)
  | [] => if started then some [] else none
  | c :: rest =>
    if c.isDigit then
      if c.toNat - 0x30 < base then afterDigits? base true rest else none
    else if ((Hex.value? c).map fun digit => decide (digit < base)).getD false then
      afterDigits? base true rest
    else if c == '_' then
      if started || base != 10 then afterDigits? base started rest else none
    else if started then some (c :: rest)
    else none

/-- What follows the digits of a whole number. -/
def afterWhole? : List Char → Option (List Char)
  | '0' :: 'x' :: rest => afterDigits? 16 false rest
  | '0' :: 'o' :: rest => afterDigits? 8 false rest
  | '0' :: 'b' :: rest => afterDigits? 2 false rest
  | text => afterDigits? 10 false text

/-! ## Literals -/

/-- What follows the literal that a text begins with. -/
def afterLiteral? (text : List Char) : Option (List Char) :=
  let room := text.length
  match text with
  | '"' :: rest => (afterQuoted? .text room rest).map afterSuffix
  | '\'' :: rest => (afterCharacter? .text rest).map afterSuffix
  | 'b' :: '"' :: rest => (afterQuoted? .bytes room rest).map afterSuffix
  | 'b' :: '\'' :: rest => (afterCharacter? .bytes rest).map afterSuffix
  | 'b' :: 'r' :: rest => (afterRaw? .bytes rest).map afterSuffix
  | 'c' :: '"' :: rest => (afterQuoted? .terminated room rest).map afterSuffix
  | 'c' :: 'r' :: rest => (afterRaw? .terminated rest).map afterSuffix
  | 'r' :: rest => (afterRaw? .text rest).map afterSuffix
  | _ =>
    match (afterFraction? text).bind afterNumber? with
    | some rest => some rest
    | none => (afterWhole? text).bind afterNumber?

end ProtoStore.Source
