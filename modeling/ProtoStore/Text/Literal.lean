import ProtoStore.Text.Printable

/-!
# String literals

`stringLiteral` writes a text as a string literal of the generated code. A character stands for
itself if it prints by itself; a quote, a backslash, a tab and the line ends have short escapes, and
everything else, marks that would combine with the quote included, is written by its code point.
-/

namespace ProtoStore.Text

/-- A hexadecimal digit, in lower case. -/
def hexDigit (n : Nat) : Char :=
  if n < 10 then Char.ofNat (0x30 + n) else Char.ofNat (0x57 + n)

/-- The hexadecimal digits of `n`, without leading zeros. -/
def hexDigits (n : Nat) : List Char :=
  if n < 16 then [hexDigit n] else hexDigits (n / 16) ++ [hexDigit (n % 16)]
termination_by n

/-- One character of a literal, given the one that follows it: a NUL before an octal digit is
written in full, so that the digit stays a digit. -/
def literalChar (c : Char) (next : Option Char) : List Char :=
  if c = '\x00' then
    match next with
    | some d => if '0' ≤ d && d ≤ '7' then "\\x00".toList else "\\0".toList
    | none => "\\0".toList
  else if c = '\t' then "\\t".toList
  else if c = '\r' then "\\r".toList
  else if c = '\n' then "\\n".toList
  else if c = '"' then "\\\"".toList
  else if c = '\\' then "\\\\".toList
  else if extendsGrapheme c || !isPrintable c then
    "\\u\x7b".toList ++ hexDigits c.toNat ++ "\x7d".toList
  else [c]

/-- The characters of a literal, between its quotes. -/
def literalBody : List Char → List Char
  | [] => []
  | c :: rest => literalChar c rest.head? ++ literalBody rest

/-- The literal of `text`. -/
def stringLiteral (text : String) : String :=
  String.ofList ('"' :: literalBody text.toList ++ ['"'])

end ProtoStore.Text
