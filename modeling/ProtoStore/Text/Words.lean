import ProtoStore.Text.Alphanumeric
import ProtoStore.Text.LetterCase

/-!
# Words of a name

A name is read as a sequence of words, however it is written: `XMLHttpRequest`, `xml_http_request`
and `xml-http request` are the words `xml`, `http` and `request`. `wordsOf` finds them, `snakeCase`
and `camelCase` write them in the two spellings of identifiers.

A word ends at a character that is neither letter nor number, between a lower-case and an upper-case
letter, and before the last of several upper-case letters that a lower-case letter follows. Digits
take the case of what precedes them.
-/

namespace ProtoStore.Text

/-- The case of the letters read last within a word; at its start, none yet. -/
inductive LetterMode
  | boundary
  | lower
  | upper
deriving Repr, DecidableEq

/-- The mode after `c`. -/
def LetterMode.next (mode : LetterMode) (c : Char) : LetterMode :=
  if isLower c then .lower else if isUpper c then .upper else mode

/-- Cuts a run of letters and numbers into words. `word` holds the characters of the current word
read so far, the last one first. -/
def splitCase (mode : LetterMode) (word : List Char) : List Char → List (List Char)
  | [] => []
  | [c] => [(c :: word).reverse]
  | c :: d :: rest =>
    if mode.next c = .lower && isUpper d then
      (c :: word).reverse :: splitCase .boundary [] (d :: rest)
    else if mode = .upper && isUpper c && isLower d then
      word.reverse :: splitCase .boundary [c] (d :: rest)
    else
      splitCase (mode.next c) (c :: word) (d :: rest)

/-- The runs of letters and numbers in a text. `run` holds the current one, the last character
first. -/
def runsOf (run : List Char) : List Char → List (List Char)
  | [] => [run.reverse]
  | c :: rest =>
    if isAlphanumeric c then runsOf (c :: run) rest else run.reverse :: runsOf [] rest

/-- The words of a name, none of them empty. -/
def wordsOf (name : List Char) : List (List Char) :=
  (runsOf [] name).flatMap (splitCase .boundary [])

/-- A word in lower case. A sigma that ends it takes its final form. -/
def lowerWord : List Char → List Char
  | [] => []
  | ['Σ'] => ['ς']
  | c :: rest => lowercase c ++ lowerWord rest

/-- A word with its first letter in upper case and the others in lower case. -/
def capitalWord : List Char → List Char
  | [] => []
  | c :: rest => uppercase c ++ lowerWord rest

/-- The words of `name` in lower case, joined by underscores. -/
def snakeCase (name : String) : String :=
  String.ofList (['_'].intercalate ((wordsOf name.toList).map lowerWord))

/-- The words of `name` capitalized and run together. -/
def camelCase (name : String) : String :=
  String.ofList ((wordsOf name.toList).flatMap capitalWord)

end ProtoStore.Text
