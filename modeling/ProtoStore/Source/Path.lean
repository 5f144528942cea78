import ProtoStore.Code.Path
import ProtoStore.Source.Token

/-!
# Paths of a source text

`path?` reads a text as a path and nothing else. The words `self`, `super`, `crate`, `Self` and `try`
may be steps of it, other keywords only in their raw form. The generic arguments of a step are
lifetimes, literals and types, and names that are given a type.

A reader gives what it read and the tokens after it. `room` bounds the depth of the readers that call
each other; each token takes a few of them.
-/

namespace ProtoStore.Source

/-! ## Words and marks -/

/-- The words that stand for themselves in a path although they are keywords elsewhere. -/
def stepWords : List String := "try" :: Ident.pathWords

/-- The keywords that may also be names. -/
def nameKeywords : List String := ["gen"]

/-- Whether an identifier is a name. -/
def isName (ident : Ident) : Bool :=
  ident.raw || (ident.text != "_" && !Ident.pathWords.contains ident.text
    && (!Ident.keywords.contains ident.text || nameKeywords.contains ident.text))

/-- What follows the mark written with the characters, all but the last of which are joined to the
next. -/
def afterMarks? : List Char → List Token → Option (List Token)
  | [], tokens => some tokens
  | [c], .mark d _ :: rest => if c == d then some rest else none
  | c :: more, .mark d true :: rest => if c == d then afterMarks? more rest else none
  | _, _ => none

/-- What follows a mark. -/
def after? (mark : String) (tokens : List Token) : Option (List Token) :=
  afterMarks? mark.toList tokens

/-- Whether tokens begin with a mark. -/
def begins (mark : String) (tokens : List Token) : Bool := (after? mark tokens).isSome

/-- What follows a word. -/
def afterWordToken? (text : String) : List Token → Option (List Token)
  | .word ident :: rest => if ident == ⟨text, false⟩ then some rest else none
  | _ => none

/-- A lifetime and what follows it. -/
def lifetime? : List Token → Option (Code × List Token)
  | .mark '\'' true :: .word ident :: rest => some ([.atom ("'" ++ ident.spelling)], rest)
  | _ => none

/-- A literal and what follows it; the two truth values are literals, and a number may be negative. -/
def literal? : List Token → Option (Code × List Token)
  | .literal text :: rest => some ([.atom text], rest)
  | .word ⟨text, false⟩ :: rest =>
    if text == "true" || text == "false" then some ([.atom text], rest) else none
  | .mark '-' _ :: .literal text :: rest =>
    if (text.toList.head?.map Char.isDigit).getD false then some ([.atom ("-" ++ text)], rest)
    else none
  | _ => none

/-! ## Arguments -/

/-- A generic argument between its neighbours. -/
structure Argument where
  isLifetime : Bool
  code : Code
  /-- Whether a comma follows it. -/
  comma : Bool

/-- Arguments with their commas; one is put after an argument that had none and is not the last. -/
def listed (missing : Bool) : List Argument → Code
  | [] => []
  | argument :: rest =>
    (if missing then [.atom ","] else []) ++ argument.code
      ++ (if argument.comma then [.atom ","] else []) ++ listed (!argument.comma) rest

/-- Arguments between angle brackets, lifetimes first. -/
def bracketed (arguments : List Argument) : Code :=
  [.atom "<"] ++ listed false (arguments.filter (·.isLifetime) ++ arguments.filter (!·.isLifetime))
    ++ [.atom ">"]

/-! ## Paths and types -/

/-- Whether a type can begin with the tokens of a path. -/
def beginsPathType : List Token → Bool
  | .word ident :: _ => isName ident || Ident.pathWords.contains ident.text
  | tokens => begins "::" tokens

/-- Puts code before what was read. -/
def after (before : Code) (found : Code × List Token) : Code × List Token :=
  (before ++ found.1, found.2)

mutual

/-- Steps with `::` between them, at least one. Before parentheses `::` does not go on. -/
def segments? : (room : Nat) → List Token → Option (List Segment × List Token)
  | 0, _ => none
  | room + 1, tokens => do
    let (segment, rest) ← segment? room tokens
    match after? "::" rest with
    | none | some (.group .paren _ :: _) => return ([segment], rest)
    | some more =>
      let (segments, rest) ← segments? room more
      return (segment :: segments, rest)

/-- A step of a path. The words that lead out of a module, and `try`, have no arguments. -/
def segment? : (room : Nat) → List Token → Option (Segment × List Token)
  | room + 1, .word ident :: rest =>
    if !ident.raw && stepWords.contains ident.text && ident.text != "Self" then
      some (⟨ident, [], false⟩, rest)
    else if isName ident || ident.text == "Self" then
      match after? "::" rest with
      | some more =>
        match after? "<" more with
        | some more => do
          let (arguments, rest) ← arguments? room more
          return (⟨ident, bracketed arguments, true⟩, rest)
        | none => some (⟨ident, [], false⟩, rest)
      | none =>
        match after? "<" rest with
        | some more =>
          if begins "<=" rest || begins "<<=" rest then some (⟨ident, [], false⟩, rest)
          else do
            let (arguments, rest) ← arguments? room more
            return (⟨ident, bracketed arguments, false⟩, rest)
        | none => some (⟨ident, [], false⟩, rest)
    else none
  | _, _ => none

/-- The arguments up to the closing bracket. -/
def arguments? : (room : Nat) → List Token → Option (List Argument × List Token)
  | 0, _ => none
  | room + 1, tokens =>
    match after? ">" tokens with
    | some rest => some ([], rest)
    | none => do
      let (isLifetime, code, rest) ← argument? room tokens
      match after? ">" rest with
      | some rest => return ([⟨isLifetime, code, false⟩], rest)
      | none =>
        let (more, rest) ← arguments? room (← after? "," rest)
        return (⟨isLifetime, code, true⟩ :: more, rest)

/-- A generic argument, and whether it is a lifetime. A name may be given a type or a value. -/
def argument? : (room : Nat) → List Token → Option (Bool × Code × List Token)
  | 0, _ => none
  | room + 1, tokens =>
    match lifetime? tokens, constant? room tokens with
    | some (code, rest), _ => if begins "+" rest then none else some (true, code, rest)
    | none, some (code, rest) => some (false, code, rest)
    | none, none =>
      let given? := if beginsPathType tokens then segment? room tokens else none
      match given?.bind fun (segment, rest) => (after? "=" rest).map (segment, ·) with
      | some (segment, rest) => do
        let (value, rest) ← match constant? room rest with
          | some found => some found
          | none => type? true room rest
        return (false, segment.code ++ [.atom "="] ++ value, rest)
      | none => (type? true room tokens).map fun (code, rest) => (false, code, rest)

/-- A literal, or an expression between braces that is a literal or a path. -/
def constant? : (room : Nat) → List Token → Option (Code × List Token)
  | room + 1, .group .brace body :: rest =>
    match body with
    | [] => some ([.group .brace []], rest)
    | _ => (value? room body).bind fun (code, more) =>
      if more.isEmpty then some ([.group .brace code], rest) else none
  | _, tokens => literal? tokens

/-- A literal or a path. -/
def value? : (room : Nat) → List Token → Option (Code × List Token)
  | 0, _ => none
  | room + 1, tokens =>
    match literal? tokens with
    | some found => some found
    | none => bounds? false room tokens

/-- A type. Several bounds can be a type only if `plus` allows it. -/
def type? (plus : Bool) : (room : Nat) → List Token → Option (Code × List Token)
  | 0, _ => none
  | room + 1, tokens =>
    match tokens with
    | .group .paren body :: rest => do return ([.group .paren (← types? room body)], rest)
    | .group .bracket body :: rest => do
      let (element, more) ← type? true room body
      if more.isEmpty then return ([.group .bracket element], rest)
      let (size, more) ← value? room (← after? ";" more)
      if more.isEmpty then return ([.group .bracket (element ++ [.atom ";"] ++ size)], rest) else none
    | .mark '&' _ :: rest =>
      let (life, rest) := (lifetime? rest).getD ([], rest)
      let (mutable, rest) : Code × List Token := match afterWordToken? "mut" rest with
        | some rest => ([.atom "mut"], rest)
        | none => ([], rest)
      (type? false room rest).map (after ([.atom "&"] ++ life ++ mutable))
    | .mark '*' _ :: .word ⟨word, false⟩ :: rest =>
      if word == "const" || word == "mut" then
        (type? false room rest).map (after [.atom "*", .atom word])
      else none
    | .mark '!' _ :: rest => some ([.atom "!"], rest)
    | .word ⟨"_", false⟩ :: rest => some ([.atom "_"], rest)
    | .word ⟨"dyn", false⟩ :: rest => (bounds? plus room rest).map (after [.atom "dyn"])
    | .word ⟨"impl", false⟩ :: rest => (bounds? plus room rest).map (after [.atom "impl"])
    | _ => if beginsPathType tokens then bounds? plus room tokens else none

/-- Types between parentheses, with commas between them. -/
def types? : (room : Nat) → List Token → Option Code
  | _, [] => some []
  | 0, _ => none
  | room + 1, tokens => do
    let (code, rest) ← type? true room tokens
    if rest.isEmpty then return code
    return code ++ [.atom ","] ++ (← types? room (← after? "," rest))

/-- Paths and lifetimes with `+` between them, or only the first if `plus` is not allowed. -/
def bounds? (plus : Bool) : (room : Nat) → List Token → Option (Code × List Token)
  | 0, _ => none
  | room + 1, tokens => do
    let (code, rest) ← match lifetime? tokens with
      | some found => some found
      | none => (rootedPath? room tokens).map fun (path, rest) => (path.code, rest)
    match if plus then after? "+" rest else none with
    | some more => (bounds? plus room more).map (after (code ++ [.atom "+"]))
    | none => return (code, rest)

/-- A path, which may begin at the root. -/
def rootedPath? : (room : Nat) → List Token → Option (Path × List Token)
  | 0, _ => none
  | room + 1, tokens => do
    let root? := after? "::" tokens
    let (segments, rest) ← segments? room (root?.getD tokens)
    return (⟨root?.isSome, segments⟩, rest)

end

/-- The path that a text holds. -/
def path? (text : String) : Option Path := do
  let (path, rest) ← rootedPath? (8 * (text.length + 1)) (← tokens? text)
  if rest.isEmpty then return path else none

end ProtoStore.Source
