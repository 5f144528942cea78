import ProtoStore.Config
import ProtoStore.Proofs.Code.Selection
import ProtoStore.Proofs.Except

/-!
# Paths hold no points

The words and literals of a source text are no points, and the readers of paths and types put only these and marks of
their own into the code they give. So the path of the library that parameters name is neat.

* `Source.Token.Plain` : a token whose words and literals are no points;
* `Source.tokens?_plain` : the tokens of a text are plain;
* `Source.Reads` : what the readers of paths and types give for plain tokens, for all of them at once;
* `Source.path?_neat`, `Config.parse_neat` : a path that is read is neat.
-/

namespace ProtoStore

open Code (neat_append neat_atom)

namespace Source

variable {text : List Char} {tokens rest : List Token} {token : Token} {code : Code}

/-- A token whose words and literals are no points. -/
inductive Token.Plain : Token → Prop
  | word {ident : Ident} (differs : ident.spelling ≠ ".") : Plain (.word ident)
  | literal {text : String} (differs : text ≠ ".") : Plain (.literal text)
  | mark {c : Char} {joined : Bool} : Plain (.mark c joined)
  | group {delimiter : Delimiter} {body : List Token} (each : ∀ token ∈ body, Plain token) :
    Plain (.group delimiter body)

/-- Tokens whose words and literals are no points. -/
def Plain (tokens : List Token) : Prop := ∀ token ∈ tokens, token.Plain

theorem plain_cons : Plain (token :: rest) ↔ token.Plain ∧ Plain rest := List.forall_mem_cons

theorem Plain.tail (plain : Plain (token :: rest)) : Plain rest := (plain_cons.mp plain).2

/-- Between plain parentheses, brackets or braces, and behind them. -/
theorem Plain.group {delimiter : Delimiter} {body : List Token} (plain : Plain (.group delimiter body :: rest)) :
    Plain body ∧ Plain rest := by
  obtain ⟨inside, after⟩ := plain_cons.mp plain
  cases inside with
  | group each => exact ⟨each, after⟩

/-! ## Tokens -/

theorem afterLiteral?_point (rest : List Char) : afterLiteral? ('.' :: rest) = none := by
  simp [afterLiteral?, afterFraction?, afterWhole?, afterDigits?, Text.Hex.value?]

theorem afterWord?_point (rest : List Char) : afterWord? ('.' :: rest) = none := by
  have none_begins : beginsWord '.' = false := by decide +kernel
  simp [afterWord?, none_begins]

/-- What is taken of a text is no point unless the text begins with one. -/
theorem take_ne_point {n : Nat} (h : ∀ rest, text ≠ '.' :: rest) : String.ofList (text.take n) ≠ "." := by
  intro same
  have whole := congrArg String.toList same
  rw [String.toList_ofList] at whole
  cases text with
  | nil => simp at whole
  | cons c text =>
    cases n with
    | zero => simp at whole
    | succ n =>
      have first : c = '.' := by simpa using congrArg List.head? whole
      exact h text (by rw [first])

theorem ident?_plain {ident : Ident} {after : List Char} (h : ident? text = some (ident, after)) :
    ident.spelling ≠ "." := by
  unfold ident? at h
  dsimp only at h
  split at h
  · obtain ⟨⟨word, more⟩, -, h⟩ := Option.bind_eq_some_iff.mp h
    dsimp only at h
    split at h
    · cases h
    · cases h
      exact Ident.raw_ne (by decide)
  · obtain ⟨⟨word, more⟩, named, same⟩ := Option.map_eq_some_iff.mp h
    cases same
    obtain ⟨after, found, same⟩ := Option.map_eq_some_iff.mp named
    cases same
    refine take_ne_point fun rest begins => ?_
    rw [begins, afterWord?_point] at found
    cases found

theorem stringLiteral_ne_point (text : String) : Text.stringLiteral text ≠ "." := fun same => by
  have first := congrArg (·.toList.head?) same
  simp [Text.stringLiteral] at first

theorem leaf?_plain {after : List Char} (h : leaf? text = some (token, after)) : token.Plain := by
  unfold leaf? at h
  split at h
  · next rest found =>
    cases h
    refine .literal (take_ne_point fun rest begins => ?_)
    rw [begins, afterLiteral?_point] at found
    cases found
  split at h
  · next found mark =>
    cases h
    unfold mark? at mark
    split at mark
    · cases mark
    · split at mark
      · split at mark
        · cases mark
        · cases mark
          exact .mark
      · cases mark
    · split at mark
      · cases mark
        exact .mark
      · cases mark
  split at h
  · next ident rest found =>
    cases h
    unfold word? at found
    split at found
    · cases found
    · exact .word (ident?_plain found)
  split at h
  · cases h
    exact .literal (by decide)
  · cases h

theorem documentation_plain (subject : Subject) (text : List Char) : Plain (documentation subject text) := by
  have doc : Token.Plain (.word ⟨"doc", false⟩) := .word (by decide)
  have note : Token.Plain (.group .bracket [.word ⟨"doc", false⟩, .mark '=' false,
      .literal (Text.stringLiteral (String.ofList text))]) :=
    .group (by simp [doc, Token.Plain.mark, Token.Plain.literal (stringLiteral_ne_point _)])
  unfold documentation
  cases subject <;> simp [Plain, note, Token.Plain.mark]

theorem comment?_plain {style : CommentStyle} {after : List Char} (h : comment? style text = some (tokens, after)) :
    Plain tokens := by
  unfold comment? at h
  generalize (if style.closed = true then _ else _ : List Char × Option (List Char)) = read at h
  obtain ⟨content, rest?⟩ := read
  cases rest? with
  | none => cases h
  | some rest =>
    dsimp only at h
    split at h
    · cases h
      exact documentation_plain _ _
    · cases h

/-- The tokens among lexemes are plain. -/
def PlainLexemes (lexemes : List Lexeme) : Prop := ∀ token, Lexeme.token token ∈ lexemes → token.Plain

theorem next?_plain {c : Char} {text after : List Char} {found : List Lexeme}
    (h : next? c text = some (found, after)) : PlainLexemes found := by
  unfold next? at h
  split at h
  · cases h
    simp [PlainLexemes]
  split at h
  · next style _ =>
    obtain ⟨⟨tokens, more⟩, read, same⟩ := Option.map_eq_some_iff.mp h
    cases same
    simpa [PlainLexemes, Plain] using comment?_plain read
  split at h
  · next token rest leaf =>
    cases h
    simpa [PlainLexemes] using leaf?_plain leaf
  · obtain ⟨lexeme, delimiter, same⟩ := Option.map_eq_some_iff.mp h
    cases same
    unfold delimiter? at delimiter
    split at delimiter <;> cases delimiter <;> simp [PlainLexemes]

theorem lexemes?_plain {room : Nat} {found : List Lexeme} (h : lexemes? room text = some found) :
    PlainLexemes found := by
  fun_induction lexemes? room text generalizing found with
  | case1 => 
    cases h
    simp [PlainLexemes]
  | case2 => cases h
  | case3 => cases h
  | case4 room c text first after step ih =>
    obtain ⟨more, read, rfl⟩ := Option.map_eq_some_iff.mp h
    intro token there
    rcases List.mem_append.mp there with here | later
    · exact next?_plain step token here
    · exact ih read token later

theorem close?_plain {body : List Token} {outer : List (Delimiter × List Token)} {lexemes : List Lexeme}
    (h : close? body outer lexemes = some tokens) (body_plain : Plain body)
    (outer_plain : ∀ frame ∈ outer, Plain frame.2) (lexemes_plain : PlainLexemes lexemes) : Plain tokens := by
  fun_induction close? body outer lexemes with
  | case1 body =>
    cases h
    exact fun token there => body_plain token (List.mem_reverse.mp there)
  | case2 => cases h
  | case3 body outer token rest ih =>
    refine ih h (plain_cons.mpr ⟨lexemes_plain token List.mem_cons_self, body_plain⟩) outer_plain
      fun token there => lexemes_plain token (List.mem_cons_of_mem _ there)
  | case4 body outer delimiter rest ih =>
    exact ih h (by simp [Plain]) (List.forall_mem_cons.mpr ⟨body_plain, outer_plain⟩)
      fun token there => lexemes_plain token (List.mem_cons_of_mem _ there)
  | case5 => cases h
  | case6 body opened before outer rest ih =>
    obtain ⟨before_plain, outer_plain⟩ := List.forall_mem_cons.mp outer_plain
    refine ih h (plain_cons.mpr ⟨.group fun token there => ?_, before_plain⟩) outer_plain
      fun token there => lexemes_plain token (List.mem_cons_of_mem _ there)
    exact body_plain token (List.mem_reverse.mp there)
  | case7 => cases h

/-- The words and literals of a text are no points. -/
theorem tokens?_plain {text : String} (h : tokens? text = some tokens) : Plain tokens := by
  obtain ⟨lexemes, read, closed⟩ := Option.bind_eq_some_iff.mp h
  exact close?_plain closed (by simp [Plain]) (by simp) (lexemes?_plain read)

/-! ## Readers -/

/-- What a reader gives for plain tokens: neat code and plain tokens. -/
structure Clean (code : Code) (rest : List Token) : Prop where
  neat : code.neat = true
  plain : Plain rest

/-- Neat code before what a reader gives. -/
theorem Clean.behind {before : Code} {found : Option (Code × List Token)} (before_neat : before.neat = true)
    (each : ∀ {code rest}, found = some (code, rest) → Clean code rest)
    (h : found.map (after before) = some (code, rest)) : Clean code rest := by
  obtain ⟨⟨inner, more⟩, read, same⟩ := Option.map_eq_some_iff.mp h
  cases same
  exact ⟨neat_append before_neat (each read).neat, (each read).plain⟩

theorem afterMarks?_plain {marks : List Char} (plain : Plain tokens) (h : afterMarks? marks tokens = some rest) :
    Plain rest := by
  fun_induction afterMarks? marks tokens with
  | case1 => exact Option.some.inj h ▸ plain
  | case2 c tokens d _ _ =>
    cases h
    exact plain.tail
  | case3 => cases h
  | case4 c more d tokens _ _ ih => exact ih plain.tail h
  | case5 => cases h
  | case6 => cases h

theorem after?_plain {mark : String} (plain : Plain tokens) (h : after? mark tokens = some rest) : Plain rest :=
  afterMarks?_plain plain h

theorem afterWordToken?_plain {word : String} (plain : Plain tokens) (h : afterWordToken? word tokens = some rest) :
    Plain rest := by
  unfold afterWordToken? at h
  split at h
  · split at h
    · cases h
      exact plain.tail
    · cases h
  · cases h

theorem lifetime?_clean (plain : Plain tokens) (h : lifetime? tokens = some (code, rest)) : Clean code rest := by
  unfold lifetime? at h
  split at h
  · next ident more =>
    cases h
    refine ⟨neat_atom fun same => ?_, plain.tail.tail⟩
    simpa using congrArg (·.toList.head?) same
  · cases h

/-- A lifetime that may be left out. -/
theorem lifetime?_getD_clean (plain : Plain tokens) :
    Clean ((lifetime? tokens).getD ([], tokens)).1 ((lifetime? tokens).getD ([], tokens)).2 := by
  cases found : lifetime? tokens with
  | none => exact ⟨rfl, plain⟩
  | some pair => exact lifetime?_clean plain found

theorem literal?_clean (plain : Plain tokens) (h : literal? tokens = some (code, rest)) : Clean code rest := by
  unfold literal? at h
  split at h
  · next text more =>
    cases h
    cases plain _ List.mem_cons_self with
    | literal differs => exact ⟨neat_atom differs, plain.tail⟩
  · next text more =>
    split at h
    · cases h
      cases plain _ List.mem_cons_self with
      | word differs => exact ⟨neat_atom differs, plain.tail⟩
    · cases h
  · next text more =>
    split at h
    · cases h
      refine ⟨neat_atom fun same => ?_, plain.tail.tail⟩
      simpa using congrArg (·.toList.head?) same
    · cases h
  · cases h

theorem listed_neat {missing : Bool} {arguments : List Argument}
    (each : ∀ argument ∈ arguments, argument.code.neat = true) :
    (listed missing arguments).neat = true := by
  have comma (given : Bool) : Code.neat (if given then [.atom ","] else []) = true := by
    cases given <;> decide
  induction arguments generalizing missing with
  | nil => rfl
  | cons argument arguments ih =>
    obtain ⟨first, others⟩ := List.forall_mem_cons.mp each
    exact neat_append (neat_append (neat_append (comma missing) first) (comma argument.comma)) (ih others)

theorem bracketed_neat {arguments : List Argument} (each : ∀ argument ∈ arguments, argument.code.neat = true) :
    (bracketed arguments).neat = true := by
  refine neat_append (neat_append (by decide) (listed_neat fun argument there => each argument ?_)) (by decide)
  rcases List.mem_append.mp there with there | there <;> exact List.mem_of_mem_filter there

/-- A step of a path whose name is no point. -/
theorem segment_neat {ident : Ident} {arguments : Code} {marked : Bool} (differs : ident.spelling ≠ ".")
    (arguments_neat : arguments.neat = true) : (Segment.code ⟨ident, arguments, marked⟩).neat = true := by
  refine neat_append (neat_append (neat_atom differs) ?_) arguments_neat
  cases marked <;> rfl

theorem path_neat {path : Path} (each : ∀ segment ∈ path.segments, segment.code.neat = true) :
    path.code.neat = true := by
  refine neat_append ?_ (Code.neat_joined _ (by decide) (List.forall_mem_map.mpr each))
  cases path.rooted <;> decide

/-- What the readers give for plain tokens at one depth. -/
structure Reads (room : Nat) : Prop where
  segments : ∀ {tokens segments rest}, Plain tokens → segments? room tokens = some (segments, rest) →
    (∀ segment ∈ segments, segment.code.neat = true) ∧ Plain rest
  segment : ∀ {tokens segment rest}, Plain tokens → segment? room tokens = some (segment, rest) →
    Clean segment.code rest
  arguments : ∀ {tokens arguments rest}, Plain tokens → arguments? room tokens = some (arguments, rest) →
    (∀ argument ∈ arguments, argument.code.neat = true) ∧ Plain rest
  argument : ∀ {tokens isLifetime code rest}, Plain tokens → argument? room tokens = some (isLifetime, code, rest) →
    Clean code rest
  constant : ∀ {tokens code rest}, Plain tokens → constant? room tokens = some (code, rest) → Clean code rest
  value : ∀ {tokens code rest}, Plain tokens → value? room tokens = some (code, rest) → Clean code rest
  type : ∀ {plus tokens code rest}, Plain tokens → type? plus room tokens = some (code, rest) → Clean code rest
  types : ∀ {tokens code}, Plain tokens → types? room tokens = some code → code.neat = true
  bounds : ∀ {plus tokens code rest}, Plain tokens → bounds? plus room tokens = some (code, rest) → Clean code rest
  rootedPath : ∀ {tokens path rest}, Plain tokens → rootedPath? room tokens = some (path, rest) →
    Clean path.code rest

namespace Reads

theorem zero : Reads 0 where
  segments := by simp [segments?]
  segment := by simp [segment?]
  arguments := by simp [arguments?]
  argument := by simp [argument?]
  constant plain h := by
    rw [constant?] at h
    exact literal?_clean plain h
    simp
  value := by simp [value?]
  type := by simp [type?]
  types {tokens code} _ h := by
    cases tokens with
    | nil =>
      cases h
      rfl
    | cons token tokens => simp [types?] at h
  bounds := by simp [bounds?]
  rootedPath := by simp [rootedPath?]

variable {room : Nat} (reads : Reads room)
include reads

theorem segments_succ {segments : List Segment} (plain : Plain tokens)
    (h : segments? (room + 1) tokens = some (segments, rest)) :
    (∀ segment ∈ segments, segment.code.neat = true) ∧ Plain rest := by
  rw [segments?] at h
  obtain ⟨⟨segment, after⟩, first, h⟩ := Option.bind_eq_some_iff.mp h
  obtain ⟨neat, after_plain⟩ := reads.segment plain first
  dsimp only at h
  split at h
  · cases h
    exact ⟨List.forall_mem_singleton.mpr neat, after_plain⟩
  · cases h
    exact ⟨List.forall_mem_singleton.mpr neat, after_plain⟩
  · next more _ marked =>
    obtain ⟨⟨others, last⟩, read, h⟩ := Option.bind_eq_some_iff.mp h
    cases h
    obtain ⟨others_neat, rest_plain⟩ := reads.segments (after?_plain after_plain marked) read
    exact ⟨List.forall_mem_cons.mpr ⟨neat, others_neat⟩, rest_plain⟩

theorem segment_succ {segment : Segment} (plain : Plain tokens)
    (h : segment? (room + 1) tokens = some (segment, rest)) : Clean segment.code rest := by
  rw [segment?.eq_def] at h
  split at h
  · next other ident after same =>
    cases same
    obtain ⟨word, after_plain⟩ := plain_cons.mp plain
    cases word with
    | word differs =>
    have alone {rest : List Token} (rest_plain : Plain rest) : Clean (Segment.code ⟨ident, [], false⟩) rest :=
      ⟨segment_neat differs rfl, rest_plain⟩
    have with_arguments {marked : Bool} {more : List Token} (more_plain : Plain more)
        (h : ((arguments? room more).bind fun found => some (Segment.mk ident (bracketed found.1) marked, found.2)) =
          some (segment, rest)) : Clean segment.code rest := by
      obtain ⟨⟨arguments, last⟩, read, same⟩ := Option.bind_eq_some_iff.mp h
      cases same
      obtain ⟨neat, rest_plain⟩ := reads.arguments more_plain read
      exact ⟨segment_neat differs (bracketed_neat neat), rest_plain⟩
    split at h
    · cases h
      exact alone after_plain
    split at h
    · split at h
      · next more marked =>
        have more_plain := after?_plain after_plain marked
        split at h
        · next inside opened => exact with_arguments (after?_plain more_plain opened) h
        · cases h
          exact alone after_plain
      · split at h
        · next inside opened =>
          split at h
          · cases h
            exact alone after_plain
          · exact with_arguments (after?_plain after_plain opened) h
        · cases h
          exact alone after_plain
    · cases h
  · cases h

theorem arguments_succ {arguments : List Argument} (plain : Plain tokens)
    (h : arguments? (room + 1) tokens = some (arguments, rest)) :
    (∀ argument ∈ arguments, argument.code.neat = true) ∧ Plain rest := by
  rw [arguments?] at h
  split at h
  · next closed =>
    cases h
    exact ⟨by simp, after?_plain plain closed⟩
  obtain ⟨⟨isLifetime, code, after⟩, read, h⟩ := Option.bind_eq_some_iff.mp h
  obtain ⟨neat, after_plain⟩ := reads.argument plain read
  dsimp only at h
  split at h
  · next closed =>
    cases h
    exact ⟨List.forall_mem_singleton.mpr neat, after?_plain after_plain closed⟩
  · obtain ⟨next, comma, h⟩ := Option.bind_eq_some_iff.mp h
    obtain ⟨⟨more, last⟩, others, h⟩ := Option.bind_eq_some_iff.mp h
    cases h
    obtain ⟨others_neat, rest_plain⟩ := reads.arguments (after?_plain after_plain comma) others
    exact ⟨List.forall_mem_cons.mpr ⟨neat, others_neat⟩, rest_plain⟩

theorem value_succ (plain : Plain tokens) (h : value? (room + 1) tokens = some (code, rest)) : Clean code rest := by
  rw [value?] at h
  split at h
  · next found literal =>
    cases h
    exact literal?_clean plain literal
  · exact reads.bounds plain h

theorem argument_succ {isLifetime : Bool} (plain : Plain tokens)
    (h : argument? (room + 1) tokens = some (isLifetime, code, rest)) : Clean code rest := by
  rw [argument?] at h
  split at h
  · next code more _ lifetime =>
    split at h
    · cases h
    · cases h
      exact lifetime?_clean plain lifetime
  · next code more _ constant =>
    cases h
    exact reads.constant plain constant
  · dsimp only at h
    split at h
    · next segment more given =>
      obtain ⟨⟨segment, after⟩, read, given⟩ := Option.bind_eq_some_iff.mp given
      obtain ⟨next, assigned, same⟩ := Option.map_eq_some_iff.mp given
      cases same
      have clean : Clean segment.code after := by
        split at read
        · exact reads.segment plain read
        · cases read
      have next_plain := after?_plain clean.plain assigned
      -- the value after the mark
      have goes_on {value : Code} {more : List Token} (found : Clean value more)
          (h : some (false, segment.code ++ [.atom "="] ++ value, more) = some (isLifetime, code, rest)) :
          Clean code rest := by
        cases h
        exact ⟨neat_append (neat_append clean.neat (by decide)) found.neat, found.plain⟩
      split at h
      · next value more constant => exact goes_on (reads.constant next_plain constant) h
      · obtain ⟨⟨value, more⟩, read, h⟩ := Option.bind_eq_some_iff.mp h
        exact goes_on (reads.type next_plain read) h
    · obtain ⟨⟨found, more⟩, read, same⟩ := Option.map_eq_some_iff.mp h
      cases same
      exact reads.type plain read

theorem constant_succ (plain : Plain tokens) (h : constant? (room + 1) tokens = some (code, rest)) :
    Clean code rest := by
  rw [constant?.eq_def] at h
  split at h
  · next body after same =>
    cases same
    obtain ⟨each, after_plain⟩ := plain.group
    split at h
    · cases h
      exact ⟨rfl, after_plain⟩
    · obtain ⟨⟨found, more⟩, read, h⟩ := Option.bind_eq_some_iff.mp h
      dsimp only at h
      split at h
      · cases h
        have neat := (reads.value each read).neat
        exact ⟨Code.neat_group neat, after_plain⟩
      · cases h
  · exact literal?_clean plain h

theorem type_succ {plus : Bool} (plain : Plain tokens) (h : type? plus (room + 1) tokens = some (code, rest)) :
    Clean code rest := by
  rw [type?.eq_def] at h
  dsimp only at h
  split at h
  · next body after =>
    obtain ⟨each, after_plain⟩ := plain.group
    obtain ⟨types, read, h⟩ := Option.bind_eq_some_iff.mp h
    cases h
    exact ⟨Code.neat_group (reads.types each read), after_plain⟩
  · next body after =>
    obtain ⟨each, after_plain⟩ := plain.group
    obtain ⟨⟨element, more⟩, read, h⟩ := Option.bind_eq_some_iff.mp h
    obtain ⟨neat, more_plain⟩ := reads.type each read
    dsimp only at h
    split at h
    · cases h
      exact ⟨Code.neat_group neat, after_plain⟩
    · obtain ⟨next, separated, h⟩ := Option.bind_eq_some_iff.mp h
      obtain ⟨⟨size, last⟩, size_read, h⟩ := Option.bind_eq_some_iff.mp h
      dsimp only at h
      split at h
      · cases h
        have size_neat := (reads.value (after?_plain more_plain separated) size_read).neat
        exact ⟨Code.neat_group (neat_append (neat_append neat (by decide)) size_neat), after_plain⟩
      · cases h
  · next joined after =>
    have life := lifetime?_getD_clean plain.tail
    generalize (lifetime? after).getD ([], after) = pair at life h
    obtain ⟨lifetime, more⟩ := pair
    cases found : afterWordToken? "mut" more with
    | none =>
      rw [found] at h
      exact .behind (neat_append (by decide) life.neat) (reads.type life.plain) (List.append_nil _ ▸ h)
    | some rest =>
      rw [found] at h
      exact .behind (neat_append (neat_append (by decide) life.neat) rfl)
        (reads.type (afterWordToken?_plain life.plain found)) h
  · next joined word after =>
    have after_plain := plain.tail.tail
    split at h
    · next kind =>
      refine .behind ?_ (reads.type after_plain) h
      have differs : word ≠ "." := by
        rintro rfl
        revert kind
        decide
      exact neat_append (a := [.atom "*"]) (by decide) (neat_atom differs)
    · cases h
  · next after =>
    cases h
    exact ⟨by decide, plain.tail⟩
  · cases h
    exact ⟨by decide, plain.tail⟩
  · exact .behind (by decide) (reads.bounds plain.tail) h
  · exact .behind (by decide) (reads.bounds plain.tail) h
  · split at h
    · exact reads.bounds plain h
    · cases h

theorem types_succ (plain : Plain tokens) (h : types? (room + 1) tokens = some code) : code.neat = true := by
  cases tokens with
  | nil =>
    cases h
    rfl
  | cons token tokens =>
    rw [types?.eq_def] at h
    obtain ⟨⟨first, after⟩, read, h⟩ := Option.bind_eq_some_iff.mp h
    obtain ⟨neat, after_plain⟩ := reads.type plain read
    dsimp only at h
    split at h
    · cases h
      exact neat
    · obtain ⟨next, comma, h⟩ := Option.bind_eq_some_iff.mp h
      obtain ⟨more, others, h⟩ := Option.bind_eq_some_iff.mp h
      cases h
      exact neat_append (neat_append neat (by decide)) (reads.types (after?_plain after_plain comma) others)

theorem bounds_succ {plus : Bool} (plain : Plain tokens) (h : bounds? plus (room + 1) tokens = some (code, rest)) :
    Clean code rest := by
  -- the bounds after a first one
  have goes_on {first : Code} {more others : List Token} (clean : Clean first more)
      (joined : (if plus then after? "+" more else none) = some others)
      (h : (bounds? plus room others).map (after (first ++ [.atom "+"])) = some (code, rest)) : Clean code rest := by
    split at joined
    · exact .behind (neat_append clean.neat (by decide)) (reads.bounds (after?_plain clean.plain joined)) h
    · cases joined
  rw [bounds?] at h
  split at h
  · next found lifetime =>
    have clean := lifetime?_clean plain lifetime
    dsimp only [Option.bind_eq_bind, Option.bind_some] at h
    split at h
    · next others joined => exact goes_on clean joined h
    · cases h
      exact clean
  · obtain ⟨⟨first, more⟩, read, h⟩ := Option.bind_eq_some_iff.mp h
    obtain ⟨⟨path, more⟩, path_read, same⟩ := Option.map_eq_some_iff.mp read
    cases same
    have clean := reads.rootedPath plain path_read
    dsimp only at h
    split at h
    · next others joined => exact goes_on clean joined h
    · cases h
      exact clean

theorem rootedPath_succ {path : Path} (plain : Plain tokens)
    (h : rootedPath? (room + 1) tokens = some (path, rest)) : Clean path.code rest := by
  rw [rootedPath?] at h
  obtain ⟨⟨segments, after⟩, read, h⟩ := Option.bind_eq_some_iff.mp h
  cases h
  have inside : Plain ((after? "::" tokens).getD tokens) := by
    cases root : after? "::" tokens with
    | none => exact plain
    | some more => exact after?_plain plain root
  obtain ⟨neat, rest_plain⟩ := reads.segments inside read
  exact ⟨path_neat neat, rest_plain⟩

omit reads in
/-- What the readers give for plain tokens, at all depths. -/
theorem all : ∀ room, Reads room
  | 0 => zero
  | room + 1 =>
    have reads := all room
    { segments := reads.segments_succ
      segment := reads.segment_succ
      arguments := reads.arguments_succ
      argument := reads.argument_succ
      constant := reads.constant_succ
      value := reads.value_succ
      type := reads.type_succ
      types := reads.types_succ
      bounds := reads.bounds_succ
      rootedPath := reads.rootedPath_succ }

end Reads

/-- A path that a text holds is neat. -/
theorem path?_neat {text : String} {path : Path} (h : path? text = some path) : path.code.neat = true := by
  obtain ⟨tokens, lexed, h⟩ := Option.bind_eq_some_iff.mp h
  obtain ⟨⟨found, rest⟩, read, h⟩ := Option.bind_eq_some_iff.mp h
  dsimp only at h
  split at h
  · cases h
    exact ((Reads.all _).rootedPath (tokens?_plain lexed) read).neat
  · cases h

end Source

namespace Config

variable {config other : Config}

theorem set_neat {parameter : List Char} (h : config.set parameter = .ok other)
    (neat : config.runtime.code.neat = true) : other.runtime.code.neat = true := by
  unfold set at h
  dsimp only at h
  split at h
  · split at h
    · next runtime found =>
      cases h
      exact Source.path?_neat found
    · cases h
  split at h
  · split at h
    · cases h
      exact neat
    split at h
    · cases h
      exact neat
    · cases h
  split at h
  · split at h
    · cases h
    · cases h
      exact neat
  · cases h
    exact neat

/-- The path of the library that parameters name is neat. -/
theorem parse_neat {text : String} (h : parse text = .ok config) : config.runtime.code.neat = true := by
  unfold parse at h
  refine List.foldlM_ok (fun _ config => config.runtime.code.neat = true) (by decide) ?_ h
  intro seen config part other _ neat step
  dsimp only at step
  split at step
  · cases step
    exact neat
  · exact set_neat step neat

end Config

end ProtoStore
