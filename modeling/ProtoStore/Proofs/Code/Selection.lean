import ProtoStore.Code.Item
import ProtoStore.Proofs.Code.Ident

/-!
# Points in templates

Whether a filled template selects only what can be selected is told from the template and from what is put into its
holes.

* `Code.neat` : code in which every point selects something;
* `Code.holes` : the holes of a template, and which of them stand right after a point;
* `Code.Fits` : one piece for each hole;
* `Code.neat_fill` : a template is neat if its pieces fit;
* `Code.selects_of_fill` : where a filled template selects only what can be selected, so do its pieces.
-/

namespace ProtoStore.Code

variable {a b code tokens : Code} {token : Token} {text : String} {pieces rest : List Code}

/-! ## Neat code -/

/-- Whether code begins with something that can be selected. -/
def begins (code : Code) : Bool := code.head?.any selectable

mutual

/-- Whether every point in the groups of a token selects something. -/
def neatWithin : Token → Bool
  | .atom _ => true
  | .group _ body => neat body

/-- Whether every point, in groups too, selects something. Unlike `selectsFields` this leaves no point at the end, so
that code can be judged apart from what follows it. -/
def neat : Code → Bool
  | [] => true
  | token :: rest => (!token.isPoint || begins rest) && neatWithin token && neat rest

end

theorem neat_cons : neat (token :: tokens) = true ↔
    (token.isPoint = true → begins tokens = true) ∧ neatWithin token = true ∧ neat tokens = true := by
  rw [neat]
  cases token.isPoint <;> simp [and_assoc]

theorem selectsFields_cons : selectsFields (token :: tokens) = true ↔
    (token.isPoint = true → (tokens.head?.all selectable) = true) ∧ selectsWithin token = true ∧
      selectsFields tokens = true := by
  rw [selectsFields]
  cases token.isPoint <;> cases tokens <;> simp [and_assoc]

mutual

theorem selectsWithin_of_neat (token : Token) (h : neatWithin token = true) : selectsWithin token = true := by
  cases token with
  | atom text => rfl
  | group delimiter body => exact selectsFields_of_neat body h

/-- Neat code selects only what can be selected. -/
theorem selectsFields_of_neat (code : Code) (h : code.neat = true) : code.selectsFields = true := by
  cases code with
  | nil => rfl
  | cons token tokens =>
    obtain ⟨point, within, more⟩ := neat_cons.mp h
    refine selectsFields_cons.mpr ⟨fun is_point => ?_, selectsWithin_of_neat token within,
      selectsFields_of_neat tokens more⟩
    have first := point is_point
    unfold begins at first
    cases head : tokens.head? <;> simp_all

end

theorem begins_append (h : a.begins = true) : begins (a ++ b) = true := by
  cases a with
  | nil => cases h
  | cons token a => exact h

@[simp] theorem neat_nil : neat [] = true := rfl

theorem neat_append (ha : a.neat = true) (hb : b.neat = true) : neat (a ++ b) = true := by
  induction a with
  | nil => exact hb
  | cons token a ih =>
    obtain ⟨point, within, more⟩ := neat_cons.mp ha
    exact neat_cons.mpr ⟨fun is_point => begins_append (point is_point), within, ih more⟩

theorem neat_atom (h : text ≠ ".") : neat [.atom text] = true := by
  simp [neat, neatWithin, Token.isPoint, h]

theorem neat_group {delimiter : Delimiter} (h : a.neat = true) : neat [.group delimiter a] = true :=
  neat_cons.mpr ⟨fun no => (by cases no), h, rfl⟩

/-- A lettered text is no point. -/
theorem neat_lettered (h : Text.IsLettered text.toList) : neat [.atom text] = true :=
  neat_atom fun same => absurd (same ▸ h) (by decide +kernel)

theorem neat_flatten {codes : List Code} (h : ∀ code ∈ codes, code.neat = true) : neat codes.flatten = true := by
  induction codes with
  | nil => rfl
  | cons code codes ih =>
    obtain ⟨first, others⟩ := List.forall_mem_cons.mp h
    exact neat_append first (ih others)

theorem neat_flatMap {α : Type} {l : List α} {f : α → Code} (h : ∀ a ∈ l, (f a).neat = true) :
    neat (l.flatMap f) = true :=
  neat_flatten (List.forall_mem_map.mpr h)

theorem neat_joined (separator : Code) {codes : List Code} (between : separator.neat = true)
    (h : ∀ code ∈ codes, code.neat = true) : neat (joined separator codes) = true := by
  fun_induction joined separator codes with
  | case1 => rfl
  | case2 code => exact h code List.mem_cons_self
  | case3 code codes _ ih =>
    obtain ⟨first, others⟩ := List.forall_mem_cons.mp h
    exact neat_append (neat_append first between) (ih others)

/-! ## Holes -/

mutual

/-- The holes of a token, and whether each stands right after a point. -/
def holesWithin (after : Bool) : Token → List Bool
  | .atom text => if text == "$" then [after] else []
  | .group _ body => holes false body

/-- The holes of a template, and whether each stands right after a point. -/
def holes (after : Bool) : Code → List Bool
  | [] => []
  | token :: rest => holesWithin after token ++ holes token.isPoint rest

end

/-- Pieces, one for each hole, and the pieces that are left. What `R` says of a piece may depend on whether it comes
right after a point. -/
inductive Fits (R : Bool → Code → Prop) : List Bool → List Code → List Code → Prop
  | done {pieces : List Code} : Fits R [] pieces pieces
  | next {after : Bool} {piece : Code} {flags : List Bool} {pieces rest : List Code} (fits : R after piece)
      (more : Fits R flags pieces rest) : Fits R (after :: flags) (piece :: pieces) rest

theorem fits_append {R : Bool → Code → Prop} {first second : List Bool} :
    Fits R (first ++ second) pieces rest ↔ ∃ between, Fits R first pieces between ∧ Fits R second between rest := by
  induction first generalizing pieces with
  | nil =>
    refine ⟨fun h => ⟨pieces, .done, h⟩, ?_⟩
    rintro ⟨between, ⟨⟩, h⟩
    exact h
  | cons after flags ih =>
    constructor
    · rintro ⟨⟩
      next piece pieces fits more =>
      obtain ⟨between, here, later⟩ := ih.mp more
      exact ⟨between, .next fits here, later⟩
    · rintro ⟨between, ⟨⟩, later⟩
      next piece pieces fits more => exact .next fits (ih.mpr ⟨between, more, later⟩)

/-- A neat piece, which can be selected if it comes right after a point. -/
def Suits (after : Bool) (piece : Code) : Prop := piece.neat = true ∧ (after = true → piece.begins = true)

/-! ## Filled templates -/

mutual

theorem fillToken_neat (token : Token) {after : Bool} {pieces rest : List Code}
    (fits : Fits Suits (holesWithin after token) pieces rest) :
    (fillToken pieces token).2 = rest ∧
      (neatWithin token = true → token.isPoint = false → (fillToken pieces token).1.neat = true) ∧
      (token.isPoint = true → (fillToken pieces token).1 = [token]) ∧
      (after = true → selectable token = true → (fillToken pieces token).1.begins = true) := by
  cases token with
  | atom text =>
    unfold holesWithin at fits
    unfold fillToken
    split at fits
    · next hole =>
      cases fits with
      | next fits more =>
        cases more
        rw [if_pos hole]
        refine ⟨rfl, fun _ _ => fits.1, fun point => ?_, fun after _ => fits.2 after⟩
        simp_all [Token.isPoint]
    · next plain =>
      cases fits
      rw [if_neg plain]
      exact ⟨rfl, fun _ point => neat_atom (by simpa [Token.isPoint] using point), fun _ => rfl,
        fun _ selectable => selectable⟩
  | group delimiter body =>
    obtain ⟨left, neat_body, -⟩ := fillTokens_neat body fits
    refine ⟨left, fun neat _ => ?_, fun point => (by cases point), fun _ _ => rfl⟩
    exact neat_cons.mpr ⟨fun point => (by cases point), neat_body neat, rfl⟩

theorem fillTokens_neat (tokens : Code) {after : Bool} {pieces rest : List Code}
    (fits : Fits Suits (holes after tokens) pieces rest) :
    (fillTokens pieces tokens).2 = rest ∧
      (neat tokens = true → (fillTokens pieces tokens).1.neat = true) ∧
      (after = true → begins tokens = true → (fillTokens pieces tokens).1.begins = true) := by
  cases tokens with
  | nil =>
    cases fits
    exact ⟨rfl, fun _ => rfl, fun _ none => nomatch none⟩
  | cons token tokens =>
    obtain ⟨between, here, later⟩ := fits_append.mp fits
    obtain ⟨here_left, here_neat, here_point, here_begins⟩ := fillToken_neat token here
    obtain ⟨later_left, later_neat, later_begins⟩ := fillTokens_neat tokens later
    rw [fillTokens]
    dsimp only
    rw [here_left]
    refine ⟨later_left, fun neat => ?_, fun after begins => begins_append (here_begins after begins)⟩
    obtain ⟨behind, within, more⟩ := neat_cons.mp neat
    cases point : token.isPoint with
    | false => exact neat_append (here_neat within point) (later_neat more)
    | true =>
      rw [here_point point]
      exact neat_cons.mpr ⟨fun _ => later_begins point (behind point), within, later_neat more⟩

end

/-- What is checked of the text of a template: that it is neat, and which holes it has. -/
def isTemplate (text : List Char) (flags : List Bool) : Bool :=
  let tokens := close [] [] (lexemes .blank text)
  neat tokens && holes false tokens == flags

theorem ofText_ofList (text : List Char) : ofText (String.ofList text) = close [] [] (lexemes .blank text) := by
  rw [ofText, String.toList_ofList]

/-- A template is neat if its pieces fit. -/
theorem neat_fill {template : String} {text : List Char} (flags : List Bool)
    (written : template = String.ofList text) (checked : isTemplate text flags = true)
    (fits : Fits Suits flags pieces []) : neat (fill template pieces) = true := by
  simp only [isTemplate, Bool.and_eq_true, beq_iff_eq] at checked
  rw [fill, written, ofText_ofList]
  exact (fillTokens_neat _ (checked.2 ▸ fits)).2.1 checked.1

theorem neat_ofText {template : String} {text : List Char} (written : template = String.ofList text)
    (checked : isTemplate text [] = true) : neat (ofText template) = true := by
  simp only [isTemplate, Bool.and_eq_true] at checked
  rw [written, ofText_ofList]
  exact checked.1

/-! ## Pieces of what selects -/

theorem selectsFields_append (h : selectsFields (a ++ b) = true) :
    selectsFields a = true ∧ selectsFields b = true := by
  induction a with
  | nil => exact ⟨rfl, h⟩
  | cons token a ih =>
    obtain ⟨behind, within, more⟩ := selectsFields_cons.mp h
    obtain ⟨ha, hb⟩ := ih more
    refine ⟨selectsFields_cons.mpr ⟨fun point => ?_, within, ha⟩, hb⟩
    cases a with
    | nil => rfl
    | cons next a => exact behind point

theorem selectsFields_flatMap {α : Type} {l : List α} {f : α → Code} (h : selectsFields (l.flatMap f) = true) :
    ∀ x ∈ l, selectsFields (f x) = true := by
  induction l with
  | nil => simp
  | cons x l ih =>
    obtain ⟨first, others⟩ := selectsFields_append h
    exact List.forall_mem_cons.mpr ⟨first, ih others⟩

/-- A piece that selects only what can be selected and, right after a point, can be selected. -/
def Selects (after : Bool) (piece : Code) : Prop :=
  piece.selectsFields = true ∧ (after = true → piece.head?.all selectable = true)

/-- A piece of whatever kind. -/
def Any (_ : Bool) (_ : Code) : Prop := True

mutual

theorem fillToken_selects (token : Token) {after : Bool} {pieces rest : List Code}
    (fits : Fits Any (holesWithin after token) pieces rest) :
    (fillToken pieces token).2 = rest ∧ (token.isPoint = true → (fillToken pieces token).1 = [token]) ∧
      (Selects after (fillToken pieces token).1 → Fits Selects (holesWithin after token) pieces rest) := by
  cases token with
  | atom text =>
    unfold holesWithin at fits ⊢
    unfold fillToken
    split at fits
    · next hole =>
      cases fits with
      | next fits more =>
        cases more
        rw [if_pos hole, if_pos hole]
        refine ⟨rfl, fun point => ?_, fun selects => .next selects .done⟩
        simp_all [Token.isPoint]
    · next plain =>
      cases fits
      rw [if_neg plain, if_neg plain]
      exact ⟨rfl, fun _ => rfl, fun _ => .done⟩
  | group delimiter body =>
    obtain ⟨left, selects_body⟩ := fillTokens_selects body fits
    refine ⟨left, fun point => (by cases point), fun selects => selects_body ⟨?_, fun no => (by cases no)⟩⟩
    exact (selectsFields_cons.mp selects.1).2.1

theorem fillTokens_selects (tokens : Code) {after : Bool} {pieces rest : List Code}
    (fits : Fits Any (holes after tokens) pieces rest) :
    (fillTokens pieces tokens).2 = rest ∧
      (Selects after (fillTokens pieces tokens).1 → Fits Selects (holes after tokens) pieces rest) := by
  cases tokens with
  | nil =>
    cases fits
    exact ⟨rfl, fun _ => .done⟩
  | cons token tokens =>
    obtain ⟨between, here, later⟩ := fits_append.mp fits
    obtain ⟨here_left, here_point, here_selects⟩ := fillToken_selects token here
    obtain ⟨later_left, later_selects⟩ := fillTokens_selects tokens later
    rw [fillTokens]
    dsimp only
    rw [here_left]
    refine ⟨later_left, fun selects => fits_append.mpr ⟨between, here_selects ?_, later_selects ?_⟩⟩
    · refine ⟨(selectsFields_append selects.1).1, fun after => ?_⟩
      have first := selects.2 after
      generalize (fillToken pieces token).1 = code at first ⊢
      cases code with
      | nil => rfl
      | cons next code => exact first
    · refine ⟨(selectsFields_append selects.1).2, fun point => ?_⟩
      rw [here_point point] at selects
      exact (selectsFields_cons.mp selects.1).1 point

end

/-- Where a filled template selects only what can be selected, so do its pieces. -/
theorem selects_of_fill {template : String} {text : List Char} (flags : List Bool)
    (written : template = String.ofList text) (checked : isTemplate text flags = true)
    (fits : Fits Any flags pieces []) (selects : selectsFields (fill template pieces) = true) :
    Fits Selects flags pieces [] := by
  simp only [isTemplate, Bool.and_eq_true, beq_iff_eq] at checked
  rw [fill, written, ofText_ofList] at selects
  have pieces_select := (fillTokens_selects _ (checked.2 ▸ fits)).2 ⟨selects, fun no => (by cases no)⟩
  rwa [checked.2] at pieces_select

/-! ## Common pieces -/

@[simp] theorem fits_nil {R : Bool → Code → Prop} : Fits R [] pieces rest ↔ pieces = rest :=
  ⟨fun h => by cases h; rfl, fun h => h ▸ .done⟩

@[simp] theorem fits_cons {R : Bool → Code → Prop} {after : Bool} {flags : List Bool} {piece : Code} :
    Fits R (after :: flags) (piece :: pieces) rest ↔ R after piece ∧ Fits R flags pieces rest :=
  ⟨fun h => by cases h with | next fits more => exact ⟨fits, more⟩, fun h => .next h.1 h.2⟩

@[simp] theorem suits_false {piece : Code} : Suits false piece ↔ piece.neat = true := by simp [Suits]

@[simp] theorem suits_true {piece : Code} : Suits true piece ↔ piece.neat = true ∧ piece.begins = true := by
  simp [Suits]

@[simp] theorem neat_literal (text : String) : neat (literal text) = true := by
  refine neat_atom fun same => ?_
  have first := congrArg (·.toList.head?) same
  simp [Text.stringLiteral] at first

theorem neat_ident {ident : Ident} (h : Ident.valid ident.text = true) : neat ident.code = true :=
  neat_atom (Ident.spelling_ne_point h)

/-- An identifier that names something can stand anywhere. -/
@[simp] theorem neat_name {ident : Ident} (h : Ident.Names ident.text) : neat ident.code = true := neat_ident h.valid

@[simp] theorem begins_name {ident : Ident} (h : Ident.Names ident.text) : begins ident.code = true :=
  Ident.selectable_iff.mpr (.inr h.names)

end ProtoStore.Code
