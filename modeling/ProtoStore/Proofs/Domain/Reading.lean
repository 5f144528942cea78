import ProtoStore.Domain.Operations
import ProtoStore.Proofs.Domain.Action

/-!
# Actions that leave the store as it is

For hooks that hand on what they are given: the conversions between messages and records
(`moves_toRecord`, `moves_toMessage`), what loads the links of a record (`moves_loadOne`,
`moves_respond`), the checks of arguments, and the operations that only read (`moves_read`,
`moves_list`). `KeyColumns` : domains whose rows are found by a column.
-/

namespace ProtoStore.Domain

/-- Key columns hold the values of keys. -/
class KeyColumns (E : Type) {K : outParam Type} [Catalog K] [Entities E K] : Prop where
  value? (e : E) (row : Record e) :
    (record (table e)).value? row (record (table e)).keyColumn =
      some ((record (table e)).keyValue row)

namespace Operations

variable {E K σ : Type} [Catalog K] [Bindings E K] {world : World K σ} {e : E}

/-- A record is that of a message. -/
def Converts (e : E) (message : Message e) (row : Record e) : Prop :=
  Bindings.fillRecord e message (Bindings.blankRecord e) = .ok row

/-- A message is that of a record. -/
def Reverts (e : E) (row : Record e) (message : Message e) : Prop :=
  Bindings.fillMessage e row (Bindings.blank e) = .ok message

/-- The records of a link are those of the messages that are to be linked. -/
inductive Collected (message : Message e) : MessageLink e → Pending e → Prop
  | reference {link : Reference e} {row : Option (Record link.target)} :
    Option.Rel (Converts link.target) (link.get message) row →
      Collected message (.reference link) (.reference link row)
  | children {link : Children e} {rows : List (Record link.target)} :
    List.Forall₂ (Converts link.target) (link.get message) rows →
      Collected message (.children link) (.children link rows)
  | joined {link : Joined e} {rows : List (Record link.target)} :
    List.Forall₂ (Converts link.target) (link.get message) rows →
      Collected message (.joined link) (.joined link rows)

section

variable {hooks : Hooks E σ} (quiet : hooks.Quiet)
include quiet

theorem moves_toRecord (e : E) (message : Message e) :
    Moves Eq (toRecord hooks e message) world fun row _ => Converts e message row := by
  rw [toRecord]
  refine (Moves.hook quiet _ _).bind fun blank _ _ hb => ?_
  subst hb
  refine (Moves.ofExcept _).bind fun row _ _ hr => ?_
  exact (Moves.hook quiet _ _).mono fun a _ _ ha => ha ▸ hr

theorem moves_toRecords (messages : List (Message e)) :
    Moves Eq (messages.mapM (toRecord hooks e)) world fun rows _ =>
      List.Forall₂ (Converts e) messages rows :=
  Moves.mapM (fun message _ _ _ => moves_toRecord quiet e message) fun _ _ _ _ _ h => h

theorem moves_collect (message : Message e) :
    Moves Eq (collect hooks e message) world fun pending _ =>
      List.Forall₂ (Collected message) (Bindings.links e) pending := by
  refine Moves.mapM (fun link _ after _ => ?_) fun _ _ _ _ _ h => h
  cases link with
  | reference link =>
    refine (Moves.optionMapM fun t _ => moves_toRecord quiet link.target t).bind fun row _ _ hr => ?_
    exact Moves.pure (.reference hr)
  | children link =>
    exact (moves_toRecords quiet _).bind fun rows _ _ hr => Moves.pure (.children hr)
  | joined link =>
    exact (moves_toRecords quiet _).bind fun rows _ _ hr => Moves.pure (.joined hr)

theorem moves_toMessage (e : E) (row : Record e) :
    Moves Eq (toMessage hooks e row) world fun message _ => Reverts e row message := by
  rw [toMessage]
  refine (Moves.hook quiet _ _).bind fun blank _ _ hb => ?_
  subst hb
  refine (Moves.ofExcept _).bind fun message _ _ hm => ?_
  exact (Moves.hook quiet _ _).mono fun a _ _ ha => ha ▸ hm

theorem moves_toMessages (rows : List (Record e)) :
    Moves Eq (rows.mapM (toMessage hooks e)) world fun messages _ =>
      List.Forall₂ (Reverts e) rows messages :=
  Moves.mapM (fun row _ _ _ => moves_toMessage quiet e row) fun _ _ _ _ _ h => h

variable [DecidableEq K]

theorem moves_loadOne (link : MessageLink e) (message : Message e)
    {post : Message e → Store K → Prop} (hr : ∀ l t s, link = .reference l → post (l.set t message) s)
    (hc : ∀ l ts s, link = .children l → post (l.set ts message) s)
    (hj : ∀ l ts s, link = .joined l → post (l.set ts message) s) :
    Moves Eq (loadOne hooks row message link) world post := by
  cases link with
  | reference link =>
    rw [Operations.loadOne]
    split
    · exact Moves.pure (hr link none _ rfl)
    · refine (Moves.ask _).bind fun found _ _ _ => ?_
      refine (Moves.optionMapM fun r _ => moves_toMessage quiet link.target r).bind fun t _ _ _ => ?_
      exact Moves.pure (hr link t _ rfl)
  | children link =>
    refine (Moves.ask _).bind fun rows _ _ _ => ?_
    exact (moves_toMessages quiet rows).bind fun ts _ _ _ => Moves.pure (hc link ts _ rfl)
  | joined link =>
    refine (Moves.ask _).bind fun rows _ _ _ => ?_
    exact (moves_toMessages quiet rows).bind fun ts _ _ _ => Moves.pure (hj link ts _ rfl)

theorem moves_respond : Moves Eq (respond hooks e row) world fun _ _ => True := by
  unfold respond
  refine (moves_toMessage quiet e row).bind fun message _ _ _ => Moves.foldlM ?_ trivial
  intro link _ m _ _ _
  exact moves_loadOne quiet link m (fun _ _ _ _ => trivial) (fun _ _ _ _ => trivial)
    fun _ _ _ _ => trivial

end

/-! ## Arguments -/

theorem moves_required {α : Type} (input : Option α) :
    Moves Eq (required input : Action K σ α) world fun a _ => a ∈ input := by
  cases input with
  | none => exact Moves.throw _
  | some a => exact Moves.pure rfl

theorem moves_requireKey (row : Record e) :
    Moves Eq (requireKey e row : Action K σ Unit) world fun _ _ => True := by
  rw [requireKey]
  split
  · exact Moves.throw _
  · exact Moves.pure trivial

/-! ## Operations that only read -/

section

variable [DecidableEq K] {hooks : Hooks E σ} (quiet : hooks.Quiet)
include quiet

theorem moves_read {input : Option (Message e)} {fields : Option (List String)} :
    Moves Eq (Operations.read hooks e input fields) world fun _ _ => True := by
  unfold Operations.read
  refine (moves_required input).bind fun message _ _ _ => ?_
  refine (moves_toRecord quiet e message).bind fun row _ _ _ => ?_
  refine (moves_requireKey row).bind fun _ _ _ _ => ?_
  refine (Moves.hook quiet _ _).bind fun query _ _ _ => ?_
  refine (Moves.hook quiet _ _).bind fun query _ _ _ => ?_
  refine (Moves.ask _).bind fun found _ _ _ => ?_
  cases found with
  | none => exact Moves.throw _
  | some found => exact (Moves.hook quiet _ _).bind fun _ _ _ _ => moves_respond quiet

theorem moves_list {operators : Operators} :
    Moves Eq (Operations.list hooks e operators) world fun _ _ => True := by
  rw [Operations.list]
  refine (Moves.hook quiet _ _).bind fun query _ _ _ => ?_
  refine (Moves.hook quiet _ _).bind fun query' _ _ _ => ?_
  refine (Moves.ask _).bind fun rows _ _ _ => ?_
  refine (Moves.hook quiet _ _).bind fun rows' _ _ _ => ?_
  exact (Moves.mapM (fun row _ _ _ => moves_respond quiet) fun _ _ _ _ _ h => h).mono
    fun _ _ _ _ => trivial

end

/-! ## Without hooks -/

section

variable {α : Type}

theorem hook_none (point : HookPoint (Message e) (Record e) α) (subject : α) :
    Action.hook ((Hooks.none : Hooks E Unit).call e point subject) =
      (pure subject : Action K Unit α) := rfl

theorem toRecord_none (message : Message e) :
    toRecord Hooks.none e message =
      .ofExcept (Bindings.fillRecord e message (Bindings.blankRecord e)) := by
  simp only [toRecord, hook_none, pure_bind, bind_pure]

theorem toMessage_none (row : Record e) :
    toMessage Hooks.none e row = .ofExcept (Bindings.fillMessage e row (Bindings.blank e)) := by
  simp only [toMessage, hook_none, pure_bind, bind_pure]

end

end Operations

end ProtoStore.Domain
