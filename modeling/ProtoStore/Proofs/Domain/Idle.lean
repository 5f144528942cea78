import ProtoStore.Proofs.Domain.Run
import ProtoStore.Proofs.Domain.Success
import ProtoStore.Proofs.Store.Failing

/-!
# Actions that leave the world as it is

`Action.Idle act world` : whether `act` succeeds or fails in `world`, the world stays as it is. Without
hooks and in a timeless context this is so of

* conversions, locking and loading (`idle_toRecord` to `idle_respond`), and so of the operations that only
  read (`idle_read`, `idle_list`);
* every operation if the context is over (`Call.idle_of_over`).
-/

namespace ProtoStore.Domain

open Store

variable {K σ α β : Type} [Catalog K]

namespace Action

/-- An action leaves the world as it is. -/
def Idle (act : Action K σ α) (world : World K σ) : Prop := (act world).2 = world

namespace Idle

variable {act : Action K σ α} {world : World K σ}

theorem pure (a : α) : (Pure.pure a : Action K σ α).Idle world := rfl

theorem throw (failure : Failure) : (MonadExcept.throw failure : Action K σ α).Idle world := rfl

theorem ofExcept (result : Except Failure α) : (Action.ofExcept result).Idle world := rfl

theorem ask [world.context.Timeless] {moments : Nat} (question : Context → Store K → Except Failure α) :
    (Action.ask moments question).Idle world :=
  world.after_timeless moments

theorem write [world.context.Timeless] {moments : Nat} {call : Context → Store K → Writing K α}
    (h : (call world.context world.store).store = world.store) : (Action.write moments call).Idle world := by
  show { world.after moments with store := (call world.context world.store).store } = world
  rw [h, world.after_timeless]

theorem remove [world.context.Timeless] {call : Context → Store K → Except Failure (Store K × Nat)}
    (h : ∀ store n, call world.context world.store = .ok (store, n) → store = world.store) :
    (Action.remove call).Idle world := by
  unfold Idle Action.remove
  rw [world.after_timeless]
  split
  · rfl
  · next store n removed => rw [h store n removed]

theorem bind {f : α → Action K σ β} (h : act.Idle world) (hf : ∀ a, (f a).Idle world) :
    (act >>= f).Idle world := by
  unfold Idle at *
  rw [bind_apply]
  rcases done : act world with ⟨_ | a, after⟩
  · rwa [done] at h
  · rw [done] at h
    obtain rfl : after = world := h
    exact hf a

theorem map {f : α → β} (h : act.Idle world) : (f <$> act).Idle world := by
  rw [map_eq_pure_bind]
  exact h.bind fun a => pure (f a)

/-! ## Loops -/

theorem optionMapM {f : β → Action K σ α} (hf : ∀ b, (f b).Idle world) (x : Option β) :
    (x.mapM f).Idle world := by
  cases x with
  | none => exact pure none
  | some b => exact (hf b).map

theorem mapM {f : β → Action K σ α} (hf : ∀ b, (f b).Idle world) (xs : List β) :
    (xs.mapM f).Idle world := by
  induction xs with
  | nil => exact pure []
  | cons x xs ih =>
    rw [List.mapM_cons]
    exact (hf x).bind fun a => ih.bind fun as => pure (a :: as)

theorem forM {f : β → Action K σ Unit} (hf : ∀ b, (f b).Idle world) (xs : List β) :
    (xs.forM f).Idle world := by
  induction xs with
  | nil => exact pure ()
  | cons x xs ih =>
    show (f x >>= fun _ => xs.forM f).Idle world
    exact (hf x).bind fun _ => ih

theorem foldlM {f : α → β → Action K σ α} (hf : ∀ a b, (f a b).Idle world) (xs : List β) (a : α) :
    (xs.foldlM f a).Idle world := by
  induction xs generalizing a with
  | nil => exact pure a
  | cons x xs ih =>
    rw [List.foldlM_cons]
    exact (hf a x).bind ih

end Idle

end Action

namespace Operations

open Domain.Action

variable {E : Type} [Bindings E K] {world : World K Unit} {e : E}

/-! ## Reading -/

theorem idle_required {w : World K σ} (input : Option α) : (required input : Action K σ α).Idle w := by
  cases input <;> rfl

theorem idle_requireKey {w : World K σ} (row : Record e) : (requireKey e row : Action K σ Unit).Idle w := by
  unfold requireKey
  split <;> rfl

theorem idle_toRecord (message : Message e) : (toRecord Hooks.none e message).Idle world := by
  rw [toRecord_none]
  exact Idle.ofExcept _

theorem idle_toMessage (row : Record e) : (toMessage Hooks.none e row).Idle world := by
  rw [toMessage_none]
  exact Idle.ofExcept _

theorem idle_collect (message : Message e) : (collect Hooks.none e message).Idle world := by
  refine Idle.mapM (fun link => ?_) _
  cases link with
  | reference link => exact (Idle.optionMapM idle_toRecord _).bind fun _ => Idle.pure _
  | children link => exact (Idle.mapM idle_toRecord _).bind fun _ => Idle.pure _
  | joined link => exact (Idle.mapM idle_toRecord _).bind fun _ => Idle.pure _

theorem idle_requiredKey (message : Message e) : (requiredKey Hooks.none e message).Idle world :=
  (idle_toRecord message).bind fun row => (idle_requireKey row).bind fun _ => Idle.pure _

variable [DecidableEq K]

theorem idle_lockRow [world.context.Timeless] (row : Record e) : (lockRow e row : Action K Unit _).Idle world := by
  unfold lockRow
  split
  · exact (Idle.ask _).bind fun _ => Idle.pure _
  · exact (Idle.ask _).bind fun found => by cases found <;> exact Idle.pure _

theorem idle_loadOne [world.context.Timeless] (row : Record e) (message : Message e) (link : MessageLink e) :
    (Operations.loadOne Hooks.none row message link).Idle world := by
  cases link with
  | reference link =>
    rw [Operations.loadOne]
    split
    · exact Idle.pure _
    · refine (Idle.ask _).bind fun found => ?_
      exact (Idle.optionMapM idle_toMessage found).bind fun _ => Idle.pure _
  | children link =>
    refine (Idle.ask _).bind fun rows => ?_
    exact (Idle.mapM idle_toMessage rows).bind fun _ => Idle.pure _
  | joined link =>
    refine (Idle.ask _).bind fun rows => ?_
    exact (Idle.mapM idle_toMessage rows).bind fun _ => Idle.pure _

theorem idle_respond [world.context.Timeless] (row : Record e) : (respond Hooks.none e row).Idle world :=
  (idle_toMessage row).bind fun message => Idle.foldlM (fun m link => idle_loadOne row m link) _ message

theorem idle_read [world.context.Timeless] (input : Option (Message e)) (fields : Option (List String)) :
    (Operations.read Hooks.none e input fields).Idle world := by
  unfold Operations.read
  simp only [hook_none, pure_bind]
  refine (idle_required input).bind fun message => ?_
  refine (idle_toRecord message).bind fun row => ?_
  refine (idle_requireKey row).bind fun _ => ?_
  refine (Idle.ask _).bind fun found => ?_
  cases found with
  | none => exact Idle.throw _
  | some found => exact idle_respond found

theorem idle_list [world.context.Timeless] (operators : Operators) : (Operations.list Hooks.none e operators).Idle world := by
  unfold Operations.list
  simp only [hook_none, pure_bind]
  exact (Idle.ask _).bind fun rows => Idle.mapM idle_respond rows

/-! ## Contexts that are over -/

section

variable [world.context.Timeless] (ended : world.context.isOver = true) {row : Record e}
  {pending : List (Pending e)}
include ended

theorem idle_prepare : (prepare pending row : Action K Unit _).Idle world := by
  refine Idle.foldlM (fun row p => ?_) _ _
  cases p with
  | reference link target =>
    cases target with
    | none => exact Idle.pure _
    | some target =>
      exact (Idle.write (congrArg Writing.store (save_of_over ended))).bind fun _ => Idle.pure _
  | children link rows => exact Idle.pure _
  | joined link rows => exact Idle.pure _

theorem idle_prune : (prune pending row : Action K Unit _).Idle world := by
  unfold prune
  split
  · exact Idle.pure ()
  refine Idle.forM (fun p => ?_) _
  cases p with
  | reference link target => exact Idle.pure ()
  | children link rows => exact Idle.remove fun _ _ => eq_of_deleteSome_over ended
  | joined link rows => exact Idle.remove fun _ _ => eq_of_deleteSome_over ended

theorem idle_saveCollections : (saveCollections pending row : Action K Unit _).Idle world := by
  refine Idle.forM (fun p => ?_) _
  cases p with
  | reference link target => exact Idle.pure ()
  | children link rows =>
    exact (Idle.write (store_saveChildren_of_over ended)).bind fun _ => Idle.pure ()
  | joined link rows =>
    exact (Idle.write (store_saveLinks_of_over ended)).bind fun _ => Idle.pure ()

theorem idle_create (input : Option (Message e)) :
    (Operations.create Hooks.none e input).Idle world := by
  unfold Operations.create
  simp only [hook_none, pure_bind]
  refine (idle_required input).bind fun message => ?_
  refine (idle_toRecord message).bind fun row => ?_
  refine (idle_collect message).bind fun pending => ?_
  refine (idle_prepare ended).bind fun row => ?_
  refine (Idle.write (store_create_of_over ended)).bind fun written => ?_
  exact (idle_saveCollections ended).bind fun _ => idle_respond written

theorem idle_strictUpdate (input : Option (Message e)) :
    (strictUpdate Hooks.none e input).Idle world := by
  unfold strictUpdate
  simp only [hook_none, pure_bind]
  refine (idle_required input).bind fun message => ?_
  refine (idle_toRecord message).bind fun row => ?_
  refine (idle_collect message).bind fun pending => ?_
  refine (idle_lockRow row).bind fun locked => ?_
  refine (idle_prepare ended).bind fun row => ?_
  refine (idle_prune ended).bind fun _ => ?_
  refine (Idle.write (congrArg Writing.store (save_of_over ended))).bind fun written => ?_
  refine (idle_saveCollections ended).bind fun _ => ?_
  exact (idle_respond written).bind fun _ => Idle.pure _

theorem idle_patch (input : Option (Message e)) (mask : List String) :
    (patch Hooks.none e input mask).Idle world := by
  unfold patch
  simp only [hook_none, pure_bind]
  refine (idle_required input).bind fun message => ?_
  refine (idle_read _ none).bind fun current => ?_
  exact (idle_strictUpdate ended _).bind fun _ => Idle.pure _

theorem idle_patchSet (input : Option (List (Message e))) (masks : List (List String)) :
    (patchSet Hooks.none e input masks).Idle world := by
  unfold patchSet
  refine (idle_required input).bind fun messages => ?_
  have patches := Idle.mapM (fun x : Message e × List String => idle_patch ended (some x.1) x.2)
    (messages.zip masks)
  split
  · exact (Idle.throw _).bind fun _ => patches
  · exact patches

theorem idle_delete (input : Option (Message e)) : (Operations.delete Hooks.none e input).Idle world := by
  unfold Operations.delete
  simp only [hook_none, pure_bind]
  refine (idle_required input).bind fun message => ?_
  refine (idle_toRecord message).bind fun row => ?_
  refine (idle_requireKey row).bind fun _ => ?_
  refine Idle.bind (Idle.remove fun t n deleted => ?_) fun _ => Idle.pure _
  cases (delete_of_over ended).symm.trans deleted

theorem idle_deleteSet (input : Option (List (Message e))) :
    (deleteSet Hooks.none e input).Idle world := by
  unfold deleteSet
  simp only [hook_none, pure_bind]
  refine (idle_required input).bind fun messages => ?_
  refine (Idle.mapM idle_requiredKey messages).bind fun keys => ?_
  refine Idle.bind (Idle.remove fun t n deleted => ?_) fun _ => Idle.pure _
  cases (delete_of_over ended).symm.trans deleted

end

end Operations

/-- In a context that is over a call changes nothing. -/
theorem Call.idle_of_over {E : Type} [DecidableEq K] [Bindings E K] {world : World K Unit}
    (ended : world.context.isOver = true) (call : Call E) : (call.act Hooks.none).Idle world := by
  have := Context.timeless_of_over ended
  cases call with
  | create e input => exact (Operations.idle_create ended input).map
  | read e input fields => exact (Operations.idle_read input fields).map
  | strictUpdate e input => exact (Operations.idle_strictUpdate ended input).map
  | patch e input mask => exact (Operations.idle_patch ended input mask).map
  | patchSet e input masks => exact (Operations.idle_patchSet ended input masks).map
  | delete e input => exact Operations.idle_delete ended input
  | deleteSet e input => exact Operations.idle_deleteSet ended input
  | list e operators => exact (Operations.idle_list operators).map

end ProtoStore.Domain
