import ProtoStore.Proofs.Domain.Run

/-!
# Journals of hooks

`Hooks.journaled hooks` : hooks that act as `hooks` do, and also write down the points they are called
at and what they reject with there. That changes nothing but their notes (`Call.along_journaled`), so
that `Call.journal` tells of a call with any hooks which of them was the last to be called.

It is a case of `Action.Along f act other` : `act` does what `other` does, and the notes that `other`
leaves are those of `act` seen through `f`. Operations do the same with hooks that do the same.
-/

namespace ProtoStore.Domain

variable {K σ τ α β : Type} [Catalog K]

/-- A world whose notes are seen through a function. -/
def World.project (f : σ → τ) (world : World K σ) : World K τ :=
  ⟨world.store, world.context, f world.notes⟩

namespace Action

/-- An action does what another one does with part of its notes. -/
def Along (f : σ → τ) (act : Action K σ α) (other : Action K τ α) : Prop :=
  ∀ world, other (world.project f) = ((act world).1, (act world).2.project f)

namespace Along

variable {f : σ → τ} {act : Action K σ α} {other : Action K τ α}

theorem pure (a : α) : Along f (Pure.pure a : Action K σ α) (Pure.pure a) := fun _ => rfl

theorem throw (failure : Failure) :
    Along f (MonadExcept.throw failure : Action K σ α) (MonadExcept.throw failure) := fun _ => rfl

theorem ofExcept (result : Except Failure α) :
    Along f (Action.ofExcept result : Action K σ α) (Action.ofExcept result) := fun _ => rfl

theorem ask (moments : Nat) (question : Context → Store K → Except Failure α) :
    Along f (Action.ask moments question : Action K σ α) (Action.ask moments question) := fun _ => rfl

theorem write (moments : Nat) (call : Context → Store K → Writing K α) :
    Along f (Action.write moments call : Action K σ α) (Action.write moments call) := fun _ => rfl

theorem remove (call : Context → Store K → Except Failure (Store K × Nat)) :
    Along f (Action.remove call : Action K σ Unit) (Action.remove call) := by
  intro world
  unfold Action.remove World.project
  cases call world.context world.store <;> rfl

theorem bind {g : α → Action K σ β} {h : α → Action K τ β} (first : Along f act other)
    (rest : ∀ a, Along f (g a) (h a)) : Along f (act >>= g) (other >>= h) := by
  intro world
  rw [bind_apply, bind_apply, first world]
  rcases act world with ⟨_ | a, after⟩
  · rfl
  · exact rest a after

theorem map (g : α → β) (h : Along f act other) : Along f (g <$> act) (g <$> other) := by
  rw [map_eq_pure_bind, map_eq_pure_bind]
  exact h.bind fun a => pure (g a)

theorem of_eq {world after : World K σ} {result : Except Failure α} (h : Along f act other)
    (done : act world = (result, after)) : other (world.project f) = (result, after.project f) := by
  rw [h world, done]

/-! ## Loops -/

theorem optionMapM {g : β → Action K σ α} {h : β → Action K τ α} (each : ∀ b, Along f (g b) (h b))
    (x : Option β) : Along f (x.mapM g) (x.mapM h) := by
  cases x with
  | none => exact pure none
  | some b => exact (each b).map some

theorem mapM {g : β → Action K σ α} {h : β → Action K τ α} (each : ∀ b, Along f (g b) (h b))
    (xs : List β) : Along f (xs.mapM g) (xs.mapM h) := by
  induction xs with
  | nil => exact pure []
  | cons x xs ih =>
    rw [List.mapM_cons, List.mapM_cons]
    exact (each x).bind fun a => ih.bind fun as => pure (a :: as)

theorem forM {g : β → Action K σ Unit} {h : β → Action K τ Unit} (each : ∀ b, Along f (g b) (h b))
    (xs : List β) : Along f (xs.forM g) (xs.forM h) := by
  induction xs with
  | nil => exact pure ()
  | cons x xs ih =>
    show Along f (g x >>= fun _ => xs.forM g) (h x >>= fun _ => xs.forM h)
    exact (each x).bind fun _ => ih

theorem foldlM {g : α → β → Action K σ α} {h : α → β → Action K τ α}
    (each : ∀ a b, Along f (g a b) (h a b)) (xs : List β) (a : α) :
    Along f (xs.foldlM g a) (xs.foldlM h a) := by
  induction xs generalizing a with
  | nil => exact pure a
  | cons x xs ih =>
    rw [List.foldlM_cons, List.foldlM_cons]
    exact (each a x).bind ih

end Along

end Action

/-- Hooks do what others do with part of their notes. -/
def Hooks.Along {E : Type} [Entities E K] (f : σ → τ) (hooks : Hooks E σ) (others : Hooks E τ) : Prop :=
  ∀ {α : Type} (e : E) (point : HookPoint (Message e) (Record e) α) (subject : α) (context : Context)
    (notes : σ), others.call e point subject (context, f notes) =
      ((hooks.call e point subject (context, notes)).1,
        (hooks.call e point subject (context, notes)).2.map id f)

/-! ## Operations -/

namespace Operations

open Domain.Action

variable {E : Type} [DecidableEq K] [Bindings E K] {e : E} {f : σ → τ}

section

variable {hooks : Hooks E σ} {others : Hooks E τ} (along : hooks.Along f others)
include along

omit [DecidableEq K] in
theorem along_hook (point : HookPoint (Message e) (Record e) α) (subject : α) :
    Along f (.hook (hooks.call e point subject) : Action K σ α)
      (.hook (others.call e point subject)) := by
  intro world
  have same := along e point subject world.context world.notes
  unfold Action.hook World.project
  dsimp only
  rw [same]
  rfl

omit [DecidableEq K] in
theorem along_toRecord (message : Message e) :
    Along f (toRecord hooks e message) (toRecord others e message) :=
  (along_hook along _ _).bind fun _ => (Along.ofExcept _).bind fun _ => along_hook along _ _

omit [DecidableEq K] in
theorem along_toMessage (row : Record e) :
    Along f (toMessage hooks e row) (toMessage others e row) :=
  (along_hook along _ _).bind fun _ => (Along.ofExcept _).bind fun _ => along_hook along _ _

omit [DecidableEq K] in
theorem along_collect (message : Message e) :
    Along f (collect hooks e message) (collect others e message) := by
  refine Along.mapM (fun link => ?_) _
  cases link with
  | reference link => exact (Along.optionMapM (along_toRecord along) _).bind fun _ => Along.pure _
  | children link => exact (Along.mapM (along_toRecord along) _).bind fun _ => Along.pure _
  | joined link => exact (Along.mapM (along_toRecord along) _).bind fun _ => Along.pure _

theorem along_loadOne (row : Record e) (message : Message e) (link : MessageLink e) :
    Along f (Operations.loadOne hooks row message link) (Operations.loadOne others row message link) := by
  cases link with
  | reference link =>
    rw [Operations.loadOne, Operations.loadOne]
    split
    · exact Along.pure _
    · refine (Along.ask _ _).bind fun found => ?_
      exact (Along.optionMapM (along_toMessage along) found).bind fun _ => Along.pure _
  | children link =>
    refine (Along.ask _ _).bind fun rows => ?_
    exact (Along.mapM (along_toMessage along) rows).bind fun _ => Along.pure _
  | joined link =>
    refine (Along.ask _ _).bind fun rows => ?_
    exact (Along.mapM (along_toMessage along) rows).bind fun _ => Along.pure _

theorem along_respond (row : Record e) : Along f (respond hooks e row) (respond others e row) :=
  (along_toMessage along row).bind fun message =>
    Along.foldlM (fun message link => along_loadOne along row message link) _ message

end

/-! ### Parts without hooks -/

omit [DecidableEq K] in
theorem along_required (input : Option α) :
    Along f (required input : Action K σ α) (required input) := by
  cases input
  · exact Along.throw _
  · exact Along.pure _

omit [DecidableEq K] in
theorem along_requireKey (row : Record e) :
    Along f (requireKey e row : Action K σ Unit) (requireKey e row) := by
  unfold requireKey
  split
  · exact Along.throw _
  · exact Along.pure ()

theorem along_lockRow (row : Record e) : Along f (lockRow e row : Action K σ _) (lockRow e row) := by
  unfold lockRow
  split
  · exact (Along.ask _ _).bind fun _ => Along.pure _
  · refine (Along.ask _ _).bind fun found => ?_
    cases found <;> exact Along.pure _

/-! ### Reading -/

section

variable {hooks : Hooks E σ} {others : Hooks E τ} (along : hooks.Along f others)
include along

theorem along_read (input : Option (Message e)) (fields : Option (List String)) :
    Along f (Operations.read hooks e input fields) (Operations.read others e input fields) := by
  refine (along_required input).bind fun message => ?_
  refine (along_toRecord along message).bind fun row => ?_
  refine (along_requireKey row).bind fun _ => ?_
  refine (along_hook along _ _).bind fun query => ?_
  refine (along_hook along _ _).bind fun query => ?_
  refine (Along.ask _ _).bind fun found => ?_
  cases found with
  | none => exact Along.throw _
  | some found => exact (along_hook along _ _).bind fun found => along_respond along found

theorem along_list (operators : Operators) :
    Along f (Operations.list hooks e operators) (Operations.list others e operators) := by
  refine (along_hook along _ _).bind fun query => ?_
  refine (along_hook along _ _).bind fun query => ?_
  refine (Along.ask _ _).bind fun rows => ?_
  exact (along_hook along _ _).bind fun rows => Along.mapM (along_respond along) rows

omit [DecidableEq K] in
theorem along_requiredKey (message : Message e) :
    Along f (requiredKey hooks e message) (requiredKey others e message) :=
  (along_toRecord along message).bind fun row => (along_requireKey row).bind fun _ => Along.pure _

end

/-! ### Writing -/

section

variable (pending : List (Pending e)) (row : Record e)

theorem along_prepare : Along f (prepare pending row : Action K σ _) (prepare pending row) := by
  refine Along.foldlM (fun row p => ?_) _ _
  cases p with
  | reference link target =>
    cases target with
    | none => exact Along.pure _
    | some target => exact (Along.write _ _).bind fun _ => Along.pure _
  | children link rows => exact Along.pure _
  | joined link rows => exact Along.pure _

theorem along_prune : Along f (prune pending row : Action K σ _) (prune pending row) := by
  unfold prune
  split
  · exact Along.pure ()
  refine Along.forM (fun p => ?_) _
  unfold pruneOne
  cases p with
  | reference link target => exact Along.pure ()
  | children link rows => exact Along.remove _
  | joined link rows => exact Along.remove _

theorem along_saveCollections :
    Along f (saveCollections pending row : Action K σ _) (saveCollections pending row) := by
  refine Along.forM (fun p => ?_) _
  cases p with
  | reference link target => exact Along.pure ()
  | children link rows => exact (Along.write _ _).bind fun _ => Along.pure ()
  | joined link rows => exact (Along.write _ _).bind fun _ => Along.pure ()

end

section

variable {hooks : Hooks E σ} {others : Hooks E τ} (along : hooks.Along f others)
include along

theorem along_create (input : Option (Message e)) :
    Along f (Operations.create hooks e input) (Operations.create others e input) := by
  refine (along_required input).bind fun message => ?_
  refine (along_toRecord along message).bind fun row => ?_
  refine (along_collect along message).bind fun pending => ?_
  refine (along_hook along _ _).bind fun row => ?_
  refine (along_prepare pending row).bind fun row => ?_
  refine (Along.write _ _).bind fun row => ?_
  refine (along_saveCollections pending row).bind fun _ => ?_
  exact (along_hook along _ _).bind fun _ => along_respond along row

theorem along_strictUpdate (input : Option (Message e)) :
    Along f (strictUpdate hooks e input) (strictUpdate others e input) := by
  refine (along_required input).bind fun message => ?_
  refine (along_toRecord along message).bind fun row => ?_
  refine (along_collect along message).bind fun pending => ?_
  refine (along_lockRow row).bind fun locked => ?_
  refine (along_hook along _ _).bind fun row => ?_
  refine (along_prepare pending row).bind fun row => ?_
  refine (along_prune pending row).bind fun _ => ?_
  refine (along_hook along _ _).bind fun row => ?_
  refine (Along.write _ _).bind fun row => ?_
  refine (along_saveCollections pending row).bind fun _ => ?_
  refine (along_hook along _ _).bind fun _ => ?_
  exact (along_respond along row).bind fun value => Along.pure _

theorem along_patch (input : Option (Message e)) (mask : List String) :
    Along f (patch hooks e input mask) (patch others e input mask) := by
  refine (along_required input).bind fun message => ?_
  refine (along_hook along _ _).bind fun _ => ?_
  refine (along_read along _ none).bind fun current => ?_
  refine (along_hook along _ _).bind fun _ => ?_
  refine (along_hook along _ _).bind fun merged => ?_
  refine (along_strictUpdate along _).bind fun saved => ?_
  exact (along_hook along _ _).bind fun _ => Along.pure _

theorem along_patchSet (input : Option (List (Message e))) (masks : List (List String)) :
    Along f (patchSet hooks e input masks) (patchSet others e input masks) := by
  refine (along_required input).bind fun messages => ?_
  have patches := Along.mapM
    (fun x : Message e × List String => along_patch along (some x.1) x.2) (messages.zip masks)
  split
  · exact (Along.throw _).bind fun _ => patches
  · exact patches

theorem along_delete (input : Option (Message e)) :
    Along f (Operations.delete hooks e input) (Operations.delete others e input) := by
  refine (along_required input).bind fun message => ?_
  refine (along_toRecord along message).bind fun row => ?_
  refine (along_requireKey row).bind fun _ => ?_
  refine (along_hook along _ _).bind fun query => ?_
  exact (Along.remove _).bind fun _ => along_hook along _ _

theorem along_deleteSet (input : Option (List (Message e))) :
    Along f (deleteSet hooks e input) (deleteSet others e input) := by
  refine (along_required input).bind fun messages => ?_
  refine (Along.mapM (along_requiredKey along) messages).bind fun keys => ?_
  refine (along_hook along _ _).bind fun query => ?_
  exact (Along.remove _).bind fun _ => along_hook along _ _

theorem along_act (call : Call E) : Along f (call.act hooks) (call.act others) := by
  cases call with
  | create e input => exact (along_create along input).map _
  | read e input fields => exact (along_read along input fields).map _
  | strictUpdate e input => exact (along_strictUpdate along input).map _
  | patch e input mask => exact (along_patch along input mask).map _
  | patchSet e input masks => exact (along_patchSet along input masks).map _
  | delete e input => exact along_delete along input
  | deleteSet e input => exact along_deleteSet along input
  | list e operators => exact (along_list along operators).map _

end

end Operations

/-! ## Journals -/

/-- A point at which hooks were called, and what they rejected with there, if they did. -/
structure Heard where
  point : String
  rejection : Option String
deriving Repr, DecidableEq

/-- What is heard of a hook that answers. -/
def Heard.of (point : String) : Except String α → Heard
  | .error text => ⟨point, some text⟩
  | .ok _ => ⟨point, none⟩

section

variable {E : Type} [Entities E K] (hooks : Hooks E σ)

/-- Hooks that also write down where they are called. -/
def Hooks.journaled : Hooks E (σ × List Heard) where
  call e point subject := fun (context, notes, journal) =>
    let (result, context, notes) := hooks.call e point subject (context, notes)
    (result, context, notes, journal ++ [.of point.name result])

theorem hook_journaled {e : E} {world : World K (σ × List Heard)}
    (point : HookPoint (Message e) (Record e) α) (subject : α) :
    Action.hook (hooks.journaled.call e point subject) world =
      let answer := hooks.call e point subject (world.context, world.notes.1)
      (answer.1.mapError .hook, ⟨world.store, answer.2.1, answer.2.2,
        world.notes.2 ++ [.of point.name answer.1]⟩) := rfl

theorem Hooks.along_journaled : hooks.journaled.Along Prod.fst hooks := fun _ _ _ _ _ => rfl

theorem Hooks.Quiet.journaled {hooks : Hooks E σ} (quiet : hooks.Quiet) : hooks.journaled.Quiet :=
  fun e point subject (context, notes, _) a h => quiet e point subject (context, notes) a h

end

namespace Call

variable {E : Type} [DecidableEq K] [Bindings E K] (hooks : Hooks E σ) (world : World K σ)

/-- A world with a journal in which nothing is written yet. -/
def opened : World K (σ × List Heard) := ⟨world.store, world.context, (world.notes, [])⟩

/-- What is written down of a call. -/
def journal (call : Call E) : List Heard := (call.act hooks.journaled (opened world)).2.notes.2

/-- Writing down where hooks are called changes nothing else. -/
theorem along_journaled (call : Call E) : call.act hooks world =
    ((call.act hooks.journaled (opened world)).1,
      (call.act hooks.journaled (opened world)).2.project Prod.fst) :=
  Operations.along_act hooks.along_journaled call (opened world)

end Call

end ProtoStore.Domain
