import ProtoStore.Proofs.Domain.Course
import ProtoStore.Proofs.Domain.Run
import ProtoStore.Proofs.Store.Lasting

/-!
# Operations in contexts that may end

A context may end between any two calls of an operation, and what the operation has stored until then stays.

* `Action.Yields act s result t` : in every context that lasts long enough `act` answers `result` and leaves
  `t`; in one that ends it does so, too, or answers that it is cancelled;
* `Action.Interruptible act` : from every store `act` yields one result. This goes through sequences
  (`Interruptible.bind`) and loops, so it holds of all operations without hooks (`interruptible_create` to
  `interruptible_list`, `Call.interruptible`);
* `Interruptible.of_ok`, `Interruptible.of_error` : what is answered in some context, but for a cancellation,
  is what is answered in one that has no end. So an operation that succeeds takes its course whatever its
  context is (`exists_update`, `exists_creation`, `exists_patch`).
-/

namespace ProtoStore.Domain

open Store

variable {K α β : Type} [Catalog K]

namespace Action

/-- What an action answers and leaves, unless its context ends. -/
def Yields (act : Action K Unit α) (s : Store K) (result : Except Failure α) (t : Store K) : Prop :=
  ∃ moments, ∀ context : Context,
    act ⟨s, context, ()⟩ = (result, ⟨t, context.after moments, ()⟩) ∨
      ¬ context.Lasts moments ∧ (act ⟨s, context, ()⟩).1 = .error .cancelled

/-- A context decides how far an action gets, and nothing else. -/
def Interruptible (act : Action K Unit α) : Prop := ∀ s, ∃ result t, act.Yields s result t

variable {act : Action K Unit α} {s t u : Store K} {result : Except Failure α}

namespace Yields

/-- A context without an end never ends. -/
theorem unlimited (h : act.Yields s result t) : act ⟨s, .unlimited, ()⟩ = (result, ⟨t, .unlimited, ()⟩) := by
  obtain ⟨moments, yields⟩ := h
  rcases yields .unlimited with done | ⟨ends, -⟩
  · exact done
  · exact absurd (Context.lasts_unlimited moments) ends

theorem of_eq (h : ∀ context, act ⟨s, context, ()⟩ = (result, ⟨t, context, ()⟩)) : act.Yields s result t :=
  ⟨0, fun context => Or.inl (by rw [h, Context.after_zero])⟩

theorem bind_error {failure : Failure} {f : α → Action K Unit β} (h : act.Yields s (.error failure) t) :
    (act >>= f).Yields s (.error failure) t := by
  obtain ⟨moments, yields⟩ := h
  refine ⟨moments, fun context => ?_⟩
  rw [bind_apply]
  rcases yields context with done | ⟨ends, cancelled⟩
  · exact Or.inl (by rw [done])
  · refine Or.inr ⟨ends, ?_⟩
    rcases stopped : act ⟨s, context, ()⟩ with ⟨_ | _, _⟩ <;> rw [stopped] at cancelled <;> cases cancelled
    rfl

theorem bind_ok {a : α} {f : α → Action K Unit β} {last : Except Failure β} (h : act.Yields s (.ok a) t)
    (hf : (f a).Yields t last u) : (act >>= f).Yields s last u := by
  obtain ⟨moments, yields⟩ := h
  obtain ⟨more, yields'⟩ := hf
  refine ⟨moments + more, fun context => ?_⟩
  rw [bind_apply]
  rcases yields context with done | ⟨ends, cancelled⟩
  · rw [done]
    rcases yields' (context.after moments) with done | ⟨ends, cancelled⟩
    · exact Or.inl (by dsimp only; rw [done, Context.after_after])
    · exact Or.inr ⟨fun lasts => ends lasts.of_add, cancelled⟩
  · refine Or.inr ⟨fun lasts => ends (lasts.of_le (Nat.le_add_right moments more)), ?_⟩
    rcases stopped : act ⟨s, context, ()⟩ with ⟨_ | _, _⟩ <;> rw [stopped] at cancelled <;> cases cancelled
    rfl

end Yields

namespace Interruptible

theorem yields (h : act.Interruptible) (s : Store K) :
    act.Yields s (act ⟨s, .unlimited, ()⟩).1 (act ⟨s, .unlimited, ()⟩).2.store := by
  obtain ⟨result, t, yields⟩ := h s
  rw [yields.unlimited]
  exact yields

theorem yields_of_eq (h : act.Interruptible) (done : act ⟨s, .unlimited, ()⟩ = (result, ⟨t, .unlimited, ()⟩)) :
    act.Yields s result t := by
  have yields := h.yields s
  rwa [done] at yields

variable {context : Context} {last : World K Unit}

/-- What is answered in some context is answered in one without an end, unless it is that this one ended. -/
theorem of_answer (h : act.Interruptible) (done : act ⟨s, context, ()⟩ = (result, last))
    (answered : result ≠ .error .cancelled) : act.Yields s result last.store := by
  obtain ⟨result', t, moments, yields⟩ := h s
  rcases yields context with same | ⟨-, cancelled⟩
  · rw [done, Prod.mk.injEq] at same
    obtain ⟨rfl, rfl⟩ := same
    exact ⟨moments, yields⟩
  · rw [done] at cancelled
    exact absurd cancelled answered

theorem of_ok {a : α} (h : act.Interruptible) (done : act ⟨s, context, ()⟩ = (.ok a, last)) :
    act ⟨s, .unlimited, ()⟩ = (.ok a, ⟨last.store, .unlimited, ()⟩) :=
  (h.of_answer done nofun).unlimited

theorem of_error {failure : Failure} (h : act.Interruptible)
    (done : act ⟨s, context, ()⟩ = (.error failure, last)) (answered : failure ≠ .cancelled) :
    act ⟨s, .unlimited, ()⟩ = (.error failure, ⟨last.store, .unlimited, ()⟩) :=
  (h.of_answer done fun e => answered (Except.error.inj e)).unlimited

/-! ## Sequences and loops -/

theorem of_eq (h : ∀ s, ∃ result, ∀ context, act ⟨s, context, ()⟩ = (result, ⟨s, context, ()⟩)) :
    act.Interruptible :=
  fun s => (h s).imp fun _ same => ⟨s, .of_eq same⟩

theorem pure (a : α) : (Pure.pure a : Action K Unit α).Interruptible := of_eq fun _ => ⟨_, fun _ => rfl⟩

theorem throw (failure : Failure) : (MonadExcept.throw failure : Action K Unit α).Interruptible :=
  of_eq fun _ => ⟨_, fun _ => rfl⟩

theorem ofExcept (result : Except Failure α) : (Action.ofExcept result : Action K Unit α).Interruptible :=
  of_eq fun _ => ⟨_, fun _ => rfl⟩

theorem ask {moments : Nat} {question : Context → Store K → Except Failure α}
    (h : ∀ s, Stoppable moments (· = .error .cancelled) fun context => question context s) :
    (Action.ask moments question).Interruptible := by
  refine fun s => ⟨question .unlimited s, s, moments, fun context => ?_⟩
  exact (h s context).imp (congrArg fun answer => (answer, (⟨s, context.after moments, ()⟩ : World K Unit))) id

theorem write {moments : Nat} {call : Context → Store K → Writing K α}
    (h : ∀ s, Stoppable moments (·.result = .error .cancelled) fun context => call context s) :
    (Action.write moments call).Interruptible := by
  refine fun s => ⟨(call .unlimited s).result.map fun _ => (call .unlimited s).written,
    (call .unlimited s).store, moments, fun context => ?_⟩
  rcases h s context with same | ⟨ends, cancelled⟩
  · exact Or.inl (congrArg (fun writing : Writing K α => (writing.result.map fun _ => writing.written,
      (⟨writing.store, context.after moments, ()⟩ : World K Unit))) same)
  · exact Or.inr ⟨ends, congrArg (Except.map fun _ => (call context s).written) cancelled⟩

theorem remove {call : Context → Store K → Except Failure (Store K × Nat)}
    (h : ∀ s, Stoppable 1 (· = .error .cancelled) fun context => call context s) :
    (Action.remove call).Interruptible := by
  intro s
  have stops (context : Context) : call context s = call .unlimited s ∨
      ¬ context.Lasts 1 ∧ call context s = .error .cancelled := h s context
  cases calls : call .unlimited s with
  | error failure =>
    refine ⟨.error failure, s, 1, fun context => ?_⟩
    rcases stops context with same | ⟨ends, cancelled⟩
    · exact Or.inl (by simp only [Action.remove, same, calls]; rfl)
    · exact Or.inr ⟨ends, by simp only [Action.remove, cancelled]⟩
  | ok answer =>
    refine ⟨.ok (), answer.1, 1, fun context => ?_⟩
    rcases stops context with same | ⟨ends, cancelled⟩
    · exact Or.inl (by simp only [Action.remove, same, calls]; rfl)
    · exact Or.inr ⟨ends, by simp only [Action.remove, cancelled]⟩

theorem bind {f : α → Action K Unit β} (h : act.Interruptible) (hf : ∀ a, (f a).Interruptible) :
    (act >>= f).Interruptible := by
  intro s
  obtain ⟨failure | a, t, yields⟩ := h s
  · exact ⟨.error failure, t, yields.bind_error⟩
  · obtain ⟨last, u, yields'⟩ := hf a t
    exact ⟨last, u, yields.bind_ok yields'⟩

theorem map {f : α → β} (h : act.Interruptible) : (f <$> act).Interruptible := by
  rw [map_eq_pure_bind]
  exact h.bind fun a => pure (f a)

theorem optionMapM {f : β → Action K Unit α} (hf : ∀ b, (f b).Interruptible) (x : Option β) :
    (x.mapM f).Interruptible := by
  cases x with
  | none => exact pure none
  | some b => exact (hf b).map

theorem mapM {f : β → Action K Unit α} (hf : ∀ b, (f b).Interruptible) (xs : List β) :
    (xs.mapM f).Interruptible := by
  induction xs with
  | nil => exact pure []
  | cons x xs ih =>
    rw [List.mapM_cons]
    exact (hf x).bind fun a => ih.bind fun as => pure (a :: as)

theorem forM {f : β → Action K Unit Unit} (hf : ∀ b, (f b).Interruptible) (xs : List β) :
    (xs.forM f).Interruptible := by
  induction xs with
  | nil => exact pure ()
  | cons x xs ih =>
    show (f x >>= fun _ => xs.forM f).Interruptible
    exact (hf x).bind fun _ => ih

theorem foldlM {f : α → β → Action K Unit α} (hf : ∀ a b, (f a b).Interruptible) (xs : List β) (a : α) :
    (xs.foldlM f a).Interruptible := by
  induction xs generalizing a with
  | nil => exact pure a
  | cons x xs ih =>
    rw [List.foldlM_cons]
    exact (hf a x).bind ih

end Interruptible

end Action

/-! ## Operations -/

namespace Operations

open Domain.Action

variable {E : Type} [Bindings E K] {e : E}

theorem interruptible_required (input : Option α) : (required input : Action K Unit α).Interruptible := by
  cases input with
  | none => exact .throw _
  | some a => exact .pure a

theorem interruptible_requireKey (row : Record e) : (requireKey e row : Action K Unit Unit).Interruptible := by
  unfold requireKey
  split
  · exact .throw _
  · exact .pure ()

theorem interruptible_toRecord (message : Message e) : (toRecord Hooks.none e message).Interruptible := by
  rw [toRecord_none]
  exact .ofExcept _

theorem interruptible_toMessage (row : Record e) : (toMessage Hooks.none e row).Interruptible := by
  rw [toMessage_none]
  exact .ofExcept _

theorem interruptible_collect (message : Message e) : (collect Hooks.none e message).Interruptible := by
  refine .mapM (fun link => ?_) _
  cases link with
  | reference link => exact (Interruptible.optionMapM interruptible_toRecord _).bind fun _ => .pure _
  | children link => exact (Interruptible.mapM interruptible_toRecord _).bind fun _ => .pure _
  | joined link => exact (Interruptible.mapM interruptible_toRecord _).bind fun _ => .pure _

variable [DecidableEq K]

/-! ### Their parts -/

theorem interruptible_lockRow (row : Record e) : (lockRow e row : Action K Unit _).Interruptible := by
  unfold lockRow
  split
  · exact (Interruptible.ask fun s => stoppable_count s _ _).bind fun _ => .pure _
  · refine (Interruptible.ask fun s => stoppable_first s _ _).bind fun found => ?_
    cases found <;> exact .pure _

theorem interruptible_prepare (pending : List (Pending e)) (row : Record e) :
    (prepare pending row : Action K Unit _).Interruptible := by
  refine .foldlM (fun row p => ?_) pending row
  cases p with
  | reference link target =>
    cases target with
    | none => exact .pure _
    | some target => exact (Interruptible.write fun s => stoppable_save s _ target).bind fun _ => .pure _
  | children link rows => exact .pure _
  | joined link rows => exact .pure _

theorem interruptible_prune (pending : List (Pending e)) (row : Record e) :
    (prune pending row : Action K Unit _).Interruptible := by
  unfold prune
  split
  · exact .pure ()
  refine .forM (fun p => ?_) pending
  cases p with
  | reference link target => exact .pure ()
  | children link rows => exact .remove fun s => stoppable_deleteSome s _ _
  | joined link rows => exact .remove fun s => stoppable_deleteSome s _ _

theorem interruptible_saveCollections (pending : List (Pending e)) (row : Record e) :
    (saveCollections pending row : Action K Unit _).Interruptible := by
  refine .forM (fun p => ?_) pending
  cases p with
  | reference link target => exact .pure ()
  | children link rows =>
    exact (Interruptible.write fun s => stoppable_saveChildren rows).bind fun _ => .pure ()
  | joined link rows =>
    exact (Interruptible.write fun s => stoppable_saveLinks rows).bind fun _ => .pure ()

theorem interruptible_loadOne (row : Record e) (message : Message e) (link : MessageLink e) :
    (Operations.loadOne Hooks.none row message link).Interruptible := by
  cases link with
  | reference link =>
    rw [Operations.loadOne]
    split
    · exact .pure _
    · refine (Interruptible.ask fun s => stoppable_first s _ _).bind fun found => ?_
      exact (Interruptible.optionMapM interruptible_toMessage found).bind fun _ => .pure _
  | children link =>
    refine (Interruptible.ask fun s => stoppable_find s _ _).bind fun rows => ?_
    exact (Interruptible.mapM interruptible_toMessage rows).bind fun _ => .pure _
  | joined link =>
    refine (Interruptible.ask fun s => stoppable_loadLinked).bind fun rows => ?_
    exact (Interruptible.mapM interruptible_toMessage rows).bind fun _ => .pure _

theorem interruptible_respond (row : Record e) : (respond Hooks.none e row).Interruptible :=
  (interruptible_toMessage row).bind fun message =>
    .foldlM (fun message link => interruptible_loadOne row message link) _ message

/-! ### The operations themselves -/

theorem interruptible_create (input : Option (Message e)) :
    (Operations.create Hooks.none e input).Interruptible := by
  unfold Operations.create
  simp only [hook_none, pure_bind]
  refine (interruptible_required input).bind fun message => ?_
  refine (interruptible_toRecord message).bind fun row => ?_
  refine (interruptible_collect message).bind fun pending => ?_
  refine (interruptible_prepare pending row).bind fun row => ?_
  refine (Interruptible.write fun s => stoppable_create s _ row).bind fun written => ?_
  exact (interruptible_saveCollections pending written).bind fun _ => interruptible_respond written

theorem interruptible_read (input : Option (Message e)) (fields : Option (List String)) :
    (Operations.read Hooks.none e input fields).Interruptible := by
  unfold Operations.read
  simp only [hook_none, pure_bind]
  refine (interruptible_required input).bind fun message => ?_
  refine (interruptible_toRecord message).bind fun row => ?_
  refine (interruptible_requireKey row).bind fun _ => ?_
  refine (Interruptible.ask fun s => stoppable_first s _ _).bind fun found => ?_
  cases found with
  | none => exact .throw _
  | some found => exact interruptible_respond found

theorem interruptible_strictUpdate (input : Option (Message e)) :
    (strictUpdate Hooks.none e input).Interruptible := by
  unfold strictUpdate
  simp only [hook_none, pure_bind]
  refine (interruptible_required input).bind fun message => ?_
  refine (interruptible_toRecord message).bind fun row => ?_
  refine (interruptible_collect message).bind fun pending => ?_
  refine (interruptible_lockRow row).bind fun locked => ?_
  refine (interruptible_prepare pending _).bind fun row => ?_
  refine (interruptible_prune pending row).bind fun _ => ?_
  refine (Interruptible.write fun s => stoppable_save s _ row).bind fun written => ?_
  refine (interruptible_saveCollections pending written).bind fun _ => ?_
  exact (interruptible_respond written).bind fun _ => .pure _

theorem interruptible_patch (input : Option (Message e)) (mask : List String) :
    (patch Hooks.none e input mask).Interruptible := by
  unfold patch
  simp only [hook_none, pure_bind]
  refine (interruptible_required input).bind fun message => ?_
  refine (interruptible_read _ none).bind fun current => ?_
  exact (interruptible_strictUpdate _).bind fun _ => .pure _

theorem interruptible_patchSet (input : Option (List (Message e))) (masks : List (List String)) :
    (patchSet Hooks.none e input masks).Interruptible := by
  unfold patchSet
  refine (interruptible_required input).bind fun messages => ?_
  have patches := Interruptible.mapM
    (fun x : Message e × List String => interruptible_patch (some x.1) x.2) (messages.zip masks)
  split
  · exact (Interruptible.throw _).bind fun _ => patches
  · exact patches

theorem interruptible_delete (input : Option (Message e)) :
    (Operations.delete Hooks.none e input).Interruptible := by
  unfold Operations.delete
  simp only [hook_none, pure_bind]
  refine (interruptible_required input).bind fun message => ?_
  refine (interruptible_toRecord message).bind fun row => ?_
  refine (interruptible_requireKey row).bind fun _ => ?_
  exact (Interruptible.remove fun s => stoppable_delete s _ _).bind fun _ => .pure _

theorem interruptible_deleteSet (input : Option (List (Message e))) :
    (deleteSet Hooks.none e input).Interruptible := by
  have interruptible_requiredKey (message : Message e) : (requiredKey Hooks.none e message).Interruptible :=
    (interruptible_toRecord message).bind fun row => (interruptible_requireKey row).bind fun _ => .pure _
  unfold deleteSet
  simp only [hook_none, pure_bind]
  refine (interruptible_required input).bind fun messages => ?_
  refine (Interruptible.mapM interruptible_requiredKey messages).bind fun keys => ?_
  exact (Interruptible.remove fun s => stoppable_delete s _ _).bind fun _ => .pure _

theorem interruptible_list (operators : Operators) : (Operations.list Hooks.none e operators).Interruptible := by
  unfold Operations.list
  simp only [hook_none, pure_bind]
  exact (Interruptible.ask fun s => stoppable_find s _ _).bind fun rows =>
    .mapM interruptible_respond rows

/-! ### Courses -/

variable {s : Store K} {context : Context} {message value : Message e} {last : World K Unit}

theorem exists_update {upserted : Upserted (Message e)}
    (h : strictUpdate Hooks.none e (some message) ⟨s, context, ()⟩ = (.ok upserted, last)) :
    Nonempty (Update .unlimited e message s last.store upserted) := by
  obtain ⟨t, same, update⟩ := strictUpdate_ok.mp ((interruptible_strictUpdate (some message)).of_ok h)
  obtain rfl : last.store = t := congrArg World.store same
  exact update

theorem exists_creation (h : Operations.create Hooks.none e (some message) ⟨s, context, ()⟩ = (.ok value, last)) :
    Nonempty (Creation .unlimited e message s last.store value) := by
  obtain ⟨t, same, creation⟩ := create_ok.mp ((interruptible_create (some message)).of_ok h)
  obtain rfl : last.store = t := congrArg World.store same
  exact creation

/-- A reading that succeeds leaves the store as it is. -/
theorem reads_of_read {fields : Option (List String)}
    (h : Operations.read Hooks.none e (some message) fields ⟨s, context, ()⟩ = (.ok value, last)) :
    Reads .unlimited s e message fields value ∧ last.store = s := by
  have answers : (Operations.read Hooks.none e (some message) fields).Answers ⟨s, .unlimited, ()⟩
      (Reads .unlimited s e message fields) := read_answers fields
  obtain ⟨reads, same⟩ := (answers value _).mp ((interruptible_read (some message) fields).of_ok h)
  exact ⟨reads, congrArg World.store same.symm⟩

/-- A patch that succeeds updates what it has read. -/
theorem exists_patch {mask : List String}
    (h : patch Hooks.none e (some message) mask ⟨s, context, ()⟩ = (.ok value, last)) :
    ∃ current created,
      (Operations.read Hooks.none e (some (Bindings.keyOnly e message)) none ⟨s, context, ()⟩).1 = .ok current ∧
      Reads .unlimited s e (Bindings.keyOnly e message) none current ∧
      Nonempty (Update .unlimited e (Mask.apply (Bindings.maskFields e) mask "" message current) s last.store
        ⟨value, created⟩) := by
  simp only [patch, required, hook_none, pure_bind, Action.bind_ok, pure_ok] at h
  obtain ⟨current, ⟨t, later, ⟨⟩⟩, read, ⟨_, created⟩, after, update, rfl, rfl⟩ := h
  obtain ⟨reads, rfl⟩ := reads_of_read read
  exact ⟨current, created, congrArg Prod.fst read, reads, exists_update update⟩

end Operations

/-- Without hooks a call does in every context what it does in one without an end, unless its own ends. -/
theorem Call.interruptible [DecidableEq K] {E : Type} [Bindings E K] (call : Call E) :
    (call.act Hooks.none).Interruptible := by
  cases call with
  | create e input => exact (Operations.interruptible_create input).map
  | read e input fields => exact (Operations.interruptible_read input fields).map
  | strictUpdate e input => exact (Operations.interruptible_strictUpdate input).map
  | patch e input mask => exact (Operations.interruptible_patch input mask).map
  | patchSet e input masks => exact (Operations.interruptible_patchSet input masks).map
  | delete e input => exact Operations.interruptible_delete input
  | deleteSet e input => exact Operations.interruptible_deleteSet input
  | list e operators => exact (Operations.interruptible_list operators).map

end ProtoStore.Domain
