import ProtoStore.Proofs.Domain.Invariant

/-!
# Runs

A `Call` is an operation with its arguments. A run makes calls one after the other, each in a context
of its own, which may end between any two calls of the store, and goes on after calls that fail.

* `moves_act` : what one call keeps;
* `inv_run` : what a run keeps.
-/

namespace ProtoStore.Domain

open Operations Store

variable {E K σ : Type} [DecidableEq K] [Catalog K] [Bindings E K]

/-- A call of an operation on the messages of a domain. -/
inductive Call (E : Type) {K : Type} [Catalog K] [Entities E K]
  | create (e : E) (input : Option (Message e))
  | read (e : E) (input : Option (Message e)) (fields : Option (List String))
  | strictUpdate (e : E) (input : Option (Message e))
  | patch (e : E) (input : Option (Message e)) (mask : List String)
  | patchSet (e : E) (input : Option (List (Message e))) (masks : List (List String))
  | delete (e : E) (input : Option (Message e))
  | deleteSet (e : E) (input : Option (List (Message e)))
  | list (e : E) (operators : Operators)

namespace Call

/-- Makes a call. Its answer is dropped. -/
def act (hooks : Hooks E σ) : Call E → Action K σ Unit
  | create e input => discard (Operations.create hooks e input)
  | read e input fields => discard (Operations.read hooks e input fields)
  | strictUpdate e input => discard (Operations.strictUpdate hooks e input)
  | patch e input mask => discard (Operations.patch hooks e input mask)
  | patchSet e input masks => discard (Operations.patchSet hooks e input masks)
  | delete e input => Operations.delete hooks e input
  | deleteSet e input => Operations.deleteSet hooks e input
  | list e operators => discard (Operations.list hooks e operators)

/-- The store that a call leaves, whether it succeeds or fails. -/
def after (store : Store K) (context : Context) (call : Call E) : Store K :=
  (call.act Hooks.none ⟨store, context, ()⟩).2.store

/-- The messages that a call stores. -/
def Writes (P : (e : E) → Message e → Prop) : Call E → Prop
  | create e input | strictUpdate e input | patch e input _ => ∀ m ∈ input, P e m
  | patchSet e input _ => ∀ ms ∈ input, ∀ m ∈ ms, P e m
  | read _ _ _ | delete _ _ | deleteSet _ _ | list _ _ => True

/-- The kinds of messages that a call deletes. -/
def Deletes (P : E → Prop) : Call E → Prop
  | delete e _ | deleteSet e _ => P e
  | create _ _ | read _ _ _ | strictUpdate _ _ | patch _ _ _ | patchSet _ _ _ | list _ _ => True

omit [DecidableEq K] in
theorem Writes.of_forall {P : (e : E) → Message e → Prop} (h : ∀ e m, P e m) (call : Call E) :
    call.Writes P := by
  cases call with
  | create e input | strictUpdate e input | patch e input mask => exact fun m _ => h e m
  | patchSet e input masks => exact fun _ _ m _ => h e m
  | read | delete | deleteSet | list => trivial

omit [DecidableEq K] in
theorem Deletes.mono {P Q : E → Prop} (h : ∀ e, P e → Q e) {call : Call E} (hc : call.Deletes P) :
    call.Deletes Q := by
  cases call with
  | delete e input | deleteSet e input => exact h e hc
  | create | read | strictUpdate | patch | patchSet | list => trivial

end Call

/-- The store that calls leave, each made in its context. -/
def run (store : Store K) (calls : List (Context × Call E)) : Store K :=
  calls.foldl (fun store call => call.2.after store call.1) store

namespace Discipline

variable [ExactKeys K] {D : Discipline E} {call : Call E}

omit [ExactKeys K] in
theorem moves_discard {α : Type} {act : Action K σ α} {world : World K σ}
    (h : Moves D.Goes act world fun _ _ => True) :
    Moves D.Goes (discard act) world fun _ _ => True :=
  h.map.mono fun _ _ _ _ => trivial

theorem moves_act {hooks : Hooks E σ} (quiet : hooks.Quiet) {world : World K σ}
    (hw : call.Writes D.admits) (hd : call.Deletes fun e => D.yields (table e))
    (inv : D.Inv world.store) : Moves D.Goes (call.act hooks) world fun _ _ => True := by
  cases call with
  | create e input => exact moves_discard (moves_create quiet hw inv)
  | read e input fields => exact moves_discard (Moves.of_eq (moves_read quiet))
  | strictUpdate e input => exact moves_discard (moves_strictUpdate quiet hw inv)
  | patch e input mask => exact moves_discard (moves_patch quiet hw inv)
  | patchSet e input masks => exact moves_discard (moves_patchSet quiet hw inv)
  | delete e input => exact moves_delete quiet hd
  | deleteSet e input => exact moves_deleteSet quiet hd
  | list e operators => exact moves_discard (Moves.of_eq (moves_list quiet))

theorem inv_run {s : Store K} {calls : List (Context × Call E)}
    (hw : ∀ call ∈ calls, call.2.Writes D.admits)
    (hd : ∀ call ∈ calls, call.2.Deletes fun e => D.yields (table e)) (inv : D.Inv s) :
    D.Inv (run s calls) ∧ D.leads s (run s calls) := by
  induction calls generalizing s with
  | nil => exact ⟨inv, D.refl s⟩
  | cons call calls ih =>
    obtain ⟨context, call⟩ := call
    have moved : Moves D.Goes (call.act Hooks.none) ⟨s, context, ()⟩ fun _ _ => True :=
      moves_act Hooks.quiet_none (hw _ List.mem_cons_self) (hd _ List.mem_cons_self) inv
    obtain ⟨inv', hl⟩ := moved.1 inv
    obtain ⟨last, hl'⟩ := ih (fun c hc => hw c (List.mem_cons_of_mem _ hc))
      (fun c hc => hd c (List.mem_cons_of_mem _ hc)) inv'
    exact ⟨last, D.trans hl hl'⟩

variable (D)

omit [ExactKeys K] in
theorem inv_empty (fresh : Nat → Uuid) : D.Inv (Store.empty fresh : Store K) := by
  refine ⟨distinct_empty fresh, ?_, ?_⟩
  · exact fun {_ _} hm => nomatch hm
  · exact fun {_ _} hm => nomatch hm

/-- From a store without rows every run leaves the invariant. -/
theorem inv_empty_run (fresh : Nat → Uuid) {calls : List (Context × Call E)}
    (hw : ∀ call ∈ calls, call.2.Writes D.admits)
    (hd : ∀ call ∈ calls, call.2.Deletes fun e => D.yields (table e)) :
    D.Inv (run (Store.empty fresh : Store K) calls) ∧
      D.leads (Store.empty fresh) (run (Store.empty fresh : Store K) calls) :=
  inv_run hw hd (D.inv_empty fresh)

end Discipline

end ProtoStore.Domain
