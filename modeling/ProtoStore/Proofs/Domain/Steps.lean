import ProtoStore.Proofs.Domain.Run
import ProtoStore.Proofs.Store.Edits

/-!
# Runs with calls of the store

A `Step` is a call of an operation, or one of the store itself, which puts or deletes rows as they are. Runs
of steps are therefore held to a discipline only if it forbids nothing (`Discipline.Free`).

* `goes_edit` : what one call of the store keeps;
* `inv_stepped` : what a run of steps keeps.
-/

namespace ProtoStore.Domain

open Operations Store

variable {E K : Type} [DecidableEq K] [Catalog K] [Bindings E K]

/-- A call of an operation, or one of the store that changes rows. -/
inductive Step (E : Type) {K : Type} [Catalog K] [Entities E K]
  | operation (call : Call E)
  | direct (edit : Edit K)

/-- The store that a step leaves, whether it succeeds or fails. -/
def Step.after (store : Store K) (context : Context) : Step E → Store K
  | operation call => call.after store context
  | direct edit => edit.after store context

/-- The store that steps leave, each made in its context. -/
def stepped (store : Store K) (steps : List (Context × Step E)) : Store K :=
  steps.foldl (fun store step => step.2.after store step.1) store

namespace Discipline

/-- A discipline that forbids nothing. -/
structure Free (D : Discipline E) : Prop where
  admits (e : E) (m : Message e) : D.admits e m
  allows (s : Store K) (kind : K) (row : Row kind) : D.allows s kind row
  yields (kind : K) : D.yields kind

variable [ExactKeys K] {D : Discipline E} (free : D.Free)
include free

theorem goes_edit (s : Store K) (context : Context) (edit : Edit K) :
    D.Goes s (edit.after s context) := by
  cases edit with
  | create kind row => exact goes_create (free.allows s kind row)
  | save kind row => exact goes_save (free.allows s kind row)
  | delete kind query =>
    unfold Edit.after
    dsimp only
    split
    · next deleted => exact goes_delete (free.yields kind) deleted
    · exact refl_of D.Goes s

omit [ExactKeys K] in
theorem Free.deletes (call : Call E) : call.Deletes fun e => D.yields (table e) := by
  cases call with
  | delete e _ | deleteSet e _ => exact free.yields (table e)
  | create | read | strictUpdate | patch | patchSet | list => trivial

/-- A step keeps the invariant. -/
theorem inv_step {s : Store K} (inv : D.Inv s) (context : Context) (step : Step E) :
    D.Inv (step.after s context) ∧ D.leads s (step.after s context) := by
  cases step with
  | direct edit => exact goes_edit free s context edit inv
  | operation call =>
    have writes : call.Writes D.admits := Call.Writes.of_forall free.admits call
    have moved : Moves D.Goes (call.act Hooks.none) ⟨s, context, ()⟩ fun _ _ => True :=
      moves_act Hooks.quiet_none writes (free.deletes call) inv
    exact moved.1 inv

theorem inv_stepped {s : Store K} (inv : D.Inv s) (steps : List (Context × Step E)) :
    D.Inv (stepped s steps) ∧ D.leads s (stepped s steps) := by
  induction steps generalizing s with
  | nil => exact ⟨inv, D.refl s⟩
  | cons step steps ih =>
    obtain ⟨next, leads⟩ := inv_step free inv step.1 step.2
    obtain ⟨last, leads'⟩ := ih next
    exact ⟨last, D.trans leads leads'⟩

end Discipline

end ProtoStore.Domain
