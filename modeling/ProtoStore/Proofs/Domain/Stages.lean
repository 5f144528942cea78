import ProtoStore.Proofs.Domain.Frame
import ProtoStore.Proofs.Domain.Invariant

/-!
# Invariants between the parts of an update

What a discipline keeps, at the stores that an update passes through: after references are prepared
(`Update.inv_referred`), after rows are pruned (`Update.inv_pruned`), after the row is saved
(`Update.inv_saved`), and at the end (`Update.goes`). The row that is written is there at the end
(`Update.mem`), and it is the prepared row if that has a key (`Update.written_of_keyed`).
-/

namespace ProtoStore.Domain.Operations

open Store Domain.Action

variable {E K : Type} [DecidableEq K] [Catalog K] [ExactKeys K] [Bindings E K] {e : E}
  {D : Discipline E} {context : Context} {message : Message e} {s t : Store K}

/-! ## Stages of an update -/

section

variable {upserted : Upserted (Message e)} (c : Update context e message s t upserted)
include c

omit [ExactKeys K] in
theorem Update.allows_locked [context.Timeless] (ha : D.admits e message) (inv : D.Inv s) :
    D.allows s (table e) c.locked := by
  have row : D.allows s (table e) c.row := D.record s ha c.converts
  have moved : Moves Eq (lockRow e c.row) (⟨s, context, ()⟩ : World K Unit)
      fun locked s => D.allows s (table e) locked.2 := Discipline.moves_lockRow inv row
  have locked : lockRow e c.row (⟨s, context, ()⟩ : World K Unit) =
      (.ok (upserted.created, c.locked), ⟨s, context, ()⟩) :=
    (lockRow_answers c.row _ _).mpr ⟨c.locks, rfl⟩
  have allowed := moved.2 (upserted.created, c.locked)
  rw [locked] at allowed
  exact allowed rfl

theorem Update.inv_referred [context.Timeless] (ha : D.admits e message) (inv : D.Inv s) :
    D.Inv c.referred ∧ D.leads s c.referred ∧ D.allows c.referred (table e) c.prepared := by
  have moved : Moves D.Goes (prepare c.pending c.locked) (⟨s, context, ()⟩ : World K Unit)
      fun row s => D.allows s (table e) row :=
    Discipline.moves_prepare inv (Discipline.ready_of_collected ha c.collected)
      (c.allows_locked ha inv)
  obtain ⟨goes, allowed⟩ := moved
  rw [c.prepares] at goes allowed
  obtain ⟨inv', leads⟩ := goes inv
  exact ⟨inv', leads, allowed _ rfl⟩

theorem Update.inv_pruned [context.Timeless] (ha : D.admits e message) (inv : D.Inv s) :
    D.Inv c.pruned ∧ D.leads c.referred c.pruned ∧ D.allows c.pruned (table e) c.prepared := by
  obtain ⟨inv', -, allowed⟩ := c.inv_referred ha inv
  have moved : Moves D.Goes (prune c.pending c.prepared) (⟨c.referred, context, ()⟩ : World K Unit)
      fun _ _ => True := Discipline.moves_prune (Discipline.ready_of_collected ha c.collected)
  have goes := moved.1
  rw [c.prunes] at goes
  obtain ⟨inv'', leads⟩ := goes inv'
  exact ⟨inv'', leads, D.allows_mono leads allowed⟩

theorem Update.inv_saved (allowed : D.allows c.pruned (table e) c.prepared) (inv : D.Inv c.pruned) :
    D.Inv c.saved ∧ D.leads c.pruned c.saved ∧ D.holds c.saved (table e) c.written := by
  have saves : D.Goes c.pruned (c.pruned.save context (table e) c.prepared).store :=
    Discipline.goes_save allowed
  have held : (c.pruned.save context (table e) c.prepared).result = .ok () →
      D.holds (c.pruned.save context (table e) c.prepared).store (table e)
        (c.pruned.save context (table e) c.prepared).written := Discipline.holds_save
  rw [c.saves] at saves held
  obtain ⟨inv', leads⟩ := saves inv
  exact ⟨inv', leads, held rfl⟩

theorem Update.inv_of_saved (ha : D.admits e message) (held : D.holds c.saved (table e) c.written)
    (inv : D.Inv c.saved) : D.Inv t ∧ D.leads c.saved t := by
  have moved : Moves D.Goes (saveCollections c.pending c.written)
      (⟨c.saved, context, ()⟩ : World K Unit) fun _ _ => True :=
    Discipline.moves_saveCollections inv (Discipline.ready_of_collected ha c.collected) held
  have goes := moved.1
  rw [c.links] at goes
  exact goes inv

/-- What holds once rows are pruned is kept, even if it did not hold before. -/
theorem Update.inv_of_pruned (ha : D.admits e message)
    (allowed : D.allows c.pruned (table e) c.prepared) (inv : D.Inv c.pruned) :
    D.Inv t ∧ D.leads c.pruned t := by
  obtain ⟨saved, leads, held⟩ := c.inv_saved allowed inv
  obtain ⟨last, leads'⟩ := c.inv_of_saved ha held saved
  exact ⟨last, D.trans leads leads'⟩

theorem Update.goes [context.Timeless] (ha : D.admits e message) : D.Goes s t := by
  intro inv
  have moved : Moves D.Goes (strictUpdate Hooks.none e (some message))
      (⟨s, context, ()⟩ : World K Unit) fun _ _ => True :=
    Discipline.moves_strictUpdate Hooks.quiet_none (fun m hm => Option.mem_some.mp hm ▸ ha) inv
  have goes := moved.1
  rw [strictUpdate_ok.mpr ⟨t, rfl, ⟨c⟩⟩] at goes
  exact goes inv

omit [ExactKeys K] in
/-- A row with a key is written as it is. -/
theorem Update.written_of_keyed (keyed : (record (table e)).keyIsEmpty c.prepared = false) :
    c.written = c.prepared := by
  obtain ⟨-, after, assigned, -⟩ := Store.save_ok.mp c.saves
  rw [assignKey_of_keyed keyed, Prod.mk.injEq, Except.ok.injEq] at assigned
  exact assigned.2.symm

/-- The row that is written is there at the end, unless links are written to its table. -/
theorem Update.mem (h : ∀ p ∈ c.pending, table e ∉ p.writes) : c.written ∈ t.rows (table e) := by
  have linked : t.rows (table e) = c.saved.rows (table e) := sameIn_of_saveCollections h c.links
  rw [linked]
  exact mem_of_save c.saves

end

/-! ## Stages of a creation -/

section

variable {value : Message e} (c : Creation context e message s t value)
include c

theorem Creation.mem (h : ∀ p ∈ c.pending, table e ∉ p.writes) : c.written ∈ t.rows (table e) := by
  have linked : t.rows (table e) = c.created.rows (table e) := sameIn_of_saveCollections h c.links
  obtain ⟨-, -, after, -, created⟩ := Store.create_ok.mp c.creates
  rw [linked, created, rows_push]
  exact List.mem_append_right _ (List.mem_singleton_self _)

theorem Creation.goes [context.Timeless] (ha : D.admits e message) : D.Goes s t := by
  intro inv
  have moved : Moves D.Goes (Operations.create Hooks.none e (some message))
      (⟨s, context, ()⟩ : World K Unit) fun _ _ => True :=
    Discipline.moves_create Hooks.quiet_none (fun m hm => Option.mem_some.mp hm ▸ ha) inv
  have goes := moved.1
  rw [create_ok.mpr ⟨t, rfl, ⟨c⟩⟩] at goes
  exact goes inv

end

end ProtoStore.Domain.Operations
