import Mathlib.Data.List.Forall2
import Mathlib.Order.Defs.Unbundled
import ProtoStore.Domain.Action

/-!
# How actions move the store

`Moves R act world P` : started in `world`, the action `act` takes the store along the relation
`R`, whether it succeeds or fails, and if it succeeds its value and the store it leaves meet `P`.
A failure leaves what was reached so far, so `R` says something of every point of the action at which
a call may fail. For a preorder `R` such statements go through sequences (`Moves.bind`) and loops
(`Moves.mapM`, `Moves.forM`, `Moves.foldlM`). `Moves Eq` says that the store stays as it is.

`Hooks.Quiet` : hooks that hand on what they are given. They may fail and cancel the context.
-/

namespace ProtoStore.Domain

variable {K σ α β : Type} [Catalog K]

/-- An action takes the store along a relation, and what it gives meets `P`. -/
def Moves (R : Store K → Store K → Prop) (act : Action K σ α) (world : World K σ)
    (P : α → Store K → Prop) : Prop :=
  R world.store (act world).2.store ∧ ∀ a, (act world).1 = .ok a → P a (act world).2.store

namespace Action

theorem bind_apply (act : Action K σ α) (f : α → Action K σ β) (world : World K σ) :
    (act >>= f) world = match act world with
      | (.ok a, after) => f a after
      | (.error failure, after) => (.error failure, after) := by
  show ((act : World K σ → Except Failure α × World K σ) world |> fun r =>
    ExceptT.bindCont f r.1 r.2) = _
  rcases act world with ⟨_ | _, _⟩ <;> rfl

variable {act : Action K σ α} {f : α → Action K σ β} {world after : World K σ}

theorem bind_of_ok {a : α} (h : act world = (.ok a, after)) : (act >>= f) world = f a after := by
  rw [bind_apply, h]

theorem bind_of_error {failure : Failure} (h : act world = (.error failure, after)) :
    (act >>= f) world = (.error failure, after) := by
  rw [bind_apply, h]

end Action

namespace Moves

variable {R : Store K → Store K → Prop} {world : World K σ} {act : Action K σ α}
  {P : α → Store K → Prop}

theorem mono {Q : α → Store K → Prop} (h : Moves R act world P)
    (hp : ∀ a s, R world.store s → P a s → Q a s) : Moves R act world Q :=
  ⟨h.1, fun a ha => hp a _ h.1 (h.2 a ha)⟩

theorem of_ok {a : α} {last : World K σ} (h : Moves R act world P) (done : act world = (.ok a, last)) :
    R world.store last.store ∧ P a last.store := by
  obtain ⟨moved, answered⟩ := h
  rw [done] at moved answered
  exact ⟨moved, answered a rfl⟩

theorem bind [IsTrans (Store K) R] {f : α → Action K σ β} {Q : β → Store K → Prop}
    (h : Moves R act world P)
    (hf : ∀ a after, R world.store after.store → P a after.store → Moves R (f a) after Q) :
    Moves R (act >>= f) world Q := by
  obtain ⟨hm, hp⟩ := h
  rw [Moves, Action.bind_apply]
  rcases hact : act world with ⟨result, after⟩
  rw [hact] at hm hp
  cases result with
  | error failure => exact ⟨hm, fun a ha => by cases ha⟩
  | ok a =>
    obtain ⟨hm', hp'⟩ := hf a after hm (hp a rfl)
    exact ⟨IsTrans.trans _ _ _ hm hm', hp'⟩

section

variable [Std.Refl R]

theorem pure {a : α} (h : P a world.store) : Moves R (Pure.pure a) world P :=
  ⟨refl_of R _, fun b hb => by cases hb; exact h⟩

/-- Nothing moves the store when it stays as it is. -/
theorem of_eq (h : Moves Eq act world P) : Moves R act world P :=
  ⟨by rw [← h.1]; exact refl_of R _, h.2⟩

theorem throw (failure : Failure) : Moves R (throw failure : Action K σ α) world P :=
  ⟨refl_of R _, fun a ha => by cases ha⟩

theorem ofExcept (result : Except Failure α) :
    Moves R (Action.ofExcept result) world fun a _ => result = .ok a :=
  ⟨refl_of R _, fun _ ha => ha⟩

theorem ask {moments : Nat} (question : Context → Store K → Except Failure α) :
    Moves R (Action.ask moments question) world fun a s => question world.context s = .ok a :=
  ⟨refl_of R _, fun _ ha => ha⟩

end

theorem write {moments : Nat} {call : Context → Store K → Writing K α}
    (hm : R world.store (call world.context world.store).store)
    (hp : (call world.context world.store).result = .ok () →
      P (call world.context world.store).written (call world.context world.store).store) :
    Moves R (Action.write moments call) world P := by
  refine ⟨hm, fun a ha => ?_⟩
  change ((call world.context world.store).result.map fun _ => _) = _ at ha
  cases hr : (call world.context world.store).result with
  | error failure => rw [hr] at ha; cases ha
  | ok _ => rw [hr] at ha; cases ha; exact hp hr

theorem remove [Std.Refl R] {call : Context → Store K → Except Failure (Store K × Nat)}
    (h : ∀ store n, call world.context world.store = .ok (store, n) → R world.store store) :
    Moves R (Action.remove call : Action K σ Unit) world fun _ _ => True := by
  refine ⟨?_, fun _ _ => trivial⟩
  unfold Action.remove
  cases hc : call world.context world.store with
  | error failure => exact refl_of R _
  | ok answer => exact h answer.1 answer.2 hc

/-! ## Loops -/

theorem map [IsTrans (Store K) R] [Std.Refl R] {f : α → β} (h : Moves R act world P) :
    Moves R (f <$> act) world fun b s => ∃ a, f a = b ∧ P a s := by
  rw [map_eq_pure_bind]
  exact h.bind fun a _ _ ha => pure ⟨a, rfl, ha⟩

theorem optionMapM [IsPreorder (Store K) R] {P : β → α → Store K → Prop}
    {f : β → Action K σ α} {x : Option β} (hf : ∀ y ∈ x, Moves R (f y) world (P y)) :
    Moves R (x.mapM f) world fun a s => Option.Rel (fun y b => P y b s) x a := by
  cases x with
  | none => exact pure .none
  | some y =>
    refine (hf y rfl).map.mono ?_
    rintro _ s _ ⟨b, rfl, hb⟩
    exact .some hb

theorem mapM [IsPreorder (Store K) R] {P : β → α → Store K → Prop} {f : β → Action K σ α}
    {xs : List β}
    (hf : ∀ x ∈ xs, ∀ after : World K σ, R world.store after.store → Moves R (f x) after (P x))
    (stable : ∀ x a s t, R s t → P x a s → P x a t) :
    Moves R (xs.mapM f) world fun as s => List.Forall₂ (fun x a => P x a s) xs as := by
  induction xs generalizing world with
  | nil => exact pure .nil
  | cons x xs ih =>
    rw [List.mapM_cons]
    refine (hf x List.mem_cons_self world (refl_of R _)).bind fun a after hm ha => ?_
    refine (ih fun y hy w hw => hf y (List.mem_cons_of_mem x hy) w (IsTrans.trans _ _ _ hm hw)).bind ?_
    intro as last hm' has
    exact pure (.cons (stable x a _ _ hm' ha) has)

theorem forM [IsPreorder (Store K) R] {f : β → Action K σ Unit} {xs : List β}
    (hf : ∀ x ∈ xs, ∀ after : World K σ, R world.store after.store →
      Moves R (f x) after fun _ _ => True) :
    Moves R (xs.forM f) world fun _ _ => True := by
  induction xs generalizing world with
  | nil => exact pure trivial
  | cons x xs ih =>
    show Moves R (f x >>= fun _ => xs.forM f) world _
    refine (hf x List.mem_cons_self world (refl_of R _)).bind fun _ after hm _ => ?_
    exact ih fun y hy w hw => hf y (List.mem_cons_of_mem x hy) w (IsTrans.trans _ _ _ hm hw)

theorem foldlM [IsPreorder (Store K) R] {f : α → β → Action K σ α} {xs : List β} {a : α}
    (hf : ∀ x ∈ xs, ∀ a (after : World K σ), R world.store after.store → P a after.store →
      Moves R (f a x) after P)
    (ha : P a world.store) : Moves R (xs.foldlM f a) world P := by
  induction xs generalizing world a with
  | nil => exact pure ha
  | cons x xs ih =>
    rw [List.foldlM_cons]
    refine (hf x List.mem_cons_self a world (refl_of R _) ha).bind fun b after hm hb => ?_
    exact ih (fun y hy c w hw => hf y (List.mem_cons_of_mem x hy) c w (IsTrans.trans _ _ _ hm hw)) hb

end Moves

theorem exists_of_forall₂ {α β : Type} {P : α → β → Prop} {xs : List α} {ys : List β} {y : β}
    (h : List.Forall₂ P xs ys) (hy : y ∈ ys) : ∃ x ∈ xs, P x y := by
  induction h with
  | nil => cases hy
  | @cons a b xs ys hab _ ih =>
    rcases List.mem_cons.mp hy with rfl | hy
    · exact ⟨a, List.mem_cons_self, hab⟩
    · obtain ⟨x, hx, hp⟩ := ih hy
      exact ⟨x, List.mem_cons_of_mem a hx, hp⟩

/-! ## Hooks -/

/-- Hooks that hand on what they may change. They may fail and cancel the context. -/
def Hooks.Quiet {E : Type} [Entities E K] (hooks : Hooks E σ) : Prop :=
  ∀ {α : Type} (e : E) (point : HookPoint (Message e) (Record e) α) (subject : α) (state : Context × σ)
    (a : α), (hooks.call e point subject state).1 = .ok a → a = subject

theorem Hooks.quiet_none {E : Type} [Entities E K] : (Hooks.none : Hooks E Unit).Quiet :=
  fun _ _ _ _ _ h => (Except.ok.inj h).symm

theorem Moves.hook {E : Type} [Entities E K] {hooks : Hooks E σ} (quiet : hooks.Quiet) {e : E}
    {R : Store K → Store K → Prop} [Std.Refl R] {world : World K σ}
    (point : HookPoint (Message e) (Record e) α) (subject : α) :
    Moves R (Action.hook (hooks.call e point subject)) world fun a _ => a = subject := by
  refine ⟨refl_of R _, fun a ha => quiet e point subject (world.context, world.notes) a ?_⟩
  change ((hooks.call e point subject (world.context, world.notes)).1.mapError Failure.hook) = _ at ha
  cases hr : (hooks.call e point subject (world.context, world.notes)).1 with
  | error text => rw [hr] at ha; cases ha
  | ok b => rw [hr] at ha; cases ha; rfl

end ProtoStore.Domain
