import ProtoStore.Proofs.Domain.Course
import ProtoStore.Proofs.Domain.Idle

/-!
# What operations fail with

`Action.Fails act world P` : if `act` fails in `world`, its failure and the world it leaves meet `P`. Such
statements go through sequences (`Fails.bind`) and loops.

What the parts of operations fail with comes first, in the order of an update. A strict update never
fails because a key is there already (`fails_strictUpdate`): rows are saved over those of the same key,
and the only rows that are created are join rows that are missing.
-/

namespace ProtoStore.Domain

open Store

variable {K σ α β : Type} [Catalog K]

namespace Action

/-- What holds of a failure, and of the world that it leaves. -/
def Fails (act : Action K σ α) (world : World K σ) (P : Failure → World K σ → Prop) : Prop :=
  ∀ failure last, act world = (.error failure, last) → P failure last

namespace Fails

variable {act : Action K σ α} {world : World K σ} {P : Failure → World K σ → Prop}

theorem pure (a : α) : (Pure.pure a : Action K σ α).Fails world P := fun _ _ h => nomatch h

theorem mono {Q : Failure → World K σ → Prop} (h : act.Fails world P)
    (hp : ∀ failure last, P failure last → Q failure last) : act.Fails world Q :=
  fun failure last failed => hp failure last (h failure last failed)

theorem unspecified : act.Fails world fun _ _ => True := fun _ _ _ => trivial

theorem throw {failure : Failure} (h : P failure world) :
    (MonadExcept.throw failure : Action K σ α).Fails world P :=
  fun _ _ thrown => by cases thrown; exact h

theorem bind {f : α → Action K σ β} (h : act.Fails world P)
    (hf : ∀ a after, act world = (.ok a, after) → (f a).Fails after P) : (act >>= f).Fails world P := by
  intro failure last failed
  rw [bind_apply] at failed
  rcases done : act world with ⟨_ | a, after⟩ <;> rw [done] at failed
  · cases failed
    exact h failure last done
  · exact hf a after done failure last failed

theorem ofExcept {result : Except Failure α} (h : ∀ failure, result = .error failure → P failure world) :
    (Action.ofExcept result).Fails world P :=
  fun failure _ failed => by cases failed; exact h failure rfl

theorem ask {moments : Nat} {question : Context → Store K → Except Failure α}
    (h : ∀ failure, question world.context world.store = .error failure → P failure (world.after moments)) :
    (Action.ask moments question).Fails world P := by
  intro failure last failed
  obtain ⟨answer, rfl⟩ := Prod.mk.inj failed
  exact h failure answer

theorem write {moments : Nat} {call : Context → Store K → Writing K α}
    (h : ∀ failure, (call world.context world.store).result = .error failure →
      P failure { world.after moments with store := (call world.context world.store).store }) :
    (Action.write moments call).Fails world P := by
  intro failure last failed
  obtain ⟨result, rfl⟩ := Prod.mk.inj failed
  exact h failure (Except.map_eq_error.mp result)

theorem remove {call : Context → Store K → Except Failure (Store K × Nat)}
    (h : ∀ failure, call world.context world.store = .error failure → P failure (world.after 1)) :
    (Action.remove call).Fails world P := by
  intro failure last failed
  unfold Action.remove at failed
  split at failed
  · next removed =>
    cases failed
    exact h failure removed
  · cases failed

theorem optionMapM {f : β → Action K σ α} (hf : ∀ b world, (f b).Fails world P) (x : Option β) :
    (x.mapM f).Fails world P := by
  cases x with
  | none => exact pure none
  | some b =>
    show (some <$> f b).Fails world P
    rw [map_eq_pure_bind]
    exact (hf b world).bind fun a after _ => pure (some a)

/-- Each step starts in a world with what the steps before it keep. -/
theorem mapM_keeping {f : β → Action K σ α} {I : World K σ → Prop} {xs : List β}
    (hf : ∀ x ∈ xs, ∀ world, I world → (f x).Fails world P)
    (keeps : ∀ x ∈ xs, ∀ a world after, I world → f x world = (.ok a, after) → I after) (h : I world) :
    (xs.mapM f).Fails world P := by
  induction xs generalizing world with
  | nil => exact pure []
  | cons x xs ih =>
    obtain ⟨first, rest⟩ := List.forall_mem_cons.mp hf
    obtain ⟨kept, keeps⟩ := List.forall_mem_cons.mp keeps
    rw [List.mapM_cons]
    refine (first world h).bind fun a after done => ?_
    exact (ih rest keeps (kept a world after h done)).bind fun as last _ => pure (a :: as)

theorem mapM {f : β → Action K σ α} (hf : ∀ b world, (f b).Fails world P) (xs : List β) :
    (xs.mapM f).Fails world P :=
  mapM_keeping (I := fun _ => True) (fun x _ world _ => hf x world) (fun _ _ _ _ _ _ _ => trivial) trivial

theorem forM {f : β → Action K σ Unit} {xs : List β} (hf : ∀ x ∈ xs, ∀ world, (f x).Fails world P) :
    (xs.forM f).Fails world P := by
  induction xs generalizing world with
  | nil => exact pure ()
  | cons x xs ih =>
    show (f x >>= fun _ => xs.forM f).Fails world P
    exact (hf x List.mem_cons_self world).bind fun _ after _ =>
      ih fun y hy => hf y (List.mem_cons_of_mem x hy)

theorem foldlM {f : α → β → Action K σ α} {xs : List β}
    (hf : ∀ x ∈ xs, ∀ a world, (f a x).Fails world P) (a : α) : (xs.foldlM f a).Fails world P := by
  induction xs generalizing world a with
  | nil => exact pure a
  | cons x xs ih =>
    obtain ⟨first, rest⟩ := List.forall_mem_cons.mp hf
    rw [List.foldlM_cons]
    exact (first a world).bind fun b after _ => ih rest b

end Fails

/-- An action that leaves the world as it is does so when it fails. -/
theorem Idle.fails {act : Action K σ α} {world : World K σ} {P : Failure → Prop} (idle : act.Idle world)
    (h : act.Fails world fun failure _ => P failure) :
    act.Fails world fun failure last => P failure ∧ last = world := by
  intro failure last failed
  refine ⟨h failure last failed, ?_⟩
  have same : (act world).2 = world := idle
  rwa [failed] at same

theorem Idle.eq_of_fails {act : Action K σ α} {world : World K σ} (idle : act.Idle world) :
    act.Fails world fun _ last => last = world :=
  (idle.fails Fails.unspecified).mono fun _ _ => And.right

/-- After an action that leaves the world as it is, what follows starts where it did. -/
theorem Fails.idle_bind {act : Action K σ α} {f : α → Action K σ β} {world : World K σ}
    {Q : Failure → Prop} {P : Failure → World K σ → Prop} (idle : act.Idle world)
    (h : act.Fails world fun failure _ => Q failure) (hq : ∀ failure, Q failure → P failure world)
    (hf : ∀ a, act world = (.ok a, world) → (f a).Fails world P) : (act >>= f).Fails world P := by
  refine ((idle.fails h).mono ?_).bind fun a after done => ?_
  · rintro failure _ ⟨q, rfl⟩
    exact hq failure q
  · have same : (act world).2 = world := idle
    rw [done] at same
    obtain rfl : after = world := same
    exact hf a done

end Action

/-! ## The parts of an operation -/

namespace Operations

open Domain.Action

variable {E : Type} [Bindings E K] {e : E} {row : Record e} {pending : List (Pending e)}

section

variable {world : World K Unit} {P : Failure → Prop}
  (converting : ∀ {e : E} {message : Message e} {row : Record e} {failure : Failure},
    Bindings.fillRecord e message row = .error failure → P failure)
include converting

theorem fails_toRecord (message : Message e) :
    (toRecord Hooks.none e message).Fails world fun failure _ => P failure := by
  rw [toRecord_none]
  exact Fails.ofExcept fun failure => converting

theorem fails_collect (message : Message e) :
    (collect Hooks.none e message).Fails world fun failure _ => P failure := by
  have each : ∀ {e : E} (m : Message e) (world : World K Unit),
      (toRecord Hooks.none e m).Fails world fun failure _ => P failure :=
    fun m _ => fails_toRecord converting m
  refine Fails.mapM (fun link world => ?_) _
  cases link with
  | reference link => exact (Fails.optionMapM each _).bind fun _ _ _ => Fails.pure _
  | children link => exact (Fails.mapM each _).bind fun _ _ _ => Fails.pure _
  | joined link => exact (Fails.mapM each _).bind fun _ _ _ => Fails.pure _

end

section

variable {world : World K Unit} {P : Failure → Prop}
  (converting : ∀ {e : E} {row : Record e} {message : Message e} {failure : Failure},
    Bindings.fillMessage e row message = .error failure → P failure)
include converting

theorem fails_toMessage (row : Record e) :
    (toMessage Hooks.none e row).Fails world fun failure _ => P failure := by
  rw [toMessage_none]
  exact Fails.ofExcept fun failure => converting

theorem fails_respond [DecidableEq K] (unanswered : ∀ {failure}, Unanswered failure → P failure) (row : Record e) :
    (respond Hooks.none e row).Fails world fun failure _ => P failure := by
  have each : ∀ {e : E} (r : Record e) (world : World K Unit),
      (toMessage Hooks.none e r).Fails world fun failure _ => P failure :=
    fun r _ => fails_toMessage converting r
  refine (each row _).bind fun message _ _ => Fails.foldlM (fun link _ message world => ?_) message
  cases link with
  | reference link =>
    rw [Operations.loadOne]
    split
    · exact Fails.pure _
    · refine (Fails.ask fun failure h => unanswered (first_fails h)).bind fun found _ _ => ?_
      exact (Fails.optionMapM each found).bind fun _ _ _ => Fails.pure _
  | children link =>
    refine (Fails.ask fun failure h => unanswered (find_fails h)).bind fun rows _ _ => ?_
    exact (Fails.mapM each rows).bind fun _ _ _ => Fails.pure _
  | joined link =>
    refine (Fails.ask fun failure h => unanswered (loadLinked_fails h)).bind fun rows _ _ => ?_
    exact (Fails.mapM each rows).bind fun _ _ _ => Fails.pure _

end

variable {world : World K σ}

theorem fails_requireKey :
    (requireKey e row : Action K σ Unit).Fails world fun failure _ => failure = .argument .emptyKey := by
  unfold requireKey
  split
  · exact Fails.throw rfl
  · exact Fails.pure ()

variable [DecidableEq K]

theorem fails_lockRow (row : Record e) :
    (lockRow e row : Action K σ _).Fails world fun failure _ => Unanswered failure := by
  unfold lockRow
  split
  · exact (Fails.ask fun failure => count_fails).bind fun count _ _ => Fails.pure _
  · refine (Fails.ask fun failure => first_fails).bind fun found _ _ => ?_
    cases found <;> exact Fails.pure _

theorem fails_prepare :
    (prepare pending row : Action K σ _).Fails world fun failure _ => Unwritten failure := by
  refine Fails.foldlM (fun p _ row world => ?_) row
  cases p with
  | reference link target =>
    cases target with
    | none => exact Fails.pure _
    | some target => exact (Fails.write fun failure => save_fails).bind fun _ _ _ => Fails.pure _
  | children link rows => exact Fails.pure _
  | joined link rows => exact Fails.pure _

theorem fails_prune :
    (prune pending row : Action K σ _).Fails world fun failure _ => Unanswered failure := by
  unfold prune
  split
  · exact Fails.pure ()
  refine Fails.forM fun p _ world => ?_
  unfold pruneOne
  cases p with
  | reference link target => exact Fails.pure ()
  | children link rows => exact Fails.remove fun failure => deleteSome_fails
  | joined link rows => exact Fails.remove fun failure => deleteSome_fails

theorem refused_saveCollections :
    (saveCollections pending row : Action K σ _).Fails world fun failure _ => failure.Refused := by
  refine Fails.forM fun p _ world => ?_
  unfold saveOne
  cases p with
  | reference link target => exact Fails.pure ()
  | children link rows =>
    refine (Fails.write fun failure h => ?_).bind fun _ _ _ => Fails.pure ()
    exact (saveChildren_fails h).refused
  | joined link rows =>
    exact (Fails.write fun failure => saveLinks_refused).bind fun _ _ _ => Fails.pure ()

/-! ## Updates -/

/-- Conversions do not fail because of keys, and a join row is told by its columns, as it is by its
key. -/
class Distinguishes (E : Type) {K : outParam Type} [Catalog K] [Bindings E K] : Prop where
  fillRecord {e : E} {message : Message e} {row : Record e} {failure : Failure} :
    Bindings.fillRecord e message row = .error failure → failure.NotDuplicate
  fillMessage {e : E} {row : Record e} {message : Message e} {failure : Failure} :
    Bindings.fillMessage e row message = .error failure → failure.NotDuplicate
  joined {e : E} {link : Joined e} : .joined link ∈ Bindings.links e →
    Keyless link.join ∧ ByColumns link.join ∧ ∀ a b : Row link.join, key a = key b → a = b

variable [Distinguishes E] [ExactKeys K] {message : Message e}

theorem fails_saveCollections
    (collected : List.Forall₂ (Collected message) (Bindings.links e) pending) :
    (saveCollections pending row : Action K σ _).Fails world fun failure _ => failure.NotDuplicate := by
  refine Fails.forM fun p hp world => ?_
  obtain ⟨link, hl, collected⟩ := exists_of_forall₂ collected hp
  cases collected with
  | reference _ => exact Fails.pure ()
  | children _ =>
    refine (Fails.write fun failure h => ?_).bind fun _ _ _ => Fails.pure ()
    exact (saveChildren_fails h).notDuplicate
  | joined _ =>
    obtain ⟨keyless, columns, told⟩ := Distinguishes.joined hl
    refine (Fails.write fun failure h => ?_).bind fun _ _ _ => Fails.pure ()
    exact saveLinks_fails keyless columns told h

/-- A strict update never fails because a key is there already. -/
theorem fails_strictUpdate {world : World K Unit} (input : Option (Message e)) :
    (strictUpdate Hooks.none e input).Fails world fun failure _ => failure.NotDuplicate := by
  cases input with
  | none => exact Fails.throw fun _ => nofun
  | some message =>
    simp only [strictUpdate, required, hook_none, pure_bind]
    refine (fails_toRecord Distinguishes.fillRecord message).bind fun row _ _ => ?_
    refine (fails_collect Distinguishes.fillRecord message).bind fun pending _ collects => ?_
    have collected := ((collect_answers message pending _).mp collects).1
    refine ((fails_lockRow row).mono fun _ _ => Unanswered.notDuplicate).bind fun locked _ _ => ?_
    refine (fails_prepare.mono fun _ _ => Unwritten.notDuplicate).bind fun prepared _ _ => ?_
    refine (fails_prune.mono fun _ _ => Unanswered.notDuplicate).bind fun _ _ _ => ?_
    refine (Fails.write fun failure h => (save_fails h).notDuplicate).bind fun written _ _ => ?_
    refine (fails_saveCollections collected).bind fun _ _ _ => ?_
    refine (fails_respond Distinguishes.fillMessage Unanswered.notDuplicate written).bind ?_
    exact fun value _ _ => Fails.pure _

end Operations

end ProtoStore.Domain
