import ProtoStore.Proofs.Domain.Failing
import ProtoStore.Proofs.Domain.Lasting
import ProtoStore.Proofs.Domain.Reload

/-!
# Failures that leave no trace

Without hooks a call that fails was refused by the store, or it found fault with its arguments or with a
message and did nothing (`Clean`, `Call.eq_of_traceless`): all that can be wrong with messages is found
before the first write, and what a call answers with are rows that have messages, as long as a
discipline allows no others (`Discipline.Readable`).
-/

namespace ProtoStore

/-- A failure of a message that cannot be converted or found. -/
def Failure.Unsuited (failure : Failure) : Prop :=
  failure = .argument .emptyKey ∨ failure = .notFound ∨
    ∃ field fault, failure = .conversion field fault

namespace Domain

open Store Operations Domain.Action

section

variable {E K : Type} [Catalog K]

/-- A call was refused by the store, or it found fault with a message and did nothing. -/
def Clean (world : World K Unit) (failure : Failure) (last : World K Unit) : Prop :=
  failure.Refused ∨ failure.Unsuited ∧ last = world

/-- Messages that have no records fail with a field. -/
def NamesFields (E : Type) {K : Type} [Catalog K] [Bindings E K] : Prop :=
  ∀ {e : E} {message : Message e} {row : Record e} {failure : Failure},
    Bindings.fillRecord e message row = .error failure → ∃ field fault, failure = .conversion field fault

variable [DecidableEq K] [Bindings E K] {D : Discipline E}

/-- Rows that a discipline allows have messages. -/
def Discipline.Readable (D : Discipline E) : Prop :=
  ∀ {s : Store K} {e : E} {row : Record e}, D.allows s (table e) row → ∃ message, Reverts e row message

theorem Discipline.Inv.convertible {s : Store K} (inv : D.Inv s) (readable : D.Readable) :
    Convertible E s :=
  fun _ _ hr => readable (inv.allowed hr)

end

namespace Operations

variable {E K : Type} [DecidableEq K] [Catalog K] [ExactKeys K] [Bindings E K] [Loadable E]
  {D : Discipline E} {e : E} {s : Store K} {context : Context} [context.Timeless] {message : Message e}
  {row : Record e}

omit [DecidableEq K] [ExactKeys K] [Loadable E] in
/-- Conversions come first and change nothing: a call fails with one of them, or goes on with what they
give. -/
theorem fails_converted {α : Type} {world : World K Unit} {P : Failure → World K Unit → Prop}
    {next : Record e → List (Pending e) → Action K Unit α} (names : NamesFields E)
    (unconverted : ∀ failure, (∃ field fault, failure = .conversion field fault) → P failure world)
    (converted : ∀ row pending, Converts e message row →
      List.Forall₂ (Collected message) (Bindings.links e) pending → (next row pending).Fails world P) :
    (toRecord Hooks.none e message >>= fun row =>
      collect Hooks.none e message >>= next row).Fails world P := by
  refine Fails.idle_bind (idle_toRecord message) (fails_toRecord names message) unconverted
    fun row converts => ?_
  refine Fails.idle_bind (idle_collect message) (fails_collect names message) unconverted
    fun pending collects => ?_
  exact converted row pending ((toRecord_answers message _ _).mp converts).1
    ((collect_answers message pending _).mp collects).1

omit [Loadable E] in
/-- What a discipline keeps until the row of a new message is created. -/
theorem inv_created {pending : List (Pending e)} {prepared written : Record e} {referred created : Store K}
    (ha : D.admits e message) (inv : D.Inv s) (converts : Converts e message row)
    (collected : List.Forall₂ (Collected message) (Bindings.links e) pending)
    (prepares : prepare pending row ⟨s, context, ()⟩ = (.ok prepared, ⟨referred, context, ()⟩))
    (creates : referred.create context (table e) prepared = ⟨created, written, .ok ()⟩) :
    D.Inv created ∧ D.leads s created ∧ D.holds created (table e) written ∧
      written ∈ created.rows (table e) := by
  have ready := Discipline.ready_of_collected (s := s) ha collected
  obtain ⟨goes, allowed⟩ := (Discipline.moves_prepare inv ready (D.record s ha converts)).of_ok prepares
  obtain ⟨inv', leads⟩ := goes inv
  have write : Moves D.Goes (Action.write 1 fun context store => store.create context (table e) prepared)
      (⟨referred, context, ()⟩ : World K Unit) fun written s => D.holds s (table e) written :=
    Moves.write (Discipline.goes_create allowed) Discipline.holds_create
  obtain ⟨goes, held⟩ := write.of_ok (write_done creates)
  obtain ⟨inv'', leads'⟩ := goes inv'
  obtain ⟨-, -, _, -, added⟩ := Store.create_ok.mp creates
  refine ⟨inv'', D.trans leads leads', held, ?_⟩
  rw [added, (altered_push _ written).rows_self]
  exact List.mem_append_right _ (List.mem_singleton_self written)

omit [Loadable E] [context.Timeless] in
/-- What a discipline keeps while the rows of links are saved. -/
theorem inv_linked {pending : List (Pending e)} {t : Store K} (inv : D.Inv s)
    (ready : ∀ p ∈ pending, D.Ready s p) (held : D.holds s (table e) row)
    (links : saveCollections pending row ⟨s, context, ()⟩ = (.ok (), ⟨t, context, ()⟩)) :
    D.Inv t ∧ D.leads s t := by
  have moved : Moves D.Goes (saveCollections pending row) (⟨s, context, ()⟩ : World K Unit)
      fun _ _ => True := Discipline.moves_saveCollections inv ready held
  exact (moved.of_ok links).1 inv

section

variable (readable : D.Readable)
include readable

theorem respond_fails_never (alive : context.check = .ok ()) (inv : D.Inv s)
    (allowed : D.allows s (table e) row) {P : Failure → World K Unit → Prop} :
    (respond Hooks.none e row).Fails ⟨s, context, ()⟩ P := by
  obtain ⟨value, responds⟩ : ∃ value, Responds context s row value :=
    exists_responds alive (inv.convertible readable) (readable allowed)
  intro failure last failed
  cases failed.symm.trans ((respond_answers row value _).mpr ⟨responds, rfl⟩)

/-- Once a row is written a call can only be refused by the store. -/
theorem refused_finish {pending : List (Pending e)} (alive : context.check = .ok ())
    (inv : D.Inv s) (ready : ∀ p ∈ pending, D.Ready s p) (held : D.holds s (table e) row)
    (there : row ∈ s.rows (table e)) :
    (saveCollections pending row >>= fun _ => respond Hooks.none e row).Fails ⟨s, context, ()⟩
      fun failure _ => failure.Refused := by
  refine refused_saveCollections.bind fun _ after done => ?_
  obtain ⟨t, rfl⟩ := steady_saveCollections.exists_of_ok done
  obtain ⟨inv', leads⟩ := inv_linked inv ready held done
  exact respond_fails_never readable alive inv' (D.allows_mono leads (inv.allowed there))

variable (names : NamesFields E)
include names

theorem clean_read (inv : D.Inv s) :
    (Operations.read Hooks.none e (some message) none).Fails ⟨s, context, ()⟩
      (Clean ⟨s, context, ()⟩) := by
  simp only [Operations.read, required, hook_none, pure_bind]
  refine Fails.idle_bind (idle_toRecord message) (fails_toRecord names message)
    (fun failure h => Or.inr ⟨Or.inr (Or.inr h), rfl⟩) fun row _ => ?_
  refine Fails.idle_bind (idle_requireKey row) fails_requireKey
    (fun failure h => Or.inr ⟨Or.inl h, rfl⟩) fun _ _ => ?_
  refine Fails.idle_bind (Idle.ask _) (Fails.ask fun failure => first_fails)
    (fun failure h => Or.inl h.refused) fun found answered => ?_
  have first := (ask_ok.mp answered).1
  obtain ⟨rows, answer, -⟩ := first_ok.mp first
  cases found with
  | none => exact Fails.throw (Or.inr ⟨Or.inr (Or.inl rfl), rfl⟩)
  | some found =>
    exact respond_fails_never readable (find_ok.mp answer).1 inv (inv.allowed (mem_of_first first rfl))

theorem clean_create (ha : D.admits e message) (inv : D.Inv s) :
    (Operations.create Hooks.none e (some message)).Fails ⟨s, context, ()⟩
      (Clean ⟨s, context, ()⟩) := by
  simp only [Operations.create, required, hook_none, pure_bind]
  refine fails_converted names (fun failure h => Or.inr ⟨Or.inr (Or.inr h), rfl⟩)
    fun row pending converts collected => ?_
  refine Fails.mono (P := fun failure _ => failure.Refused) ?_ fun failure last => Or.inl
  refine (fails_prepare.mono fun _ _ => Unwritten.refused).bind fun prepared after prepares => ?_
  obtain ⟨t, rfl⟩ := steady_prepare.exists_of_ok prepares
  refine (Fails.write fun failure => create_refused).bind fun written after created => ?_
  obtain ⟨u, creates, same⟩ := write_ok.mp created
  obtain rfl : after = ⟨u, context, ()⟩ := same.trans (by rw [World.after_timeless])
  obtain ⟨inv', -, held, there⟩ := inv_created ha inv converts collected prepares creates
  exact refused_finish readable (Store.create_ok.mp creates).1 inv'
    (Discipline.ready_of_collected ha collected) held there

theorem clean_strictUpdate (ha : D.admits e message) (inv : D.Inv s) :
    (strictUpdate Hooks.none e (some message)).Fails ⟨s, context, ()⟩ (Clean ⟨s, context, ()⟩) := by
  simp only [strictUpdate, required, hook_none, pure_bind]
  refine fails_converted names (fun failure h => Or.inr ⟨Or.inr (Or.inr h), rfl⟩)
    fun row pending converts collected => ?_
  have ready := Discipline.ready_of_collected (s := s) ha collected
  refine Fails.mono (P := fun failure _ => failure.Refused) ?_ fun failure last => Or.inl
  refine Fails.idle_bind (idle_lockRow row) (fails_lockRow row) (fun _ => Unanswered.refused)
    fun locked locks => ?_
  obtain ⟨-, allowed⟩ := (Discipline.moves_lockRow inv (D.record s ha converts)).of_ok locks
  refine (fails_prepare.mono fun _ _ => Unwritten.refused).bind fun prepared after prepares => ?_
  obtain ⟨t, rfl⟩ := steady_prepare.exists_of_ok prepares
  obtain ⟨goes, allowed⟩ := (Discipline.moves_prepare inv ready allowed).of_ok prepares
  obtain ⟨inv', leads⟩ := goes inv
  have ready := fun p hp => (ready p hp).mono leads
  refine (fails_prune.mono fun _ _ => Unanswered.refused).bind fun _ after prunes => ?_
  obtain ⟨u, rfl⟩ := steady_prune.exists_of_ok prunes
  have pruned : Moves D.Goes (prune pending prepared) (⟨t, context, ()⟩ : World K Unit)
      fun _ _ => True := Discipline.moves_prune ready
  obtain ⟨goes, -⟩ := pruned.of_ok prunes
  obtain ⟨inv'', leads'⟩ := goes inv'
  refine (Fails.write fun failure h => (save_fails h).refused).bind fun written after saved => ?_
  obtain ⟨v, saves, same⟩ := write_ok.mp saved
  obtain rfl : after = ⟨v, context, ()⟩ := same.trans (by rw [World.after_timeless])
  have write : Moves D.Goes (Action.write 1 fun context store => store.save context (table e) prepared)
      (⟨u, context, ()⟩ : World K Unit) fun written s => D.holds s (table e) written :=
    Moves.write (Discipline.goes_save (D.allows_mono leads' allowed)) Discipline.holds_save
  obtain ⟨goes, held⟩ := write.of_ok saved
  obtain ⟨inv₃, leads''⟩ := goes inv''
  rw [← bind_assoc]
  refine (refused_finish readable (Store.save_ok.mp saves).1 inv₃
    (fun p hp => (ready p hp).mono (D.trans leads' leads'')) held (mem_of_save saves)).bind ?_
  exact fun value _ _ => Fails.pure _

theorem clean_patch (mask : List String) (ha : D.admits e message) (inv : D.Inv s) :
    (patch Hooks.none e (some message) mask).Fails ⟨s, context, ()⟩ (Clean ⟨s, context, ()⟩) := by
  simp only [patch, required, hook_none, pure_bind]
  refine (clean_read readable names inv).bind fun current after read => ?_
  obtain ⟨-, rfl⟩ := (read_answers none current after).mp read
  obtain ⟨-, admitted⟩ := (Discipline.moves_read_admits Hooks.quiet_none inv).of_ok read
  refine (clean_strictUpdate readable names (D.masked mask ha admitted) inv).bind ?_
  exact fun value _ _ => Fails.pure _

omit [context.Timeless] in
/-- Patches of several messages that begin are not stopped by their arguments. -/
theorem fails_patches {messages : List (Message e × List String)}
    (ha : ∀ x ∈ messages, D.admits e x.1) (inv : D.Inv s) :
    (messages.mapM fun x => patch Hooks.none e (some x.1) x.2).Fails ⟨s, .unlimited, ()⟩
      fun failure _ => failure.Refused ∨ failure.Unsuited := by
  refine Fails.mapM_keeping (I := fun world => D.Inv world.store ∧ world.context = .unlimited) ?_ ?_ ⟨inv, rfl⟩
  · rintro x hx ⟨t, _, ⟨⟩⟩ ⟨inv', rfl⟩
    exact (clean_patch readable names x.2 (ha x hx) inv').mono fun _ _ => Or.imp_right And.left
  · rintro x hx value ⟨t, _, ⟨⟩⟩ after ⟨inv', rfl⟩ patched
    have admitted : ∀ m ∈ some x.1, D.admits e m := fun m hm => Option.mem_some.mp hm ▸ ha x hx
    obtain ⟨goes, -⟩ := (Discipline.moves_patch Hooks.quiet_none admitted inv').of_ok patched
    have endless := ((interruptible_patch (some x.1) x.2).yields t).unlimited
    rw [patched] at endless
    exact ⟨(goes inv').1, congrArg World.context (Prod.mk.inj endless).2⟩

end

omit [ExactKeys K] [Loadable E] in
theorem fails_delete {world : World K Unit} [world.context.Timeless] (input : Option (Message e)) :
    (Operations.delete Hooks.none e input).Fails world fun _ last => last = world := by
  simp only [Operations.delete, hook_none, pure_bind]
  refine Fails.idle_bind (idle_required input) Fails.unspecified (fun _ _ => rfl) fun message _ => ?_
  refine Fails.idle_bind (idle_toRecord message) Fails.unspecified (fun _ _ => rfl) fun row _ => ?_
  refine Fails.idle_bind (idle_requireKey row) Fails.unspecified (fun _ _ => rfl) fun _ _ => ?_
  exact Fails.bind (Fails.remove fun _ _ => world.after_timeless 1) fun _ _ _ => Fails.pure _

omit [ExactKeys K] [Loadable E] in
theorem fails_deleteSet {world : World K Unit} [world.context.Timeless] (input : Option (List (Message e))) :
    (deleteSet Hooks.none e input).Fails world fun _ last => last = world := by
  simp only [deleteSet, hook_none, pure_bind]
  refine Fails.idle_bind (idle_required input) Fails.unspecified (fun _ _ => rfl) fun messages _ => ?_
  refine Fails.idle_bind (Idle.mapM idle_requiredKey messages) Fails.unspecified (fun _ _ => rfl)
    fun keys _ => ?_
  exact Fails.bind (Fails.remove fun _ _ => world.after_timeless 1) fun _ _ _ => Fails.pure _

end Operations

/-! ## Calls -/

section

variable {E K : Type} [Catalog K] [Entities E K]

/-- Failures of a call that say that its arguments or messages do not do. A call that patches several
messages may find fault with one after it has patched others; what it finds at once is that there are
none, or not as many masks. -/
def Call.Rejects : Call E → Failure → Prop
  | .patchSet _ _ _, failure => failure = .argument .nilArgument ∨
      ∃ masks objects, failure = .argument (.maskCount masks objects)
  | .create _ _, failure | .read _ _ _, failure | .strictUpdate _ _, failure | .patch _ _ _, failure
  | .delete _ _, failure | .deleteSet _ _, failure | .list _ _, failure =>
    (∃ error, failure = .argument error) ∨ failure = .notFound ∨
      ∃ field fault, failure = .conversion field fault

end

variable {E K : Type} [DecidableEq K] [Catalog K] [ExactKeys K] [Bindings E K] [Loadable E]
  {D : Discipline E} {s : Store K} {context : Context} {failure : Failure} {last : World K Unit}

omit [DecidableEq K] [ExactKeys K] in
theorem discard_apply {α : Type} (act : Action K Unit α) (world : World K Unit) :
    discard act world = ((act world).1.map fun _ => (), (act world).2) := by
  have mapped : (discard act : Action K Unit Unit) = (fun _ => ()) <$> act := rfl
  rw [mapped, map_eq_pure_bind, bind_apply]
  rcases act world with ⟨_ | a, after⟩ <;> rfl

omit [DecidableEq K] [ExactKeys K] in
theorem discard_fails {α : Type} {act : Action K Unit α} {world : World K Unit}
    (h : discard act world = (.error failure, last)) : act world = (.error failure, last) := by
  rw [discard_apply] at h
  obtain ⟨failed, rfl⟩ := Prod.mk.inj h
  exact Prod.ext (Except.map_eq_error.mp failed) rfl

omit [DecidableEq K] [ExactKeys K] [Bindings E K] [Loadable E] in
theorem Clean.eq_of_rejects {world : World K Unit} (h : Clean world failure last)
    (rejects : (∃ error, failure = .argument error) ∨ failure = .notFound ∨
      ∃ field fault, failure = .conversion field fault) : last = world := by
  rcases h with refused | ⟨-, same⟩
  · rcases refused with rfl | rfl | ⟨error, rfl⟩ <;>
      rcases rejects with ⟨_, h⟩ | h | ⟨_, _, h⟩ <;> cases h
  · exact same

omit [DecidableEq K] [ExactKeys K] [Bindings E K] [Loadable E] in
theorem Call.Rejects.ne_cancelled [Entities E K] {call : Call E} (h : call.Rejects failure) :
    failure ≠ .cancelled := by
  rintro rfl
  cases call <;> rcases h with h | h <;> simp at h

/-- A call that rejects its arguments or messages changes nothing. -/
theorem Call.eq_of_rejects (readable : D.Readable) (names : NamesFields E) {call : Call E}
    (hw : call.Writes D.admits) (inv : D.Inv s)
    (failed : call.act Hooks.none ⟨s, context, ()⟩ = (.error failure, last))
    (rejects : call.Rejects failure) : last.store = s := by
  -- The context may come to its end, but the call has failed before.
  have failed := call.interruptible.of_error failed rejects.ne_cancelled
  suffices same : (⟨last.store, .unlimited, ()⟩ : World K Unit) = ⟨s, .unlimited, ()⟩ from
    congrArg World.store same
  cases call with
  | create e input =>
    cases input with
    | none => exact (Prod.mk.inj failed).2.symm
    | some message =>
      exact (clean_create readable names (hw message rfl) inv _ _ (discard_fails failed)).eq_of_rejects
        rejects
  | strictUpdate e input =>
    cases input with
    | none => exact (Prod.mk.inj failed).2.symm
    | some message =>
      exact (clean_strictUpdate readable names (hw message rfl) inv _ _
        (discard_fails failed)).eq_of_rejects rejects
  | patch e input mask =>
    cases input with
    | none => exact (Prod.mk.inj failed).2.symm
    | some message =>
      exact (clean_patch readable names mask (hw message rfl) inv _ _
        (discard_fails failed)).eq_of_rejects rejects
  | patchSet e input masks =>
    cases input with
    | none => exact (Prod.mk.inj failed).2.symm
    | some messages =>
      have failed := discard_fails failed
      simp only [Operations.patchSet, required, pure_bind] at failed
      split at failed
      · exact (Prod.mk.inj failed).2.symm
      · have admitted : ∀ x ∈ messages.zip masks, D.admits e x.1 :=
          fun x hx => hw messages rfl x.1 (List.of_mem_zip hx).1
        rcases fails_patches readable names admitted inv _ _ failed with refused | unsuited
        · rcases refused with rfl | rfl | ⟨_, rfl⟩ <;> rcases rejects with h | ⟨_, _, h⟩ <;> cases h
        · rcases unsuited with rfl | rfl | ⟨_, _, rfl⟩ <;>
            rcases rejects with h | ⟨_, _, h⟩ <;> cases h
  | read e input fields =>
    have idle : (Operations.read Hooks.none e input fields).Idle ⟨s, .unlimited, ()⟩ := idle_read input fields
    exact idle.eq_of_fails _ _ (discard_fails failed)
  | delete e input => exact fails_delete input _ _ failed
  | deleteSet e input => exact fails_deleteSet input _ _ failed
  | list e operators =>
    have idle : (Operations.list Hooks.none e operators).Idle ⟨s, .unlimited, ()⟩ := idle_list operators
    exact idle.eq_of_fails _ _ (discard_fails failed)

end Domain

end ProtoStore
