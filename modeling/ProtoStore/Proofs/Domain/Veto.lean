import ProtoStore.Domain.Script
import ProtoStore.Proofs.Domain.Failing
import ProtoStore.Proofs.Domain.Journal
import ProtoStore.Proofs.Domain.Lasting

/-!
# Hooks that reject

Which hook rejected is told by the journal of a call: the one that was called last.

* `Action.Obeys P act world` : when a hook rejects, the action fails at once with what the hook says, and
  `P` holds of the point and of the store; `Action.Voices points act` tells at which points hooks can
  reject at all.
* `Call.vetoed` : a call whose own hook rejects (`Call.phases`) leaves the store as it was. Only the hook
  that is asked right before the row of an update is saved comes later (`Cleaned`): references are saved
  and rows deleted by then.

Nothing is asked of the hooks but that they hand on what they are given.
-/

namespace ProtoStore.Domain

variable {K σ α β : Type} [Catalog K]

/-- The hook that was called last did not reject. -/
def World.Calm (world : World K (σ × List Heard)) : Prop :=
  ∀ heard ∈ world.notes.2.getLast?, heard.rejection = none

/-- If the hook that was called last rejected, then the failure is what it said, and `P` holds of its point
and the store. -/
def Heeds (P : String → Store K → Prop) (failure : Failure) (last : World K (σ × List Heard)) : Prop :=
  ∀ point text, last.notes.2.getLast? = some ⟨point, some text⟩ →
    failure = .hook text ∧ P point last.store

theorem World.Calm.heeds {P : String → Store K → Prop} {failure : Failure}
    {world : World K (σ × List Heard)} (calm : world.Calm) : Heeds P failure world :=
  fun _ _ last => nomatch calm _ last

namespace Action

/-- If the hook that is called last rejects, then the action fails with what it says, and `P` holds of its
point and the store. -/
structure Obeys (P : String → Store K → Prop) (act : Action K (σ × List Heard) α)
    (world : World K (σ × List Heard)) : Prop where
  calm {a : α} {after : World K (σ × List Heard)} : act world = (.ok a, after) → after.Calm
  fails : act.Fails world (Heeds P)

/-- Hooks reject at certain points only, and then the action fails at once. -/
def Voices (points : List String) (act : Action K (σ × List Heard) α) : Prop :=
  ∀ world, world.Calm → act.Obeys (fun point _ => point ∈ points) world

theorem Obeys.mono {P Q : String → Store K → Prop} {act : Action K (σ × List Heard) α}
    {world : World K (σ × List Heard)} (h : act.Obeys P world) (hp : ∀ point s, P point s → Q point s) :
    act.Obeys Q world :=
  ⟨h.calm, h.fails.mono fun _ last heeds point text rejected =>
    (heeds point text rejected).imp_right (hp point last.store)⟩

theorem Obeys.bind {P : String → Store K → Prop} {act : Action K (σ × List Heard) α}
    {f : α → Action K (σ × List Heard) β} {world : World K (σ × List Heard)} (h : act.Obeys P world)
    (hf : ∀ a after, act world = (.ok a, after) → after.Calm → (f a).Obeys P after) :
    (act >>= f).Obeys P world := by
  constructor
  · intro b last done
    obtain ⟨a, after, first, rest⟩ := bind_ok.mp done
    exact (hf a after first (h.calm first)).calm rest
  · exact h.fails.bind fun a after done => (hf a after done (h.calm done)).fails

namespace Voices

variable {points more : List String} {act : Action K (σ × List Heard) α}

theorem mono (h : act.Voices points) (sub : points ⊆ more) : act.Voices more :=
  fun world calm => (h world calm).mono fun _ _ m => sub m

/-- An action without hooks. -/
theorem of_notes (h : ∀ world, (act world).2.notes = world.notes) : act.Voices points := by
  intro world calm
  have same : ∀ {result after}, act world = (result, after) → after.Calm := by
    intro result after done
    have notes := h world
    rw [done] at notes
    unfold World.Calm
    rwa [notes]
  exact ⟨same, fun _ _ failed => (same failed).heeds⟩

/-- An action that does the same whatever the notes are. -/
theorem of_along (points : List String) {silent : Action K Unit α}
    (h : ∀ notes, Along (fun _ => notes) silent act) : act.Voices points := by
  refine of_notes fun ⟨store, context, notes⟩ => ?_
  have same := h notes ⟨store, context, ()⟩
  exact congrArg (fun answer => answer.2.notes) same

theorem pure (a : α) : (Pure.pure a : Action K (σ × List Heard) α).Voices points :=
  of_notes fun _ => rfl

theorem throw (failure : Failure) :
    (MonadExcept.throw failure : Action K (σ × List Heard) α).Voices points := of_notes fun _ => rfl

theorem ofExcept (result : Except Failure α) :
    (Action.ofExcept result : Action K (σ × List Heard) α).Voices points := of_notes fun _ => rfl

theorem ask (moments : Nat) (question : Context → Store K → Except Failure α) :
    (Action.ask moments question : Action K (σ × List Heard) α).Voices points := of_notes fun _ => rfl

theorem write (moments : Nat) (call : Context → Store K → Writing K α) :
    (Action.write moments call : Action K (σ × List Heard) α).Voices points := of_notes fun _ => rfl

theorem remove (call : Context → Store K → Except Failure (Store K × Nat)) :
    (Action.remove call : Action K (σ × List Heard) Unit).Voices points := by
  refine of_notes fun world => ?_
  unfold Action.remove
  cases call world.context world.store <;> rfl

theorem hook {E : Type} [Entities E K] (hooks : Hooks E σ) {e : E}
    (point : HookPoint (Message e) (Record e) α) (subject : α) (h : point.name ∈ points) :
    (Action.hook (hooks.journaled.call e point subject) : Action K _ α).Voices points := by
  refine fun world _ => ⟨fun {a after} done heard last => ?_, fun failure after failed name said last => ?_⟩
  · rw [hook_journaled] at done
    generalize hooks.call e point subject (world.context, world.notes.1) = answer at done
    obtain ⟨_ | _, context, notes⟩ := answer <;> cases done
    rw [List.getLast?_concat] at last
    cases last
    rfl
  · rw [hook_journaled] at failed
    generalize hooks.call e point subject (world.context, world.notes.1) = answer at failed
    obtain ⟨_ | _, context, notes⟩ := answer <;> cases failed
    rw [List.getLast?_concat] at last
    cases last
    exact ⟨rfl, h⟩

theorem bind {f : α → Action K (σ × List Heard) β} (h : act.Voices points)
    (hf : ∀ a, (f a).Voices points) : (act >>= f).Voices points :=
  fun world calm => (h world calm).bind fun a after _ => hf a after

theorem map (f : α → β) (h : act.Voices points) : (f <$> act).Voices points := by
  rw [map_eq_pure_bind]
  exact h.bind fun a => pure (f a)

/-! ## Loops -/

theorem optionMapM {f : β → Action K (σ × List Heard) α} (each : ∀ b, (f b).Voices points)
    (x : Option β) : (x.mapM f).Voices points := by
  cases x with
  | none => exact pure none
  | some b => exact (each b).map some

theorem mapM {f : β → Action K (σ × List Heard) α} (each : ∀ b, (f b).Voices points) (xs : List β) :
    (xs.mapM f).Voices points := by
  induction xs with
  | nil => exact pure []
  | cons x xs ih =>
    rw [List.mapM_cons]
    exact (each x).bind fun a => ih.bind fun as => pure (a :: as)

theorem foldlM {f : α → β → Action K (σ × List Heard) α} (each : ∀ a b, (f a b).Voices points)
    (xs : List β) (a : α) : (xs.foldlM f a).Voices points := by
  induction xs generalizing a with
  | nil => exact pure a
  | cons x xs ih =>
    rw [List.foldlM_cons]
    exact (each a x).bind ih

/-! ## What a rejection leaves -/

variable {P : String → Store K → Prop} {Q : α → Store K → Prop} {world : World K (σ × List Heard)}

/-- Where no hook rejects at a point that matters. -/
theorem obeys (points : List String) (h : act.Voices points) (calm : world.Calm)
    (apart : ∀ point ∈ points, ∀ s, P point s) : act.Obeys P world :=
  (h world calm).mono fun point s m => apart point m s

theorem silent (h : act.Voices []) (calm : world.Calm) : act.Obeys P world := h.obeys [] calm nofun

/-- What follows after an action without hooks. -/
theorem silent_bind {f : α → Action K (σ × List Heard) β} (h : act.Voices []) (calm : world.Calm)
    (hf : ∀ a after, act world = (.ok a, after) → after.Calm → (f a).Obeys P after) :
    (act >>= f).Obeys P world :=
  (h.silent calm).bind hf

/-- After an action that leaves the store as it is, what follows starts with the store it started with. -/
theorem still_bind {f : α → Action K (σ × List Heard) β} (h : act.Voices points)
    (still : Moves Eq act world Q) (calm : world.Calm) (hp : ∀ point ∈ points, P point world.store)
    (hf : ∀ a after, after.Calm → world.store = after.store → Q a after.store → (f a).Obeys P after) :
    (act >>= f).Obeys P world := by
  obtain ⟨calms, fails⟩ := h world calm
  refine Obeys.bind ⟨calms, fun failure last failed point text rejected => ?_⟩ fun a after done calm => ?_
  · obtain ⟨said, m⟩ := fails failure last failed point text rejected
    have same := still.1
    rw [failed] at same
    exact ⟨said, same ▸ hp point m⟩
  · obtain ⟨same, q⟩ := still.of_ok done
    exact hf a after calm same q

end Voices

end Action

/-! ## Operations -/

namespace Operations

open Domain.Action

variable {E : Type} [DecidableEq K] [Bindings E K] {e : E}

/-- The points of conversions. -/
def conversionPoints : List String :=
  ["before_to_orm", "after_to_orm", "before_to_pb", "after_to_pb"]

/-- The points of readings. -/
def readingPoints : List String :=
  "before_read_apply_query" :: "before_read_find" :: "after_read_find" :: conversionPoints

/-- The points of updates. -/
def updatingPoints : List String :=
  "before_strict_update_cleanup" :: "before_strict_update_save" :: "after_strict_update_save" ::
    conversionPoints

/-! ### Parts -/

section

variable {hooks : Hooks E σ}

omit [DecidableEq K] in
theorem voices_toRecord (message : Message e) :
    (toRecord hooks.journaled e message).Voices conversionPoints := by
  refine (Voices.hook hooks _ _ ?_).bind fun _ => (Voices.ofExcept _).bind fun _ =>
    Voices.hook hooks _ _ ?_ <;> simp [conversionPoints, HookPoint.name]

omit [DecidableEq K] in
theorem voices_toMessage (row : Record e) :
    (toMessage hooks.journaled e row).Voices conversionPoints := by
  refine (Voices.hook hooks _ _ ?_).bind fun _ => (Voices.ofExcept _).bind fun _ =>
    Voices.hook hooks _ _ ?_ <;> simp [conversionPoints, HookPoint.name]

omit [DecidableEq K] in
theorem voices_collect (message : Message e) :
    (collect hooks.journaled e message).Voices conversionPoints := by
  refine Voices.mapM (fun link => ?_) _
  cases link with
  | reference link => exact (Voices.optionMapM voices_toRecord _).bind fun _ => Voices.pure _
  | children link => exact (Voices.mapM voices_toRecord _).bind fun _ => Voices.pure _
  | joined link => exact (Voices.mapM voices_toRecord _).bind fun _ => Voices.pure _

theorem voices_loadOne (row : Record e) (message : Message e) (link : MessageLink e) :
    (Operations.loadOne hooks.journaled row message link).Voices conversionPoints := by
  cases link with
  | reference link =>
    rw [Operations.loadOne]
    split
    · exact Voices.pure _
    · refine (Voices.ask _ _).bind fun found => ?_
      exact (Voices.optionMapM voices_toMessage found).bind fun _ => Voices.pure _
  | children link =>
    refine (Voices.ask _ _).bind fun rows => ?_
    exact (Voices.mapM voices_toMessage rows).bind fun _ => Voices.pure _
  | joined link =>
    refine (Voices.ask _ _).bind fun rows => ?_
    exact (Voices.mapM voices_toMessage rows).bind fun _ => Voices.pure _

theorem voices_respond (row : Record e) : (respond hooks.journaled e row).Voices conversionPoints :=
  (voices_toMessage row).bind fun message =>
    Voices.foldlM (fun message link => voices_loadOne row message link) _ message

theorem voices_read (input : Option (Message e)) :
    (Operations.read hooks.journaled e input none).Voices readingPoints := by
  have sub : conversionPoints ⊆ readingPoints := fun _ h => by simp [readingPoints, h]
  refine (Voices.of_along _ fun _ => along_required input).bind fun message => ?_
  refine ((voices_toRecord message).mono sub).bind fun row => ?_
  refine (Voices.of_along _ fun _ => along_requireKey row).bind fun _ => ?_
  refine (Voices.hook hooks _ _ (by simp [readingPoints, HookPoint.name])).bind fun query => ?_
  refine (Voices.hook hooks _ _ (by simp [readingPoints, HookPoint.name])).bind fun query => ?_
  refine (Voices.ask _ _).bind fun found => ?_
  cases found with
  | none => exact Voices.throw _
  | some found =>
    refine (Voices.hook hooks _ _ (by simp [readingPoints, HookPoint.name])).bind fun found => ?_
    exact (voices_respond found).mono sub

theorem voices_strictUpdate (input : Option (Message e)) :
    (strictUpdate hooks.journaled e input).Voices updatingPoints := by
  have sub : conversionPoints ⊆ updatingPoints := fun _ h => by simp [updatingPoints, h]
  refine (Voices.of_along _ fun _ => along_required input).bind fun message => ?_
  refine ((voices_toRecord message).mono sub).bind fun row => ?_
  refine ((voices_collect message).mono sub).bind fun pending => ?_
  refine (Voices.of_along _ fun _ => along_lockRow row).bind fun locked => ?_
  refine (Voices.hook hooks _ _ (by simp [updatingPoints, HookPoint.name])).bind fun row => ?_
  refine (Voices.of_along _ fun _ => along_prepare pending row).bind fun row => ?_
  refine (Voices.of_along _ fun _ => along_prune pending row).bind fun _ => ?_
  refine (Voices.hook hooks _ _ (by simp [updatingPoints, HookPoint.name])).bind fun row => ?_
  refine (Voices.write _ _).bind fun row => ?_
  refine (Voices.of_along _ fun _ => along_saveCollections pending row).bind fun _ => ?_
  refine (Voices.hook hooks _ _ (by simp [updatingPoints, HookPoint.name])).bind fun _ => ?_
  exact ((voices_respond row).mono sub).bind fun value => Voices.pure _

end

/-! ### Whole operations -/

section

variable {hooks : Hooks E σ} (quiet : hooks.Quiet) {world : World K (σ × List Heard)}
  (calm : world.Calm)
include quiet calm

theorem obeys_create (input : Option (Message e)) :
    (Operations.create hooks.journaled e input).Obeys
      (fun point s => point = "before_create" → s = world.store) world := by
  unfold Operations.create
  refine Voices.still_bind (Voices.of_along [] fun _ => along_required input)
    (moves_required input) calm (fun _ _ _ => rfl) fun message _ calm same _ => ?_
  rw [same]
  refine (voices_toRecord message).still_bind (moves_toRecord quiet.journaled e message) calm
    (fun _ _ _ => rfl) fun row _ calm same _ => ?_
  rw [same]
  refine (voices_collect message).still_bind (moves_collect quiet.journaled message) calm
    (fun _ _ _ => rfl) fun pending _ calm same _ => ?_
  rw [same]
  refine (Voices.hook hooks .beforeCreate row (List.mem_singleton_self _)).still_bind
    (Moves.hook quiet.journaled _ _) calm (fun _ _ _ => rfl) fun row _ calm _ _ => ?_
  refine Voices.obeys ("after_create" :: conversionPoints) ?_ calm
    (by simp [conversionPoints])
  refine (Voices.of_along _ fun _ => along_prepare pending row).bind fun row => ?_
  refine (Voices.write _ _).bind fun row => ?_
  refine (Voices.of_along _ fun _ => along_saveCollections pending row).bind fun _ => ?_
  refine (Voices.hook hooks (.afterCreate row) () List.mem_cons_self).bind fun _ => ?_
  exact (voices_respond row).mono (List.subset_cons_self _ _)

theorem obeys_delete (input : Option (Message e)) :
    (Operations.delete hooks.journaled e input).Obeys
      (fun point s => point = "before_delete" → s = world.store) world := by
  unfold Operations.delete
  refine Voices.still_bind (Voices.of_along [] fun _ => along_required input)
    (moves_required input) calm (fun _ _ _ => rfl) fun message _ calm same _ => ?_
  rw [same]
  refine (voices_toRecord message).still_bind (moves_toRecord quiet.journaled e message) calm
    (fun _ _ _ => rfl) fun row _ calm same _ => ?_
  rw [same]
  refine Voices.still_bind (Voices.of_along [] fun _ => along_requireKey row)
    (moves_requireKey row) calm (fun _ _ _ => rfl) fun _ _ calm same _ => ?_
  rw [same]
  refine (Voices.hook hooks (.beforeDelete row) _ (List.mem_singleton_self _)).still_bind
    (Moves.hook quiet.journaled _ _) calm (fun _ _ _ => rfl) fun query _ calm _ _ => ?_
  refine Voices.obeys ["after_delete"] ?_ calm (by simp)
  exact (Voices.remove _).bind fun _ => Voices.hook hooks _ _ List.mem_cons_self

theorem obeys_deleteSet (input : Option (List (Message e))) :
    (deleteSet hooks.journaled e input).Obeys
      (fun point s => point = "before_delete_set" → s = world.store) world := by
  unfold deleteSet
  refine Voices.still_bind (Voices.of_along [] fun _ => along_required input)
    (moves_required input) calm (fun _ _ _ => rfl) fun messages _ calm same _ => ?_
  rw [same]
  have voices : ∀ message : Message e,
      (requiredKey hooks.journaled e message).Voices conversionPoints := fun message =>
    (voices_toRecord message).bind fun row =>
      (Voices.of_along _ fun _ => along_requireKey row).bind fun _ => Voices.pure _
  have still : ∀ (message : Message e) (w : World K (σ × List Heard)),
      Moves Eq (requiredKey hooks.journaled e message) w fun _ _ => True := fun message w =>
    (moves_toRecord quiet.journaled e message).bind fun row _ _ _ =>
      (moves_requireKey row).bind fun _ _ _ _ => Moves.pure trivial
  refine (Voices.mapM voices messages).still_bind
    (Moves.mapM (P := fun _ _ _ => True) (fun message _ w _ => still message w) fun _ _ _ _ _ h => h)
    calm (fun _ _ _ => rfl) fun keys _ calm same _ => ?_
  rw [same]
  refine (Voices.hook hooks (.beforeDeleteSet messages) _ (List.mem_singleton_self _)).still_bind
    (Moves.hook quiet.journaled _ _) calm (fun _ _ _ => rfl) fun query _ calm _ _ => ?_
  refine Voices.obeys ["after_delete_set"] ?_ calm (by simp)
  exact (Voices.remove _).bind fun _ => Voices.hook hooks _ _ List.mem_cons_self

/-- What an update of a message does before its row is saved. -/
inductive Cleaned (message : Message e) (s t : Store K) : Prop
  | intro (row : Record e) (pending : List (Pending e)) (locked : Bool × Record e)
    (prepared : Record e) (referred : Store K) (converts : Converts e message row)
    (collected : List.Forall₂ (Collected message) (Bindings.links e) pending)
    (locks : Locks .unlimited s e row locked)
    (prepares : prepare pending locked.2 ⟨s, .unlimited, ()⟩ = (.ok prepared, ⟨referred, .unlimited, ()⟩))
    (prunes : prune pending prepared ⟨referred, .unlimited, ()⟩ = (.ok (), ⟨t, .unlimited, ()⟩))

omit quiet calm in
theorem moves_lockRow (row : Record e) : Moves Eq (lockRow e row) world fun locked s =>
    Locks .unlimited s e row locked := by
  have stays : Moves Eq (lockRow e row) world fun _ _ => True := by
    unfold lockRow
    split
    · exact (Moves.ask _).bind fun _ _ _ _ => Moves.pure trivial
    · refine (Moves.ask _).bind fun found _ _ _ => ?_
      cases found <;> exact Moves.pure trivial
  refine ⟨stays.1, fun locked done => ?_⟩
  rw [← stays.1]
  have silent := (along_lockRow row).of_eq (f := fun _ : σ × List Heard => ()) (Prod.ext done rfl)
  have answers : (lockRow e row : Action K Unit _).Answers ⟨world.store, .unlimited, ()⟩ _ := lockRow_answers row
  exact ((answers locked _).mp ((interruptible_lockRow row).of_ok silent)).1

omit quiet calm in
/-- Neither the references nor the rows to be deleted mind what the notes are, or when the context ends. -/
theorem cleaned_of_runs {message : Message e} {row : Record e} {pending : List (Pending e)}
    {locked : Bool × Record e} {prepared : Record e} {start after last : World K (σ × List Heard)}
    (converts : Converts e message row)
    (collected : List.Forall₂ (Collected message) (Bindings.links e) pending)
    (locks : Locks .unlimited start.store e row locked)
    (prepares : prepare pending locked.2 start = (.ok prepared, after))
    (prunes : prune pending prepared after = (.ok (), last)) : Cleaned message start.store last.store := by
  have prepares := (along_prepare pending locked.2).of_eq (f := fun _ => ()) prepares
  have prunes := (along_prune pending prepared).of_eq (f := fun _ => ()) prunes
  exact .intro row pending locked prepared after.store converts collected locks
    ((interruptible_prepare pending locked.2).of_ok prepares) ((interruptible_prune pending prepared).of_ok prunes)

theorem obeys_strictUpdate (message : Message e) :
    (strictUpdate hooks.journaled e (some message)).Obeys (fun point s =>
      (point = "before_strict_update_cleanup" → s = world.store) ∧
        (point = "before_strict_update_save" → Cleaned message world.store s)) world := by
  have early : ∀ point ∈ "before_strict_update_cleanup" :: conversionPoints, ∀ s : Store K,
      (point = "before_strict_update_cleanup" → s = s) ∧
        (point = "before_strict_update_save" → Cleaned message s s) := by
    intro point m s
    refine ⟨fun _ => rfl, ?_⟩
    rintro rfl
    simp [conversionPoints] at m
  simp only [strictUpdate, required, pure_bind]
  refine (voices_toRecord message).still_bind (moves_toRecord quiet.journaled e message) calm
    (fun point m => early point (List.mem_cons_of_mem _ m) _) fun row _ calm same converts => ?_
  rw [same]
  refine (voices_collect message).still_bind (moves_collect quiet.journaled message) calm
    (fun point m => early point (List.mem_cons_of_mem _ m) _) fun pending w calm same collected => ?_
  rw [same]
  refine Voices.still_bind (Voices.of_along [] fun _ => along_lockRow row) (moves_lockRow row)
    calm (fun _ m => absurd m List.not_mem_nil) fun locked _ calm same locks => ?_
  rw [same]
  refine (Voices.hook hooks .beforeUpdateCleanup locked.2 (List.mem_singleton_self _)).still_bind
    (Moves.hook quiet.journaled _ _) calm (fun point m => ?_) fun row later calm same unchanged => ?_
  · exact early point (List.mem_singleton.mp m ▸ List.mem_cons_self) _
  subst unchanged
  rw [same] at locks ⊢
  refine Voices.silent_bind (Voices.of_along _ fun _ => along_prepare pending locked.2) calm
    fun prepared after prepares calm => ?_
  refine Voices.silent_bind (Voices.of_along _ fun _ => along_prune pending prepared) calm
    fun _ last prunes calm => ?_
  refine (Voices.hook hooks .beforeUpdateSave prepared (List.mem_singleton_self _)).still_bind
    (Moves.hook quiet.journaled _ _) calm (fun point m => ?_) fun row _ calm _ _ => ?_
  · obtain rfl := List.mem_singleton.mp m
    exact ⟨fun h => absurd h (by simp [HookPoint.name]), fun _ =>
      cleaned_of_runs converts collected locks prepares prunes⟩
  refine Voices.obeys ("after_strict_update_save" :: conversionPoints) ?_ calm
    (by simp [conversionPoints])
  refine (Voices.write _ _).bind fun row => ?_
  refine (Voices.of_along _ fun _ => along_saveCollections pending row).bind fun _ => ?_
  refine (Voices.hook hooks (.afterUpdateSave row) () List.mem_cons_self).bind fun _ => ?_
  exact ((voices_respond row).mono (List.subset_cons_self _ _)).bind fun value => Voices.pure _

/-- The points of a patch and of the update in it before anything is written. -/
def patchingPoints : List String :=
  ["before_patch_read", "before_patch_apply_field_mask", "before_patch_save", "before_strict_update_cleanup"]

theorem obeys_patch (input : Option (Message e)) (mask : List String) :
    (patch hooks.journaled e input mask).Obeys
      (fun point s => point ∈ patchingPoints → s = world.store) world := by
  unfold patch
  refine Voices.still_bind (Voices.of_along [] fun _ => along_required input)
    (moves_required input) calm nofun fun message _ calm same _ => ?_
  rw [same]
  refine (Voices.hook hooks (.beforePatchRead message mask) () (List.mem_singleton_self _)).still_bind
    (Moves.hook quiet.journaled _ _) calm (fun _ _ _ => rfl) fun _ _ calm same _ => ?_
  rw [same]
  refine (voices_read _).still_bind (moves_read quiet.journaled) calm (fun _ _ _ => rfl)
    fun current _ calm same _ => ?_
  rw [same]
  refine (Voices.hook hooks (.beforePatchApply current message mask) ()
    (List.mem_singleton_self _)).still_bind (Moves.hook quiet.journaled _ _) calm (fun _ _ _ => rfl)
    fun _ _ calm same _ => ?_
  rw [same]
  refine (Voices.hook hooks (.beforePatchSave message mask) _ (List.mem_singleton_self _)).still_bind
    (Moves.hook quiet.journaled _ _) calm (fun _ _ _ => rfl) fun merged _ calm same _ => ?_
  rw [same]
  obtain ⟨calms, voices⟩ : (strictUpdate hooks.journaled e (some merged)).Obeys
    (fun point _ => point ∈ updatingPoints) _ := voices_strictUpdate (some merged) _ calm
  refine Obeys.bind ⟨calms, fun failure last failed point text rejected => ?_⟩ fun saved _ _ calm => ?_
  · obtain ⟨said, cleanup, -⟩ :=
      (obeys_strictUpdate quiet calm merged).fails failure last failed point text rejected
    obtain ⟨-, voiced⟩ := voices failure last failed point text rejected
    refine ⟨said, fun m => cleanup ?_⟩
    simp only [patchingPoints, List.mem_cons, List.not_mem_nil, or_false] at m
    rcases m with rfl | rfl | rfl | rfl <;> simp [updatingPoints, conversionPoints] at voiced ⊢
  · refine Voices.obeys ["after_patch_save"] ?_ calm (by simp [patchingPoints])
    refine (Voices.hook hooks (.afterPatchSave saved.value message mask) () List.mem_cons_self).bind ?_
    exact fun _ => Voices.pure _

end

end Operations

/-! ## Calls -/

namespace Call

open Domain.Action Operations

variable {E : Type} [DecidableEq K] [Bindings E K]

/-- The points at which a call lets its own hooks decide whether it goes on. -/
def phases : Call E → List String
  | create _ _ => ["before_create"]
  | strictUpdate _ _ => ["before_strict_update_cleanup", "before_strict_update_save"]
  | patch _ _ _ => patchingPoints
  | delete _ _ => ["before_delete"]
  | deleteSet _ _ => ["before_delete_set"]
  | read _ _ _ | patchSet _ _ _ | list _ _ => []

/-- A call whose own hook rejects leaves the store it started with, or, right before the row of an update
is saved, what the update has done till then. -/
structure Spares (call : Call E) (s : Store K) (point : String) (t : Store K) : Prop where
  same : point ≠ "before_strict_update_save" → t = s
  cleaned : point = "before_strict_update_save" →
    ∃ e m, call = .strictUpdate e (some m) ∧ Cleaned m s t

omit [DecidableEq K] in
theorem obeys_discard {P : String → Store K → Prop} {act : Action K (σ × List Heard) α}
    {world : World K (σ × List Heard)} (h : act.Obeys P world) : (discard act).Obeys P world := by
  have mapped : (discard act : Action K (σ × List Heard) Unit) = (fun _ => ()) <$> act := rfl
  rw [mapped, map_eq_pure_bind]
  exact h.bind fun a after _ calm => (Voices.pure ()).silent calm

/-- Only updates ask hooks right before a row is saved. -/
theorem Spares.of_same {call : Call E} {s t : Store K} {point : String}
    (other : point ≠ "before_strict_update_save") (same : t = s) : call.Spares s point t :=
  ⟨fun _ => same, fun save => absurd save other⟩

/-- A call that has hooks of its own heeds them. -/
theorem obeys_phases {hooks : Hooks E σ} (quiet : hooks.Quiet) {world : World K (σ × List Heard)}
    (calm : world.Calm) {call : Call E} (asks : call.phases ≠ []) : (call.act hooks.journaled).Obeys
      (fun point s => point ∈ call.phases → call.Spares world.store point s) world := by
  cases call with
  | create e input =>
    refine obeys_discard ((obeys_create quiet calm input).mono fun point s same own => ?_)
    obtain rfl := List.mem_singleton.mp own
    exact .of_same (by decide) (same rfl)
  | strictUpdate e input =>
    cases input with
    | none => exact obeys_discard ((Voices.throw _).silent calm)
    | some m =>
      refine obeys_discard ((obeys_strictUpdate quiet calm m).mono fun point s ⟨cleanup, save⟩ own => ?_)
      rcases List.mem_cons.mp own with rfl | own
      · exact .of_same (by decide) (cleanup rfl)
      · obtain rfl := List.mem_singleton.mp own
        exact ⟨fun ne => absurd rfl ne, fun _ => ⟨e, m, rfl, save rfl⟩⟩
  | patch e input mask =>
    refine obeys_discard ((obeys_patch quiet calm input mask).mono fun point s same own => ?_)
    refine .of_same (fun save => ?_) (same own)
    subst save
    change _ ∈ patchingPoints at own
    exact absurd own (by decide)
  | delete e input =>
    refine (obeys_delete quiet calm input).mono fun point s same own => ?_
    obtain rfl := List.mem_singleton.mp own
    exact .of_same (by decide) (same rfl)
  | deleteSet e input =>
    refine (obeys_deleteSet quiet calm input).mono fun point s same own => ?_
    obtain rfl := List.mem_singleton.mp own
    exact .of_same (by decide) (same rfl)
  | read | patchSet | list => exact absurd rfl asks

/-- A call whose own hook rejects fails with that. -/
theorem vetoed {hooks : Hooks E σ} (quiet : hooks.Quiet) {call : Call E} {world : World K σ}
    {point text : String} (own : point ∈ call.phases)
    (rejected : (call.journal hooks world).getLast? = some ⟨point, some text⟩) :
    (call.act hooks world).1 = .error (.hook text) ∧
      call.Spares world.store point (call.act hooks world).2.store := by
  have calm : (opened world).Calm := nofun
  have obeys := obeys_phases quiet calm (List.ne_nil_of_mem own)
  rw [call.along_journaled hooks world]
  unfold journal at rejected
  rcases acted : call.act hooks.journaled (opened world) with ⟨failure | _, last⟩ <;>
    rw [acted] at rejected
  · obtain ⟨rfl, spares⟩ := obeys.fails failure last acted point text rejected
    exact ⟨rfl, spares own⟩
  · cases obeys.calm acted _ rejected

end Call

/-! ## Scripts -/

namespace Script

variable {E : Type} [Bindings E K]

/-- A script that only says where to fail. -/
def rejecting (labels : List String) : Script := ⟨[], [], [], [], [], labels⟩

theorem edit_rejecting (labels : List String) (label : String) {e : E}
    (point : HookPoint (Message e) (Record e) α) (subject : α) :
    (rejecting labels).edit label point subject = subject := by
  cases point <;> rfl

theorem quiet_rejecting (labels : List String) (name : E → String) :
    ((rejecting labels).hooks name).Quiet := by
  intro α e point subject (context, notes) a h
  have edited := edit_rejecting labels (name e ++ "." ++ point.name) point subject
  unfold hooks at h
  by_cases fails : (rejecting labels).failures.contains (name e ++ "." ++ point.name) = true
  · simp only [fails] at h
    cases h
  · simp only [fails] at h
    cases h
    exact edited

end Script

end ProtoStore.Domain
