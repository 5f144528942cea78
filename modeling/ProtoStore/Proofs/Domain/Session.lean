import ProtoStore.Proofs.Domain.Lasting

/-!
# Operations that share a store

A store answers one call at a time. Between two calls of one operation it may answer those of another, so what
one call has found need not be true any more at the next.

* `Session` : an operation cut at its calls;
* `Session.interleave` : two sessions on one store, their calls in any order of turns;
* `updating` : the session of a strict update of messages without links, which is the operation itself where
  nobody disturbs it (`alone_updating`);
* `created_of_interleaved` : what two strict updates of one key report as created.
-/

namespace ProtoStore.Domain

variable {E K α β γ : Type} [Catalog K]

/-- What is left of an operation between two calls of the store. -/
inductive Session (K : Type) [Catalog K] (α : Type)
  /-- The result, after the last call. -/
  | ended (result : Except Failure α)
  /-- A call, given by the store that it leaves, and what is left after it. -/
  | call (leaves : Store K → Store K) (rest : Store K → Session K α)

/-- Which of two sessions makes the next call. -/
inductive Turn
  | first
  | second
deriving Repr, DecidableEq

/-- The turns of two sessions of two calls each, of which one comes after the other. -/
def Turn.Serial (turns : List Turn) : Prop :=
  turns = [.first, .first, .second, .second] ∨ turns = [.second, .second, .first, .first]

instance (turns : List Turn) : Decidable (Turn.Serial turns) := inferInstanceAs (Decidable (_ ∨ _))

/-- The turn of the other session. -/
def Turn.swap : Turn → Turn
  | first => second
  | second => first

theorem Turn.swap_comp_swap : Turn.swap ∘ Turn.swap = id := by
  funext turn
  cases turn <;> rfl

theorem Turn.map_swap_eq_iff {turns others : List Turn} :
    turns.map Turn.swap = others ↔ turns = others.map Turn.swap := by
  constructor <;> rintro rfl <;> rw [List.map_map, swap_comp_swap, List.map_id]

namespace Session

/-- An action that calls the store once, and the session after it, in what is left of its context. -/
def perform (act : Action K Unit β) (context : Context) (next : Context → β → Session K α) : Session K α :=
  .call (fun store => (act ⟨store, context, ()⟩).2.store) fun store =>
    match act ⟨store, context, ()⟩ with
    | (.ok value, after) => next after.context value
    | (.error failure, _) => .ended (.error failure)

/-- The store and the result of a session without others. -/
def alone : Session K α → Store K → Store K × Except Failure α
  | .ended result, store => (store, result)
  | .call leaves rest, store => (rest store).alone (leaves store)

/-- The store and the results of two sessions that make their calls in the order of the turns, if these are all
their calls. -/
def interleave : List Turn → Store K → Session K α → Session K β →
    Option (Store K × Except Failure α × Except Failure β)
  | [], store, .ended one, .ended two => some (store, one, two)
  | .first :: turns, store, .call leaves rest, two => interleave turns (leaves store) (rest store) two
  | .second :: turns, store, one, .call leaves rest => interleave turns (leaves store) one (rest store)
  | _, _, _, _ => none

theorem alone_perform {act : Action K Unit β} {context : Context} {next : Context → β → Session K α}
    (store : Store K) : (perform act context next).alone store = match act ⟨store, context, ()⟩ with
      | (.ok value, after) => (next after.context value).alone after.store
      | (.error failure, after) => (after.store, .error failure) := by
  simp only [perform, alone]
  rcases act ⟨store, context, ()⟩ with ⟨_ | _, _⟩ <;> simp only [alone]

/-! ## Interleaving -/

section

variable {turns : List Turn} {store final : Store K} {one : Session K α} {two : Session K β}
  {result own : Except Failure α} {other : Except Failure β} {context : Context}

theorem interleave_call {leaves : Store K → Store K} {rest : Store K → Session K α} :
    interleave (.first :: turns) store (.call leaves rest) two =
      interleave turns (leaves store) (rest store) two := by
  cases two <;> rfl

theorem interleave_swap (turns : List Turn) (store : Store K) (one : Session K α) (two : Session K β) :
    interleave (turns.map Turn.swap) store two one =
      (interleave turns store one two).map fun (final, first, second) => (final, second, first) := by
  induction turns generalizing store one two with
  | nil => cases one <;> cases two <;> rfl
  | cons turn turns ih =>
    cases turn with
    | first =>
      cases one with
      | ended result => cases two <;> rfl
      | call leaves rest =>
        cases two <;> exact ih (leaves store) (rest store) _
    | second =>
      cases two with
      | ended result => cases one <;> rfl
      | call leaves rest =>
        cases one <;> exact ih (leaves store) _ (rest store)

/-- Two sessions that have ended have no more calls. -/
theorem interleave_over {a : Except Failure α} {b : Except Failure β}
    {outcome : Store K × Except Failure α × Except Failure β}
    (h : interleave turns store (.ended a) (.ended b) = some outcome) : turns = [] := by
  cases turns with
  | nil => rfl
  | cons turn turns => cases turn <;> cases h

/-- A session that has ended has no turn and keeps its result. -/
theorem interleave_ended (h : interleave turns store (.ended own) two = some (final, result, other)) :
    result = own := by
  induction turns generalizing store two with
  | nil =>
    cases two <;> cases h
    rfl
  | cons turn turns ih =>
    cases turn <;> cases two
    case second.call leaves rest => exact ih h
    all_goals cases h

/-- Where only the second session has turns, the first has ended and the second is alone. -/
theorem interleave_seconds {m : Nat} (h : interleave (.replicate m .second) store one two =
    some (final, result, other)) : one = .ended result ∧ (final, other) = two.alone store := by
  induction m generalizing store two with
  | zero =>
    cases one <;> cases two <;> cases h
    exact ⟨rfl, rfl⟩
  | succ m ih =>
    rw [List.replicate_succ] at h
    cases two with
    | ended result => cases one <;> cases h
    | call leaves rest =>
      have h : interleave (.replicate m .second) (leaves store) one (rest store) =
          some (final, result, other) := by
        cases one <;> exact h
      obtain ⟨ended, left⟩ := ih h
      exact ⟨ended, left⟩

/-- Sessions that come one after the other are alone, each on the store it finds. -/
theorem interleave_in_turn {n m : Nat} (h : interleave (.replicate n .first ++ .replicate m .second) store one
    two = some (final, result, other)) :
    result = (one.alone store).2 ∧ (final, other) = two.alone (one.alone store).1 := by
  induction n generalizing store one with
  | zero =>
    obtain ⟨rfl, rest⟩ := interleave_seconds h
    exact ⟨rfl, rest⟩
  | succ n ih =>
    rw [List.replicate_succ, List.cons_append] at h
    cases one with
    | ended result => cases two <;> cases h
    | call leaves rest =>
      rw [interleave_call] at h
      obtain ⟨first, second⟩ := ih h
      exact ⟨first, second⟩

/-- A call of the first session after which it still succeeds. -/
theorem interleave_first {next : Context → β → Session K α} {value : α} {act : Action K Unit β} {two : Session K γ}
    {other : Except Failure γ}
    (h : interleave (.first :: turns) store (perform act context next) two = some (final, .ok value, other)) :
    ∃ answer after, act ⟨store, context, ()⟩ = (.ok answer, after) ∧
      interleave turns after.store (next after.context answer) two = some (final, .ok value, other) := by
  unfold perform at h
  rw [interleave_call] at h
  split at h
  · next answer after done =>
    rw [done] at h
    exact ⟨answer, after, done, h⟩
  · cases interleave_ended h

theorem interleave_second {next : Context → β → Session K α} {value : α} {act : Action K Unit β} {one : Session K γ}
    {other : Except Failure γ}
    (h : interleave (.second :: turns) store one (perform act context next) = some (final, other, .ok value)) :
    ∃ answer after, act ⟨store, context, ()⟩ = (.ok answer, after) ∧
      interleave turns after.store one (next after.context answer) = some (final, other, .ok value) := by
  have swapped := interleave_swap (.second :: turns) store one (perform act context next)
  rw [h] at swapped
  obtain ⟨answer, after, done, rest⟩ := interleave_first swapped
  refine ⟨answer, after, done, ?_⟩
  have back := interleave_swap (turns.map Turn.swap) after.store (next after.context answer) one
  rwa [rest, List.map_map, Turn.swap_comp_swap, List.map_id] at back

end

end Session

namespace Operations

open Session

variable [DecidableEq K] [Bindings E K] {e : E}

/-! ## Strict updates in two calls -/

/-- Whether the row of a message is new, and the row: the part of a strict update up to its first call. -/
def look (e : E) (input : Option (Message e)) : Action K Unit (Bool × Record e) := do
  let message ← required input
  let row ← toRecord Hooks.none e message
  lockRow e row

/-- The part of a strict update from its second call on, which saves the row. -/
def conclude (e : E) (looked : Bool × Record e) : Action K Unit (Upserted (Message e)) := do
  let row ← .write 1 fun context store => store.save context (table e) looked.2
  return ⟨← respond Hooks.none e row, looked.1⟩

/-- What is left of a strict update after its first call. -/
def concluding (context : Context) (e : E) (looked : Bool × Record e) : Session K (Upserted (Message e)) :=
  perform (conclude e looked) context fun _ upserted => .ended (.ok upserted)

/-- The session of a strict update of a message without links. -/
def updating (context : Context) (e : E) (input : Option (Message e)) : Session K (Upserted (Message e)) :=
  perform (look e input) context fun later => concluding later e

theorem strictUpdate_leaf (h : Bindings.links e = []) (input : Option (Message e)) :
    strictUpdate Hooks.none e input = look e input >>= conclude e := by
  have unlinked (looked : Bool × Record e) : prune [] looked.2 = (pure () : Action K Unit Unit) := by
    unfold prune
    split <;> rfl
  simp only [strictUpdate, look, collect, h, List.mapM_nil, prepare, List.foldlM_nil, unlinked,
    saveCollections, hook_none, pure_bind, bind_assoc]
  rfl

/-- A strict update that nobody disturbs is the operation. -/
theorem alone_updating (h : Bindings.links e = []) (context : Context) (input : Option (Message e))
    (store : Store K) :
    (updating context e input).alone store =
      ((strictUpdate Hooks.none e input ⟨store, context, ()⟩).2.store,
        (strictUpdate Hooks.none e input ⟨store, context, ()⟩).1) := by
  rw [strictUpdate_leaf h, Action.bind_apply]
  unfold updating
  rw [alone_perform]
  rcases look e input ⟨store, context, ()⟩ with ⟨_ | looked, after, later, notes⟩
  · rfl
  · dsimp only
    unfold concluding
    rw [alone_perform]
    rcases conclude e looked ⟨after, later, notes⟩ with ⟨_ | _, _⟩ <;> rfl

/-! ## What strict updates find -/

section Created

variable {context : Context} {store final : Store K} {message : Message e}
  {looked : Bool × Record e} {upserted : Upserted (Message e)} {turns : List Turn} {other : Session K β}
  {result : Except Failure β}

/-- The first call finds whether a row has the key. -/
theorem look_ok [KeyColumns E] [ExactKeys K] {after : World K Unit} (parents : Bindings.keepParents? e = none)
    (h : look e (some message) ⟨store, context, ()⟩ = (.ok looked, after)) :
    after.store = store ∧ Converts e message looked.2 ∧
      (looked.1 = true ↔ Store.key looked.2 ∉ (store.rows (table e)).map Store.key) := by
  have interruptible : (look e (some message)).Interruptible :=
    (interruptible_required (some message)).bind fun message =>
      (interruptible_toRecord message).bind fun row => interruptible_lockRow row
  have h := interruptible.of_ok h
  simp only [look, required, pure_bind] at h
  obtain ⟨row, _, recorded, h⟩ := Action.bind_ok.mp h
  obtain ⟨converts, rfl⟩ := (toRecord_answers message _ _).mp recorded
  have answers : (lockRow e row).Answers ⟨store, .unlimited, ()⟩ (Locks .unlimited store e row) :=
    lockRow_answers row
  obtain ⟨locks, same⟩ := (answers _ _).mp h
  unfold Locks at locks
  rw [parents] at locks
  obtain ⟨count, counted, rfl⟩ := locks
  have found : store.count .unlimited (table e) (byKey e row).forUpdate =
      .ok ((store.rows (table e)).filter fun other => Store.sameKey other row).length := count_byKey rfl
  obtain rfl := Except.ok.inj (found.symm.trans counted)
  refine ⟨congrArg World.store same.symm, converts, ?_⟩
  simp only [beq_iff_eq, List.length_eq_zero_iff, List.filter_eq_nil_iff, Store.sameKey_iff, List.mem_map,
    not_exists, not_and]

/-- The second call leaves a row with the key. -/
theorem conclude_ok {after : World K Unit}
    (h : conclude e looked ⟨store, context, ()⟩ = (.ok upserted, after)) :
    upserted.created = looked.1 ∧ ((record (table e)).keyIsEmpty looked.2 = false →
      Store.key looked.2 ∈ (after.store.rows (table e)).map Store.key) := by
  have interruptible : (conclude e looked).Interruptible :=
    (Action.Interruptible.write fun s => Store.stoppable_save s _ _).bind fun row =>
      (interruptible_respond row).bind fun _ => .pure _
  have h := interruptible.of_ok h
  obtain ⟨written, _, saves, h⟩ := Action.bind_ok.mp h
  obtain ⟨saved, wrote, rfl⟩ := Action.write_ok.mp saves
  obtain ⟨value, _, responds, h⟩ := Action.bind_ok.mp h
  have answers : (respond Hooks.none e written).Answers ⟨saved, .unlimited, ()⟩
      (Responds .unlimited saved written) := respond_answers written
  obtain ⟨-, rfl⟩ := (answers value _).mp responds
  obtain ⟨rfl, same⟩ := Action.pure_ok.mp h
  have left : saved = after.store := congrArg World.store same
  refine ⟨rfl, fun keyed => ?_⟩
  obtain ⟨-, assigning, assigned, rfl⟩ := Store.save_ok.mp wrote
  rw [← left]
  rw [Store.assignKey_of_keyed keyed] at assigned
  cases assigned
  rw [Store.rows_upsert]
  exact List.mem_map_of_mem Store.mem_replaceOrAdd_self

/-- A session reports what its first call has found, whatever happens before its second. -/
theorem created_of_looked
    (h : interleave turns store (concluding context e looked) other = some (final, .ok upserted, result)) :
    upserted.created = looked.1 := by
  induction turns generalizing store other with
  | nil => cases other <;> cases h
  | cons turn turns ih =>
    cases turn with
    | first =>
      obtain ⟨value, after, concluded, h⟩ := interleave_first h
      cases interleave_ended h
      exact (conclude_ok concluded).1
    | second =>
      cases other with
      | ended result => cases h
      | call leaves rest => exact ih h

theorem created_of_looked_second
    (h : interleave turns store other (concluding context e looked) = some (final, result, .ok upserted)) :
    upserted.created = looked.1 := by
  have swapped := interleave_swap turns store other (concluding context e looked)
  rw [h] at swapped
  exact created_of_looked swapped

variable [KeyColumns E] [ExactKeys K] {context' : Context} {message' : Message e} {row row' : Record e}
  {one two : Upserted (Message e)} (parents : Bindings.keepParents? e = none)
include parents

/-- What a session reports whose calls all come after the first one of another. -/
theorem created_of_second {created : Bool} (keyed : (record (table e)).keyIsEmpty row = false)
    (converts : Converts e message row') (same : Store.key row' = Store.key row)
    (h : interleave turns store (concluding context e (created, row)) (updating context' e (some message)) =
      some (final, .ok one, .ok two)) :
    two.created = true ↔ Store.key row ∉ (store.rows (table e)).map Store.key ∧
      turns ≠ [.first, .second, .second] := by
  -- what its first call finds, whenever that comes
  have finds {store : Store K} {looked : Bool × Record e} {after : World K Unit}
      (looks : look e (some message) ⟨store, context', ()⟩ = (.ok looked, after)) :
      looked.1 = true ↔ Store.key row ∉ (store.rows (table e)).map Store.key := by
    obtain ⟨-, again, found⟩ := look_ok parents looks
    obtain rfl : looked.2 = row' := Except.ok.inj (again.symm.trans converts)
    exact same ▸ found
  match turns with
  | [] => cases h
  | .second :: rest =>
    obtain ⟨looked, after, looks, h⟩ := interleave_second h
    rw [created_of_looked_second h, finds looks]
    simp
  | .first :: rest =>
    obtain ⟨value, after, concluded, h⟩ := interleave_first h
    have held := (conclude_ok concluded).2 keyed
    match rest with
    | [] | .first :: _ => cases h
    | .second :: rest =>
      obtain ⟨looked, later, looks, h⟩ := interleave_second h
      have not_created : two.created = false := by
        rw [created_of_looked_second h]
        exact Bool.eq_false_iff.mpr fun new => (finds looks).mp new held
      match rest with
      | [] | .first :: _ => cases h
      | .second :: rest =>
        obtain ⟨_, _, _, finished⟩ := interleave_second h
        simp [not_created, interleave_over finished]

theorem created_of_first_turn (keyed : (record (table e)).keyIsEmpty row = false)
    (converts : Converts e message row) (converts' : Converts e message' row')
    (same : Store.key row' = Store.key row)
    (h : interleave (.first :: turns) store (updating context e (some message))
      (updating context' e (some message')) = some (final, .ok one, .ok two)) :
    (one.created = true ↔ Store.key row ∉ (store.rows (table e)).map Store.key) ∧
      (two.created = true ↔ Store.key row ∉ (store.rows (table e)).map Store.key ∧
        turns ≠ [.first, .second, .second]) := by
  obtain ⟨⟨created, found_row⟩, after, looks, h⟩ := interleave_first h
  obtain ⟨unchanged, again, found⟩ := look_ok parents looks
  obtain rfl : found_row = row := Except.ok.inj (again.symm.trans converts)
  rw [unchanged] at h
  exact ⟨created_of_looked h ▸ found, created_of_second parents keyed converts' same h⟩

/-- What two strict updates of one key report as created: what each has found with its first call. So both
report it where no row had the key, except for one whose first call comes after the last of the other. -/
theorem created_of_interleaved (keyed : (record (table e)).keyIsEmpty row = false)
    (keyed' : (record (table e)).keyIsEmpty row' = false) (converts : Converts e message row)
    (converts' : Converts e message' row') (same : Store.key row' = Store.key row)
    (h : interleave turns store (updating context e (some message)) (updating context' e (some message')) =
      some (final, .ok one, .ok two)) :
    (one.created = true ↔ Store.key row ∉ (store.rows (table e)).map Store.key ∧
      turns ≠ [.second, .second, .first, .first]) ∧
    (two.created = true ↔ Store.key row ∉ (store.rows (table e)).map Store.key ∧
      turns ≠ [.first, .first, .second, .second]) := by
  match turns with
  | [] => cases h
  | .first :: rest =>
    obtain ⟨first, second⟩ := created_of_first_turn parents keyed converts converts' same h
    simp [first, second]
  | .second :: rest =>
    have swapped := interleave_swap (.second :: rest) store (updating context e (some message))
      (updating context' e (some message'))
    rw [h] at swapped
    obtain ⟨second, first⟩ := created_of_first_turn parents keyed' converts' converts same.symm swapped
    rw [same] at first second
    simp [first, second, Turn.map_swap_eq_iff, Turn.swap]

end Created

end Operations

end ProtoStore.Domain
