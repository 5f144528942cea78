import ProtoStore.Proofs.Domain.Reading
import ProtoStore.Proofs.Domain.Success
import ProtoStore.Proofs.Store.Effects

/-!
# Courses of operations

What operations do that succeed, without hooks and in a timeless context:

* `respond_answers` : what is loaded with a stored record;
* `Update` : the course of a strict update, step by step (`strictUpdate_ok`);
* `Creation` : that of a creation (`create_ok`);
* `read_answers` : what a reading finds; `read_keyed` : what it answers, found or not.
-/

namespace ProtoStore.Domain

namespace Operations

open Domain.Action

variable {E K : Type} [DecidableEq K] [Catalog K] [Bindings E K] {e : E}

/-! ## Answers -/

/-- What loading a link makes of a message. -/
def Loads (context : Context) (s : Store K) (row : Record e) :
    MessageLink e → Message e → Message e → Prop
  | .reference link, message, loaded => ∃ found target,
      (if link.keyIsEmpty row then found = none
        else s.loadOne context (table link.target) (link.key row) = .ok found) ∧
      Option.Rel (Reverts link.target) found target ∧ link.set target message = loaded
  | .children link, message, loaded => ∃ rows targets,
      s.loadChildren context (table link.target) link.column (keyOf e row) = .ok rows ∧
      List.Forall₂ (Reverts link.target) rows targets ∧ link.set targets message = loaded
  | .joined link, message, loaded => ∃ rows targets,
      s.loadLinked context (table link.target) link.join link.ownerColumn (keyOf e row)
        link.targetColumn = .ok rows ∧
      List.Forall₂ (Reverts link.target) rows targets ∧ link.set targets message = loaded

/-- What loading several links makes of a message. -/
def LoadsAll (context : Context) (s : Store K) (row : Record e) :
    List (MessageLink e) → Message e → Message e → Prop
  | [], message, loaded => message = loaded
  | link :: links, message, loaded => ∃ next,
      Loads context s row link message next ∧ LoadsAll context s row links next loaded

/-- The message of a stored record with all its links. -/
def Responds (context : Context) (s : Store K) (row : Record e) (value : Message e) : Prop :=
  ∃ message, Reverts e row message ∧ LoadsAll context s row (Bindings.links e) message value

section

variable {world : World K Unit} {row : Record e}

omit [DecidableEq K] in
theorem toRecord_answers (message : Message e) :
    (toRecord Hooks.none e message).Answers world (Converts e message) := by
  rw [toRecord_none]
  exact fun _ _ => ofExcept_ok

omit [DecidableEq K] in
theorem toMessage_answers (row : Record e) :
    (toMessage Hooks.none e row).Answers world (Reverts e row) := by
  rw [toMessage_none]
  exact fun _ _ => ofExcept_ok

omit [DecidableEq K] in
theorem collect_answers (message : Message e) :
    (collect Hooks.none e message).Answers world
      (List.Forall₂ (Collected message) (Bindings.links e)) := by
  refine Answers.mapM (fun link => ?_) _
  cases link with
  | reference link =>
    refine ((Answers.optionMapM toRecord_answers (link.get message)).bind fun row =>
      Answers.pure _).congr fun p => ⟨?_, ?_⟩
    · rintro ⟨row, hr, rfl⟩
      exact .reference hr
    · rintro ⟨hr⟩
      exact ⟨_, hr, rfl⟩
  | children link =>
    refine ((Answers.mapM toRecord_answers (link.get message)).bind fun rows =>
      Answers.pure _).congr fun p => ⟨?_, ?_⟩
    · rintro ⟨rows, hr, rfl⟩
      exact .children hr
    · rintro ⟨⟩
      next hr => exact ⟨_, hr, rfl⟩
  | joined link =>
    refine ((Answers.mapM toRecord_answers (link.get message)).bind fun rows =>
      Answers.pure _).congr fun p => ⟨?_, ?_⟩
    · rintro ⟨rows, hr, rfl⟩
      exact .joined hr
    · rintro ⟨⟩
      next hr => exact ⟨_, hr, rfl⟩

theorem loadOne_answers [world.context.Timeless] (link : MessageLink e) (message : Message e) :
    (Operations.loadOne Hooks.none row message link).Answers world
      (Loads world.context world.store row link message) := by
  cases link with
  | reference link =>
    rw [Operations.loadOne]
    split
    · next hk =>
      refine (Answers.pure _).congr fun m => ⟨?_, ?_⟩
      · rintro rfl
        exact ⟨none, none, by rw [if_pos hk], .none, rfl⟩
      · rintro ⟨found, target, hf, ht, rfl⟩
        rw [if_pos hk] at hf
        subst hf
        cases ht
        rfl
    · next hk =>
      refine ((Answers.ask _).bind fun found =>
        (Answers.optionMapM toMessage_answers found).bind fun target =>
          Answers.pure (link.set target message)).congr fun m => ?_
      simp only [Loads, if_neg hk, exists_and_left]
  | children link =>
    refine ((Answers.ask _).bind fun rows =>
      (Answers.mapM toMessage_answers rows).bind fun targets =>
        Answers.pure (link.set targets message)).congr fun m => ?_
    simp only [Loads, exists_and_left]
  | joined link =>
    refine ((Answers.ask _).bind fun rows =>
      (Answers.mapM toMessage_answers rows).bind fun targets =>
        Answers.pure (link.set targets message)).congr fun m => ?_
    simp only [Loads, exists_and_left]

theorem respond_answers [world.context.Timeless] (row : Record e) :
    (respond Hooks.none e row).Answers world (Responds world.context world.store row) := by
  refine (toMessage_answers row).bind fun message => ?_
  generalize Bindings.links e = links
  induction links generalizing message with
  | nil => exact Answers.pure message
  | cons link links ih =>
    rw [List.foldlM_cons]
    exact (loadOne_answers link message).bind ih

end

/-! ## The parts of an operation -/

section Parts

variable {row : Record e} {pending : List (Pending e)}

theorem steady_prepare : Steady (prepare pending row : Action K Unit (Record e)) := by
  refine Steady.foldlM (fun row p => ?_) _ _
  cases p with
  | reference link target =>
    cases target with
    | none => exact Steady.pure _
    | some target => exact (Steady.write _ _).bind fun _ => Steady.pure _
  | children link rows => exact Steady.pure _
  | joined link rows => exact Steady.pure _

theorem steady_pruneOne (p : Pending e) : Steady (pruneOne row p : Action K Unit Unit) := by
  cases p with
  | reference link target => exact Steady.pure _
  | children link rows => exact Steady.remove _
  | joined link rows => exact Steady.remove _

theorem steady_prune : Steady (prune pending row : Action K Unit Unit) := by
  unfold prune
  split
  · exact Steady.pure _
  · exact Steady.forM steady_pruneOne _

theorem steady_saveOne (p : Pending e) : Steady (saveOne row p : Action K Unit Unit) := by
  cases p with
  | reference link target => exact Steady.pure _
  | children link rows => exact (Steady.write _ _).bind fun _ => Steady.pure _
  | joined link rows => exact (Steady.write _ _).bind fun _ => Steady.pure _

theorem steady_saveCollections : Steady (saveCollections pending row : Action K Unit Unit) :=
  Steady.forM steady_saveOne _

end Parts

/-! ## Operations -/

/-- What locking answers: whether a record is new, and the record with the keys of its parents. -/
def Locks (context : Context) (s : Store K) (e : E) (row : Record e) (locked : Bool × Record e) :
    Prop :=
  match Bindings.keepParents? e with
  | none => ∃ count, s.count context (table e) (byKey e row).forUpdate = .ok count ∧
      (count == 0, row) = locked
  | some keep => ∃ stored, s.first context (table e) (byKey e row).forUpdate = .ok stored ∧
      (stored.isNone, stored.elim row fun stored => keep stored row) = locked

/-- The course of a strict update that succeeds, from a store `s` to a store `t`. -/
structure Update (context : Context) (e : E) (message : Message e) (s t : Store K)
    (upserted : Upserted (Message e)) where
  row : Record e
  pending : List (Pending e)
  locked : Record e
  prepared : Record e
  written : Record e
  /-- The stores after the parts of the update. -/
  referred : Store K
  pruned : Store K
  saved : Store K
  converts : Converts e message row
  collected : List.Forall₂ (Collected message) (Bindings.links e) pending
  locks : Locks context s e row (upserted.created, locked)
  prepares : prepare pending locked ⟨s, context, ()⟩ = (.ok prepared, ⟨referred, context, ()⟩)
  prunes : prune pending prepared ⟨referred, context, ()⟩ = (.ok (), ⟨pruned, context, ()⟩)
  saves : pruned.save context (table e) prepared = ⟨saved, written, .ok ()⟩
  links : saveCollections pending written ⟨saved, context, ()⟩ = (.ok (), ⟨t, context, ()⟩)
  responds : Responds context t written upserted.value

/-- The course of a creation that succeeds, from a store `s` to a store `t`. -/
structure Creation (context : Context) (e : E) (message : Message e) (s t : Store K)
    (value : Message e) where
  row : Record e
  pending : List (Pending e)
  prepared : Record e
  written : Record e
  /-- The stores after the parts of the creation. -/
  referred : Store K
  created : Store K
  converts : Converts e message row
  collected : List.Forall₂ (Collected message) (Bindings.links e) pending
  prepares : prepare pending row ⟨s, context, ()⟩ = (.ok prepared, ⟨referred, context, ()⟩)
  creates : referred.create context (table e) prepared = ⟨created, written, .ok ()⟩
  links : saveCollections pending written ⟨created, context, ()⟩ = (.ok (), ⟨t, context, ()⟩)
  responds : Responds context t written value

section

variable {s t : Store K} {context : Context} {message : Message e} {world last : World K Unit}

theorem lockRow_answers [world.context.Timeless] (row : Record e) :
    (lockRow e row : Action K Unit _).Answers world (Locks world.context world.store e row) := by
  unfold lockRow
  split
  · next hk =>
    refine ((Answers.ask _).bind fun count => Answers.pure (count == 0, row)).congr fun locked => ?_
    simp only [Locks, hk]
  · next keep hk =>
    refine ((Answers.ask _).bind (Q := fun stored locked => (stored.isNone,
      stored.elim row fun stored => keep stored row) = locked) fun stored => ?_).congr fun locked => ?_
    · cases stored <;> exact Answers.pure _
    · simp only [Locks, hk]

theorem strictUpdate_ok [context.Timeless] {upserted : Upserted (Message e)} :
    strictUpdate Hooks.none e (some message) ⟨s, context, ()⟩ = (.ok upserted, last) ↔
      ∃ t, last = ⟨t, context, ()⟩ ∧ Nonempty (Update context e message s t upserted) := by
  simp only [strictUpdate, required, toRecord_none, hook_none, pure_bind, bind_ok, ofExcept_ok,
    write_ok, pure_ok]
  constructor
  · rintro ⟨row, _, ⟨hc, rfl⟩, pending, w₁, hp, ⟨created, locked⟩, w₂, hl, prepared, w₃, hprep, _, w₄,
      hprune, written, _, ⟨saved, hsave, rfl⟩, _, w₅, hcol, value, w₆, hresp, rfl, rfl⟩
    obtain ⟨collected, rfl⟩ := (collect_answers message pending _).mp hp
    obtain ⟨locks, rfl⟩ := (lockRow_answers row _ _).mp hl
    obtain ⟨referred, rfl⟩ := steady_prepare.exists_of_ok hprep
    obtain ⟨pruned, rfl⟩ := steady_prune.exists_of_ok hprune
    rw [World.after_timeless] at hcol
    obtain ⟨linked, rfl⟩ := steady_saveCollections.exists_of_ok hcol
    obtain ⟨responds, rfl⟩ := (respond_answers written _ _).mp hresp
    exact ⟨linked, rfl, ⟨row, pending, locked, prepared, written, referred, pruned, saved, hc, collected,
      locks, hprep, hprune, hsave, hcol, responds⟩⟩
  · rintro ⟨t, rfl, ⟨u⟩⟩
    exact ⟨u.row, _, ⟨u.converts, rfl⟩, u.pending, _, (collect_answers message _ _).mpr ⟨u.collected, rfl⟩,
      (upserted.created, u.locked), _, (lockRow_answers u.row _ _).mpr ⟨u.locks, rfl⟩, u.prepared, _,
      u.prepares, (), _, u.prunes, u.written, _, ⟨u.saved, u.saves, rfl⟩, (), _,
      by rw [World.after_timeless]; exact u.links,
      upserted.value, _, (respond_answers u.written _ _).mpr ⟨u.responds, rfl⟩, rfl, rfl⟩

theorem create_ok [context.Timeless] {value : Message e} :
    create Hooks.none e (some message) ⟨s, context, ()⟩ = (.ok value, last) ↔
      ∃ t, last = ⟨t, context, ()⟩ ∧ Nonempty (Creation context e message s t value) := by
  simp only [Operations.create, required, toRecord_none, hook_none, pure_bind, bind_ok, ofExcept_ok,
    write_ok]
  constructor
  · rintro ⟨row, _, ⟨hc, rfl⟩, pending, w₁, hp, prepared, w₃, hprep, written, _, ⟨created, hcreate, rfl⟩,
      _, w₅, hcol, hresp⟩
    obtain ⟨collected, rfl⟩ := (collect_answers message pending _).mp hp
    obtain ⟨referred, rfl⟩ := steady_prepare.exists_of_ok hprep
    rw [World.after_timeless] at hcol
    obtain ⟨linked, rfl⟩ := steady_saveCollections.exists_of_ok hcol
    obtain ⟨responds, rfl⟩ := (respond_answers written _ _).mp hresp
    exact ⟨linked, rfl, ⟨row, pending, prepared, written, referred, created, hc, collected, hprep,
      hcreate, hcol, responds⟩⟩
  · rintro ⟨t, rfl, ⟨c⟩⟩
    exact ⟨c.row, _, ⟨c.converts, rfl⟩, c.pending, _, (collect_answers message _ _).mpr ⟨c.collected, rfl⟩,
      c.prepared, _, c.prepares, c.written, _, ⟨c.created, c.creates, rfl⟩, (), _,
      by rw [World.after_timeless]; exact c.links,
      (respond_answers c.written _ _).mpr ⟨c.responds, rfl⟩⟩

/-- What a reading finds. -/
def Reads (context : Context) (s : Store K) (e : E) (message : Message e)
    (fields : Option (List String)) (value : Message e) : Prop :=
  ∃ row found, Converts e message row ∧ (record (table e)).keyIsEmpty row = false ∧
    s.first context (table e) ((byKey e row).select fields) = .ok (some found) ∧
    Responds context s found value

theorem read_answers [world.context.Timeless] (fields : Option (List String)) :
    (Operations.read Hooks.none e (some message) fields).Answers world
      (Reads world.context world.store e message fields) := by
  intro value last
  simp only [Operations.read, required, toRecord_none, hook_none, pure_bind, bind_ok, ofExcept_ok,
    ask_ok]
  constructor
  · rintro ⟨row, _, ⟨hc, rfl⟩, _, w, hk, found, _, ⟨hf, rfl⟩, hr⟩
    rw [requireKey] at hk
    split at hk
    · cases hk
    · next hkey =>
      obtain ⟨-, rfl⟩ := pure_ok.mp hk
      cases found with
      | none => cases hr
      | some found =>
        rw [World.after_timeless] at hr
        obtain ⟨responds, rfl⟩ := (respond_answers found _ _).mp hr
        exact ⟨⟨row, found, hc, Bool.eq_false_iff.mpr hkey, hf, responds⟩, rfl⟩
  · rintro ⟨⟨row, found, hc, hk, hf, responds⟩, rfl⟩
    refine ⟨row, _, ⟨hc, rfl⟩, (), world, ?_, some found, _, ⟨hf, world.after_timeless 1⟩, ?_⟩
    · rw [requireKey, hk]
      rfl
    · exact (respond_answers found _ _).mpr ⟨responds, rfl⟩

omit [DecidableEq K] in
theorem requireKey_keyed {row : Record e} (keyed : (record (table e)).keyIsEmpty row = false) :
    requireKey e row world = (.ok (), world) := by
  rw [requireKey, keyed]
  rfl

/-- A reading by a key is what comes of the first row that its query finds. -/
theorem read_keyed [world.context.Timeless] (fields : Option (List String)) {row : Record e}
    (converts : Converts e message row) (keyed : (record (table e)).keyIsEmpty row = false) :
    Operations.read Hooks.none e (some message) fields world =
      match world.store.first world.context (table e) ((byKey e row).select fields) with
      | .error failure => (.error failure, world)
      | .ok none => (.error .notFound, world)
      | .ok (some found) => respond Hooks.none e found world := by
  simp only [Operations.read, required, toRecord_none, hook_none, pure_bind]
  rw [bind_of_ok (ofExcept_ok.mpr ⟨converts, rfl⟩), bind_of_ok (requireKey_keyed keyed)]
  cases first : world.store.first world.context (table e) ((byKey e row).select fields) with
  | error failure => exact bind_of_error (Prod.ext first (world.after_timeless 1))
  | ok found =>
    rw [bind_of_ok (ask_ok.mpr ⟨first, world.after_timeless 1⟩)]
    cases found with
    | none => rfl
    | some found => rfl

theorem patch_ok [context.Timeless] {mask : List String} {value : Message e} :
    patch Hooks.none e (some message) mask ⟨s, context, ()⟩ = (.ok value, last) ↔
      ∃ t, last = ⟨t, context, ()⟩ ∧ ∃ current created,
        Reads context s e (Bindings.keyOnly e message) none current ∧
        Nonempty (Update context e (Mask.apply (Bindings.maskFields e) mask "" message current) s t
          ⟨value, created⟩) := by
  simp only [patch, required, hook_none, pure_bind, bind_ok, pure_ok]
  constructor
  · rintro ⟨current, w, hr, ⟨_, created⟩, w', hu, rfl, rfl⟩
    obtain ⟨reads, rfl⟩ := (read_answers none current w).mp hr
    obtain ⟨t, rfl, update⟩ := strictUpdate_ok.mp hu
    exact ⟨t, rfl, current, created, reads, update⟩
  · rintro ⟨t, rfl, current, created, reads, hu⟩
    exact ⟨current, _, (read_answers none current _).mpr ⟨reads, rfl⟩, ⟨value, created⟩, _,
      strictUpdate_ok.mpr ⟨t, rfl, hu⟩, rfl, rfl⟩

end

/-! ## Rows by their keys -/

section Keys

variable [KeyColumns E] {s : Store K} {context : Context} {row : Record e}

omit [DecidableEq K] in
theorem satisfies_byKey (other : Record e) :
    (record (table e)).satisfies (byKey e row).conditions other = Store.sameKey other row := by
  show ((Condition.eq _ (keyOf e row)).holds
    (((record (table e)).value? other (record (table e)).keyColumn).getD .null) && true) = _
  rw [KeyColumns.value?, Bool.and_true]
  rfl

omit [DecidableEq K] in
/-- There is a key column. -/
theorem isSome_keyColumn (e : E) : ((record (table e)).column? (record (table e)).keyColumn).isSome = true := by
  have hv := KeyColumns.value? e (Bindings.blankRecord e)
  rw [RecordType.value?, Option.map_eq_some_iff] at hv
  obtain ⟨column, hc, -⟩ := hv
  exact Option.isSome_of_mem hc

omit [DecidableEq K] in
theorem reads_byKey : (record (table e)).Reads (byKey e row).conditions := by
  intro condition hc
  obtain rfl := List.mem_singleton.mp hc
  exact isSome_keyColumn e

/-- The row of a key, if there is one. -/
def stored (s : Store K) (e : E) (row : Record e) : Option (Record e) :=
  (s.rows (table e)).find? fun other => Store.sameKey other row

theorem first_byKey (alive : context.check = .ok ()) :
    s.first context (table e) (byKey e row) = .ok (stored s e row) := by
  rw [Store.first_eq alive reads_byKey rfl rfl rfl]
  exact congrArg (fun p => Except.ok ((s.rows (table e)).find? p)) (funext satisfies_byKey)

theorem count_byKey (alive : context.check = .ok ()) :
    s.count context (table e) (byKey e row) =
      .ok ((s.rows (table e)).filter fun other => Store.sameKey other row).length := by
  refine (Store.count_ok reads_byKey).mpr ⟨alive, ?_⟩
  rw [funext satisfies_byKey]

/-- Locking finds the row of the key; where rows hold keys of parents, those of it are taken over. -/
theorem locks_iff (alive : context.check = .ok ()) {locked : Bool × Record e} :
    Locks context s e row locked ↔ ((stored s e row).isNone,
      (Bindings.keepParents? e).elim row fun keep =>
        (stored s e row).elim row fun found => keep found row) = locked := by
  have hf : s.first context (table e) (byKey e row).forUpdate = .ok (stored s e row) :=
    first_byKey alive
  have hc : s.count context (table e) (byKey e row).forUpdate =
      .ok ((s.rows (table e)).filter fun other => Store.sameKey other row).length := count_byKey alive
  unfold Locks
  cases Bindings.keepParents? e with
  | none =>
    have hn : (((s.rows (table e)).filter fun other => Store.sameKey other row).length == 0) =
        (stored s e row).isNone := by
      rw [stored, Bool.eq_iff_iff, beq_iff_eq, List.length_eq_zero_iff, Option.isNone_iff_eq_none,
        List.find?_eq_none, List.filter_eq_nil_iff]
    simp only [hc, Except.ok.injEq, exists_eq_left', hn, Option.elim]
  | some keep => simp only [hf, Except.ok.injEq, exists_eq_left', Option.elim]

end Keys

section Alive

variable {s t : Store K} {context : Context} {message : Message e}

theorem Update.alive {upserted : Upserted (Message e)}
    (u : Update context e message s t upserted) : context.check = .ok () :=
  (Store.save_ok.mp u.saves).1

end Alive

/-! ## Messages without links -/

section Leaf

variable {s t : Store K} {context : Context} {message : Message e}

omit [DecidableEq K] in
theorem pending_eq_nil {pending : List (Pending e)} (h : Bindings.links e = [])
    (hc : List.Forall₂ (Collected message) (Bindings.links e) pending) : pending = [] := by
  rw [h] at hc
  cases hc
  rfl

theorem Update.leaf {upserted : Upserted (Message e)} (h : Bindings.links e = [])
    (u : Update context e message s t upserted) :
    s.save context (table e) u.locked = ⟨t, u.written, .ok ()⟩ := by
  obtain ⟨row, pending, locked, prepared, written, referred, pruned, saved, -, collected, -, prepares,
    prunes, saves, links, -⟩ := u
  obtain rfl := pending_eq_nil h collected
  cases prepares
  cases links
  unfold prune at prunes
  split at prunes <;> cases prunes <;> exact saves

theorem Creation.leaf {value : Message e} (h : Bindings.links e = [])
    (c : Creation context e message s t value) :
    s.create context (table e) c.row = ⟨t, c.written, .ok ()⟩ := by
  obtain ⟨row, pending, prepared, written, referred, created, -, collected, prepares, creates, links,
    -⟩ := c
  obtain rfl := pending_eq_nil h collected
  cases prepares
  cases links
  exact creates

end Leaf

end Operations

end ProtoStore.Domain
