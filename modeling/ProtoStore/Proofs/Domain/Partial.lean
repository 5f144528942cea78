import ProtoStore.Proofs.Domain.Traceless
import ProtoStore.Proofs.Store.Partial

/-!
# What a creation leaves that fails

A creation stores the targets of references, its row, and the rows of links, one after the other. Where
references and children are of kinds that always get keys (`Pending.Generated`), it stops before any of these
if it is cut off, and otherwise only because its own row is refused, or a joined target (`Halfway`, `Stopped`,
`create_stopped`). What it has stored until then is what it stores in a context without an end.
-/

namespace ProtoStore.Domain

open Store

variable {K σ α β : Type} [Catalog K]

/-! ## Loops that fail -/

/-- A loop that fails does so at one step, after those before it succeeded. -/
theorem Action.foldlM_failed {f : α → β → Action K σ α} {xs : List β} {a : α} {world last : World K σ}
    {failure : Failure} (h : xs.foldlM f a world = (.error failure, last)) :
    ∃ done x rest b middle, xs = done ++ x :: rest ∧ done.foldlM f a world = (.ok b, middle) ∧
      f b x middle = (.error failure, last) := by
  induction xs generalizing a world with
  | nil => cases h
  | cons x xs ih =>
    rw [List.foldlM_cons, bind_apply] at h
    rcases first : f a x world with ⟨_ | b, after⟩ <;> rw [first] at h
    · cases h
      exact ⟨[], x, xs, a, world, rfl, rfl, first⟩
    · obtain ⟨done, y, rest, c, middle, rfl, steps, failed⟩ := ih h
      refine ⟨x :: done, y, rest, c, middle, rfl, ?_, failed⟩
      rw [List.foldlM_cons]
      exact bind_ok.mpr ⟨b, after, first, steps⟩

theorem Action.forM_failed {f : β → Action K σ Unit} {xs : List β} {world last : World K σ}
    {failure : Failure} (h : xs.forM f world = (.error failure, last)) :
    ∃ done x rest middle, xs = done ++ x :: rest ∧ done.forM f world = (.ok (), middle) ∧
      f x middle = (.error failure, last) := by
  induction xs generalizing world with
  | nil => cases h
  | cons x xs ih =>
    change (f x >>= fun _ => xs.forM f) world = _ at h
    rw [bind_apply] at h
    rcases first : f x world with ⟨_ | ⟨⟩, after⟩ <;> rw [first] at h
    · cases h
      exact ⟨[], x, xs, world, rfl, rfl, first⟩
    · obtain ⟨done, y, rest, middle, rfl, steps, failed⟩ := ih h
      exact ⟨x :: done, y, rest, middle, rfl, bind_ok.mpr ⟨(), after, first, steps⟩, failed⟩

namespace Operations

open Domain.Action

variable {E : Type} [DecidableEq K] [Bindings E K] {e : E} {pending : List (Pending e)} {row : Record e}
  {s : Store K} {context : Context} {message : Message e} {failure : Failure}

/-! ## References -/

/-- The rows of a link get keys, but for joined ones. -/
def Pending.Generated : Pending e → Prop
  | .reference link _ => Generates (table link.target)
  | .children link _ => Generates (table link.target)
  | .joined _ _ => True

/-- References are prepared up to one at which the call is cut off. -/
theorem prepare_failed {last : World K Unit} (keyed : ∀ p ∈ pending, p.Generated)
    (h : prepare pending row ⟨s, context, ()⟩ = (.error failure, last)) :
    failure.CutsOff ∧ ∃ before, ∃ link : Reference e, ∃ target after prepared t,
      pending = before ++ .reference link target :: after ∧
        prepare before row ⟨s, .unlimited, ()⟩ = (.ok prepared, ⟨t, .unlimited, ()⟩) ∧ last.store.rows = t.rows := by
  obtain ⟨before, p, after, prepared, ⟨t, later, ⟨⟩⟩, rfl, done, failed⟩ := foldlM_failed h
  have prepares := (interruptible_prepare before row).of_ok done
  cases p with
  | children link rows => cases failed
  | joined link rows => cases failed
  | reference link target =>
    cases target with
    | none => cases failed
    | some target =>
      have gen : Generates (table link.target) := keyed _ (List.mem_append_right _ List.mem_cons_self)
      have fails : (prepareOne prepared (.reference link (some target))).Fails (⟨t, later, ()⟩ : World K Unit)
          fun failure last => failure.CutsOff ∧ last.store.rows = t.rows := by
        refine (Fails.write fun failure h => ?_).bind fun _ _ _ => Fails.pure _
        exact ⟨gen.save_failed h, rows_save_of_fails h⟩
      obtain ⟨cut, left⟩ := fails failure last failed
      exact ⟨cut, before, link, some target, after, prepared, t, rfl, prepares, left⟩

/-! ## Links -/

/-- The rows of links are saved up to one at which the call stops, a child or a joined target. -/
inductive Halfway (row : Record e) (pending : List (Pending e)) (s : Store K) (failure : Failure)
    (last : Store K) : Prop
  /-- A child was not saved. -/
  | children (cut : failure.CutsOff) (before : List (Pending e)) (link : Children e)
    (saved : List (Record link.target)) (child : Record link.target) (rest : List (Record link.target))
    (after : List (Pending e)) (split : pending = before ++ .children link (saved ++ child :: rest) :: after)
    (exchanged : link.strategy ≠ .clear) (t u : Store K) (more : List (Record link.target))
    (before_saved : saveCollections before row ⟨s, .unlimited, ()⟩ = (.ok (), ⟨t, .unlimited, ()⟩))
    (stored : saveAll .unlimited (table link.target) (link.attach row) t saved = ⟨u, more, .ok ()⟩)
    (left : last.rows = u.rows)
  /-- A joined target was not saved, or saved and not linked. -/
  | joined (before : List (Pending e)) (link : Joined e) (linked : List (Record link.target))
    (target : Record link.target) (rest : List (Record link.target)) (after : List (Pending e))
    (split : pending = before ++ .joined link (linked ++ target :: rest) :: after)
    (exchanged : link.strategy ≠ .clear) (t u : Store K) (more : List (Record link.target)) (later : Context)
    (before_saved : saveCollections before row ⟨s, .unlimited, ()⟩ = (.ok (), ⟨t, .unlimited, ()⟩))
    (stored : linkAll .unlimited (table link.target) link.join (link.link row) t linked = ⟨u, more, .ok ()⟩)
    (stopped : (u.save later (table link.target) target).result = .error failure ∧ last.rows = u.rows ∨
      ∃ v written, u.save .unlimited (table link.target) target = ⟨v, written, .ok ()⟩ ∧
        (v.ensureLink later link.join (link.link row written)).2 = .error failure ∧ last.rows = v.rows)

theorem saveCollections_failed [ExactKeys K] {last : World K Unit} (keyed : ∀ p ∈ pending, p.Generated)
    (h : saveCollections pending row ⟨s, context, ()⟩ = (.error failure, last)) :
    Halfway row pending s failure last.store := by
  obtain ⟨before, p, after, ⟨t, later, ⟨⟩⟩, rfl, done, failed⟩ := forM_failed h
  have done := (interruptible_saveCollections before row).of_ok done
  cases p with
  | reference link target => cases failed
  | children link rows =>
    have gen : Generates (table link.target) := keyed _ (List.mem_append_right _ List.mem_cons_self)
    have fails : (saveOne row (.children link rows)).Fails (⟨t, later, ()⟩ : World K Unit) fun failure last =>
        link.strategy ≠ .clear ∧
          (saveAll later (table link.target) (link.attach row) t rows).result = .error failure ∧
          last.store = (saveAll later (table link.target) (link.attach row) t rows).store := by
      refine (Fails.write fun failure h => ?_).bind fun _ _ _ => Fails.pure ()
      unfold saveChildren at h ⊢
      split at h
      · cases h
      · next hs =>
        rw [if_neg hs]
        exact ⟨hs, h, rfl⟩
    obtain ⟨hs, refused, left⟩ := fails failure last failed
    obtain ⟨saved, child, rest, u, more, _, rfl, stored, stopped, rows⟩ := saveAll_failed refused
    exact .children (gen.save_failed stopped) before link saved child rest after rfl hs t u more done stored
      (left ▸ rows)
  | joined link rows =>
    have fails : (saveOne row (.joined link rows)).Fails (⟨t, later, ()⟩ : World K Unit)
        fun failure last => link.strategy ≠ .clear ∧
          (linkAll later (table link.target) link.join (link.link row) t rows).result = .error failure ∧
          last.store = (linkAll later (table link.target) link.join (link.link row) t rows).store := by
      refine (Fails.write fun failure h => ?_).bind fun _ _ _ => Fails.pure ()
      unfold saveLinks at h ⊢
      split at h
      · cases h
      · next hs =>
        rw [if_neg hs]
        exact ⟨hs, h, rfl⟩
    obtain ⟨hs, refused, left⟩ := fails failure last failed
    obtain ⟨linked, target, rest, u, more, at_, rfl, stored, stopped⟩ := linkAll_failed refused
    rw [← left] at stopped
    exact .joined before link linked target rest after rfl hs t u more at_ done stored stopped

/-! ## Creations -/

/-- The targets of the references of a message are stored, from a store `s` to a store `referred`. -/
structure Prepared (message : Message e) (s : Store K) (pending : List (Pending e)) (row prepared : Record e)
    (referred : Store K) : Prop where
  converts : Converts e message row
  collected : List.Forall₂ (Collected message) (Bindings.links e) pending
  prepares : prepare pending row ⟨s, .unlimited, ()⟩ = (.ok prepared, ⟨referred, .unlimited, ()⟩)

/-- The course of a creation that fails, from a store `s` to a store `last`. -/
inductive Stopped (e : E) (message : Message e) (s : Store K) (failure : Failure) (last : Store K) : Prop
  /-- A message has no record. -/
  | unsuited (cause : ∃ field fault, failure = .conversion field fault) (left : last = s)
  /-- The target of a reference was not saved. -/
  | reference (cut : failure.CutsOff) (pending : List (Pending e))
    (collected : List.Forall₂ (Collected message) (Bindings.links e) pending) (before : List (Pending e))
    (link : Reference e) (target : Option (Record link.target)) (after : List (Pending e))
    (row prepared : Record e) (t : Store K) (split : pending = before ++ .reference link target :: after)
    (prepares : prepare before row ⟨s, .unlimited, ()⟩ = (.ok prepared, ⟨t, .unlimited, ()⟩))
    (left : last.rows = t.rows)
  /-- The targets of references were saved, but the row was not created. -/
  | row (pending : List (Pending e)) (row prepared : Record e) (referred : Store K)
    (refers : Prepared message s pending row prepared referred)
    (cause : failure.CutsOff ∨ (∃ name, failure = .store (.missingKey name) ∧ ¬ Generates (table e)) ∨
      ∃ name, failure = .store (.duplicateKey name))
    (left : last.rows = referred.rows)
  /-- The row was created, but not all that is linked to it was saved. -/
  | links (pending : List (Pending e)) (row prepared written : Record e) (referred created : Store K)
    (refers : Prepared message s pending row prepared referred)
    (creates : referred.create .unlimited (table e) prepared = ⟨created, written, .ok ()⟩)
    (halfway : Halfway written pending created failure last)
  /-- All was stored, but the message was not read again. -/
  | answer (cause : failure = .cancelled) (pending : List (Pending e)) (row prepared written : Record e)
    (referred created : Store K) (refers : Prepared message s pending row prepared referred)
    (creates : referred.create .unlimited (table e) prepared = ⟨created, written, .ok ()⟩)
    (saves : saveCollections pending written ⟨created, .unlimited, ()⟩ = (.ok (), ⟨last, .unlimited, ()⟩))

theorem create_stopped [ExactKeys K] [Loadable E] {D : Discipline E} (readable : D.Readable) (names : NamesFields E)
    (keyed : ∀ pending, List.Forall₂ (Collected message) (Bindings.links e) pending →
      ∀ p ∈ pending, p.Generated)
    (ha : D.admits e message) (inv : D.Inv s) :
    (Operations.create Hooks.none e (some message)).Fails ⟨s, context, ()⟩ fun failure last =>
      Stopped e message s failure last.store := by
  simp only [Operations.create, required, hook_none, pure_bind]
  refine fails_converted names (fun failure h => .unsuited h rfl) fun row pending converts collected => ?_
  have generated := keyed pending collected
  refine Fails.bind (fun failure last stopped => ?_) fun prepared after prepares => ?_
  · obtain ⟨cut, before, link, target, rest, made, t, split, prepares, left⟩ := prepare_failed generated stopped
    exact .reference cut pending collected before link target rest row made t split prepares left
  obtain ⟨t, later, ⟨⟩⟩ := after
  have refers : Prepared message s pending row prepared t :=
    ⟨converts, collected, (interruptible_prepare pending row).of_ok prepares⟩
  refine (Fails.write fun failure refused => ?_).bind fun written after created => ?_
  · exact .row pending row prepared t refers (create_failed refused) (rows_create_of_fails refused)
  obtain ⟨u, creates, same⟩ := write_ok.mp
    ((Interruptible.write fun s => stoppable_create s (table e) prepared).of_ok created)
  obtain ⟨_, later, ⟨⟩⟩ := after
  obtain rfl := congrArg World.store same
  obtain ⟨inv', -, held, there⟩ := inv_created ha inv converts collected refers.prepares creates
  refine Fails.bind (fun failure last stopped => ?_) fun _ after done => ?_
  · exact .links pending row prepared written t _ refers creates (saveCollections_failed generated stopped)
  have links := (interruptible_saveCollections pending written).of_ok done
  obtain ⟨v, later, ⟨⟩⟩ := after
  intro failure last failed
  obtain ⟨inv'', leads⟩ := inv_linked inv' (Discipline.ready_of_collected ha collected) held links
  have alive : Context.unlimited.check = .ok () := rfl
  have responds : (respond Hooks.none e written).Fails (⟨v, .unlimited, ()⟩ : World K Unit) fun _ _ => False :=
    respond_fails_never readable alive inv'' (D.allows_mono leads (inv'.allowed there))
  have cause : failure = .cancelled := by
    by_contra answered
    exact responds _ _ ((interruptible_respond written).of_error failed answered)
  have moved : last.store = v := by
    have stays : Moves Eq (respond Hooks.none e written) (⟨v, later, ()⟩ : World K Unit) fun _ _ => True :=
      moves_respond Hooks.quiet_none
    have same := stays.1
    rw [failed] at same
    exact same.symm
  exact .answer cause pending row prepared written t _ refers creates (moved ▸ links)

/-- Once its rows are stored, a message is created. -/
theorem exists_stored [ExactKeys K] [Loadable E] {D : Discipline E} {prepared written : Record e}
    {referred created t : Store K} (readable : D.Readable) (ha : D.admits e message) (inv : D.Inv s)
    (refers : Prepared message s pending row prepared referred)
    (creates : referred.create .unlimited (table e) prepared = ⟨created, written, .ok ()⟩)
    (links : saveCollections pending written ⟨created, .unlimited, ()⟩ = (.ok (), ⟨t, .unlimited, ()⟩)) :
    ∃ value, Operations.create Hooks.none e (some message) ⟨s, .unlimited, ()⟩ =
      (.ok value, ⟨t, .unlimited, ()⟩) := by
  obtain ⟨converts, collected, prepares⟩ := refers
  have alive : Context.unlimited.check = .ok () := rfl
  obtain ⟨inv', -, held, there⟩ := inv_created ha inv converts collected prepares creates
  obtain ⟨inv'', leads⟩ := inv_linked inv' (Discipline.ready_of_collected ha collected) held links
  obtain ⟨value, responds⟩ := exists_responds alive (inv''.convertible readable)
    (readable (D.allows_mono leads (inv'.allowed there)))
  exact ⟨value, create_ok.mpr ⟨t, rfl, ⟨row, pending, prepared, written, referred, created, converts,
    collected, prepares, creates, links, responds⟩⟩⟩

/-- Updating a message without links saves its row and does nothing else. -/
theorem store_strictUpdate_of_leaf [KeyColumns E] [context.Timeless] (alive : context.check = .ok ())
    (leaf : Bindings.links e = []) (free : Bindings.keepParents? e = none)
    (converts : Converts e message row) :
    (strictUpdate Hooks.none e (some message) ⟨s, context, ()⟩).2.store =
      (s.save context (table e) row).store := by
  have record : toRecord Hooks.none e message (⟨s, context, ()⟩ : World K Unit) =
      (.ok row, ⟨s, context, ()⟩) := (toRecord_answers message _ _).mpr ⟨converts, rfl⟩
  have none : collect Hooks.none e message (⟨s, context, ()⟩ : World K Unit) = (.ok [], ⟨s, context, ()⟩) :=
    (collect_answers message _ _).mpr ⟨leaf ▸ .nil, rfl⟩
  have locked : lockRow e row (⟨s, context, ()⟩ : World K Unit) =
      (.ok ((stored s e row).isNone, row), ⟨s, context, ()⟩) := by
    refine (lockRow_answers row _ _).mpr ⟨(locks_iff alive).mpr ?_, rfl⟩
    rw [free]
    rfl
  have pruned : (prune [] row : Action K Unit Unit) = pure () := by
    unfold prune
    split <;> rfl
  have prepared : prepare [] row = (pure row : Action K Unit (Record e)) := rfl
  simp only [strictUpdate, required, hook_none, pure_bind]
  rw [bind_apply, record]
  dsimp only
  rw [bind_apply, none]
  dsimp only
  rw [bind_apply, locked]
  dsimp only
  rw [prepared, pure_bind, pruned, pure_bind, bind_apply, write, World.after_timeless]
  dsimp only
  rcases s.save context (table e) row with ⟨t, written, _ | _⟩
  · rfl
  · dsimp only
    have idle : (respond Hooks.none e written).Idle (⟨t, context, ()⟩ : World K Unit) := idle_respond written
    exact congrArg World.store
      (idle.bind fun value => Idle.pure (⟨value, (stored s e row).isNone⟩ : Upserted _))

end Operations

end ProtoStore.Domain
