import ProtoStore.Proofs.Domain.Course
import ProtoStore.Proofs.Except
import ProtoStore.Proofs.Store.Alike
import ProtoStore.Proofs.Store.Projection

/-!
# What is loaded again

A stored record responds with the same message in every store with the same rows
(`Responds.alike`), and so a message is read by its key as it was answered (`reads_of_responds`).

In a context that is not over, a reading answers the row of its key, with the selected columns (`read_eq`,
`read_stored`), or that there is none (`read_missing`), and fails if a selected column does not exist
(`exists_read_fails`). Where all rows of messages have messages (`Convertible`), a record responds
(`exists_responds`): nothing that is loaded with it can fail.

A message without links is read, updated and patched by the one row of its key. An update of a stored row saves
the row with the keys of its parents (`Update.of_leaf`), and so does a patch (`patch_leaf`), which fails if there
is no row (`patch_not_found`).
-/

namespace ProtoStore.Domain.Operations

open Store Domain.Action

variable {E K : Type} [DecidableEq K] [Catalog K] [Bindings E K] {e : E}

/-- Rows are found by the columns that links name, and sorted by their keys. -/
class Loadable (E : Type) {K : outParam Type} [Catalog K] [Bindings E K] : Prop extends KeyColumns E where
  sorted (e : E) : SortedByKey (table e)
  children {e : E} {link : Children e} :
    .children link ∈ Bindings.links e → HasColumn (table link.target) link.column
  joined {e : E} {link : Joined e} :
    .joined link ∈ Bindings.links e → HasColumn link.join link.ownerColumn

variable [Loadable E] [ExactKeys K] {s t : Store K} {context later : Context} {row : Record e}

omit [DecidableEq K] [ExactKeys K] in
theorem hasColumn_key (e : E) : HasColumn (table e) (record (table e)).keyColumn := isSome_keyColumn e

/-! ## Links -/

theorem Loads.alike [context.Timeless] [later.Timeless] {link : MessageLink e} {message loaded : Message e} (h : Alike s t)
    (alive : context.check = .ok ()) (live : later.check = .ok ()) (hl : link ∈ Bindings.links e)
    (loads : Loads context s row link message loaded) : Loads later t row link message loaded := by
  cases link with
  | reference link =>
    obtain ⟨found, target, hf, rest⟩ := loads
    refine ⟨found, target, ?_, rest⟩
    rwa [← loadOne_alike h (alive.trans live.symm) (KeyColumns.value? link.target) (hasColumn_key link.target)]
  | children link =>
    obtain ⟨rows, targets, hf, rest⟩ := loads
    refine ⟨rows, targets, ?_, rest⟩
    rwa [← loadChildren_alike h (alive.trans live.symm) (Loadable.children hl) (hasColumn_key link.target)
      (Loadable.sorted link.target)]
  | joined link =>
    obtain ⟨rows, targets, hf, rest⟩ := loads
    refine ⟨rows, targets, ?_, rest⟩
    have next : (context.after 1).check = (later.after 1).check := by
      rw [Context.after_timeless, Context.after_timeless, alive, live]
    rwa [← loadLinked_alike h (alive.trans live.symm) next (Loadable.joined hl) (hasColumn_key link.target)
      (Loadable.sorted link.target)]

theorem LoadsAll.alike [context.Timeless] [later.Timeless] {links : List (MessageLink e)} {message loaded : Message e} (h : Alike s t)
    (alive : context.check = .ok ()) (live : later.check = .ok ())
    (hl : ∀ link ∈ links, link ∈ Bindings.links e)
    (loads : LoadsAll context s row links message loaded) :
    LoadsAll later t row links message loaded := by
  induction links generalizing message with
  | nil => exact loads
  | cons link links ih =>
    obtain ⟨hlink, hlinks⟩ := List.forall_mem_cons.mp hl
    obtain ⟨next, first, rest⟩ := loads
    exact ⟨next, first.alike h alive live hlink, ih hlinks rest⟩

/-- Stores with the same rows answer alike. -/
theorem Responds.alike [context.Timeless] [later.Timeless] {value : Message e} (h : Alike s t) (alive : context.check = .ok ())
    (live : later.check = .ok ()) (responds : Responds context s row value) :
    Responds later t row value := by
  obtain ⟨message, reverts, loads⟩ := responds
  exact ⟨message, reverts, loads.alike h alive live fun _ hl => hl⟩

/-! ## Reading -/

omit [Loadable E] in
theorem stored_of_mem {other : Record e} (h : s.Distinct) (hr : row ∈ s.rows (table e))
    (hk : (record (table e)).key other = (record (table e)).key row) :
    stored s e other = some row := by
  have keys : key other = key row := congrArg (record (table e)).rowKey.toValue hk
  have found : (stored s e other).isSome = true :=
    List.find?_isSome.mpr ⟨row, hr, sameKey_iff.mpr keys.symm⟩
  obtain ⟨x, hx⟩ := Option.isSome_iff_exists.mp found
  have same : key x = key other :=
    sameKey_iff.mp (List.find?_some (p := fun x : Record e => sameKey x other) hx)
  rw [hx, h.eq_of_key (List.mem_of_find?_eq_some hx) hr (same.trans keys)]

/-- What a stored record responds with is read by its key. -/
theorem reads_of_responds [context.Timeless] [later.Timeless] {message value : Message e} {other : Record e} (h : s.Distinct)
    (alive : context.check = .ok ()) (live : later.check = .ok ()) (hr : row ∈ s.rows (table e))
    (keyed : (record (table e)).keyIsEmpty row = false) (converts : Converts e message other)
    (hk : (record (table e)).key other = (record (table e)).key row)
    (responds : Responds context s row value) : Reads later s e message none value := by
  refine ⟨other, row, converts, ?_, ?_, responds.alike (Alike.refl h) alive live⟩
  · unfold RecordType.keyIsEmpty at keyed ⊢
    rwa [hk]
  · have first : s.first later (table e) (byKey e other) = .ok (stored s e other) := first_byKey live
    rw [stored_of_mem h hr hk] at first
    exact first

/-! ## Readings by keys -/

variable {message : Message e} {fields : Option (List String)}

omit [DecidableEq K] [Loadable E] [ExactKeys K] in
theorem selection_byKey (fields : Option (List String)) (row : Record e) :
    ((byKey e row).select fields).selection = fields := by
  show fields.or none = fields
  rw [Option.or_none]

omit [ExactKeys K] in
/-- What a reading finds by a key is the row of the key, with the selected columns. -/
theorem first_select (alive : context.check = .ok ())
    (known : ∀ selection ∈ fields, ∀ column ∈ selection, HasColumn (table e) column) :
    s.first context (table e) ((byKey e row).select fields) =
      .ok ((stored s e row).map ((record (table e)).shown fields)) := by
  have whole : { (byKey e row).select fields with selection := none } = byKey e row := rfl
  rw [first_shown (selection_byKey fields row) known, whole, first_byKey alive]
  rfl

omit [ExactKeys K] in
/-- A reading answers the row of the key, with the selected columns, or that there is none. -/
theorem read_eq [context.Timeless] (alive : context.check = .ok ()) (converts : Converts e message row)
    (keyed : (record (table e)).keyIsEmpty row = false)
    (known : ∀ selection ∈ fields, ∀ column ∈ selection, HasColumn (table e) column) :
    Operations.read Hooks.none e (some message) fields ⟨s, context, ()⟩ =
      match stored s e row with
      | none => (.error .notFound, ⟨s, context, ()⟩)
      | some found => respond Hooks.none e ((record (table e)).shown fields found) ⟨s, context, ()⟩ := by
  rw [read_keyed fields converts keyed, first_select alive known]
  cases stored s e row with
  | none => rfl
  | some found => rfl

/-- A stored row is read by its key. -/
theorem read_stored [context.Timeless] (distinct : s.Distinct) (alive : context.check = .ok ())
    (there : row ∈ s.rows (table e)) (keyed : (record (table e)).keyIsEmpty row = false) {other : Record e}
    (converts : Converts e message other) (same : (record (table e)).key other = (record (table e)).key row)
    (known : ∀ selection ∈ fields, ∀ column ∈ selection, HasColumn (table e) column) :
    Operations.read Hooks.none e (some message) fields ⟨s, context, ()⟩ =
      respond Hooks.none e ((record (table e)).shown fields row) ⟨s, context, ()⟩ := by
  have keyed' : (record (table e)).keyIsEmpty other = false := by
    unfold RecordType.keyIsEmpty at keyed ⊢
    rwa [same]
  rw [read_eq alive converts keyed' known, stored_of_mem distinct there same]

omit [Loadable E] in
theorem stored_eq_none (h : ∀ other ∈ s.rows (table e), key other ≠ key row) :
    stored s e row = none :=
  List.find?_eq_none.mpr fun other there same => h other there (sameKey_iff.mp same)

/-- A key that no row has is not found. -/
theorem read_missing [context.Timeless] (alive : context.check = .ok ()) (converts : Converts e message row)
    (keyed : (record (table e)).keyIsEmpty row = false)
    (known : ∀ selection ∈ fields, ∀ column ∈ selection, HasColumn (table e) column)
    (unused : ∀ other ∈ s.rows (table e), key other ≠ key row) :
    Operations.read Hooks.none e (some message) fields ⟨s, context, ()⟩ =
      (.error .notFound, ⟨s, context, ()⟩) := by
  rw [read_eq alive converts keyed known, stored_eq_none unused]

omit [ExactKeys K] in
/-- A reading with a column that does not exist fails, whether there is a row of the key or not. -/
theorem exists_read_fails [context.Timeless] (alive : context.check = .ok ()) (converts : Converts e message row)
    (keyed : (record (table e)).keyIsEmpty row = false) {selection : List String}
    (unknown : ∃ column ∈ selection, ¬ HasColumn (table e) column) :
    ∃ column ∈ selection, ¬ HasColumn (table e) column ∧
      Operations.read Hooks.none e (some message) (some selection) ⟨s, context, ()⟩ =
        (.error (.store (.unknownColumn (record (table e)).table column)), ⟨s, context, ()⟩) := by
  have whole : s.first context (table e) { (byKey e row).select (some selection) with selection := none } =
      .ok (stored s e row) := first_byKey alive
  have missing : ∃ column ∈ selection, ((record (table e)).column? column).isSome = false :=
    unknown.imp fun _ => And.imp_right Bool.eq_false_iff.mpr
  obtain ⟨column, there, absent, fails⟩ := exists_first_fails (selection_byKey _ row) missing whole
  refine ⟨column, there, Bool.eq_false_iff.mp absent, ?_⟩
  rw [read_keyed (some selection) converts keyed, fails]

/-! ## What is loaded always -/

/-- All rows of messages have messages. -/
def Convertible (E : Type) {K : Type} [DecidableEq K] [Catalog K] [Bindings E K] (s : Store K) : Prop :=
  ∀ (e : E), ∀ row ∈ s.rows (table e), ∃ message, Reverts e row message

omit [Loadable E] [ExactKeys K] in
theorem Convertible.exists_forall₂ (conv : Convertible E s) {rows : List (Record e)}
    (h : ∀ row ∈ rows, row ∈ s.rows (table e)) : ∃ ms, List.Forall₂ (Reverts e) rows ms :=
  List.exists_forall₂ fun row there => conv e row (h row there)

section

variable (alive : context.check = .ok ()) (conv : Convertible E s)
include alive conv

theorem exists_loads [context.Timeless] {link : MessageLink e} (hl : link ∈ Bindings.links e) (message : Message e) :
    ∃ loaded, Loads context s row link message loaded := by
  cases link with
  | reference link =>
    have found := loadOne_eq (s := s) alive (KeyColumns.value? link.target)
      (hasColumn_key link.target) (link.key row)
    by_cases empty : link.keyIsEmpty row = true
    · exact ⟨_, none, none, by rw [if_pos empty], .none, rfl⟩
    · cases hx : (s.rows (table link.target)).find? fun x => (key x).same (link.key row) with
      | none => exact ⟨_, none, none, by rw [if_neg empty, found, hx], .none, rfl⟩
      | some x =>
        obtain ⟨m, hm⟩ := conv link.target x (List.mem_of_find?_eq_some hx)
        exact ⟨_, some x, some m, by rw [if_neg empty, found, hx], .some hm, rfl⟩
  | children link =>
    have column : HasColumn (table link.target) link.column := Loadable.children hl
    have key := hasColumn_key link.target
    have reads : HasColumn (table link.target) (Condition.eq link.column (keyOf e row)).column := column
    have loaded : ∃ rows, s.loadChildren context (table link.target) link.column (keyOf e row) =
        .ok rows := ⟨_, find_sorted_eq alive reads key (Loadable.sorted link.target)⟩
    obtain ⟨rows, hrows⟩ := loaded
    obtain ⟨ms, hms⟩ := conv.exists_forall₂ fun x hx => ((mem_loadChildren alive column key (Loadable.sorted link.target) hrows).mp hx).1
    exact ⟨_, rows, ms, hrows, hms, rfl⟩
  | joined link =>
    have column : HasColumn link.join link.ownerColumn := Loadable.joined hl
    have key := hasColumn_key link.target
    have loaded : ∃ rows, s.loadLinked context (table link.target) link.join link.ownerColumn
        (keyOf e row) link.targetColumn = .ok rows := ⟨_, loadLinked_eq alive column key (Loadable.sorted link.target)⟩
    obtain ⟨rows, hrows⟩ := loaded
    obtain ⟨ms, hms⟩ := conv.exists_forall₂ fun x hx =>
      ((mem_loadLinked alive column (KeyColumns.value? link.target) key (Loadable.sorted link.target) hrows).mp hx).1
    exact ⟨_, rows, ms, hrows, hms, rfl⟩

theorem exists_loadsAll [context.Timeless] (row : Record e) {links : List (MessageLink e)}
    (hl : ∀ link ∈ links, link ∈ Bindings.links e) (message : Message e) :
    ∃ loaded, LoadsAll context s row links message loaded := by
  induction links generalizing message with
  | nil => exact ⟨message, rfl⟩
  | cons link links ih =>
    obtain ⟨first, rest⟩ := List.forall_mem_cons.mp hl
    obtain ⟨next, hnext⟩ := exists_loads alive conv first message
    obtain ⟨loaded, hloaded⟩ := ih rest next
    exact ⟨loaded, next, hnext, hloaded⟩

/-- A record that has a message responds. -/
theorem exists_responds [context.Timeless] (h : ∃ message, Reverts e row message) :
    ∃ value, Responds context s row value := by
  obtain ⟨message, reverts⟩ := h
  obtain ⟨value, loads⟩ := exists_loadsAll alive conv row (fun _ hl => hl) message
  exact ⟨value, message, reverts, loads⟩

end

/-! ## Messages without links -/

section

variable {value : Message e} {other : Record e}

omit [Loadable E] [ExactKeys K] in
theorem responds_leaf (leaf : Bindings.links e = []) :
    Responds context s row value ↔ Reverts e row value := by
  unfold Responds
  rw [leaf]
  exact ⟨fun ⟨_, reverts, same⟩ => same ▸ reverts, fun reverts => ⟨value, reverts, rfl⟩⟩

/-- The record of a message with the keys of parents that a stored one holds. -/
def kept (stored row : Record e) : Record e :=
  (Bindings.keepParents? e).elim row fun keep => keep stored row

/-- An update of a stored row, step by step. -/
theorem Update.of_leaf [context.Timeless] (leaf : Bindings.links e = []) (distinct : s.Distinct) (alive : context.check = .ok ())
    (hr : row ∈ s.rows (table e)) (converts : Converts e message other)
    (same : (record (table e)).key other = (record (table e)).key row)
    (keyed : (record (table e)).keyIsEmpty (kept row other) = false) (reverts : Reverts e (kept row other) value) :
    Nonempty (Update context e message s
      ((s.see (key (kept row other))).upsert (table e) (kept row other)) ⟨value, false⟩) := by
  have locks : Locks context s e other (false, kept row other) := by
    rw [locks_iff alive, stored_of_mem distinct hr same]
    rfl
  have prunes : prune [] (kept row other) ⟨s, context, ()⟩ = (.ok (), ⟨s, context, ()⟩) := by
    rw [prune, keyed]
    rfl
  have assigned : s.assignKey (table e) (kept row other) = (s.see (key (kept row other)), .ok (kept row other)) :=
    assignKey_of_keyed keyed
  have saves := save_ok.mpr ⟨alive, _, assigned, rfl⟩
  exact ⟨⟨other, [], kept row other, kept row other, kept row other, s, s, _, converts, leaf ▸ .nil, locks, rfl,
    prunes, saves, rfl, (responds_leaf leaf).mpr reverts⟩⟩

/-- A patch of a stored row saves the row of the merged message, with the keys of its parents. -/
theorem patch_leaf [context.Timeless] (leaf : Bindings.links e = []) (distinct : s.Distinct) (alive : context.check = .ok ())
    (hr : row ∈ s.rows (table e)) (keyed : (record (table e)).keyIsEmpty row = false) {keyRow : Record e}
    (keys : Converts e (Bindings.keyOnly e message) keyRow)
    (found : (record (table e)).key keyRow = (record (table e)).key row) {current : Message e}
    (current_reverts : Reverts e row current) {mask : List String}
    (converts : Converts e (Mask.apply (Bindings.maskFields e) mask "" message current) other)
    (same : (record (table e)).key other = (record (table e)).key row)
    (keyed' : (record (table e)).keyIsEmpty (kept row other) = false) (reverts : Reverts e (kept row other) value) :
    patch Hooks.none e (some message) mask ⟨s, context, ()⟩ =
      (.ok value, ⟨(s.see (key (kept row other))).upsert (table e) (kept row other), context, ()⟩) := by
  have reads : Reads context s e (Bindings.keyOnly e message) none current :=
    reads_of_responds distinct alive alive hr keyed keys found ((responds_leaf leaf).mpr current_reverts)
  exact patch_ok.mpr ⟨_, rfl, current, false, reads,
    Update.of_leaf leaf distinct alive hr converts same keyed' reverts⟩

/-- A patch of a key that no row has fails and changes nothing. -/
theorem patch_not_found [context.Timeless] (alive : context.check = .ok ()) (converts : Converts e (Bindings.keyOnly e message) other)
    (keyed : (record (table e)).keyIsEmpty other = false)
    (unused : ∀ row ∈ s.rows (table e), key row ≠ key other) (mask : List String) :
    patch Hooks.none e (some message) mask ⟨s, context, ()⟩ = (.error .notFound, ⟨s, context, ()⟩) := by
  have reading : Operations.read Hooks.none e (some (Bindings.keyOnly e message)) none ⟨s, context, ()⟩ =
      (.error .notFound, ⟨s, context, ()⟩) := read_missing alive converts keyed nofun unused
  simp only [patch, required, hook_none, pure_bind]
  exact bind_of_error reading

end

end ProtoStore.Domain.Operations
