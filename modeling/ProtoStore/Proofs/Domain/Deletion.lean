import ProtoStore.Proofs.Domain.Lasting
import ProtoStore.Proofs.Domain.Reload

/-!
# Deletions

What deletions of messages do, without hooks:

* `Store.withoutKeys` : the store without the rows of some keys; keys are taken out at once or one after the
  other (`withoutKeys_withoutKeys`);
* `HasKey`, `Refuses` : a message has a record with a key, or a deletion fails for it;
* `delete_keyed`, `forM_delete` : one deletion after the other takes out the rows of all keys;
* `deleteSet_keyed`, `deleteSet_refused` : so does one of several messages, unless it fails for one of them, and
  then it changes nothing;
* `read_deleted` : what has been deleted is not found.
-/

namespace ProtoStore

/-! ## Rows taken out -/

namespace Store

variable {K : Type} [DecidableEq K] [Catalog K] {store : Store K} {context : Context} {kind : K}

/-- The store without the rows of some keys. -/
def withoutKeys (store : Store K) (kind : K) (keys : List Value) : Store K :=
  store.discard kind fun row => (key row).isIn keys

theorem rows_withoutKeys (keys : List Value) :
    (store.withoutKeys kind keys).rows kind = (store.rows kind).filter fun row => !(key row).isIn keys :=
  rows_discard _

theorem withoutKeys_nil : store.withoutKeys kind [] = store := discard_none

/-- Rows are taken out in one go or in two. -/
theorem withoutKeys_withoutKeys (keys more : List Value) :
    (store.withoutKeys kind keys).withoutKeys kind more = store.withoutKeys kind (keys ++ more) := by
  have both (row : Row kind) : (key row).isIn (keys ++ more) = ((key row).isIn keys || (key row).isIn more) :=
    List.any_append
  unfold withoutKeys
  simp only [discard_discard, both]

theorem mem_withoutKeys [ExactKeys K] {keys : List Value} {row : Row kind} :
    row ∈ (store.withoutKeys kind keys).rows kind ↔ row ∈ store.rows kind ∧ key row ∉ keys := by
  rw [rows_withoutKeys, List.mem_filter, Bool.not_eq_true', ← Bool.not_eq_true,
    Value.isIn_iff (ExactKeys.isExact kind row)]

/-- A deletion of the rows with some keys. -/
theorem delete_eq_withoutKeys {query : Query} {keys : List Value} (alive : context.check = .ok ())
    (reads : (record kind).Reads query.conditions)
    (told : ∀ row, (record kind).satisfies query.conditions row = (key row).isIn keys) :
    ∃ n, store.delete context kind query = .ok (store.withoutKeys kind keys, n) := by
  have same : (record kind).satisfies query.conditions = fun row => (key row).isIn keys := funext told
  refine ⟨((store.rows kind).filter fun row => (key row).isIn keys).length, ?_⟩
  rw [delete_eq, alive, RecordType.select, RecordType.split_eq reads, same]
  rfl

/-- Rows of some keys are gone, and nothing else has changed. -/
structure Lost (kind : K) (keys : List Value) (before after : Store K) : Prop where
  /-- The rows that are left, in the order they were in. -/
  left : after.rows kind = (before.rows kind).filter fun row => !(key row).isIn keys
  mem_iff : ∀ row : Row kind, row ∈ after.rows kind ↔ row ∈ before.rows kind ∧ key row ∉ keys
  others : ∀ other, other ≠ kind → after.rows other = before.rows other
  sequence : after.sequence = before.sequence
  fresh : after.fresh = before.fresh
  drawn : after.drawn = before.drawn

theorem lost_withoutKeys [ExactKeys K] (store : Store K) (kind : K) (keys : List Value) :
    Lost kind keys store (store.withoutKeys kind keys) where
  left := rows_withoutKeys keys
  mem_iff _ := mem_withoutKeys
  others _ different := rows_discard_of_ne _ different
  sequence := rfl
  fresh := rfl
  drawn := rfl

end Store

namespace Domain.Operations

open Store Domain.Action

variable {E K : Type} [DecidableEq K] [Catalog K] [Bindings E K] {e : E} {s : Store K} {context : Context}
  {message : Message e} {messages : List (Message e)} {row : Record e} {world : World K Unit}

/-! ## Messages with keys -/

/-- A message has a record with a key. -/
def HasKey (e : E) (message : Message e) (row : Record e) : Prop :=
  Converts e message row ∧ (record (table e)).keyIsEmpty row = false

/-- Why a message has no record with a key. -/
inductive Refuses (e : E) (message : Message e) : Failure → Prop
  | conversion {failure : Failure} (failed : Bindings.fillRecord e message (Bindings.blankRecord e) = .error failure) :
    Refuses e message failure
  | emptyKey {row : Record e} (converts : Converts e message row)
    (empty : (record (table e)).keyIsEmpty row = true) : Refuses e message (.argument .emptyKey)

omit [DecidableEq K] in
theorem keyed_or_refuses (e : E) (message : Message e) :
    (∃ row, HasKey e message row) ∨ ∃ failure, Refuses e message failure := by
  cases filled : Bindings.fillRecord e message (Bindings.blankRecord e) with
  | error failure => exact Or.inr ⟨failure, .conversion filled⟩
  | ok row =>
    cases empty : (record (table e)).keyIsEmpty row with
    | true => exact Or.inr ⟨_, .emptyKey filled empty⟩
    | false => exact Or.inl ⟨row, filled, empty⟩

omit [DecidableEq K] in
theorem requiredKey_keyed (keyed : HasKey e message row) :
    requiredKey Hooks.none e message world = (.ok (key row), world) := by
  unfold requiredKey
  rw [toRecord_none, bind_of_ok (ofExcept_ok.mpr ⟨keyed.1, rfl⟩), bind_of_ok (requireKey_keyed keyed.2)]
  rfl

omit [DecidableEq K] in
theorem requiredKey_refused {failure : Failure} (refuses : Refuses e message failure) :
    requiredKey Hooks.none e message world = (.error failure, world) := by
  unfold requiredKey
  rw [toRecord_none]
  cases refuses with
  | conversion failed =>
    rw [failed]
    rfl
  | emptyKey converts empty =>
    rw [bind_of_ok (ofExcept_ok.mpr ⟨converts, rfl⟩)]
    refine bind_of_error ?_
    rw [requireKey, empty]
    rfl

omit [DecidableEq K] in
/-- The keys of messages that have them. -/
theorem mapM_requiredKey_keyed {rows : List (Record e)} (keyed : List.Forall₂ (HasKey e) messages rows) :
    messages.mapM (requiredKey Hooks.none e) world = (.ok (rows.map key), world) := by
  induction keyed with
  | nil => rfl
  | cons first _ ih =>
    rw [List.mapM_cons, bind_of_ok (requiredKey_keyed first), bind_of_ok ih]
    rfl

omit [DecidableEq K] in
/-- Keys are required up to the first message that has none. -/
theorem mapM_requiredKey_refused {before after : List (Message e)} {rows : List (Record e)} {failure : Failure}
    (keyed : List.Forall₂ (HasKey e) before rows) (refuses : Refuses e message failure) :
    (before ++ message :: after).mapM (requiredKey Hooks.none e) world = (.error failure, world) := by
  induction keyed with
  | nil =>
    rw [List.nil_append, List.mapM_cons]
    exact bind_of_error (requiredKey_refused refuses)
  | cons first _ ih =>
    rw [List.cons_append, List.mapM_cons, bind_of_ok (requiredKey_keyed first)]
    exact bind_of_error ih

omit [DecidableEq K] in
/-- Either all messages have keys, or there is a first one that has none. -/
theorem keyed_or_first_refused (e : E) (messages : List (Message e)) :
    (∃ rows, List.Forall₂ (HasKey e) messages rows) ∨
      ∃ before message after rows failure, messages = before ++ message :: after ∧
        List.Forall₂ (HasKey e) before rows ∧ Refuses e message failure := by
  induction messages with
  | nil => exact Or.inl ⟨[], .nil⟩
  | cons first rest ih =>
    rcases keyed_or_refuses e first with ⟨row, keyed⟩ | ⟨failure, refuses⟩
    · rcases ih with ⟨rows, all⟩ | ⟨before, message, after, rows, failure, rfl, all, refuses⟩
      · exact Or.inl ⟨row :: rows, .cons keyed all⟩
      · exact Or.inr ⟨first :: before, message, after, row :: rows, failure, rfl, .cons keyed all, refuses⟩
    · exact Or.inr ⟨[], first, rest, [], failure, rfl, .nil, refuses⟩

/-! ## Deletions -/

section

variable [Loadable E] [ExactKeys K]

omit [Loadable E] [ExactKeys K] in
theorem remove_withoutKeys [context.Timeless] {query : Query} {keys : List Value} (alive : context.check = .ok ())
    (reads : (record (table e)).Reads query.conditions)
    (told : ∀ row, (record (table e)).satisfies query.conditions row = (key row).isIn keys) :
    Action.remove (fun context store => store.delete context (table e) query) (⟨s, context, ()⟩ : World K Unit) =
      (.ok (), ⟨s.withoutKeys (table e) keys, context, ()⟩) := by
  obtain ⟨n, deleted⟩ := delete_eq_withoutKeys alive reads told
  exact remove_ok.mpr ⟨_, n, deleted, by rw [World.after_timeless]⟩

theorem delete_keyed [context.Timeless] (alive : context.check = .ok ()) (keyed : HasKey e message row) :
    Operations.delete Hooks.none e (some message) ⟨s, context, ()⟩ =
      (.ok (), ⟨s.withoutKeys (table e) [key row], context, ()⟩) := by
  have told (other : Record e) :
      (record (table e)).satisfies (byKey e row).conditions other = (key other).isIn [key row] := by
    rw [satisfies_byKey, Bool.eq_iff_iff, sameKey_iff, Value.isIn_iff (ExactKeys.isExact _ other),
      List.mem_singleton]
  simp only [Operations.delete, required, toRecord_none, hook_none, pure_bind]
  rw [bind_of_ok (ofExcept_ok.mpr ⟨keyed.1, rfl⟩), bind_of_ok (requireKey_keyed keyed.2),
    bind_of_ok (remove_withoutKeys alive reads_byKey told)]
  rfl

/-- Messages deleted one after the other. -/
theorem forM_delete [context.Timeless] (alive : context.check = .ok ()) {rows : List (Record e)}
    (keyed : List.Forall₂ (HasKey e) messages rows) :
    messages.forM (fun message => Operations.delete Hooks.none e (some message)) ⟨s, context, ()⟩ =
      (.ok (), ⟨s.withoutKeys (table e) (rows.map key), context, ()⟩) := by
  induction keyed generalizing s with
  | nil =>
    rw [List.map_nil, withoutKeys_nil]
    rfl
  | cons first _ ih =>
    rw [List.forM_eq_forM, List.forM_cons, bind_of_ok (delete_keyed alive first), ← List.forM_eq_forM, ih,
      withoutKeys_withoutKeys, List.map_cons, List.singleton_append]

omit [ExactKeys K] in
/-- Messages deleted together. -/
theorem deleteSet_keyed [context.Timeless] (alive : context.check = .ok ()) {rows : List (Record e)}
    (keyed : List.Forall₂ (HasKey e) messages rows) :
    deleteSet Hooks.none e (some messages) ⟨s, context, ()⟩ =
      (.ok (), ⟨s.withoutKeys (table e) (rows.map key), context, ()⟩) := by
  let query := Query.all.filter (.isIn (record (table e)).keyColumn (rows.map key))
  have reads : (record (table e)).Reads query.conditions := by
    intro condition there
    obtain rfl := List.mem_singleton.mp there
    exact isSome_keyColumn e
  have told (row : Record e) :
      (record (table e)).satisfies query.conditions row = (key row).isIn (rows.map key) := by
    show ((((record (table e)).value? row (record (table e)).keyColumn).getD .null).isIn (rows.map key) && true) = _
    rw [KeyColumns.value?, Bool.and_true]
    rfl
  simp only [deleteSet, required, hook_none, pure_bind]
  rw [bind_of_ok (mapM_requiredKey_keyed keyed), bind_of_ok (remove_withoutKeys alive reads told)]
  rfl

omit [Loadable E] [ExactKeys K] in
/-- A deletion of several messages fails for the first one without a key before anything is deleted. -/
theorem deleteSet_refused {before after : List (Message e)} {rows : List (Record e)} {failure : Failure}
    (keyed : List.Forall₂ (HasKey e) before rows) (refuses : Refuses e message failure) :
    deleteSet Hooks.none e (some (before ++ message :: after)) world = (.error failure, world) := by
  simp only [deleteSet, required, hook_none, pure_bind]
  exact bind_of_error (mapM_requiredKey_refused keyed refuses)

/-- What has been deleted is not found. -/
theorem read_deleted [context.Timeless] {keys : List Value} (alive : context.check = .ok ()) (keyed : HasKey e message row)
    (gone : key row ∈ keys) {fields : Option (List String)}
    (known : ∀ selection ∈ fields, ∀ column ∈ selection, HasColumn (table e) column) :
    Operations.read Hooks.none e (some message) fields ⟨s.withoutKeys (table e) keys, context, ()⟩ =
      (.error .notFound, ⟨s.withoutKeys (table e) keys, context, ()⟩) := by
  refine read_missing alive keyed.1 keyed.2 known fun other left same => ?_
  obtain ⟨-, kept⟩ := mem_withoutKeys.mp left
  exact kept (same ▸ gone)

end

end Domain.Operations

end ProtoStore
