import ProtoStore.Proofs.Store.Tables

/-!
# What calls of a store leave

* `Timeless context` : time makes no difference to a context, which has ended or has no deadline;
* `Distinct store` : no two rows of a kind have the same key;
* `assignKey_of_keyed`, `assignKey_of_empty` : which row is stored under which key;
* `Altered store kind rows after` : the rows of one kind are others, and all other rows stay;
* `save_cases`, `create_cases`, `delete_ok` : all that a call can do. A call that fails may have moved
  the running number, but leaves all rows;
* `Distinct.upsert`, `Distinct.insert`, `Distinct.delete` : no call makes two rows of one key.
-/

namespace ProtoStore

/-! ## Contexts -/

namespace Context

variable {context : Context}

/-- A context is the same at all times: it has ended, or has no deadline. -/
class Timeless (context : Context) : Prop where
  after_eq (moments : Nat) : context.after moments = context

@[simp] theorem after_timeless [context.Timeless] (moments : Nat) : context.after moments = context :=
  Timeless.after_eq moments

instance : Timeless .unlimited := ⟨fun _ => rfl⟩

theorem timeless_of_over (h : context.isOver = true) : context.Timeless := by
  obtain ⟨cancelled, momentsLeft⟩ := context
  refine ⟨fun moments => ?_⟩
  cases cancelled with
  | true => rfl
  | false =>
    obtain rfl : momentsLeft = some 0 := by simpa [isOver] using h
    simp [after]

theorem check_cases (context : Context) : context.check = .ok () ∨ context.check = .error .cancelled := by
  unfold Context.check
  split
  · exact Or.inr rfl
  · exact Or.inl rfl

end Context

namespace Store

variable {K : Type} [Catalog K] {store after : Store K} {kind other : K}

/-! ## Keys -/

/-- The store after a key was seen. -/
def see (store : Store K) (key : Value) : Store K :=
  { store with sequence := observe store.sequence key }

theorem assignKey_of_keyed {row : Row kind} (h : (record kind).keyIsEmpty row = false) :
    store.assignKey kind row = (store.see (key row), .ok row) := by
  simp [assignKey, h, see]

theorem assignKey_of_empty {row : Row kind} (h : (record kind).keyIsEmpty row = true) :
    store.assignKey kind row = (store.draw, store.newKey kind row) := by
  simp [assignKey, h]

theorem newKey_of_end {row : Row kind} (h : UInt64.ofNat (store.sequence + 1) = 0) :
    store.newKey kind row = .error .panic :=
  if_pos h

theorem newKey_of_room {row : Row kind} (h : UInt64.ofNat (store.sequence + 1) ≠ 0) :
    store.newKey kind row =
      match (record kind).withNewKey? (.ofNat (store.sequence + 1)) (store.fresh store.drawn) row with
      | some row => .ok row
      | none => .error (.store (.missingKey (record kind).table)) :=
  if_neg h

/-- A new key is made from the next number, which is not zero. -/
theorem newKey_ok {row written : Row kind} (h : store.newKey kind row = .ok written) :
    UInt64.ofNat (store.sequence + 1) ≠ 0 ∧
      ∃ key, (record kind).rowKey.generate (.ofNat (store.sequence + 1)) (store.fresh store.drawn) =
        some key ∧ written = (record kind).setKey key row := by
  by_cases last : UInt64.ofNat (store.sequence + 1) = 0
  · rw [newKey_of_end last] at h
    cases h
  · rw [newKey_of_room last, RecordType.withNewKey?] at h
    refine ⟨last, ?_⟩
    cases hk : (record kind).rowKey.generate (.ofNat (store.sequence + 1)) (store.fresh store.drawn) with
    | none =>
      rw [hk] at h
      cases h
    | some key =>
      rw [hk] at h
      exact ⟨key, rfl, (Except.ok.inj h).symm⟩

theorem assignKey_fst (store : Store K) (row : Row kind) :
    (store.assignKey kind row).1 = store.draw ∨ (store.assignKey kind row).1 = store.see (key row) := by
  cases h : (record kind).keyIsEmpty row with
  | true => exact Or.inl (by rw [assignKey_of_empty h])
  | false => exact Or.inr (by rw [assignKey_of_keyed h])

/-- The row that gets a key is the given one but for that key. -/
theorem assignKey_ok {row written : Row kind} (h : store.assignKey kind row = (after, .ok written)) :
    (record kind).keyIsEmpty row = false ∧ after = store.see (key row) ∧ written = row ∨
      (record kind).keyIsEmpty row = true ∧ after = store.draw ∧
        ∃ key, (record kind).rowKey.generate (.ofNat (store.sequence + 1)) (store.fresh store.drawn) =
          some key ∧ written = (record kind).setKey key row := by
  cases he : (record kind).keyIsEmpty row with
  | false =>
    rw [assignKey_of_keyed he, Prod.mk.injEq, Except.ok.injEq] at h
    exact Or.inl ⟨rfl, h.1.symm, h.2.symm⟩
  | true =>
    rw [assignKey_of_empty he, Prod.mk.injEq] at h
    exact Or.inr ⟨rfl, h.1.symm, (newKey_ok h.2).2⟩

variable [DecidableEq K]

@[simp] theorem rows_draw : store.draw.rows = store.rows := rfl

@[simp] theorem rows_see (key : Value) : (store.see key).rows = store.rows := rfl

@[simp] theorem rows_assignKey (row : Row kind) : (store.assignKey kind row).1.rows = store.rows := by
  rcases assignKey_fst store row with h | h <;> rw [h] <;> rfl

theorem rows_of_assignKey {row : Row kind} {result : Except Failure (Row kind)}
    (h : store.assignKey kind row = (after, result)) : after.rows = store.rows := by
  have hr : (store.assignKey kind row).1.rows = store.rows := rows_assignKey row
  rwa [h] at hr

/-! ## Rows of one kind -/

/-- A store with other rows of a kind. -/
structure Altered (store : Store K) (kind : K) (rows : List (Row kind)) (after : Store K) : Prop where
  rows_self : after.rows kind = rows
  rows_of_ne {other : K} : other ≠ kind → after.rows other = store.rows other
  sequence : after.sequence = store.sequence
  drawn : after.drawn = store.drawn
  fresh : after.fresh = store.fresh

theorem altered_push (store : Store K) (row : Row kind) :
    Altered store kind (store.rows kind ++ [row]) (store.push kind row) :=
  ⟨rows_push, rows_push_of_ne, rfl, rfl, rfl⟩

theorem altered_upsert (store : Store K) (row : Row kind) :
    Altered store kind (replaceOrAdd row (store.rows kind)) (store.upsert kind row) := by
  refine ⟨rows_upsert row, rows_upsert_of_ne row, ?_, ?_, ?_⟩ <;> rw [upsert_eq] <;> rfl

theorem altered_discard (store : Store K) (p : Row kind → Bool) :
    Altered store kind ((store.rows kind).filter fun row => !p row) (store.discard kind p) :=
  ⟨rows_discard p, rows_discard_of_ne p, rfl, rfl, rfl⟩

theorem altered_self (store : Store K) (kind : K) : Altered store kind (store.rows kind) store :=
  ⟨rfl, fun _ => rfl, rfl, rfl, rfl⟩

/-- What rows there are of other kinds, and how far the running number has come, is not told by the rows of one. -/
theorem Altered.trans {last : Store K} {rows rows' : List (Row kind)} (h : Altered store kind rows after)
    (h' : Altered after kind rows' last) : Altered store kind rows' last :=
  ⟨h'.rows_self, fun ne => (h'.rows_of_ne ne).trans (h.rows_of_ne ne), h'.sequence.trans h.sequence,
    h'.drawn.trans h.drawn, h'.fresh.trans h.fresh⟩

@[simp] theorem sequence_upsert (row : Row kind) : (store.upsert kind row).sequence = store.sequence :=
  (altered_upsert store row).sequence

@[simp] theorem drawn_upsert (row : Row kind) : (store.upsert kind row).drawn = store.drawn :=
  (altered_upsert store row).drawn

@[simp] theorem fresh_upsert (row : Row kind) : (store.upsert kind row).fresh = store.fresh :=
  (altered_upsert store row).fresh

/-! ## Saving and creating -/

theorem insert_ok [ExactKeys K] {row : Row kind} :
    store.insert kind row = .ok after ↔
      key row ∉ (store.rows kind).map key ∧ after = store.push kind row := by
  have hany : ((store.rows kind).any fun other => sameKey other row) = true ↔
      key row ∈ (store.rows kind).map key := by
    simp only [List.any_eq_true, sameKey_iff, List.mem_map]
  unfold insert
  split
  · next h => simp [hany.mp h]
  · next h =>
    rw [hany] at h
    simp only [Except.ok.injEq, h, not_false_eq_true, true_and, eq_comm]

/-- A row is saved under its key or a new one, unless the call fails. -/
theorem save_cases (context : Context) (store : Store K) (kind : K) (row : Row kind) :
    ((∃ failure, (store.save context kind row).result = .error failure) ∧
      ((store.save context kind row).store = store ∨
        (store.save context kind row).store = (store.assignKey kind row).1)) ∨
    ∃ after written, store.assignKey kind row = (after, .ok written) ∧
      store.save context kind row = ⟨after.upsert kind written, written, .ok ()⟩ := by
  unfold save
  split
  · next failure _ => exact Or.inl ⟨⟨failure, rfl⟩, Or.inl rfl⟩
  · split
    · next failure h => exact Or.inl ⟨⟨failure, rfl⟩, Or.inr (by rw [h])⟩
    · next after written h => exact Or.inr ⟨after, written, h, rfl⟩

/-- A row is added under its key or a new one, unless the call fails. -/
theorem create_cases [ExactKeys K] (context : Context) (store : Store K) (kind : K)
    (row : Row kind) :
    ((∃ failure, (store.create context kind row).result = .error failure) ∧
      ((store.create context kind row).store = store ∨
        (store.create context kind row).store = (store.assignKey kind row).1)) ∨
    ∃ after written, store.assignKey kind row = (after, .ok written) ∧
      key written ∉ (store.rows kind).map key ∧
      store.create context kind row = ⟨after.push kind written, written, .ok ()⟩ := by
  unfold create
  split
  · next failure _ => exact Or.inl ⟨⟨failure, rfl⟩, Or.inl rfl⟩
  · split
    · next failure h => exact Or.inl ⟨⟨failure, rfl⟩, Or.inr (by rw [h])⟩
    · next after written h =>
      have hrows : after.rows = store.rows := rows_of_assignKey h
      split
      · next e _ => exact Or.inl ⟨⟨.store e, rfl⟩, Or.inr (by rw [h])⟩
      · next added ha =>
        obtain ⟨hk, rfl⟩ := insert_ok.mp ha
        rw [hrows] at hk
        exact Or.inr ⟨after, written, h, hk, rfl⟩

/-! ## Deleting -/

theorem delete_ok {context : Context} {query : Query} {n : Nat}
    (h : store.delete context kind query = .ok (after, n)) :
    ∃ chosen others, (record kind).split query.conditions (store.rows kind) = .ok (chosen, others) ∧
      after = store.discard kind ((record kind).satisfies query.conditions) ∧
      Altered store kind others after ∧ n = chosen.length := by
  rw [delete_eq, RecordType.select] at h
  cases hc : context.check with
  | error e => simp [hc, Except.bind] at h
  | ok _ =>
    cases hs : (record kind).split query.conditions (store.rows kind) with
    | error e => simp [hc, hs, Except.bind, Except.map, Except.mapError] at h
    | ok parts =>
      obtain ⟨chosen, others⟩ := parts
      simp only [hc, hs, Except.bind, Except.map, Except.mapError, Except.ok.injEq, Prod.mk.injEq] at h
      obtain ⟨rfl, rfl⟩ := h
      obtain rfl := (RecordType.eq_of_split hs).2
      exact ⟨chosen, _, rfl, rfl, altered_discard store _, rfl⟩

/-! ## Distinct keys -/

/-- No two rows of a kind have the same key. -/
def Distinct (store : Store K) : Prop := ∀ kind, ((store.rows kind).map key).Nodup

theorem Distinct.eq_of_key {a b : Row kind} (h : store.Distinct) (ha : a ∈ store.rows kind)
    (hb : b ∈ store.rows kind) (e : key a = key b) : a = b :=
  Store.eq_of_key (h kind) ha hb e

theorem distinct_empty (fresh : Nat → Uuid) : (Store.empty fresh : Store K).Distinct :=
  fun _ => List.nodup_nil

theorem Distinct.of_rows (h : store.Distinct) (e : after.rows = store.rows) : after.Distinct :=
  fun kind => by rw [e]; exact h kind

theorem Distinct.alter (h : store.Distinct) {rows : List (Row kind)} (ha : Altered store kind rows after)
    (hr : (rows.map key).Nodup) : after.Distinct := by
  intro other
  by_cases e : other = kind
  · subst e
    rwa [ha.rows_self]
  · rw [ha.rows_of_ne e]
    exact h other

theorem Distinct.upsert [ExactKeys K] (h : store.Distinct) (row : Row kind) :
    (store.upsert kind row).Distinct :=
  h.alter (altered_upsert store row) (nodup_replaceOrAdd (h kind))

theorem Distinct.delete (h : store.Distinct) {context : Context} {query : Query} {n : Nat}
    (hd : store.delete context kind query = .ok (after, n)) : after.Distinct := by
  obtain ⟨chosen, others, hs, -, altered, -⟩ := delete_ok hd
  exact h.alter altered ((h kind).sublist ((RecordType.sublist_of_split hs).2.map key))

end Store

end ProtoStore
