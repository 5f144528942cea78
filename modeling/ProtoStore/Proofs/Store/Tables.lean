import ProtoStore.Proofs.Store.Rows

/-!
# Tables

A table is one list of rows of several kinds, in which rows are found, replaced and removed by their places.

* `rows_push`, `rows_upsert`, `rows_discard` and the lemmas on other kinds beside them : what this comes to for
  the rows of each kind;
* `split_of_selectFrom`, `removeAt_selectFrom` : rows of other kinds are numbered, but not looked at, and what is
  removed by the places that were collected is what was selected: all else keeps its order (`without`);
* `find_eq`, `count_eq`, `delete_eq` : calls answer by the rows of their kind alone.
-/

namespace ProtoStore

variable {K : Type} [DecidableEq K] [Catalog K] {kind other : K}

namespace AnyRow

@[simp] theorem as?_self (row : Row kind) : (⟨kind, row⟩ : AnyRow K).as? kind = some row := by
  rw [as?, dif_pos rfl]

theorem as?_of_ne (row : Row kind) (h : other ≠ kind) : (⟨kind, row⟩ : AnyRow K).as? other = none := by
  rw [as?, dif_neg (Ne.symm h)]

theorem as?_eq_some {stored : AnyRow K} {row : Row kind} :
    stored.as? kind = some row ↔ stored = ⟨kind, row⟩ := by
  obtain ⟨k, r⟩ := stored
  by_cases h : kind = k
  · subst h
    rw [as?_self, Option.some_inj, AnyRow.mk.injEq, heq_eq_eq, eq_self, true_and]
  · rw [as?_of_ne r h]
    refine iff_of_false (nofun) fun e => h (AnyRow.mk.inj e).1.symm

end AnyRow

namespace Store

variable {store : Store K} {row : Row kind} {table : List (AnyRow K)} {conditions : List Condition}

/-! ## Rows of one kind -/

@[simp] theorem rowsIn_nil : rowsIn kind ([] : List (AnyRow K)) = [] := rfl

theorem rowsIn_cons_some {first : AnyRow K} (h : first.as? kind = some row) :
    rowsIn kind (first :: table) = row :: rowsIn kind table :=
  List.filterMap_cons_some h

theorem rowsIn_cons_none {first : AnyRow K} (h : first.as? kind = none) :
    rowsIn kind (first :: table) = rowsIn kind table :=
  List.filterMap_cons_none h

@[simp] theorem rowsIn_cons_self : rowsIn kind (⟨kind, row⟩ :: table) = row :: rowsIn kind table :=
  rowsIn_cons_some (AnyRow.as?_self row)

theorem rowsIn_cons_of_ne (h : other ≠ kind) :
    rowsIn other ((⟨kind, row⟩ : AnyRow K) :: table) = rowsIn other table :=
  rowsIn_cons_none (AnyRow.as?_of_ne row h)

/-- What comes before a table that is changed decides with the rest. -/
theorem rowsIn_cons_congr {first : AnyRow K} {changed : List (AnyRow K)}
    (h : rowsIn kind changed = rowsIn kind table) :
    rowsIn kind (first :: changed) = rowsIn kind (first :: table) := by
  cases here : first.as? kind with
  | none => rw [rowsIn_cons_none here, rowsIn_cons_none here, h]
  | some row => rw [rowsIn_cons_some here, rowsIn_cons_some here, h]

theorem rowsIn_append (table others : List (AnyRow K)) :
    rowsIn kind (table ++ others) = rowsIn kind table ++ rowsIn kind others :=
  List.filterMap_append

/-! ## One table put -/

omit [DecidableEq K] in
@[simp] theorem table_setTable : (store.setTable kind table).table kind = table := if_pos rfl

theorem rows_setTable : (store.setTable kind table).rows kind = rowsIn kind table := by
  rw [rows, table_setTable]

theorem rows_setTable_of_eq (h : rowsIn other table = rowsIn other (store.table kind)) :
    (store.setTable kind table).rows other = store.rows other := by
  unfold rows Store.table setTable
  dsimp only
  split
  · next same => rw [h, Store.table, same]
  · rfl

omit [DecidableEq K] in
theorem setTable_table : store.setTable kind (store.table kind) = store := by
  have same : (store.setTable kind (store.table kind)).tables = store.tables := by
    funext name
    unfold setTable
    dsimp only
    split
    · next here => rw [Store.table, here]
    · rfl
  calc store.setTable kind (store.table kind)
      = { store with tables := (store.setTable kind (store.table kind)).tables } := rfl
    _ = store := by rw [same]

omit [DecidableEq K] in
theorem setTable_setTable {last : List (AnyRow K)} :
    (store.setTable kind table).setTable kind last = store.setTable kind last := by
  unfold setTable
  congr 1
  funext name
  dsimp only
  split <;> rfl

/-! ## Rows put -/

@[simp] theorem rows_push : (store.push kind row).rows kind = store.rows kind ++ [row] := by
  rw [push, rows_setTable, rowsIn_append, rowsIn_cons_self, rowsIn_nil, rows]

theorem rows_push_of_ne (h : other ≠ kind) : (store.push kind row).rows other = store.rows other := by
  refine rows_setTable_of_eq ?_
  rw [rowsIn_append, rowsIn_cons_of_ne h, rowsIn_nil, List.append_nil]

/-- A table with a row in place of the first of its kind and key, or else at the end. -/
def putIn (row : Row kind) (table : List (AnyRow K)) : List (AnyRow K) :=
  match table.findIdx? fun stored => (stored.as? kind).any fun other => sameKey other row with
  | some place => table.set place ⟨kind, row⟩
  | none => table ++ [⟨kind, row⟩]

theorem upsert_eq : store.upsert kind row = store.setTable kind (putIn row (store.table kind)) := by
  unfold upsert place? putIn
  cases (store.table kind).findIdx? fun stored => (stored.as? kind).any fun other => sameKey other row <;> rfl

theorem putIn_cons (first : AnyRow K) (rest : List (AnyRow K)) : putIn row (first :: rest) =
    if (first.as? kind).any fun other => sameKey other row then ⟨kind, row⟩ :: rest
    else first :: putIn row rest := by
  unfold putIn
  rw [List.findIdx?_cons]
  cases (first.as? kind).any fun other => sameKey other row with
  | true => rfl
  | false => cases rest.findIdx? fun stored => (stored.as? kind).any fun other => sameKey other row <;> rfl

theorem rowsIn_putIn : rowsIn kind (putIn row table) = replaceOrAdd row (rowsIn kind table) := by
  induction table with
  | nil => exact rowsIn_cons_self
  | cons first rest ih =>
    rw [putIn_cons]
    cases here : first.as? kind with
    | none => rw [Option.any_none, if_neg Bool.false_ne_true, rowsIn_cons_none here, ih, rowsIn_cons_none here]
    | some found =>
      rw [Option.any_some, rowsIn_cons_some here, replaceOrAdd]
      split
      · exact rowsIn_cons_self
      · rw [rowsIn_cons_some here, ih]

theorem rowsIn_putIn_of_ne (h : other ≠ kind) : rowsIn other (putIn row table) = rowsIn other table := by
  induction table with
  | nil => exact rowsIn_cons_of_ne h
  | cons first rest ih =>
    rw [putIn_cons]
    split
    · next same =>
      obtain ⟨found, here, -⟩ := (Option.any_eq_true _ _).mp same
      obtain rfl := AnyRow.as?_eq_some.mp here
      rw [rowsIn_cons_of_ne h, rowsIn_cons_of_ne h]
    · exact rowsIn_cons_congr ih

@[simp] theorem rows_upsert (row : Row kind) :
    (store.upsert kind row).rows kind = replaceOrAdd row (store.rows kind) := by
  rw [upsert_eq, rows_setTable, rowsIn_putIn, rows]

theorem rows_upsert_of_ne (row : Row kind) (h : other ≠ kind) :
    (store.upsert kind row).rows other = store.rows other := by
  rw [upsert_eq]
  exact rows_setTable_of_eq (rowsIn_putIn_of_ne h)

/-! ## Rows removed -/

/-- A table without the rows of a kind that a property holds of. -/
def without (table : List (AnyRow K)) (kind : K) (p : Row kind → Bool) : List (AnyRow K) :=
  table.filter fun stored => !(stored.as? kind).any p

/-- Removes the rows of a kind that a property holds of. -/
def discard (store : Store K) (kind : K) (p : Row kind → Bool) : Store K :=
  store.setTable kind (without (store.table kind) kind p)

theorem without_cons_none {first : AnyRow K} (p : Row kind → Bool) (h : first.as? kind = none) :
    without (first :: table) kind p = first :: without table kind p :=
  List.filter_cons_of_pos (by rw [h]; rfl)

theorem without_cons_some {first : AnyRow K} (p : Row kind → Bool) (h : first.as? kind = some row) :
    without (first :: table) kind p =
      if p row then without table kind p else first :: without table kind p := by
  unfold without
  rw [List.filter_cons, h, Option.any_some]
  cases p row <;> rfl

theorem rowsIn_without (p : Row kind → Bool) :
    rowsIn kind (without table kind p) = (rowsIn kind table).filter fun row => !p row := by
  induction table with
  | nil => rfl
  | cons first rest ih =>
    cases here : first.as? kind with
    | none => rw [without_cons_none p here, rowsIn_cons_none here, ih, rowsIn_cons_none here]
    | some found =>
      rw [without_cons_some p here, rowsIn_cons_some here, List.filter_cons]
      cases p found with
      | true => exact ih
      | false => exact (rowsIn_cons_some here).trans (congrArg (found :: ·) ih)

theorem rowsIn_without_of_ne (p : Row kind → Bool) (h : other ≠ kind) :
    rowsIn other (without table kind p) = rowsIn other table := by
  induction table with
  | nil => rfl
  | cons first rest ih =>
    cases here : first.as? kind with
    | none => rw [without_cons_none p here, rowsIn_cons_congr ih]
    | some found =>
      obtain rfl := AnyRow.as?_eq_some.mp here
      rw [without_cons_some p here, rowsIn_cons_of_ne h]
      split
      · exact ih
      · exact (rowsIn_cons_of_ne h).trans ih

@[simp] theorem rows_discard (p : Row kind → Bool) :
    (store.discard kind p).rows kind = (store.rows kind).filter fun row => !p row := by
  rw [discard, rows_setTable, rowsIn_without, rows]

theorem rows_discard_of_ne (p : Row kind → Bool) (h : other ≠ kind) :
    (store.discard kind p).rows other = store.rows other :=
  rows_setTable_of_eq (rowsIn_without_of_ne p h)

theorem discard_congr {p q : Row kind → Bool} (same : ∀ x ∈ store.rows kind, p x = q x) :
    store.discard kind p = store.discard kind q := by
  unfold discard without
  congr 1
  refine List.filter_congr fun stored hs => ?_
  cases here : stored.as? kind with
  | none => rfl
  | some x => rw [Option.any_some, Option.any_some, same x (List.mem_filterMap.mpr ⟨stored, hs, here⟩)]

theorem discard_none : store.discard kind (fun _ => false) = store := by
  have all : without (store.table kind) kind (fun _ => false) = store.table kind := by
    refine List.filter_eq_self.mpr fun stored _ => ?_
    cases stored.as? kind <;> rfl
  rw [discard, all, setTable_table]

/-- Rows are removed in one go or in two. -/
theorem discard_discard (p q : Row kind → Bool) :
    (store.discard kind p).discard kind q = store.discard kind fun row => p row || q row := by
  have both : without (without (store.table kind) kind p) kind q =
      without (store.table kind) kind fun row => p row || q row := by
    unfold without
    rw [List.filter_filter]
    refine List.filter_congr fun stored _ => ?_
    cases stored.as? kind with
    | none => rfl
    | some row => rw [Option.any_some, Option.any_some, Option.any_some, Bool.not_or, Bool.and_comm]
  calc (store.discard kind p).discard kind q
      = (store.discard kind p).setTable kind (without (without (store.table kind) kind p) kind q) := by
        rw [discard, discard, table_setTable]
    _ = store.discard kind fun row => p row || q row := by rw [discard, setTable_setTable, both, discard]

/-! ## Rows selected -/

/-- What is collected of a table: what is collected behind its first row, and that row if it is of the kind and meets
the conditions. -/
theorem selectFrom_cons_ok {place : Nat} {chosen : List (Nat × Row kind)} {first : AnyRow K} {rest : List (AnyRow K)}
    (h : selectFrom kind conditions place (first :: rest) = .ok chosen) :
    ∃ others, selectFrom kind conditions (place + 1) rest = .ok others ∧
      (first.as? kind = none ∧ chosen = others ∨
        ∃ found met, first.as? kind = some found ∧ (record kind).meets conditions found = .ok met ∧
          chosen = if met then (place, found) :: others else others) := by
  rw [selectFrom] at h
  cases here : first.as? kind with
  | none =>
    rw [here] at h
    exact ⟨chosen, h, .inl ⟨rfl, rfl⟩⟩
  | some found =>
    rw [here] at h
    dsimp only at h
    cases hm : (record kind).meets conditions found with
    | error e =>
      rw [hm] at h
      cases h
    | ok met =>
      rw [hm] at h
      cases hr : selectFrom kind conditions (place + 1) rest with
      | error e =>
        rw [hr] at h
        cases h
      | ok others =>
        rw [hr] at h
        exact ⟨others, rfl, .inr ⟨found, met, rfl, hm, (Except.ok.inj h).symm⟩⟩

/-- The rows of a kind are selected as if there were no others. -/
theorem split_of_selectFrom {place : Nat} {chosen : List (Nat × Row kind)}
    (h : selectFrom kind conditions place table = .ok chosen) :
    (record kind).split conditions (rowsIn kind table) = .ok (chosen.map (·.2),
      (rowsIn kind table).filter fun row => !(record kind).satisfies conditions row) := by
  induction table generalizing place chosen with
  | nil =>
    cases h
    rfl
  | cons first rest ih =>
    obtain ⟨others, collected, ⟨here, rfl⟩ | ⟨found, met, here, hm, rfl⟩⟩ := selectFrom_cons_ok h
    · rw [rowsIn_cons_none here]
      exact ih collected
    · rw [rowsIn_cons_some here, RecordType.split, hm, ih collected, List.filter_cons, RecordType.satisfies_of_meets hm]
      cases met <;> rfl

/-- Where the rows at the places that are collected are removed, the rows of the kind that meet the conditions are no
more there. -/
theorem removeAt_selectFrom {place : Nat} {chosen : List (Nat × Row kind)}
    (h : selectFrom kind conditions place table = .ok chosen) (before : List (AnyRow K)) (length : before.length = place) :
    removeAt (chosen.map (·.1)) (before ++ table) =
      before ++ without table kind ((record kind).satisfies conditions) := by
  induction table generalizing place chosen before with
  | nil =>
    cases h
    rfl
  | cons first rest ih =>
    obtain ⟨others, collected, cases⟩ := selectFrom_cons_ok h
    -- what comes before the rest is one longer
    have step : (before ++ [first]).length = place + 1 := by rw [List.length_append, length, List.length_singleton]
    have removes := ih collected _ step
    rw [← List.append_cons, ← List.append_cons] at removes
    rcases cases with ⟨here, rfl⟩ | ⟨found, met, here, hm, rfl⟩
    · rw [without_cons_none _ here, removes]
    · rw [without_cons_some _ here, RecordType.satisfies_of_meets hm]
      cases met with
      | false => exact removes
      | true =>
        rw [if_pos rfl, if_pos rfl]
        -- the others are removed first, so the place of this row is still what it was
        calc removeAt (place :: others.map (·.1)) (before ++ first :: rest)
            = (removeAt (others.map (·.1)) (before ++ first :: rest)).eraseIdx place := rfl
          _ = (before ++ first :: without rest kind ((record kind).satisfies conditions)).eraseIdx place := by
            rw [removes]
          _ = before ++ without rest kind ((record kind).satisfies conditions) := by
            rw [List.eraseIdx_append_of_length_le (Nat.le_of_eq length), length, Nat.sub_self,
              List.eraseIdx_cons_zero]

theorem selectFrom_error {place : Nat} {error : StoreError}
    (h : selectFrom kind conditions place table = .error error) :
    (record kind).split conditions (rowsIn kind table) = .error error := by
  induction table generalizing place with
  | nil => cases h
  | cons first rest ih =>
    rw [selectFrom] at h
    cases here : first.as? kind with
    | none =>
      rw [here] at h
      rw [rowsIn_cons_none here]
      exact ih h
    | some found =>
      rw [here] at h
      dsimp only at h
      rw [rowsIn_cons_some here, RecordType.split]
      cases hm : (record kind).meets conditions found with
      | error e =>
        rw [hm] at h
        exact congrArg Except.error (Except.error.inj h)
      | ok met =>
        rw [hm] at h
        cases hr : selectFrom kind conditions (place + 1) rest with
        | error e =>
          rw [hr] at h
          cases h
          rw [ih hr]
          rfl
        | ok others =>
          rw [hr] at h
          cases h

/-! ## Calls -/

variable {context : Context} {query : Query}

theorem removeAt_select {chosen : List (Nat × Row kind)} (h : store.select kind conditions = .ok chosen) :
    removeAt (chosen.map (·.1)) (store.table kind) =
      without (store.table kind) kind ((record kind).satisfies conditions) := by
  cases hs : selectFrom kind conditions 0 (store.table kind) with
  | error e =>
    rw [select, hs] at h
    cases h
  | ok found =>
    rw [select, hs] at h
    obtain rfl := Except.ok.inj h
    exact removeAt_selectFrom hs [] rfl

theorem select_eq (store : Store K) (kind : K) (conditions : List Condition) :
    (store.select kind conditions).map (·.map (·.2)) =
      ((record kind).select conditions (store.rows kind)).mapError .store := by
  rw [RecordType.select]
  cases hs : selectFrom kind conditions 0 (store.table kind) with
  | error e => rw [select, rows, hs, selectFrom_error hs]; rfl
  | ok found => rw [select, rows, hs, split_of_selectFrom hs]; rfl

/-- A query is answered from the rows of its kind. -/
theorem find_eq (context : Context) (store : Store K) (kind : K) (query : Query) :
    store.find context kind query =
      context.check.bind fun _ => (record kind).answer query (store.rows kind) := by
  have selects := select_eq store kind query.conditions
  rw [RecordType.answer, ← selects]
  cases hc : context.check <;> cases hs : store.select kind query.conditions <;>
    simp [find, hc, hs, bind, Except.bind, Except.map]

theorem count_eq (context : Context) (store : Store K) (kind : K) (query : Query) :
    store.count context kind query = context.check.bind fun _ =>
      (((record kind).select query.conditions (store.rows kind)).mapError .store).map List.length := by
  rw [← select_eq]
  cases hc : context.check <;> cases hs : store.select kind query.conditions <;>
    simp [count, hc, hs, bind, Except.bind, Except.map, pure, Except.pure]

/-- What is deleted are the rows that meet the conditions, from wherever in the table. -/
theorem delete_eq (context : Context) (store : Store K) (kind : K) (query : Query) :
    store.delete context kind query = context.check.bind fun _ =>
      (((record kind).select query.conditions (store.rows kind)).mapError .store).map fun chosen =>
        (store.discard kind ((record kind).satisfies query.conditions), chosen.length) := by
  rw [← select_eq]
  cases hc : context.check with
  | error e => simp [delete, hc, bind, Except.bind]
  | ok _ =>
    cases hs : store.select kind query.conditions with
    | error e => simp [delete, hc, hs, bind, Except.bind, Except.map]
    | ok chosen =>
      simp [delete, hc, hs, bind, Except.bind, Except.map, pure, Except.pure, discard, removeAt_select hs]

end Store

end ProtoStore
