import Mathlib.Algebra.GroupWithZero.Nat
import ProtoStore.Domain.Action
import ProtoStore.Proofs.Store.Failing
import ProtoStore.Proofs.Store.Strategies

/-!
# Which rows calls select

Conditions are looked at one after the other, up to the first that a row does not meet.

* `RecordType.Stumbles` : a row meets all conditions before one on a column that does not exist;
* `RecordType.meets_cases`, `RecordType.split_cases` : a selection fails exactly if a row stumbles, and is a
  filter if none does. The column it fails with is the same for all rows (`Stumbles.unique`), so the places
  of rows do not matter (`select_perm`, `answer_perm`);
* `Window.flatten_cut_pages` : pages that follow one another hold what follows one another;
* `RecordType.Unsortable` : many rows whose order is in circles, as it can be where a float is not a number, and only
  there (`RecordType.sortable_of_orderly`);
* `Deleted.rows` : what a deletion leaves of each kind of rows;
* `Store.selecting` : finding, counting and deleting select the same rows, or fail alike. What is found are
  these rows, each of them once, unless they cannot be sorted: then finding them panics, and nothing else does
  (`Shelf.find_panics`).
-/

namespace ProtoStore

/-! ## Conditions -/

namespace RecordType

variable {R : Type} {type : RecordType R} {condition : Condition} {conditions : List Condition} {row : R}
  {rows : List R} {column : String}

/-- A row meets all conditions before one on a column that records do not have. -/
def Stumbles (type : RecordType R) (conditions : List Condition) (row : R) (column : String) : Prop :=
  ∃ before condition after, conditions = before ++ condition :: after ∧ type.Reads before ∧
    type.satisfies before row = true ∧ condition.column = column ∧ type.column? column = none

theorem not_stumbles_nil : ¬ type.Stumbles [] row column :=
  fun ⟨_, _, _, whole, _⟩ => List.append_ne_nil_of_right_ne_nil _ (List.cons_ne_nil _ _) whole.symm

/-- A row comes to a condition if it meets the one before, which is on a column that exists. -/
theorem stumbles_cons {value : Value} (known : type.value? row condition.column = some value) :
    type.Stumbles (condition :: conditions) row column ↔
      condition.holds value = true ∧ type.Stumbles conditions row column := by
  have exists_ : (type.column? condition.column).isSome = true := by
    rw [value?, Option.map_eq_some_iff] at known
    obtain ⟨found, there, -⟩ := known
    exact Option.isSome_of_mem there
  constructor
  · rintro ⟨_ | ⟨first, before⟩, last, after, whole, reads, met, names, missing⟩
    · obtain ⟨rfl, -⟩ := List.cons.inj whole
      rw [names, missing] at exists_
      cases exists_
    · obtain ⟨rfl, rfl⟩ := List.cons.inj whole
      rw [satisfies_cons, known, Option.getD_some, Bool.and_eq_true] at met
      exact ⟨met.1, before, last, after, rfl, (List.forall_mem_cons.mp reads).2, met.2, names, missing⟩
  · rintro ⟨holds, before, last, after, rfl, reads, met, rest⟩
    refine ⟨condition :: before, last, after, rfl, List.forall_mem_cons.mpr ⟨exists_, reads⟩, ?_, rest⟩
    rw [satisfies_cons, known, Option.getD_some, holds, met]
    rfl

/-- The column is that of the first condition on a column that does not exist. -/
theorem Stumbles.find? (h : type.Stumbles conditions row column) :
    (conditions.find? fun condition => (type.column? condition.column).isNone).map (·.column) = some column := by
  obtain ⟨before, condition, after, rfl, reads, -, rfl, missing⟩ := h
  have none : before.find? (fun condition => (type.column? condition.column).isNone) = none := by
    rw [List.find?_eq_none]
    intro other there
    rw [Option.isNone_iff_eq_none]
    exact Option.isSome_iff_ne_none.mp (reads other there)
  rw [List.find?_append, none, Option.none_or, List.find?_cons_of_pos (by rw [missing]; rfl), Option.map_some]

theorem Stumbles.unique {other : R} {another : String} (h : type.Stumbles conditions row column)
    (h' : type.Stumbles conditions other another) : column = another :=
  Option.some.inj (h.find?.symm.trans h'.find?)

variable (type) in
/-- Whether a row meets conditions is told, unless it stumbles over them. -/
theorem meets_cases (conditions : List Condition) (row : R) :
    (∃ column, type.Stumbles conditions row column ∧
      type.meets conditions row = .error (.unknownColumn type.table column)) ∨
    (∀ column, ¬ type.Stumbles conditions row column) ∧
      type.meets conditions row = .ok (type.satisfies conditions row) := by
  induction conditions with
  | nil => exact Or.inr ⟨fun _ => not_stumbles_nil, rfl⟩
  | cons condition rest ih =>
    unfold meets require
    cases known : type.value? row condition.column with
    | none =>
      have missing : type.column? condition.column = none := Option.map_eq_none_iff.mp known
      exact Or.inl ⟨condition.column, ⟨[], condition, rest, rfl, List.forall_mem_nil _, rfl, rfl, missing⟩, rfl⟩
    | some value =>
      simp only [stumbles_cons known, satisfies_cons, known, Option.getD_some]
      cases condition.holds value with
      | true => simpa using ih
      | false => exact Or.inr ⟨fun _ h => Bool.false_ne_true h.1, rfl⟩

variable (type) in
/-- A selection fails if a row stumbles over its conditions, and tells the others apart if none does. -/
theorem split_cases (conditions : List Condition) (rows : List R) :
    (∃ column, (∃ row ∈ rows, type.Stumbles conditions row column) ∧
      type.split conditions rows = .error (.unknownColumn type.table column)) ∨
    (∀ row ∈ rows, ∀ column, ¬ type.Stumbles conditions row column) ∧
      type.split conditions rows = .ok (rows.filter (type.satisfies conditions),
        rows.filter fun row => !type.satisfies conditions row) := by
  induction rows with
  | nil => exact Or.inr ⟨nofun, rfl⟩
  | cons row rows ih =>
    rw [split]
    rcases meets_cases type conditions row with ⟨column, stumbles, failed⟩ | ⟨clear, told⟩
    · exact Or.inl ⟨column, ⟨row, List.mem_cons_self, stumbles⟩, by rw [failed]⟩
    rw [told]
    rcases ih with ⟨column, ⟨other, there, stumbles⟩, failed⟩ | ⟨others, told⟩
    · exact Or.inl ⟨column, ⟨other, List.mem_cons_of_mem row there, stumbles⟩, by rw [failed]; rfl⟩
    · refine Or.inr ⟨List.forall_mem_cons.mpr ⟨clear, others⟩, ?_⟩
      rw [told]
      cases met : type.satisfies conditions row <;> simp [Except.map, met]

/-- A selection does not depend on the places of rows, nor does its failure. -/
theorem select_perm {rows' : List R} (h : rows.Perm rows') (conditions : List Condition) :
    (∃ error, type.select conditions rows = .error error ∧ type.select conditions rows' = .error error) ∨
    ∃ chosen chosen', type.select conditions rows = .ok chosen ∧
      type.select conditions rows' = .ok chosen' ∧ chosen.Perm chosen' ∧ chosen.Sublist rows := by
  unfold select
  rcases split_cases type conditions rows with ⟨column, ⟨row, there, stumbles⟩, failed⟩ | ⟨clear, told⟩
  · rcases split_cases type conditions rows' with ⟨other, ⟨row', -, stumbles'⟩, failed'⟩ | ⟨clear, -⟩
    · obtain rfl := stumbles.unique stumbles'
      exact Or.inl ⟨_, by rw [failed]; rfl, by rw [failed']; rfl⟩
    · exact absurd stumbles (clear row (h.mem_iff.mp there) column)
  · rcases split_cases type conditions rows' with ⟨other, ⟨row', there, stumbles⟩, -⟩ | ⟨-, told'⟩
    · exact absurd stumbles (clear row' (h.mem_iff.mpr there) other)
    · exact Or.inr ⟨_, _, by rw [told]; rfl, by rw [told']; rfl, h.filter _, List.filter_sublist⟩

/-- Whether an unknown column is noticed depends on whether there are rows. -/
theorem checkOrder_perm {rows' : List R} (h : rows.Perm rows') (terms : List SortTerm) :
    type.checkOrder terms rows = type.checkOrder terms rows' := by
  cases rows with
  | nil => rw [List.nil_perm.mp h]
  | cons row rows =>
    cases rows' with
    | nil => exact absurd h.length_eq (Nat.succ_ne_zero _)
    | cons row' rows' =>
      unfold checkOrder
      cases terms.find? fun term => (type.column? term.column).isNone <;> rfl

/-- An answer does not depend on the places of rows, if the order asked for tells them all apart. -/
theorem answer_perm {rows' : List R} {query : Query} (h : rows.Perm rows')
    (trans : type.Transitive query.order rows) (apart : type.Separated query.order rows) :
    type.answer query rows = type.answer query rows' := by
  unfold answer arrange
  rcases select_perm h query.conditions with
    ⟨error, failed, failed'⟩ | ⟨chosen, chosen', told, told', perm, sub⟩
  · rw [failed, failed']
  · have straight : type.Transitive query.order chosen := trans.mono sub.subset
    have straight' : type.Transitive query.order chosen' := straight.mono fun _ there => perm.mem_iff.mpr there
    have sorted : type.sort query.order chosen = type.sort query.order chosen' :=
      sort_eq_of_perm straight (apart.mono sub.subset) perm
    rw [told, told']
    simp only [bind, Except.bind, Except.mapError, checkOrder_perm perm, straight.inOrder, straight'.inOrder,
      sorted]

/-! ## Circles -/

/-- Many rows, the order of which is in circles. -/
def Unsortable (type : RecordType R) (terms : List SortTerm) (rows : List R) : Prop :=
  insertionLimit < rows.length ∧ ¬ type.Transitive terms rows

theorem inOrder_of_sortable {terms : List SortTerm} (h : ¬ type.Unsortable terms rows) :
    type.inOrder terms rows = .ok (type.sort terms rows) := by
  rcases type.inOrder_cases terms rows with sorted | ⟨many, circles, -⟩
  · exact sorted
  · rw [← Bool.not_eq_true, isTransitive_iff] at circles
    exact absurd ⟨many, circles⟩ h

theorem inOrder_of_unsortable {terms : List SortTerm} (h : type.Unsortable terms rows) :
    type.inOrder terms rows = .error .panic := by
  rw [inOrder, if_neg]
  rw [Bool.or_eq_true, decide_eq_true_iff, isTransitive_iff]
  exact not_or.mpr ⟨Nat.not_le.mpr h.1, h.2⟩

/-- Rows without floats that are no numbers, in the columns that they are sorted by, can be sorted. -/
theorem sortable_of_orderly {terms : List SortTerm} (h : ∀ row ∈ rows, type.Orderly terms row) :
    ¬ type.Unsortable terms rows :=
  fun unsortable => unsortable.2 (transitive_of_orderly h)

end RecordType

/-! ## Pages -/

/-- Windows that follow one another, of these sizes. -/
def Window.pages : (offset : Nat) → (sizes : List Nat) → List Window
  | _, [] => []
  | offset, size :: sizes => ⟨offset, some size⟩ :: pages (offset + size) sizes

theorem Window.flatten_cut_pages {α : Type} (rows : List α) (offset : Nat) (sizes : List Nat) :
    ((pages offset sizes).map fun page => page.cut rows).flatten = (rows.drop offset).take sizes.sum := by
  induction sizes generalizing offset with
  | nil => rfl
  | cons size sizes ih =>
    rw [pages, List.map_cons, List.flatten_cons, ih, List.sum_cons, List.take_add, List.drop_drop]
    rfl

/-! ## Calls -/

namespace Store

variable {K : Type} [DecidableEq K] [Catalog K] {context : Context} {store : Store K} {kind : K} {query : Query}
  {conditions : List Condition} {column : String}

/-- The rows that meet conditions. -/
def chosen (store : Store K) (kind : K) (conditions : List Condition) : List (Row kind) :=
  (store.rows kind).filter ((record kind).satisfies conditions)

/-- Why selecting fails: the context is over, or a row stumbles over the conditions. -/
inductive Hindered (context : Context) (store : Store K) (kind : K) (conditions : List Condition) : Failure → Prop
  | ended : context.isOver = true → Hindered context store kind conditions .cancelled
  | missing {row : Row kind} {column : String} : context.isOver = false → row ∈ store.rows kind →
    (record kind).Stumbles conditions row column →
      Hindered context store kind conditions (.store (.unknownColumn (record kind).table column))

/-- Finding, counting and deleting fail alike, whatever else a query asks for, and nothing is deleted. -/
structure Unselected (context : Context) (store : Store K) (kind : K) (conditions : List Condition)
    (failure : Failure) : Prop where
  hindered : Hindered context store kind conditions failure
  found : ∀ query : Query, query.conditions = conditions → store.find context kind query = .error failure
  counted : ∀ query : Query, query.conditions = conditions → store.count context kind query = .error failure
  deleted : ∀ query : Query, query.conditions = conditions →
    Domain.Action.remove (fun context store => store.delete context kind query) ⟨store, context, ()⟩ =
      (.error failure, ⟨store, context.after 1, ()⟩)

/-- What finding gives of the rows that meet the conditions of a query: each of them once. A window is cut
out of what is found without one, and pages that follow one another hold all of it. -/
def Pages (context : Context) (store : Store K) (kind : K) (query : Query) : Prop :=
  ∃ sorted : List (Row kind), sorted.Perm (store.chosen kind query.conditions) ∧
    store.find context kind { query with window := none } = .ok sorted ∧
    (∀ offset limit, store.find context kind { query with window := some ⟨offset, some limit⟩ } =
      .ok ((sorted.drop offset).take limit)) ∧
    ∀ sizes, ∃ pages, (Window.pages 0 sizes).mapM
      (fun page => store.find context kind { query with window := some page }) = .ok pages ∧
        pages.flatten = sorted.take sizes.sum

/-- The rows of a kind that meet conditions are gone. All other rows of their table, those of other kinds
included, are there in the order they were in, and so are all other tables. -/
structure Deleted (kind : K) (conditions : List Condition) (before after : Store K) : Prop where
  table : after.table kind = without (before.table kind) kind ((record kind).satisfies conditions)
  others : ∀ name ≠ (record kind).table, after.tables name = before.tables name
  rest : after = { before with tables := after.tables }

/-- Nothing hinders selecting: the rows that meet the conditions are counted, found and deleted. What is
deleted is no longer there, and all else stays as it is. Without a window as many rows are found as are
counted, whatever columns of them are selected. Only if they cannot be sorted may finding them panic. -/
structure Selected (context : Context) (store : Store K) (kind : K) (conditions : List Condition) : Prop where
  unhindered : ∀ failure, ¬ Hindered context store kind conditions failure
  counted : ∀ query : Query, query.conditions = conditions →
    store.count context kind query = .ok (store.chosen kind conditions).length
  deleted : ∀ query : Query, query.conditions = conditions → ∃ after,
    store.delete context kind query = .ok (after, (store.chosen kind conditions).length) ∧
      Deleted kind conditions store after ∧ after.count context kind query = .ok 0
  measured : ∀ query : Query, query.conditions = conditions → query.window = none → ∀ rows,
    store.find context kind query = .ok rows → rows.length = (store.chosen kind conditions).length
  found : ∀ query : Query, query.conditions = conditions → query.selection = none →
    (∀ term ∈ query.order, ((record kind).column? term.column).isSome = true) →
      Pages context store kind query ∨
        (record kind).Unsortable query.order (store.chosen kind conditions) ∧
          store.find context kind query = .error .panic

/-- Of the kind whose rows are deleted the others are left, and of other kinds all. -/
theorem Deleted.rows {after : Store K} (h : Deleted kind conditions store after) :
    after.rows kind = ((store.rows kind).filter fun row => !(record kind).satisfies conditions row) ∧
      ∀ other ≠ kind, after.rows other = store.rows other := by
  refine ⟨?_, fun other ne => ?_⟩
  · rw [Store.rows, h.table, rowsIn_without, Store.rows]
  · by_cases same : (record other).table = (record kind).table
    · have table : ∀ s : Store K, s.table other = s.table kind := fun s => congrArg s.tables same
      rw [Store.rows, table, h.table, rowsIn_without_of_ne _ ne, ← table, Store.rows]
    · exact congrArg (rowsIn other) (h.others _ same)

/-! ### Failing selections -/

theorem unselected_of_over (ended : context.isOver = true) :
    Unselected context store kind conditions .cancelled := by
  have expired := Context.check_of_over ended
  refine ⟨.ended ended, ?_, ?_, ?_⟩ <;> rintro query rfl
  · rw [find_eq, expired]
    rfl
  · rw [count_eq, expired]
    rfl
  · rw [Domain.Action.remove, delete_eq, expired]
    rfl

theorem unselected_of_stumbles (live : context.isOver = false) {row : Row kind}
    (there : row ∈ store.rows kind) (stumbles : (record kind).Stumbles conditions row column)
    (failed : (record kind).split conditions (store.rows kind) =
      .error (.unknownColumn (record kind).table column)) :
    Unselected context store kind conditions (.store (.unknownColumn (record kind).table column)) := by
  have alive := Context.check_of_live live
  have unselected : (record kind).select conditions (store.rows kind) =
      .error (.unknownColumn (record kind).table column) := by
    rw [RecordType.select, failed]
    rfl
  refine ⟨.missing live there stumbles, ?_, ?_, ?_⟩ <;> rintro query rfl
  · rw [find_eq, alive, RecordType.answer, unselected]
    rfl
  · rw [count_eq, alive, unselected]
    rfl
  · rw [Domain.Action.remove, delete_eq, alive, unselected]
    rfl

/-! ### Selections -/

section

variable (told : (record kind).select query.conditions (store.rows kind) = .ok (store.chosen kind query.conditions))
  (alive : context.check = .ok ())
include told alive

theorem count_of_select : store.count context kind query = .ok (store.chosen kind query.conditions).length := by
  rw [count_eq, alive, told]
  rfl

theorem delete_of_select : store.delete context kind query =
    .ok (store.discard kind ((record kind).satisfies query.conditions),
      (store.chosen kind query.conditions).length) := by
  rw [delete_eq, alive, told]
  rfl

/-- What is found is what is put in order, cut and projected. -/
theorem find_of_select : store.find context kind query =
    (record kind).arrange query (store.chosen kind query.conditions) := by
  rw [find_eq, alive, RecordType.answer, told]
  rfl

theorem find_of_sortable (whole : query.selection = none)
    (known : ∀ term ∈ query.order, ((record kind).column? term.column).isSome = true)
    (sortable : ¬ (record kind).Unsortable query.order (store.chosen kind query.conditions)) :
    store.find context kind query = .ok (RecordType.cutBy query.window
      ((record kind).sort query.order (store.chosen kind query.conditions))) := by
  rw [find_of_select told alive, RecordType.arrange, RecordType.checkOrder_eq _ known,
    RecordType.inOrder_of_sortable sortable, whole]
  rfl

theorem find_of_unsortable (known : ∀ term ∈ query.order, ((record kind).column? term.column).isSome = true)
    (unsortable : (record kind).Unsortable query.order (store.chosen kind query.conditions)) :
    store.find context kind query = .error .panic := by
  rw [find_of_select told alive, RecordType.arrange, RecordType.checkOrder_eq _ known,
    RecordType.inOrder_of_unsortable unsortable]
  rfl

theorem pages_of_select (whole : query.selection = none)
    (known : ∀ term ∈ query.order, ((record kind).column? term.column).isSome = true)
    (sortable : ¬ (record kind).Unsortable query.order (store.chosen kind query.conditions)) :
    Pages context store kind query := by
  have windowed : ∀ window, store.find context kind { query with window } = .ok (RecordType.cutBy window
      ((record kind).sort query.order (store.chosen kind query.conditions))) :=
    fun window => find_of_sortable told alive whole known sortable
  refine ⟨_, RecordType.sort_perm _ _, windowed none, fun offset limit => windowed (some ⟨offset, some limit⟩),
    fun sizes => ⟨_, ?_, Window.flatten_cut_pages _ 0 sizes⟩⟩
  generalize Window.pages 0 sizes = pages
  induction pages with
  | nil => rfl
  | cons page pages ih =>
    rw [List.mapM_cons, windowed, ih]
    rfl

end

/-- What is selected of rows are those that meet the conditions. -/
theorem select_chosen {rows : List (Row kind)}
    (told : (record kind).select query.conditions (store.rows kind) = .ok rows) :
    (record kind).select query.conditions (store.rows kind) = .ok (store.chosen kind query.conditions) := by
  unfold RecordType.select at told ⊢
  cases parted : (record kind).split query.conditions (store.rows kind) with
  | error e =>
    rw [parted] at told
    cases told
  | ok parts => exact congrArg Except.ok (RecordType.eq_of_split parted).1

theorem select_of_find {rows : List (Row kind)} (found : store.find context kind query = .ok rows) :
    (record kind).select query.conditions (store.rows kind) = .ok (store.chosen kind query.conditions) := by
  obtain ⟨-, answered⟩ := find_ok.mp found
  cases told : (record kind).select query.conditions (store.rows kind) with
  | error e =>
    rw [RecordType.answer, told] at answered
    cases answered
  | ok rows => exact told ▸ select_chosen told

/-- Rows that are found whole are a window of those that meet the conditions, sorted. -/
theorem eq_of_find (whole : query.selection = none)
    (known : ∀ term ∈ query.order, ((record kind).column? term.column).isSome = true) {rows : List (Row kind)}
    (found : store.find context kind query = .ok rows) :
    rows = RecordType.cutBy query.window ((record kind).sort query.order (store.chosen kind query.conditions)) := by
  have told := select_of_find found
  obtain ⟨alive, -⟩ := find_ok.mp found
  by_cases unsortable : (record kind).Unsortable query.order (store.chosen kind query.conditions)
  · cases found.symm.trans (find_of_unsortable told alive known unsortable)
  · exact Except.ok.inj (found.symm.trans (find_of_sortable told alive whole known unsortable))

/-- What is selected of rows are as many rows. -/
theorem length_of_find (whole : query.window = none) {rows : List (Row kind)}
    (found : store.find context kind query = .ok rows) :
    rows.length = (store.chosen kind query.conditions).length := by
  obtain ⟨alive, -⟩ := find_ok.mp found
  rw [find_of_select (select_of_find found) alive, RecordType.arrange, whole] at found
  obtain ⟨-, -, found⟩ := Except.bind_eq_ok.mp found
  obtain ⟨sorted, ordered, found⟩ := Except.bind_eq_ok.mp found
  have length : sorted.length = (store.chosen kind query.conditions).length := by
    rcases RecordType.inOrder_cases query.order (store.chosen kind query.conditions) with done | ⟨-, -, panics⟩
    · rw [← Except.ok.inj (done.symm.trans ordered), (RecordType.sort_perm _ _).length_eq]
    · cases panics.symm.trans ordered
  rw [← length]
  dsimp only at found
  split at found
  · unfold RecordType.project at found
    split at found
    · cases found
    · rw [← Except.ok.inj found, List.length_map]
  · rw [← Except.ok.inj found]

theorem deleted_discard (store : Store K) (kind : K) (conditions : List Condition) :
    Deleted kind conditions store (store.discard kind ((record kind).satisfies conditions)) where
  table := table_setTable
  others _ ne := if_neg ne
  rest := rfl

/-- Rows that do not meet conditions are not counted by them. -/
theorem count_discard (alive : context.check = .ok ())
    (clear : ∀ row ∈ store.rows kind, ∀ column, ¬ (record kind).Stumbles query.conditions row column) :
    (store.discard kind ((record kind).satisfies query.conditions)).count context kind query = .ok 0 := by
  have rows : (store.discard kind ((record kind).satisfies query.conditions)).rows kind =
      (store.rows kind).filter fun row => !(record kind).satisfies query.conditions row := rows_discard _
  have none : (store.discard kind ((record kind).satisfies query.conditions)).chosen kind query.conditions = [] := by
    rw [chosen, rows, List.filter_filter, List.filter_eq_nil_iff]
    intro row _ both
    rw [Bool.and_eq_true, Bool.not_eq_true'] at both
    exact Bool.false_ne_true (both.2.symm.trans both.1)
  rcases RecordType.split_cases (record kind) query.conditions
      ((store.discard kind ((record kind).satisfies query.conditions)).rows kind) with
    ⟨column, ⟨row, there, stumbles⟩, -⟩ | ⟨-, told⟩
  · rw [rows] at there
    exact absurd stumbles (clear row (List.mem_of_mem_filter there) column)
  · have selected : (record kind).select query.conditions
        ((store.discard kind ((record kind).satisfies query.conditions)).rows kind) = .ok _ :=
      congrArg (Except.map Prod.fst) told
    rw [count_of_select selected alive, none]
    rfl

/-- Finding, counting and deleting rows by the same conditions fail alike, if the context is over or a row
comes to a column that does not exist; otherwise they are about the same rows, and only finding them may fail,
for the order that is asked for. -/
theorem selecting (context : Context) (store : Store K) (kind : K) (conditions : List Condition) :
    (∃ failure, Unselected context store kind conditions failure) ∨ Selected context store kind conditions := by
  cases live : context.isOver with
  | true => exact Or.inl ⟨_, unselected_of_over live⟩
  | false =>
    have alive := Context.check_of_live live
    rcases RecordType.split_cases (record kind) conditions (store.rows kind) with
      ⟨column, ⟨row, there, stumbles⟩, failed⟩ | ⟨clear, parted⟩
    · exact Or.inl ⟨_, unselected_of_stumbles live there stumbles failed⟩
    · have told : (record kind).select conditions (store.rows kind) = .ok (store.chosen kind conditions) :=
        congrArg (Except.map Prod.fst) parted
      refine Or.inr ⟨?_, ?_, ?_, ?_, ?_⟩ <;> try rintro query rfl
      · rintro _ (ended | ⟨-, there, stumbles⟩)
        · exact Bool.false_ne_true (live.symm.trans ended)
        · exact clear _ there _ stumbles
      · exact count_of_select told alive
      · exact ⟨_, delete_of_select told alive, deleted_discard store kind _, count_discard alive clear⟩
      · exact fun whole _ => length_of_find whole
      · intro whole known
        by_cases unsortable : (record kind).Unsortable query.order (store.chosen kind query.conditions)
        · exact Or.inr ⟨unsortable, find_of_unsortable told alive known unsortable⟩
        · exact Or.inl (pages_of_select told alive whole known unsortable)

end Store

/-! ## Books and notes -/

namespace Shelf

open Store

/-- A book of a number and a score. -/
def scored (id : UInt64) (score : Number.Double) : Book := ⟨id, "", 0, none, score⟩

/-- Books and shadows of books, in one table. -/
def crowded : Store Kind where
  tables name := if name = "books" then [⟨.book, scored 1 .zero⟩, ⟨.shadow, (⟨1, "of 1"⟩ : Shadow)⟩,
    ⟨.book, scored 2 .zero⟩, ⟨.shadow, (⟨3, "of 3"⟩ : Shadow)⟩, ⟨.book, scored 3 .zero⟩] else []
  sequence := 3
  fresh _ := ⟨0⟩
  drawn := 0

/-- There are notes on the seventh book, which come to a column that notes do not have, but none on the sixth.
Of books and their shadows only books are deleted, and what is left stays in order. -/
theorem selecting_shelf :
    Unselected .unlimited desk Kind.note [.eq "book_id" (.uint 7), .isNull "page"]
        (.store (.unknownColumn "notes" "page")) ∧
      Selected .unlimited desk Kind.note [.eq "book_id" (.uint 6), .isNull "page"] ∧
      Selected .unlimited desk Kind.note [.eq "book_id" (.uint 7)] ∧
      desk.chosen Kind.note [.eq "book_id" (.uint 7)] =
        ([⟨1, "a", some 7⟩, ⟨2, "b", some 7⟩] : List Note) ∧
      ∃ after, crowded.delete .unlimited Kind.book ⟨[.isIn "id" [.uint 1, .uint 3]], [], none, none, false⟩ =
        .ok (after, 2) ∧
        after.tables "books" = [⟨.shadow, (⟨1, "of 1"⟩ : Shadow)⟩, ⟨.book, scored 2 .zero⟩,
          ⟨.shadow, (⟨3, "of 3"⟩ : Shadow)⟩] := by
  refine ⟨?_, ?_, ?_, by decide +kernel, ?_⟩
  · rcases selecting .unlimited desk Kind.note [.eq "book_id" (.uint 7), .isNull "page"] with
      ⟨failure, unselected⟩ | selected
    · have stopped : desk.count .unlimited Kind.note
          ⟨[.eq "book_id" (.uint 7), .isNull "page"], [], none, none, false⟩ =
            .error (.store (.unknownColumn "notes" "page")) := rfl
      cases stopped.symm.trans (unselected.counted _ rfl)
      exact unselected
    · cases selected.counted ⟨[.eq "book_id" (.uint 7), .isNull "page"], [], none, none, false⟩ rfl
  · refine (selecting .unlimited desk Kind.note _).resolve_left fun ⟨_, failed⟩ => ?_
    have none : desk.count .unlimited Kind.note
        ⟨[.eq "book_id" (.uint 6), .isNull "page"], [], none, none, false⟩ = .ok 0 := rfl
    cases none.symm.trans (failed.counted _ rfl)
  · refine (selecting .unlimited desk Kind.note _).resolve_left fun ⟨_, failed⟩ => ?_
    have two : desk.count .unlimited Kind.note ⟨[.eq "book_id" (.uint 7)], [], none, none, false⟩ = .ok 2 := rfl
    cases two.symm.trans (failed.counted _ rfl)
  · have chosen : Selected .unlimited crowded Kind.book [.isIn "id" [.uint 1, .uint 3]] := by
      refine (selecting .unlimited crowded Kind.book _).resolve_left fun ⟨_, failed⟩ => ?_
      have two : crowded.count .unlimited Kind.book
          ⟨[.isIn "id" [.uint 1, .uint 3]], [], none, none, false⟩ = .ok 2 := rfl
      cases two.symm.trans (failed.counted _ rfl)
    obtain ⟨after, done, deleted, -⟩ := chosen.deleted ⟨_, [], none, none, false⟩ rfl
    exact ⟨after, done, deleted.table⟩

/-- Twenty-one scores. The one in the middle is no number; those before it are all above those after it. -/
def scores : List Number.Double :=
  [⟨0x4028000000000000⟩, ⟨0x4026000000000000⟩, ⟨0x402a000000000000⟩, ⟨0x402c000000000000⟩, ⟨0x402e000000000000⟩,
   ⟨0x4030000000000000⟩, ⟨0x4031000000000000⟩, ⟨0x4032000000000000⟩, ⟨0x4033000000000000⟩, ⟨0x4034000000000000⟩,
   ⟨0x7ff8000000000000⟩, ⟨0x3ff0000000000000⟩, ⟨0x4000000000000000⟩, ⟨0x4008000000000000⟩, ⟨0x4010000000000000⟩,
   ⟨0x4014000000000000⟩, ⟨0x4018000000000000⟩, ⟨0x401c000000000000⟩, ⟨0x4020000000000000⟩, ⟨0x4022000000000000⟩,
   ⟨0x4024000000000000⟩]

/-- Books with these scores. -/
def graded : Store Kind where
  tables name := if name = "books" then
    scores.mapIdx fun place score => ⟨.book, scored (.ofNat (place + 1)) score⟩ else []
  sequence := 21
  fresh _ := ⟨0⟩
  drawn := 0

/-- Twelve is not above what is no number, which is not above eleven, but eleven is below twelve: books cannot be
sorted by their scores, and are counted, but not found. -/
theorem find_panics :
    let byScore := Query.all.orderBy "score"
    (∀ term ∈ byScore.order, ((record Kind.book).column? term.column).isSome = true) ∧
      graded.count .unlimited Kind.book byScore = .ok 21 ∧
      graded.find .unlimited Kind.book byScore = .error .panic ∧
      ¬ ∃ found, graded.find .unlimited Kind.book byScore = .ok found ∧
        found.Perm (graded.rows Kind.book) := by
  intro byScore
  have told : (record Kind.book).select byScore.conditions (graded.rows Kind.book) =
      .ok (graded.chosen Kind.book byScore.conditions) := by
    rcases RecordType.split_cases (record Kind.book) [] (graded.rows Kind.book) with ⟨_, ⟨_, _, stumbles⟩, _⟩ | ⟨_, told⟩
    · exact absurd stumbles RecordType.not_stumbles_nil
    · exact congrArg (Except.map Prod.fst) told
  have known : ∀ term ∈ byScore.order, ((record Kind.book).column? term.column).isSome = true := by decide
  have circle : (record Kind.book).Unsortable byScore.order (graded.chosen Kind.book byScore.conditions) := by
    refine ⟨by decide +kernel, fun transitive => ?_⟩
    have all : graded.chosen Kind.book byScore.conditions = graded.rows Kind.book := List.filter_true _
    rw [all] at transitive
    have twelve : scored 1 ⟨0x4028000000000000⟩ ∈ graded.rows Kind.book := List.mem_of_getElem? (i := 0) rfl
    have none : scored 11 ⟨0x7ff8000000000000⟩ ∈ graded.rows Kind.book := List.mem_of_getElem? (i := 10) rfl
    have eleven : scored 2 ⟨0x4026000000000000⟩ ∈ graded.rows Kind.book := List.mem_of_getElem? (i := 1) rfl
    exact absurd (transitive _ twelve _ none _ eleven (by decide +kernel) (by decide +kernel)) (by decide +kernel)
  have alive : Context.unlimited.check = .ok () := rfl
  have panics := find_of_unsortable told alive known circle
  exact ⟨known, count_of_select told alive, panics, fun ⟨_, found, _⟩ => nomatch panics.symm.trans found⟩

end Shelf

end ProtoStore
