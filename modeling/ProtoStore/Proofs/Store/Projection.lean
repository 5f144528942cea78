import ProtoStore.Proofs.Except
import ProtoStore.Proofs.Store.Reading

/-!
# Selected columns

Columns are selected last, of rows that are chosen, sorted and cut already. So a selection of existing columns
changes nothing but these rows (`find_shown`, `first_shown`), and a column that does not exist is noticed
even if no row is found (`exists_find_fails`, `exists_first_fails`).

`Column.keep_of` says what becomes of one column, which is kept or set to its default.
-/

namespace ProtoStore

namespace Column

variable {R α : Type}

/-- A row with one column kept or set to its default. -/
def keep (kept : String → Bool) (row : R) (column : Column R) : R :=
  if kept column.name then row else column.reset row

/-- A column that is got and set by two functions is set to what is kept of it. -/
theorem keep_of [ToValue α] [Inhabited α] {name : String} {get : R → α} {set : α → R → R}
    (restores : ∀ row, set (get row) row = row) (kept : String → Bool) (row : R) :
    keep kept row (.of name get set) = set (if kept name then get row else default) row := by
  unfold keep
  show (if kept name = true then row else set default row) = _
  cases kept name with
  | true => exact (restores row).symm
  | false => rfl

end Column

namespace RecordType

variable {R : Type} {type : RecordType R} {selection : List String} {query : Query}

/-- Columns are kept one by one. -/
theorem keepOnly_eq_foldl (selection : List String) (row : R) : type.keepOnly selection row =
    type.columns.foldl (Column.keep fun name => name == type.keyColumn || selection.contains name) row := rfl

theorem isSome_column?_iff {column : String} :
    (type.column? column).isSome = true ↔ column ∈ type.columnNames := by
  unfold column? columnNames
  simp only [List.find?_isSome, List.mem_map, beq_iff_eq]

theorem project_eq (known : ∀ column ∈ selection, (type.column? column).isSome = true) (rows : List R) :
    type.project selection rows = .ok (rows.map (type.keepOnly selection)) := by
  have none : (selection.find? fun column => !type.columnNames.contains column) = none := by
    rw [List.find?_eq_none]
    intro column there
    simpa using isSome_column?_iff.mp (known column there)
  unfold project
  rw [none]

/-- The first selected column that does not exist is that of the failure. -/
theorem exists_project_fails (unknown : ∃ column ∈ selection, (type.column? column).isSome = false) :
    ∃ column ∈ selection, (type.column? column).isSome = false ∧
      ∀ rows, type.project selection rows = .error (.unknownColumn type.table column) := by
  obtain ⟨missing, there, absent⟩ := unknown
  have found : (selection.find? fun column => !type.columnNames.contains column).isSome = true := by
    rw [List.find?_isSome]
    refine ⟨missing, there, ?_⟩
    rw [← Bool.not_eq_true, isSome_column?_iff] at absent
    simpa using absent
  obtain ⟨column, first⟩ := Option.isSome_iff_exists.mp found
  refine ⟨column, List.mem_of_find?_eq_some first, ?_, fun rows => ?_⟩
  · rw [← Bool.not_eq_true, isSome_column?_iff]
    simpa using List.find?_some first
  · unfold project
    rw [first]

/-- A row with the selected columns, or with all of them if none are selected. -/
def shown (type : RecordType R) (fields : Option (List String)) (row : R) : R :=
  match fields with
  | none => row
  | some selection => type.keepOnly selection row

/-- Columns are selected of the rows of the answer without a selection. -/
theorem answer_projected (selects : query.selection = some selection) (rows : List R) :
    type.answer query rows = (type.answer { query with selection := none } rows).bind fun whole =>
      (type.project selection whole).mapError .store := by
  unfold answer arrange
  rw [selects]
  cases type.select query.conditions rows with
  | error error => rfl
  | ok chosen =>
    cases ordered : type.checkOrder query.order chosen with
    | error error => simp only [bind, Except.bind, Except.mapError, ordered]
    | ok _ =>
      cases sorted : type.inOrder query.order chosen <;>
        simp only [bind, Except.bind, Except.mapError, ordered, sorted, pure, Except.pure]

end RecordType

namespace Store

variable {K : Type} [DecidableEq K] [Catalog K] {store : Store K} {kind : K} {context : Context} {query : Query}
  {selection : List String}

/-- What is found with a selection is what is found without it, with the other columns at their defaults. -/
theorem find_selected (selects : query.selection = some selection)
    (known : ∀ column ∈ selection, ((record kind).column? column).isSome = true) :
    store.find context kind query = (store.find context kind { query with selection := none }).map
      (List.map ((record kind).keepOnly selection)) := by
  rw [find_eq, find_eq, RecordType.answer_projected selects]
  cases context.check with
  | error failure => rfl
  | ok _ =>
    cases answered : (record kind).answer { query with selection := none } (store.rows kind) with
    | error error => rfl
    | ok rows =>
      simp only [Except.bind, RecordType.project_eq known]
      rfl

/-- What is found with some columns or with all of them. -/
theorem find_shown {fields : Option (List String)} (selects : query.selection = fields)
    (known : ∀ selection ∈ fields, ∀ column ∈ selection, ((record kind).column? column).isSome = true) :
    store.find context kind query = (store.find context kind { query with selection := none }).map
      (List.map ((record kind).shown fields)) := by
  cases fields with
  | none =>
    have same : { query with selection := none } = query := by rw [← selects]
    have all : List.map ((record kind).shown none) = id := funext List.map_id
    rw [same, all]
    cases store.find context kind query with
    | error failure => rfl
    | ok rows => rfl
  | some selection => exact find_selected selects (known selection rfl)

theorem first_shown {fields : Option (List String)} (selects : query.selection = fields)
    (known : ∀ selection ∈ fields, ∀ column ∈ selection, ((record kind).column? column).isSome = true) :
    store.first context kind query = (store.first context kind { query with selection := none }).map
      (Option.map ((record kind).shown fields)) := by
  have limited : (query.limit 1).selection = fields := selects
  have same : { query.limit 1 with selection := none } = { query with selection := none }.limit 1 := rfl
  unfold first
  rw [find_shown limited known, same]
  cases store.find context kind ({ query with selection := none }.limit 1) with
  | error failure => rfl
  | ok rows => exact congrArg Except.ok (List.head?_map ..)

/-- What is found with a selection comes from what is found without it. -/
theorem exists_sources (selects : query.selection = some selection) {found : List (Row kind)}
    (answered : store.find context kind query = .ok found) :
    ∃ sources, store.find context kind { query with selection := none } = .ok sources ∧
      found = sources.map ((record kind).keepOnly selection) := by
  have known : ∀ column ∈ selection, ((record kind).column? column).isSome = true := by
    by_contra unknown
    push Not at unknown
    obtain ⟨column, there, absent⟩ := unknown
    obtain ⟨_, _, _, fails⟩ := RecordType.exists_project_fails ⟨column, there, Bool.eq_false_iff.mpr absent⟩
    obtain ⟨-, answered⟩ := find_ok.mp answered
    rw [RecordType.answer_projected selects] at answered
    obtain ⟨rows, -, projected⟩ := Except.bind_eq_ok.mp answered
    rw [fails rows] at projected
    cases projected
  rw [find_selected selects known] at answered
  obtain ⟨sources, whole, rfl⟩ := Except.map_eq_ok.mp answered
  exact ⟨sources, whole, rfl⟩

/-- A selected column that does not exist is noticed, whatever is found without the selection. -/
theorem exists_find_fails (selects : query.selection = some selection)
    (unknown : ∃ column ∈ selection, ((record kind).column? column).isSome = false) {found : List (Row kind)}
    (whole : store.find context kind { query with selection := none } = .ok found) :
    ∃ column ∈ selection, ((record kind).column? column).isSome = false ∧
      store.find context kind query = .error (.store (.unknownColumn (record kind).table column)) := by
  obtain ⟨column, there, absent, fails⟩ := RecordType.exists_project_fails unknown
  refine ⟨column, there, absent, ?_⟩
  obtain ⟨alive, answered⟩ := find_ok.mp whole
  rw [find_eq, RecordType.answer_projected selects, alive, answered]
  simp only [Except.bind, fails]
  rfl

theorem exists_first_fails (selects : query.selection = some selection)
    (unknown : ∃ column ∈ selection, ((record kind).column? column).isSome = false)
    {found : Option (Row kind)}
    (whole : store.first context kind { query with selection := none } = .ok found) :
    ∃ column ∈ selection, ((record kind).column? column).isSome = false ∧
      store.first context kind query = .error (.store (.unknownColumn (record kind).table column)) := by
  obtain ⟨rows, answered, -⟩ := first_ok.mp whole
  have limited : (query.limit 1).selection = some selection := selects
  obtain ⟨column, there, absent, fails⟩ := exists_find_fails limited unknown answered
  refine ⟨column, there, absent, ?_⟩
  unfold first
  rw [fails]
  rfl

end Store

end ProtoStore
