import ProtoStore.Store.Value

/-!
# Queries

A `Query` says which rows of a table are wanted, in which order, which window of them, and which of
their columns. `Operators` are the parts of a query that callers of a list may choose;
`Query.apply` adds them to a query.
-/

namespace ProtoStore

/-- A condition on the value of one column. -/
inductive Condition
  | eq (column : String) (value : Value)
  | ne (column : String) (value : Value)
  | lt (column : String) (bound : Value)
  | gt (column : String) (bound : Value)
  | isIn (column : String) (values : List Value)
  | notIn (column : String) (values : List Value)
  | isNull (column : String)
deriving Repr

namespace Condition

/-- The column a condition is on. -/
def column : Condition → String
  | eq column _ | ne column _ | lt column _ | gt column _ => column
  | isIn column _ | notIn column _ => column
  | isNull column => column

/-- Whether a value meets a condition. -/
def holds : Condition → Value → Bool
  | eq _ expected, value => value.same expected
  | ne _ expected, value => !value.same expected
  | lt _ bound, value => value.isBelow bound
  | gt _ bound, value => value.isAbove bound
  | isIn _ values, value => value.isIn values
  | notIn _ values, value => !value.isIn values
  | isNull _, value => value.isNull

end Condition

/-- A column to sort by. -/
structure SortTerm where
  column : String
  descending : Bool
deriving Repr, DecidableEq

/-- A window of rows: how many to skip, and how many to take at most. -/
structure Window where
  offset : Nat
  limit : Option Nat
deriving Repr, DecidableEq

namespace Window

/-- The rows of a window. -/
def cut {α : Type} (window : Window) (rows : List α) : List α :=
  match window.limit with
  | none => rows.drop window.offset
  | some limit => (rows.drop window.offset).take limit

end Window

/-- What a caller of a list may ask for. -/
structure Operators where
  filter : List Condition
  sorting : List SortTerm
  window : Option Window
  fields : Option (List String)

/-- Which rows are wanted, and what of them. -/
structure Query where
  conditions : List Condition
  order : List SortTerm
  selection : Option (List String)
  window : Option Window
  /-- Whether the rows are to be locked. -/
  lock : Bool

namespace Query

/-- All rows. -/
def all : Query := ⟨[], [], none, none, false⟩

/-- The rows that meet one more condition. -/
def filter (query : Query) (condition : Condition) : Query :=
  { query with conditions := query.conditions ++ [condition] }

/-- Sorts by one more column, the lowest first. -/
def orderBy (query : Query) (column : String) : Query :=
  { query with order := query.order ++ [⟨column, false⟩] }

/-- Locks the rows. -/
def forUpdate (query : Query) : Query := { query with lock := true }

/-- At most `limit` rows; what is skipped stays so. -/
def limit (query : Query) (limit : Nat) : Query :=
  { query with window := some ⟨(query.window.map (·.offset)).getD 0, some limit⟩ }

/-- Selects columns, if a selection is given. -/
def select (query : Query) (fields : Option (List String)) : Query :=
  { query with selection := fields.or query.selection }

/-- Adds the conditions and the sorting of a caller; a window and a selection of the caller take the
place of those of the query. -/
def apply (query : Query) (operators : Operators) : Query :=
  { query with
    conditions := query.conditions ++ operators.filter
    order := query.order ++ operators.sorting
    window := operators.window.or query.window
    selection := operators.fields.or query.selection }

end Query

end ProtoStore
