import ProtoStore.Store.Failure
import ProtoStore.Store.Query
import ProtoStore.Store.Record

/-!
# Rows of a table

How a query is answered from the rows of one record type: `meets` tells the rows that meet the
conditions, `inOrder` puts these in order, `project` resets the columns that are not selected, and
`arrange` does the latter two, with the cut of a window between them. A column that a record type does not
have is an error as soon as it is asked for, which for a condition is at the first row that reaches it.

Values in no order, such as a float that is not a number and any other float, count as equal, so the
order of rows may be in circles. Up to `insertionLimit` rows are inserted one after the other all the
same. Of more rows a sort may assume that their order is transitive, and what it does where it is not is
left open: it may put them in any order, or find out and panic, and here it is taken to panic. Every
statement about the order of rows is made for rows that are not in circles, or says what becomes of those
that are.
-/

namespace ProtoStore.RecordType

variable {R : Type} (type : RecordType R)

/-! ## Conditions -/

/-- The value of a column of a record. -/
def require (row : R) (column : String) : Except StoreError Value :=
  match type.value? row column with
  | some value => .ok value
  | none => .error (.unknownColumn type.table column)

/-- Whether a record meets all conditions. Conditions after one it does not meet are not looked at. -/
def meets : List Condition → R → Except StoreError Bool
  | [], _ => .ok true
  | condition :: rest, row =>
    match type.require row condition.column with
    | .error e => .error e
    | .ok value => if condition.holds value then meets rest row else .ok false

/-! ## Order -/

/-- The order of two records in one column. Values in no order count as equal. -/
def compareIn (term : SortTerm) (a b : R) : Ordering :=
  let order := match type.value? a term.column, type.value? b term.column with
    | some x, some y => (x.compare? y).getD .eq
    | _, _ => .eq
  if term.descending then order.swap else order

/-- The order of two records: that of the first column in which they differ. -/
def compareBy (terms : List SortTerm) (a b : R) : Ordering :=
  terms.foldr (fun term rest => (type.compareIn term a b).then rest) .eq

/-- Puts a record into rows sorted the other way round, before the first it does not precede. -/
def insertDown (terms : List SortTerm) (row : R) : List R → List R
  | [] => [row]
  | last :: rest =>
    if type.compareBy terms row last == .lt then last :: insertDown terms row rest
    else row :: last :: rest

/-- Sorts rows; rows that are equal in order keep their places. -/
def sort (terms : List SortTerm) (rows : List R) : List R :=
  (rows.foldl (fun sorted row => type.insertDown terms row sorted) []).reverse

/-- Whether what comes before what comes before a row comes before it, too. -/
def isTransitive (terms : List SortTerm) (rows : List R) : Bool :=
  rows.all fun a => rows.all fun b => rows.all fun c =>
    !((type.compareBy terms a b).isLE && (type.compareBy terms b c).isLE)
      || (type.compareBy terms a c).isLE

/-- The number of rows up to which they are inserted one after the other, whatever their order. -/
def insertionLimit : Nat := 20

/-- Rows in order, unless there are many and their order is in circles: this is the one place where the order
is taken to be transitive. -/
def inOrder (terms : List SortTerm) (rows : List R) : Except Failure (List R) :=
  if rows.length ≤ insertionLimit || type.isTransitive terms rows then .ok (type.sort terms rows)
  else .error .panic

/-- Fails if there are rows, but not one of the columns to sort by. -/
def checkOrder (terms : List SortTerm) (rows : List R) : Except StoreError Unit :=
  match rows, terms.find? fun term => (type.column? term.column).isNone with
  | _ :: _, some term => .error (.unknownColumn type.table term.column)
  | _, _ => .ok ()

/-! ## Selections -/

/-- The record with all columns reset that are not selected, but for the key column. -/
def keepOnly (selection : List String) (row : R) : R :=
  type.columns.foldl (fun row column =>
    if column.name == type.keyColumn || selection.contains column.name then row
    else column.reset row) row

/-- Rows with only the selected columns. -/
def project (selection : List String) (rows : List R) : Except StoreError (List R) :=
  match selection.find? fun column => !type.columnNames.contains column with
  | some column => .error (.unknownColumn type.table column)
  | none => .ok (rows.map (type.keepOnly selection))

/-! ## Queries -/

/-- What a query shows of the rows that meet its conditions. -/
def arrange (query : Query) (chosen : List R) : Except Failure (List R) := do
  (type.checkOrder query.order chosen).mapError .store
  let sorted ← type.inOrder query.order chosen
  let cut := match query.window with
    | some window => window.cut sorted
    | none => sorted
  match query.selection with
  | some selection => (type.project selection cut).mapError .store
  | none => return cut

end ProtoStore.RecordType
