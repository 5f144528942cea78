import ProtoStore.Store.Key

/-!
# Records

A `RecordType` says how records of a type are stored: in which table, under which key, and in which
columns. A `Catalog` is a family of record types, indexed by their kinds; a store keeps rows of all
kinds of a catalog.
-/

namespace ProtoStore

/-- A column of records of type `R`. -/
structure Column (R : Type) where
  name : String
  value : R → Value
  /-- Sets the column to its default. -/
  reset : R → R

/-- The column of a part of a record that is got and set by two functions. -/
def Column.of {R α : Type} [ToValue α] [Inhabited α] (name : String) (get : R → α)
    (set : α → R → R) : Column R :=
  ⟨name, fun row => toValue (get row), set default⟩

/-- How records of type `R` are stored. -/
structure RecordType (R : Type) where
  table : String
  columns : List (Column R)
  /-- The column that is never left out of a selection. -/
  keyColumn : String
  Key : Type
  rowKey : RowKey Key
  key : R → Key
  setKey : Key → R → R

namespace RecordType

variable {R : Type} (type : RecordType R)

/-- The value of a record's key. -/
def keyValue (row : R) : Value := type.rowKey.toValue (type.key row)

/-- Whether a record has no key yet. -/
def keyIsEmpty (row : R) : Bool := type.rowKey.isEmpty (type.key row)

/-- The record with a new key, if its type of keys has new ones. -/
def withNewKey? (sequence : UInt64) (fresh : Uuid) (row : R) : Option R :=
  (type.rowKey.generate sequence fresh).map fun key => type.setKey key row

/-- The names of the columns. -/
def columnNames : List String := type.columns.map (·.name)

/-- The column of a name. -/
def column? (name : String) : Option (Column R) := type.columns.find? (·.name == name)

/-- The value of the column of a name. -/
def value? (row : R) (name : String) : Option Value :=
  (type.column? name).map fun column => column.value row

/-- The record with one column set to its default. -/
def reset? (row : R) (name : String) : Option R :=
  (type.column? name).map fun column => column.reset row

end RecordType

/-- A family of record types. -/
class Catalog (K : Type) where
  Row : K → Type
  record : (kind : K) → RecordType (Row kind)
  /-- All kinds. -/
  kinds : List K

export Catalog (Row record)

end ProtoStore
