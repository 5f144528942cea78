import ProtoStore.Store.Context
import ProtoStore.Store.Table

/-!
# The store

A `Store` keeps tables, and a running number. A table is one list of rows, in the order they were stored,
and may hold rows of several kinds of a catalog: those of one kind are its `Store.rows`. A row without a
key gets a new one, made from the next running number or from an identifier not used before; keys that
rows bring along move the running number past them.

All calls take a context and fail in one that has ended. A call that writes gives a `Writing`: the
store afterwards, what was written with the keys it got, and whether the call succeeded.
-/

namespace ProtoStore

/-- A row of some kind. -/
structure AnyRow (K : Type) [Catalog K] where
  kind : K
  row : Row kind

/-- The row, if it is of a kind. -/
def AnyRow.as? {K : Type} [DecidableEq K] [Catalog K] (stored : AnyRow K) (kind : K) :
    Option (Row kind) :=
  if h : stored.kind = kind then some (h ▸ stored.row) else none

/-- Rows of all kinds. -/
structure Store (K : Type) [Catalog K] where
  /-- The rows of the table of a name. -/
  tables : String → List (AnyRow K)
  /-- How far the running number has come. Its low 64 bits are the greatest number used; the others
  count how often it has come past its end and begun again at zero. -/
  sequence : Nat
  /-- Identifiers for new keys. -/
  fresh : Nat → Uuid
  /-- How many new keys were asked for. -/
  drawn : Nat

/-- What a writing call leaves. -/
structure Writing (K : Type) [Catalog K] (α : Type) where
  store : Store K
  /-- What was to be written, as it is after the call. -/
  written : α
  result : Except Failure Unit

namespace Store

variable {K : Type} [DecidableEq K] [Catalog K]

/-- A store without rows. -/
def empty (fresh : Nat → Uuid) : Store K := ⟨fun _ => [], 0, fresh, 0⟩

/-- The rows of the table of a kind, those of other kinds included. -/
def table (store : Store K) (kind : K) : List (AnyRow K) := store.tables (record kind).table

/-- The rows of a kind in a table. -/
def rowsIn (kind : K) (table : List (AnyRow K)) : List (Row kind) := table.filterMap (·.as? kind)

/-- The rows of a kind. -/
def rows (store : Store K) (kind : K) : List (Row kind) := rowsIn kind (store.table kind)

/-- Puts other rows in place of those of the table of a kind. -/
def setTable (store : Store K) (kind : K) (rows : List (AnyRow K)) : Store K :=
  { store with tables := fun name => if name = (record kind).table then rows else store.tables name }

/-- The number of rows in the table of a kind, those of other kinds included. -/
def size (store : Store K) (kind : K) : Nat := (store.table kind).length

/-! ## Keys -/

/-- The running number moved on to `n`, unless it is past it. -/
def reach (sequence : Nat) (n : UInt64) : Nat :=
  sequence / UInt64.size * UInt64.size + max (sequence % UInt64.size) n.toNat

/-- The running number after a key was seen. -/
def observe (sequence : Nat) : Value → Nat
  | .uint n => reach sequence n
  | .int n => if 0 ≤ n then reach sequence n.toUInt64 else sequence
  | _ => sequence

/-- The store after a new key was asked for. -/
def draw (store : Store K) : Store K :=
  { store with sequence := store.sequence + 1, drawn := store.drawn + 1 }

/-- A row with a new key, if its type of keys has new ones. There is none after the last number: the
running number begins again at zero, and this is noticed. -/
def newKey (store : Store K) (kind : K) (row : Row kind) : Except Failure (Row kind) :=
  let next : UInt64 := .ofNat (store.sequence + 1)
  if next = 0 then .error .panic
  else
    match (record kind).withNewKey? next (store.fresh store.drawn) row with
    | some row => .ok row
    | none => .error (.store (.missingKey (record kind).table))

/-- Gives a row without a key a new one. -/
def assignKey (store : Store K) (kind : K) (row : Row kind) : Store K × Except Failure (Row kind) :=
  let type := record kind
  if type.keyIsEmpty row then (store.draw, store.newKey kind row)
  else ({ store with sequence := observe store.sequence (type.keyValue row) }, .ok row)

/-- Whether two rows have the same key. -/
def sameKey {kind : K} (a b : Row kind) : Bool :=
  ((record kind).keyValue a).same ((record kind).keyValue b)

/-! ## Writing -/

/-- Stores a row at the end of its table. -/
def push (store : Store K) (kind : K) (row : Row kind) : Store K :=
  store.setTable kind (store.table kind ++ [⟨kind, row⟩])

/-- Stores a row with a key at the end, unless there is one with the same key. -/
def insert (store : Store K) (kind : K) (row : Row kind) : Except StoreError (Store K) :=
  if (store.rows kind).any fun other => sameKey other row then
    .error (.duplicateKey (record kind).table)
  else .ok (store.push kind row)

/-- The place in its table of the first row of a kind with the same key as another. -/
def place? (store : Store K) (kind : K) (row : Row kind) : Option Nat :=
  (store.table kind).findIdx? fun stored => (stored.as? kind).any fun other => sameKey other row

/-- Stores a row with a key in place of the one with the same key, or else at the end. -/
def upsert (store : Store K) (kind : K) (row : Row kind) : Store K :=
  match store.place? kind row with
  | some place => store.setTable kind ((store.table kind).set place ⟨kind, row⟩)
  | none => store.push kind row

/-- Stores a new row. -/
def create (context : Context) (store : Store K) (kind : K) (row : Row kind) :
    Writing K (Row kind) :=
  match context.check with
  | .error failure => ⟨store, row, .error failure⟩
  | .ok () =>
    match store.assignKey kind row with
    | (store, .error failure) => ⟨store, row, .error failure⟩
    | (store, .ok row) =>
      match store.insert kind row with
      | .error e => ⟨store, row, .error (.store e)⟩
      | .ok store => ⟨store, row, .ok ()⟩

/-- Stores a row, new or not. -/
def save (context : Context) (store : Store K) (kind : K) (row : Row kind) :
    Writing K (Row kind) :=
  match context.check with
  | .error failure => ⟨store, row, .error failure⟩
  | .ok () =>
    match store.assignKey kind row with
    | (store, .error failure) => ⟨store, row, .error failure⟩
    | (store, .ok row) => ⟨store.upsert kind row, row, .ok ()⟩

/-! ## Reading and deleting -/

/-- The rows of a kind in a part of a table that meet conditions, with their places, of which the part
begins at the given one. -/
def selectFrom (kind : K) (conditions : List Condition) :
    Nat → List (AnyRow K) → Except StoreError (List (Nat × Row kind))
  | _, [] => .ok []
  | place, stored :: rest =>
    match stored.as? kind with
    | none => selectFrom kind conditions (place + 1) rest
    | some row =>
      match (record kind).meets conditions row with
      | .error e => .error e
      | .ok met => (selectFrom kind conditions (place + 1) rest).map fun chosen =>
        if met then (place, row) :: chosen else chosen

/-- The rows of a kind that meet conditions, with their places in the table. -/
def select (store : Store K) (kind : K) (conditions : List Condition) :
    Except Failure (List (Nat × Row kind)) :=
  (selectFrom kind conditions 0 (store.table kind)).mapError .store

/-- The rows that a query asks for. -/
def find (context : Context) (store : Store K) (kind : K) (query : Query) :
    Except Failure (List (Row kind)) := do
  context.check
  let chosen ← store.select kind query.conditions
  (record kind).arrange query (chosen.map (·.2))

/-- The first row that a query asks for, if there is one. -/
def first (context : Context) (store : Store K) (kind : K) (query : Query) :
    Except Failure (Option (Row kind)) :=
  (store.find context kind (query.limit 1)).map (·.head?)

/-- The number of rows that meet the conditions of a query. -/
def count (context : Context) (store : Store K) (kind : K) (query : Query) :
    Except Failure Nat := do
  context.check
  let chosen ← store.select kind query.conditions
  return chosen.length

/-- Removes what is at some places, given in ascending order, from the last one on. -/
def removeAt {α : Type} (places : List Nat) (rows : List α) : List α :=
  places.foldr (fun place rows => rows.eraseIdx place) rows

/-- Deletes the rows that meet the conditions of a query. Gives the store afterwards and the number
of rows deleted. -/
def delete (context : Context) (store : Store K) (kind : K) (query : Query) :
    Except Failure (Store K × Nat) := do
  context.check
  let chosen ← store.select kind query.conditions
  return (store.setTable kind (removeAt (chosen.map (·.1)) (store.table kind)), chosen.length)

end Store

end ProtoStore
