import ProtoStore.Store.Basic
import ProtoStore.Strategy

/-!
# Linked rows

Rows are linked in two ways: children hold the key of their parent in a column, and join rows hold
the keys of two rows that belong together. When a parent is updated, rows are pruned before it is
saved, and the provided ones are saved and linked after it, both as the strategy of the association
says.

Where several calls are made one after the other, each is made later than the one before. A target takes
three moments, for its row, for counting its join rows, and for a new one.
-/

namespace ProtoStore.Store

variable {K : Type} [DecidableEq K] [Catalog K]

/-! ## Pruning -/

/-- The rows whose column holds a key. -/
def linkedBy (column : String) (key : Value) : Query := Query.all.filter (.eq column key)

/-- The values of the keys of those rows that have one. -/
def presentKeys {kind : K} (rows : List (Row kind)) : List Value :=
  (rows.filter fun row => !(record kind).keyIsEmpty row).map (record kind).keyValue

/-- The children of a parent that an update takes away, unless it takes away none. -/
def prunedChildren (kind : K) (strategy : Strategy) (column : String) (parent : Value)
    (kept : List (Row kind)) : Option Query :=
  let linked := linkedBy column parent
  match strategy with
  | .append => none
  | .default | .clear => some linked
  | .replace =>
    match presentKeys kept with
    | [] => some linked
    | keys => some (linked.filter (.notIn (record kind).keyColumn keys))

/-- Deletes what a query asks for, if there is one. -/
def deleteSome (context : Context) (store : Store K) (kind : K) :
    Option Query → Except Failure (Store K × Nat)
  | none => .ok (store, 0)
  | some query => store.delete context kind query

/-- Deletes the children of a parent that the strategy removes; `kept` are the provided ones. -/
def pruneChildren (context : Context) (store : Store K) (kind : K) (strategy : Strategy)
    (column : String) (parent : Value) (kept : List (Row kind)) :
    Except Failure (Store K × Nat) :=
  store.deleteSome context kind (prunedChildren kind strategy column parent kept)

/-- Deletes the join rows of an owner that the strategy removes. -/
def pruneLinks (context : Context) (store : Store K) (join : K) (strategy : Strategy)
    (column : String) (owner : Value) : Except Failure (Store K × Nat) :=
  store.deleteSome context join
    (if strategy = .append then none else some (linkedBy column owner))

/-! ## Saving -/

/-- Points children at their parent and saves them, one after the other, up to the first failure. -/
def saveAll (context : Context) (kind : K) (attach : Row kind → Row kind) :
    Store K → List (Row kind) → Writing K (List (Row kind))
  | store, [] => ⟨store, [], .ok ()⟩
  | store, row :: rest =>
    let first := store.save context kind (attach row)
    match first.result with
    | .error failure => ⟨first.store, first.written :: rest, .error failure⟩
    | .ok () =>
      let others := saveAll (context.after 1) kind attach first.store rest
      ⟨others.store, first.written :: others.written, others.result⟩

/-- Saves the provided children of a parent, which `attach` points at it. -/
def saveChildren (context : Context) (store : Store K) (kind : K) (strategy : Strategy)
    (attach : Row kind → Row kind) (rows : List (Row kind)) : Writing K (List (Row kind)) :=
  if strategy = .clear then ⟨store, rows, .ok ()⟩ else saveAll context kind attach store rows

/-- The rows equal to a given one in all columns. -/
def equalTo {kind : K} (row : Row kind) : Query :=
  (record kind).columns.foldl
    (fun query column => query.filter (.eq column.name (column.value row))) Query.all

/-- Stores a join row unless there is one like it. -/
def ensureLink (context : Context) (store : Store K) (join : K) (row : Row join) :
    Store K × Except Failure Unit :=
  match store.count context join (equalTo row) with
  | .error failure => (store, .error failure)
  | .ok (_ + 1) => (store, .ok ())
  | .ok 0 =>
    let writing := store.create (context.after 1) join row
    (writing.store, writing.result)

/-- Saves a target and links it to its owner. -/
def saveLink (context : Context) (store : Store K) (kind join : K) (link : Row kind → Row join)
    (row : Row kind) : Writing K (Row kind) :=
  let saved := store.save context kind row
  match saved.result with
  | .error failure => ⟨saved.store, saved.written, .error failure⟩
  | .ok () =>
    let (store, result) := saved.store.ensureLink (context.after 1) join (link saved.written)
    ⟨store, saved.written, result⟩

/-- Saves targets and links them to their owner, one after the other, up to the first failure. -/
def linkAll (context : Context) (kind join : K) (link : Row kind → Row join) :
    Store K → List (Row kind) → Writing K (List (Row kind))
  | store, [] => ⟨store, [], .ok ()⟩
  | store, row :: rest =>
    let first := store.saveLink context kind join link row
    match first.result with
    | .error failure => ⟨first.store, first.written :: rest, .error failure⟩
    | .ok () =>
      let others := linkAll (context.after 3) kind join link first.store rest
      ⟨others.store, first.written :: others.written, others.result⟩

/-- Saves the provided targets of an owner, and links them to it by the join rows `link` makes. -/
def saveLinks (context : Context) (store : Store K) (kind join : K) (strategy : Strategy)
    (link : Row kind → Row join) (rows : List (Row kind)) : Writing K (List (Row kind)) :=
  if strategy = .clear then ⟨store, rows, .ok ()⟩ else linkAll context kind join link store rows

/-! ## Loading -/

/-- The row of a key. -/
def loadOne (context : Context) (store : Store K) (kind : K) (key : Value) :
    Except Failure (Option (Row kind)) :=
  store.first context kind (linkedBy (record kind).keyColumn key)

/-- The children of a parent in the order of their keys. -/
def loadChildren (context : Context) (store : Store K) (kind : K) (column : String)
    (parent : Value) : Except Failure (List (Row kind)) :=
  store.find context kind ((linkedBy column parent).orderBy (record kind).keyColumn)

/-- The targets linked to an owner in the order of their keys. -/
def loadLinked (context : Context) (store : Store K) (kind join : K) (ownerColumn : String)
    (owner : Value) (targetColumn : String) : Except Failure (List (Row kind)) := do
  let links ← store.find context join (linkedBy ownerColumn owner)
  match links.filterMap fun link => (record join).value? link targetColumn with
  | [] => return []
  | keys =>
    store.find (context.after 1) kind
      ((Query.all.filter (.isIn (record kind).keyColumn keys)).orderBy (record kind).keyColumn)

end ProtoStore.Store
