import ProtoStore.Store.Record

/-!
# A book shelf

A catalog with a record type for every type of keys: books with their notes and labels, a second view
of the table of books, codes, events and documents. It is a small store to work with by hand.
-/

namespace ProtoStore.Shelf

open Number

/-- A book. -/
structure Book where
  id : UInt64
  title : String
  rank : Int32
  shelf : Option UInt64
  score : Double
deriving Repr, DecidableEq

/-- How books are stored. -/
def Book.record : RecordType Book where
  table := "books"
  columns := [
    .of "id" (·.id) fun x r => { r with id := x },
    .of "title" (·.title) fun x r => { r with title := x },
    .of "rank" (·.rank) fun x r => { r with rank := x },
    .of "shelf" (·.shelf) fun x r => { r with shelf := x },
    .of "score" (·.score) fun x r => { r with score := x }]
  keyColumn := "id"
  Key := UInt64
  rowKey := inferInstance
  key := (·.id)
  setKey key r := { r with id := key }

/-- Another kind of row in the table of books. -/
structure Shadow where
  id : UInt64
  note : String
deriving Repr, DecidableEq

/-- How shadows of books are stored. -/
def Shadow.record : RecordType Shadow where
  table := "books"
  columns := [
    .of "id" (·.id) fun x r => { r with id := x },
    .of "note" (·.note) fun x r => { r with note := x }]
  keyColumn := "id"
  Key := UInt64
  rowKey := inferInstance
  key := (·.id)
  setKey key r := { r with id := key }

/-- A note on a book. -/
structure Note where
  id : Int32
  body : String
  bookId : Option UInt64
deriving Repr, DecidableEq

/-- How notes are stored. -/
def Note.record : RecordType Note where
  table := "notes"
  columns := [
    .of "id" (·.id) fun x r => { r with id := x },
    .of "body" (·.body) fun x r => { r with body := x },
    .of "book_id" (·.bookId) fun x r => { r with bookId := x }]
  keyColumn := "id"
  Key := Int32
  rowKey := inferInstance
  key := (·.id)
  setKey key r := { r with id := key }

/-- A code. -/
structure Code where
  id : UInt32
  weight : Single
  data : List UInt8
deriving Repr, DecidableEq

/-- How codes are stored. -/
def Code.record : RecordType Code where
  table := "codes"
  columns := [
    .of "id" (·.id) fun x r => { r with id := x },
    .of "weight" (·.weight) fun x r => { r with weight := x },
    .of "data" (·.data) fun x r => { r with data := x }]
  keyColumn := "id"
  Key := UInt32
  rowKey := inferInstance
  key := (·.id)
  setKey key r := { r with id := key }

/-- An event. -/
structure Event where
  id : Int64
  time : Option Moment
  done : Bool
deriving Repr, DecidableEq

/-- How events are stored. -/
def Event.record : RecordType Event where
  table := "events"
  columns := [
    .of "id" (·.id) fun x r => { r with id := x },
    .of "at" (·.time) fun x r => { r with time := x },
    .of "done" (·.done) fun x r => { r with done := x }]
  keyColumn := "id"
  Key := Int64
  rowKey := inferInstance
  key := (·.id)
  setKey key r := { r with id := key }

/-- A label. -/
structure Label where
  name : String
  color : Option String
deriving Repr, DecidableEq

/-- How labels are stored. -/
def Label.record : RecordType Label where
  table := "labels"
  columns := [
    .of "name" (·.name) fun x r => { r with name := x },
    .of "color" (·.color) fun x r => { r with color := x }]
  keyColumn := "name"
  Key := String
  rowKey := inferInstance
  key := (·.name)
  setKey key r := { r with name := key }

/-- A document. -/
structure Document where
  id : Option Uuid
  title : String
deriving Repr, DecidableEq

/-- How documents are stored. -/
def Document.record : RecordType Document where
  table := "docs"
  columns := [
    .of "id" (·.id) fun x r => { r with id := x },
    .of "title" (·.title) fun x r => { r with title := x }]
  keyColumn := "id"
  Key := Option Uuid
  rowKey := inferInstance
  key := (·.id)
  setKey key r := { r with id := key }

/-- A label on a book. -/
structure BookLabel where
  bookId : UInt64
  label : String
deriving Repr, DecidableEq

/-- How labels on books are stored. -/
def BookLabel.record : RecordType BookLabel where
  table := "book_labels"
  columns := [
    .of "book_id" (·.bookId) fun x r => { r with bookId := x },
    .of "label" (·.label) fun x r => { r with label := x }]
  keyColumn := "book_id"
  Key := UInt64 × String
  rowKey := inferInstance
  key r := (r.bookId, r.label)
  setKey key r := { r with bookId := key.1, label := key.2 }

/-- The kinds of rows. -/
inductive Kind
  | book
  | shadow
  | note
  | code
  | event
  | label
  | document
  | bookLabel
deriving Repr, DecidableEq

/-- The type of the rows of a kind. -/
abbrev Kind.Row : Kind → Type
  | book => Book
  | shadow => Shadow
  | note => Note
  | code => Code
  | event => Event
  | label => Label
  | document => Document
  | bookLabel => BookLabel

/-- How the rows of a kind are stored. -/
def Kind.record : (kind : Kind) → RecordType kind.Row
  | book => Book.record
  | shadow => Shadow.record
  | note => Note.record
  | code => Code.record
  | event => Event.record
  | label => Label.record
  | document => Document.record
  | bookLabel => BookLabel.record

instance : Catalog Kind where
  Row := Kind.Row
  record := Kind.record
  kinds := [.book, .shadow, .note, .code, .event, .label, .document, .bookLabel]

end ProtoStore.Shelf
