import ProtoStore.Domain.Hook
import ProtoStore.Domain.Mask
import ProtoStore.Store.Linked

/-!
# Domains

A domain has messages of several kinds, the entities `E`, that are stored as records of a catalog
`K`. It says how a message becomes a record and back, how messages are linked to others, and which
fields masks can name. What is linked is stored in rows of its own: the message of a reference in the
row its key points to, children in rows that hold the key of their parent, and joined messages in
rows that join rows connect with their owner.
-/

namespace ProtoStore.Domain

/-- The messages of a domain, and where they are stored. -/
class Entities (E : Type) (K : outParam Type) [Catalog K] where
  Message : E → Type
  table : E → K

export Entities (Message table)

section

variable {E K : Type} [Catalog K] [Entities E K]

/-- The records of a kind of messages. -/
abbrev Record (e : E) : Type := Row (table e)

/-! ## Links -/

/-- A message that is stored apart, and that the record of `e` points to. -/
structure Reference (e : E) where
  target : E
  get : Message e → Option (Message target)
  set : Option (Message target) → Message e → Message e
  /-- The key that the record holds. -/
  key : Record e → Value
  keyIsEmpty : Record e → Bool
  /-- Points the record to a target, or to none. -/
  assign : Option (Record target) → Record e → Record e

/-- Messages whose records hold the key of their parent. -/
structure Children (e : E) where
  target : E
  strategy : Strategy
  get : Message e → List (Message target)
  set : List (Message target) → Message e → Message e
  /-- The column with the key of the parent. -/
  column : String
  attach : (parent : Record e) → Record target → Record target

/-- Messages that join rows connect with their owner. -/
structure Joined (e : E) where
  target : E
  join : K
  strategy : Strategy
  get : Message e → List (Message target)
  set : List (Message target) → Message e → Message e
  /-- The columns of the join rows. -/
  ownerColumn : String
  targetColumn : String
  link : (owner : Record e) → (target : Record target) → Row join

/-- A link of a message to others. -/
inductive MessageLink (e : E)
  | reference (link : Reference e)
  | children (link : Children e)
  | joined (link : Joined e)

end

/-! ## Domains -/

/-- What is to be known about the messages of a domain. -/
class Bindings (E : Type) (K : outParam Type) [Catalog K] extends Entities E K where
  blank : (e : E) → Message e
  blankRecord : (e : E) → Record e
  /-- Sets the columns of a record that hold fields of a message. -/
  fillRecord : (e : E) → Message e → Record e → Except Failure (Record e)
  /-- Sets the fields of a message that columns of a record hold. -/
  fillMessage : (e : E) → Record e → Message e → Except Failure (Message e)
  /-- The links, in the order of their fields. -/
  links : (e : E) → List (MessageLink e)
  /-- A message with the key of another and nothing else. -/
  keyOnly : (e : E) → Message e → Message e
  /-- Takes over the keys of parents from a stored record, for records that have such columns. -/
  keepParents? : (e : E) → Option ((stored : Record e) → Record e → Record e)
  maskFields : (e : E) → List (MaskField (Message e))

/-- Hooks for all messages of a domain. -/
structure Hooks (E σ : Type) {K : Type} [Catalog K] [Entities E K] where
  call : {α : Type} → (e : E) → HookPoint (Message e) (Record e) α → α → HookM σ α

/-- Hooks that change nothing and never fail. -/
def Hooks.none {E K : Type} [Catalog K] [Entities E K] : Hooks E Unit := ⟨fun _ _ a => pure a⟩

end ProtoStore.Domain
