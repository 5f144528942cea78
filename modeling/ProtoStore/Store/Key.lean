import ProtoStore.Store.Value

/-!
# Primary keys

A type of keys says which key is empty, that is, stands for a row that has no key yet, and how a key
is made for such a row: numbers from the running number of the store, identifiers at random, and
texts and composite keys not at all.
-/

namespace ProtoStore

/-- A type of primary keys. -/
class RowKey (κ : Type) where
  isEmpty : κ → Bool
  toValue : κ → Value
  /-- A new key, given the next running number and an identifier not used before. -/
  generate : (sequence : UInt64) → (fresh : Uuid) → Option κ

namespace RowKey

instance : RowKey UInt32 where
  isEmpty n := n == 0
  toValue n := ProtoStore.toValue n
  generate n _ := if n.toNat < UInt32.size then some n.toUInt32 else none

instance : RowKey UInt64 where
  isEmpty n := n == 0
  toValue n := ProtoStore.toValue n
  generate n _ := some n

instance : RowKey Int32 where
  isEmpty n := n == 0
  toValue n := ProtoStore.toValue n
  generate n _ := if n.toNat < Nat.pow 2 31 then some (Int32.ofNat n.toNat) else none

instance : RowKey Int64 where
  isEmpty n := n == 0
  toValue n := ProtoStore.toValue n
  generate n _ := if n.toNat < Nat.pow 2 63 then some (Int64.ofNat n.toNat) else none

instance : RowKey String where
  isEmpty s := s == ""
  toValue s := ProtoStore.toValue s
  generate _ _ := none

instance : RowKey Uuid where
  isEmpty u := u.isNil
  toValue u := ProtoStore.toValue u
  generate _ fresh := some fresh

/-- A key that may be absent; then it is empty. -/
instance {κ : Type} [RowKey κ] : RowKey (Option κ) where
  isEmpty
    | none => true
    | some key => isEmpty key
  toValue
    | none => .null
    | some key => toValue key
  generate n fresh := (generate n fresh).map some

/-- A key of two parts, none of which may be empty. -/
instance {κ μ : Type} [RowKey κ] [RowKey μ] : RowKey (κ × μ) where
  isEmpty key := isEmpty key.1 || isEmpty key.2
  toValue key := .list [toValue key.1, toValue key.2]
  generate _ _ := none

end RowKey

end ProtoStore
