import ProtoStore.Schema.Basic
import ProtoStore.Wire.Codec

/-!
# Annotations

Annotations are extensions of the options of messages and fields. These are the messages the
extensions hold. Empty names count as absent, and codes of no kind or strategy as the first one.
-/

namespace ProtoStore

open Wire

/-- The kinds of association and their codes. -/
def AssociationKind.scalar : Wire.Scalar (Option AssociationKind) :=
  .coded
    (fun
      | none => 0
      | some .embeddedOne => 1
      | some .hasMany => 2
      | some .manyToMany => 3)
    fun code =>
      if code == 1 then some .embeddedOne
      else if code == 2 then some .hasMany
      else if code == 3 then some .manyToMany
      else none

instance : Inhabited Strategy := ⟨.default⟩

/-- The strategies and their codes. -/
def Strategy.scalar : Wire.Scalar Strategy :=
  .coded
    (fun
      | .default => 0
      | .replace => 1
      | .append => 2
      | .clear => 3)
    fun code =>
      if code == 1 then .replace
      else if code == 2 then .append
      else if code == 3 then .clear
      else .default

/-- A name that counts as absent if it is empty. -/
def nameField {M : Type} (number : Nat) (get : M → Option String) (set : Option String → M → M) :
    Wire.Field M :=
  .single number .string (fun m => (get m).getD "") fun name m =>
    set (if name.isEmpty then none else some name) m

/-- Associations. -/
def Declaration.codec : Wire.Codec Declaration where
  blank := ⟨none, .default, none, none, none, none⟩
  fields := [
    .single 1 AssociationKind.scalar (·.kind) fun x d => { d with kind := x },
    .single 2 Strategy.scalar (·.strategy) fun x d => { d with strategy := x },
    .optional 3 .bool (·.nullable) fun x d => { d with nullable := x },
    nameField 4 (·.foreignKey) fun x d => { d with foreignKey := x },
    nameField 5 (·.targetKey) fun x d => { d with targetKey := x },
    nameField 6 (·.joinTable) fun x d => { d with joinTable := x }]

namespace Annotation

/-- The annotations of a message. -/
structure Model where
  persisted : Bool
  table : Option String
deriving Repr, DecidableEq, Inhabited

/-- The annotations of a field. -/
structure Column where
  column : Option String
  isKey : Bool
  dropped : Bool
  association : Option Declaration
deriving Repr, DecidableEq, Inhabited

/-- The annotations of messages. -/
def Model.codec : Wire.Codec Model where
  blank := default
  fields := [
    .single 1 .bool (·.persisted) fun x m => { m with persisted := x },
    nameField 2 (·.table) fun x m => { m with table := x }]

/-- The annotations of fields. -/
def Column.codec : Wire.Codec Column where
  blank := default
  fields := [
    nameField 1 (·.column) fun x c => { c with column := x },
    .single 2 .bool (·.isKey) fun x c => { c with isKey := x },
    .single 3 .bool (·.dropped) fun x c => { c with dropped := x },
    .nested 4 Declaration.codec (·.association) fun x c => { c with association := x }]

end Annotation

end ProtoStore
