/-!
# Errors of a schema

What can be wrong with the annotations of a schema, each with its wording.
-/

namespace ProtoStore

/-- Why no bindings can be made for a schema. -/
inductive SchemaError
  /-- Associations that cannot be null require one another. -/
  | cyclic (source target field : String)
  /-- An association disagrees with the fields it concerns. -/
  | contradictory (message field reason : String)
  /-- A field has a type that no column holds. -/
  | unmappable (message field type : String)
  /-- An annotation makes no sense where it stands. -/
  | malformed (target reason : String)
  /-- An association needs the key of a message that has none. -/
  | missingKey (message owner field : String)
deriving Repr, DecidableEq

/-- The wording of an error. -/
def SchemaError.message : SchemaError → String
  | .cyclic source target field =>
    s!"cyclic association: `{source}` depends on `{target}` through field `{field}` and no nullable "
      ++ "foreign key breaks the cycle"
  | .contradictory message field reason =>
    s!"contradictory association on `{message}.{field}`: {reason}"
  | .unmappable message field type =>
    s!"field `{message}.{field}` has type {type} which cannot be stored; mark it `drop` to exclude it"
  | .malformed target reason => s!"malformed annotation on `{target}`: {reason}"
  | .missingKey message owner field =>
    s!"`{message}` has no primary key but is used by association `{owner}.{field}`"

end ProtoStore
