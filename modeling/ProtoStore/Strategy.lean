/-!
# Update strategies

An update of a message that owns a collection says what happens to the rows linked to it before.
-/

namespace ProtoStore

/-- How an update treats an associated collection. -/
inductive Strategy
  /-- Delete every linked row, then store the provided ones. -/
  | default
  /-- Store the provided rows and delete the linked rows not among them. -/
  | replace
  /-- Store the provided rows and delete nothing. -/
  | append
  /-- Delete every linked row and ignore the provided ones. -/
  | clear
deriving Repr, DecidableEq

end ProtoStore
