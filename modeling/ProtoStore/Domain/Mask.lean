/-!
# Field masks

A patch carries a mask: the paths of the fields that are to be taken from it. A path is a root, the
same for all paths at one level, and the name of a field after it; below a field that holds another
message with fields of its own, a point and a further name follow. Paths that name no field are
ignored.

`Mask.apply` goes through the paths. The first path below a field merges all that is below it, this
path and those after it; later paths below that field change nothing any more.
-/

namespace ProtoStore.Domain

/-- A field of messages of type `M` that masks can name. -/
structure MaskField (M : Type) where
  name : String
  /-- Takes the field from the first message into the second. -/
  copy : (source target : M) → M
  /-- Applies paths below the field, given their root, if it holds a message of its own. -/
  merge? : Option ((paths : List String) → (root : String) → (source target : M) → M)

/-- A field that is taken whole. -/
def MaskField.whole {M α : Type} (name : String) (get : M → α) (set : α → M → M) : MaskField M :=
  ⟨name, fun source target => set (get source) target, none⟩

namespace Mask

/-- What follows `start` in a text. -/
def after? (start text : String) : Option String :=
  (start.toList.isPrefixOf? text.toList).map String.ofList

/-- The beginning of paths below a field. -/
def below (name : String) : String := name ++ "."

variable {M : Type} (fields : List (MaskField M))

/-- The field that the rest of a path is below of, and how it merges, unless it is among those
that have been merged. -/
def merging? (merged : List String) (rest : String) :
    Option (String × (List String → String → M → M → M)) :=
  fields.findSome? fun field =>
    field.merge?.bind fun merge =>
      if !merged.contains field.name && (after? (below field.name) rest).isSome then
        some (field.name, merge)
      else none

/-- The field of a name. -/
def field? (name : String) : Option (MaskField M) := fields.find? (·.name == name)

/-- Applies the first of some paths to a message, given the names of the fields merged so far. -/
def step (root : String) (source : M) (path : String) (rest : List String)
    (state : M × List String) : M × List String :=
  let (target, merged) := state
  match after? root path with
  | none => state
  | some name =>
    match merging? fields merged name with
    | some (field, merge) =>
      (merge (path :: rest) (root ++ below field) source target, field :: merged)
    | none =>
      match field? fields name with
      | none => state
      | some field =>
        (field.copy source target, if field.merge?.isSome then name :: merged else merged)

/-- Applies paths one after the other. -/
def run (root : String) (source : M) : List String → M × List String → M × List String
  | [], state => state
  | path :: rest, state => run root source rest (step fields root source path rest state)

/-- The message `target` with the fields that paths name taken from `source`. -/
def apply (paths : List String) (root : String) (source target : M) : M :=
  (run fields root source paths (target, [])).1

end Mask

/-- A field that holds a message with fields of its own. A field without a message gets a blank one
to merge into; if the source has none the field is emptied. -/
def MaskField.holding {M N : Type} (name : String) (get : M → Option N) (set : Option N → M → M)
    (blank : N) (inner : List (MaskField N)) : MaskField M where
  name := name
  copy source target := set (get source) target
  merge? := some fun paths root source target =>
    match get source with
    | none => set none target
    | some value => set (some (Mask.apply inner paths root value ((get target).getD blank))) target

end ProtoStore.Domain
