import ProtoStore.Emit.Scope

/-!
# Emitted field masks

The merge function of a message copies the fields that a list of paths names from one message onto
another. A path is a prefix and the segment of a field. A field that holds a persisted message takes
longer paths too, which are merged into the message it holds; that happens once, for all of them.
-/

namespace ProtoStore.Emit

/-- A segment a path may name. -/
structure MaskEntry where
  segment : String
  /-- The field of the generated message; for the members of a oneof, the oneof. -/
  field : Ident
  isCopy : Bool
  /-- The merge function of the message the field holds. -/
  merge : Option Code

namespace MaskEntry

/-- The value taken over. -/
def value (entry : MaskEntry) : Code :=
  Code.fill (if entry.isCopy then "patcher . $" else "patcher . $ . clone ()") [entry.field.code]

/-- The variable that says whether a nested message has been merged. -/
def flag (entry : MaskEntry) : Code := [.atom ("updated_" ++ entry.field.text)]

/-- The declaration of the flag. -/
def flagDeclaration (entry : MaskEntry) : Code :=
  if entry.merge.isSome then Code.fill "let mut $ = false ;" [entry.flag] else []

/-- The statement that merges longer paths. -/
def nestedStep (entry : MaskEntry) : Code :=
  match entry.merge with
  | none => []
  | some merge =>
    Code.fill
      "if ! $ && field . starts_with ($) ⟨
        $ = true ;
        match & patcher . $ ⟨
          Some (source) => $ (
            patchee . $ . get_or_insert_with (:: core :: default :: Default :: default) ,
            source ,
            & paths [i ..] ,
            & :: prost :: alloc :: format ! ($ , prefix) ,
          ) ,
          None => patchee . $ = None ,
        ⟩
        continue ;
      ⟩"
      [entry.flag, Code.literal (entry.segment ++ "."), entry.flag, entry.field.code, merge,
        entry.field.code, Code.literal ("\x7b\x7d" ++ entry.segment ++ "."), entry.field.code]

/-- The arm of the path that is the segment itself. -/
def arm (entry : MaskEntry) : Code :=
  if entry.merge.isSome then
    Code.fill "$ => ⟨ $ = true ; patchee . $ = $ ; ⟩"
      [Code.literal entry.segment, entry.flag, entry.field.code, entry.value]
  else
    Code.fill "$ => patchee . $ = $ ,"
      [Code.literal entry.segment, entry.field.code, entry.value]

end MaskEntry

/-- The merge function of the message a field holds, if it holds one persisted message. -/
def nestedMerge (scope : Scope) (field : Field) : Except CodeError (Option Code) :=
  match (if field.repeated then none else field.messageType?).bind scope.models.record? with
  | some target => do return some (← scope.functionPath target "default_apply_field_mask_" "")
  | none => return none

/-- The entries of the fields, after those of earlier fields. A oneof has one entry, at its first
member, unless its segment is taken. -/
def maskEntries (scope : Scope) (entries : List MaskEntry) :
    List Field → Except CodeError (List MaskEntry)
  | [] => return entries
  | field :: rest => do
    let segment := Config.segment scope.config.maskCase
    match field.oneof with
    | some oneof =>
      if entries.all (·.segment != segment oneof) then
        maskEntries scope
          (entries ++ [⟨segment oneof, ← Naming.fieldIdent oneof, false, none⟩]) rest
      else maskEntries scope entries rest
    | none =>
      let ident ← Naming.fieldIdent field.name
      let merge ← nestedMerge scope field
      maskEntries scope (entries ++ [⟨segment field.name, ident, field.valueIsCopy, merge⟩]) rest

/-- The body of a merge function. -/
def mergeBody (entries : List MaskEntry) : Code :=
  if entries.isEmpty then Code.ofText "let _ = (patchee , patcher , paths , prefix) ;"
  else
    let loop := if entries.any (·.merge.isSome) then "for (i , path) in paths . iter () . enumerate ()"
      else "for path in paths"
    Code.fill
      "$ $ ⟨
        let Some (field) = path . strip_prefix (prefix) else ⟨ continue ; ⟩ ;
        $
        match field ⟨ $ _ => ⟨ ⟩ ⟩
      ⟩"
      [entries.flatMap (·.flagDeclaration), Code.ofText loop, entries.flatMap (·.nestedStep),
        entries.flatMap (·.arm)]

/-- The merge function of the message in a scope. -/
def fieldMask (scope : Scope) : Except CodeError (List Item) := do
  let message ← scope.messageIdent
  let name ← Naming.functionIdent "default_apply_field_mask_" scope.message.name ""
  let entries ← maskEntries scope [] scope.message.fields
  return [.function
    (docComment ["Copy the fields of `patcher` named by `paths` onto `patchee`.", "",
      "Each path is `prefix` followed by a field name; `Field.` sub-paths",
      "merge into nested persisted messages."])
    true false name
    (Code.fill
      "(patchee : & mut $ , patcher : & $ , paths : & [:: prost :: alloc :: string :: String] ,
        prefix : & str ,)"
      [message.code, message.code])
    (mergeBody entries)]

end ProtoStore.Emit
