import ProtoStore.Domain.Basic

/-!
# Scripted hooks

A `Script` says what hooks do at which points: they edit what they are given, cancel the context, or
fail. Points are told by their labels, the name of the message and that of the point. Scripted hooks
note the labels of all points they are called at.
-/

namespace ProtoStore.Domain

/-- What hooks are to do at the points of given labels. -/
structure Script where
  /-- Columns to reset in a record. -/
  resets : List (String × List String)
  /-- Conditions to add to a query. -/
  filters : List (String × List Condition)
  /-- Where to empty a message. -/
  clears : List String
  /-- Where to drop the first of the rows found. -/
  drops : List String
  /-- Where to cancel the context. -/
  cancels : List String
  /-- Where to fail. -/
  failures : List String

namespace Script

variable {E K : Type} [Catalog K] [Bindings E K] (script : Script)

/-- A record with the columns of a label reset; names of no columns are passed over. -/
def resetAt (label : String) {e : E} (row : Record e) : Record e :=
  ((script.resets.lookup label).getD []).foldl
    (fun row column => ((record (table e)).reset? row column).getD row) row

/-- A query with the conditions of a label. -/
def filterAt (label : String) (query : Query) : Query :=
  ((script.filters.lookup label).getD []).foldl Query.filter query

/-- A message, emptied if its label says so. -/
def clearAt (label : String) {e : E} (message : Message e) : Message e :=
  if script.clears.contains label then Bindings.blank e else message

/-- Rows, without the first if their label says so. -/
def dropAt (label : String) {α : Type} (rows : List α) : List α :=
  if script.drops.contains label then rows.drop 1 else rows

/-- What becomes of what a hook may change. -/
def edit (label : String) {e : E} {α : Type} : HookPoint (Message e) (Record e) α → α → α
  | .beforeToRecord _, row | .afterToRecord _, row | .beforeCreate, row | .afterReadFind, row
  | .beforeUpdateCleanup, row | .beforeUpdateSave, row => script.resetAt label row
  | .beforeToMessage _, message | .afterToMessage _, message | .beforePatchSave _ _, message =>
    script.clearAt label message
  | .beforeReadQuery _, query | .beforeReadFind _, query | .beforeDelete _, query
  | .beforeDeleteSet _, query | .beforeListQuery, query | .beforeListFind, query =>
    script.filterAt label query
  | .afterListFind, rows => script.dropAt label rows
  | .afterCreate _, _ | .afterDelete _, _ | .afterDeleteSet _, _ | .afterUpdateSave _, _
  | .beforePatchRead _ _, _ | .beforePatchApply _ _ _, _ | .afterPatchSave _ _ _, _ => ()

/-- Hooks that follow a script, given the names of the messages. -/
def hooks (name : E → String) : Hooks E (List String) where
  call e point subject := do
    let label := name e ++ "." ++ point.name
    let (context, notes) ← get
    set (if script.cancels.contains label then context.cancel else context, notes ++ [label])
    if script.failures.contains label then throw ("rejected by " ++ label)
    return script.edit label point subject

end Script

end ProtoStore.Domain
