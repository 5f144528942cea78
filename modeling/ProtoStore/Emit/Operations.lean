import ProtoStore.Emit.Hooks
import ProtoStore.Emit.Types

/-!
# Emitted operations

A message with a key has eight operations on a store: create, read, strict update, patch, patch set,
delete, delete set and list. Create and strict update store the associated messages along with their
owner, and every operation that answers with messages loads them back through one helper function.
-/

namespace ProtoStore.Emit

/-- Where an association keeps its keys, in code. -/
inductive LinkCode
  /-- In a field of the record; `wraps` if the key becomes an optional value. -/
  | reference (foreignKey : Ident) (nullable wraps : Bool)
  /-- In a field of each child. -/
  | children (foreignKey : Ident) (column : String) (wraps : Bool)
  /-- In a join record. -/
  | links (join ownerField targetField : Ident) (ownerColumn targetColumn : String)

/-- An association as the operations see it. -/
structure LinkedField where
  association : Association
  /-- The field of the message. -/
  field : Ident
  targetRecord : Code
  link : LinkCode

namespace LinkedField

/-- The variable that holds the converted records. -/
def holder (linked : LinkedField) : Code :=
  [.atom ("linked_" ++ Naming.snake linked.association.field)]

/-- Whether the association embeds one message. -/
def isReference (linked : LinkedField) : Bool :=
  match linked.link with
  | .reference .. => true
  | _ => false

/-- Whether the association never stores the message it embeds. -/
def isDropped (linked : LinkedField) : Bool :=
  linked.isReference && linked.association.strategy == .clear

end LinkedField

/-- The field and the column in which children keep a foreign key. -/
def childKey (child : RecordModel) (foreignKey : String) : Except CodeError (Ident × String) :=
  let holds (field : RecordField) : Bool :=
    match field.origin with
    | .backReference .. => field.name == foreignKey
    | .schema name => name == foreignKey
    | .foreignKey _ => false
  match child.fields.find? holds with
  | some field => do return (← field.ident, field.column)
  | none => do return (← Ident.ofText foreignKey, foreignKey)

/-- The keys of an association in code. -/
def linkCode (association : Association) (target : RecordModel) : Except CodeError LinkCode :=
  match association.link with
  | .embeddedOne foreignKey nullable targetKey => do
    return .reference (← Ident.ofText foreignKey) nullable (targetKey.wrapsForeignKey nullable)
  | .hasMany foreignKey nullable _ ownerKey => do
    let (field, column) ← childKey target foreignKey
    return .children field column (ownerKey.wrapsForeignKey nullable)
  | .manyToMany join => do
    return .links (← Ident.ofText join.name) (← Ident.ofText join.ownerColumn)
      (← Ident.ofText join.targetColumn) join.ownerColumn join.targetColumn

/-- What the operations of one message are made from. -/
structure Operations where
  scope : Scope
  rt : Code
  key : PrimaryKey
  keyField : Code
  message : Code
  record : Code
  hooksTrait : Code
  bound : Code
  linked : List LinkedField

namespace Operations

/-- The operations of the message in a scope, given its key. -/
def ofScope (scope : Scope) (key : PrimaryKey) : Except CodeError Operations := do
  let linked ← (scope.associations.filter (·.2.primaryKey.isSome)).mapM
    fun (association, target) => do
      return {
        association
        field := ← Naming.fieldIdent association.field
        targetRecord := ← scope.recordPath target
        link := ← linkCode association target : LinkedField }
  return {
    scope, key, linked
    rt := scope.rt
    keyField := (← key.ident).code
    message := (← scope.messageIdent).code
    record := (← scope.recordIdent).code
    hooksTrait := (← scope.hooksIdent).code
    bound := ← scope.hooksBound }

variable (ops : Operations)

/-! ## Pieces -/

/-- A function about the message. -/
def name (before after : String) : Except CodeError Ident :=
  Naming.functionIdent before ops.scope.record.name after

/-- The call of a hook. -/
def hook (phase : String) (arguments : List String) : Code :=
  hookCall ops.rt ops.hooksTrait phase (arguments.map Code.ofText)

/-- Refuses an absent argument. -/
def nilCheck (input : String) : Code :=
  Code.fill
    "let Some ($) = $ else ⟨ return Err ($ :: ArgumentError :: NilArgument . into ()) ; ⟩ ;"
    [[.atom input], [.atom input], ops.rt]

/-- Refuses a record with an empty key. -/
def emptyCheck : Code :=
  Code.fill
    "if < $ as $ :: Record > :: key_is_empty (& orm) ⟨
      return Err ($ :: ArgumentError :: EmptyId . into ()) ;
    ⟩"
    [ops.record, ops.rt, ops.rt]

/-- The query for the row with the key of `orm`. -/
def byKey : Code :=
  Code.fill
    "$ :: Query :: < $ > :: new ()
      . filter ($ :: Condition :: eq ($ , $ :: PrimaryKey :: to_value (& orm . $)))"
    [ops.rt, ops.record, ops.rt, Code.literal ops.key.column, ops.rt, ops.keyField]

/-- The key of the record in a variable. -/
def keyOf (record holder : Code) : Code :=
  Code.fill "< $ as $ :: Record > :: primary_key ($)" [record, ops.rt, holder]

/-- Whether some association is a collection. -/
def hasCollections : Bool := ops.linked.any (!·.isReference)

/-- An operation: its documentation, name, parameters after the context, result and body. -/
def function (doc : List String) (name : Ident) (parameters result body : Code) : Item :=
  .function (docComment doc) true true name
    (Code.fill
      "< S , H > (ctx : & $ :: Context , $)
        -> :: core :: result :: Result < $ , $ :: PersistError > where S : $ :: Store , H : $ ,"
      [ops.rt, parameters, result, ops.rt, ops.rt, ops.bound])
    body

/-- The parameter that holds one message. -/
def inputParameter : Code :=
  Code.fill "input : :: core :: option :: Option < & $ > ," [ops.message]

/-- The parameter that holds many messages. -/
def objectsParameter : Code :=
  Code.fill "objects : :: core :: option :: Option < & [$] > ," [ops.message]

/-- The parameters of every operation that takes messages. -/
def storeParameters : Code := Code.ofText "store : & S , hooks : & H ,"

/-- A list of messages. -/
def messageList : Code := Code.fill ":: prost :: alloc :: vec :: Vec < $ >" [ops.message]

/-! ## Storing associations -/

/-- Converts the associated messages of `input`. -/
def collectLinks : Code :=
  (ops.linked.filter (!·.isDropped)).flatMap fun linked =>
    if linked.isReference then
      Code.fill
        "let mut $ = input . $ . as_ref () . map (| value | value . to_orm (ctx , hooks))
          . transpose () ? ;"
        [linked.holder, linked.field.code]
    else
      Code.fill
        "let mut $ = input . $ . iter () . map (| value | value . to_orm (ctx , hooks))
          . collect :: < :: core :: result :: Result < :: prost :: alloc :: vec :: Vec < _ > , _ >> () ? ;"
        [linked.holder, linked.field.code]

/-- Stores the embedded messages and points the foreign keys at them. -/
def prepareReferences : Code :=
  ops.linked.flatMap fun linked =>
    match linked.link with
    | .reference foreignKey nullable wraps =>
      if linked.association.strategy == .clear then
        Code.fill "orm . $ = None ;" [foreignKey.code]
      else
        let key := ops.keyOf linked.targetRecord [.atom "target"]
        let absent :=
          if nullable then Code.fill "orm . $ = None" [foreignKey.code]
          else Code.fill "return Err ($ :: ArgumentError :: MissingAssociation ($) . into ())"
            [ops.rt, Code.literal linked.association.field]
        Code.fill
          "match $ . as_mut () ⟨
            Some (target) => ⟨ store . save (ctx , target) . await ? ; orm . $ = $ ; ⟩
            None => $ ,
          ⟩"
          [linked.holder, foreignKey.code, if wraps then Code.fill "Some ($)" [key] else key,
            absent]
    | _ => []

/-- Deletes what the strategies remove from the collections, before the row is saved. -/
def pruneCollections : Code :=
  let parent := Code.fill "$ :: PrimaryKey :: to_value (& $)"
    [ops.rt, ops.keyOf ops.record (Code.ofText "& orm")]
  let steps := ops.linked.flatMap fun linked =>
    let strategy := linked.association.strategy.code ops.rt
    match linked.link with
    | .reference .. => []
    | .children _ column _ =>
      Code.fill
        "$ :: association :: prune_children (ctx , store , $ , $ , $ , $ . as_slice () ,)
          . await ? ;"
        [ops.rt, strategy, Code.literal column, parent, linked.holder]
    | .links join _ _ ownerColumn _ =>
      Code.fill
        "$ :: association :: prune_links :: < _ , $ > (ctx , store , $ , $ , $ ,) . await ? ;"
        [ops.rt, join.code, strategy, Code.literal ownerColumn, parent]
  if steps.isEmpty then []
  else
    Code.fill "if ! < $ as $ :: Record > :: key_is_empty (& orm) ⟨ $ ⟩" [ops.record, ops.rt, steps]

/-- Stores the collections and points them at the saved row. -/
def saveCollections : Code :=
  if !ops.hasCollections then []
  else
    let parentKey := Code.ofText
      (if ops.key.kind == .string then "parent_key . clone ()" else "parent_key")
    let steps := ops.linked.flatMap fun linked =>
      let strategy := linked.association.strategy.code ops.rt
      match linked.link with
      | .reference .. => []
      | .children foreignKey _ wraps =>
        Code.fill
          "$ :: association :: save_children (ctx , store , $ , $ . as_mut_slice () ,
            | child : & mut $ | child . $ = $ ,) . await ? ;"
          [ops.rt, strategy, linked.holder, linked.targetRecord, foreignKey.code,
            if wraps then Code.fill "Some ($)" [parentKey] else parentKey]
      | .links join ownerField targetField _ _ =>
        Code.fill
          "$ :: association :: save_links (ctx , store , $ , $ . as_mut_slice () ,
            | target : & $ | $ ⟨ $ : $ , $ : $ , ⟩ ,) . await ? ;"
          [ops.rt, strategy, linked.holder, linked.targetRecord, join.code, ownerField.code,
            parentKey, targetField.code, ops.keyOf linked.targetRecord [.atom "target"]]
    Code.fill "let parent_key = $ ; $" [ops.keyOf ops.record (Code.ofText "& orm"), steps]

/-! ## Loading associations -/

/-- Converts a record and loads what is associated with it. -/
def respond (load : Ident) (record output : String) : Code :=
  if ops.linked.isEmpty then
    Code.fill "let $ = $ . to_pb (ctx , hooks) ? ;" [[.atom output], [.atom record]]
  else
    Code.fill
      "let mut $ = $ . to_pb (ctx , hooks) ? ;
      $ (ctx , store , hooks , & $ , & mut $) . await ? ;"
      [[.atom output], [.atom record], load.code, [.atom record], [.atom output]]

/-- Loads one association into the field of `object`. -/
def loadStep (linked : LinkedField) : Code :=
  let collect := Code.ofText
    ". iter () . map (| row | row . to_pb (ctx , hooks))
      . collect :: < :: core :: result :: Result < _ , _ >> () ?"
  match linked.link with
  | .reference foreignKey _ _ =>
    Code.fill
      "object . $ = if $ :: PrimaryKey :: is_empty (& orm . $) ⟨ None ⟩ else ⟨
        $ :: association :: load_one :: < _ , $ > (
          ctx , store , $ :: PrimaryKey :: to_value (& orm . $) ,
        ) . await ? . map (| row | row . to_pb (ctx , hooks)) . transpose () ?
      ⟩ ;"
      [linked.field.code, ops.rt, foreignKey.code, ops.rt, linked.targetRecord, ops.rt,
        foreignKey.code]
  | .children _ column _ =>
    Code.fill
      "object . $ = $ :: association :: load_children :: < _ , $ > (
        ctx , store , $ , key . clone () ,
      ) . await ? $ ;"
      [linked.field.code, ops.rt, linked.targetRecord, Code.literal column, collect]
  | .links join _ _ ownerColumn targetColumn =>
    Code.fill
      "object . $ = $ :: association :: load_linked :: < _ , $ , $ > (
        ctx , store , $ , key . clone () , $ ,
      ) . await ? $ ;"
      [linked.field.code, ops.rt, join.code, linked.targetRecord, Code.literal ownerColumn,
        Code.literal targetColumn, collect]

/-- The function that loads the associations of a record into its message. -/
def loadFunction (load : Ident) : List Item :=
  if ops.linked.isEmpty then []
  else
    let key :=
      if ops.hasCollections then
        Code.fill "let key = $ :: PrimaryKey :: to_value (& $) ;"
          [ops.rt, ops.keyOf ops.record [.atom "orm"]]
      else []
    [.function [] false true load
      (Code.fill
        "< S , H > (ctx : & $ :: Context , store : & S , hooks : & H , orm : & $ ,
          object : & mut $ ,)
          -> :: core :: result :: Result < () , $ :: PersistError > where S : $ :: Store , H : $ ,"
        [ops.rt, ops.record, ops.message, ops.rt, ops.rt, ops.bound])
      (key ++ ops.linked.flatMap ops.loadStep ++ Code.ofText "Ok (())")]

/-! ## The operations -/

/-- Inserts a row. -/
def create (load : Ident) : Except CodeError Item := do
  return ops.function ["Insert a new row and store its associations."]
    (← ops.name "default_create_" "") (ops.inputParameter ++ storeParameters) ops.message
    (ops.nilCheck "input" ++ Code.ofText "let mut orm = input . to_orm (ctx , hooks) ? ;"
      ++ ops.collectLinks ++ ops.hook "before_create" ["& mut orm"] ++ ops.prepareReferences
      ++ Code.ofText "store . create (ctx , & mut orm) . await ? ;" ++ ops.saveCollections
      ++ ops.hook "after_create" ["& orm"] ++ ops.respond load "orm" "output"
      ++ Code.ofText "Ok (output)")

/-- Reads a row. -/
def read (load : Ident) : Except CodeError Item := do
  return ops.function
    ["Read the row with the key of `input`.", "",
      "An empty key is an argument error; a key matching no row is", "`PersistError::NotFound`."]
    (← ops.name "default_read_" "")
    (ops.inputParameter ++ storeParameters
      ++ Code.fill "fields : :: core :: option :: Option < & $ :: FieldSelection > ," [ops.rt])
    ops.message
    (ops.nilCheck "input" ++ Code.ofText "let orm = input . to_orm (ctx , hooks) ? ;"
      ++ ops.emptyCheck ++ Code.fill "let mut query = $ ;" [ops.byKey]
      ++ ops.hook "before_read_apply_query" ["& orm", "& mut query"]
      ++ Code.ofText "store . apply_field_selection (& mut query , fields) ? ;"
      ++ ops.hook "before_read_find" ["& orm", "& mut query"]
      ++ Code.fill
        "let Some (mut found) = store . first (ctx , & query) . await ? else ⟨
          return Err ($ :: PersistError :: NotFound) ;
        ⟩ ;"
        [ops.rt]
      ++ ops.hook "after_read_find" ["& mut found"] ++ ops.respond load "found" "output"
      ++ Code.ofText "Ok (output)")

/-- Looks for the row to be replaced. Foreign keys that other messages keep in it are restored from
it after that. -/
def lockRow : Code :=
  let back := ops.scope.record.backReferences
  if back.isEmpty then
    Code.fill "let created = store . count (ctx , & $ . for_update ()) . await ? == 0 ;" [ops.byKey]
  else
    Code.fill
      "let locked = store . first (ctx , & $ . for_update ()) . await ? ;
      let created = locked . is_none () ;"
      [ops.byKey]

/-- Restores the foreign keys that other messages keep in the row. -/
def restoreBackReferences : Except CodeError Code := do
  let back := ops.scope.record.backReferences
  let copies ← back.mapM fun field => do
    let ident := (← field.ident).code
    return Code.fill
      (if field.type.isCopy then "orm . $ = locked . $ ;" else "orm . $ = locked . $ . clone () ;")
      [ident, ident]
  return if back.isEmpty then []
    else Code.fill "if let Some (locked) = & locked ⟨ $ ⟩" [copies.flatten]

/-- Replaces a row. -/
def strictUpdate (load : Ident) : Except CodeError Item := do
  return ops.function
    ["Replace the whole row with `input`, creating it if no row has its key.", "",
      "The matching row is locked before it is counted, so `created`",
      "is exact even against concurrent writers."]
    (← ops.name "default_strict_update_" "") (ops.inputParameter ++ storeParameters)
    (Code.fill "$ :: Upserted < $ >" [ops.rt, ops.message])
    (ops.nilCheck "input" ++ Code.ofText "let mut orm = input . to_orm (ctx , hooks) ? ;"
      ++ ops.collectLinks ++ ops.lockRow ++ (← ops.restoreBackReferences)
      ++ ops.hook "before_strict_update_cleanup" ["& mut orm"] ++ ops.prepareReferences
      ++ ops.pruneCollections ++ ops.hook "before_strict_update_save" ["& mut orm"]
      ++ Code.ofText "store . save (ctx , & mut orm) . await ? ;" ++ ops.saveCollections
      ++ ops.hook "after_strict_update_save" ["& orm"] ++ ops.respond load "orm" "value"
      ++ Code.fill "Ok ($ :: Upserted ⟨ value , created ⟩)" [ops.rt])

/-- Merges some fields into a row. -/
def patch : Except CodeError Item := do
  let read ← ops.name "default_read_" ""
  let update ← ops.name "default_strict_update_" ""
  let merge ← ops.name "default_apply_field_mask_" ""
  let key := Code.fill (if ops.key.valueIsCopy then "input . $" else "input . $ . clone ()")
    [ops.keyField]
  return ops.function
    ["Read the current state, copy the masked fields of `input` onto it",
      "and save the result with a strict update."]
    (← ops.name "default_patch_" "")
    (ops.inputParameter ++ Code.fill "mask : & $ :: FieldMask ," [ops.rt] ++ storeParameters)
    ops.message
    (ops.nilCheck "input" ++ ops.hook "before_patch_read" ["input", "mask"]
      ++ Code.fill
        "let key_only = $ ⟨ $ : $ , .. :: core :: default :: Default :: default () ⟩ ;
        let mut current = $ (ctx , Some (& key_only) , store , hooks , None) . await ? ;"
        [ops.message, ops.keyField, key, read.code]
      ++ ops.hook "before_patch_apply_field_mask" ["& current", "input", "mask"]
      ++ Code.fill "$ (& mut current , input , & mask . paths , \"\") ;" [merge.code]
      ++ ops.hook "before_patch_save" ["& mut current", "input", "mask"]
      ++ Code.fill "let saved = $ (ctx , Some (& current) , store , hooks) . await ? . value ;"
        [update.code]
      ++ ops.hook "after_patch_save" ["& saved", "input", "mask"] ++ Code.ofText "Ok (saved)")

/-- Patches several messages. -/
def patchSet : Except CodeError Item := do
  let patch ← ops.name "default_patch_" ""
  return ops.function
    ["Patch each object with the mask at the same position.", "",
      "Stops at the first failure. Objects patched before it stay saved."]
    (← ops.name "default_patch_set_" "")
    (ops.objectsParameter ++ Code.fill "masks : & [$ :: FieldMask] ," [ops.rt] ++ storeParameters)
    ops.messageList
    (ops.nilCheck "objects"
      ++ Code.fill
        "if objects . len () != masks . len () ⟨
          return Err ($ :: ArgumentError :: BadRepeatedFieldMask ⟨
            masks : masks . len () , objects : objects . len () ,
          ⟩ . into ()) ;
        ⟩
        let mut results = :: prost :: alloc :: vec :: Vec :: with_capacity (objects . len ()) ;
        for (object , mask) in objects . iter () . zip (masks) ⟨
          results . push ($ (ctx , Some (object) , mask , store , hooks) . await ?) ;
        ⟩
        Ok (results)"
        [ops.rt, patch.code])

/-- Deletes a row. -/
def delete : Except CodeError Item := do
  return ops.function ["Delete the row with the key of `input`."]
    (← ops.name "default_delete_" "") (ops.inputParameter ++ storeParameters) (Code.ofText "()")
    (ops.nilCheck "input" ++ Code.ofText "let orm = input . to_orm (ctx , hooks) ? ;"
      ++ ops.emptyCheck ++ Code.fill "let mut query = $ ;" [ops.byKey]
      ++ ops.hook "before_delete" ["& orm", "& mut query"]
      ++ Code.ofText "store . delete (ctx , & query) . await ? ;"
      ++ ops.hook "after_delete" ["& orm"] ++ Code.ofText "Ok (())")

/-- Deletes several rows at once. -/
def deleteSet : Except CodeError Item := do
  return ops.function
    ["Delete every row keyed by `objects` in one batch.", "",
      "Every key is validated first; one empty key deletes nothing."]
    (← ops.name "default_delete_" "_set") (ops.objectsParameter ++ storeParameters)
    (Code.ofText "()")
    (ops.nilCheck "objects"
      ++ Code.fill
        "let mut keys = :: prost :: alloc :: vec :: Vec :: with_capacity (objects . len ()) ;
        for object in objects ⟨
          let orm = object . to_orm (ctx , hooks) ? ;
          $
          keys . push ($ :: PrimaryKey :: to_value (& orm . $)) ;
        ⟩
        let mut query = $ :: Query :: < $ > :: new () . filter ($ :: Condition :: is_in ($ , keys)) ;"
        [ops.emptyCheck, ops.rt, ops.keyField, ops.rt, ops.record, ops.rt,
          Code.literal ops.key.column]
      ++ ops.hook "before_delete_set" ["objects", "& mut query"]
      ++ Code.ofText "store . delete (ctx , & query) . await ? ;"
      ++ ops.hook "after_delete_set" ["objects"] ++ Code.ofText "Ok (())")

/-- Lists rows. -/
def list (load : Ident) : Except CodeError Item := do
  return ops.function
    ["Every row matching the collection operators, with ties broken", "by primary key."]
    (← ops.name "default_list_" "")
    (storeParameters ++ Code.fill "operators : & $ :: CollectionOperators ," [ops.rt])
    ops.messageList
    (Code.fill "let mut query = $ :: Query :: < $ > :: new () ;" [ops.rt, ops.record]
      ++ ops.hook "before_list_apply_query" ["& mut query"]
      ++ Code.ofText "store . apply_collection_operators (& mut query , operators) ? ;"
      ++ ops.hook "before_list_find" ["& mut query"]
      ++ Code.fill
        "let query = query . order_by ($) ;
        let mut found = store . find (ctx , & query) . await ? ;"
        [Code.literal ops.key.column]
      ++ ops.hook "after_list_find" ["& mut found"]
      ++ Code.fill
        "let mut results = :: prost :: alloc :: vec :: Vec :: with_capacity (found . len ()) ;
        for row in & found ⟨ $ results . push (object) ; ⟩
        Ok (results)"
        [ops.respond load "row" "object"])

/-- The eight operations and the function that loads associations. -/
def items : Except CodeError (List Item) := do
  let load ← ops.name "load_" "_associations"
  return [← ops.create load, ← ops.read load, ← ops.strictUpdate load, ← ops.patch, ← ops.patchSet,
    ← ops.delete, ← ops.deleteSet, ← ops.list load] ++ ops.loadFunction load

end Operations

/-- The operations of the message in a scope; none if it has no key. -/
def operations (scope : Scope) : Except CodeError (List Item) :=
  match scope.record.primaryKey with
  | none => .ok []
  | some key => do (← Operations.ofScope scope key).items

end ProtoStore.Emit
