import ProtoStore.Proofs.Emit.Conversions

/-!
# Emitted operations are well formed

* `Emit.LinkedField.Neat`, `Emit.Operations.Neat` : what the operations of a message are made from;
* `Emit.Operations.Neat.saveCollections` and its siblings : the pieces of the operations are neat;
* `Emit.Operations.Neat.items_ok` : so the operations can be emitted;
* `Scope.Sound.operations_ok` : a sound scope gives neat pieces.
-/

-- a template is checked as the list of its characters, which may be long
set_option maxRecDepth 4000

namespace ProtoStore

open Code (neat_append neat_fill neat_flatMap neat_ident neat_lettered neat_ofText)
open Text (IsLettered)

variable {scope : Scope}

namespace Emit

/-! ## What operations are made from -/

/-- The keys of an association name fields, and its join record is an identifier. -/
def LinkCode.Named : LinkCode → Prop
  | .reference foreignKey _ _ => Ident.Names foreignKey.text
  | .children foreignKey _ _ => Ident.Names foreignKey.text
  | .links join ownerField targetField _ _ =>
    Ident.valid join.text = true ∧ Ident.Names ownerField.text ∧ Ident.Names targetField.text

/-- An association of neat pieces. -/
structure LinkedField.Neat (linked : LinkedField) : Prop where
  field : Ident.Names linked.field.text
  targetRecord : linked.targetRecord.neat = true
  link : linked.link.Named

theorem LinkedField.holder_neat (linked : LinkedField) : linked.holder.neat = true :=
  Code.neat_atom fun same => by simpa using congrArg (·.toList.head?) same

namespace Operations

/-- Operations of neat pieces. -/
structure Neat (ops : Operations) : Prop where
  name : IsLettered ops.scope.record.name.toList
  columns : ∀ column ∈ ops.scope.record.fields, Ident.Names column.name
  rt : ops.rt.neat = true
  keyField : ops.keyField.neat = true
  keyField_begins : ops.keyField.begins = true
  message : ops.message.neat = true
  record : ops.record.neat = true
  hooksTrait : ops.hooksTrait.neat = true
  bound : ops.bound.neat = true
  linked : ∀ linked ∈ ops.linked, linked.Neat

namespace Neat

variable {ops : Operations} {load : Ident} (neat : ops.Neat)
include neat

/-! ## Pieces -/

theorem name_ok (before after : String) (first : IsLettered before.toList)
    (chars : after.toList.all Text.isNameChar = true) :
    ∃ ident, ops.name before after = .ok ident ∧ Ident.valid ident.text = true :=
  Naming.functionIdent_ok before after neat.name first chars

theorem hook {phase : String} {arguments : List String} (lettered : IsLettered phase.toList)
    (each : arguments.Forall fun argument => (Code.ofText argument).neat = true) :
    (ops.hook phase arguments).neat = true :=
  hookCall_neat neat.rt neat.hooksTrait lettered (List.forall_mem_map.mpr (List.forall_iff_forall_mem.mp each))

theorem nilCheck {input : String} (lettered : IsLettered input.toList) : (ops.nilCheck input).neat = true :=
  neat_fill [false, false, false] rfl (by decide) (by simp [neat_lettered lettered, neat.rt])

theorem emptyCheck : ops.emptyCheck.neat = true :=
  neat_fill [false, false, false] rfl (by decide) (by simp [neat.record, neat.rt])

theorem byKey : ops.byKey.neat = true :=
  neat_fill [false, false, false, false, false, true] rfl (by decide)
    (by simp [neat.rt, neat.record, neat.keyField, neat.keyField_begins])

theorem keyOf {record : Code} (holder : Code) (record_neat : record.neat = true) (holder_neat : holder.neat = true) :
    (ops.keyOf record holder).neat = true :=
  neat_fill [false, false, false] rfl (by decide) (by simp [neat.rt, record_neat, holder_neat])

/-- The key of the record being stored. -/
theorem ownKey : (ops.keyOf ops.record (Code.ofText "& orm")).neat = true :=
  neat.keyOf _ neat.record (neat_ofText rfl (by decide))

theorem function {doc : List String} {name : Ident} {parameters result body : Code}
    (valid : Ident.valid name.text = true) (parameters_neat : parameters.neat = true)
    (result_neat : result.neat = true) (body_neat : body.neat = true) :
    (ops.function doc name parameters result body).wellFormed = true :=
  Item.wellFormed_function (docComment_neat _) valid
    (neat_fill [false, false, false, false, false, false] rfl (by decide)
      (by simp [neat.rt, parameters_neat, result_neat, neat.bound])) body_neat

theorem inputParameter : ops.inputParameter.neat = true :=
  neat_fill [false] rfl (by decide) (by simp [neat.message])

theorem objectsParameter : ops.objectsParameter.neat = true :=
  neat_fill [false] rfl (by decide) (by simp [neat.message])

omit neat in
theorem storeParameters : Operations.storeParameters.neat = true := neat_ofText rfl (by decide)

theorem messageList : ops.messageList.neat = true :=
  neat_fill [false] rfl (by decide) (by simp [neat.message])

/-! ## Storing associations -/

theorem collectLinks : ops.collectLinks.neat = true := by
  refine neat_flatMap fun linked there => ?_
  have names := (neat.linked linked (List.mem_of_mem_filter there)).field
  split
  · exact neat_fill [false, true] rfl (by decide) (by simp [linked.holder_neat, names])
  · exact neat_fill [false, true] rfl (by decide) (by simp [linked.holder_neat, names])

theorem prepareReferences : ops.prepareReferences.neat = true := by
  refine neat_flatMap fun linked there => ?_
  have pieces := neat.linked linked there
  have named := pieces.link
  split
  · next foreignKey nullable wraps link =>
    rw [link] at named
    have names : Ident.Names foreignKey.text := named
    have key := neat.keyOf [.atom "target"] pieces.targetRecord (by decide)
    split
    · exact neat_fill [true] rfl (by decide) (by simp [names])
    · have value : (if wraps then Code.fill "Some ($)" [ops.keyOf linked.targetRecord [.atom "target"]]
          else ops.keyOf linked.targetRecord [.atom "target"]).neat = true := by
        split
        · exact neat_fill [false] rfl (by decide) (by simp [key])
        · exact key
      have absent : (if nullable then Code.fill "orm . $ = None" [foreignKey.code]
          else Code.fill "return Err ($ :: ArgumentError :: MissingAssociation ($) . into ())"
            [ops.rt, Code.literal linked.association.field]).neat = true := by
        split
        · exact neat_fill [true] rfl (by decide) (by simp [names])
        · exact neat_fill [false, false] rfl (by decide) (by simp [neat.rt])
      exact neat_fill [false, true, false, false] rfl (by decide)
        (by simp [linked.holder_neat, names, value, absent])
  · rfl

theorem pruneCollections : ops.pruneCollections.neat = true := by
  have parent : (Code.fill "$ :: PrimaryKey :: to_value (& $)"
      [ops.rt, ops.keyOf ops.record (Code.ofText "& orm")]).neat = true :=
    neat_fill [false, false] rfl (by decide) (by simp [neat.rt, neat.ownKey])
  unfold Operations.pruneCollections
  dsimp only
  split
  · rfl
  refine neat_fill [false, false, false] rfl (by decide) ?_
  simp only [Code.fits_cons, Code.fits_nil, Code.suits_false, neat.record, neat.rt, true_and, and_true]
  refine neat_flatMap fun linked there => ?_
  have strategy := linked.association.strategy.code_neat neat.rt
  have named := (neat.linked linked there).link
  split
  · rfl
  · exact neat_fill [false, false, false, false, false] rfl (by decide)
      (by simp [neat.rt, strategy, parent, linked.holder_neat])
  · next join ownerField targetField ownerColumn targetColumn link =>
    rw [link] at named
    have join_neat := neat_ident named.1
    exact neat_fill [false, false, false, false, false] rfl (by decide)
      (by simp [neat.rt, join_neat, strategy, parent])

theorem saveCollections : ops.saveCollections.neat = true := by
  have parent : (Code.ofText
      (if ops.key.kind == .string then "parent_key . clone ()" else "parent_key")).neat = true := by
    split <;> exact neat_ofText rfl (by decide)
  unfold Operations.saveCollections
  dsimp only
  split
  · rfl
  generalize Code.ofText (if ops.key.kind == .string then "parent_key . clone ()" else "parent_key") = parentKey
    at parent
  refine neat_fill [false, false] rfl (by decide) ?_
  simp only [Code.fits_cons, Code.fits_nil, Code.suits_false, neat.ownKey, true_and, and_true]
  refine neat_flatMap fun linked there => ?_
  have strategy := linked.association.strategy.code_neat neat.rt
  have pieces := neat.linked linked there
  have named := pieces.link
  split
  · rfl
  · next foreignKey column wraps link =>
    rw [link] at named
    have names : Ident.Names foreignKey.text := named
    have value : (if wraps then Code.fill "Some ($)" [parentKey] else parentKey).neat = true := by
      split
      · exact neat_fill [false] rfl (by decide) (by simp [parent])
      · exact parent
    exact neat_fill [false, false, false, false, true, false] rfl (by decide)
      (by simp [neat.rt, strategy, linked.holder_neat, pieces.targetRecord, names, value])
  · next join ownerField targetField ownerColumn targetColumn link =>
    rw [link] at named
    have join_neat := neat_ident named.1
    have target := neat.keyOf [.atom "target"] pieces.targetRecord (by decide)
    exact neat_fill [false, false, false, false, false, false, false, false, false] rfl (by decide)
      (by simp [neat.rt, strategy, linked.holder_neat, pieces.targetRecord, join_neat, named.2.1, named.2.2, parent,
        target])

/-! ## Loading associations -/

omit neat in
theorem respond {record output : String} (valid : Ident.valid load.text = true)
    (record_lettered : IsLettered record.toList) (output_lettered : IsLettered output.toList) :
    (ops.respond load record output).neat = true := by
  have record_neat := neat_lettered record_lettered
  have output_neat := neat_lettered output_lettered
  unfold Operations.respond
  split
  · exact neat_fill [false, false] rfl (by decide) (by simp [record_neat, output_neat])
  · exact neat_fill [false, false, false, false, false] rfl (by decide)
      (by simp [record_neat, output_neat, neat_ident valid])

theorem loadStep {linked : LinkedField} (there : linked ∈ ops.linked) : (ops.loadStep linked).neat = true := by
  have collect : (Code.ofText ". iter () . map (| row | row . to_pb (ctx , hooks))
      . collect :: < :: core :: result :: Result < _ , _ >> () ?").neat = true :=
    neat_ofText rfl (by decide)
  have pieces := neat.linked linked there
  have named := pieces.link
  unfold Operations.loadStep
  dsimp only
  split
  · next foreignKey nullable wraps link =>
    rw [link] at named
    have names : Ident.Names foreignKey.text := named
    exact neat_fill [true, false, true, false, false, false, true] rfl (by decide)
      (by simp [pieces.field, neat.rt, names, pieces.targetRecord])
  · exact neat_fill [true, false, false, false, false] rfl (by decide)
      (by simp [pieces.field, neat.rt, pieces.targetRecord, collect])
  · next join ownerField targetField ownerColumn targetColumn link =>
    rw [link] at named
    have join_neat := neat_ident named.1
    exact neat_fill [true, false, false, false, false, false, false] rfl (by decide)
      (by simp [pieces.field, neat.rt, join_neat, pieces.targetRecord, collect])

theorem loadFunction (valid : Ident.valid load.text = true) :
    ∀ item ∈ ops.loadFunction load, item.wellFormed = true := by
  have key := neat.keyOf [.atom "orm"] neat.record (by decide)
  unfold Operations.loadFunction
  dsimp only
  split
  · simp
  refine List.forall_mem_singleton.mpr (Item.wellFormed_function rfl valid ?_ ?_)
  · exact neat_fill [false, false, false, false, false, false] rfl (by decide)
      (by simp [neat.rt, neat.record, neat.message, neat.bound])
  · refine neat_append (neat_append ?_ ?_) (neat_ofText rfl (by decide))
    · split
      · exact neat_fill [false, false] rfl (by decide) (by simp [neat.rt, key])
      · rfl
    · exact neat_flatMap fun linked there => neat.loadStep there

/-! ## The operations -/

theorem create_ok (load_valid : Ident.valid load.text = true) :
    ∃ item, ops.create load = .ok item ∧ item.wellFormed = true := by
  obtain ⟨name, found, valid⟩ := neat.name_ok "default_create_" "" (by decide) (by simp)
  refine ⟨_, Except.bind_eq_ok.mpr ⟨name, found, rfl⟩, neat.function valid
    (neat_append neat.inputParameter storeParameters) neat.message ?_⟩
  repeat' with_reducible refine neat_append ?_ ?_
  · exact neat.nilCheck (by decide)
  · exact neat_ofText rfl (by decide)
  · exact neat.collectLinks
  · exact neat.hook (by decide) (neat_ofText rfl (by decide))
  · exact neat.prepareReferences
  · exact neat_ofText rfl (by decide)
  · exact neat.saveCollections
  · exact neat.hook (by decide) (neat_ofText rfl (by decide))
  · exact respond load_valid (by decide) (by decide)
  · exact neat_ofText rfl (by decide)

theorem read_ok (load_valid : Ident.valid load.text = true) :
    ∃ item, ops.read load = .ok item ∧ item.wellFormed = true := by
  obtain ⟨name, found, valid⟩ := neat.name_ok "default_read_" "" (by decide) (by simp)
  have fields : (Code.fill "fields : :: core :: option :: Option < & $ :: FieldSelection > ," [ops.rt]).neat = true :=
    neat_fill [false] rfl (by decide) (by simp [neat.rt])
  refine ⟨_, Except.bind_eq_ok.mpr ⟨name, found, rfl⟩, neat.function valid
    (neat_append (neat_append neat.inputParameter storeParameters) fields) neat.message ?_⟩
  repeat' with_reducible refine neat_append ?_ ?_
  · exact neat.nilCheck (by decide)
  · exact neat_ofText rfl (by decide)
  · exact neat.emptyCheck
  · exact neat_fill [false] rfl (by decide) (by simp [neat.byKey])
  · exact neat.hook (by decide) ⟨neat_ofText rfl (by decide), neat_ofText rfl (by decide)⟩
  · exact neat_ofText rfl (by decide)
  · exact neat.hook (by decide) ⟨neat_ofText rfl (by decide), neat_ofText rfl (by decide)⟩
  · exact neat_fill [false] rfl (by decide) (by simp [neat.rt])
  · exact neat.hook (by decide) (neat_ofText rfl (by decide))
  · exact respond load_valid (by decide) (by decide)
  · exact neat_ofText rfl (by decide)

theorem lockRow : ops.lockRow.neat = true := by
  unfold Operations.lockRow
  dsimp only
  split <;> exact neat_fill [false] rfl (by decide) (by simp [neat.byKey])

theorem restoreBackReferences_ok : ∃ code, ops.restoreBackReferences = .ok code ∧ code.neat = true := by
  have copied : ∀ column ∈ ops.scope.record.backReferences, ∃ copy : Code,
      (do
        let ident := (← column.ident).code
        return Code.fill (if column.type.isCopy then "orm . $ = locked . $ ;"
          else "orm . $ = locked . $ . clone () ;") [ident, ident]) = Except.ok (ε := CodeError) copy ∧
        copy.neat = true := by
    intro column there
    obtain ⟨ident, found, names⟩ := (neat.columns column (List.mem_of_mem_filter there)).ofText
    refine ⟨_, Except.bind_eq_ok.mpr ⟨ident, found, rfl⟩, ?_⟩
    split <;> exact neat_fill [true, true] rfl (by decide) (by simp [names])
  obtain ⟨copies, made, each⟩ := List.exists_mapM_ok copied
  refine ⟨_, Except.bind_eq_ok.mpr ⟨copies, made, rfl⟩, ?_⟩
  split
  · rfl
  · have all : Code.neat copies.flatten = true := Code.neat_flatten fun copy there => by
      obtain ⟨column, -, copy_neat⟩ := each.exists_left there
      exact copy_neat
    exact neat_fill [false] rfl (by decide) (by simp [all])

theorem strictUpdate_ok (load_valid : Ident.valid load.text = true) :
    ∃ item, ops.strictUpdate load = .ok item ∧ item.wellFormed = true := by
  obtain ⟨back, restored, back_neat⟩ := neat.restoreBackReferences_ok
  obtain ⟨name, found, valid⟩ :=
    neat.name_ok "default_strict_update_" "" (by decide) (by simp)
  have result : (Code.fill "$ :: Upserted < $ >" [ops.rt, ops.message]).neat = true :=
    neat_fill [false, false] rfl (by decide) (by simp [neat.rt, neat.message])
  refine ⟨_, Except.bind_eq_ok.mpr ⟨name, found, Except.bind_eq_ok.mpr ⟨back, restored, rfl⟩⟩, neat.function valid
    (neat_append neat.inputParameter storeParameters) result ?_⟩
  repeat' with_reducible refine neat_append ?_ ?_
  · exact neat.nilCheck (by decide)
  · exact neat_ofText rfl (by decide)
  · exact neat.collectLinks
  · exact neat.lockRow
  · exact back_neat
  · exact neat.hook (by decide) (neat_ofText rfl (by decide))
  · exact neat.prepareReferences
  · exact neat.pruneCollections
  · exact neat.hook (by decide) (neat_ofText rfl (by decide))
  · exact neat_ofText rfl (by decide)
  · exact neat.saveCollections
  · exact neat.hook (by decide) (neat_ofText rfl (by decide))
  · exact respond load_valid (by decide) (by decide)
  · exact neat_fill [false] rfl (by decide) (by simp [neat.rt])

theorem patch_ok : ∃ item, ops.patch = .ok item ∧ item.wellFormed = true := by
  obtain ⟨read, read_found, read_valid⟩ :=
    neat.name_ok "default_read_" "" (by decide) (by simp)
  obtain ⟨update, update_found, update_valid⟩ :=
    neat.name_ok "default_strict_update_" "" (by decide) (by simp)
  obtain ⟨merge, merge_found, merge_valid⟩ :=
    neat.name_ok "default_apply_field_mask_" "" (by decide) (by simp)
  obtain ⟨name, found, valid⟩ := neat.name_ok "default_patch_" "" (by decide) (by simp)
  have mask : (Code.fill "mask : & $ :: FieldMask ," [ops.rt]).neat = true :=
    neat_fill [false] rfl (by decide) (by simp [neat.rt])
  have key : (Code.fill (if ops.key.valueIsCopy then "input . $" else "input . $ . clone ()")
      [ops.keyField]).neat = true := by
    split <;> exact neat_fill [true] rfl (by decide) (by simp [neat.keyField, neat.keyField_begins])
  refine ⟨_, Except.bind_eq_ok.mpr ⟨read, read_found, Except.bind_eq_ok.mpr ⟨update, update_found,
    Except.bind_eq_ok.mpr ⟨merge, merge_found, Except.bind_eq_ok.mpr ⟨name, found, rfl⟩⟩⟩⟩, neat.function valid
    (neat_append (neat_append neat.inputParameter mask) storeParameters) neat.message ?_⟩
  generalize Code.fill (if ops.key.valueIsCopy then "input . $" else "input . $ . clone ()") [ops.keyField] = value
    at key
  repeat' with_reducible refine neat_append ?_ ?_
  · exact neat.nilCheck (by decide)
  · exact neat.hook (by decide) ⟨neat_ofText rfl (by decide), neat_ofText rfl (by decide)⟩
  · exact neat_fill [false, false, false, false] rfl (by decide)
      (by simp [neat.message, neat.keyField, key, neat_ident read_valid])
  · exact neat.hook (by decide) ⟨neat_ofText rfl (by decide), neat_ofText rfl (by decide), neat_ofText rfl (by decide)⟩
  · exact neat_fill [false] rfl (by decide) (by simp [neat_ident merge_valid])
  · exact neat.hook (by decide) ⟨neat_ofText rfl (by decide), neat_ofText rfl (by decide), neat_ofText rfl (by decide)⟩
  · exact neat_fill [false] rfl (by decide) (by simp [neat_ident update_valid])
  · exact neat.hook (by decide) ⟨neat_ofText rfl (by decide), neat_ofText rfl (by decide), neat_ofText rfl (by decide)⟩
  · exact neat_ofText rfl (by decide)

theorem patchSet_ok : ∃ item, ops.patchSet = .ok item ∧ item.wellFormed = true := by
  obtain ⟨patch, patch_found, patch_valid⟩ :=
    neat.name_ok "default_patch_" "" (by decide) (by simp)
  obtain ⟨name, found, valid⟩ :=
    neat.name_ok "default_patch_set_" "" (by decide) (by simp)
  have masks : (Code.fill "masks : & [$ :: FieldMask] ," [ops.rt]).neat = true :=
    neat_fill [false] rfl (by decide) (by simp [neat.rt])
  refine ⟨_, Except.bind_eq_ok.mpr ⟨patch, patch_found, Except.bind_eq_ok.mpr ⟨name, found, rfl⟩⟩, neat.function valid
    (neat_append (neat_append neat.objectsParameter masks) storeParameters) neat.messageList ?_⟩
  repeat' with_reducible refine neat_append ?_ ?_
  · exact neat.nilCheck (by decide)
  · exact neat_fill [false, false] rfl (by decide) (by simp [neat.rt, neat_ident patch_valid])

theorem delete_ok : ∃ item, ops.delete = .ok item ∧ item.wellFormed = true := by
  obtain ⟨name, found, valid⟩ := neat.name_ok "default_delete_" "" (by decide) (by simp)
  refine ⟨_, Except.bind_eq_ok.mpr ⟨name, found, rfl⟩, neat.function valid
    (neat_append neat.inputParameter storeParameters) (neat_ofText rfl (by decide)) ?_⟩
  repeat' with_reducible refine neat_append ?_ ?_
  · exact neat.nilCheck (by decide)
  · exact neat_ofText rfl (by decide)
  · exact neat.emptyCheck
  · exact neat_fill [false] rfl (by decide) (by simp [neat.byKey])
  · exact neat.hook (by decide) ⟨neat_ofText rfl (by decide), neat_ofText rfl (by decide)⟩
  · exact neat_ofText rfl (by decide)
  · exact neat.hook (by decide) (neat_ofText rfl (by decide))
  · exact neat_ofText rfl (by decide)

theorem deleteSet_ok : ∃ item, ops.deleteSet = .ok item ∧ item.wellFormed = true := by
  obtain ⟨name, found, valid⟩ :=
    neat.name_ok "default_delete_" "_set" (by decide) (by decide)
  refine ⟨_, Except.bind_eq_ok.mpr ⟨name, found, rfl⟩, neat.function valid
    (neat_append neat.objectsParameter storeParameters) (neat_ofText rfl (by decide)) ?_⟩
  repeat' with_reducible refine neat_append ?_ ?_
  · exact neat.nilCheck (by decide)
  · exact neat_fill [false, false, true, false, false, false, false] rfl (by decide)
      (by simp [neat.emptyCheck, neat.rt, neat.keyField, neat.keyField_begins, neat.record])
  · exact neat.hook (by decide) ⟨neat_ofText rfl (by decide), neat_ofText rfl (by decide)⟩
  · exact neat_ofText rfl (by decide)
  · exact neat.hook (by decide) (neat_ofText rfl (by decide))
  · exact neat_ofText rfl (by decide)

theorem list_ok (load_valid : Ident.valid load.text = true) :
    ∃ item, ops.list load = .ok item ∧ item.wellFormed = true := by
  obtain ⟨name, found, valid⟩ := neat.name_ok "default_list_" "" (by decide) (by simp)
  have operators : (Code.fill "operators : & $ :: CollectionOperators ," [ops.rt]).neat = true :=
    neat_fill [false] rfl (by decide) (by simp [neat.rt])
  have row : (ops.respond load "row" "object").neat = true :=
    respond load_valid (by decide) (by decide)
  refine ⟨_, Except.bind_eq_ok.mpr ⟨name, found, rfl⟩, neat.function valid
    (neat_append storeParameters operators) neat.messageList ?_⟩
  repeat' with_reducible refine neat_append ?_ ?_
  · exact neat_fill [false, false] rfl (by decide) (by simp [neat.rt, neat.record])
  · exact neat.hook (by decide) (neat_ofText rfl (by decide))
  · exact neat_ofText rfl (by decide)
  · exact neat.hook (by decide) (neat_ofText rfl (by decide))
  · exact neat_fill [false] rfl (by decide) (by simp)
  · exact neat.hook (by decide) (neat_ofText rfl (by decide))
  · exact neat_fill [false] rfl (by decide) (by simp [row])

/-- The operations of neat pieces are well formed. -/
theorem items_ok : ∃ items, ops.items = .ok items ∧ ∀ item ∈ items, item.wellFormed = true := by
  obtain ⟨load, load_found, load_valid⟩ :=
    neat.name_ok "load_" "_associations" (by decide) (by decide)
  obtain ⟨create, create_made, create_formed⟩ := neat.create_ok load_valid
  obtain ⟨read, read_made, read_formed⟩ := neat.read_ok load_valid
  obtain ⟨strictUpdate, strictUpdate_made, strictUpdate_formed⟩ := neat.strictUpdate_ok load_valid
  obtain ⟨patch, patch_made, patch_formed⟩ := neat.patch_ok
  obtain ⟨patchSet, patchSet_made, patchSet_formed⟩ := neat.patchSet_ok
  obtain ⟨delete, delete_made, delete_formed⟩ := neat.delete_ok
  obtain ⟨deleteSet, deleteSet_made, deleteSet_formed⟩ := neat.deleteSet_ok
  obtain ⟨list, list_made, list_formed⟩ := neat.list_ok load_valid
  refine ⟨[create, read, strictUpdate, patch, patchSet, delete, deleteSet, list] ++ ops.loadFunction load, ?_,
    List.forall_mem_append.mpr ⟨?_, neat.loadFunction load_valid⟩⟩
  · exact Except.bind_eq_ok.mpr ⟨load, load_found, Except.bind_eq_ok.mpr ⟨create, create_made,
      Except.bind_eq_ok.mpr ⟨read, read_made, Except.bind_eq_ok.mpr ⟨strictUpdate, strictUpdate_made,
      Except.bind_eq_ok.mpr ⟨patch, patch_made, Except.bind_eq_ok.mpr ⟨patchSet, patchSet_made,
      Except.bind_eq_ok.mpr ⟨delete, delete_made, Except.bind_eq_ok.mpr ⟨deleteSet, deleteSet_made,
      Except.bind_eq_ok.mpr ⟨list, list_made, rfl⟩⟩⟩⟩⟩⟩⟩⟩⟩
  · simp [create_formed, read_formed, strictUpdate_formed, patch_formed, patchSet_formed, delete_formed,
      deleteSet_formed, list_formed]

end Neat

end Operations

end Emit

/-! ## The operations of a sound scope -/

/-- The keys of an association of a record with a key name fields. -/
theorem Association.Named.linkCode {models : Models} {owner : RecordModel} {association : Association}
    {target : RecordModel} (named : association.Named models owner) (keyed : owner.primaryKey.isSome = true)
    (found : models.record? association.target = some target) :
    ∃ link, Emit.linkCode association target = .ok link ∧ link.Named := by
  unfold Association.Named at named
  unfold Emit.linkCode
  cases link : association.link with
  | embeddedOne foreignKey nullable targetKey =>
    simp only [link] at named
    obtain ⟨ident, found, names⟩ := (named keyed).ofText
    exact ⟨_, Except.bind_eq_ok.mpr ⟨ident, found, rfl⟩, names⟩
  | hasMany foreignKey nullable reused ownerKey =>
    simp only [link] at named
    obtain ⟨key, key_found, names⟩ := named target found
    exact ⟨_, Except.bind_eq_ok.mpr ⟨key, key_found, rfl⟩, names⟩
  | manyToMany join =>
    simp only [link] at named
    obtain ⟨valid, owner, target⟩ := named
    obtain ⟨ownerField, owner_found, owner_names⟩ := owner.ofText
    obtain ⟨targetField, target_found, target_names⟩ := target.ofText
    exact ⟨_, Except.bind_eq_ok.mpr ⟨_, Ident.ofText_of_valid valid, Except.bind_eq_ok.mpr ⟨ownerField, owner_found,
      Except.bind_eq_ok.mpr ⟨targetField, target_found, rfl⟩⟩⟩, valid, owner_names, target_names⟩

namespace Scope.Sound

variable (sound : scope.Sound)
include sound

theorem ofScope_ok {key : PrimaryKey} (keyed : scope.record.primaryKey = some key) :
    ∃ ops, Emit.Operations.ofScope scope key = .ok ops ∧ ops.Neat := by
  have has_key : scope.record.primaryKey.isSome = true := Option.isSome_of_eq_some keyed
  have linked : ∀ entry ∈ scope.associations.filter (·.2.primaryKey.isSome), ∃ linked : Emit.LinkedField,
      (do
        return {
          association := entry.1
          field := ← Naming.fieldIdent entry.1.field
          targetRecord := ← scope.recordPath entry.2
          link := ← Emit.linkCode entry.1 entry.2 : Emit.LinkedField }) = Except.ok (ε := CodeError) linked ∧
        linked.Neat := by
    rintro ⟨association, target⟩ there
    obtain ⟨owned, found, inside⟩ := mem_associations (List.mem_of_mem_filter there)
    obtain ⟨lettered, named⟩ := sound.associations association owned
    obtain ⟨field, field_found, names⟩ := Naming.fieldIdent_ok lettered
    obtain ⟨path, reached, path_neat⟩ := sound.recordPath inside
    obtain ⟨link, link_found, link_named⟩ := named.linkCode has_key found
    exact ⟨⟨association, field, path, link⟩, Except.bind_eq_ok.mpr ⟨field, field_found,
      Except.bind_eq_ok.mpr ⟨path, reached, Except.bind_eq_ok.mpr ⟨link, link_found, rfl⟩⟩⟩, names, path_neat,
      link_named⟩
  obtain ⟨fields, made, each⟩ := List.exists_mapM_ok linked
  obtain ⟨keyField, key_found, key_names⟩ := Naming.fieldIdent_ok (sound.key key keyed)
  obtain ⟨message, message_found, message_valid⟩ := sound.messageIdent
  obtain ⟨record, record_found, record_valid⟩ := sound.recordIdent
  obtain ⟨hooks, hooks_found, hooks_valid⟩ := sound.hooksIdent
  obtain ⟨bound, bound_found, bound_neat⟩ := sound.hooksBound
  refine ⟨_, Except.bind_eq_ok.mpr ⟨fields, made, Except.bind_eq_ok.mpr ⟨keyField, key_found,
    Except.bind_eq_ok.mpr ⟨message, message_found, Except.bind_eq_ok.mpr ⟨record, record_found,
    Except.bind_eq_ok.mpr ⟨hooks, hooks_found, Except.bind_eq_ok.mpr ⟨bound, bound_found, rfl⟩⟩⟩⟩⟩⟩, {
      name := sound.record.name
      columns := fun column there => (sound.columns column there).keyed has_key
      rt := sound.rt
      keyField := Code.neat_name key_names
      keyField_begins := Code.begins_name key_names
      message := neat_ident message_valid
      record := neat_ident record_valid
      hooksTrait := neat_ident hooks_valid
      bound := bound_neat
      linked := fun linked there => ?_ }⟩
  obtain ⟨entry, -, neat⟩ := each.exists_left there
  exact neat

theorem operations_ok : ∃ items, Emit.operations scope = .ok items ∧ ∀ item ∈ items, item.wellFormed = true := by
  unfold Emit.operations
  cases keyed : scope.record.primaryKey with
  | none => exact ⟨[], rfl, by simp⟩
  | some key =>
    obtain ⟨ops, made, neat⟩ := sound.ofScope_ok keyed
    obtain ⟨items, emitted, formed⟩ := neat.items_ok
    exact ⟨items, Except.bind_eq_ok.mpr ⟨ops, made, emitted⟩, formed⟩

end Scope.Sound

end ProtoStore
