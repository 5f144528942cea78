import ProtoStore.Emit.Record
import ProtoStore.Proofs.Emit.Scope

/-!
# Emitted records are well formed

* `Emit.Binding.item_wellFormed` : the binding of a record is well formed if its pieces are neat;
* `Emit.joinItems_ok`, `Emit.bindingItem_ok` : the items of join records, the binding of a record;
* `Scope.Sound.record_ok` : the items of the record of a sound scope.
-/

-- a template is checked as the list of its characters, which may be long
set_option maxRecDepth 4000

namespace ProtoStore

open Code (neat_append neat_fill neat_flatMap neat_ident neat_lettered neat_ofText)
open Text (IsLettered)

variable {scope : Scope} {rt value : Code} {ident : Ident} {record : RecordModel}

namespace Emit

theorem selfField_neat (names : Ident.Names ident.text) (isCopy : Bool) : (selfField ident isCopy).neat = true := by
  cases isCopy <;> exact neat_fill [true] rfl (by decide) (by simp [names])

theorem recordAttributes_neat (doc : String) : (recordAttributes doc).neat = true :=
  neat_append (docAttribute_neat doc) (neat_ofText rfl (by decide))

theorem readArm_neat (column : String) (rt_neat : rt.neat = true) (value_neat : value.neat = true) :
    (readArm rt column value).neat = true :=
  neat_fill [false, false, false] rfl (by decide) (by simp [rt_neat, value_neat])

theorem resetArm_neat (column : String) (names : Ident.Names ident.text) : (resetArm column ident).neat = true :=
  neat_fill [false, true] rfl (by decide) (by simp [names])

/-- A binding is well formed if its pieces are neat. -/
theorem Binding.item_wellFormed {table keyColumn : String} {columns : List String}
    {keyType key setKey readArms resetArms : Code} {isEmpty : Option Code} (rt_neat : rt.neat = true)
    (valid : Ident.valid ident.text = true) (keyType_neat : keyType.neat = true) (key_neat : key.neat = true)
    (setKey_neat : setKey.neat = true) (readArms_neat : readArms.neat = true)
    (resetArms_neat : resetArms.neat = true) (isEmpty_neat : ∀ test, isEmpty = some test → test.neat = true) :
    (Binding.item rt ident
      ⟨keyType, table, keyColumn, columns, key, setKey, readArms, resetArms, isEmpty⟩).wellFormed = true := by
  have base : (Code.fill "$ :: Record" [rt]).neat = true :=
    neat_fill [false] rfl (by decide) (by simp [rt_neat])
  have listed : (Code.joined [.atom ","] (columns.map Code.literal)).neat = true :=
    Code.neat_joined _ (by decide) (List.forall_mem_map.mpr fun column _ => Code.neat_literal column)
  refine Item.wellFormed_implementation (by simpa using base) (neat_ident valid) (neat_append ?_ ?_)
  · exact neat_fill [false, false, false, false, false, false, false, false, false] rfl (by decide)
      (by simp [keyType_neat, listed, key_neat, setKey_neat, rt_neat, readArms_neat, resetArms_neat])
  · cases isEmpty with
    | none => rfl
    | some test => exact neat_fill [false] rfl (by decide) (by simp [isEmpty_neat test rfl])

theorem joinItems_ok {owner : RecordModel} {join : Join} (rt_neat : rt.neat = true)
    (valid : Ident.valid join.name = true) (owner_names : Ident.Names join.ownerColumn)
    (target_names : Ident.Names join.targetColumn) :
    ∃ items, joinItems rt owner join = .ok items ∧ ∀ item ∈ items, item.wellFormed = true := by
  obtain ⟨ownerField, owner_found, owner_named⟩ := owner_names.ofText
  obtain ⟨targetField, target_found, target_named⟩ := target_names.ofText
  have owner_type := join.ownerKey.keyType.code_neat rt_neat
  have target_type := join.targetKey.keyType.code_neat rt_neat
  have owner_value := selfField_neat owner_named (join.ownerKey != .string)
  have target_value := selfField_neat target_named (join.targetKey != .string)
  refine ⟨_, Except.bind_eq_ok.mpr ⟨_, Ident.ofText_of_valid valid, Except.bind_eq_ok.mpr ⟨_, owner_found,
    Except.bind_eq_ok.mpr ⟨_, target_found, rfl⟩⟩⟩, List.forall_mem_cons.mpr ⟨?_, List.forall_mem_singleton.mpr ?_⟩⟩
  · exact Item.wellFormed_record (recordAttributes_neat _) valid
      (List.forall_mem_cons.mpr ⟨⟨owner_named.declares, owner_type⟩,
        List.forall_mem_singleton.mpr ⟨target_named.declares, target_type⟩⟩)
  · refine Binding.item_wellFormed rt_neat valid ?_ ?_ ?_ ?_ ?_ (by simp)
    · exact neat_fill [false, false] rfl (by decide) (by simp [owner_type, target_type])
    · exact neat_fill [false, false] rfl (by decide) (by simp [owner_value, target_value])
    · exact neat_fill [true, true] rfl (by decide) (by simp [owner_named, target_named])
    · exact neat_append (readArm_neat _ rt_neat owner_value) (readArm_neat _ rt_neat target_value)
    · exact neat_append (resetArm_neat _ owner_named) (resetArm_neat _ target_named)

theorem bindingItem_ok (record : RecordModel) {name : Ident} {fields : List (RecordField × Ident)}
    (rt_neat : rt.neat = true) (valid : Ident.valid name.text = true)
    (each : record.primaryKey.isSome = true → ∀ field ∈ fields, Ident.Names field.2.text)
    (lettered : ∀ key, record.primaryKey = some key → IsLettered key.field.toList) :
    ∃ item, bindingItem rt record name fields = .ok item ∧ item.wellFormed = true := by
  unfold bindingItem
  cases found : record.primaryKey with
  | none =>
    refine ⟨_, rfl, Item.wellFormed_implementation (by simp) (neat_ident valid) (neat_append ?_ ?_)⟩
    · exact docComment_neat _
    · exact neat_fill [false] rfl (by decide) (by simp)
  | some key =>
    have each := each (Option.isSome_of_eq_some found)
    obtain ⟨ident, named, names⟩ := Naming.fieldIdent_ok (lettered key found)
    have value : (Code.fill "self . $" [ident.code]).neat = true :=
      neat_fill [true] rfl (by decide) (by simp [names])
    refine ⟨_, Except.bind_eq_ok.mpr ⟨_, Except.bind_eq_ok.mpr ⟨ident, named, rfl⟩, rfl⟩,
      Binding.item_wellFormed rt_neat valid (key.kind.keyType.code_neat rt_neat) (selfField_neat names _) ?_ ?_ ?_ ?_⟩
    · exact neat_fill [true] rfl (by decide) (by simp [names])
    · exact neat_flatMap fun field there => readArm_neat _ rt_neat (selfField_neat (each field there) _)
    · exact neat_flatMap fun field there => resetArm_neat _ (each field there)
    · simpa using key.kind.emptiness.test_neat value

end Emit

open Emit

/-- The items of the record of a sound scope. -/
theorem Scope.Sound.record_ok (sound : scope.Sound) :
    ∃ items, Emit.record scope = .ok items ∧ ∀ item ∈ items, item.wellFormed = true := by
  obtain ⟨name, found, valid⟩ := sound.recordIdent
  have rt_neat := sound.rt
  have columns : ∀ column ∈ scope.record.fields, ∃ pair : RecordField × Ident,
      (do return (column, ← column.ident)) = Except.ok (ε := CodeError) pair ∧ Ident.Declares pair.2.text ∧
        (scope.record.primaryKey.isSome = true → Ident.Names pair.2.text) := by
    intro column there
    have named := sound.columns column there
    exact ⟨(column, _), Except.bind_eq_ok.mpr ⟨_, Ident.ofText_of_valid named.declares.valid, rfl⟩, named.declares,
      named.keyed⟩
  obtain ⟨fields, named, each⟩ := List.exists_mapM_ok columns
  obtain ⟨binding, bound, binding_formed⟩ := bindingItem_ok scope.record rt_neat valid (fun keyed field there => by
    obtain ⟨column, -, -, names⟩ := each.exists_left there
    exact names keyed) sound.key
  have joins : ∀ join ∈ scope.record.joins,
      ∃ items, joinItems scope.rt scope.record join = .ok items ∧ ∀ item ∈ items, item.wellFormed = true := by
    intro join there
    obtain ⟨association, owned, link⟩ := List.mem_filterMap.mp there
    have association_named := (sound.associations association owned).2
    unfold Association.Named at association_named
    split at link
    · next join' linked =>
      cases link
      simp only [linked] at association_named
      exact joinItems_ok rt_neat association_named.1 association_named.2.1 association_named.2.2
    · cases link
  obtain ⟨joined, made, joins_formed⟩ := List.exists_mapM_ok joins
  refine ⟨_, Except.bind_eq_ok.mpr ⟨name, found, Except.bind_eq_ok.mpr ⟨fields, named,
    Except.bind_eq_ok.mpr ⟨binding, bound, Except.bind_eq_ok.mpr ⟨joined, made, rfl⟩⟩⟩⟩, ?_⟩
  refine List.forall_mem_append.mpr
    ⟨List.forall_mem_cons.mpr ⟨?_, List.forall_mem_singleton.mpr binding_formed⟩, fun item there => ?_⟩
  · refine Item.wellFormed_record (recordAttributes_neat _) valid (List.forall_mem_map.mpr fun field there => ?_)
    obtain ⟨column, -, declares, -⟩ := each.exists_left there
    exact ⟨declares, field.1.type.code_neat rt_neat⟩
  · obtain ⟨items, listed, inside⟩ := List.mem_flatten.mp there
    obtain ⟨join, -, formed⟩ := joins_formed.exists_left listed
    exact formed item inside

end ProtoStore
