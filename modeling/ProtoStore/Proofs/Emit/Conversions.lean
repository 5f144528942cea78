import ProtoStore.Emit.Conversion
import ProtoStore.Emit.FieldMask
import ProtoStore.Proofs.Emit.Records

/-!
# Emitted hooks, conversions and merge functions are well formed

* `Emit.hookCall_neat`, `Emit.conversionItem_wellFormed`, `Emit.mergeBody_neat` : what is made from neat pieces;
* `Emit.MaskEntry.Neat`, `Scope.Sound.maskEntries_ok` : the entries of the fields of a message;
* `Scope.Sound.hooks_ok`, `Scope.Sound.conversion_ok`, `Scope.Sound.fieldMask_ok` : the items of a sound scope.
-/

-- a template is checked as the list of its characters, which may be long
set_option maxRecDepth 4000

namespace ProtoStore

open Code (neat_append neat_fill neat_flatMap neat_ident neat_lettered neat_ofText)
open Text (IsLettered)

variable {scope : Scope} {rt hooksTrait copies : Code} {field source target : Ident} {name : String}

namespace Emit

/-! ## Hooks -/

theorem hookCall_neat {phase : String} {arguments : List Code} (rt_neat : rt.neat = true)
    (trait_neat : hooksTrait.neat = true) (lettered : IsLettered phase.toList)
    (each : ∀ argument ∈ arguments, argument.neat = true) :
    (hookCall rt hooksTrait phase arguments).neat = true := by
  have listed := Code.neat_joined [.atom ","] (by decide) each
  exact neat_fill [false, false, false, false] rfl (by decide)
    (by simp [trait_neat, neat_lettered lettered, listed, rt_neat])

theorem HookTypes.argument_neat {types : HookTypes} (rt_neat : types.rt.neat = true)
    (message_valid : Ident.valid types.message.text = true) (record_valid : Ident.valid types.record.text = true)
    (argument : HookArgument) : (types.argument argument).neat = true := by
  have message := neat_ident message_valid
  have record := neat_ident record_valid
  cases argument with
  | queryMut => exact neat_fill [false, false] rfl (by decide) (by simp [rt_neat, record])
  | mask => exact neat_fill [false] rfl (by decide) (by simp [rt_neat])
  | message | messageMut | messages => exact neat_fill [false] rfl (by decide) (by simp [message])
  | record | recordMut | recordsMut => exact neat_fill [false] rfl (by decide) (by simp [record])

theorem Phase.name_lettered : ∀ phase ∈ Phase.catalog, IsLettered phase.name.toList := by decide

theorem HookTypes.method_neat {types : HookTypes} (rt_neat : types.rt.neat = true)
    (message_valid : Ident.valid types.message.text = true) (record_valid : Ident.valid types.record.text = true)
    {phase : Phase} (listed : phase ∈ Phase.catalog) : (types.method phase).neat = true := by
  refine neat_append (docAttribute_neat _) (neat_fill [false, false, false, false] rfl (by decide) ?_)
  simp only [Code.fits_cons, Code.fits_nil, Code.suits_false, and_true]
  refine ⟨neat_lettered (Phase.name_lettered phase listed), rt_neat, ?_, rt_neat⟩
  refine Code.neat_joined _ (by decide) (List.forall_mem_map.mpr fun parameter _ => ?_)
  have marked : "_" ++ parameter.1 ≠ "." := fun same => by simpa using congrArg (·.toList.head?) same
  exact neat_append (neat_append (a := [_]) (b := [_]) (Code.neat_atom marked) (by decide))
    (argument_neat rt_neat message_valid record_valid parameter.2)

theorem hookTrait_wellFormed {types : HookTypes} {name : Ident} (operations : Bool) (rt_neat : types.rt.neat = true)
    (valid : Ident.valid name.text = true) (message_valid : Ident.valid types.message.text = true)
    (record_valid : Ident.valid types.record.text = true) :
    ∀ item ∈ hookTrait name types operations, item.wellFormed = true := by
  have base : (Code.fill "$ :: NoHooks" [types.rt]).neat = true :=
    neat_fill [false] rfl (by decide) (by simp [rt_neat])
  refine List.forall_mem_cons.mpr ⟨?_, List.forall_mem_singleton.mpr ?_⟩
  · refine Item.wellFormed_interface (docAttribute_neat _) valid (neat_ofText rfl (by decide)) ?_
    exact neat_flatMap fun phase there =>
      HookTypes.method_neat rt_neat message_valid record_valid (List.mem_of_mem_filter there)
  · exact Item.wellFormed_implementation (by simpa using neat_ident valid) base rfl

/-! ## Conversions -/

theorem toRecord_neat (rt_neat : rt.neat = true) (type : ColumnType) (names : Ident.Names field.text) :
    (toRecord rt type field name).neat = true := by
  unfold toRecord
  split
  · exact selfField_neat names _
  · exact neat_fill [true, false, false] rfl (by decide) (by simp [names, rt_neat])
  · exact neat_fill [false, true, false] rfl (by decide) (by simp [names, rt_neat])
  · exact neat_fill [false, true, false] rfl (by decide) (by simp [names, rt_neat])
  · exact neat_fill [true, false] rfl (by decide) (by simp [names, rt_neat])
  · exact neat_fill [false, true] rfl (by decide) (by simp [names, rt_neat])

theorem toMessage_neat (rt_neat : rt.neat = true) (type : ColumnType) (names : Ident.Names field.text) :
    (toMessage rt type field name).neat = true := by
  unfold toMessage
  split
  · exact selfField_neat names _
  · exact neat_fill [true, false] rfl (by decide) (by simp [names, rt_neat])
  · exact neat_fill [true, false] rfl (by decide) (by simp [names, rt_neat])
  · exact neat_fill [false, true, false] rfl (by decide) (by simp [names, rt_neat])
  · exact neat_fill [true, false, false] rfl (by decide) (by simp [names, rt_neat])
  · exact neat_fill [false, true, false] rfl (by decide) (by simp [names, rt_neat])

theorem conversionItem_wellFormed {hooks : Ident} {doc : String} (rt_neat : rt.neat = true)
    (hooks_valid : Ident.valid hooks.text = true) (source_valid : Ident.valid source.text = true)
    (target_valid : Ident.valid target.text = true) (lettered : IsLettered name.toList)
    (copies_neat : copies.neat = true) :
    (conversionItem rt hooks source target doc name copies).wellFormed = true := by
  have hooks_neat := neat_ident hooks_valid
  have target_neat := neat_ident target_valid
  have call_neat (phase : String) (first : IsLettered phase.toList) :
      (conversionItem.call rt hooks name phase).neat = true := by
    refine hookCall_neat rt_neat hooks_neat ?_ (List.forall_mem_cons.mpr ⟨by decide,
      List.forall_mem_singleton.mpr (neat_ofText rfl (by decide))⟩)
    rw [String.toList_append]
    exact first.append lettered.chars
  refine Item.wellFormed_implementation (by simp) (neat_ident source_valid)
    (neat_append (docComment_neat _) ?_)
  exact neat_fill [false, false, false, false, false, false, false, false, false] rfl (by decide)
    (by simp [neat_lettered lettered, hooks_neat, rt_neat, target_neat, copies_neat,
      call_neat "before_" (by decide), call_neat "after_" (by decide)])

/-! ## Merge functions -/

/-- An entry of neat pieces. -/
structure MaskEntry.Neat (entry : MaskEntry) : Prop where
  field : Ident.Names entry.field.text
  merge : ∀ merge, entry.merge = some merge → merge.neat = true

namespace MaskEntry

variable {entry : MaskEntry}

theorem flag_neat (entry : MaskEntry) : entry.flag.neat = true :=
  Code.neat_atom fun same => by simpa using congrArg (·.toList.head?) same

theorem Neat.value (neat : entry.Neat) : entry.value.neat = true := by
  unfold MaskEntry.value
  split <;> exact neat_fill [true] rfl (by decide) (by simp [neat.field])

theorem flagDeclaration_neat (entry : MaskEntry) : entry.flagDeclaration.neat = true := by
  unfold flagDeclaration
  split
  · exact neat_fill [false] rfl (by decide) (by simp [entry.flag_neat])
  · rfl

theorem Neat.nestedStep (neat : entry.Neat) : entry.nestedStep.neat = true := by
  unfold MaskEntry.nestedStep
  split
  · rfl
  · next merge found =>
    exact neat_fill [false, false, false, true, false, true, false, true] rfl (by decide)
      (by simp [entry.flag_neat, neat.field, neat.merge merge found])

theorem Neat.arm (neat : entry.Neat) : entry.arm.neat = true := by
  unfold MaskEntry.arm
  split
  · exact neat_fill [false, false, true, false] rfl (by decide)
      (by simp [entry.flag_neat, neat.field, neat.value])
  · exact neat_fill [false, true, false] rfl (by decide) (by simp [neat.field, neat.value])

end MaskEntry

theorem mergeBody_neat {entries : List MaskEntry} (each : ∀ entry ∈ entries, entry.Neat) :
    (mergeBody entries).neat = true := by
  unfold mergeBody
  split
  · exact neat_ofText rfl (by decide)
  · have loop : (Code.ofText (if entries.any (·.merge.isSome) then "for (i , path) in paths . iter () . enumerate ()"
        else "for path in paths")).neat = true := by
      split <;> exact neat_ofText rfl (by decide)
    have flags : Code.neat (entries.flatMap (·.flagDeclaration)) = true :=
      neat_flatMap fun entry _ => entry.flagDeclaration_neat
    have steps : Code.neat (entries.flatMap (·.nestedStep)) = true :=
      neat_flatMap fun entry there => (each entry there).nestedStep
    have arms : Code.neat (entries.flatMap (·.arm)) = true :=
      neat_flatMap fun entry there => (each entry there).arm
    exact neat_fill [false, false, false, false] rfl (by decide)
      (by simp only [Code.fits_cons, Code.fits_nil, Code.suits_false, loop, flags, steps, arms, and_true])

end Emit

/-! ## The items of a sound scope -/

namespace Scope.Sound

open Emit

variable (sound : scope.Sound)
include sound

theorem hooks_ok : ∃ items, Emit.hooks scope = .ok items ∧ ∀ item ∈ items, item.wellFormed = true := by
  obtain ⟨name, name_found, valid⟩ := sound.hooksIdent
  obtain ⟨message, message_found, message_valid⟩ := sound.messageIdent
  obtain ⟨record, record_found, record_valid⟩ := sound.recordIdent
  exact ⟨_, Except.bind_eq_ok.mpr ⟨name, name_found, Except.bind_eq_ok.mpr ⟨message, message_found,
    Except.bind_eq_ok.mpr ⟨record, record_found, rfl⟩⟩⟩,
    hookTrait_wellFormed _ sound.rt valid message_valid record_valid⟩

theorem conversion_ok : ∃ items, Emit.conversion scope = .ok items ∧ ∀ item ∈ items, item.wellFormed = true := by
  obtain ⟨message, message_found, message_valid⟩ := sound.messageIdent
  obtain ⟨record, record_found, record_valid⟩ := sound.recordIdent
  obtain ⟨hooks, hooks_found, hooks_valid⟩ := sound.hooksIdent
  have copied : ∀ column ∈ scope.record.fields.filterMap fun field => field.schemaField?.map fun name => (field, name),
      ∃ copy : ColumnType × Ident × Ident × String,
        (do return (column.1.type, ← column.1.ident, ← Naming.fieldIdent column.2, column.2)) =
          Except.ok (ε := CodeError) copy ∧ Ident.Names copy.2.1.text ∧ Ident.Names copy.2.2.1.text := by
    intro column there
    obtain ⟨field, inside, stored⟩ := List.mem_filterMap.mp there
    obtain ⟨name, named, rfl⟩ := Option.map_eq_some_iff.mp stored
    obtain ⟨lettered, column_names⟩ := (sound.columns field inside).copied name named
    obtain ⟨own, own_found, own_names⟩ := column_names.ofText
    obtain ⟨ident, found, names⟩ := Naming.fieldIdent_ok lettered
    exact ⟨(field.type, own, ident, name), Except.bind_eq_ok.mpr ⟨own, own_found,
      Except.bind_eq_ok.mpr ⟨ident, found, rfl⟩⟩, own_names, names⟩
  obtain ⟨copies, made, each⟩ := List.exists_mapM_ok copied
  have assign {column : Ident} {value : Code} (names : Ident.Names column.text) (neat : value.neat = true) :
      (Code.fill "to . $ = $ ;" [column.code, value]).neat = true :=
    neat_fill [true, false] rfl (by decide) (by simp [names, neat])
  refine ⟨_, Except.bind_eq_ok.mpr ⟨message, message_found, Except.bind_eq_ok.mpr ⟨record, record_found,
    Except.bind_eq_ok.mpr ⟨hooks, hooks_found, Except.bind_eq_ok.mpr ⟨copies, made, rfl⟩⟩⟩⟩,
    List.forall_mem_cons.mpr ⟨?_, List.forall_mem_singleton.mpr ?_⟩⟩
  · refine conversionItem_wellFormed sound.rt hooks_valid message_valid record_valid (by decide)
      (neat_flatMap fun copy there => ?_)
    obtain ⟨column, -, own_names, names⟩ := each.exists_left there
    exact assign own_names (toRecord_neat sound.rt copy.1 names)
  · refine conversionItem_wellFormed sound.rt hooks_valid record_valid message_valid (by decide)
      (neat_flatMap fun copy there => ?_)
    obtain ⟨column, -, own_names, names⟩ := each.exists_left there
    exact assign own_names (toMessage_neat sound.rt copy.1 names)

theorem nestedMerge_ok (field : Field) :
    ∃ merge, nestedMerge scope field = .ok merge ∧ ∀ code, merge = some code → code.neat = true := by
  unfold nestedMerge
  split
  · next target found =>
    obtain ⟨name, -, found⟩ := Option.bind_eq_some_iff.mp found
    obtain ⟨path, reached, neat⟩ := sound.functionPath "default_apply_field_mask_" ""
      (List.mem_of_find?_eq_some found) (by decide) (by simp)
    exact ⟨some path, Except.bind_eq_ok.mpr ⟨path, reached, rfl⟩, by simpa using neat⟩
  · exact ⟨none, rfl, by simp⟩

/-- The entries of lettered fields are neat. -/
theorem maskEntries_ok {entries : List MaskEntry} {fields : List Field} (each : ∀ entry ∈ entries, entry.Neat)
    (lettered : ∀ field ∈ fields, IsLettered field.name.toList ∧
      ∀ oneof, field.oneof = some oneof → IsLettered oneof.toList) :
    ∃ found, maskEntries scope entries fields = .ok found ∧ ∀ entry ∈ found, entry.Neat := by
  induction fields generalizing entries with
  | nil => exact ⟨entries, rfl, each⟩
  | cons field fields ih =>
    obtain ⟨⟨field_lettered, oneof_lettered⟩, lettered⟩ := List.forall_mem_cons.mp lettered
    unfold maskEntries
    dsimp only
    cases member : field.oneof with
    | none =>
      obtain ⟨ident, found, names⟩ := Naming.fieldIdent_ok field_lettered
      obtain ⟨merge, merged, neat⟩ := sound.nestedMerge_ok field
      have entry_neat : MaskEntry.Neat
          ⟨Config.segment scope.config.maskCase field.name, ident, field.valueIsCopy, merge⟩ := ⟨names, neat⟩
      obtain ⟨all, rest, all_neat⟩ := ih (List.forall_mem_append.mpr
        ⟨each, List.forall_mem_singleton.mpr entry_neat⟩) lettered
      exact ⟨all, Except.bind_eq_ok.mpr ⟨ident, found, Except.bind_eq_ok.mpr ⟨merge, merged, rest⟩⟩, all_neat⟩
    | some oneof =>
      dsimp only
      split
      · obtain ⟨ident, found, names⟩ := Naming.fieldIdent_ok (oneof_lettered oneof member)
        have entry_neat : MaskEntry.Neat ⟨Config.segment scope.config.maskCase oneof, ident, false, none⟩ :=
          ⟨names, by simp⟩
        obtain ⟨all, rest, all_neat⟩ := ih (List.forall_mem_append.mpr
          ⟨each, List.forall_mem_singleton.mpr entry_neat⟩) lettered
        exact ⟨all, Except.bind_eq_ok.mpr ⟨ident, found, rest⟩, all_neat⟩
      · exact ih each lettered

theorem fieldMask_ok : ∃ items, Emit.fieldMask scope = .ok items ∧ ∀ item ∈ items, item.wellFormed = true := by
  obtain ⟨message, message_found, message_valid⟩ := sound.messageIdent
  obtain ⟨name, name_found, valid⟩ := Naming.functionIdent_ok "default_apply_field_mask_" "" sound.message
    (by decide) (by simp)
  obtain ⟨entries, found, each⟩ := sound.maskEntries_ok (List.forall_mem_nil _) sound.fields
  refine ⟨_, Except.bind_eq_ok.mpr ⟨message, message_found, Except.bind_eq_ok.mpr ⟨name, name_found,
    Except.bind_eq_ok.mpr ⟨entries, found, rfl⟩⟩⟩, List.forall_mem_singleton.mpr ?_⟩
  have signature := neat_ident message_valid
  exact Item.wellFormed_function (docComment_neat _) valid
    (neat_fill [false, false] rfl (by decide) (by simp [signature])) (mergeBody_neat each)

end Scope.Sound

end ProtoStore
