import ProtoStore.Emit.Operations
import ProtoStore.Proofs.Emit.Items
import ProtoStore.Proofs.Schema.ModulePaths

/-!
# Sound scopes

What a scope has to hold so that the items of its message can be emitted: every name is lettered, every text that is
to become a field can declare one, and every text by which a field is selected names something.

* `Naming.pathTo_ok` : a name can be reached from another package if the names of packages are lettered;
* `RecordField.Named`, `Association.Named` : columns, and the keys of an association, name fields where they have to;
* `Scope.Sound`, and the names that a sound scope has;
* `Scope.Sound.hooksBound` : the bound on the hooks of its operations.
-/

namespace ProtoStore

open Code (neat_append neat_fill neat_flatMap neat_ident neat_lettered neat_ofText)
open Text (IsLettered)

variable {scope : Scope} {source target : String} {ident : Ident}

/-! ## Paths between packages -/

namespace Naming

theorem modulePath_ok (source : String) (lettered : ∀ segment ∈ packageSegments target, IsLettered segment.toList) :
    ∃ path, modulePath source target = .ok path ∧ path.neat = true := by
  obtain ⟨shared, -, down⟩ := exists_shared (packageSegments source) (packageSegments target)
  obtain ⟨⟨ups, downs⟩, parts⟩ : ∃ parts, dropShared (packageSegments source) (packageSegments target) = parts := ⟨_, rfl⟩
  rw [parts] at down
  obtain ⟨idents, named, each⟩ := List.exists_mapM_ok fun segment there =>
    fieldIdent_ok (lettered segment (down ▸ List.mem_append_right shared there))
  refine ⟨_, modulePath_eq parts named, neat_append ?_ ?_⟩
  · exact neat_flatMap fun _ _ => by decide
  · refine neat_flatMap fun step there => ?_
    obtain ⟨segment, -, names⟩ := each.exists_left there
    exact neat_append (neat_ident names.valid) (by decide)

theorem pathTo_ok (lettered : ∀ segment ∈ packageSegments target, IsLettered segment.toList)
    (valid : Ident.valid ident.text = true) : ∃ path, pathTo source target ident = .ok path ∧ path.neat = true := by
  obtain ⟨path, found, neat⟩ := modulePath_ok source lettered
  exact ⟨path ++ ident.code, by simp only [pathTo, found]; rfl, neat_append neat (neat_ident valid)⟩

end Naming

/-! ## What a scope has to hold -/

/-- The name and the package of a record are lettered. -/
structure RecordModel.Lettered (record : RecordModel) : Prop where
  name : IsLettered record.name.toList
  package : ∀ segment ∈ Naming.packageSegments record.package, IsLettered segment.toList

/-- A column can be declared, and it names a field where it is selected: in the binding and the operations of a record
with a key, and where it is copied from a field of the message and back. -/
structure RecordField.Named (record : RecordModel) (column : RecordField) : Prop where
  declares : Ident.Declares column.name
  keyed : record.primaryKey.isSome = true → Ident.Names column.name
  copied : ∀ name, column.schemaField? = some name → IsLettered name.toList ∧ Ident.Names column.name

/-- The keys of an association name fields where code selects them, and its join record is an identifier. No code
selects the key of an owner that has no key of its own. -/
def Association.Named (models : Models) (owner : RecordModel) (association : Association) : Prop :=
  match association.link with
  | .embeddedOne foreignKey _ _ => owner.primaryKey.isSome = true → Ident.Names foreignKey
  | .hasMany foreignKey _ _ _ => ∀ child, models.record? association.target = some child →
    ∃ found, Emit.childKey child foreignKey = .ok found ∧ Ident.Names found.1.text
  | .manyToMany join => Ident.valid join.name = true ∧ Ident.Names join.ownerColumn ∧ Ident.Names join.targetColumn

/-- A scope whose message can be emitted. -/
structure Scope.Sound (scope : Scope) : Prop where
  rt : scope.rt.neat = true
  message : IsLettered scope.message.name.toList
  fields : ∀ field ∈ scope.message.fields, IsLettered field.name.toList ∧
    ∀ oneof, field.oneof = some oneof → IsLettered oneof.toList
  record : scope.record.Lettered
  records : ∀ target ∈ scope.models.records, target.Lettered
  columns : ∀ column ∈ scope.record.fields, column.Named scope.record
  key : ∀ key, scope.record.primaryKey = some key → IsLettered key.field.toList
  associations : ∀ association ∈ scope.record.associations,
    IsLettered association.field.toList ∧ association.Named scope.models scope.record

namespace Scope

theorem mem_associations {association : Association} {target : RecordModel}
    (h : (association, target) ∈ scope.associations) : association ∈ scope.record.associations ∧
      scope.models.record? association.target = some target ∧ target ∈ scope.models.records := by
  obtain ⟨own, there, found⟩ := List.mem_filterMap.mp h
  obtain ⟨record, found, same⟩ := Option.map_eq_some_iff.mp found
  cases same
  exact ⟨there, found, List.mem_of_find?_eq_some found⟩

theorem mem_others {seen : List String} {associations : List (Association × RecordModel)} {target : RecordModel}
    (h : target ∈ others seen associations) : ∃ association, (association, target) ∈ associations := by
  fun_induction others seen associations with
  | case1 => cases h
  | case2 seen association other rest _ ih =>
    obtain ⟨association, there⟩ := ih h
    exact ⟨association, List.mem_cons_of_mem _ there⟩
  | case3 seen association other rest _ ih =>
    rcases List.mem_cons.mp h with rfl | h
    · exact ⟨association, List.mem_cons_self⟩
    · obtain ⟨association, there⟩ := ih h
      exact ⟨association, List.mem_cons_of_mem _ there⟩

namespace Sound

variable {target : RecordModel} (sound : scope.Sound)
include sound

theorem messageIdent : ∃ ident, scope.messageIdent = .ok ident ∧ Ident.valid ident.text = true :=
  Naming.typeIdent_ok sound.message

theorem recordIdent : ∃ ident, scope.recordIdent = .ok ident ∧ Ident.valid ident.text = true := by
  unfold Scope.recordIdent RecordModel.ident
  exact Naming.recordIdent_ok sound.record.name

theorem hooksIdent : ∃ ident, scope.hooksIdent = .ok ident ∧ Ident.valid ident.text = true :=
  Naming.hooksIdent_ok sound.message

theorem recordPath (there : target ∈ scope.models.records) :
    ∃ path, scope.recordPath target = .ok path ∧ path.neat = true := by
  obtain ⟨ident, found, valid⟩ := Naming.recordIdent_ok (sound.records target there).name
  obtain ⟨path, reached, neat⟩ := Naming.pathTo_ok (sound.records target there).package valid
  exact ⟨path, Except.bind_eq_ok.mpr ⟨ident, found, reached⟩, neat⟩

theorem hooksPath (there : target ∈ scope.models.records) :
    ∃ path, scope.hooksPath target = .ok path ∧ path.neat = true := by
  obtain ⟨ident, found, valid⟩ := Naming.hooksIdent_ok (sound.records target there).name
  obtain ⟨path, reached, neat⟩ := Naming.pathTo_ok (sound.records target there).package valid
  exact ⟨path, Except.bind_eq_ok.mpr ⟨ident, found, reached⟩, neat⟩

theorem functionPath (before after : String) (there : target ∈ scope.models.records)
    (first : IsLettered before.toList) (chars : after.toList.all Text.isNameChar = true) :
    ∃ path, scope.functionPath target before after = .ok path ∧ path.neat = true := by
  obtain ⟨ident, found, valid⟩ := Naming.functionIdent_ok before after (sound.records target there).name first chars
  obtain ⟨path, reached, neat⟩ := Naming.pathTo_ok (sound.records target there).package valid
  exact ⟨path, Except.bind_eq_ok.mpr ⟨ident, found, reached⟩, neat⟩

theorem hooksBound : ∃ bound, scope.hooksBound = .ok bound ∧ bound.neat = true := by
  obtain ⟨own, found, valid⟩ := sound.hooksIdent
  have reach : ∀ target ∈ others [scope.record.message] scope.associations,
      ∃ path, scope.hooksPath target = .ok path ∧ path.neat = true := fun target there => by
    obtain ⟨association, listed⟩ := mem_others there
    exact sound.hooksPath (mem_associations listed).2.2
  obtain ⟨paths, reached, each⟩ := List.exists_mapM_ok reach
  refine ⟨_, Except.bind_eq_ok.mpr ⟨own, found, Except.bind_eq_ok.mpr ⟨paths, reached, rfl⟩⟩, ?_⟩
  refine neat_append (Code.neat_joined _ (by decide) ?_) (neat_ofText rfl (by decide))
  refine List.forall_mem_cons.mpr ⟨neat_ident valid, fun path there => ?_⟩
  obtain ⟨target, -, neat⟩ := each.exists_left there
  exact neat

end Sound

end Scope

end ProtoStore
