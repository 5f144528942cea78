import ProtoStore.Emit.File
import ProtoStore.Proofs.Emit.Operations
import ProtoStore.Proofs.Schema.KeyColumns

/-!
# What well-formed items require

A message whose items can be emitted, all of them well formed, has keys that name fields.

* `Emit.record_names` : the columns of its record, which its struct declares and its binding selects, and those of its
  join records;
* `Emit.create_selects` : the foreign keys of its children, which its operations select.
-/

-- a template is checked as the list of its characters, which may be long
set_option maxRecDepth 4000

namespace ProtoStore

open Code (Any fits_nil fits_cons selectsFields_append selectsFields_flatMap selects_of_fill)

variable {scope : Scope} {items : List Item} {text : String} {ident : Ident}

/-- An identifier that was read and can declare a field. -/
theorem Ident.declares_of_declared (found : Ident.ofText text = .ok ident) (declared : ident.declaresField = true) :
    Ident.Declares text := by
  obtain ⟨valid, rfl⟩ := Ident.ofText_ok found
  exact ⟨valid, by simpa [Ident.declaresField] using declared⟩

/-- An identifier that was read and can be selected. No keyword is among the words that name nothing. -/
theorem Ident.names_of_selectable (found : Ident.ofText text = .ok ident)
    (selectable : Code.selectable (.atom ident.spelling) = true) : Ident.Names text := by
  obtain ⟨valid, rfl⟩ := Ident.ofText_ok found
  refine ⟨valid, ?_⟩
  rcases Ident.selectable_iff.mp selectable with keyword | free
  · have apart : ∀ word ∈ Ident.keywords, word ∉ Ident.unnaming := by decide
    exact apart text (by simpa using keyword)
  · exact free

namespace Emit

/-! ## What bindings select -/

/-- A binding selects the columns that it resets. -/
theorem Binding.resetArms_select {rt : Code} {name : Ident} {binding : Binding}
    (formed : (binding.item rt name).wellFormed = true) : Code.selectsFields binding.resetArms = true := by
  have item := selects_of_fill [false, false, false] rfl (by decide) (by simp [Any]) (Item.selects_of_wellFormed formed)
  simp only [fits_cons, fits_nil, and_true] at item
  have body := (selectsFields_append item.2.2.1).1
  have pieces := selects_of_fill [false, false, false, false, false, false, false, false, false] rfl (by decide)
    (by simp [Any]) body
  simp only [fits_cons, fits_nil, and_true] at pieces
  obtain ⟨-, -, -, -, -, -, -, -, resets⟩ := pieces
  exact resets.1

theorem resetArm_selects {column : String} (h : Code.selectsFields (resetArm column ident) = true) :
    Code.selectable (.atom ident.spelling) = true := by
  have pieces := selects_of_fill [false, true] rfl (by decide) (by simp [Any]) h
  simp only [fits_cons, fits_nil, and_true] at pieces
  exact pieces.2.2 rfl

theorem joinItems_names {rt : Code} {owner : RecordModel} {join : Join} (h : joinItems rt owner join = .ok items)
    (formed : ∀ item ∈ items, item.wellFormed = true) :
    Ident.Names join.ownerColumn ∧ Ident.Names join.targetColumn := by
  unfold joinItems at h
  obtain ⟨name, -, h⟩ := Except.bind_eq_ok.mp h
  obtain ⟨ownerField, owner_found, h⟩ := Except.bind_eq_ok.mp h
  obtain ⟨targetField, target_found, h⟩ := Except.bind_eq_ok.mp h
  cases h
  have resets := selectsFields_append
    (Binding.resetArms_select (formed _ (List.mem_cons_of_mem _ List.mem_cons_self)))
  exact ⟨Ident.names_of_selectable owner_found (resetArm_selects resets.1),
    Ident.names_of_selectable target_found (resetArm_selects resets.2)⟩

/-- A record with a key has each of its columns reset. -/
theorem bindingItem_selects {rt : Code} {record : RecordModel} {name : Ident} {fields : List (RecordField × Ident)}
    {item : Item} (h : bindingItem rt record name fields = .ok item) (formed : item.wellFormed = true)
    (keyed : record.primaryKey.isSome = true) :
    ∀ field ∈ fields, Code.selectable (.atom field.2.spelling) = true := by
  obtain ⟨key, has_key⟩ := Option.isSome_iff_exists.mp keyed
  unfold bindingItem at h
  rw [has_key] at h
  obtain ⟨binding, bound, h⟩ := Except.bind_eq_ok.mp h
  obtain ⟨keyField, -, bound⟩ := Except.bind_eq_ok.mp bound
  cases bound
  cases h
  exact fun field there =>
    resetArm_selects (selectsFields_flatMap (Binding.resetArms_select formed) field there)

/-- The columns of a record can be declared. Those of one with a key name fields, and so do the columns of its join
records. -/
theorem record_names (h : Emit.record scope = .ok items) (formed : ∀ item ∈ items, item.wellFormed = true) :
    (∀ column ∈ scope.record.fields, Ident.Declares column.name ∧
      (scope.record.primaryKey.isSome = true → Ident.Names column.name)) ∧
      ∀ join ∈ scope.record.joins, Ident.Names join.ownerColumn ∧ Ident.Names join.targetColumn := by
  unfold Emit.record at h
  obtain ⟨name, -, h⟩ := Except.bind_eq_ok.mp h
  obtain ⟨fields, named, h⟩ := Except.bind_eq_ok.mp h
  obtain ⟨binding, bound, h⟩ := Except.bind_eq_ok.mp h
  obtain ⟨joins, joined, h⟩ := Except.bind_eq_ok.mp h
  cases h
  constructor
  · intro column there
    have declared := Item.declared_of_wellFormed (formed _ List.mem_cons_self)
    obtain ⟨pair, listed, made⟩ := (List.mapM_ok named).exists_right there
    obtain ⟨ident, found, made⟩ := Except.bind_eq_ok.mp made
    cases made
    refine ⟨Ident.declares_of_declared found (declared _ (List.mem_map_of_mem listed)), fun keyed => ?_⟩
    have binding_formed := formed binding (List.mem_cons_of_mem _ List.mem_cons_self)
    exact Ident.names_of_selectable found (bindingItem_selects bound binding_formed keyed _ listed)
  · intro join there
    obtain ⟨made, listed, join_made⟩ := (List.mapM_ok joined).exists_right there
    refine joinItems_names join_made fun item inside => formed item ?_
    exact List.mem_append_right _ (List.mem_flatten.mpr ⟨made, listed, inside⟩)

/-! ## What operations select -/

namespace Operations

variable {ops : Operations} {load : Ident} {item : Item}

/-- The foreign keys of children can be selected where the collections are saved. -/
theorem saveCollections_selects (h : Code.selectsFields ops.saveCollections = true) {linked : LinkedField}
    (there : linked ∈ ops.linked) {foreignKey : Ident} {column : String} {wraps : Bool}
    (link : linked.link = .children foreignKey column wraps) :
    Code.selectable (.atom foreignKey.spelling) = true := by
  have collections : ops.hasCollections = true :=
    List.any_eq_true.mpr ⟨linked, there, by simp [LinkedField.isReference, link]⟩
  unfold saveCollections at h
  dsimp only at h
  rw [if_neg (by simp [collections])] at h
  generalize Code.ofText (if ops.key.kind == .string then "parent_key . clone ()" else "parent_key") = parentKey at h
  -- the statements that save the collections, and the one of this association
  have all := selects_of_fill [false, false] rfl (by decide) (by simp [Any]) h
  simp only [fits_cons, fits_nil, and_true] at all
  have step := selectsFields_flatMap all.2.1 linked there
  rw [link] at step
  have pieces := selects_of_fill [false, false, false, false, true, false] rfl (by decide) (by simp [Any]) step
  simp only [fits_cons, fits_nil, and_true] at pieces
  obtain ⟨-, -, -, -, key, -⟩ := pieces
  exact key.2 rfl

/-- An operation selects only what can be selected where its body does. -/
theorem body_selects {doc : List String} {name : Ident} {parameters result body : Code}
    (h : (ops.function doc name parameters result body).wellFormed = true) : body.selectsFields = true := by
  have whole := (selectsFields_append (Item.selects_of_wellFormed h)).2
  have pieces := selects_of_fill [false, false, false] rfl (by decide) (by simp [Any]) whole
  simp only [fits_cons, fits_nil, and_true] at pieces
  exact pieces.2.2.1

/-- Where a message can be created, the foreign keys of its children can be selected. -/
theorem create_selects (made : ops.create load = .ok item) (formed : item.wellFormed = true) :
    Code.selectsFields ops.saveCollections = true := by
  obtain ⟨name, -, made⟩ := Except.bind_eq_ok.mp made
  cases made
  have body := body_selects formed
  -- the collections are saved before the hook, the answer and the result
  exact (selectsFields_append (selectsFields_append (selectsFields_append (selectsFields_append body).1).1).1).2

end Operations

/-- The foreign keys of the children of a message with a key name fields. -/
theorem operations_names (h : Emit.operations scope = .ok items) (formed : ∀ item ∈ items, item.wellFormed = true)
    (keyed : scope.record.primaryKey.isSome = true) {association : Association} {target : RecordModel}
    (there : (association, target) ∈ scope.associations) (target_keyed : target.primaryKey.isSome = true)
    {foreignKey : String} {nullable reused : Bool} {ownerKey : KeyKind}
    (link : association.link = .hasMany foreignKey nullable reused ownerKey) {column : RecordField}
    (stored : target.childKey? foreignKey = some column) : Ident.Names column.name := by
  unfold Emit.operations at h
  obtain ⟨key, has_key⟩ := Option.isSome_iff_exists.mp keyed
  rw [has_key] at h
  obtain ⟨ops, ops_made, h⟩ := Except.bind_eq_ok.mp h
  -- the association as the operations see it
  obtain ⟨linked, linked_made, ops_made⟩ := Except.bind_eq_ok.mp ops_made
  obtain ⟨own, listed, own_made⟩ :=
    (List.mapM_ok linked_made).exists_right (List.mem_filter.mpr ⟨there, target_keyed⟩)
  obtain ⟨field, -, own_made⟩ := Except.bind_eq_ok.mp own_made
  obtain ⟨path, -, own_made⟩ := Except.bind_eq_ok.mp own_made
  obtain ⟨code, linked_code, own_made⟩ := Except.bind_eq_ok.mp own_made
  cases own_made
  simp only [linkCode, link, childKey_of_found stored] at linked_code
  obtain ⟨pair, key_made, linked_code⟩ := Except.bind_eq_ok.mp linked_code
  obtain ⟨ident, key_found, same⟩ := Except.bind_eq_ok.mp key_made
  cases same
  cases linked_code
  obtain ⟨keyField, -, ops_made⟩ := Except.bind_eq_ok.mp ops_made
  obtain ⟨message, -, ops_made⟩ := Except.bind_eq_ok.mp ops_made
  obtain ⟨record, -, ops_made⟩ := Except.bind_eq_ok.mp ops_made
  obtain ⟨hooks, -, ops_made⟩ := Except.bind_eq_ok.mp ops_made
  obtain ⟨bound, -, ops_made⟩ := Except.bind_eq_ok.mp ops_made
  cases ops_made
  -- it is saved when a message is created
  obtain ⟨load, -, h⟩ := Except.bind_eq_ok.mp h
  obtain ⟨create, created, h⟩ := Except.bind_eq_ok.mp h
  have create_formed : create.wellFormed = true := by
    iterate 7 obtain ⟨_, -, h⟩ := Except.bind_eq_ok.mp h
    cases h
    exact formed create List.mem_cons_self
  have selects := Operations.create_selects created create_formed
  exact Ident.names_of_selectable key_found (Operations.saveCollections_selects selects listed rfl)

end Emit

end ProtoStore
