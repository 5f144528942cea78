import ProtoStore.Emit.File
import ProtoStore.Proofs.Schema.WrittenKeys

/-!
# Generated files

* `Emit.messageItems_eq_ok` : the items of a message are those of its parts;
* `Emit.fileOf_eq_ok` : what the file of a schema file holds, and when there is one;
* `Schema.generate_eq_ok`, `Schema.outputs_of_generate` : the files of a schema;
* `Schema.mem_fileScopes` : the messages of a file.
-/

namespace ProtoStore

variable {schema : Schema} {models : Models} {config : Config} {scope : Scope} {name : String}

namespace Emit

theorem messageItems_eq_ok {items : List Item} : messageItems scope = .ok items ↔
    ∃ records conversions hookItems masks operationItems, record scope = .ok records ∧
      conversion scope = .ok conversions ∧ hooks scope = .ok hookItems ∧ fieldMask scope = .ok masks ∧
      operations scope = .ok operationItems ∧
      items = records ++ conversions ++ hookItems ++ masks ++ operationItems := by
  constructor
  · intro h
    obtain ⟨records, one, h⟩ := Except.bind_eq_ok.mp h
    obtain ⟨conversions, two, h⟩ := Except.bind_eq_ok.mp h
    obtain ⟨hookItems, three, h⟩ := Except.bind_eq_ok.mp h
    obtain ⟨masks, four, h⟩ := Except.bind_eq_ok.mp h
    obtain ⟨operationItems, five, h⟩ := Except.bind_eq_ok.mp h
    cases h
    exact ⟨records, conversions, hookItems, masks, operationItems, one, two, three, four, five, rfl⟩
  · rintro ⟨records, conversions, hookItems, masks, operationItems, one, two, three, four, five, rfl⟩
    exact Except.bind_eq_ok.mpr ⟨records, one, Except.bind_eq_ok.mpr ⟨conversions, two,
      Except.bind_eq_ok.mpr ⟨hookItems, three, Except.bind_eq_ok.mpr ⟨masks, four,
      Except.bind_eq_ok.mpr ⟨operationItems, five, rfl⟩⟩⟩⟩⟩

/-- The file of a schema file holds the items of its messages. There is one if it has messages, all items are well
formed and the path of the library can stand where it is put. -/
theorem fileOf_eq_ok {file : SchemaFile} {found : Option GeneratedFile} :
    fileOf schema config models file = .ok found ↔
      ∃ items, (fileScopes schema config models file).mapM messageItems = .ok items ∧
        (fileScopes schema config models file = [] ∧ found = none ∨
          fileScopes schema config models file ≠ [] ∧ config.runtime.beginsType = true ∧
            config.runtime.suitsExpressions = true ∧ (∀ item ∈ items.flatten, item.wellFormed = true) ∧
            found = some ⟨config.outputName file.name, header file.name, items.flatten⟩) := by
  unfold fileOf
  dsimp only
  rw [Except.bind_eq_ok]
  refine exists_congr fun items => and_congr_right fun _ => ?_
  split
  · next empty =>
    have none : fileScopes schema config models file = [] := List.isEmpty_iff.mp empty
    constructor
    · intro h
      cases h
      exact .inl ⟨none, rfl⟩
    · rintro (⟨-, rfl⟩ | ⟨some, -⟩)
      · rfl
      · exact absurd none some
  · next some =>
    have some : fileScopes schema config models file ≠ [] := fun none => some (List.isEmpty_iff.mpr none)
    split
    · next holds =>
      simp only [Bool.and_eq_true, List.all_eq_true] at holds
      constructor
      · intro h
        cases h
        exact .inr ⟨some, holds.1.1, holds.1.2, holds.2, rfl⟩
      · rintro (⟨none, -⟩ | ⟨-, -, -, -, rfl⟩)
        · exact absurd none some
        · rfl
    · next fails =>
      simp only [Bool.and_eq_true, List.all_eq_true] at fails
      constructor
      · intro h
        cases h
      · rintro (⟨none, -⟩ | ⟨-, begins, suits, formed, -⟩)
        · exact absurd none some
        · exact absurd ⟨⟨begins, suits⟩, formed⟩ fails

end Emit

namespace Schema

/-- The files of a schema are those of the files that are asked for. -/
theorem generate_eq_ok {files : List GeneratedFile} (built : schema.models = .ok models) :
    schema.generate config = .ok files ↔
      ∃ found, ((schema.files.filter (·.generate)).mapM (Emit.fileOf schema config models)) = .ok found ∧
        files = found.filterMap id := by
  unfold generate
  constructor
  · intro h
    obtain ⟨own, own_built, h⟩ := Except.bind_eq_ok.mp h
    obtain rfl : models = own := Except.ok.inj (built.symm.trans (Except.mapError_eq_ok.mp own_built))
    obtain ⟨found, made, h⟩ := Except.bind_eq_ok.mp h
    cases h
    exact ⟨found, Except.mapError_eq_ok.mp made, rfl⟩
  · rintro ⟨found, made, rfl⟩
    exact Except.bind_eq_ok.mpr ⟨models, Except.mapError_eq_ok.mpr built, Except.bind_eq_ok.mpr
      ⟨found, Except.mapError_eq_ok.mpr made, rfl⟩⟩

theorem models_of_generate {outputs : List GeneratedFile} (generated : schema.generate config = .ok outputs) :
    ∃ models, schema.models = .ok models := by
  obtain ⟨models, built, -⟩ := Except.bind_eq_ok.mp generated
  exact ⟨models, Except.mapError_eq_ok.mp built⟩

/-- The outputs are those of the files that are asked for and have one. -/
theorem outputs_of_generate {outputs : List GeneratedFile} {has : SchemaFile → Bool}
    {R : SchemaFile → GeneratedFile → Prop} (built : schema.models = .ok models)
    (each : ∀ file ∈ schema.files, ∀ found, Emit.fileOf schema config models file = .ok found →
      has file = false ∧ found = none ∨ has file = true ∧ ∃ output, found = some output ∧ R file output)
    (generated : schema.generate config = .ok outputs) :
    List.Forall₂ R (schema.files.filter fun file => has file && file.generate) outputs := by
  obtain ⟨found, made, rfl⟩ := (generate_eq_ok built).mp generated
  rw [← List.filter_filter, ← List.filterMap_eq_filter]
  have pairs := (List.forall₂_and_left _ _).mpr ⟨fun file inside => List.mem_of_mem_filter inside, List.mapM_ok made⟩
  refine List.rel_filterMap (fun file output both => ?_) pairs
  rcases each file both.1 output both.2 with ⟨none, rfl⟩ | ⟨some, output, rfl, holds⟩
  · rw [Option.guard_eq_none_iff.mpr (by simp [none])]
    exact .none
  · rw [Option.guard_eq_some_iff.mpr ⟨rfl, some⟩]
    exact .some holds

theorem scope?_ok (h : schema.scope? config models name = some scope) :
    scope.config = config ∧ scope.models = models ∧ schema.message? name = some scope.message ∧
      models.record? name = some scope.record := by
  obtain ⟨message, found, h⟩ := Option.bind_eq_some_iff.mp h
  obtain ⟨record, record_found, h⟩ := Option.bind_eq_some_iff.mp h
  cases h
  exact ⟨rfl, rfl, found, record_found⟩

theorem mem_fileScopes {file : SchemaFile} : scope ∈ Emit.fileScopes schema config models file ↔
    ∃ name ∈ models.resolution.order, schema.scope? config models name = some scope ∧
      scope.message.file = file.name := by
  simp [Emit.fileScopes, Option.filter_eq_some_iff]

end Schema

end ProtoStore
