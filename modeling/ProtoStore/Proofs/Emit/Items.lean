import ProtoStore.Emit.Scope
import ProtoStore.Emit.Types
import ProtoStore.Proofs.Code.Selection

/-!
# Items of neat pieces

An item is well formed if its pieces are neat and its fields have names.

* `Item.wellFormed_record` and its siblings : one for each kind of item;
* `ColumnType.code_neat`, `Strategy.code_neat`, `Emptiness.test_neat` : types, strategies and tests are neat where
  the path of the library is.
-/

namespace ProtoStore

open Code (neat_append neat_fill neat_flatMap neat_ident neat_ofText)

variable {attributes body bounds methods signature type rt value : Code} {name : Ident}

/-! ## Items -/

namespace Item

theorem declared_of_wellFormed {fields : List (Ident × Code)} (h : (record attributes name fields).wellFormed = true) :
    ∀ field ∈ fields, field.1.declaresField = true :=
  List.all_eq_true.mp (Bool.and_eq_true_iff.mp h).1

theorem selects_of_wellFormed {item : Item} (h : item.wellFormed = true) : item.code.selectsFields = true :=
  (Bool.and_eq_true_iff.mp h).2

theorem wellFormed_record {fields : List (Ident × Code)} (attributes_neat : attributes.neat = true)
    (valid : Ident.valid name.text = true)
    (each : ∀ field ∈ fields, Ident.Declares field.1.text ∧ field.2.neat = true) :
    (record attributes name fields).wellFormed = true := by
  refine Bool.and_eq_true_iff.mpr ⟨?_, Code.selectsFields_of_neat _ (neat_append attributes_neat ?_)⟩
  · exact List.all_eq_true.mpr fun field there => by
      simpa [Ident.declaresField] using (each field there).1.declares
  · refine neat_fill [false, false] rfl (by decide) ?_
    simp only [Code.fits_cons, Code.fits_nil, Code.suits_false, and_true]
    refine ⟨neat_ident valid, neat_flatMap fun field there => ?_⟩
    obtain ⟨declares, neat⟩ := each field there
    exact neat_fill [false, false] rfl (by decide) (by simp [neat_ident declares.valid, neat])

theorem wellFormed_interface (attributes_neat : attributes.neat = true) (valid : Ident.valid name.text = true)
    (bounds_neat : bounds.neat = true) (methods_neat : methods.neat = true) :
    (interface attributes name bounds methods).wellFormed = true := by
  refine Bool.and_eq_true_iff.mpr ⟨rfl, Code.selectsFields_of_neat _ (neat_append attributes_neat ?_)⟩
  exact neat_fill [false, false, false] rfl (by decide)
    (by simp [neat_ident valid, bounds_neat, methods_neat])

theorem wellFormed_implementation {base : Option Code} (base_neat : ∀ code ∈ base, code.neat = true)
    (type_neat : type.neat = true) (body_neat : body.neat = true) :
    (implementation base type body).wellFormed = true := by
  refine Bool.and_eq_true_iff.mpr ⟨rfl, Code.selectsFields_of_neat _ ?_⟩
  cases base with
  | none => exact neat_fill [false, false] rfl (by decide) (by simp [type_neat, body_neat])
  | some base =>
    exact neat_fill [false, false, false] rfl (by decide)
      (by simp [base_neat base rfl, type_neat, body_neat])

theorem wellFormed_function {isPublic isAsync : Bool} (attributes_neat : attributes.neat = true)
    (valid : Ident.valid name.text = true) (signature_neat : signature.neat = true) (body_neat : body.neat = true) :
    (function attributes isPublic isAsync name signature body).wellFormed = true := by
  refine Bool.and_eq_true_iff.mpr ⟨rfl, Code.selectsFields_of_neat _ ?_⟩
  have marks : Code.neat (attributes ++ (if isPublic then [.atom "pub"] else []) ++
      (if isAsync then [.atom "async"] else [])) = true := by
    refine neat_append (neat_append attributes_neat ?_) ?_ <;> split <;> decide +kernel
  exact neat_append marks (neat_fill [false, false, false] rfl (by decide)
    (by simp [neat_ident valid, signature_neat, body_neat]))

end Item

theorem attribute_neat (body_neat : body.neat = true) : Code.neat [.atom "#", .group .bracket body] = true :=
  neat_append (a := [.atom "#"]) (by decide) (Code.neat_group body_neat)

@[simp] theorem docAttribute_neat (line : String) : Code.neat (docAttribute line) = true :=
  attribute_neat (neat_append (by decide) (Code.neat_literal line))

@[simp] theorem docComment_neat (lines : List String) : Code.neat (docComment lines) = true := by
  refine neat_flatMap fun line _ => attribute_neat ?_
  generalize (if line.isEmpty then "" else " " ++ line) = text
  have raw : "r\"" ++ text ++ "\"" ≠ "." := fun same => by
    simpa using congrArg (·.toList.head?) same
  exact neat_append (a := [.atom "doc", .atom "="]) (by decide) (Code.neat_atom raw)

/-! ## Types and tests -/

theorem ColumnScalar.code_neat (scalar : ColumnScalar) (rt_neat : rt.neat = true) : (scalar.code rt).neat = true := by
  cases scalar with
  | dateTime => exact neat_fill [false, false] rfl (by decide) (by simp [rt_neat])
  | uuid => exact neat_fill [false] rfl (by decide) (by simp [rt_neat])
  | bool | i32 | i64 | u32 | u64 | f32 | f64 | string | bytes => exact neat_ofText rfl (by decide)

theorem ColumnType.code_neat (type : ColumnType) (rt_neat : rt.neat = true) : (type.code rt).neat = true := by
  unfold ColumnType.code
  split
  · exact neat_fill [false] rfl (by decide) (by simp [type.scalar.code_neat rt_neat])
  · exact type.scalar.code_neat rt_neat

theorem Emptiness.test_neat (emptiness : Emptiness) (value_neat : value.neat = true) :
    (emptiness.test value).neat = true := by
  cases emptiness <;> exact neat_fill [false] rfl (by decide) (by simp [value_neat])

theorem Strategy.code_neat (strategy : Strategy) (rt_neat : rt.neat = true) : (strategy.code rt).neat = true := by
  have variant : strategy.variant ≠ "." := by cases strategy <;> decide
  exact neat_fill [false, false] rfl (by decide) (by simp [rt_neat, Code.neat_atom variant])

end ProtoStore
