import Mathlib.Data.List.Nodup
import ProtoStore.Schema.Model

/-!
# What becomes of a field

* `Field.target?` : the persisted message a field holds, read off the field alone;
* `role_association`, `role_dropped` : when a field is an association, when it is dropped;
* `message?_of_mem` : a message is found by its full name where no other has that name.
-/

namespace ProtoStore

variable {schema : Schema} {message : Message} {field : Field} {role : FieldRole} {name : String}

theorem find?_of_unique {α : Type} {p : α → Bool} {a : α} {l : List α} (there : a ∈ l) (holds : p a = true)
    (unique : ∀ b ∈ l, p b = true → b = a) : l.find? p = some a := by
  obtain ⟨b, found⟩ := Option.isSome_iff_exists.mp (List.find?_isSome.mpr ⟨a, there, holds⟩)
  rw [found, unique b (List.mem_of_find?_eq_some found) (List.find?_some found)]

namespace Schema

/-- No two messages of the schema have one full name. -/
def NamesDistinct (schema : Schema) : Prop := (schema.messages.map (·.fullName)).Nodup

instance (schema : Schema) : Decidable schema.NamesDistinct :=
  inferInstanceAs (Decidable (List.Nodup _))

theorem message?_ok (h : schema.message? name = some message) :
    message ∈ schema.messages ∧ message.fullName = name :=
  ⟨List.mem_of_find?_eq_some h, by simpa using List.find?_some h⟩

theorem message?_of_mem (distinct : schema.NamesDistinct) (h : message ∈ schema.messages) :
    schema.message? message.fullName = some message :=
  find?_of_unique h (by simp) fun _ there same =>
    List.inj_on_of_nodup_map distinct there h (by simpa using same)

theorem mem_persisted : message ∈ schema.persisted ↔ message ∈ schema.messages ∧ message.persisted = true :=
  List.mem_filter

theorem isPersisted_ok (h : schema.isPersisted name = true) :
    ∃ message, schema.message? name = some message ∧ message ∈ schema.persisted ∧
      message.fullName = name := by
  unfold isPersisted at h
  cases found : schema.message? name with
  | none => simp [found] at h
  | some message =>
    obtain ⟨there, same⟩ := message?_ok found
    exact ⟨message, rfl, mem_persisted.mpr ⟨there, by simpa [found] using h⟩, same⟩

theorem NamesDistinct.persisted (distinct : schema.NamesDistinct) :
    (schema.persisted.map (·.fullName)).Nodup :=
  distinct.sublist (List.filter_sublist.map _)

end Schema

namespace Field

/-- The full name of the persisted message the field holds. A field that is dropped or a member of a
oneof holds none. -/
def target? (schema : Schema) (field : Field) : Option String :=
  if field.dropped || field.oneof.isSome then none
  else field.messageType?.filter schema.isPersisted

theorem target?_persisted (h : field.target? schema = some name) : schema.isPersisted name = true := by
  unfold target? at h
  split at h
  · cases h
  · exact (Option.filter_eq_some_iff.mp h).2

theorem role_association :
    field.role schema message = .ok (.association name) ↔ field.target? schema = some name := by
  simp only [role, target?, messageType?]
  grind

theorem role_dropped (schema : Schema) (message : Message) (field : Field) :
    field.role schema message = .ok .dropped ↔ field.dropped = true := by
  simp only [role]
  grind

end Field

end ProtoStore
