import ProtoStore.Proofs.Blog.Reloading
import ProtoStore.Proofs.Domain.Failing

/-!
# What operations on the blog fail with

A conversion that fails tells the field that it is of (`fillRecord_fails`, `fillMessage_fails`), and join
rows are told by an owner and a tag, which are their columns and their keys. So no strict update of a
message fails because a key is there already (`Distinguishes Entity`).
-/

namespace ProtoStore.Blog

open Domain Store Operations

/-! ## Conversions -/

variable {e : Entity} {failure : Failure}

theorem mapM_fails {α β : Type} {f : α → Except Failure β} {x : Option α}
    (h : x.mapM f = .error failure) : ∃ a ∈ x, f a = .error failure := by
  cases x with
  | none => cases h
  | some a => exact ⟨a, rfl, Except.map_eq_error.mp h⟩

theorem fillRecord_fails {m : e.Message} {row : e.Record} (h : e.fillRecord m row = .error failure) :
    ∃ field fault, failure = .conversion field fault := by
  cases e with
  | article =>
    rcases Except.bind_eq_error.mp h with id | ⟨id, -, h⟩
    · exact ⟨_, Convert.uuid?_fails id⟩
    rcases Except.bind_eq_error.mp h with published | ⟨_, -, h⟩
    · obtain ⟨t, -, ht⟩ := mapM_fails published
      exact ⟨_, Convert.moment_fails ht⟩
    · cases h
  | blogPost | author | comment | tag | reply | thread | digest => cases h

theorem fillMessage_fails {row : e.Record} {m : e.Message} (h : e.fillMessage row m = .error failure) :
    ∃ field fault, failure = .conversion field fault := by
  cases e with
  | comment =>
    rcases Except.bind_eq_error.mp h with flags | ⟨_, -, h⟩
    · exact ⟨_, Convert.ofJson_fails flags⟩
    · cases h
  | article =>
    rcases Except.bind_eq_error.mp h with keywords | ⟨_, -, h⟩
    · exact ⟨_, Convert.ofJson_fails keywords⟩
    rcases Except.bind_eq_error.mp h with metadata | ⟨_, -, h⟩
    · obtain ⟨bytes, -, hb⟩ := mapM_fails metadata
      exact ⟨_, Convert.ofBytes_fails hb⟩
    · cases h
  | blogPost | author | tag | reply | thread | digest => cases h

theorem notDuplicate_of_conversion (h : ∃ field fault, failure = .conversion field fault) :
    failure.NotDuplicate := by
  rintro table rfl
  obtain ⟨_, _, h⟩ := h
  cases h

/-! ## Join rows -/

theorem keyless_join {link : Joined e} (hl : .joined link ∈ Bindings.links e) : Keyless link.join :=
  forall_joined (P := fun _ link => Keyless link.join) (fun _ _ => rfl) (fun _ _ => rfl)
    (fun _ _ => rfl) (fun _ _ => rfl) hl

/-- No two join rows have the same key. -/
theorem eq_of_join_key {link : Joined e} (hl : .joined link ∈ Bindings.links e) :
    ∀ a b : Row link.join, key a = key b → a = b := by
  refine forall_joined (P := fun _ link => ∀ a b : Row link.join, key a = key b → a = b) ?_ ?_ ?_ ?_ hl
  · rintro ⟨a, tag⟩ ⟨b, tag'⟩ h
    obtain ⟨ha, rest⟩ := List.cons.inj (Value.list.inj h)
    cases (List.cons.inj rest).1
    cases a <;> cases b <;> cases ha <;> rfl
  all_goals
    rintro ⟨a, tag⟩ ⟨b, tag'⟩ h
    cases h
    rfl

instance : Distinguishes Entity where
  fillRecord h := notDuplicate_of_conversion (fillRecord_fails h)
  fillMessage h := notDuplicate_of_conversion (fillMessage_fails h)
  joined hl := ⟨keyless_join hl, byColumns_join hl, eq_of_join_key hl⟩

end ProtoStore.Blog
