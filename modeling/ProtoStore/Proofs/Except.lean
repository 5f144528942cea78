import Mathlib.Data.List.Forall2

/-!
# Computations that can fail

What success or failure of a computation says about its parts. `List.mapM_ok` and `List.foldlM_ok` are the
inversions for lists; the invariant of the second is about what has been folded so far.
-/

namespace Except

variable {ε δ α β : Type} {x : Except ε α} {e : ε} {d : δ}

theorem bind_eq_ok {f : α → Except ε β} {b : β} :
    (x >>= f) = .ok b ↔ ∃ a, x = .ok a ∧ f a = .ok b := by
  cases x <;> simp [bind, Except.bind]

theorem bind_eq_error {f : α → Except ε β} :
    (x >>= f) = .error e ↔ x = .error e ∨ ∃ a, x = .ok a ∧ f a = .error e := by
  cases x <;> simp [bind, Except.bind]

theorem map_eq_ok {f : α → β} {b : β} : x.map f = .ok b ↔ ∃ a, x = .ok a ∧ f a = b := by
  cases x <;> simp [Except.map]

theorem map_eq_error {f : α → β} : x.map f = .error e ↔ x = .error e := by
  cases x <;> simp [Except.map]

theorem toOption_eq_some {a : α} : x.toOption = some a ↔ x = .ok a := by
  cases x <;> simp [Except.toOption]

theorem mapError_eq_ok {f : ε → δ} {a : α} : x.mapError f = .ok a ↔ x = .ok a := by
  cases x <;> simp [Except.mapError]

theorem mapError_eq_error {f : ε → δ} : x.mapError f = .error d ↔ ∃ e, x = .error e ∧ f e = d := by
  cases x <;> simp [Except.mapError]

end Except

namespace List

variable {ε α β : Type}

theorem Forall₂.exists_right {R : α → β → Prop} {as : List α} {bs : List β} (h : Forall₂ R as bs) {a : α}
    (there : a ∈ as) : ∃ b ∈ bs, R a b := by
  induction h with
  | nil => cases there
  | cons first _ ih =>
    rcases mem_cons.mp there with rfl | there
    · exact ⟨_, mem_cons_self, first⟩
    · obtain ⟨b, inside, related⟩ := ih there
      exact ⟨b, mem_cons_of_mem _ inside, related⟩

theorem Forall₂.exists_left {R : α → β → Prop} {as : List α} {bs : List β} (h : Forall₂ R as bs) {b : β}
    (there : b ∈ bs) : ∃ a ∈ as, R a b :=
  exists_right (R := fun b a => R a b) h.flip there

theorem exists_forall₂ {R : α → β → Prop} {as : List α} (h : ∀ a ∈ as, ∃ b, R a b) : ∃ bs, Forall₂ R as bs := by
  induction as with
  | nil => exact ⟨[], .nil⟩
  | cons a as ih =>
    obtain ⟨first, rest⟩ := forall_mem_cons.mp h
    obtain ⟨b, related⟩ := first
    obtain ⟨bs, all⟩ := ih rest
    exact ⟨b :: bs, .cons related all⟩

theorem mapM_ok {f : α → Except ε β} {as : List α} {bs : List β} (h : as.mapM f = .ok bs) :
    Forall₂ (fun a b => f a = .ok b) as bs := by
  induction as generalizing bs with
  | nil =>
    cases h
    exact .nil
  | cons a as ih =>
    rw [mapM_cons] at h
    obtain ⟨b, first, h⟩ := Except.bind_eq_ok.mp h
    obtain ⟨bs, rest, h⟩ := Except.bind_eq_ok.mp h
    cases h
    exact .cons first (ih rest)

/-- What is read off the results is what is read off the elements, if that is so for each of them. -/
theorem map_of_mapM {γ : Type} {f : α → Except ε β} {ofElement : α → γ} {ofResult : β → γ} {as : List α} {bs : List β}
    (h : as.mapM f = .ok bs) (each : ∀ a ∈ as, ∀ b, f a = .ok b → ofResult b = ofElement a) :
    bs.map ofResult = as.map ofElement := by
  have pairs := mapM_ok h
  rw [eq_comm, ← forall₂_eq_eq_eq, forall₂_map_left_iff, forall₂_map_right_iff, forall₂_iff_get]
  exact ⟨pairs.length_eq, fun i inside there => (each _ (getElem_mem inside) _ (pairs.get inside there)).symm⟩

/-- Where no element of a list fails, neither does the list. -/
theorem exists_mapM_ok {f : α → Except ε β} {as : List α} {P : α → β → Prop}
    (each : ∀ a ∈ as, ∃ b, f a = .ok b ∧ P a b) : ∃ bs, as.mapM f = .ok bs ∧ Forall₂ P as bs := by
  induction as with
  | nil => exact ⟨[], rfl, .nil⟩
  | cons a as ih =>
    obtain ⟨⟨b, first, holds⟩, others⟩ := forall_mem_cons.mp each
    obtain ⟨bs, rest, all⟩ := ih others
    exact ⟨b :: bs, by simp [mapM_cons, first, rest, bind, Except.bind, pure, Except.pure], .cons holds all⟩

theorem exists_mapM_iff {f : α → Except ε β} {as : List α} :
    (∃ bs, as.mapM f = .ok bs) ↔ ∀ a ∈ as, ∃ b, f a = .ok b := by
  constructor
  · rintro ⟨bs, made⟩ a there
    obtain ⟨b, -, first⟩ := (mapM_ok made).exists_right there
    exact ⟨b, first⟩
  · intro each
    obtain ⟨bs, made, -⟩ := exists_mapM_ok (P := fun _ _ => True) fun a there =>
      (each a there).imp fun _ first => ⟨first, trivial⟩
    exact ⟨bs, made⟩

/-- What holds of nothing and the start, and is kept by each step, holds of the whole list and the result. -/
theorem foldlM_ok {f : β → α → Except ε β} (I : List α → β → Prop) {as : List α} {init result : β}
    (start : I [] init)
    (step : ∀ seen a b c, a ∈ as → I seen b → f b a = .ok c → I (seen ++ [a]) c)
    (h : as.foldlM f init = .ok result) : I as result := by
  suffices ∀ (rest seen : List α) (b : β), seen ++ rest = as → I seen b →
      rest.foldlM f b = .ok result → I as result from this as [] init rfl start h
  intro rest
  induction rest with
  | nil =>
    intro seen b whole holds h
    cases h
    rw [append_nil] at whole
    exact whole ▸ holds
  | cons a rest ih =>
    intro seen b whole holds h
    rw [foldlM_cons] at h
    obtain ⟨c, first, h⟩ := Except.bind_eq_ok.mp h
    exact ih (seen ++ [a]) c (by simp [← whole]) (step seen a b c (by simp [← whole]) holds first) h

/-- A fold that fails does so at an element, after a beginning that does not fail and keeps what each step keeps. -/
theorem foldlM_error {f : β → α → Except ε β} (I : List α → β → Prop) {as : List α} {init : β} {e : ε}
    (start : I [] init)
    (step : ∀ seen a b c, a ∈ as → I seen b → f b a = .ok c → I (seen ++ [a]) c)
    (h : as.foldlM f init = .error e) : ∃ seen a b, a ∈ as ∧ I seen b ∧ f b a = .error e := by
  suffices ∀ (rest seen : List α) (b : β), seen ++ rest = as → I seen b →
      rest.foldlM f b = .error e → ∃ seen a b, a ∈ as ∧ I seen b ∧ f b a = .error e from
    this as [] init rfl start h
  intro rest
  induction rest with
  | nil =>
    intro seen b _ _ h
    cases h
  | cons a rest ih =>
    intro seen b whole holds h
    rw [foldlM_cons] at h
    rcases Except.bind_eq_error.mp h with failed | ⟨c, first, h⟩
    · exact ⟨seen, a, b, by simp [← whole], holds, failed⟩
    · exact ih (seen ++ [a]) c (by simp [← whole]) (step seen a b c (by simp [← whole]) holds first) h

end List
