import ProtoStore.Domain.Mask

/-!
# What masks keep

* `Mask.apply_keeps` : what copying and merging single fields keeps of the target of a patch, a whole
  mask keeps;
* `Mask.apply_eq_self` : a mask of paths that name nothing takes nothing.
-/

namespace ProtoStore.Domain.Mask

variable {M : Type} {fields : List (MaskField M)} {source : M} {P : M → Prop}

theorem mem_of_merging? {merged : List String} {rest name : String}
    {merge : List String → String → M → M → M}
    (h : merging? fields merged rest = some (name, merge)) :
    ∃ field ∈ fields, field.merge? = some merge ∧ field.name = name ∧ name ∉ merged ∧
      (after? (below name) rest).isSome = true := by
  obtain ⟨field, hf, hm⟩ := List.exists_of_findSome?_eq_some h
  cases hc : field.merge? with
  | none => simp [hc] at hm
  | some other =>
    simp only [hc, Option.bind_some, Option.ite_none_right_eq_some, Bool.and_eq_true,
      Bool.not_eq_true', List.contains_eq_mem, decide_eq_false_iff_not, Option.some.injEq,
      Prod.mk.injEq] at hm
    obtain ⟨⟨unmerged, isBelow⟩, rfl, rfl⟩ := hm
    exact ⟨field, hf, hc, rfl, unmerged, isBelow⟩

theorem apply_keeps (hc : ∀ field ∈ fields, ∀ target, P target → P (field.copy source target))
    (hm : ∀ field ∈ fields, ∀ merge ∈ field.merge?, ∀ paths root target,
      P target → P (merge paths root source target))
    (paths : List String) (root : String) {target : M} (h : P target) :
    P (apply fields paths root source target) := by
  unfold apply
  suffices hs : ∀ state : M × List String, P state.1 →
      P (run fields root source paths state).1 from hs _ h
  induction paths with
  | nil => exact fun state hs => hs
  | cons path rest ih =>
    rintro ⟨target, merged⟩ ht
    refine ih _ ?_
    rw [step]
    split
    · exact ht
    · split
      · next hmerging =>
        obtain ⟨field, hf, hmerge, -⟩ := mem_of_merging? hmerging
        exact hm field hf _ hmerge _ _ target ht
      · split
        · exact ht
        · next field hfield => exact hc field (List.mem_of_find?_eq_some hfield) target ht

/-- A path names a field, or begins with one that holds a message of its own. -/
def Names (fields : List (MaskField M)) (path : String) : Prop :=
  ∃ field ∈ fields, field.name = path ∨
    field.merge?.isSome = true ∧ (after? (below field.name) path).isSome = true

instance (path : String) : Decidable (Names fields path) :=
  inferInstanceAs (Decidable (∃ field ∈ fields, field.name = path ∨
    field.merge?.isSome = true ∧ (after? (below field.name) path).isSome = true))

theorem after?_root (path : String) : after? "" path = some path :=
  congrArg some (String.ofList_toList (s := path))

theorem step_eq_self {path : String} (h : ¬Names fields path) (rest : List String) (target : M) :
    step fields "" source path rest (target, []) = (target, []) := by
  have unmerged : merging? fields [] path = none := by
    refine List.findSome?_eq_none_iff.mpr fun field hf => ?_
    cases hm : field.merge? with
    | none => rfl
    | some merge =>
      refine if_neg fun below => h ⟨field, hf, Or.inr ⟨hm ▸ rfl, ?_⟩⟩
      exact (Bool.and_eq_true_iff.mp below).2
  have unnamed : field? fields path = none :=
    List.find?_eq_none.mpr fun field hf same => h ⟨field, hf, Or.inl (beq_iff_eq.mp same)⟩
  simp only [step, after?_root, unmerged, unnamed]

/-- A mask of paths that name nothing takes nothing. -/
theorem apply_eq_self {paths : List String} (h : ∀ path ∈ paths, ¬Names fields path) (target : M) :
    apply fields paths "" source target = target := by
  unfold apply
  suffices hs : run fields "" source paths (target, []) = (target, []) from congrArg Prod.fst hs
  induction paths with
  | nil => rfl
  | cons path rest ih =>
    rw [run, step_eq_self (h path List.mem_cons_self)]
    exact ih fun path hp => h path (List.mem_cons_of_mem _ hp)

end ProtoStore.Domain.Mask
