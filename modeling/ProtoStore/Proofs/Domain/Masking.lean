import Mathlib.Data.Finset.Option
import Mathlib.Data.Finset.Union
import ProtoStore.Proofs.Domain.Mask

/-!
# Masks as sets of names

What a mask takes depends on which paths it has, but not on their order or number.

* `Mask.rests`, `Mask.beneath` : the names that paths have after a root, and those among them that lie
  below a field;
* `Mask.get_apply` : a field is taken from the source if its name is among them (`Mask.pick`);
* `Mask.get_apply_holding` : a field that holds a message is taken if its name is among them, and merged
  if names below it are (`Mask.hold`);
* `Mask.pick_pick`, `Mask.hold_hold` : taking by two sets is taking by their union.
-/

namespace ProtoStore.Domain.Mask

/-! ## Names -/

theorem after?_eq_some {start text rest : String} : after? start text = some rest ↔ start ++ rest = text := by
  rw [after?, Option.map_eq_some_iff]
  constructor
  · rintro ⟨letters, h, rfl⟩
    rw [List.isPrefixOf?_eq_some_iff_append_eq] at h
    rw [← String.ofList_toList (s := text), ← h, String.ofList_append, String.ofList_toList]
  · rintro rfl
    exact ⟨rest.toList, List.isPrefixOf?_eq_some_iff_append_eq.mpr String.toList_append.symm,
      String.ofList_toList⟩

theorem below_append_ne (name rest : String) : below name ++ rest ≠ name := fun h => by
  have lengths := congrArg String.length h
  rw [below, String.length_append, String.length_append] at lengths
  have point : ".".length = 1 := rfl
  omega

/-- What paths have after a root. -/
def rests (root : String) (paths : List String) : Finset String :=
  (paths.filterMap (after? root)).toFinset

/-- What names have after a field that they are below of. -/
def beneath (name : String) (names : Finset String) : Finset String :=
  names.biUnion fun path => (after? (below name) path).toFinset

theorem mem_rests {root rest : String} {paths : List String} :
    rest ∈ rests root paths ↔ root ++ rest ∈ paths := by
  simp only [rests, List.mem_toFinset, List.mem_filterMap, after?_eq_some, exists_eq_right']

theorem mem_beneath {name rest : String} {names : Finset String} :
    rest ∈ beneath name names ↔ below name ++ rest ∈ names := by
  simp only [beneath, Finset.mem_biUnion, Option.mem_toFinset, Option.mem_def, after?_eq_some,
    exists_eq_right']

/-- The names that paths have after the root of a field are those beneath it. -/
theorem rests_below (root name : String) (paths : List String) :
    rests (root ++ below name) paths = beneath name (rests root paths) := by
  ext rest
  rw [mem_beneath, mem_rests, mem_rests, String.append_assoc]

theorem rests_insert (before after : List String) (path : String) :
    rests "" (before ++ path :: after) = insert path (rests "" (before ++ after)) := by
  ext other
  simp only [mem_rests, String.empty_append, Finset.mem_insert, List.mem_append, List.mem_cons]
  exact or_left_comm

theorem rests_append (root : String) (paths more : List String) :
    rests root (paths ++ more) = rests root paths ∪ rests root more := by
  rw [rests, List.filterMap_append, List.toFinset_append, rests, rests]

theorem rests_congr {paths others : List String} (same : ∀ path, path ∈ paths ↔ path ∈ others)
    (root : String) : rests root paths = rests root others := by
  ext rest
  rw [mem_rests, mem_rests, same]

theorem beneath_union (name : String) (names more : Finset String) :
    beneath name (names ∪ more) = beneath name names ∪ beneath name more :=
  Finset.union_biUnion

theorem beneath_insert (name rest : String) (names : Finset String) :
    beneath name (insert (below name ++ rest) names) = insert rest (beneath name names) := by
  ext other
  simp only [mem_beneath, Finset.mem_insert, String.append_right_inj]

theorem beneath_insert_of_ne {name path : String} (apart : ∀ rest, path ≠ below name ++ rest)
    (names : Finset String) : beneath name (insert path names) = beneath name names := by
  ext other
  simp only [mem_beneath, Finset.mem_insert, (apart other).symm, false_or]

theorem beneath_singleton (name path : String) :
    beneath name {path} = (after? (below name) path).toFinset :=
  Finset.singleton_biUnion

/-! ## Taking by names -/

section Taking

variable {α N : Type}

/-- The source if the name is among those given, and otherwise the target. -/
def pick (names : Finset String) (name : String) (source target : α) : α :=
  if name ∈ names then source else target

/-- The source if the name is among those given; otherwise, if there are names beneath it, what they take
from the message of the source into that of the target, or into a blank one; otherwise the target. -/
def hold (take : Finset String → N → N → N) (blank : N) (names : Finset String) (name : String)
    (source target : Option N) : Option N :=
  if name ∈ names then source
  else if (beneath name names).Nonempty then
    source.map fun value => take (beneath name names) value (target.getD blank)
  else target

variable {names more : Finset String} {name : String}

theorem pick_congr (same : name ∈ names ↔ name ∈ more) (source target : α) :
    pick names name source target = pick more name source target := by
  simp only [pick, same]

theorem pick_insert {path : String} (other : path ≠ name) (source target : α) :
    pick (insert path names) name source target = pick names name source target :=
  pick_congr (by simp [other.symm]) source target

theorem pick_self (value : α) : pick names name value value = value := ite_self value

theorem pick_pick (source target : α) :
    pick more name source (pick names name source target) = pick (names ∪ more) name source target := by
  simp only [pick, Finset.mem_union]
  by_cases later : name ∈ more <;> by_cases sooner : name ∈ names <;> simp [later, sooner]

variable {take : Finset String → N → N → N} {blank : N}

theorem hold_congr (same : name ∈ names ↔ name ∈ more) (alike : beneath name names = beneath name more)
    (source target : Option N) :
    hold take blank names name source target = hold take blank more name source target := by
  simp only [hold, same, alike]

theorem hold_self (self : ∀ names value, take names value value = value) (value : Option N) :
    hold take blank names name value value = value := by
  rw [hold]
  split
  · rfl
  · split
    · cases value with
      | none => rfl
      | some value => exact congrArg some (self _ value)
    · rfl

/-- A name beneath the field that takes nothing from what it holds still gives it a blank message, or empties
it, if no other name does so. -/
theorem hold_insert_iff {rest : String} (nothing : ∀ source target, take ∅ source target = target)
    (unknown : ∀ names source target, take (insert rest names) source target = take names source target)
    (source target : Option N) :
    hold take blank (insert (below name ++ rest) names) name source target =
        hold take blank names name source target ↔
      name ∈ names ∨ (beneath name names).Nonempty ∨ source.isSome = target.isSome := by
  have same : name ∈ insert (below name ++ rest) names ↔ name ∈ names := by
    simp [(below_append_ne name rest).symm]
  simp only [hold, same, beneath_insert, Finset.insert_nonempty, if_true, unknown]
  by_cases whole : name ∈ names
  · simp only [whole, if_true, true_or]
  by_cases below : (beneath name names).Nonempty
  · simp only [if_neg whole, below, if_true, true_or, or_true]
  · rw [if_neg whole, if_neg whole, if_neg below, Finset.not_nonempty_iff_eq_empty.mp below]
    simp only [nothing, whole, Finset.not_nonempty_empty, false_or]
    cases source <;> cases target <;> simp

theorem hold_hold (self : ∀ names value, take names value value = value)
    (twice : ∀ names more source target,
      take more source (take names source target) = take (names ∪ more) source target)
    (source target : Option N) :
    hold take blank more name source (hold take blank names name source target) =
      hold take blank (names ∪ more) name source target := by
  by_cases later : name ∈ more
  · rw [hold, if_pos later, hold, if_pos (Finset.mem_union_right _ later)]
  by_cases sooner : name ∈ names
  · have whole : hold take blank names name source target = source := if_pos sooner
    rw [whole, hold_self self, hold, if_pos (Finset.mem_union_left _ sooner)]
  have neither : name ∉ names ∪ more := fun h => (Finset.mem_union.mp h).elim sooner later
  simp only [hold, if_neg later, if_neg sooner, if_neg neither, beneath_union, Finset.union_nonempty]
  by_cases below : (beneath name names).Nonempty
  · rw [if_pos below, if_pos (Or.inl below)]
    by_cases below' : (beneath name more).Nonempty
    · rw [if_pos below']
      cases source with
      | none => rfl
      | some value => exact congrArg some (twice _ _ value _)
    · rw [if_neg below', Finset.not_nonempty_iff_eq_empty.mp below', Finset.union_empty]
  · rw [if_neg below, Finset.not_nonempty_iff_eq_empty.mp below, Finset.empty_union]
    simp only [Finset.not_nonempty_empty, false_or]

end Taking

/-! ## A field that is taken whole -/

variable {M N α : Type} {fields : List (MaskField M)} {root : String} {source target : M}

/-- The field of a name is what `get` reads, and no other touches it. -/
structure Owns (fields : List (MaskField M)) (name : String) (get : M → α) : Prop where
  named : ∃ field ∈ fields, field.name = name
  copies : ∀ field ∈ fields, ∀ source target,
    get (field.copy source target) = if field.name = name then get source else get target
  merges : ∀ field ∈ fields, ∀ merge ∈ field.merge?, after? (below field.name) name = none ∧
    ∀ paths root source target, get (merge paths root source target) = get target

theorem rests_cons (path : String) (paths : List String) :
    rests root (path :: paths) = (after? root path).toFinset ∪ rests root paths := by
  ext rest
  rw [Finset.mem_union, Option.mem_toFinset, Option.mem_def, after?_eq_some, mem_rests, mem_rests,
    List.mem_cons]

theorem of_field? {name : String} {field : MaskField M} (h : field? fields name = some field) :
    field ∈ fields ∧ field.name = name := by
  rw [field?] at h
  exact ⟨List.mem_of_find?_eq_some h, by simpa using List.find?_some h⟩

theorem exists_of_field? {name : String} (h : ∃ field ∈ fields, field.name = name) :
    ∃ field, field? fields name = some field := by
  obtain ⟨field, hf, rfl⟩ := h
  exact Option.isSome_iff_exists.mp (List.find?_isSome.mpr ⟨field, hf, beq_self_eq_true _⟩)

/-- A path takes the field if it is the field's name after the root. -/
theorem Owns.get_step {name : String} {get : M → α} (owns : Owns fields name get) (path : String)
    (rest : List String) (state : M × List String) :
    get (step fields root source path rest state).1 =
      pick (after? root path).toFinset name (get source) (get state.1) := by
  obtain ⟨target, merged⟩ := state
  unfold step
  cases after? root path with
  | none => rfl
  | some other =>
    simp only [pick, Option.mem_toFinset, Option.mem_def, Option.some.injEq]
    cases hmerging : merging? fields merged other with
    | some merging =>
      -- Another field is merged, and the name of this one does not lie below it.
      obtain ⟨below, merge⟩ := merging
      obtain ⟨field, hf, hmerge, rfl, -, isBelow⟩ := mem_of_merging? hmerging
      obtain ⟨apart, keeps⟩ := owns.merges field hf merge hmerge
      have unnamed : other ≠ name := by
        rintro rfl
        rw [apart] at isBelow
        cases isBelow
      rw [if_neg unnamed]
      exact keeps _ _ _ _
    | none =>
      cases hfield : field? fields other with
      | none =>
        have unnamed : other ≠ name := by
          rintro rfl
          obtain ⟨field, found⟩ := exists_of_field? owns.named
          cases found.symm.trans hfield
        exact (if_neg unnamed).symm
      | some field =>
        obtain ⟨hf, rfl⟩ := of_field? hfield
        exact owns.copies field hf source target

/-- A field is taken whole exactly if its name is among those of the mask. -/
theorem get_apply {name : String} {get : M → α} (owns : Owns fields name get) (paths : List String) :
    get (apply fields paths root source target) =
      pick (rests root paths) name (get source) (get target) := by
  unfold apply
  suffices hs : ∀ state : M × List String, get (run fields root source paths state).1 =
      pick (rests root paths) name (get source) (get state.1) from hs _
  induction paths with
  | nil => exact fun state => rfl
  | cons path rest ih =>
    intro state
    rw [run, ih, owns.get_step, pick_pick, rests_cons]

/-! ## A field that holds a message -/

/-- One field holds a message. No other has names beneath it or touches what `get` reads. -/
structure Holds (fields : List (MaskField M)) (name : String) (get : M → Option N)
    (set : Option N → M → M) (blank : N) (inner : List (MaskField N)) : Prop where
  held : MaskField.holding name get set blank inner ∈ fields
  get_set : ∀ value target, get (set value target) = value
  others : ∀ field ∈ fields, field = MaskField.holding name get set blank inner ∨
    field.name ≠ name ∧ field.merge? = none ∧ ∀ source target, get (field.copy source target) = get target

variable {name : String} {get : M → Option N} {set : Option N → M → M} {blank : N} {inner : List (MaskField N)}

theorem Holds.field? (holds : Holds fields name get set blank inner) :
    field? fields name = some (MaskField.holding name get set blank inner) := by
  obtain ⟨field, found⟩ := exists_of_field? ⟨_, holds.held, rfl⟩
  obtain ⟨hf, named⟩ := of_field? found
  obtain rfl | ⟨unnamed, -⟩ := holds.others field hf
  · exact found
  · exact absurd named unnamed

theorem Holds.merging? (holds : Holds fields name get set blank inner) (merged : List String) (rest : String) :
    merging? fields merged rest = none ∧ (name ∈ merged ∨ after? (below name) rest = none) ∨
      ∃ merge, merging? fields merged rest = some (name, merge) ∧ name ∉ merged ∧
        (∃ more, below name ++ more = rest) ∧ ∀ paths root source target,
          get (merge paths root source target) =
            (get source).map fun value => apply inner paths root value ((get target).getD blank) := by
  cases hmerging : Mask.merging? fields merged rest with
  | none =>
    have otherwise := List.findSome?_eq_none_iff.mp hmerging _ holds.held
    simp only [MaskField.holding, Option.bind_some, ite_eq_right_iff, Bool.and_eq_true,
      Bool.not_eq_true', List.contains_eq_mem, decide_eq_false_iff_not, reduceCtorEq, imp_false,
      not_and, Bool.not_eq_true, Option.isSome_eq_false_iff, Option.isNone_iff_eq_none] at otherwise
    exact Or.inl ⟨rfl, or_iff_not_imp_left.mpr otherwise⟩
  | some merging =>
    obtain ⟨other, merge⟩ := merging
    obtain ⟨field, hf, hmerge, rfl, unmerged, isBelow⟩ := mem_of_merging? hmerging
    obtain rfl | ⟨-, whole, -⟩ := holds.others field hf
    · obtain ⟨more, hmore⟩ := Option.isSome_iff_exists.mp isBelow
      obtain rfl := Option.some.inj hmerge
      refine Or.inr ⟨_, rfl, unmerged, ⟨more, after?_eq_some.mp hmore⟩, fun paths root source target => ?_⟩
      cases hs : get source <;> simp only [holds.get_set, Option.map_none, Option.map_some]
    · rw [whole] at hmerge
      cases hmerge

/-- What a path does to a field that holds a message: it merges what lies beneath the field, takes the field
whole, or leaves it. -/
theorem Holds.step_cases (holds : Holds fields name get set blank inner) (path : String) (rest : List String)
    (target : M) (merged : List String) :
    ∃ target' merged', step fields root source path rest (target, merged) = (target', merged') ∧
      ((name ∉ merged ∧ name ∈ merged' ∧ (∃ more, after? root path = some (below name ++ more)) ∧
          get target' = (get source).map fun value =>
            apply inner (path :: rest) (root ++ below name) value ((get target).getD blank)) ∨
        (name ∈ merged' ∧ after? root path = some name ∧ get target' = get source) ∨
        (merged' = merged ∧ get target' = get target ∧ ∀ other, after? root path = some other →
          other ≠ name ∧ (name ∈ merged ∨ after? (below name) other = none))) := by
  let after := step fields root source path rest (target, merged)
  refine ⟨after.1, after.2, rfl, ?_⟩
  simp only [after, step]
  cases hroot : after? root path with
  | none => exact Or.inr (Or.inr ⟨rfl, rfl, fun _ h => by cases h⟩)
  | some other =>
    obtain ⟨unmerging, otherwise⟩ | ⟨merge, merging, unmerged, ⟨more, rfl⟩, merges⟩ :=
      holds.merging? merged other
    · simp only [unmerging]
      by_cases named : other = name
      · subst named
        simp only [holds.field?]
        exact Or.inr (Or.inl ⟨List.mem_cons_self, trivial, holds.get_set _ _⟩)
      · refine Or.inr (Or.inr ?_)
        cases hfield : Mask.field? fields other with
        | none => exact ⟨rfl, rfl, fun _ h => Option.some.inj h ▸ ⟨named, otherwise⟩⟩
        | some field =>
          obtain ⟨hf, rfl⟩ := of_field? hfield
          obtain rfl | ⟨-, whole, keeps⟩ := holds.others field hf
          · exact absurd rfl named
          · simp only [whole]
            exact ⟨rfl, keeps _ _, fun _ h => Option.some.inj h ▸ ⟨named, otherwise⟩⟩
    · simp only [merging]
      exact Or.inl ⟨unmerged, List.mem_cons_self, ⟨more, rfl⟩, merges _ _ _ _⟩

/-- A field that holds a message is taken whole if its name is among those of the mask. Otherwise, if names
beneath it are, what they take is merged. -/
theorem get_apply_holding (holds : Holds fields name get set blank inner)
    {take : Finset String → N → N → N}
    (taken : ∀ paths root source target, apply inner paths root source target = take (rests root paths) source target)
    (paths : List String) :
    get (apply fields paths root source target) =
      hold take blank (rests root paths) name (get source) (get target) := by
  unfold apply
  -- A merge takes all paths that are left, so what has been merged changes only by its own name.
  suffices hs : ∀ target merged, get (run fields root source paths (target, merged)).1 =
      if name ∈ merged then pick (rests root paths) name (get source) (get target)
      else hold take blank (rests root paths) name (get source) (get target) from
    (hs target []).trans (if_neg List.not_mem_nil)
  induction paths with
  | nil => exact fun target merged => (ite_self _).symm
  | cons path rest ih =>
    intro target merged
    obtain ⟨target', merged', stepped, done⟩ := holds.step_cases path rest target merged
    rw [run, stepped, ih]
    rcases done with ⟨unmerged, now, ⟨more, hmore⟩, merges⟩ | ⟨now, named, copies⟩ | ⟨rfl, keeps, apart⟩
    · have same : name ∈ rests root (path :: rest) ↔ name ∈ rests root rest := by
        simp [rests_cons, hmore, (below_append_ne name more).symm]
      have nonempty : (beneath name (rests root (path :: rest))).Nonempty :=
        ⟨more, mem_beneath.mpr (by simp [rests_cons, hmore])⟩
      rw [if_pos now, if_neg unmerged, merges]
      simp only [taken, rests_below, hold, if_pos nonempty, pick, same]
    · have among : name ∈ rests root (path :: rest) := by simp [rests_cons, named]
      rw [if_pos now, copies, pick_self, hold, pick, if_pos among, if_pos among, ite_self]
    · rw [keeps, rests_cons]
      cases hroot : after? root path with
      | none => rw [Option.toFinset_none, Finset.empty_union]
      | some other =>
        obtain ⟨unnamed, otherwise⟩ := apart other hroot
        have same : name ∈ rests root rest ↔ name ∈ (some other).toFinset ∪ rests root rest := by
          simp [unnamed.symm]
        split
        · exact pick_congr same _ _
        · next unmerged =>
          refine hold_congr same ?_ _ _
          rw [beneath_union, Option.toFinset_some, beneath_singleton, otherwise.resolve_left unmerged,
            Option.toFinset_none, Finset.empty_union]

end ProtoStore.Domain.Mask
