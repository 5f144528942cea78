import ProtoStore.Proofs.Code.Ident
import ProtoStore.Proofs.Except

/-!
# Paths between modules

The module of a package lies inside those of the packages whose names its own extends. A path is read step by step
from the module it is written in: `super` leads out of a module, a name into one.

* `dotted`, `packageSegments_dotted` : the name of the package with given segments, and its segments;
* `exists_shared` : what is left of two packages is what follows their shared segments;
* `leads`, `leads_ups`, `leads_downs` : where a path leads, and the two parts of the path between packages;
* `modulePath_leads` : that path leads from one module to the other.
-/

namespace ProtoStore.Naming

open Text (IsLettered)

variable {position names : List String} {rest : Code} {steps : List Ident} {segments : List String}

/-! ## Names of packages -/

/-- The name of the package with the given segments. -/
def dotted (segments : List String) : String := ".".intercalate segments

theorem splitOn_eq (separator : Char) (part text : List Char) :
    splitOn separator part text = (text.splitOnPPrepend (· == separator) part).map String.ofList := by
  fun_induction splitOn separator part text with
  | case1 => rfl
  | case2 part c rest here ih => simp [List.splitOnPPrepend, here, ih]
  | case3 part c rest other ih => simp [List.splitOnPPrepend, other, ih]

/-- A lettered text is not empty and has no dots. -/
theorem segment_of_lettered {segment : String} (h : IsLettered segment.toList) :
    segment.isEmpty = false ∧ '.' ∉ segment.toList := by
  refine ⟨?_, fun there => absurd (h.char there) (by decide)⟩
  rw [String.isEmpty_eq_false_iff]
  rintro rfl
  exact absurd h.first (by decide)

/-- The name of a package gives its segments again. -/
theorem packageSegments_dotted (lettered : ∀ segment ∈ segments, IsLettered segment.toList) :
    packageSegments (dotted segments) = segments := by
  cases segments with
  | nil => decide
  | cons segment segments =>
    have parts : (dotted (segment :: segments)).toList.splitOn '.' = (segment :: segments).map String.toList := by
      rw [dotted, String.toList_intercalate]
      refine List.splitOn_intercalate '.' (fun part there => ?_) (by simp)
      obtain ⟨other, listed, rfl⟩ := List.mem_map.mp there
      exact (segment_of_lettered (lettered other listed)).2
    have split : splitOn '.' [] (dotted (segment :: segments)).toList = segment :: segments := by
      rw [splitOn_eq]
      exact (congrArg (List.map String.ofList) parts).trans (by simp [Function.comp_def])
    rw [packageSegments, split, List.filter_eq_self]
    exact fun other there => by simp [(segment_of_lettered (lettered other there)).1]

/-! ## Shared segments -/

/-- What is left of two lists follows a common beginning. -/
theorem exists_shared (as bs : List String) :
    ∃ shared, as = shared ++ (dropShared as bs).1 ∧ bs = shared ++ (dropShared as bs).2 := by
  fun_induction dropShared as bs with
  | case1 a as b bs same ih =>
    obtain ⟨shared, left, right⟩ := ih
    obtain rfl := eq_of_beq same
    exact ⟨a :: shared, congrArg _ left, congrArg _ right⟩
  | case2 a as b bs _ => exact ⟨[], rfl, rfl⟩
  | case3 as bs _ => exact ⟨[], rfl, rfl⟩

theorem dropShared_self (as : List String) : dropShared as as = ([], []) := by
  induction as with
  | nil => rfl
  | cons a as ih => simp [dropShared, ih]

/-! ## Reading paths -/

/-- Where a path leads from a module, which is given by the names of the modules down to it. Each step is followed by
`::`. The step `super` leads to the parent, which the crate has not, and a name leads to the child of that name. -/
def leads : Code → List String → Option (List String)
  | [], position => some position
  | .atom step :: .atom mark :: rest, position =>
    if mark != "::" then none
    else if step == "super" then if position.isEmpty then none else leads rest position.dropLast
    else if Ident.unnaming.contains step then none
    else leads rest (position ++ [step])
  | _, _ => none

theorem leads_super (name : String) :
    leads (.atom "super" :: .atom "::" :: rest) (position ++ [name]) = leads rest position := by
  simp [leads]

theorem leads_name {name : String} (names : name ∉ Ident.unnaming) :
    leads (.atom name :: .atom "::" :: rest) position = leads rest (position ++ [name]) := by
  have step : name ≠ "super" := by
    rintro rfl
    exact names (by decide)
  simp [leads, step, names]

/-- As many steps up as there are names lead out of them. -/
theorem leads_ups {ups : List String} (length : ups.length = names.length) :
    leads (ups.flatMap (fun _ => [.atom "super", .atom "::"]) ++ rest) (position ++ names) = leads rest position := by
  induction ups generalizing names with
  | nil =>
    obtain rfl := List.eq_nil_of_length_eq_zero length.symm
    simp
  | cons up ups ih =>
    obtain rfl | ⟨others, name, rfl⟩ := names.eq_nil_or_concat'
    · cases length
    · rw [List.flatMap_cons, ← List.append_assoc position, List.append_assoc]
      refine (leads_super name).trans (ih ?_)
      simpa using length

theorem leads_downs (names : ∀ step ∈ steps, step.spelling ∉ Ident.unnaming) :
    leads (steps.flatMap fun step => step.code ++ [.atom "::"]) position =
      some (position ++ steps.map Ident.spelling) := by
  induction steps generalizing position with
  | nil => simp [leads]
  | cons step steps ih =>
    obtain ⟨first, others⟩ := List.forall_mem_cons.mp names
    rw [List.flatMap_cons, Ident.code, List.append_assoc, List.map_cons, List.append_cons, ← ih others]
    exact leads_name first

/-! ## Paths between packages -/

theorem exists_idents (lettered : ∀ segment ∈ segments, IsLettered segment.toList) :
    ∃ idents, segments.mapM fieldIdent = .ok idents ∧ ∀ ident ∈ idents, ident.spelling ∉ Ident.unnaming := by
  obtain ⟨idents, named, each⟩ := List.exists_mapM_ok fun segment there => fieldIdent_ok (lettered segment there)
  refine ⟨idents, named, fun ident there => ?_⟩
  obtain ⟨segment, -, names⟩ := each.exists_left there
  have selected := Ident.selectable_iff.mpr (.inr names.names)
  simpa [Code.selectable] using selected

/-- The path consists of a step up for each segment that only the source has, and the names of the segments that only
the target has. -/
theorem modulePath_eq {source target : String} {ups downs : List String}
    (parts : dropShared (packageSegments source) (packageSegments target) = (ups, downs))
    (named : downs.mapM fieldIdent = .ok steps) :
    modulePath source target = .ok (ups.flatMap (fun _ => [.atom "super", .atom "::"])
      ++ steps.flatMap fun step => step.code ++ [.atom "::"]) := by
  unfold modulePath
  simp only [parts, named]
  rfl

/-- **Paths between modules.** From the module of every package there is a path to that of every other. It leads there
without leaving the crate on the way, and it is empty exactly if both packages have the same segments. -/
theorem modulePath_leads (source target : List String) (source_lettered : ∀ segment ∈ source, IsLettered segment.toList)
    (target_lettered : ∀ segment ∈ target, IsLettered segment.toList) :
    ∃ path here there, modulePath (dotted source) (dotted target) = .ok path ∧
      source.mapM fieldIdent = .ok here ∧ target.mapM fieldIdent = .ok there ∧
      leads path (here.map Ident.spelling) = some (there.map Ident.spelling) ∧ (path = [] ↔ source = target) := by
  obtain ⟨shared, up, down⟩ := exists_shared source target
  have equal : source = target → dropShared source target = ([], []) := by
    rintro rfl
    exact dropShared_self source
  have at_dots : dropShared (packageSegments (dotted source)) (packageSegments (dotted target)) =
      dropShared source target := by
    rw [packageSegments_dotted source_lettered, packageSegments_dotted target_lettered]
  obtain ⟨⟨ups, downs⟩, parts⟩ : ∃ parts, dropShared source target = parts := ⟨_, rfl⟩
  rw [parts] at up down equal at_dots
  dsimp only at up down
  rw [up, List.forall_mem_append] at source_lettered
  rw [down, List.forall_mem_append] at target_lettered
  obtain ⟨around, around_named, -⟩ := exists_idents source_lettered.1
  obtain ⟨left, left_named, -⟩ := exists_idents source_lettered.2
  obtain ⟨entered, entered_named, names⟩ := exists_idents target_lettered.2
  refine ⟨_, around ++ left, around ++ entered, modulePath_eq at_dots entered_named, ?_, ?_, ?_, ?_, ?_⟩
  · rw [up, List.mapM_append, around_named, left_named]
    rfl
  · rw [down, List.mapM_append, around_named, entered_named]
    rfl
  · rw [List.map_append, List.map_append, leads_ups, leads_downs names]
    rw [List.length_map]
    exact (List.mapM_ok left_named).length_eq
  · intro empty
    obtain ⟨no_ups, no_downs⟩ := List.append_eq_nil_iff.mp empty
    have none_left : ups = [] := List.eq_nil_iff_forall_not_mem.mpr fun up there => by
      simpa using List.flatMap_eq_nil_iff.mp no_ups up there
    have none_entered : entered = [] := List.eq_nil_iff_forall_not_mem.mpr fun step there => by
      simpa using List.flatMap_eq_nil_iff.mp no_downs step there
    have lengths := (List.mapM_ok entered_named).length_eq
    rw [none_entered] at lengths
    rw [up, down, none_left, List.eq_nil_of_length_eq_zero lengths]
  · intro same
    obtain ⟨rfl, rfl⟩ := Prod.mk.inj (equal same)
    cases entered_named
    rfl

/-- Leaving a module with a keyword for its name, for one of a name that has no raw form. -/
theorem modulePath_leads_shop :
    ∃ path, modulePath "shop.type" "shop.super.V2" = .ok path ∧
      leads path ["shop", "r#type"] = some ["shop", "super_", "v2"] ∧ path ≠ [] := by
  obtain ⟨path, here, there, found, here_named, there_named, leads_there, empty_iff⟩ :=
    modulePath_leads ["shop", "type"] ["shop", "super", "V2"] (by decide +kernel) (by decide +kernel)
  have from_here : ["shop", "type"].mapM fieldIdent = .ok [⟨"shop", false⟩, ⟨"type", true⟩] := by decide +kernel
  have to_there : ["shop", "super", "V2"].mapM fieldIdent =
      .ok [⟨"shop", false⟩, ⟨"super_", false⟩, ⟨"v2", false⟩] := by decide +kernel
  cases here_named.symm.trans from_here
  cases there_named.symm.trans to_there
  have packages : dotted ["shop", "type"] = "shop.type" ∧ dotted ["shop", "super", "V2"] = "shop.super.V2" := by
    decide +kernel
  rw [packages.1, packages.2] at found
  exact ⟨path, found, leads_there, fun empty => absurd (empty_iff.mp empty) (by decide)⟩

end ProtoStore.Naming
