import Mathlib.Data.List.Nodup
import ProtoStore.Emit.FieldMask
import ProtoStore.Proofs.Emit.Clashes
import ProtoStore.Proofs.Except
import ProtoStore.Proofs.Text.Lettered

/-!
# Segments of field masks

A path leads to a field by the first arm that has its segment. In camel case different fields may share a segment.

* `Emit.maskNames` : the names that stand for the fields of a message, a oneof's for its members;
* `Emit.Addressed` : each of them has an arm, and no two arms have one segment;
* `Emit.maskEntries_addressed` : this is so if no two fields share a segment but the members of a oneof;
* `Emit.maskNames_addressed_iff` : and only if the segments of the names are different.
-/

namespace ProtoStore

/-- The name that stands for a field in a path. -/
def Field.maskName (field : Field) : String := field.oneof.getD field.name

namespace Emit

variable {scope : Scope} {case : MaskCase} {entries found : List MaskEntry} {fields : List Field}
  {name : String} {names : List String}

/-- The names that stand for fields: those of the fields outside of oneofs, and those of the oneofs. -/
def maskNames (fields : List Field) : List String :=
  (fields.filter (·.oneof.isNone)).map (·.name) ++ (fields.filterMap (·.oneof)).dedup

/-- The arm of an entry is that of a name. -/
structure MaskEntry.Reaches (case : MaskCase) (entry : MaskEntry) (name : String) : Prop where
  segment : entry.segment = Config.segment case name
  field : Naming.fieldIdent name = .ok entry.field

/-- No arm is shadowed by an earlier one, and no name is left without one. -/
structure Addressed (case : MaskCase) (names : List String) (entries : List MaskEntry) : Prop where
  unshadowed : (entries.map (·.segment)).Nodup
  reached : ∀ name ∈ names, ∃ entry ∈ entries, entry.Reaches case name

/-- Two fields share a segment only as members of one oneof. -/
def Apart (case : MaskCase) (one other : Field) : Prop :=
  Config.segment case one.maskName = Config.segment case other.maskName →
    one.oneof.isSome = true ∧ one.oneof = other.oneof

/-! ## Names -/

theorem maskName_of_none {field : Field} (h : field.oneof = none) : field.maskName = field.name := by
  rw [Field.maskName, h, Option.getD_none]

theorem maskName_of_some {field : Field} {oneof : String} (h : field.oneof = some oneof) :
    field.maskName = oneof := by
  rw [Field.maskName, h, Option.getD_some]

theorem mem_maskNames : name ∈ maskNames fields ↔ ∃ field ∈ fields, field.maskName = name := by
  simp only [maskNames, List.mem_append, List.mem_map, List.mem_filter, List.mem_dedup, List.mem_filterMap,
    Option.isNone_iff_eq_none]
  constructor
  · rintro (⟨field, ⟨there, alone⟩, rfl⟩ | ⟨field, there, member⟩)
    · exact ⟨field, there, maskName_of_none alone⟩
    · exact ⟨field, there, maskName_of_some member⟩
  · rintro ⟨field, there, rfl⟩
    cases member : field.oneof with
    | none => exact .inl ⟨field, ⟨there, member⟩, (maskName_of_none member).symm⟩
    | some oneof => exact .inr ⟨field, there, by rw [member, maskName_of_some member]⟩

theorem maskNames_cons_of_none {field : Field} (h : field.oneof = none) (fields : List Field) :
    maskNames (field :: fields) = field.name :: maskNames fields := by
  simp [maskNames, h]

theorem maskNames_sublist_cons (field : Field) (fields : List Field) :
    (maskNames fields).Sublist (maskNames (field :: fields)) := by
  cases member : field.oneof with
  | none =>
    rw [maskNames_cons_of_none member]
    exact List.sublist_cons_self _ _
  | some oneof =>
    rw [maskNames, maskNames, List.filter_cons_of_neg (by simp [member]), List.filterMap_cons_some member]
    refine .append_left ?_ _
    by_cases listed : oneof ∈ fields.filterMap (·.oneof)
    · rw [List.dedup_cons_of_mem listed]
    · rw [List.dedup_cons_of_notMem listed]
      exact List.sublist_cons_self _ _

/-- Of different names, that of a member of a oneof is that of another field only if it is a member too. -/
theorem oneof_eq_of_maskName_eq {field other : Field} (nodup : (maskNames (field :: fields)).Nodup)
    (there : other ∈ fields) (same : field.maskName = other.maskName) :
    field.oneof.isSome = true ∧ field.oneof = other.oneof := by
  cases member : field.oneof with
  | none =>
    rw [maskNames_cons_of_none member, List.nodup_cons] at nodup
    rw [maskName_of_none member] at same
    exact absurd (mem_maskNames.mpr ⟨other, there, same.symm⟩) nodup.1
  | some oneof =>
    refine ⟨rfl, ?_⟩
    rw [maskName_of_some member] at same
    cases alone : other.oneof with
    | some another => rw [same, maskName_of_some alone]
    | none =>
      rw [maskName_of_none alone] at same
      refine absurd (List.mem_dedup.mpr (List.mem_filterMap.mpr ⟨field, List.mem_cons_self, member⟩))
        ((List.nodup_append'.mp nodup).2.2 (List.mem_map.mpr ⟨other, ?_, same.symm⟩))
      exact List.mem_filter.mpr ⟨List.mem_cons_of_mem field there, by rw [alone]; rfl⟩

/-- Fields are apart if the segments of their names are different. -/
theorem pairwise_apart (h : ((maskNames fields).map (Config.segment case)).Nodup) : fields.Pairwise (Apart case) := by
  induction fields with
  | nil => exact .nil
  | cons field fields ih =>
    refine List.pairwise_cons.mpr ⟨fun other there same => ?_,
      ih (((maskNames_sublist_cons field fields).map _).nodup h)⟩
    refine oneof_eq_of_maskName_eq h.of_map there (List.inj_on_of_nodup_map h ?_ ?_ same)
    · exact mem_maskNames.mpr ⟨field, List.mem_cons_self, rfl⟩
    · exact mem_maskNames.mpr ⟨other, List.mem_cons_of_mem field there, rfl⟩

/-! ## Arms -/

theorem exists_maskEntries (entries : List MaskEntry)
    (identified : ∀ field ∈ fields, ∃ ident, Naming.fieldIdent field.maskName = .ok ident)
    (merges : ∀ field ∈ fields, ∃ merge, nestedMerge scope field = .ok merge) :
    ∃ found, maskEntries scope entries fields = .ok found := by
  induction fields generalizing entries with
  | nil => exact ⟨entries, rfl⟩
  | cons field fields ih =>
    obtain ⟨⟨ident, named⟩, identified⟩ := List.forall_mem_cons.mp identified
    obtain ⟨⟨merge, merged⟩, merges⟩ := List.forall_mem_cons.mp merges
    have later (entries : List MaskEntry) := ih entries identified merges
    unfold maskEntries
    dsimp only
    cases member : field.oneof with
    | none =>
      rw [maskName_of_none member] at named
      obtain ⟨found, rest⟩ := later _
      exact ⟨found, Except.bind_eq_ok.mpr ⟨ident, named, Except.bind_eq_ok.mpr ⟨merge, merged, rest⟩⟩⟩
    | some oneof =>
      rw [maskName_of_some member] at named
      dsimp only
      split
      · obtain ⟨found, rest⟩ := later _
        exact ⟨found, Except.bind_eq_ok.mpr ⟨ident, named, rest⟩⟩
      · exact later entries

/-- The entries made so far leave the segments of later fields free, but for members of their own oneofs. -/
def Free (case : MaskCase) (entries : List MaskEntry) (fields : List Field) : Prop :=
  ∀ entry ∈ entries, ∀ field ∈ fields, entry.segment = Config.segment case field.maskName →
    field.oneof.isSome = true ∧ Naming.fieldIdent field.maskName = .ok entry.field

theorem nodup_push {entry : MaskEntry} (unshadowed : (entries.map (·.segment)).Nodup)
    (h : ∀ other ∈ entries, other.segment ≠ entry.segment) : ((entries ++ [entry]).map (·.segment)).Nodup := by
  rw [List.map_append, List.map_singleton, List.nodup_append_comm, List.singleton_append, List.nodup_cons]
  refine ⟨fun there => ?_, unshadowed⟩
  obtain ⟨other, inside, same⟩ := List.mem_map.mp there
  exact h other inside same

theorem Free.push {field : Field} {entry : MaskEntry} (free : Free case entries (field :: fields))
    (apart : ∀ other ∈ fields, Apart case field other) (reaches : entry.Reaches case field.maskName) :
    Free case (entries ++ [entry]) fields := by
  refine List.forall_mem_append.mpr ⟨fun entry there other later => ?_, List.forall_mem_singleton.mpr ?_⟩
  · exact free entry there other (List.mem_cons_of_mem field later)
  · intro other later same
    obtain ⟨member, oneof⟩ := apart other later (reaches.segment.symm.trans same)
    obtain ⟨name, named⟩ := Option.isSome_iff_exists.mp member
    refine ⟨oneof ▸ member, ?_⟩
    rw [maskName_of_some (oneof ▸ named), ← maskName_of_some named]
    exact reaches.field

theorem maskEntries_addressed (apart : fields.Pairwise (Apart scope.config.maskCase))
    (unshadowed : (entries.map (·.segment)).Nodup) (free : Free scope.config.maskCase entries fields)
    (h : maskEntries scope entries fields = .ok found) :
    entries ⊆ found ∧ (found.map (·.segment)).Nodup ∧
      ∀ field ∈ fields, ∃ entry ∈ found, entry.Reaches scope.config.maskCase field.maskName := by
  induction fields generalizing entries with
  | nil =>
    cases h
    exact ⟨List.Subset.refl _, unshadowed, List.forall_mem_nil _⟩
  | cons field fields ih =>
    obtain ⟨first, apart⟩ := List.pairwise_cons.mp apart
    have push {entry : MaskEntry} (reaches : entry.Reaches scope.config.maskCase field.maskName)
        (fresh : ∀ other ∈ entries, other.segment ≠ entry.segment)
        (rest : maskEntries scope (entries ++ [entry]) fields = .ok found) :
        entries ⊆ found ∧ (found.map (·.segment)).Nodup ∧
          ∀ field' ∈ field :: fields, ∃ entry ∈ found, entry.Reaches scope.config.maskCase field'.maskName := by
      obtain ⟨kept, nodup, reached⟩ := ih apart (nodup_push unshadowed fresh) (free.push first reaches) rest
      obtain ⟨earlier, own⟩ := List.append_subset.mp kept
      have made : entry ∈ found := own (List.mem_singleton_self entry)
      exact ⟨earlier, nodup, List.forall_mem_cons.mpr ⟨⟨entry, made, reaches⟩, reached⟩⟩
    unfold maskEntries at h
    dsimp only at h
    cases member : field.oneof with
    | none =>
      rw [member] at h
      obtain ⟨ident, named, h⟩ := Except.bind_eq_ok.mp h
      obtain ⟨merge, -, h⟩ := Except.bind_eq_ok.mp h
      rw [← maskName_of_none member] at named h
      refine push ⟨rfl, named⟩ (fun other there same => ?_) h
      have := (free other there field List.mem_cons_self same).1
      rw [member] at this
      cases this
    | some oneof =>
      rw [member] at h
      dsimp only at h
      split at h
      · next fresh =>
        obtain ⟨ident, named, h⟩ := Except.bind_eq_ok.mp h
        rw [← maskName_of_some member] at named h fresh
        refine push ⟨rfl, named⟩ (fun other there => ?_) h
        simpa using List.all_eq_true.mp fresh other there
      · next taken =>
        obtain ⟨kept, nodup, reached⟩ := ih apart unshadowed
          (fun entry there other later => free entry there other (List.mem_cons_of_mem field later)) h
        refine ⟨kept, nodup, List.forall_mem_cons.mpr ⟨?_, reached⟩⟩
        obtain ⟨entry, there, same⟩ : ∃ entry ∈ entries,
            entry.segment = Config.segment scope.config.maskCase oneof := by simpa using taken
        rw [← maskName_of_some member] at same
        exact ⟨entry, kept there, same, (free entry there field List.mem_cons_self same).2⟩

/-! ## Addressed fields -/

theorem Addressed.nodup (addressed : Addressed case names entries) (distinct : (names.map Naming.fieldIdent).Nodup) :
    (names.map (Config.segment case)).Nodup := by
  refine distinct.of_map.map_on fun one here other there same => ?_
  obtain ⟨entry, inside, reaches⟩ := addressed.reached one here
  obtain ⟨another, within, reaches'⟩ := addressed.reached other there
  have equal : entry = another := List.inj_on_of_nodup_map addressed.unshadowed inside within
    (reaches.segment.trans (same.trans reaches'.segment.symm))
  subst equal
  exact List.inj_on_of_nodup_map distinct here there (reaches.field.trans reaches'.field.symm)

theorem nodup_segment_proto (distinct : (names.map Naming.fieldIdent).Nodup) :
    (names.map (Config.segment .proto)).Nodup := by
  rw [show Config.segment .proto = id from rfl, List.map_id]
  exact distinct.of_map

theorem nodup_segment_camel (chars : ∀ name ∈ names, name.toList.all Text.isNameChar = true) :
    (names.map (Config.segment .camel)).Nodup ↔ (names.map Text.unbroken).Nodup := by
  rw [show Config.segment .camel = Naming.camel from rfl]
  simp only [List.Nodup, List.pairwise_map]
  refine List.Pairwise.iff_of_mem fun {one other} here there => not_congr ?_
  exact Naming.camel_eq_iff.trans (Text.camelCase_eq_iff (chars one here) (chars other there))

/-- **Arms of merge functions.** Each name has an arm, and no arm is shadowed by an earlier one, exactly if the segments
of the names are different. Spelled as in the schema they are. In camel case names of ASCII have one segment exactly if
they are the same in snake case, underscores before digits apart. -/
theorem maskNames_addressed_iff (scope : Scope) (fields : List Field)
    (identified : ∀ name ∈ maskNames fields, ∃ ident, Naming.fieldIdent name = .ok ident)
    (distinct : ((maskNames fields).map Naming.fieldIdent).Nodup)
    (merges : ∀ field ∈ fields, ∃ merge, nestedMerge scope field = .ok merge) :
    ∃ entries, maskEntries scope [] fields = .ok entries ∧
      (Addressed scope.config.maskCase (maskNames fields) entries ↔
        ((maskNames fields).map (Config.segment scope.config.maskCase)).Nodup) ∧
      ((maskNames fields).map (Config.segment .proto)).Nodup ∧
      ((∀ name ∈ maskNames fields, name.toList.all Text.isNameChar = true) →
        (((maskNames fields).map (Config.segment .camel)).Nodup ↔ ((maskNames fields).map Text.unbroken).Nodup)) := by
  obtain ⟨entries, found⟩ := exists_maskEntries []
    (fun field there => identified _ (mem_maskNames.mpr ⟨field, there, rfl⟩)) merges
  refine ⟨entries, found, ⟨fun addressed => addressed.nodup distinct, fun nodup => ?_⟩,
    nodup_segment_proto distinct, nodup_segment_camel⟩
  have none : (([] : List MaskEntry).map (·.segment)).Nodup := List.nodup_nil
  obtain ⟨-, unshadowed, reached⟩ := maskEntries_addressed (pairwise_apart nodup) none (List.forall_mem_nil _) found
  refine ⟨unshadowed, fun name there => ?_⟩
  obtain ⟨field, inside, rfl⟩ := mem_maskNames.mp there
  exact reached field inside

/-- A label holds a line, and one of two other texts. -/
def label (oneof : String) : List Field :=
  let text : Field := ⟨"line1", 1, .scalar .string, false, .unspecified, none, none, false, false, none⟩
  let choice : Field := { text with oneof, dropped := true }
  [text, { choice with name := "short", number := 2 }, { choice with name := "long", number := 3 }]

def labelScope (fields : List Field) : Scope where
  config := .default
  models := ⟨⟨[], ["Label"]⟩, []⟩
  message := ⟨"Label", "Label", "", "label.proto", fields, true, none⟩
  record := ⟨"Label", "Label", "", "label.proto", "labels", [], none, []⟩

theorem maskNames_label (oneof : String) : maskNames (label oneof) = ["line1", oneof] := by
  simp [maskNames, label]

theorem nestedMerge_label (scope : Scope) (oneof : String) :
    ∀ field ∈ label oneof, ∃ merge, nestedMerge scope field = .ok merge :=
  List.forall_mem_cons.mpr ⟨⟨none, rfl⟩, List.forall_mem_cons.mpr ⟨⟨none, rfl⟩,
    List.forall_mem_singleton.mpr ⟨none, rfl⟩⟩⟩

theorem label_addressed : ∃ entries, maskEntries (labelScope (label "line_2")) [] (label "line_2") = .ok entries ∧
    Addressed .camel ["line1", "line_2"] entries := by
  have idents : ["line1", "line_2"].map Naming.fieldIdent = [.ok ⟨"line1", false⟩, .ok ⟨"line_2", false⟩] := by
    decide +kernel
  have main := maskNames_addressed_iff (labelScope (label "line_2")) (label "line_2")
  rw [maskNames_label, idents] at main
  have identified : ∀ name ∈ ["line1", "line_2"], ∃ ident, Naming.fieldIdent name = .ok ident :=
    List.forall_mem_cons.mpr ⟨⟨_, (List.cons.inj idents).1⟩,
      List.forall_mem_singleton.mpr ⟨_, (List.cons.inj (List.cons.inj idents).2).1⟩⟩
  obtain ⟨entries, found, addressed, -, spelled⟩ := main identified (by decide) (nestedMerge_label _ _)
  exact ⟨entries, found, addressed.mpr ((spelled (by decide +kernel)).mpr (by decide +kernel))⟩

/-- In camel case a oneof after a field of its segment has no arm, though they are different fields. -/
theorem label_unaddressed : maskNames (label "line_1") = ["line1", "line_1"] ∧
    ["line1", "line_1"].map Naming.fieldIdent = [.ok ⟨"line1", false⟩, .ok ⟨"line_1", false⟩] ∧
    ["line1", "line_1"].map (Config.segment .camel) = ["Line1", "Line1"] ∧
    ∃ entries, maskEntries (labelScope (label "line_1")) [] (label "line_1") = .ok entries ∧
      entries.map (fun entry => (entry.segment, entry.field.text)) = [("Line1", "line1")] ∧
      ¬ Addressed .camel ["line1", "line_1"] entries := by
  have distinct : (["line1", "line_1"].map Naming.fieldIdent).Nodup := by decide +kernel
  have arms : (maskEntries (labelScope (label "line_1")) [] (label "line_1")).map
      (·.map fun entry => (entry.segment, entry.field.text)) = .ok [("Line1", "line1")] := by decide +kernel
  obtain ⟨entries, found, arms⟩ := Except.map_eq_ok.mp arms
  refine ⟨maskNames_label "line_1", by decide +kernel, by decide +kernel, entries, found, arms, fun addressed => ?_⟩
  exact absurd (addressed.nodup distinct) (by decide +kernel)

-- Before the field, it takes the field's arm.
example : (maskEntries (labelScope (label "line_1").reverse) [] (label "line_1").reverse).map
    (·.map fun entry => (entry.segment, entry.field.text)) = .ok [("Line1", "line_1"), ("Line1", "line1")] := by
  decide +kernel

end Emit

end ProtoStore
