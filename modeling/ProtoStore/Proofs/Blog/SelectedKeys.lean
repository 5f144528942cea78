import ProtoStore.Proofs.Blog.Narrowing
import ProtoStore.Proofs.Domain.Run

/-!
# Keys under a selection

A selection keeps the key column, which holds the key of a record, but of a join row only the key of the owner.
So the keys of records are always kept, and those of join rows if the key of the tag is selected. If it is not,
all rows of one owner are found under one key (`selected_keys_iff`, `selected_keys_lost`).
-/

namespace ProtoStore.Blog

open Domain Store

variable {kind : Kind} {selection : List String} {row : Row kind}

/-! ## The two parts of a key -/

/-- The value of the key column of a row: its key, or that of the owner in a join row. -/
def owner? (row : Row kind) : Option Value := (record kind).value? row (record kind).keyColumn

/-- The key of the tag in a join row. -/
def Kind.tag? : (kind : Kind) → Row kind → Option String
  | .record _, _ => none
  | .articleTag, (r : ArticleTag) => some r.tagId
  | .threadTopic, (r : ThreadTopic) => some r.tagId
  | .digestFeatured, (r : DigestTag) | .digestHidden, (r : DigestTag) => some r.tagId

theorem key_eq_iff {a b : Row kind} : key a = key b ↔ owner? a = owner? b ∧ kind.tag? a = kind.tag? b := by
  cases kind with
  | record e =>
    have single {x y : Value} : x = y ↔ some x = some y ∧ (none : Option String) = none := by
      rw [Option.some_inj, eq_self, and_true]
    cases e
    all_goals exact single
  | articleTag | threadTopic | digestFeatured | digestHidden =>
    have pair {x y : Value} {s t : String} : Value.list [x, .string s] = Value.list [y, .string t] ↔
        some x = some y ∧ some s = some t := by
      rw [Value.list.injEq, List.cons.injEq, List.cons.injEq, Value.string.injEq]
      simp
    exact pair

theorem isSome_tag?_eq (a b : Row kind) : (kind.tag? a).isSome = (kind.tag? b).isSome := by
  cases kind
  all_goals rfl

/-- A selection keeps the value of the key column. -/
theorem owner?_keepOnly : owner? ((record kind).keepOnly selection row) = owner? row := by
  rw [keepOnly_eq]
  cases kind with
  | record e =>
    cases e
    all_goals rfl
  | articleTag | threadTopic | digestFeatured | digestHidden => rfl

theorem tag?_keepOnly : kind.tag? ((record kind).keepOnly selection row) =
    (kind.tag? row).map (narrow selection "tag_id") := by
  rw [keepOnly_eq]
  cases kind with
  | record e => rfl
  | articleTag | threadTopic | digestFeatured | digestHidden => rfl

/-- What keeps the key of a row. -/
theorem key_keepOnly_iff : key ((record kind).keepOnly selection row) = key row ↔
    "tag_id" ∈ selection ∨ ∀ tag ∈ kind.tag? row, tag = "" := by
  rw [key_eq_iff, owner?_keepOnly, tag?_keepOnly]
  by_cases selected : "tag_id" ∈ selection
  · simp only [map_narrow_selected selected, selected, and_self, true_or]
  · cases kind.tag? row with
    | none => simp
    | some tag =>
      simp only [Option.map_some, narrow_unselected selected, Option.mem_some_iff, forall_eq', selected, true_and,
        false_or, Option.some_inj]
      exact eq_comm

/-- What makes different keys equal. -/
theorem key_keepOnly_eq_iff {a b : Row kind} (different : key a ≠ key b) :
    key ((record kind).keepOnly selection a) = key ((record kind).keepOnly selection b) ↔
      "tag_id" ∉ selection ∧ owner? a = owner? b ∧ (kind.tag? a).isSome = true := by
  rw [Ne, key_eq_iff] at different
  rw [key_eq_iff, owner?_keepOnly, owner?_keepOnly, tag?_keepOnly, tag?_keepOnly]
  have both := isSome_tag?_eq a b
  by_cases selected : "tag_id" ∈ selection
  · simpa only [map_narrow_selected selected, selected, not_true_eq_false, false_and, iff_false] using different
  · revert different both
    cases kind.tag? a with
    | none =>
      cases kind.tag? b with
      | none => simp
      | some _ => exact fun _ both => nomatch both
    | some _ =>
      cases kind.tag? b with
      | none => exact fun _ both => nomatch both
      | some _ => simp [selected]

/-! ## Keys of what is found -/

/-- Every row found with a selection comes from a stored row. It has the key of that row if it is a record, or if
the column of the tag is selected, and two rows of different keys get the same one exactly if they are join rows
of one owner without that column. -/
theorem selected_keys_iff {store : Store Kind} {context : Context} {kind : Kind} {query : Query}
    {selection : List String} {found : List (Row kind)} (selects : query.selection = some selection)
    (answered : store.find context kind query = .ok found) :
    ∃ sources : List (Row kind), store.find context kind { query with selection := none } = .ok sources ∧
      (∀ source ∈ sources, source ∈ store.rows kind) ∧
      found = sources.map ((record kind).keepOnly selection) ∧
      (∀ source, key ((record kind).keepOnly selection source) = key source ↔
        "tag_id" ∈ selection ∨ ∀ tag ∈ kind.tag? source, tag = "") ∧
      ∀ a b : Row kind, key a ≠ key b →
        (key ((record kind).keepOnly selection a) = key ((record kind).keepOnly selection b) ↔
          "tag_id" ∉ selection ∧ owner? a = owner? b ∧ (kind.tag? a).isSome = true) := by
  obtain ⟨sources, whole, rfl⟩ := exists_sources selects answered
  exact ⟨sources, whole, fun source there => mem_of_find whole rfl there, rfl, fun source => key_keepOnly_iff,
    fun a b different => key_keepOnly_eq_iff different⟩

/-- A store with a thread of two topics. -/
def topicStore : Store Kind :=
  let news : Call Entity := .create .thread (some (⟨0, "News", [], [⟨"a", "A"⟩, ⟨"b", "B"⟩]⟩ : Thread))
  run (Store.empty fun n => ⟨.ofNat 128 n⟩) [(.unlimited, news)]

/-- All rows, with some columns. -/
def columnsOnly (selection : List String) : Query := { Query.all with selection := some selection }

/-- The topics found in the store, if there is no failure. -/
def foundTopics (query : Query) : Option (List ThreadTopic) :=
  (topicStore.find .unlimited .threadTopic query).toOption

/-- The topics of a thread are found under their keys if the column of the tag is selected. -/
theorem selected_keys_iff_topics :
    ∃ found : List ThreadTopic, topicStore.find .unlimited .threadTopic (columnsOnly ["tag_id"]) = .ok found ∧
      found = [⟨1, "a"⟩, ⟨1, "b"⟩] ∧
      ∃ sources : List (Row Kind.threadTopic),
        topicStore.find .unlimited .threadTopic { columnsOnly ["tag_id"] with selection := none } = .ok sources ∧
        found = sources.map ((record Kind.threadTopic).keepOnly ["tag_id"]) ∧
        ∀ source, key ((record Kind.threadTopic).keepOnly ["tag_id"] source) = key source := by
  have two : foundTopics (columnsOnly ["tag_id"]) = some [⟨1, "a"⟩, ⟨1, "b"⟩] := by decide +kernel
  have answered := Except.toOption_eq_some.mp two
  obtain ⟨sources, whole, -, same, kept, -⟩ := selected_keys_iff rfl answered
  exact ⟨_, answered, rfl, sources, whole, same, fun source => (kept source).mpr (.inl (by decide))⟩

/-- If only the column of the thread is selected, its two topics are found under one key, that of none. -/
theorem selected_keys_lost :
    ∃ sources found : List ThreadTopic,
      topicStore.find .unlimited .threadTopic Query.all = .ok sources ∧
      topicStore.find .unlimited .threadTopic (columnsOnly ["thread_id"]) = .ok found ∧
      (∀ column ∈ ["thread_id"], ((record Kind.threadTopic).column? column).isSome = true) ∧
      sources.map ThreadTopic.type.key = [(1, "a"), (1, "b")] ∧
      found.map ThreadTopic.type.key = [(1, ""), (1, "")] := by
  have two : foundTopics Query.all = some [⟨1, "a"⟩, ⟨1, "b"⟩] := by decide +kernel
  have one : foundTopics (columnsOnly ["thread_id"]) = some [⟨1, ""⟩, ⟨1, ""⟩] := by decide +kernel
  exact ⟨_, _, Except.toOption_eq_some.mp two, Except.toOption_eq_some.mp one,
    List.forall_mem_singleton.mpr rfl, rfl, rfl⟩

end ProtoStore.Blog
