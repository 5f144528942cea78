import ProtoStore.Proofs.Blog.Leaves
import ProtoStore.Proofs.Blog.Narrowing
import ProtoStore.Proofs.Blog.Numbers
import ProtoStore.Proofs.Domain.Listing

/-!
# Lists of the blog

Ratings of articles are the only columns that may hold what is not a number (`exists_nan`). So all other
messages are listed in order, and articles are unless a rating is not a number (`list_rises`). Whatever has no
rating is listed alike in stores with the same rows (`list_alike`).

A list without an order of its own has one message for each row that meets its conditions, in the order of their
keys, and each of them is what is read under its key, with the same columns selected (`list_reads`).
-/

namespace ProtoStore.Blog

open Domain Store Operations

/-! ## Columns without an order -/

theorem isOrdered_option {α : Type} [ToValue α] (h : ∀ a : α, (toValue a).isOrdered = true) (x : Option α) :
    (toValue x).isOrdered = true := by
  cases x with
  | none => rfl
  | some a => exact h a

/-- Columns hold no floats, but for the ratings of articles. -/
theorem forall_columns {e : Entity} (row : Record e) : ∀ column ∈ (record (table e)).columns,
    (column.value row).isOrdered = true ∨
      e = .article ∧ column.name = "rating" ∧ ∃ x : Option Number.Double, column.value row = toValue x := by
  cases e
  -- The columns are known once the entity is, so each of them is looked at.
  all_goals
    repeat' first | exact List.forall_mem_nil _ | refine List.forall_mem_cons.mpr ⟨?_, ?_⟩
  all_goals
    first
      | exact Or.inl rfl
      | exact Or.inl (isOrdered_option (fun _ => rfl) _)
      | exact Or.inr ⟨rfl, rfl, _, rfl⟩

/-- A value without an order is a rating that is not a number. -/
theorem exists_nan {e : Entity} {row : Record e} {column : String} {value : Value}
    (there : (record (table e)).value? row column = some value) (unordered : value.isOrdered ≠ true) :
    e = .article ∧ column = "rating" ∧ ∃ x : Number.Double, value = .float x ∧ x.isNaN = true := by
  rw [RecordType.value?, Option.map_eq_some_iff] at there
  obtain ⟨found, known, rfl⟩ := there
  have named : found.name = column :=
    beq_iff_eq.mp (List.find?_some (p := fun other : Column (Record e) => other.name == column) known)
  rcases forall_columns row found (List.mem_of_find?_eq_some known) with ordered | ⟨article, rating, x, held⟩
  · exact absurd ordered unordered
  · refine ⟨article, named.symm.trans rating, ?_⟩
    rw [held] at unordered ⊢
    cases x with
    | none => exact absurd rfl unordered
    | some x =>
      refine ⟨x, rfl, ?_⟩
      have ordered : (toValue (some x)).isOrdered = !x.isNaN := rfl
      rw [ordered] at unordered
      simpa using unordered

/-- Rows in a circle are articles, sorted by ratings one of which is not a number. -/
theorem nan_of_circular {e : Entity} {operators : Operators} {rows : List (Record e)}
    (circle : (record (table e)).Circular (listQuery e operators).order rows) :
    e = .article ∧ (∃ term ∈ operators.sorting, term.column = "rating") ∧ ∃ row ∈ rows, ∃ x : Number.Double,
      (record (table e)).value? row "rating" = some (.float x) ∧ x.isNaN = true := by
  by_cases orderly : ∀ row ∈ rows, (record (table e)).Orderly (listQuery e operators).order row
  · exact absurd circle (RecordType.not_circular_of_transitive (RecordType.transitive_of_orderly orderly))
  · unfold RecordType.Orderly at orderly
    push Not at orderly
    obtain ⟨row, inside, term, sorted, value, there, unordered⟩ := orderly
    obtain ⟨rfl, rating, x, rfl, nan⟩ := exists_nan there unordered
    refine ⟨rfl, ?_, row, inside, x, rating ▸ there, nan⟩
    rcases List.mem_append.mp sorted with sorted | key
    · exact ⟨term, sorted, rating⟩
    · rw [List.mem_singleton.mp key] at rating
      exact absurd rating (by decide)

/-! ## Lists in order -/

/-- In every store that calls leave, a list of whole messages is in the order asked for, and then in that of
keys, unless three of the rows are in a circle. Only articles that are sorted by ratings can be, and only if a
rating is not a number. -/
theorem list_rises (fresh : Nat → Uuid) (calls : List (Context × Call Entity)) {e : Entity} {context : Context}
    {operators : Operators} {messages : List e.Message} {last : World Kind Unit}
    (unprojected : operators.fields = none)
    (known : ∀ term ∈ operators.sorting, HasColumn (table e) term.column)
    (answered : Operations.list Hooks.none e operators ⟨run (Store.empty fresh) calls, context, ()⟩ =
      (.ok messages, last)) :
    let store : Store Kind := run (Store.empty fresh) calls
    (∃ rows, Listed store e operators rows messages) ∧
      ((record (table e)).Circular (listQuery e operators).order (store.chosen (table e) operators.filter) →
        e = .article ∧ (∃ term ∈ operators.sorting, term.column = "rating") ∧
          ∃ row ∈ store.chosen (table e) operators.filter, ∃ x : Number.Double,
            (record (table e)).value? row "rating" = some (.float x) ∧ x.isNaN = true) :=
  ⟨exists_listed (legible_run fresh calls).distinct unprojected known answered, nan_of_circular⟩

/-- Creates an article with an identifier and a rating. -/
def rated (id : String) (rating : UInt64) : Context × Call Entity :=
  (.unlimited, .create .article (some { (default : Article) with id := some ⟨id⟩, rating := some ⟨rating⟩ }))

/-- A store with three articles, rated 3, not a number, and 1. -/
def ratedStore : Store Kind := run (Store.empty fun n => ⟨.ofNat 128 n⟩) [
  rated "00000000-0000-0000-0000-00000000000a" 0x4008000000000000,
  rated "00000000-0000-0000-0000-00000000000b" 0x7ff8000000000000,
  rated "00000000-0000-0000-0000-00000000000c" 0x3ff0000000000000]

/-- Articles that meet conditions, by their ratings. -/
def byRating (conditions : List Condition) : Operators := ⟨conditions, [⟨"rating", false⟩], none, none⟩

/-- What is listed of some articles, if that does not fail. -/
def listedRatings (store : Store Kind) (operators : Operators) : Option (List (Option Number.Double)) :=
  let result := (Operations.list Hooks.none Entity.article operators ⟨store, .unlimited, ()⟩).1
  result.toOption.map fun messages => messages.map Article.rating

theorem exists_answered {store : Store Kind} {operators : Operators} {ratings : List (Option Number.Double)}
    (h : listedRatings store operators = some ratings) : ∃ (messages : List Article) (last : World Kind Unit),
      Operations.list Hooks.none Entity.article operators ⟨store, .unlimited, ()⟩ = (.ok messages, last) ∧
        messages.map Article.rating = ratings := by
  obtain ⟨messages, answered, rfl⟩ := Option.map_eq_some_iff.mp h
  exact ⟨messages, _, Prod.ext (Except.toOption_eq_some.mp answered) rfl, rfl⟩

/-- Articles that are rated by numbers are listed in order. -/
theorem list_rises_numbers :
    let operators := byRating [.gt "rating" (.float .zero)]
    ∃ (messages : List Article) (last : World Kind Unit) (rows : List (Record Entity.article)),
      Operations.list Hooks.none Entity.article operators ⟨ratedStore, .unlimited, ()⟩ = (.ok messages, last) ∧
        messages.map Article.rating = [some ⟨0x3ff0000000000000⟩, some ⟨0x4008000000000000⟩] ∧
          Listed ratedStore Entity.article operators rows messages ∧ rows.Pairwise fun a b =>
            (record (table Entity.article)).compareBy (listQuery Entity.article operators).order a b ≠ .gt := by
  intro operators
  have listed : listedRatings ratedStore operators =
      some [some ⟨0x3ff0000000000000⟩, some ⟨0x4008000000000000⟩] := by decide +kernel
  obtain ⟨messages, last, answered, ratings⟩ := exists_answered listed
  have known : ∀ term ∈ operators.sorting, HasColumn (table Entity.article) term.column :=
    List.forall_mem_singleton.mpr rfl
  obtain ⟨⟨rows, listed⟩, circle⟩ := list_rises _ _ rfl known answered
  refine ⟨messages, last, rows, answered, ratings, listed, listed.rises fun circular => ?_⟩
  obtain ⟨-, -, row, there, x, held, nan⟩ := circle circular
  have numbers : ∀ row ∈ ratedStore.chosen (table Entity.article) operators.filter,
      ArticleRecord.rating row = some ⟨0x4008000000000000⟩ ∨
        ArticleRecord.rating row = some ⟨0x3ff0000000000000⟩ := by decide +kernel
  have rating : toValue (ArticleRecord.rating row) = .float x := Option.some.inj held
  rcases numbers row there with number | number <;>
    · rw [number] at rating
      cases rating
      exact absurd nan (by decide +kernel)

/-- Of articles rated 3, not a number, and 1, the first comes after the last in the order they are listed by. -/
theorem list_falls : ∃ (messages : List Article) (last : World Kind Unit) (rows : List (Record Entity.article)),
    Operations.list Hooks.none Entity.article (byRating []) ⟨ratedStore, .unlimited, ()⟩ = (.ok messages, last) ∧
      messages.map Article.rating =
        [some ⟨0x4008000000000000⟩, some ⟨0x7ff8000000000000⟩, some ⟨0x3ff0000000000000⟩] ∧
      List.Forall₂ (Responds .unlimited ratedStore) rows messages ∧ ¬ rows.Pairwise fun a b =>
        (record (table Entity.article)).compareBy (listQuery Entity.article (byRating [])).order a b ≠ .gt := by
  have listed : listedRatings ratedStore (byRating []) =
      some [some ⟨0x4008000000000000⟩, some ⟨0x7ff8000000000000⟩, some ⟨0x3ff0000000000000⟩] := by
    decide +kernel
  obtain ⟨messages, last, answered, ratings⟩ := exists_answered listed
  obtain ⟨rows, found, responds⟩ := exists_found answered
  refine ⟨messages, last, rows, answered, ratings, responds, ?_⟩
  have falls : ¬ ((ratedStore.find .unlimited (table Entity.article)
      (listQuery Entity.article (byRating []))).toOption.getD []).Pairwise fun a b =>
        ArticleRecord.type.compareBy (listQuery Entity.article (byRating [])).order a b ≠ .gt := by
    decide +kernel
  rw [found] at falls
  exact falls

/-! ## Stores with the same rows -/

theorem transitive_of_ne {e : Entity} (unrated : e ≠ .article) (terms : List SortTerm)
    (rows : List (Record e)) : (record (table e)).Transitive terms rows := by
  refine RecordType.transitive_of_orderly fun row _ term _ value there => ?_
  by_contra unordered
  exact unrated (exists_nan there unordered).1

/-- Two stores with the same rows, in whatever places, list the same messages with the same links, or fail
alike. -/
theorem list_alike {s t : Store Kind} (same : Alike s t) {e : Entity} (unrated : e ≠ .article)
    (operators : Operators) (context : Context) :
    (Operations.list Hooks.none e operators ⟨s, context, ()⟩).1 =
      (Operations.list Hooks.none e operators ⟨t, context, ()⟩).1 :=
  (agrees_list same operators (transitive_of_ne unrated _ _)).answer context

/-- A store with the rows of each table the other way round. -/
def reversed (store : Store Kind) : Store Kind :=
  { store with tables := fun name => (store.tables name).reverse }

theorem rows_reversed (store : Store Kind) (kind : Kind) :
    (reversed store).rows kind = (store.rows kind).reverse := List.filterMap_reverse

theorem alike_reversed {store : Store Kind} (distinct : store.Distinct) : Alike store (reversed store) := by
  refine ⟨distinct, fun kind => ?_, ?_⟩
  · rw [rows_reversed, List.map_reverse, List.nodup_reverse]
    exact distinct kind
  · intro kind row
    rw [rows_reversed, List.mem_reverse]

/-- Two threads of the same title, with replies and topics. -/
def newsCalls : List (Context × Call Entity) := [
  (.unlimited, .create .thread (some (⟨0, "News", [⟨0, "first"⟩, ⟨0, "second"⟩], [⟨"b", "B"⟩, ⟨"a", "A"⟩]⟩ : Thread))),
  (.unlimited, .create .thread (some (⟨0, "News", [⟨0, "third"⟩], []⟩ : Thread)))]

/-- Threads are listed in the order of their keys, with replies and topics in that of theirs, from whatever
place their rows are in. -/
theorem list_alike_reversed :
    let store : Store Kind := run (Store.empty fun n => ⟨.ofNat 128 n⟩) newsCalls
    let operators : Operators := ⟨[], [⟨"title", true⟩], none, none⟩
    Alike store (reversed store) ∧ Entity.thread ≠ .article ∧
      ((store.rows (.record .thread)).map ThreadRecord.id = [1, 4] ∧
        ((reversed store).rows (.record .thread)).map ThreadRecord.id = [4, 1]) ∧
      (Operations.list Hooks.none Entity.thread operators ⟨store, .unlimited, ()⟩).1 =
        (Operations.list Hooks.none Entity.thread operators ⟨reversed store, .unlimited, ()⟩).1 := by
  intro store operators
  have same : Alike store (reversed store) := alike_reversed (legible_run _ newsCalls).distinct
  exact ⟨same, by decide, by decide +kernel, list_alike same (by decide) operators .unlimited⟩

/-! ## Lists and readings -/

section

variable {e : Entity} {context : Context} {store : Store Kind} {row : Record e}

/-- A message with the selected fields, or with all of them if none are selected. -/
def Entity.shown (fields : Option (List String)) (e : Entity) (m : e.Message) : e.Message :=
  match fields with
  | none => m
  | some selection => e.narrowed selection m

theorem responds_shown {value : e.Message} (responds : Responds context store row value)
    (fields : Option (List String)) :
    Responds context store ((record (table e)).shown fields row) (e.shown fields value) := by
  cases fields with
  | none => exact responds
  | some selection => exact responds_narrowed responds

theorem keyOnly_shown (fields : Option (List String)) (m : e.Message) :
    Bindings.keyOnly e (e.shown fields m) = Bindings.keyOnly e m := by
  cases fields with
  | none => rfl
  | some selection => cases e <;> rfl

/-- The rows of a list that asks for no order are those that meet its conditions, in the order of their keys. -/
theorem find_by_keys {filter : List Condition} {window : Option Window} {fields : Option (List String)}
    (alive : context.check = .ok ())
    (reads : ∀ condition ∈ filter, HasColumn (table e) condition.column)
    (known : ∀ selection ∈ fields, ∀ column ∈ selection, HasColumn (table e) column) :
    store.find context (table e) (listQuery e ⟨filter, [], window, fields⟩) =
      .ok ((RecordType.cutBy window ((record (table e)).sort [⟨(record (table e)).keyColumn, false⟩]
        (store.chosen (table e) filter))).map ((record (table e)).shown fields)) := by
  have selects : (listQuery e ⟨filter, [], window, fields⟩).selection = fields := Option.or_none
  have cut : (listQuery e ⟨filter, [], window, fields⟩).window = window := Option.or_none
  have order : ∀ term ∈ [(⟨(record (table e)).keyColumn, false⟩ : SortTerm)], HasColumn (table e) term.column :=
    List.forall_mem_singleton.mpr (hasColumn_key e)
  obtain ⟨_, _, _, _, _, ranked, -⟩ := Loadable.sorted e
  have whole : store.find context (table e)
      { listQuery e ⟨filter, [], window, fields⟩ with selection := none } = _ :=
    find_ok.mpr ⟨alive, RecordType.answer_eq (store.rows (table e)) reads order ranked.transitive.inOrder rfl⟩
  rw [find_shown selects known, whole]
  dsimp only
  rw [cut]
  rfl

/-- A message is what is read under the key of a row, by any message with this key, and has this key itself. -/
structure ReadAs (store : Store Kind) (e : Entity) (fields : Option (List String)) (row : Record e)
    (message : e.Message) : Prop where
  keyed : ∃ other, Converts e (Bindings.keyOnly e message) other ∧
    (record (table e)).key other = (record (table e)).key row
  reads : ∀ (asked : e.Message) (other : Record e), Converts e asked other →
    (record (table e)).key other = (record (table e)).key row →
    (Operations.read Hooks.none e (some asked) fields).Yields store (.ok message) store

theorem readAs_shown {fields : Option (List String)} {value : e.Message} (distinct : store.Distinct)
    (there : row ∈ store.rows (table e)) (faithful : Faithful (table e) row)
    (keyed : (record (table e)).keyIsEmpty row = false) (responds : Responds .unlimited store row value)
    (known : ∀ selection ∈ fields, ∀ column ∈ selection, HasColumn (table e) column) :
    ReadAs store e fields row (e.shown fields value) := by
  constructor
  · rw [keyOnly_shown]
    obtain ⟨other, converts, same⟩ := exists_converts_keyOnly (converts_of_responds faithful responds)
    exact ⟨other, converts, same.trans (key_bare row)⟩
  · intro asked other converts same
    have alive : Context.unlimited.check = .ok () := rfl
    have answers : (respond Hooks.none e ((record (table e)).shown fields row)).Answers ⟨store, .unlimited, ()⟩
        (Responds .unlimited store ((record (table e)).shown fields row)) := respond_answers _
    refine (interruptible_read (e := e) (some asked) fields).yields_of_eq ?_
    rw [read_stored distinct alive there keyed converts same known]
    exact (answers _ _).mpr ⟨responds_shown responds fields, rfl⟩

end

/-- In every store that calls leave before its running number is at its end, a list without an order of its own
has one message for each row that meets its conditions, the keys of which ascend strictly, as far as its window
shows them; and each message is what is read under its key, with the same columns selected or with all. -/
theorem list_reads (fresh : Nat → Uuid) (random : ∀ n, (fresh n).isNil = false)
    (calls : List (Context × Call Entity)) (writes : ∀ call ∈ calls, call.2.Writes Entity.Addressable)
    (room : (run (Store.empty fresh) calls : Store Kind).sequence < UInt64.size) {e : Entity}
    {filter : List Condition} (window : Option Window) {fields : Option (List String)}
    (reads : ∀ condition ∈ filter, HasColumn (table e) condition.column)
    (known : ∀ selection ∈ fields, ∀ column ∈ selection, HasColumn (table e) column) :
    let store : Store Kind := run (Store.empty fresh) calls
    ∃ (rows : List (Record e)) (messages : List e.Message),
      rows.Perm (store.chosen (table e) filter) ∧
      rows.Pairwise (fun a b => (key a).compare? (key b) = some .lt) ∧
      (Operations.list Hooks.none e ⟨filter, [], window, fields⟩).Yields store (.ok messages) store ∧
      List.Forall₂ (ReadAs store e fields) (RecordType.cutBy window rows) messages := by
  intro store
  have inv := faithful_run fresh writes
  have distinct : store.Distinct := inv.distinct
  have readable : Convertible Entity store := convertible_run fresh writes
  have unexhausted : Unexhausted store := unexhausted_of_run random (Counts.refl store) room
  have alive : Context.unlimited.check = .ok () := rfl
  have keyed {row : Record e} (there : row ∈ store.rows (table e)) : (record (table e)).keyIsEmpty row = false :=
    ((numbered_run fresh calls).1.held there unexhausted).1
  let rows := (record (table e)).sort [⟨(record (table e)).keyColumn, false⟩] (store.chosen (table e) filter)
  have perm : rows.Perm (store.chosen (table e) filter) := RecordType.sort_perm _ _
  have answers : ∀ row ∈ RecordType.cutBy window rows, ∃ value,
      row ∈ store.rows (table e) ∧ Responds .unlimited store row value := by
    intro row shown
    have there : row ∈ store.rows (table e) :=
      List.mem_of_mem_filter (perm.mem_iff.mp ((RecordType.cutBy_sublist window rows).subset shown))
    obtain ⟨value, responds⟩ := exists_responds alive readable (readable e row there)
    exact ⟨value, there, responds⟩
  obtain ⟨values, answer⟩ := List.exists_forall₂ answers
  refine ⟨rows, values.map (e.shown fields), perm, ?_, ?_, ?_⟩
  · have apart : ((store.chosen (table e) filter).map key).Nodup :=
      (distinct (table e)).sublist (List.filter_sublist.map key)
    exact sort_key_ascends apart (KeyColumns.value? e) (Loadable.sorted e)
  · have all : List.Forall₂ (Responds .unlimited store)
        ((RecordType.cutBy window rows).map ((record (table e)).shown fields)) (values.map (e.shown fields)) := by
      rw [List.forall₂_map_left_iff, List.forall₂_map_right_iff]
      exact answer.imp fun _ _ found => responds_shown found.2 fields
    have lists : (Operations.list Hooks.none e ⟨filter, [], window, fields⟩).Answers ⟨store, .unlimited, ()⟩ _ :=
      list_answers _
    exact (interruptible_list (e := e) _).yields_of_eq
      ((lists _ _).mpr ⟨⟨_, find_by_keys alive reads known, all⟩, rfl⟩)
  · rw [List.forall₂_map_right_iff]
    exact answer.imp fun row value found =>
      readAs_shown distinct found.1 (inv.allowed found.1) (keyed found.1) found.2 known

/-- The second of two threads of a title is listed as it is read, with its reply. -/
theorem list_reads_news :
    let world : World Kind Unit := ⟨run (Store.empty oddUuid) newsCalls, .unlimited, ()⟩
    let news : List Condition := [.eq "title" (.string "News")]
    let fields : Option (List String) := some ["id", "title"]
    ∃ message : Thread, message = ⟨4, "News", [⟨5, "third"⟩], []⟩ ∧
      Operations.list Hooks.none Entity.thread ⟨news, [], some ⟨1, some 5⟩, fields⟩ world = (.ok [message], world) ∧
      Operations.read Hooks.none Entity.thread (some (⟨4, "", [], []⟩ : Thread)) fields world =
        (.ok message, world) := by
  have writes : ∀ call ∈ newsCalls, call.2.Writes Entity.Addressable := by
    simp [newsCalls, Call.Writes, Entity.Addressable]
  have room : (run (Store.empty oddUuid) newsCalls : Store Kind).sequence < UInt64.size := by decide +kernel
  intro world news fields
  have reads : ∀ condition ∈ news, HasColumn (table Entity.thread) condition.column := by decide
  have known : ∀ selection ∈ fields, ∀ column ∈ selection, HasColumn (table Entity.thread) column := by decide
  obtain ⟨rows, messages, -, -, yields, agree⟩ :=
    list_reads oddUuid isNil_oddUuid newsCalls writes room (some ⟨1, some 5⟩) reads known
  have listed := yields.unlimited
  let result : Except Failure (List Thread) :=
    (Operations.list Hooks.none Entity.thread ⟨news, [], some ⟨1, some 5⟩, fields⟩ world).1
  have shown : result.toOption = some [⟨4, "News", [⟨5, "third"⟩], []⟩] := by decide +kernel
  have same : result = .ok messages := congrArg Prod.fst listed
  rw [same] at shown
  obtain rfl := Option.some.inj shown
  refine ⟨_, rfl, listed, ?_⟩
  obtain ⟨row, -, same⟩ := agree.exists_left (List.mem_singleton_self _)
  obtain ⟨other, converts, key⟩ := same.keyed
  exact (same.reads _ other converts key).unlimited

end ProtoStore.Blog
