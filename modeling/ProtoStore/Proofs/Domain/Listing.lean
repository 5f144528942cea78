import ProtoStore.Proofs.Domain.Idle
import ProtoStore.Proofs.Domain.Lasting
import ProtoStore.Proofs.Domain.Reload
import ProtoStore.Proofs.Store.Selection

/-!
# Lists

Rows are listed in the order of the columns that a caller sorts by, and after these in that of their keys,
which tell all rows apart (`separated_key`); by these alone they ascend strictly (`sort_key_ascends`).

* `Action.Agrees` : an action answers the same from two stores, and leaves both as they are;
* `agrees_list` : stores with the same rows list the same, or fail alike;
* `list_answers`, `exists_listed` : which rows the messages of a list come from, and when these are in order.
-/

namespace ProtoStore

/-! ## Sorting by keys -/

namespace Store

variable {K : Type} [Catalog K] [ExactKeys K] {kind : K} {rows : List (Row kind)}

/-- Rows that are compared by the key column are compared by their keys. -/
theorem exists_compare_key (hk : KeyColumn kind) (a b : Row kind) : ∃ order,
    (key a).compare? (key b) = some order ∧
      (record kind).compareBy [⟨(record kind).keyColumn, false⟩] a b = order := by
  have ordered (row : Row kind) : (key row).isOrdered = true :=
    Value.isOrdered_of_isExact (ExactKeys.isExact kind row)
  obtain ⟨order, found⟩ := Value.exists_compare? (ordered a) (ordered b)
  have at_ : (record kind).compareAt (record kind).keyColumn a b = order := by
    rw [RecordType.compareAt_eq (hk a) (hk b), found, Option.getD_some]
  refine ⟨order, found, ?_⟩
  rw [RecordType.compareBy_cons]
  exact (congrArg (Ordering.then · .eq) at_).trans Ordering.then_eq

/-- Rows of different keys are told apart by any order that ends with their keys. -/
theorem separated_key (distinct : (rows.map key).Nodup) (hk : KeyColumn kind) (terms : List SortTerm) :
    (record kind).Separated (terms ++ [⟨(record kind).keyColumn, false⟩]) rows := by
  intro a ha b hb equal
  obtain ⟨order, found, last⟩ := exists_compare_key hk a b
  rw [RecordType.compareBy_append, Ordering.then_eq_eq, last] at equal
  rw [equal.2] at found
  exact eq_of_key distinct ha hb ((Value.compare?_eq_iff (Or.inl (ExactKeys.isExact kind a))).mp found)

/-- Rows of different keys that are sorted by them ascend strictly. -/
theorem sort_key_ascends (distinct : (rows.map key).Nodup) (hk : KeyColumn kind) (sorted : SortedByKey kind) :
    ((record kind).sort [⟨(record kind).keyColumn, false⟩] rows).Pairwise fun a b =>
      (key a).compare? (key b) = some .lt := by
  obtain ⟨_, _, _, _, _, ranked, -⟩ := sorted
  have rises : (record kind).Rising _ ((record kind).sort [⟨(record kind).keyColumn, false⟩] rows) :=
    RecordType.sort_rising ranked.transitive
  have apart : (((record kind).sort [⟨(record kind).keyColumn, false⟩] rows).map key).Nodup :=
    ((RecordType.sort_perm _ rows).map key).nodup_iff.mpr distinct
  refine (rises.and (List.pairwise_map.mp apart)).imp ?_
  rintro a b ⟨le, different⟩
  obtain ⟨order, found, compared⟩ := exists_compare_key hk a b
  rw [compared] at le
  rw [found]
  cases order with
  | lt => rfl
  | eq => exact absurd ((Value.compare?_eq_iff (Or.inl (ExactKeys.isExact kind a))).mp found) different
  | gt => cases le

end Store

namespace Domain

variable {K α β : Type} [Catalog K]

/-! ## Actions that answer the same -/

/-- An action answers the same from two stores, in whatever context, and leaves both as they are. -/
def Action.Agrees (act : Action K Unit α) (s t : Store K) : Prop :=
  ∀ context, ∃ result later,
    act ⟨s, context, ()⟩ = (result, ⟨s, later, ()⟩) ∧ act ⟨t, context, ()⟩ = (result, ⟨t, later, ()⟩)

namespace Action.Agrees

variable {act : Action K Unit α} {s t : Store K}

theorem pure (a : α) : (Pure.pure a : Action K Unit α).Agrees s t := fun _ => ⟨_, _, rfl, rfl⟩

theorem ofExcept (result : Except Failure α) : (Action.ofExcept result : Action K Unit α).Agrees s t :=
  fun _ => ⟨_, _, rfl, rfl⟩

theorem ask {moments : Nat} {question : Context → Store K → Except Failure α}
    (h : ∀ context, question context s = question context t) : (Action.ask moments question).Agrees s t :=
  fun context => ⟨_, _, rfl, Prod.ext (h context).symm rfl⟩

theorem bind {f : α → Action K Unit β} (h : act.Agrees s t) (hf : ∀ a, (f a).Agrees s t) :
    (act >>= f).Agrees s t := by
  intro context
  obtain ⟨result, later, left, right⟩ := h context
  rw [bind_apply, bind_apply, left, right]
  cases result with
  | error failure => exact ⟨_, _, rfl, rfl⟩
  | ok a => exact hf a later

theorem map {f : α → β} (h : act.Agrees s t) : (f <$> act).Agrees s t := by
  rw [map_eq_pure_bind]
  exact h.bind fun a => pure (f a)

theorem optionMapM {f : β → Action K Unit α} (hf : ∀ b, (f b).Agrees s t) (x : Option β) :
    (x.mapM f).Agrees s t := by
  cases x with
  | none => exact pure none
  | some b => exact (hf b).map

theorem mapM {f : β → Action K Unit α} (hf : ∀ b, (f b).Agrees s t) (xs : List β) :
    (xs.mapM f).Agrees s t := by
  induction xs with
  | nil => exact pure []
  | cons x xs ih =>
    rw [List.mapM_cons]
    exact (hf x).bind fun a => ih.bind fun as => pure (a :: as)

theorem foldlM {f : α → β → Action K Unit α} {xs : List β} (hf : ∀ x ∈ xs, ∀ a, (f a x).Agrees s t)
    (a : α) : (xs.foldlM f a).Agrees s t := by
  induction xs generalizing a with
  | nil => exact pure a
  | cons x xs ih =>
    obtain ⟨first, rest⟩ := List.forall_mem_cons.mp hf
    rw [List.foldlM_cons]
    exact (first a).bind (ih rest)

theorem answer (h : act.Agrees s t) (context : Context) :
    (act ⟨s, context, ()⟩).1 = (act ⟨t, context, ()⟩).1 := by
  obtain ⟨result, later, left, right⟩ := h context
  rw [left, right]

end Action.Agrees

/-! ## What is listed -/

namespace Operations

open Domain.Action Store

variable [DecidableEq K] {E : Type} [Bindings E K] [Loadable E] [ExactKeys K] {s t : Store K} {context : Context}
  {e : E}

omit [Loadable E] [ExactKeys K] [DecidableEq K] in
theorem agrees_toMessage (row : Record e) : (toMessage Hooks.none e row).Agrees s t := by
  rw [toMessage_none]
  exact Agrees.ofExcept _

theorem agrees_loadOne (h : Alike s t) {link : MessageLink e} (there : link ∈ Bindings.links e) (row : Record e)
    (message : Message e) : (Operations.loadOne Hooks.none row message link).Agrees s t := by
  cases link with
  | reference link =>
    rw [Operations.loadOne]
    split
    · exact Agrees.pure _
    · refine (Agrees.ask fun _ => loadOne_alike h rfl (KeyColumns.value? link.target)
        (hasColumn_key link.target) _).bind fun found => ?_
      exact (Agrees.optionMapM agrees_toMessage found).bind fun _ => Agrees.pure _
  | children link =>
    refine (Agrees.ask fun _ => loadChildren_alike h rfl (Loadable.children there)
      (hasColumn_key link.target) (Loadable.sorted link.target) _).bind fun rows => ?_
    exact (Agrees.mapM agrees_toMessage rows).bind fun _ => Agrees.pure _
  | joined link =>
    refine (Agrees.ask fun _ => loadLinked_alike h rfl rfl (Loadable.joined there)
      (hasColumn_key link.target) (Loadable.sorted link.target)).bind fun rows => ?_
    exact (Agrees.mapM agrees_toMessage rows).bind fun _ => Agrees.pure _

theorem agrees_respond (h : Alike s t) (row : Record e) : (respond Hooks.none e row).Agrees s t :=
  (agrees_toMessage row).bind fun message =>
    Agrees.foldlM (fun _ there m => agrees_loadOne h there row m) message

/-- The query of a list. -/
def listQuery (e : E) (operators : Operators) : Query :=
  (Query.all.apply operators).orderBy (record (table e)).keyColumn

omit [Loadable E] [ExactKeys K] in
theorem list_none (operators : Operators) : Operations.list Hooks.none e operators = (do
    let rows ← .ask 1 fun context store => store.find context (table e) (listQuery e operators)
    rows.mapM (respond Hooks.none e)) := by
  unfold Operations.list
  simp only [hook_none, pure_bind]
  rfl

/-- What is listed does not depend on the places of rows, if the order asked for is transitive on them. -/
theorem agrees_list (h : Alike s t) (operators : Operators)
    (trans : (record (table e)).Transitive (listQuery e operators).order (s.rows (table e))) :
    (Operations.list Hooks.none e operators).Agrees s t := by
  have apart : (record (table e)).Separated (listQuery e operators).order (s.rows (table e)) :=
    separated_key (h.left (table e)) (KeyColumns.value? e) operators.sorting
  rw [list_none]
  refine (Agrees.ask fun context => ?_).bind fun rows => Agrees.mapM (agrees_respond h) rows
  rw [find_eq, find_eq, RecordType.answer_perm (h.perm (table e)) trans apart]

/-! ## The rows of a list -/

omit [Loadable E] [ExactKeys K] in
theorem list_answers {world : World K Unit} [world.context.Timeless] (operators : Operators) :
    (Operations.list Hooks.none e operators).Answers world fun messages => ∃ rows,
      world.store.find world.context (table e) (listQuery e operators) = .ok rows ∧
        List.Forall₂ (Responds world.context world.store) rows messages := by
  rw [list_none]
  exact (Answers.ask _).bind fun rows => Answers.mapM respond_answers rows

omit [Loadable E] [ExactKeys K] in
theorem exists_found {operators : Operators} {messages : List (Message e)} {last : World K Unit}
    (answered : Operations.list Hooks.none e operators ⟨s, context, ()⟩ = (.ok messages, last)) :
    ∃ rows, s.find .unlimited (table e) (listQuery e operators) = .ok rows ∧
      List.Forall₂ (Responds .unlimited s) rows messages := by
  have answers : (Operations.list Hooks.none e operators).Answers ⟨s, .unlimited, ()⟩ _ := list_answers operators
  exact ((answers messages _).mp ((interruptible_list operators).of_ok answered)).1

/-- The messages of a list come from rows that meet the conditions. These are in order if no three of them are
in a circle, and where there is no window, just then. -/
structure Listed (s : Store K) (e : E) (operators : Operators) (rows : List (Record e))
    (messages : List (Message e)) : Prop where
  responds : List.Forall₂ (Responds .unlimited s) rows messages
  chosen : ∀ row ∈ rows, row ∈ s.chosen (table e) operators.filter
  rises : ¬ (record (table e)).Circular (listQuery e operators).order (s.chosen (table e) operators.filter) →
    rows.Pairwise fun a b => (record (table e)).compareBy (listQuery e operators).order a b ≠ .gt
  whole : operators.window = none → rows.Perm (s.chosen (table e) operators.filter) ∧
    ((rows.Pairwise fun a b => (record (table e)).compareBy (listQuery e operators).order a b ≠ .gt) ↔
      ¬ (record (table e)).Circular (listQuery e operators).order (s.chosen (table e) operators.filter))

omit [DecidableEq K] [ExactKeys K] [Loadable E] in
theorem rising_iff {terms : List SortTerm} {rows : List (Record e)} :
    (record (table e)).Rising terms rows ↔
      rows.Pairwise fun a b => (record (table e)).compareBy terms a b ≠ .gt := by
  unfold RecordType.Rising
  simp only [Ordering.isLE_iff_ne_gt, ne_eq]

theorem exists_listed (distinct : s.Distinct) {operators : Operators} (unprojected : operators.fields = none)
    (known : ∀ term ∈ operators.sorting, HasColumn (table e) term.column) {messages : List (Message e)}
    {last : World K Unit}
    (answered : Operations.list Hooks.none e operators ⟨s, context, ()⟩ = (.ok messages, last)) :
    ∃ rows, Listed s e operators rows messages := by
  obtain ⟨rows, found, responds⟩ := exists_found answered
  have columns : ∀ term ∈ (listQuery e operators).order, HasColumn (table e) term.column := by
    intro term there
    rcases List.mem_append.mp there with there | there
    · exact known term there
    · rw [List.mem_singleton.mp there]
      exact hasColumn_key e
  have whole : (listQuery e operators).selection = none := by
    show operators.fields.or none = none
    rw [unprojected]
    rfl
  obtain rfl := eq_of_find whole columns found
  have inside : ∀ row ∈ s.chosen (table e) operators.filter, row ∈ s.rows (table e) :=
    fun row there => List.mem_of_mem_filter there
  have apart : (record (table e)).Separated (listQuery e operators).order
      (s.chosen (table e) operators.filter) :=
    (separated_key (distinct (table e)) (KeyColumns.value? e) operators.sorting).mono inside
  refine ⟨_, responds, ?_, fun straight => ?_, fun unlimited => ?_⟩
  · intro row there
    exact (RecordType.sort_perm _ _).mem_iff.mp ((RecordType.cutBy_sublist _ _).subset there)
  · exact (rising_iff.mp ((RecordType.sort_rising_iff apart).mpr straight)).sublist
      (RecordType.cutBy_sublist _ _)
  · have uncut : (listQuery e operators).window = none := by
      show operators.window.or none = none
      rw [unlimited]
      rfl
    rw [uncut]
    exact ⟨RecordType.sort_perm _ _, rising_iff.symm.trans (RecordType.sort_rising_iff apart)⟩

end Operations

end Domain

end ProtoStore
