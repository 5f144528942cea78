import ProtoStore.Proofs.Store.Writing

/-!
# What reading calls answer

* `sort_perm` : sorting loses and adds no row;
* `answer_eq` : without selection and with existing columns, an answer is what the conditions leave,
  sorted and cut;
* `find_ok`, `count_ok`, `first_ok` : calls answer only in a context that is not over; `first_eq` : what
  the first row is;
* `mem_of_find`, `mem_of_first` : without selection an answer holds stored rows.
-/

namespace ProtoStore

namespace RecordType

variable {R : Type} {type : RecordType R}

theorem insertDown_perm (terms : List SortTerm) (row : R) (rows : List R) :
    (type.insertDown terms row rows).Perm (row :: rows) := by
  induction rows with
  | nil => exact List.Perm.refl _
  | cons last rest ih =>
    rw [insertDown]
    split
    · exact (ih.cons last).trans (List.Perm.swap row last rest)
    · exact List.Perm.refl _

theorem foldl_insertDown_perm (terms : List SortTerm) (rows sorted : List R) :
    (rows.foldl (fun sorted row => type.insertDown terms row sorted) sorted).Perm (rows ++ sorted) := by
  induction rows generalizing sorted with
  | nil => exact List.Perm.refl _
  | cons row rows ih =>
    exact ((ih _).trans ((insertDown_perm terms row sorted).append_left rows)).trans
      List.perm_middle

theorem sort_perm (terms : List SortTerm) (rows : List R) : (type.sort terms rows).Perm rows := by
  have h : (rows.foldl (fun sorted row => type.insertDown terms row sorted) []).Perm (rows ++ []) :=
    foldl_insertDown_perm terms rows []
  rw [List.append_nil] at h
  exact (List.reverse_perm _).trans h

theorem insertDown_nil (row : R) (rows : List R) : type.insertDown [] row rows = row :: rows := by
  cases rows <;> rfl

@[simp] theorem sort_nil (rows : List R) : type.sort [] rows = rows := by
  have h : ∀ sorted, rows.foldl (fun sorted row => type.insertDown [] row sorted) sorted =
      rows.reverse ++ sorted := by
    induction rows with
    | nil => exact fun _ => rfl
    | cons row rows ih =>
      intro sorted
      rw [List.foldl_cons, ih, insertDown_nil, List.reverse_cons, List.append_assoc,
        List.singleton_append]
  rw [sort, h, List.append_nil, List.reverse_reverse]

/-- In no order but that of their places all rows are equal. -/
theorem isTransitive_nil (rows : List R) : type.isTransitive [] rows = true := by
  simp [isTransitive, compareBy]

/-- What a window leaves of rows; without a window these are all of them. -/
def cutBy (window : Option Window) (rows : List R) : List R :=
  match window with
  | some window => window.cut rows
  | none => rows

theorem cutBy_sublist (window : Option Window) (rows : List R) : (cutBy window rows).Sublist rows := by
  cases window with
  | none => exact List.Sublist.refl rows
  | some window =>
    rw [cutBy, Window.cut]
    split
    · exact List.drop_sublist _ _
    · exact (List.take_sublist _ _).trans (List.drop_sublist _ _)

theorem checkOrder_eq {terms : List SortTerm} (rows : List R)
    (h : ∀ term ∈ terms, (type.column? term.column).isSome = true) :
    type.checkOrder terms rows = .ok () := by
  have hf : (terms.find? fun term => (type.column? term.column).isNone) = none := by
    rw [List.find?_eq_none]
    intro term ht
    simp [Option.isNone_iff_eq_none, Option.isSome_iff_ne_none.mp (h term ht)]
  unfold checkOrder
  rw [hf]
  cases rows <;> rfl

@[simp] theorem inOrder_nil (rows : List R) : type.inOrder [] rows = .ok (type.sort [] rows) := by
  rw [inOrder, isTransitive_nil, Bool.or_true, if_pos rfl]

theorem inOrder_cases (terms : List SortTerm) (rows : List R) :
    type.inOrder terms rows = .ok (type.sort terms rows) ∨
      insertionLimit < rows.length ∧ type.isTransitive terms rows = false ∧
        type.inOrder terms rows = .error .panic := by
  unfold inOrder
  split
  · exact Or.inl rfl
  · next h =>
    rw [Bool.or_eq_true, decide_eq_true_iff, not_or, Bool.not_eq_true] at h
    exact Or.inr ⟨Nat.lt_of_not_le h.1, h.2, rfl⟩

theorem answer_of_split {query : Query} {rows chosen others sorted : List R}
    (hc : type.split query.conditions rows = .ok (chosen, others))
    (ho : type.checkOrder query.order chosen = .ok ()) (hi : type.inOrder query.order chosen = .ok sorted)
    (hs : query.selection = none) : type.answer query rows = .ok (cutBy query.window sorted) := by
  simp only [answer, arrange, select, hc, ho, hi, hs, Except.map, Except.mapError, bind, Except.bind]
  rfl

theorem answer_eq {query : Query} (rows : List R) (hr : type.Reads query.conditions)
    (ho : ∀ term ∈ query.order, (type.column? term.column).isSome = true)
    (hi : type.inOrder query.order (rows.filter (type.satisfies query.conditions)) =
      .ok (type.sort query.order (rows.filter (type.satisfies query.conditions))))
    (hs : query.selection = none) :
    type.answer query rows =
      .ok (cutBy query.window (type.sort query.order (rows.filter (type.satisfies query.conditions)))) :=
  answer_of_split (split_eq hr rows) (checkOrder_eq _ ho) hi hs

theorem mem_of_answer {query : Query} {rows found : List R} {row : R}
    (h : type.answer query rows = .ok found) (hs : query.selection = none) (hm : row ∈ found) :
    row ∈ rows := by
  cases hc : type.split query.conditions rows with
  | error e => simp [answer, select, hc, Except.map, Except.mapError, bind, Except.bind] at h
  | ok parts =>
    cases ho : type.checkOrder query.order parts.1 with
    | error e => simp [answer, arrange, select, hc, Except.map, Except.mapError, bind, Except.bind, ho] at h
    | ok _ =>
      rcases inOrder_cases query.order parts.1 with hi | ⟨-, -, hi⟩
      · rw [answer_of_split hc ho hi hs, Except.ok.injEq] at h
        subst h
        exact (sublist_of_split hc).1.subset ((sort_perm _ _).mem_iff.mp ((cutBy_sublist _ _).subset hm))
      · simp [answer, arrange, select, hc, Except.map, Except.mapError, bind, Except.bind, ho, hi] at h

end RecordType

namespace Store

variable {K : Type} [DecidableEq K] [Catalog K] {store : Store K} {kind : K} {context : Context}
  {query : Query}

theorem find_ok {found : List (Row kind)} :
    store.find context kind query = .ok found ↔
      context.check = .ok () ∧ (record kind).answer query (store.rows kind) = .ok found := by
  rw [find_eq]
  cases context.check <;> simp [Except.bind]

theorem mem_of_find {found : List (Row kind)} {row : Row kind}
    (h : store.find context kind query = .ok found) (hs : query.selection = none)
    (hm : row ∈ found) : row ∈ store.rows kind :=
  RecordType.mem_of_answer (find_ok.mp h).2 hs hm

/-- Rows are counted that meet the conditions. -/
theorem count_ok {n : Nat} (hr : (record kind).Reads query.conditions) :
    store.count context kind query = .ok n ↔ context.check = .ok () ∧
      ((store.rows kind).filter ((record kind).satisfies query.conditions)).length = n := by
  rw [count_eq, RecordType.select_eq hr]
  cases context.check with
  | error e => simp [Except.bind]
  | ok _ => exact ⟨fun h => ⟨rfl, Except.ok.inj h⟩, fun h => congrArg Except.ok h.2⟩

theorem first_ok {found : Option (Row kind)} :
    store.first context kind query = .ok found ↔
      ∃ rows, store.find context kind (query.limit 1) = .ok rows ∧ rows.head? = found := by
  unfold first
  cases store.find context kind (query.limit 1) <;> simp [Except.map]

theorem mem_of_first {row : Row kind} (h : store.first context kind query = .ok (some row))
    (hs : query.selection = none) : row ∈ store.rows kind := by
  obtain ⟨rows, hf, hh⟩ := first_ok.mp h
  exact mem_of_find hf hs (List.mem_of_head? hh)

/-- Without order and window the first row is the first that meets the conditions. -/
theorem first_eq (alive : context.check = .ok ()) (hr : (record kind).Reads query.conditions)
    (ho : query.order = []) (hs : query.selection = none) (hw : query.window = none) :
    store.first context kind query =
      .ok ((store.rows kind).find? ((record kind).satisfies query.conditions)) := by
  rw [first_ok]
  refine ⟨_, find_ok.mpr ⟨alive, RecordType.answer_eq _ hr ?_ ?_ hs⟩, ?_⟩
  · rw [Query.limit, ho]
    exact fun _ h => nomatch h
  · rw [Query.limit, ho]
    exact RecordType.inOrder_nil _
  · rw [Query.limit, ho, RecordType.sort_nil, hw]
    simp [RecordType.cutBy, Window.cut, List.head?_take, List.head?_filter]

end Store

end ProtoStore
