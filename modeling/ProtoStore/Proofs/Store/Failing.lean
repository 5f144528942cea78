import ProtoStore.Proofs.Except
import ProtoStore.Proofs.Store.Linking

/-!
# What calls of a store fail with

* `Unanswered` : a call that reads or deletes fails in a context that is over, because a column does not
  exist, or because many rows are in no order (`find_fails`, `delete_fails` and the lemmas between them);
* `Unwritten` : saving fails in such a context, or because a row has no key and gets none, be it that there
  is no next number (`save_fails`);
* `create_fails` : a row that is created is refused for its key only if that is there already;
* `linkAll_fails` : join rows are created, but only such whose keys are not there (`ensureLink_fails`);
* `Refused` : what all of these calls fail with;
* `save_of_over` and the lemmas after it : in a context that is over no call writes.
-/

namespace ProtoStore

/-- A failure that does not say that a key is there already. -/
def Failure.NotDuplicate (failure : Failure) : Prop :=
  ∀ table, failure ≠ .store (.duplicateKey table)

/-- A failure of a call of the store. -/
def Failure.Refused (failure : Failure) : Prop :=
  failure = .cancelled ∨ failure = .panic ∨ ∃ error, failure = .store error

theorem Context.check_fails {context : Context} {failure : Failure}
    (h : context.check = .error failure) : failure = .cancelled := by
  unfold check at h
  split at h
  · exact (Except.error.inj h).symm
  · cases h

theorem Context.check_of_over {context : Context} (h : context.isOver = true) :
    context.check = .error .cancelled := if_pos h

theorem Context.check_of_live {context : Context} (h : context.isOver = false) : context.check = .ok () :=
  if_neg (Bool.eq_false_iff.mp h)

/-! ## Rows of a table -/

namespace RecordType

variable {R : Type} {type : RecordType R} {error : StoreError} {rows : List R}

theorem require_fails {row : R} {column : String} (h : type.require row column = .error error) :
    error = .unknownColumn type.table column := by
  unfold require at h
  split at h
  · cases h
  · exact (Except.error.inj h).symm

theorem meets_fails {conditions : List Condition} {row : R}
    (h : type.meets conditions row = .error error) :
    ∃ column, error = .unknownColumn type.table column := by
  induction conditions with
  | nil => cases h
  | cons condition rest ih =>
    unfold meets at h
    split at h
    · next required =>
      cases h
      exact ⟨condition.column, require_fails required⟩
    · split at h
      · exact ih h
      · cases h

theorem split_fails {conditions : List Condition} (h : type.split conditions rows = .error error) :
    ∃ column, error = .unknownColumn type.table column := by
  induction rows with
  | nil => cases h
  | cons row rows ih =>
    unfold split at h
    split at h
    · next met =>
      cases h
      exact meets_fails met
    · exact ih (Except.map_eq_error.mp h)

theorem select_fails {conditions : List Condition} (h : type.select conditions rows = .error error) :
    ∃ column, error = .unknownColumn type.table column :=
  split_fails (Except.map_eq_error.mp h)

theorem checkOrder_fails {terms : List SortTerm} (h : type.checkOrder terms rows = .error error) :
    ∃ column, error = .unknownColumn type.table column := by
  unfold checkOrder at h
  split at h
  · next term _ => exact ⟨term.column, (Except.error.inj h).symm⟩
  · cases h

theorem project_fails {selection : List String} (h : type.project selection rows = .error error) :
    ∃ column, error = .unknownColumn type.table column := by
  unfold project at h
  split at h
  · next column _ => exact ⟨column, (Except.error.inj h).symm⟩
  · cases h

theorem inOrder_fails {terms : List SortTerm} {failure : Failure}
    (h : type.inOrder terms rows = .error failure) : failure = .panic := by
  rcases type.inOrder_cases terms rows with ordered | ⟨-, -, panics⟩
  · rw [ordered] at h
    cases h
  · rw [panics] at h
    exact (Except.error.inj h).symm

end RecordType

namespace Store

variable {K : Type} [DecidableEq K] [Catalog K] {s : Store K} {kind join : K} {context : Context}
  {failure : Failure}

/-! ## Calls that read and delete -/

/-- A call fails in a context that is over, because of rows in no order, or because of a column that rows do
not have. -/
def Unanswered (failure : Failure) : Prop :=
  failure = .cancelled ∨ failure = .panic ∨ ∃ table column, failure = .store (.unknownColumn table column)

theorem Unanswered.notDuplicate (h : Unanswered failure) : failure.NotDuplicate := by
  rintro table rfl
  rcases h with h | h | ⟨_, _, h⟩ <;> cases h

theorem Unanswered.refused (h : Unanswered failure) : failure.Refused :=
  h.imp_right (·.imp_right fun ⟨table, column, h⟩ => ⟨.unknownColumn table column, h⟩)

theorem unanswered_of_check (h : context.check = .error failure) : Unanswered failure :=
  Or.inl (Context.check_fails h)

theorem unanswered_of_column {α : Type} {result : Except StoreError α} {table : String}
    (hr : ∀ error, result = .error error → ∃ column, error = .unknownColumn table column)
    (h : result.mapError .store = .error failure) : Unanswered failure := by
  obtain ⟨error, failed, rfl⟩ := Except.mapError_eq_error.mp h
  obtain ⟨column, rfl⟩ := hr error failed
  exact Or.inr (Or.inr ⟨table, column, rfl⟩)

section

variable {query : Query}

theorem select_fails {conditions : List Condition} (h : s.select kind conditions = .error failure) :
    Unanswered failure := by
  have selects := select_eq s kind conditions
  rw [h] at selects
  exact unanswered_of_column (fun _ => RecordType.select_fails) selects.symm

theorem find_fails (h : s.find context kind query = .error failure) : Unanswered failure := by
  rcases Except.bind_eq_error.mp h with expired | ⟨-, -, h⟩
  · exact unanswered_of_check expired
  rcases Except.bind_eq_error.mp h with chosen | ⟨chosen, -, h⟩
  · exact select_fails chosen
  rcases Except.bind_eq_error.mp h with ordered | ⟨-, -, h⟩
  · exact unanswered_of_column (fun _ => RecordType.checkOrder_fails) ordered
  rcases Except.bind_eq_error.mp h with sorted | ⟨_, -, h⟩
  · exact Or.inr (Or.inl (RecordType.inOrder_fails sorted))
  dsimp only at h
  split at h
  · exact unanswered_of_column (fun _ => RecordType.project_fails) h
  · cases h

theorem first_fails (h : s.first context kind query = .error failure) : Unanswered failure :=
  find_fails (Except.map_eq_error.mp h)

theorem count_fails (h : s.count context kind query = .error failure) : Unanswered failure := by
  rcases Except.bind_eq_error.mp h with expired | ⟨-, -, h⟩
  · exact unanswered_of_check expired
  rcases Except.bind_eq_error.mp h with chosen | ⟨_, -, h⟩
  · exact select_fails chosen
  · cases h

theorem loadLinked_fails {ownerColumn targetColumn : String} {owner : Value}
    (h : s.loadLinked context kind join ownerColumn owner targetColumn = .error failure) :
    Unanswered failure := by
  rcases Except.bind_eq_error.mp h with links | ⟨_, -, h⟩
  · exact find_fails links
  split at h
  · cases h
  · exact find_fails h

theorem delete_fails (h : s.delete context kind query = .error failure) :
    Unanswered failure := by
  rcases Except.bind_eq_error.mp h with expired | ⟨-, -, h⟩
  · exact unanswered_of_check expired
  rcases Except.bind_eq_error.mp h with chosen | ⟨_, -, h⟩
  · exact select_fails chosen
  · cases h

theorem deleteSome_fails {query : Option Query}
    (h : s.deleteSome context kind query = .error failure) : Unanswered failure := by
  cases query with
  | none => cases h
  | some query => exact delete_fails h

end

/-! ## Calls that write -/

/-- A row is not written in a context that is over, because there is no next number, or because it has no
key and gets none. -/
def Unwritten (failure : Failure) : Prop :=
  failure = .cancelled ∨ failure = .panic ∨ ∃ table, failure = .store (.missingKey table)

theorem Unwritten.notDuplicate (h : Unwritten failure) : failure.NotDuplicate := by
  rintro table rfl
  rcases h with h | h | ⟨_, h⟩ <;> cases h

theorem Unwritten.refused (h : Unwritten failure) : failure.Refused :=
  h.imp_right (·.imp_right fun ⟨table, h⟩ => ⟨.missingKey table, h⟩)

variable {row : Row kind}

omit [DecidableEq K] in
theorem assignKey_fails {after : Store K} (h : s.assignKey kind row = (after, .error failure)) :
    Unwritten failure := by
  cases empty : (record kind).keyIsEmpty row with
  | false =>
    rw [assignKey_of_keyed empty] at h
    cases h
  | true =>
    rw [assignKey_of_empty empty, Prod.mk.injEq] at h
    obtain ⟨-, result⟩ := h
    by_cases last : UInt64.ofNat (s.sequence + 1) = 0
    · rw [newKey_of_end last] at result
      exact Or.inr (Or.inl (Except.error.inj result).symm)
    · rw [newKey_of_room last] at result
      split at result
      · cases result
      · exact Or.inr (Or.inr ⟨_, (Except.error.inj result).symm⟩)

theorem save_fails (h : (s.save context kind row).result = .error failure) : Unwritten failure := by
  unfold save at h
  split at h
  · next expired =>
    cases h
    exact Or.inl (Context.check_fails expired)
  · split at h
    · next assigned =>
      cases h
      exact assignKey_fails assigned
    · cases h

/-- Only a row whose key is there already is refused for that. -/
theorem create_fails [ExactKeys K] (h : (s.create context kind row).result = .error failure) :
    Unwritten failure ∨ ∃ after written, s.assignKey kind row = (after, .ok written) ∧
      key written ∈ (s.rows kind).map key := by
  unfold create at h
  split at h
  · next expired =>
    cases h
    exact Or.inl (Or.inl (Context.check_fails expired))
  · split at h
    · next assigned =>
      cases h
      exact Or.inl (assignKey_fails assigned)
    · next after written assigned =>
      refine Or.inr ⟨after, written, assigned, ?_⟩
      by_contra absent
      have inserted : after.insert kind written =
          .ok (after.push kind written) :=
        insert_ok.mpr ⟨by rwa [rows_of_assignKey assigned], rfl⟩
      rw [inserted] at h
      cases h

theorem create_refused (h : (s.create context kind row).result = .error failure) :
    failure.Refused := by
  unfold create at h
  split at h
  · next expired =>
    cases h
    exact Or.inl (Context.check_fails expired)
  · split at h
    · next assigned =>
      cases h
      exact (assignKey_fails assigned).refused
    · split at h
      · cases h
        exact Or.inr (Or.inr ⟨_, rfl⟩)
      · cases h

theorem saveAll_fails {attach : Row kind → Row kind} {rows : List (Row kind)}
    (h : (saveAll context kind attach s rows).result = .error failure) : Unwritten failure := by
  induction rows generalizing s context with
  | nil => cases h
  | cons row rest ih =>
    rw [saveAll] at h
    split at h
    · next failed =>
      cases h
      exact save_fails failed
    · exact ih h

theorem saveChildren_fails {strategy : Strategy} {attach : Row kind → Row kind} {rows : List (Row kind)}
    (h : (s.saveChildren context kind strategy attach rows).result = .error failure) :
    Unwritten failure := by
  unfold saveChildren at h
  split at h
  · cases h
  · exact saveAll_fails h

/-! ## Calls that link -/

theorem ensureLink_refused {row : Row join} (h : (s.ensureLink context join row).2 = .error failure) :
    failure.Refused := by
  unfold ensureLink at h
  split at h
  · next counted =>
    cases h
    exact (count_fails counted).refused
  · cases h
  · exact create_refused h

theorem saveLink_refused {link : Row kind → Row join}
    (h : (s.saveLink context kind join link row).result = .error failure) : failure.Refused := by
  unfold saveLink at h
  dsimp only at h
  split at h
  · next failed =>
    cases h
    exact (save_fails failed).refused
  · exact ensureLink_refused h

theorem linkAll_refused {link : Row kind → Row join} {rows : List (Row kind)}
    (h : (linkAll context kind join link s rows).result = .error failure) : failure.Refused := by
  induction rows generalizing s context with
  | nil => cases h
  | cons row rest ih =>
    rw [linkAll] at h
    split at h
    · next failed =>
      cases h
      exact saveLink_refused failed
    · exact ih h

theorem saveLinks_refused {strategy : Strategy} {link : Row kind → Row join} {rows : List (Row kind)}
    (h : (s.saveLinks context kind join strategy link rows).result = .error failure) :
    failure.Refused := by
  unfold saveLinks at h
  split at h
  · cases h
  · exact linkAll_refused h

section

variable [ExactKeys K] (keyless : Keyless join) (columns : ByColumns join)
  (told : ∀ a b : Row join, key a = key b → a = b)
include keyless columns told

/-- Where no join row is like a given one, its key is not there. -/
theorem ensureLink_fails {row : Row join} (h : (s.ensureLink context join row).2 = .error failure) :
    failure.NotDuplicate := by
  unfold ensureLink at h
  split at h
  · next counted =>
    cases h
    exact (count_fails counted).notDuplicate
  · cases h
  · next counted =>
    rcases create_fails h with unwritten | ⟨after, written, assigned, taken⟩
    · exact unwritten.notDuplicate
    · obtain rfl := keyless.assignKey_ok assigned
      obtain ⟨x, hx, same⟩ := List.mem_map.mp taken
      obtain rfl := told x written same
      have none := ((count_ok (columns.reads x)).mp counted).2
      have found := List.filter_eq_nil_iff.mp (List.length_eq_zero_iff.mp none) x hx
      exact absurd ((columns.iff x x).mpr rfl) found

theorem saveLink_fails {link : Row kind → Row join}
    (h : (s.saveLink context kind join link row).result = .error failure) : failure.NotDuplicate := by
  unfold saveLink at h
  dsimp only at h
  split at h
  · next failed =>
    cases h
    exact (save_fails failed).notDuplicate
  · exact ensureLink_fails keyless columns told h

theorem linkAll_fails {link : Row kind → Row join} {rows : List (Row kind)}
    (h : (linkAll context kind join link s rows).result = .error failure) : failure.NotDuplicate := by
  induction rows generalizing s context with
  | nil => cases h
  | cons row rest ih =>
    rw [linkAll] at h
    split at h
    · next failed =>
      cases h
      exact saveLink_fails keyless columns told failed
    · exact ih h

theorem saveLinks_fails {strategy : Strategy} {link : Row kind → Row join} {rows : List (Row kind)}
    (h : (s.saveLinks context kind join strategy link rows).result = .error failure) :
    failure.NotDuplicate := by
  unfold saveLinks at h
  split at h
  · cases h
  · exact linkAll_fails keyless columns told h

end

/-! ## Contexts that are over -/

section

variable {row : Row kind} {rows : List (Row kind)} {strategy : Strategy} (ended : context.isOver = true)
include ended

theorem store_create_of_over : (s.create context kind row).store = s := by
  unfold create
  rw [Context.check_of_over ended]

theorem save_of_over : s.save context kind row = ⟨s, row, .error .cancelled⟩ := by
  unfold save
  rw [Context.check_of_over ended]

theorem delete_of_over {query : Query} : s.delete context kind query = .error .cancelled := by
  unfold delete
  rw [Context.check_of_over ended]
  rfl

theorem eq_of_deleteSome_over {query : Option Query} {t : Store K} {n : Nat}
    (h : s.deleteSome context kind query = .ok (t, n)) : t = s := by
  cases query with
  | none => exact (Prod.mk.inj (Except.ok.inj h)).1.symm
  | some query => cases (delete_of_over ended).symm.trans h

theorem store_saveChildren_of_over {attach : Row kind → Row kind} :
    (s.saveChildren context kind strategy attach rows).store = s := by
  unfold saveChildren
  split
  · rfl
  · cases rows with
    | nil => rfl
    | cons row rest => rw [saveAll, save_of_over ended]

theorem store_saveLinks_of_over {link : Row kind → Row join} :
    (s.saveLinks context kind join strategy link rows).store = s := by
  unfold saveLinks
  split
  · rfl
  · cases rows with
    | nil => rfl
    | cons row rest => rw [linkAll, saveLink, save_of_over ended]

end

end Store

end ProtoStore
