import ProtoStore.Proofs.Store.Effects

/-!
# Calls in contexts that may end

Every call checks its context, some of them several times, a moment after the other. `Stoppable moments told
call` : in whatever context, the call comes to what it does in one that has no end, unless the context ends
within these moments, and then the caller is told. So a context decides how far a call gets, and nothing else.

* `stoppable_save`, `stoppable_create`, `stoppable_find`, `stoppable_count`, `stoppable_delete` : calls that
  check their context once;
* `stoppable_saveAll`, `stoppable_linkAll`, `stoppable_loadLinked` : calls that are made of such.
-/

namespace ProtoStore

namespace Context

variable {context : Context} {moments more : Nat}

/-- A context does not end within some moments. -/
def Lasts (context : Context) (moments : Nat) : Prop :=
  ∀ elapsed < moments, (context.after elapsed).check = .ok ()

theorem lasts_unlimited (moments : Nat) : unlimited.Lasts moments := fun _ _ => rfl

@[simp] theorem after_zero : context.after 0 = context := by
  obtain ⟨cancelled, momentsLeft⟩ := context
  cases cancelled <;> cases momentsLeft <;> rfl

theorem after_after : (context.after moments).after more = context.after (moments + more) := by
  obtain ⟨cancelled, momentsLeft⟩ := context
  cases cancelled with
  | true => rfl
  | false =>
    cases momentsLeft with
    | none => rfl
    | some left => simp [after, Nat.sub_sub]

theorem Lasts.of_le (h : context.Lasts more) (le : moments ≤ more) : context.Lasts moments :=
  fun elapsed early => h elapsed (Nat.lt_of_lt_of_le early le)

theorem Lasts.of_add (h : context.Lasts (moments + more)) : (context.after moments).Lasts more := by
  intro elapsed early
  rw [after_after]
  exact h (moments + elapsed) (by omega)

theorem Lasts.check (h : context.Lasts (moments + 1)) : context.check = .ok () := by
  have now := h 0 (Nat.succ_pos moments)
  rwa [after_zero] at now

/-- Only a context that is over at once stops what checks it first. -/
theorem not_lasts_of_check {failure : Failure} (h : context.check = .error failure) :
    ¬ context.Lasts (moments + 1) := by
  intro lasts
  rw [lasts.check] at h
  cases h

end Context

/-- A call comes to the same in every context, unless the context ends and the caller is told. -/
def Stoppable {β : Type} (moments : Nat) (told : β → Prop) (call : Context → β) : Prop :=
  ∀ context : Context, call context = call .unlimited ∨ ¬ context.Lasts moments ∧ told (call context)

namespace Stoppable

variable {α β : Type} {moments : Nat} {told : β → Prop} {call : Context → β}

/-- A call that does not tell that its context has ended does what it does in one without an end. -/
theorem eq_of_not (h : Stoppable moments told call) {context : Context} (silent : ¬ told (call context)) :
    call context = call .unlimited :=
  (h context).resolve_right fun stopped => silent stopped.2

/-- A call that checks its context first, and does not look at it again. -/
theorem of_check (alive : ∀ context : Context, context.check = .ok () → call context = call .unlimited)
    (ended : ∀ context : Context, context.check = .error .cancelled → told (call context)) :
    Stoppable 1 told call := by
  intro context
  rcases context.check_cases with check | check
  · exact Or.inl (alive context check)
  · exact Or.inr ⟨Context.not_lasts_of_check check, ended context check⟩

theorem map {call : Context → Except Failure α} {f : α → β} (h : Stoppable moments (· = .error .cancelled) call) :
    Stoppable moments (· = .error .cancelled) fun context => (call context).map f := by
  intro context
  rcases h context with same | ⟨ends, cancelled⟩
  · exact Or.inl (congrArg (Except.map f) same)
  · exact Or.inr ⟨ends, congrArg (Except.map f) cancelled⟩

end Stoppable

namespace Store

variable {K : Type} [DecidableEq K] [Catalog K] (s : Store K) (kind join : K)

/-! ## Calls that check their context once -/

theorem stoppable_find (query : Query) :
    Stoppable 1 (· = .error .cancelled) fun context => s.find context kind query := by
  refine .of_check (fun context alive => ?_) fun context ended => ?_
  · rw [find_eq, find_eq, alive]
    rfl
  · rw [find_eq, ended]
    rfl

theorem stoppable_first (query : Query) :
    Stoppable 1 (· = .error .cancelled) fun context => s.first context kind query :=
  (stoppable_find s kind (query.limit 1)).map

theorem stoppable_count (query : Query) :
    Stoppable 1 (· = .error .cancelled) fun context => s.count context kind query := by
  refine .of_check (fun context alive => ?_) fun context ended => ?_
  · rw [count_eq, count_eq, alive]
    rfl
  · rw [count_eq, ended]
    rfl

theorem stoppable_delete (query : Query) :
    Stoppable 1 (· = .error .cancelled) fun context => s.delete context kind query := by
  refine .of_check (fun context alive => ?_) fun context ended => ?_
  · rw [delete_eq, delete_eq, alive]
    rfl
  · rw [delete_eq, ended]
    rfl

theorem stoppable_deleteSome (query : Option Query) :
    Stoppable 1 (· = .error .cancelled) fun context => s.deleteSome context kind query := by
  cases query with
  | none => exact fun _ => Or.inl rfl
  | some query => exact stoppable_delete s kind query

theorem stoppable_save (row : Row kind) :
    Stoppable 1 (·.result = .error .cancelled) fun context => s.save context kind row := by
  refine .of_check (fun context alive => ?_) fun context ended => ?_
  · unfold save
    rw [alive]
    rfl
  · unfold save
    rw [ended]

theorem stoppable_create (row : Row kind) :
    Stoppable 1 (·.result = .error .cancelled) fun context => s.create context kind row := by
  refine .of_check (fun context alive => ?_) fun context ended => ?_
  · unfold create
    rw [alive]
    rfl
  · unfold create
    rw [ended]

/-! ## Calls made of others -/

variable {s kind join}

theorem stoppable_saveAll {attach : Row kind → Row kind} (rows : List (Row kind)) :
    Stoppable rows.length (·.result = .error .cancelled) fun context => saveAll context kind attach s rows := by
  induction rows generalizing s with
  | nil => exact fun _ => Or.inl rfl
  | cons row rest ih =>
    intro context
    have first := stoppable_save s kind (attach row) context
    dsimp only at first
    simp only [saveAll, List.length_cons, Context.after_timeless]
    rcases first with same | ⟨ends, cancelled⟩
    · rw [same]
      rcases s.save .unlimited kind (attach row) with ⟨t, written, failure | _⟩
      · exact Or.inl rfl
      · rcases ih (s := t) (context.after 1) with same | ⟨ends, cancelled⟩
        · exact Or.inl (by dsimp only at same ⊢; rw [same])
        · refine Or.inr ⟨fun lasts => ends (lasts.of_le (Nat.le_of_eq (Nat.add_comm 1 _))).of_add, cancelled⟩
    · refine Or.inr ⟨fun lasts => ends (lasts.of_le (Nat.le_add_left 1 _)), ?_⟩
      rw [cancelled]

theorem stoppable_saveChildren {strategy : Strategy} {attach : Row kind → Row kind} (rows : List (Row kind)) :
    Stoppable rows.length (·.result = .error .cancelled) fun context =>
      s.saveChildren context kind strategy attach rows := by
  unfold saveChildren
  split
  · exact fun _ => Or.inl rfl
  · exact stoppable_saveAll rows

theorem stoppable_ensureLink (row : Row join) :
    Stoppable 2 (·.2 = .error .cancelled) fun context => s.ensureLink context join row := by
  intro context
  have counts := stoppable_count s join (equalTo row) context
  dsimp only at counts
  simp only [ensureLink, Context.after_timeless]
  rcases counts with same | ⟨ends, cancelled⟩
  · rw [same]
    rcases s.count .unlimited join (equalTo row) with failure | _ | n
    · exact Or.inl rfl
    · rcases stoppable_create s join row (context.after 1) with same | ⟨ends, cancelled⟩
      · exact Or.inl (by dsimp only at same ⊢; rw [same])
      · exact Or.inr ⟨fun lasts => ends lasts.of_add, cancelled⟩
    · exact Or.inl rfl
  · refine Or.inr ⟨fun lasts => ends (lasts.of_le (by decide)), ?_⟩
    rw [cancelled]

theorem stoppable_saveLink (link : Row kind → Row join) (row : Row kind) :
    Stoppable 3 (·.result = .error .cancelled) fun context => s.saveLink context kind join link row := by
  intro context
  have saves := stoppable_save s kind row context
  dsimp only at saves
  simp only [saveLink, Context.after_timeless]
  rcases saves with same | ⟨ends, cancelled⟩
  · rw [same]
    rcases s.save .unlimited kind row with ⟨t, written, failure | _⟩
    · exact Or.inl rfl
    · rcases stoppable_ensureLink (s := t) (link written) (context.after 1) with same | ⟨ends, cancelled⟩
      · exact Or.inl (by dsimp only at same ⊢; rw [same])
      · exact Or.inr ⟨fun lasts => ends lasts.of_add, cancelled⟩
  · refine Or.inr ⟨fun lasts => ends (lasts.of_le (by decide)), ?_⟩
    rw [cancelled]

theorem stoppable_linkAll {link : Row kind → Row join} (rows : List (Row kind)) :
    Stoppable (3 * rows.length) (·.result = .error .cancelled) fun context =>
      linkAll context kind join link s rows := by
  induction rows generalizing s with
  | nil => exact fun _ => Or.inl rfl
  | cons row rest ih =>
    intro context
    have first := stoppable_saveLink (s := s) link row context
    dsimp only at first
    have length : 3 * (row :: rest).length = 3 + 3 * rest.length := by rw [List.length_cons]; omega
    simp only [linkAll, Context.after_timeless, length]
    rcases first with same | ⟨ends, cancelled⟩
    · rw [same]
      rcases s.saveLink .unlimited kind join link row with ⟨t, written, failure | _⟩
      · exact Or.inl rfl
      · rcases ih (s := t) (context.after 3) with same | ⟨ends, cancelled⟩
        · exact Or.inl (by dsimp only at same ⊢; rw [same])
        · exact Or.inr ⟨fun lasts => ends lasts.of_add, cancelled⟩
    · refine Or.inr ⟨fun lasts => ends (lasts.of_le (Nat.le_add_right 3 _)), ?_⟩
      rw [cancelled]

theorem stoppable_saveLinks {strategy : Strategy} {link : Row kind → Row join} (rows : List (Row kind)) :
    Stoppable (3 * rows.length) (·.result = .error .cancelled) fun context =>
      s.saveLinks context kind join strategy link rows := by
  unfold saveLinks
  split
  · exact fun _ => Or.inl rfl
  · exact stoppable_linkAll rows

theorem stoppable_loadLinked {ownerColumn targetColumn : String} {owner : Value} :
    Stoppable 2 (· = .error .cancelled) fun context =>
      s.loadLinked context kind join ownerColumn owner targetColumn := by
  intro context
  have links := stoppable_find s join (linkedBy ownerColumn owner) context
  dsimp only at links
  simp only [loadLinked, Context.after_timeless]
  rcases links with same | ⟨ends, cancelled⟩
  · rw [same]
    rcases s.find .unlimited join (linkedBy ownerColumn owner) with failure | links
    · exact Or.inl rfl
    · simp only [bind, Except.bind]
      split
      · exact Or.inl rfl
      · exact (stoppable_find s kind _ (context.after 1)).imp id
          (And.imp_left fun ends lasts => ends lasts.of_add)
  · refine Or.inr ⟨fun lasts => ends (lasts.of_le (by decide)), ?_⟩
    rw [cancelled]
    rfl

end Store

end ProtoStore
