import ProtoStore.Proofs.Store.Lasting
import ProtoStore.Proofs.Store.Failing

/-!
# What calls leave that fail

* `rows_save_of_fails`, `rows_create_of_fails` : a call that writes one row and fails writes none;
* `Failure.CutsOff` : a call is cut off at any moment if its context ends, or if it panics;
* `Generates` : kinds of rows that always get new keys, and whose rows are saved unless the call is cut off
  (`Generates.save_failed`);
* `saveAll_failed`, `linkAll_failed` : rows are saved up to the first that is not saved, or not linked. Those
  before it are as in a call that ends there.
-/

namespace ProtoStore

/-- A call is cut off, be it that its context has ended or that there is no next number. -/
def Failure.CutsOff (failure : Failure) : Prop := failure = .cancelled ∨ failure = .panic

namespace Store

variable {K : Type} [DecidableEq K] [Catalog K] {s : Store K} {kind join : K} {context : Context}
  {failure : Failure} {row : Row kind}

/-! ## Single rows -/

theorem save_unlimited {t : Store K} {written : Row kind} (h : s.save context kind row = ⟨t, written, .ok ()⟩) :
    s.save .unlimited kind row = ⟨t, written, .ok ()⟩ := by
  rw [← h]
  refine ((stoppable_save s kind row).eq_of_not fun cancelled => ?_).symm
  rw [h] at cancelled
  cases cancelled

theorem rows_save_of_fails (h : (s.save context kind row).result = .error failure) :
    (s.save context kind row).store.rows = s.rows := by
  rcases save_cases context s kind row with ⟨-, same | same⟩ | ⟨after, written, -, saved⟩
  · rw [same]
  · rw [same, rows_assignKey]
  · rw [saved] at h
    cases h

theorem rows_create_of_fails [ExactKeys K] (h : (s.create context kind row).result = .error failure) :
    (s.create context kind row).store.rows = s.rows := by
  rcases create_cases context s kind row with ⟨-, same | same⟩ | ⟨after, written, -, -, created⟩
  · rw [same]
  · rw [same, rows_assignKey]
  · rw [created] at h
    cases h

/-- Rows of a kind always get new keys. -/
def Generates (kind : K) : Prop := ∀ n fresh, ((record kind).rowKey.generate n fresh).isSome = true

omit [DecidableEq K] in
/-- A row is not given a key if there is no next number, or if its kind has no new keys. -/
theorem assignKey_failed {after : Store K} (h : s.assignKey kind row = (after, .error failure)) :
    failure = .panic ∨ failure = .store (.missingKey (record kind).table) ∧
      (record kind).keyIsEmpty row = true ∧ ¬ Generates kind := by
  cases empty : (record kind).keyIsEmpty row with
  | false =>
    rw [assignKey_of_keyed empty] at h
    cases h
  | true =>
    rw [assignKey_of_empty empty, Prod.mk.injEq] at h
    obtain ⟨-, fails⟩ := h
    by_cases last : UInt64.ofNat (s.sequence + 1) = 0
    · rw [newKey_of_end last] at fails
      exact Or.inl (Except.error.inj fails).symm
    · rw [newKey_of_room last] at fails
      cases made : (record kind).withNewKey? (.ofNat (s.sequence + 1)) (s.fresh s.drawn) row with
      | some written =>
        rw [made] at fails
        cases fails
      | none =>
        rw [made] at fails
        refine Or.inr ⟨(Except.error.inj fails).symm, rfl, fun gen => ?_⟩
        obtain ⟨key, generated⟩ := Option.isSome_iff_exists.mp (gen (.ofNat (s.sequence + 1)) (s.fresh s.drawn))
        rw [RecordType.withNewKey?, generated] at made
        cases made

theorem save_failed (h : (s.save context kind row).result = .error failure) :
    failure.CutsOff ∨ failure = .store (.missingKey (record kind).table) ∧
      (record kind).keyIsEmpty row = true ∧ ¬ Generates kind := by
  unfold save at h
  split at h
  · next expired =>
    cases h
    exact Or.inl (Or.inl (Context.check_fails expired))
  · split at h
    · next assigned =>
      cases h
      exact (assignKey_failed assigned).imp_left Or.inr
    · cases h

theorem Generates.save_failed (gen : Generates kind) (h : (s.save context kind row).result = .error failure) :
    failure.CutsOff :=
  (Store.save_failed h).resolve_right fun missing => missing.2.2 gen

/-- A row is not created if the call is cut off, or for its key. -/
theorem create_failed (h : (s.create context kind row).result = .error failure) :
    failure.CutsOff ∨ (∃ table, failure = .store (.missingKey table) ∧ ¬ Generates kind) ∨
      ∃ table, failure = .store (.duplicateKey table) := by
  unfold create at h
  split at h
  · next expired =>
    cases h
    exact Or.inl (Or.inl (Context.check_fails expired))
  · split at h
    · next assigned =>
      cases h
      rcases assignKey_failed assigned with panics | ⟨missing, -, other⟩
      · exact Or.inl (Or.inr panics)
      · exact Or.inr (Or.inl ⟨_, missing, other⟩)
    · next after written assigned =>
      unfold insert at h
      split at h
      · next refused =>
        split at refused
        · cases refused
          cases h
          exact Or.inr (Or.inr ⟨_, rfl⟩)
        · cases refused
      · cases h

/-! ## Children -/

/-- Saving stops at a row that is not saved; those before it are. -/
theorem saveAll_failed {attach : Row kind → Row kind} {rows : List (Row kind)}
    (h : (saveAll context kind attach s rows).result = .error failure) :
    ∃ saved row rest u more later, rows = saved ++ row :: rest ∧
      saveAll .unlimited kind attach s saved = ⟨u, more, .ok ()⟩ ∧
      (u.save later kind (attach row)).result = .error failure ∧
      (saveAll context kind attach s rows).store.rows = u.rows := by
  induction rows generalizing s context with
  | nil => cases h
  | cons row rest ih =>
    rw [saveAll] at h ⊢
    rcases first : s.save context kind (attach row) with ⟨u, written, failed | _⟩
    · rw [first] at h
      dsimp only at h ⊢
      cases h
      have rows := rows_save_of_fails (congrArg Writing.result first)
      rw [first] at rows
      exact ⟨[], row, rest, s, [], context, rfl, rfl, congrArg Writing.result first, rows⟩
    · rw [first] at h
      dsimp only at h ⊢
      obtain ⟨saved, x, more, v, others, later, rfl, done, stopped⟩ := ih h
      refine ⟨row :: saved, x, more, v, written :: others, later, rfl, ?_, stopped⟩
      rw [saveAll, save_unlimited first]
      dsimp only
      rw [Context.after_timeless, done]

/-! ## Links -/

variable [ExactKeys K]

theorem rows_ensureLink_of_fails {row : Row join}
    (h : (s.ensureLink context join row).2 = .error failure) :
    (s.ensureLink context join row).1.rows = s.rows := by
  unfold ensureLink at h ⊢
  split at h
  · rfl
  · rfl
  · exact rows_create_of_fails h

/-- A join row is not created where it has no key. -/
theorem ensureLink_failed {row : Row join} (keyless : Keyless join) (columns : ByColumns join)
    (told : ∀ a b : Row join, key a = key b → a = b)
    (h : (s.ensureLink context join row).2 = .error failure) :
    failure.CutsOff ∨ ∃ table, failure = .store (.missingKey table) := by
  have refused := ensureLink_fails keyless columns told h
  unfold ensureLink at h
  rcases context.check_cases with alive | ended
  · rw [(count_ok (columns.reads row)).mpr ⟨alive, rfl⟩] at h
    split at h
    · next counted => cases counted
    · cases h
    · rcases create_failed h with cut | ⟨table, cause, -⟩ | ⟨table, cause⟩
      · exact Or.inl cut
      · exact Or.inr ⟨table, cause⟩
      · exact absurd cause (refused table)
  · rw [count_eq, ended] at h
    cases h
    exact Or.inl (Or.inl rfl)

omit [ExactKeys K] in
theorem saveLink_unlimited {link : Row kind → Row join} {t : Store K} {written : Row kind}
    (h : s.saveLink context kind join link row = ⟨t, written, .ok ()⟩) :
    s.saveLink .unlimited kind join link row = ⟨t, written, .ok ()⟩ := by
  rw [← h]
  refine ((stoppable_saveLink link row).eq_of_not fun cancelled => ?_).symm
  rw [h] at cancelled
  cases cancelled

/-- Linking stops at a target that is not saved, or that is saved and not linked; the ones before it are
saved and linked. -/
theorem linkAll_failed {link : Row kind → Row join} {rows : List (Row kind)}
    (h : (linkAll context kind join link s rows).result = .error failure) :
    ∃ linked row rest u more later, rows = linked ++ row :: rest ∧
      linkAll .unlimited kind join link s linked = ⟨u, more, .ok ()⟩ ∧
      ((u.save later kind row).result = .error failure ∧
          (linkAll context kind join link s rows).store.rows = u.rows ∨
        ∃ v written, u.save .unlimited kind row = ⟨v, written, .ok ()⟩ ∧
          (v.ensureLink later join (link written)).2 = .error failure ∧
          (linkAll context kind join link s rows).store.rows = v.rows) := by
  induction rows generalizing s context with
  | nil => cases h
  | cons row rest ih =>
    rw [linkAll] at h ⊢
    rcases first : s.saveLink context kind join link row with ⟨u, written, failed | _⟩
    · rw [first] at h
      dsimp only at h ⊢
      cases h
      unfold saveLink at first
      rcases saved : s.save context kind row with ⟨v, target, refused | _⟩
      · rw [saved] at first
        cases first
        have rows := rows_save_of_fails (congrArg Writing.result saved)
        rw [saved] at rows
        exact ⟨[], row, rest, s, [], context, rfl, rfl, Or.inl ⟨congrArg Writing.result saved, rows⟩⟩
      · rw [saved] at first
        dsimp only at first
        rcases joined : v.ensureLink (context.after 1) join (link target) with ⟨w, result⟩
        rw [joined] at first
        cases first
        have rows := rows_ensureLink_of_fails (congrArg Prod.snd joined)
        rw [joined] at rows
        exact ⟨[], row, rest, s, [], context.after 1, rfl, rfl,
          Or.inr ⟨v, written, save_unlimited saved, congrArg Prod.snd joined, rows⟩⟩
    · rw [first] at h
      dsimp only at h ⊢
      obtain ⟨linked, x, more, v, others, later, rfl, done, stopped⟩ := ih h
      refine ⟨row :: linked, x, more, v, written :: others, later, rfl, ?_, stopped⟩
      rw [linkAll, saveLink_unlimited first]
      dsimp only
      rw [Context.after_timeless, done]

end Store

end ProtoStore
