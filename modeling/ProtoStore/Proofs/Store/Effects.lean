import ProtoStore.Proofs.Store.Reading
import ProtoStore.Store.Linked

/-!
# What calls of a store leave, as a whole

* `save_ok`, `create_ok`, `saveAll_cons_ok` : calls that succeed, read backwards;
* `rows_save_of_ne` and the lemmas after it : rows of other kinds stay;
* `deleteSome_ok` : deleting loses rows and does nothing else.
-/

namespace ProtoStore.Store

variable {K : Type} [DecidableEq K] [Catalog K] {s t u : Store K} {kind join other : K}
  {context : Context} {row written : Row kind}

/-! ## Saving -/

theorem save_ok : s.save context kind row = ⟨t, written, .ok ()⟩ ↔
    context.check = .ok () ∧
      ∃ after, s.assignKey kind row = (after, .ok written) ∧ t = after.upsert kind written := by
  unfold save
  cases hc : context.check with
  | error failure => simp
  | ok _ =>
    rcases hk : s.assignKey kind row with ⟨after, _ | w⟩
    · simp
    · simp only [Writing.mk.injEq, and_true, Prod.mk.injEq, Except.ok.injEq, true_and]
      constructor
      · rintro ⟨rfl, rfl⟩
        exact ⟨after, ⟨rfl, rfl⟩, rfl⟩
      · rintro ⟨_, ⟨rfl, rfl⟩, rfl⟩
        exact ⟨rfl, rfl⟩

theorem mem_of_save (h : s.save context kind row = ⟨t, written, .ok ()⟩) : written ∈ t.rows kind := by
  obtain ⟨-, after, -, rfl⟩ := save_ok.mp h
  rw [rows_upsert]
  exact mem_replaceOrAdd_self

theorem create_ok [ExactKeys K] : s.create context kind row = ⟨t, written, .ok ()⟩ ↔
    context.check = .ok () ∧ key written ∉ (s.rows kind).map key ∧
      ∃ after, s.assignKey kind row = (after, .ok written) ∧
        t = after.push kind written := by
  unfold create
  cases hc : context.check with
  | error failure => simp
  | ok _ =>
    rcases hk : s.assignKey kind row with ⟨after, _ | w⟩
    · simp
    · have hrows : after.rows = s.rows := rows_of_assignKey hk
      dsimp only
      cases hi : after.insert kind w with
      | error e =>
        simp only [Writing.mk.injEq, reduceCtorEq, and_false, false_iff, not_and]
        rintro - hn ⟨after', h', -⟩
        simp only [Prod.mk.injEq, Except.ok.injEq] at h'
        obtain ⟨rfl, rfl⟩ := h'
        have added : after.insert kind w = .ok (after.push kind w) :=
          insert_ok.mpr ⟨by rwa [hrows], rfl⟩
        rw [hi] at added
        cases added
      | ok added =>
        obtain ⟨hn, rfl⟩ := insert_ok.mp hi
        rw [hrows] at hn
        simp only [Writing.mk.injEq, and_true, Prod.mk.injEq, Except.ok.injEq, true_and]
        constructor
        · rintro ⟨rfl, rfl⟩
          exact ⟨hn, after, ⟨rfl, rfl⟩, rfl⟩
        · rintro ⟨-, _, ⟨rfl, rfl⟩, rfl⟩
          exact ⟨rfl, rfl⟩

theorem saveAll_cons_ok {attach : Row kind → Row kind} {rest more : List (Row kind)} :
    saveAll context kind attach s (row :: rest) = ⟨t, written :: more, .ok ()⟩ ↔
      ∃ u, s.save context kind (attach row) = ⟨u, written, .ok ()⟩ ∧
        saveAll (context.after 1) kind attach u rest = ⟨t, more, .ok ()⟩ := by
  rw [saveAll]
  rcases s.save context kind (attach row) with ⟨u, w, _ | _⟩
  · simp
  · dsimp only
    rcases hr : saveAll (context.after 1) kind attach u rest with ⟨last, others, result⟩
    simp only [Writing.mk.injEq, List.cons.injEq]
    constructor
    · rintro ⟨rfl, ⟨rfl, rfl⟩, rfl⟩
      exact ⟨u, ⟨rfl, rfl, trivial⟩, hr⟩
    · rintro ⟨_, ⟨rfl, rfl, -⟩, h⟩
      rw [hr, Writing.mk.injEq] at h
      exact ⟨h.1, ⟨rfl, h.2.1⟩, h.2.2⟩

/-! ## Rows of other kinds -/

section Frame

theorem rows_save_of_ne (h : other ≠ kind) :
    (s.save context kind row).store.rows other = s.rows other := by
  rcases save_cases context s kind row with ⟨-, hs | hs⟩ | ⟨after, written, hk, hs⟩ <;> rw [hs]
  · rw [rows_assignKey]
  · rw [rows_upsert_of_ne _ h, rows_of_assignKey hk]

theorem rows_create_of_ne [ExactKeys K] (h : other ≠ kind) :
    (s.create context kind row).store.rows other = s.rows other := by
  rcases create_cases context s kind row with ⟨-, hs | hs⟩ | ⟨after, written, hk, -, hs⟩ <;> rw [hs]
  · rw [rows_assignKey]
  · rw [rows_push_of_ne h, rows_of_assignKey hk]

theorem rows_saveAll_of_ne {attach : Row kind → Row kind} {rows : List (Row kind)}
    (h : other ≠ kind) : (saveAll context kind attach s rows).store.rows other = s.rows other := by
  induction rows generalizing s context with
  | nil => rfl
  | cons row rest ih =>
    rw [saveAll]
    split
    · exact rows_save_of_ne h
    · exact ih.trans (rows_save_of_ne h)

theorem rows_saveChildren_of_ne {strategy : Strategy} {attach : Row kind → Row kind}
    {rows : List (Row kind)} (h : other ≠ kind) :
    (s.saveChildren context kind strategy attach rows).store.rows other = s.rows other := by
  unfold saveChildren
  split
  · rfl
  · exact rows_saveAll_of_ne h

variable [ExactKeys K]

theorem rows_ensureLink_of_ne {row : Row join} (h : other ≠ join) :
    (s.ensureLink context join row).1.rows other = s.rows other := by
  unfold ensureLink
  split
  · rfl
  · rfl
  · exact rows_create_of_ne h

theorem rows_saveLink_of_ne {link : Row kind → Row join} (h : other ≠ kind) (hj : other ≠ join) :
    (s.saveLink context kind join link row).store.rows other = s.rows other := by
  rw [saveLink]
  split
  · exact rows_save_of_ne h
  · exact (rows_ensureLink_of_ne hj).trans (rows_save_of_ne h)

theorem rows_linkAll_of_ne {link : Row kind → Row join} {rows : List (Row kind)}
    (h : other ≠ kind) (hj : other ≠ join) :
    (linkAll context kind join link s rows).store.rows other = s.rows other := by
  induction rows generalizing s context with
  | nil => rfl
  | cons row rest ih =>
    rw [linkAll]
    split
    · exact rows_saveLink_of_ne h hj
    · exact ih.trans (rows_saveLink_of_ne h hj)

theorem rows_saveLinks_of_ne {strategy : Strategy} {link : Row kind → Row join}
    {rows : List (Row kind)} (h : other ≠ kind) (hj : other ≠ join) :
    (s.saveLinks context kind join strategy link rows).store.rows other = s.rows other := by
  unfold saveLinks
  split
  · rfl
  · exact rows_linkAll_of_ne h hj

end Frame

/-! ## Deleting -/

theorem deleteSome_ok {query : Option Query} {n : Nat}
    (h : s.deleteSome context kind query = .ok (t, n)) :
    ∃ rows, rows.Sublist (s.rows kind) ∧ Altered s kind rows t := by
  cases query with
  | none =>
    cases h
    exact ⟨s.rows kind, List.Sublist.refl _, altered_self s kind⟩
  | some query =>
    obtain ⟨chosen, others, hs, -, altered, -⟩ := delete_ok h
    exact ⟨others, (RecordType.sublist_of_split hs).2, altered⟩

end ProtoStore.Store
