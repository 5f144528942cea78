import ProtoStore.Proofs.Store.Refill

/-!
# Targets saved and linked

* `ensureLink_ok` : a join row is added unless it is there;
* `linkAll_ok` : targets are put one after the other, and the join rows that were missing are added at
  the end, for kinds of rows that do not get new keys (`Keyless`).
-/

namespace ProtoStore.Store

variable {K : Type} [DecidableEq K] [Catalog K] {s t : Store K} {kind join : K} {context : Context}

/-- Rows of a kind do not get new keys. -/
def Keyless (kind : K) : Prop := ∀ n fresh, (record kind).rowKey.generate n fresh = none

omit [DecidableEq K] in
theorem Keyless.assignKey_ok {row written : Row kind} (h : Keyless kind)
    (hk : s.assignKey kind row = (t, .ok written)) : written = row := by
  rcases Store.assignKey_ok hk with ⟨-, -, same⟩ | ⟨-, -, k, new, -⟩
  · exact same
  · rw [h] at new
    cases new

theorem Keyless.save_ok {row written : Row kind} (h : Keyless kind)
    (hs : s.save context kind row = ⟨t, written, .ok ()⟩) :
    written = row ∧ t.rows kind = replaceOrAdd row (s.rows kind) := by
  obtain ⟨-, after, assigned, rfl⟩ := Store.save_ok.mp hs
  obtain rfl := h.assignKey_ok assigned
  rw [rows_upsert, rows_of_assignKey assigned]
  exact ⟨rfl, rfl⟩

/-- Of such a kind only a row with a key is saved. -/
theorem Keyless.keyed_of_save {row written : Row kind} (h : Keyless kind)
    (hs : s.save context kind row = ⟨t, written, .ok ()⟩) : (record kind).keyIsEmpty row = false := by
  obtain ⟨-, after, assigned, -⟩ := Store.save_ok.mp hs
  rcases Store.assignKey_ok assigned with ⟨keyed, -, -⟩ | ⟨-, -, k, new, -⟩
  · exact keyed
  · rw [h] at new
    cases new

variable [ExactKeys K]

/-- A join row is there afterwards; if it was not before, it is the last one. -/
theorem ensureLink_ok {row : Row join} (keyless : Keyless join) (columns : ByColumns join)
    (h : s.ensureLink context join row = (t, .ok ())) :
    ∃ extra, t.rows join = s.rows join ++ extra ∧ (∀ x ∈ extra, x = row) ∧ row ∈ t.rows join := by
  unfold ensureLink at h
  split at h
  · cases h
  · next n counted =>
    obtain ⟨rfl, -⟩ := Prod.mk.inj h
    have some := ((count_ok (columns.reads row)).mp counted).2
    obtain ⟨x, hx⟩ := List.exists_mem_of_length_eq_add_one some
    obtain ⟨member, equal⟩ := List.mem_filter.mp hx
    rw [columns.iff row x] at equal
    refine ⟨[], (List.append_nil _).symm, List.forall_mem_nil _, ?_⟩
    rwa [← equal]
  · obtain ⟨store, result⟩ := Prod.mk.inj h
    rcases created : s.create (context.after 1) join row with ⟨u, written, outcome⟩
    rw [created] at store result
    dsimp only at store result
    subst store result
    obtain ⟨-, -, after, assigned, rfl⟩ := create_ok.mp created
    obtain rfl := keyless.assignKey_ok assigned
    refine ⟨[written], ?_, fun x hx => List.mem_singleton.mp hx, ?_⟩ <;> rw [rows_push, rows_of_assignKey assigned]
    exact List.mem_append_right _ (List.mem_singleton_self written)

omit [ExactKeys K] in
theorem saveLink_ok {link : Row kind → Row join} {row written : Row kind}
    (h : s.saveLink context kind join link row = ⟨t, written, .ok ()⟩) :
    ∃ u, s.save context kind row = ⟨u, written, .ok ()⟩ ∧
      u.ensureLink (context.after 1) join (link written) = (t, .ok ()) := by
  unfold saveLink at h
  rcases saved : s.save context kind row with ⟨u, target, _ | _⟩
  · rw [saved] at h
    cases h
  · rw [saved] at h
    dsimp only at h
    rcases linked : u.ensureLink (context.after 1) join (link target) with ⟨v, result⟩
    rw [linked] at h
    obtain ⟨rfl, rfl, rfl⟩ := Writing.mk.inj h
    exact ⟨u, rfl, linked⟩

omit [ExactKeys K] in
theorem exists_of_linkAll_cons {link : Row kind → Row join} {row : Row kind} {rest more : List (Row kind)}
    (h : linkAll context kind join link s (row :: rest) = ⟨t, more, .ok ()⟩) :
    ∃ u written others, s.saveLink context kind join link row = ⟨u, written, .ok ()⟩ ∧
      linkAll (context.after 3) kind join link u rest = ⟨t, others, .ok ()⟩ := by
  unfold linkAll at h
  rcases first : s.saveLink context kind join link row with ⟨u, written, _ | _⟩
  · rw [first] at h
    cases h
  · rw [first] at h
    dsimp only at h
    rcases next : linkAll (context.after 3) kind join link u rest with ⟨v, others, result⟩
    rw [next] at h
    obtain ⟨rfl, -, rfl⟩ := Writing.mk.inj h
    exact ⟨u, written, others, rfl, next⟩

/-- Targets are put one after the other, and the join rows that were missing are added. -/
theorem linkAll_ok {link : Row kind → Row join} {rows more : List (Row kind)} (hj : join ≠ kind)
    (target : Keyless kind) (keyless : Keyless join) (columns : ByColumns join)
    (h : linkAll context kind join link s rows = ⟨t, more, .ok ()⟩) :
    t.rows kind = putAll (s.rows kind) rows ∧
      ∃ extra, t.rows join = s.rows join ++ extra ∧ (∀ x ∈ extra, ∃ row ∈ rows, x = link row) ∧
        ∀ row ∈ rows, link row ∈ t.rows join := by
  induction rows generalizing s context more with
  | nil =>
    obtain ⟨rfl, -, -⟩ := Writing.mk.inj h
    exact ⟨rfl, [], (List.append_nil _).symm, List.forall_mem_nil _, List.forall_mem_nil _⟩
  | cons row rest ih =>
    obtain ⟨v, written, others, first, next⟩ := exists_of_linkAll_cons h
    obtain ⟨u, saved, linked⟩ := saveLink_ok first
    obtain ⟨rfl, put⟩ := target.save_ok saved
    have sameJoin : u.rows join = s.rows join := by
      have frame : (s.save context kind written).store.rows join = s.rows join := rows_save_of_ne hj
      rwa [saved] at frame
    have sameKind : v.rows kind = u.rows kind := by
      have frame : (u.ensureLink (context.after 1) join (link written)).1.rows kind = u.rows kind :=
        rows_ensureLink_of_ne hj.symm
      rwa [linked] at frame
    obtain ⟨new, added, isNew, there⟩ := ensureLink_ok keyless columns linked
    obtain ⟨puts, extra, appended, isLink, all⟩ := ih next
    refine ⟨?_, new ++ extra, ?_, ?_, ?_⟩
    · rw [puts, sameKind, put]
      rfl
    · rw [appended, added, sameJoin, List.append_assoc]
    · intro x hx
      rcases List.mem_append.mp hx with hx | hx
      · exact ⟨written, List.mem_cons_self, isNew x hx⟩
      · obtain ⟨row, hr, rfl⟩ := isLink x hx
        exact ⟨row, List.mem_cons_of_mem written hr, rfl⟩
    · refine List.forall_mem_cons.mpr ⟨?_, all⟩
      rw [appended]
      exact List.mem_append_left extra there

end ProtoStore.Store
