import ProtoStore.Proofs.Domain.Cleaning

/-!
# Updates with rows that were read

An update with what was read from a store takes rows out and puts rows back. Where a store `t` has all that
it saves, and all keys that it leaves, the update succeeds and leaves the rows of `t`
(`exists_update_toward`); `Restores` says what is to be known of the links for that. From `t` itself it
leads back to `t` (`exists_update_again`).
-/

namespace ProtoStore.Domain.Operations

open Store Domain.Action

variable {E K : Type} [DecidableEq K] [Catalog K] [Bindings E K] {e : E} {s t u : Store K}
  {row : Record e} {pending : List (Pending e)} {p : Pending e} {context : Context} {kind : K}
  {x : Row kind}

/-! ## Rows of links -/

/-- A row belongs to a record by a link whose rows an update saves anew. -/
def Pending.Holds (row : Record e) (kind : K) (x : Row kind) : Pending e → Prop
  | .reference _ _ => False
  | .children link _ => kind = table link.target ∧ Linked kind link.column (keyOf e row) x
  | .joined link _ =>
    kind = link.join ∧ link.strategy ≠ .append ∧ Linked kind link.ownerColumn (keyOf e row) x

omit [DecidableEq K] in
@[simp] theorem Pending.holds_cleared : p.cleared.Holds row kind x ↔ p.Holds row kind x := by
  cases p <;> exact Iff.rfl

theorem Settled.resaved (h : Settled t row p) (hx : x ∈ t.rows kind) (held : p.Holds row kind x) :
    Resaved row p kind x := by
  cases p with
  | reference link target => exact held.elim
  | children link rows =>
    obtain ⟨rfl, linked⟩ := held
    obtain ⟨r, hr, rfl⟩ := h.2.2 x hx linked
    exact .children hr
  | joined link rows =>
    obtain ⟨rfl, hs, linked⟩ := held
    obtain ⟨r, hr, rfl⟩ := h.2.2.2 hs x hx linked
    exact .joined hr

theorem Settled.referred (h : Settled t row p) : Referred t p := by
  cases p with
  | reference link target => exact h
  | children link rows => trivial
  | joined link rows => trivial

variable [Loadable E]

/-- Only rows that belong to a record are deleted. -/
theorem Pending.holds_of_takes (hl : p.link ∈ Bindings.links e) (h : p.takes row kind x = true) :
    p.Holds row kind x := by
  cases p with
  | reference link target => cases h
  | children link rows =>
    obtain ⟨same, asked⟩ := (Bool.and_eq_true_iff).mp h
    obtain rfl := of_decide_eq_true same
    obtain ⟨query, hq, satisfied⟩ := (Option.any_eq_true _ _).mp asked
    exact ⟨rfl, (linked_of_prunedChildren (Loadable.children hl) hq).2 x satisfied⟩
  | joined link rows =>
    obtain ⟨same, rest⟩ := (Bool.and_eq_true_iff).mp h
    obtain ⟨hs, linked⟩ := (Bool.and_eq_true_iff).mp rest
    exact ⟨of_decide_eq_true same, of_decide_eq_true hs, linked⟩

/-! ## Pruning -/

theorem exists_pruneOne [context.Timeless] (alive : context.check = .ok ()) (hl : p.link ∈ Bindings.links e) :
    ∃ v, pruneOne row p (⟨u, context, ()⟩ : World K Unit) = (.ok (), ⟨v, context, ()⟩) := by
  cases p with
  | reference link target => exact ⟨u, rfl⟩
  | children link rows =>
    obtain ⟨v, n, removed⟩ : ∃ v n, u.pruneChildren context (table link.target) link.strategy
        link.column (keyOf e row) rows = .ok (v, n) :=
      exists_deleteSome alive fun q hq => (linked_of_prunedChildren (Loadable.children hl) hq).1
    refine ⟨v, ?_⟩
    unfold pruneOne
    exact remove_ok.mpr ⟨v, n, removed, by rw [World.after_timeless]⟩
  | joined link rows =>
    obtain ⟨v, n, removed⟩ : ∃ v n, u.pruneLinks context link.join link.strategy
        link.ownerColumn (keyOf e row) = .ok (v, n) :=
      exists_deleteSome alive (reads_prunedLinks hl (keyOf e row))
    refine ⟨v, ?_⟩
    unfold pruneOne
    exact remove_ok.mpr ⟨v, n, removed, by rw [World.after_timeless]⟩

/-- Rows are pruned unless the context is over. -/
theorem exists_prune [context.Timeless] (alive : context.check = .ok ()) (hl : ∀ p ∈ pending, p.link ∈ Bindings.links e) :
    ∃ v, prune pending row (⟨u, context, ()⟩ : World K Unit) = (.ok (), ⟨v, context, ()⟩) := by
  unfold prune
  split
  · exact ⟨u, rfl⟩
  · induction pending generalizing u with
    | nil => exact ⟨u, rfl⟩
    | cons p pending ih =>
      obtain ⟨first, rest⟩ := List.forall_mem_cons.mp hl
      obtain ⟨v, one⟩ : ∃ v, pruneOne row p (⟨u, context, ()⟩ : World K Unit) =
          (.ok (), ⟨v, context, ()⟩) := exists_pruneOne alive first
      obtain ⟨w, others⟩ := ih rest
      exact ⟨w, bind_ok.mpr ⟨(), _, one, others⟩⟩

/-! ## Updates -/

/-- Saving the records of links and a record leads from the rows of a store to those of another. -/
structure Restores (s t : Store K) (pending : List (Pending e)) (row : Record e) : Prop where
  referred : ∀ p ∈ pending, Referred s p
  settled : ∀ p ∈ pending, Settled t row p.cleared
  keyed : Keyed t (table e) row
  /-- Rows whose keys are to be gone are deleted. -/
  gone {kind : K} {x : Row kind} : x ∈ s.rows kind → key x ∉ (t.rows kind).map key →
    ∃ p ∈ pending, p.takes row kind x = true
  /-- Rows that are not there yet are saved. -/
  new {kind : K} {x : Row kind} : x ∈ t.rows kind → x ∉ s.rows kind →
    (kind = table e ∧ key x = key row) ∨ ∃ p ∈ pending, p.Holds row kind x

/-- Pruning leaves the rows that no link takes. -/
theorem mem_pruned [context.Timeless] {pruned : Store K} (links : ∀ p ∈ pending, p.link ∈ Bindings.links e)
    (keyed : Keyed t (table e) row) (same : Alike s u)
    (prunes : prune pending row ⟨u, context, ()⟩ = (.ok (), ⟨pruned, context, ()⟩)) :
    x ∈ pruned.rows kind ↔ x ∈ s.rows kind ∧ ∀ p ∈ pending, p.takes row kind x = false := by
  rw [show pruned.rows kind = _ from rows_prune links prunes, List.mem_filter, ← same.mem_iff, keyed.2]
  simp only [Bool.not_false, Bool.true_and, Bool.not_eq_true', List.any_eq_false, Bool.not_eq_true]

/-- Of the rows that are saved anew, pruning leaves a part. -/
theorem Restores.part_pruned [context.Timeless] {pruned : Store K} (restores : Restores s t pending row) (hu : u.Distinct)
    (links : ∀ p ∈ pending, p.link ∈ Bindings.links e) (same : Alike s u)
    (prunes : prune pending row ⟨u, context, ()⟩ = (.ok (), ⟨pruned, context, ()⟩)) : Part t pruned := by
  refine ⟨fun kind => ?_, fun {kind x} hx => ?_⟩
  · rw [show pruned.rows kind = _ from rows_prune links prunes]
    exact (hu kind).sublist (List.filter_sublist.map key)
  · obtain ⟨hx, untaken⟩ := (mem_pruned links restores.keyed same prunes).mp hx
    by_contra gone
    obtain ⟨p, hp, taken⟩ := restores.gone hx gone
    cases (untaken p hp).symm.trans taken

variable [ExactKeys K] [Distinguishes E] {value answer : Message e} {start found : Record e}
  {later : Context} [context.Timeless] [later.Timeless]

/-- An update finds the row of a message, and leaves the rows that saving leads to. -/
theorem exists_update_toward (hs : s.Distinct) (ht : t.Distinct) (alive : context.check = .ok ())
    (live : later.check = .ok ()) (hm : found ∈ s.rows (table e)) (converts : Converts e value start)
    (hk : (record (table e)).key start = (record (table e)).key found)
    (collected : List.Forall₂ (Collected value) (Bindings.links e) pending)
    (restores : Restores s t pending row)
    (pointed : pending.foldl Pending.point
      ((Bindings.keepParents? e).elim start fun keep => keep found start) = row)
    (responds : Responds context t row answer) :
    ∃ last, Nonempty (Update later e value s last ⟨answer, false⟩) ∧ Alike t last := by
  have links : ∀ p ∈ pending, p.link ∈ Bindings.links e := fun _ hp => link_mem_of_collected collected hp
  have locks : Locks later s e start (false,
      (Bindings.keepParents? e).elim start fun keep => keep found start) := by
    rw [locks_iff live, stored_of_mem hs hm hk]
    rfl
  obtain ⟨referred, prepares, fills⟩ := prepare_settled hs live restores.referred (Part.refl hs)
    ((Bindings.keepParents? e).elim start fun keep => keep found start)
  rw [pointed] at prepares
  obtain ⟨pruned, prunes⟩ : ∃ v, prune pending row (⟨referred, later, ()⟩ : World K Unit) =
      (.ok (), ⟨v, later, ()⟩) := exists_prune live links
  -- References are stored already, so pruning starts from the rows of `s`.
  have same : Alike s referred := fills.part.alike hs fun _ _ hx => fills.grows hx hx
  have part := restores.part_pruned fills.part.distinct links same prunes
  obtain ⟨saved, saves, fills', written⟩ := part.save ht live restores.keyed.1 restores.keyed.2
  obtain ⟨last, saves', fills'', back⟩ :=
    saveCollections_settled ht live links restores.settled fills'.part
  have all : ∀ (kind : K), ∀ x ∈ t.rows kind, x ∈ last.rows kind := by
    intro kind x hx
    by_cases held : ∃ p ∈ pending, p.Holds row kind x
    · obtain ⟨p, hp, held⟩ := held
      exact back p hp hx ((restores.settled p hp).resaved hx (Pending.holds_cleared.mpr held))
    · by_cases old : x ∈ s.rows kind
      · have untaken : ∀ p ∈ pending, p.takes row kind x = false := fun p hp =>
          Bool.eq_false_iff.mpr fun taken => held ⟨p, hp, Pending.holds_of_takes (links p hp) taken⟩
        have stays := (mem_pruned links restores.keyed same prunes).mpr ⟨old, untaken⟩
        exact fills''.grows hx (fills'.grows hx stays)
      · obtain ⟨rfl, hk⟩ := (restores.new hx old).resolve_right held
        exact fills''.grows hx (ht.eq_of_key hx restores.keyed.1 hk ▸ written)
  have alike : Alike t last := fills''.part.alike ht all
  exact ⟨last, ⟨⟨start, pending, _, row, row, referred, pruned, saved, converts, collected, locks,
    prepares, prunes, saves, saves', responds.alike alike alive live⟩⟩, alike⟩

/-- An update with a message all of whose rows are stored as they are written finds the row of the
message, and leaves the same rows. -/
theorem exists_update_again (ht : t.Distinct) (alive : context.check = .ok ())
    (live : later.check = .ok ()) (hr : Keyed t (table e) row) (converts : Converts e value start)
    (hk : (record (table e)).key start = (record (table e)).key row)
    (collected : List.Forall₂ (Collected value) (Bindings.links e) pending)
    (settled : ∀ p ∈ pending, Settled t row p)
    (pointed : pending.foldl Pending.point
      ((Bindings.keepParents? e).elim start fun keep => keep row start) = row)
    (responds : Responds context t row value) :
    ∃ last, Nonempty (Update later e value t last ⟨value, false⟩) ∧ Alike t last := by
  refine exists_update_toward ht ht alive live hr.1 converts hk collected ?_ pointed responds
  refine ⟨fun p hp => (settled p hp).referred, fun p hp => ?_, hr, fun hx hk => ?_, fun hx hn => ?_⟩
  · rw [(settled p hp).cleared_eq]
    exact settled p hp
  · exact absurd (List.mem_map_of_mem hx) hk
  · exact absurd hx hn

end ProtoStore.Domain.Operations
