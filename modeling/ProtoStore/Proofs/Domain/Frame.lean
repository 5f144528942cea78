import ProtoStore.Proofs.Domain.Course

/-!
# What the parts of an update leave alone

* `Drops s t` : a store goes on to another by losing rows only, which is all that pruning does
  (`moves_prune_drops`);
* `SameIn kind` : the rows of a kind stay, which those do that no link writes
  (`moves_prepare_sameIn`, `moves_saveCollections_sameIn`);
* `Update.sublist`, `Update.rows_eq`, `Creation.rows_eq` : what becomes of rows that an operation does
  not save.
-/

namespace ProtoStore.Domain

open Store

variable {E K σ : Type} [DecidableEq K] [Catalog K]

/-- Rows are lost, and nothing else changes. -/
structure Drops (s t : Store K) : Prop where
  rows (kind : K) : (t.rows kind).Sublist (s.rows kind)
  sequence : t.sequence = s.sequence
  fresh : t.fresh = s.fresh

instance : IsPreorder (Store K) Drops where
  refl _ := ⟨fun _ => List.Sublist.refl _, rfl, rfl⟩
  trans _ _ _ h h' := ⟨fun kind => (h'.rows kind).trans (h.rows kind), h'.sequence.trans h.sequence,
    h'.fresh.trans h.fresh⟩

/-- The rows of a kind stay as they are. -/
def SameIn (kind : K) (s t : Store K) : Prop := t.rows kind = s.rows kind

instance (kind : K) : IsPreorder (Store K) (SameIn kind) where
  refl _ := rfl
  trans _ _ _ h h' := h'.trans h

theorem Drops.deleteSome {s t : Store K} {kind : K} {context : Context} {query : Option Query} {n : Nat}
    (h : s.deleteSome context kind query = .ok (t, n)) : Drops s t := by
  obtain ⟨rows, hr, altered⟩ := deleteSome_ok h
  refine ⟨fun other => ?_, altered.sequence, altered.fresh⟩
  by_cases e : other = kind
  · subst e
    rwa [altered.rows_self]
  · rw [altered.rows_of_ne e]

namespace Operations

variable [Bindings E K] {world : World K σ} {e : E} {row : Record e} {pending : List (Pending e)}

/-- The kinds of rows that are saved for a link. -/
def Pending.writes : Pending e → List K
  | .reference link _ => [table link.target]
  | .children link _ => if link.strategy = .clear then [] else [table link.target]
  | .joined link _ => if link.strategy = .clear then [] else [table link.target, link.join]

/-- The kinds of rows that are saved for a link before the row of the message. -/
def Pending.refers : Pending e → List K
  | .reference link _ => [table link.target]
  | .children _ _ | .joined _ _ => []

/-- The kinds of rows that are deleted for a link. -/
def Pending.prunes : Pending e → List K
  | .reference _ _ => []
  | .children link _ => [table link.target]
  | .joined link _ => [link.join]

omit [DecidableEq K] in
theorem Pending.not_mem_refers {p : Pending e} {kind : K} (h : kind ∉ p.writes) : kind ∉ p.refers := by
  cases p with
  | reference link row => exact h
  | children link rows | joined link rows => exact List.not_mem_nil

theorem moves_pruneAll_drops :
    Moves Drops (pending.forM (pruneOne row) : Action K σ Unit) world fun _ _ => True := by
  refine Moves.forM fun p _ after _ => ?_
  cases p with
  | reference link row => exact Moves.pure trivial
  | children link rows => exact Moves.remove fun t n h => Drops.deleteSome h
  | joined link rows => exact Moves.remove fun t n h => Drops.deleteSome h

theorem moves_prune_drops :
    Moves Drops (prune pending row : Action K σ Unit) world fun _ _ => True := by
  unfold prune
  split
  · exact Moves.pure trivial
  · exact moves_pruneAll_drops

variable {kind : K}

theorem moves_prepare_sameIn (h : ∀ p ∈ pending, kind ∉ p.refers) :
    Moves (SameIn kind) (prepare pending row : Action K σ (Record e)) world fun _ _ => True := by
  refine Moves.foldlM (fun p hp row after _ _ => ?_) trivial
  cases p with
  | reference link target =>
    cases target with
    | none => exact Moves.pure trivial
    | some target =>
      have hn : kind ≠ table link.target := fun e => h _ hp (e ▸ List.mem_singleton_self _)
      exact (Moves.write (P := fun _ _ => True) (rows_save_of_ne hn) fun _ => trivial).bind
        fun _ _ _ _ => Moves.pure trivial
  | children link rows => exact Moves.pure trivial
  | joined link rows => exact Moves.pure trivial

theorem moves_pruneOne_sameIn {p : Pending e} (h : kind ∉ p.prunes) :
    Moves (SameIn kind) (pruneOne row p : Action K σ Unit) world fun _ _ => True := by
  have other : ∀ {other : K} {s t : Store K} {context : Context} {query : Option Query} {n : Nat},
      kind ≠ other → s.deleteSome context other query = .ok (t, n) → SameIn kind s t := by
    intro other s t context query n hn deleted
    obtain ⟨rows, -, altered⟩ := deleteSome_ok deleted
    exact altered.rows_of_ne hn
  cases p with
  | reference link target => exact Moves.pure trivial
  | children link rows =>
    exact Moves.remove fun t n deleted => other (fun e => h (e ▸ List.mem_singleton_self _)) deleted
  | joined link rows =>
    exact Moves.remove fun t n deleted => other (fun e => h (e ▸ List.mem_singleton_self _)) deleted

theorem moves_pruneAll_sameIn (h : ∀ p ∈ pending, kind ∉ p.prunes) :
    Moves (SameIn kind) (pending.forM (pruneOne row) : Action K σ Unit) world fun _ _ => True :=
  Moves.forM fun p hp _ _ => moves_pruneOne_sameIn (h p hp)

theorem moves_saveOne_sameIn [ExactKeys K] {p : Pending e} (h : kind ∉ p.writes) :
    Moves (SameIn kind) (saveOne row p : Action K σ Unit) world fun _ _ => True := by
  cases p with
  | reference link target => exact Moves.pure trivial
  | children link rows =>
    refine (Moves.write (P := fun _ _ => True) ?_ fun _ => trivial).bind
      fun _ _ _ _ => Moves.pure trivial
    rw [Pending.writes] at h
    split at h
    · next hs =>
      rw [hs, saveChildren, if_pos rfl]
      exact refl_of (SameIn kind) _
    · exact rows_saveChildren_of_ne fun e => h (e ▸ List.mem_singleton_self _)
  | joined link rows =>
    refine (Moves.write (P := fun _ _ => True) ?_ fun _ => trivial).bind
      fun _ _ _ _ => Moves.pure trivial
    rw [Pending.writes] at h
    split at h
    · next hs =>
      rw [hs, saveLinks, if_pos rfl]
      exact refl_of (SameIn kind) _
    · rw [List.mem_cons, List.mem_singleton, not_or] at h
      exact rows_saveLinks_of_ne h.1 h.2

theorem moves_saveCollections_sameIn [ExactKeys K] (h : ∀ p ∈ pending, kind ∉ p.writes) :
    Moves (SameIn kind) (saveCollections pending row : Action K σ Unit) world fun _ _ => True :=
  Moves.forM fun p hp _ _ => moves_saveOne_sameIn (h p hp)

/-! ## Whole operations -/

section

variable {context : Context} {message : Message e} {s t : Store K}

theorem sameIn_of_prepare {last : World K Unit} {prepared : Record e}
    (h : ∀ p ∈ pending, kind ∉ p.refers)
    (hp : prepare pending row ⟨s, context, ()⟩ = (.ok prepared, last)) : SameIn kind s last.store := by
  have moved : Moves (SameIn kind) (prepare pending row) (⟨s, context, ()⟩ : World K Unit)
      fun _ _ => True := moves_prepare_sameIn h
  have same := moved.1
  rwa [hp] at same

theorem sameIn_of_pruneAll {last : World K Unit} (h : ∀ p ∈ pending, kind ∉ p.prunes)
    (hp : pending.forM (pruneOne row) ⟨s, context, ()⟩ = (.ok (), last)) : SameIn kind s last.store := by
  have moved : Moves (SameIn kind) (pending.forM (pruneOne row)) (⟨s, context, ()⟩ : World K Unit)
      fun _ _ => True := moves_pruneAll_sameIn h
  have same := moved.1
  rwa [hp] at same

theorem drops_of_prune {last : World K Unit} (hp : prune pending row ⟨s, context, ()⟩ = (.ok (), last)) :
    Drops s last.store := by
  have moved : Moves Drops (prune pending row) (⟨s, context, ()⟩ : World K Unit) fun _ _ => True :=
    moves_prune_drops
  have drops := moved.1
  rwa [hp] at drops

theorem sameIn_of_saveCollections [ExactKeys K] {last : World K Unit}
    (h : ∀ p ∈ pending, kind ∉ p.writes)
    (hp : saveCollections pending row ⟨s, context, ()⟩ = (.ok (), last)) : SameIn kind s last.store := by
  have moved : Moves (SameIn kind) (saveCollections pending row) (⟨s, context, ()⟩ : World K Unit)
      fun _ _ => True := moves_saveCollections_sameIn h
  have same := moved.1
  rwa [hp] at same

variable [ExactKeys K]

section

variable {upserted : Upserted (Message e)} (u : Update context e message s t upserted)
include u

omit [ExactKeys K] in
/-- Of the rows that are deleted first, those that no reference points to are as they were. -/
theorem Update.rows_referred (h : ∀ p ∈ u.pending, kind ∉ p.refers) :
    u.referred.rows kind = s.rows kind :=
  sameIn_of_prepare h u.prepares

omit [ExactKeys K] in
theorem Update.rows_saved (hk : kind ≠ table e) : u.saved.rows kind = u.pruned.rows kind := by
  have frame : (u.pruned.save context (table e) u.prepared).store.rows kind = u.pruned.rows kind :=
    rows_save_of_ne hk
  rwa [u.saves] at frame

/-- Rows that an update does not save are at the end as they are once rows are deleted. -/
theorem Update.rows_pruned (hk : kind ≠ table e) (h : ∀ p ∈ u.pending, kind ∉ p.writes) :
    t.rows kind = u.pruned.rows kind := by
  have linked : t.rows kind = u.saved.rows kind := sameIn_of_saveCollections h u.links
  rw [linked, u.rows_saved hk]

/-- Of rows that an update does not save it may lose some. -/
theorem Update.sublist (hk : kind ≠ table e) (h : ∀ p ∈ u.pending, kind ∉ p.writes) :
    (t.rows kind).Sublist (s.rows kind) := by
  rw [u.rows_pruned hk h, ← u.rows_referred fun p hp => Pending.not_mem_refers (h p hp)]
  exact (drops_of_prune u.prunes).rows kind

omit [ExactKeys K] in
theorem Update.rows_unpruned (h : ∀ p ∈ u.pending, kind ∉ p.prunes) :
    u.pruned.rows kind = u.referred.rows kind := by
  have prunes := u.prunes
  unfold prune at prunes
  split at prunes
  · obtain ⟨-, same⟩ := Action.pure_ok.mp prunes
    rw [(World.mk.inj same).1]
  · exact sameIn_of_pruneAll h prunes

/-- Rows that an update neither saves nor deletes stay. -/
theorem Update.rows_eq (hk : kind ≠ table e) (h : ∀ p ∈ u.pending, kind ∉ p.writes)
    (hp : ∀ p ∈ u.pending, kind ∉ p.prunes) : t.rows kind = s.rows kind := by
  rw [u.rows_pruned hk h, u.rows_unpruned hp,
    u.rows_referred fun p hp => Pending.not_mem_refers (h p hp)]

end

theorem Creation.rows_created {value : Message e} (c : Creation context e message s t value)
    (hk : kind ≠ table e) : c.created.rows kind = c.referred.rows kind := by
  have frame : (c.referred.create context (table e) c.prepared).store.rows kind =
      c.referred.rows kind := rows_create_of_ne hk
  rwa [c.creates] at frame

/-- Rows that a creation does not save stay. -/
theorem Creation.rows_eq {value : Message e} (c : Creation context e message s t value)
    (hk : kind ≠ table e) (h : ∀ p ∈ c.pending, kind ∉ p.writes) : t.rows kind = s.rows kind := by
  have referred : c.referred.rows kind = s.rows kind :=
    sameIn_of_prepare (fun p hp => Pending.not_mem_refers (h p hp)) c.prepares
  have linked : t.rows kind = c.created.rows kind := sameIn_of_saveCollections h c.links
  rw [linked, c.rows_created hk, referred]

end

end Operations

end ProtoStore.Domain
