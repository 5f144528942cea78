import ProtoStore.Proofs.Domain.Cleaning
import ProtoStore.Proofs.Domain.Stages
import ProtoStore.Proofs.Store.Linking

/-!
# Join rows and children that an update leaves

* `Only kind p pending` : of the links of a message, only `p` touches the rows of a kind. What an update
  leaves of them is then what it does for `p` (`Update.rows_pruned_only`, `Update.links_only`);
* `Update.relinks` : which join rows of the owner there are afterwards, as the strategy says. Those of
  others stay;
* `Update.rows_target` : the targets are put one after the other;
* `Update.pruned_children` : when the row of a message is about to be saved, its children are gone, but for
  those that are provided again where the strategy keeps them. A row without a key has none deleted.
-/

namespace ProtoStore.Domain

open Store Operations

variable {E K : Type} [DecidableEq K] [Catalog K] [Bindings E K] {e : E}

/-- Join rows are told by their columns and belong to the row they are made for; neither they nor their
targets get new keys. -/
structure Joined.Lawful (link : Joined e) : Prop where
  join_ne : link.join ≠ table e
  target_ne : table link.target ≠ table e
  apart : link.join ≠ table link.target
  keyless : Keyless link.join
  keyless_target : Keyless (table link.target)
  columns : ByColumns link.join
  owner : HasColumn link.join link.ownerColumn
  linked (row : Record e) (target : Record link.target) :
    Linked link.join link.ownerColumn (keyOf e row) (link.link row target)

/-- What becomes of the join rows of a link when a row is updated with targets. -/
structure Relinks (link : Joined e) (row : Record e) (targets : List (Record link.target))
    (before after : List (Row link.join)) : Prop where
  mem {x : Row link.join} : Linked link.join link.ownerColumn (keyOf e row) x → (x ∈ after ↔
    match link.strategy with
    | .append => x ∈ before ∨ x ∈ targets.map (link.link row)
    | .default | .replace => x ∈ targets.map (link.link row)
    | .clear => False)
  others : (after.filter fun x => !(record link.join).satisfies [.eq link.ownerColumn (keyOf e row)] x) =
    before.filter fun x => !(record link.join).satisfies [.eq link.ownerColumn (keyOf e row)] x

namespace Operations

open Domain.Action

variable {kind : K} {context : Context} {message : Message e} {s t : Store K}

/-! ## One link among others -/

/-- Of some links only one touches the rows of a kind. -/
def Only (kind : K) (p : Pending e) (pending : List (Pending e)) : Prop :=
  ∃ before after, pending = before ++ p :: after ∧
    ∀ q ∈ before ++ after, kind ∉ q.writes ∧ kind ∉ q.prunes

omit [DecidableEq K] in
theorem Only.forall_mem {P : Pending e → Prop} {p : Pending e} {pending : List (Pending e)}
    (only : Only kind p pending) (hp : P p) (others : ∀ q, kind ∉ q.writes → kind ∉ q.prunes → P q) :
    ∀ q ∈ pending, P q := by
  obtain ⟨before, after, rfl, untouched⟩ := only
  intro q hq
  rcases List.mem_append.mp hq with hq | hq
  · have apart := untouched q (List.mem_append_left after hq)
    exact others q apart.1 apart.2
  · rcases List.mem_cons.mp hq with rfl | hq
    · exact hp
    · have apart := untouched q (List.mem_append_right before hq)
      exact others q apart.1 apart.2

/-- Of a loop over links, all of which but one leave the rows of a kind, that one counts. -/
theorem exists_of_forM [context.Timeless] {f : Pending e → Action K Unit Unit} {p : Pending e}
    {before after : List (Pending e)} {last : World K Unit} (steady : ∀ q, Steady (f q))
    (same : ∀ q ∈ before ++ after, ∀ world, Moves (SameIn kind) (f q) world fun _ _ => True)
    (h : (before ++ p :: after).forM f ⟨s, context, ()⟩ = (.ok (), last)) :
    ∃ u v, u.rows kind = s.rows kind ∧ f p ⟨u, context, ()⟩ = (.ok (), ⟨v, context, ()⟩) ∧
      last.store.rows kind = v.rows kind := by
  have frame : ∀ {part : List (Pending e)} {world last : World K Unit}, (∀ q ∈ part, q ∈ before ++ after) →
      part.forM f world = (.ok (), last) → last.store.rows kind = world.store.rows kind := by
    intro part world last sub h
    have moved : Moves (SameIn kind) (part.forM f) world fun _ _ => True :=
      Moves.forM fun q hq world _ => same q (sub q hq) world
    have rows := moved.1
    rwa [h] at rows
  obtain ⟨middle, first, rest⟩ := forM_append_ok.mp h
  obtain ⟨_, next, one, others⟩ := bind_ok.mp rest
  obtain ⟨u, rfl⟩ := (Steady.forM steady before).exists_of_ok first
  obtain ⟨v, rfl⟩ := (steady p).exists_of_ok one
  exact ⟨u, v, frame (fun _ hq => List.mem_append_left after hq) first, one,
    frame (fun _ hq => List.mem_append_right before hq) others⟩

section

variable {upserted : Upserted (Message e)} (c : Update context e message s t upserted) {p : Pending e}
include c

/-- Of rows that only one link touches, those are gone before the row itself is saved that this link
takes, if any. -/
theorem Update.rows_pruned_only [Loadable E] (only : Only kind p c.pending) (hp : kind ∉ p.refers) :
    c.pruned.rows kind = (s.rows kind).filter fun x =>
      !(!(record (table e)).keyIsEmpty c.prepared && p.takes c.prepared kind x) := by
  have referred : c.referred.rows kind = s.rows kind :=
    c.rows_referred (only.forall_mem hp fun _ writes _ => Pending.not_mem_refers writes)
  have pruned : c.pruned.rows kind = (c.referred.rows kind).filter fun x =>
      !(!(record (table e)).keyIsEmpty c.prepared && c.pending.any fun p => p.takes c.prepared kind x) :=
    rows_prune (fun _ hp => link_mem_of_collected c.collected hp) c.prunes
  rw [pruned, referred]
  obtain ⟨before, after, split, others⟩ := only
  have untaken : ∀ part : List (Pending e), (∀ q ∈ part, q ∈ before ++ after) → ∀ x,
      (part.any fun q => q.takes c.prepared kind x) = false := by
    intro part sub x
    exact List.any_eq_false.mpr fun q hq =>
      Bool.eq_false_iff.mp (Pending.takes_of_not_mem (others q (sub q hq)).2 x)
  refine List.filter_congr fun x _ => ?_
  rw [split, List.any_append, List.any_cons, untaken before fun _ hq => List.mem_append_left after hq,
    untaken after fun _ hq => List.mem_append_right before hq, Bool.false_or, Bool.or_false]

/-- Rows that only one link touches are at the end as they are saved for that link. -/
theorem Update.links_only [context.Timeless] [ExactKeys K] (only : Only kind p c.pending) (hk : kind ≠ table e) :
    ∃ u v, u.rows kind = c.pruned.rows kind ∧
      saveOne c.written p ⟨u, context, ()⟩ = (.ok (), ⟨v, context, ()⟩) ∧ t.rows kind = v.rows kind := by
  have links := c.links
  obtain ⟨before, after, split, others⟩ := only
  unfold saveCollections at links
  rw [split] at links
  obtain ⟨u, v, first, one, last⟩ := exists_of_forM steady_saveOne
    (fun q hq _ => moves_saveOne_sameIn (others q hq).1) links
  exact ⟨u, v, first.trans (c.rows_saved hk), one, last⟩

end

/-! ## Join rows -/

section

variable {row : Record e} {link : Joined e} {rows : List (Record link.target)} {u v : Store K}

theorem saveOne_joined_ok (hs : link.strategy ≠ .clear)
    (h : saveOne row (.joined link rows) ⟨u, context, ()⟩ = (.ok (), ⟨v, context, ()⟩)) :
    ∃ more, linkAll context (table link.target) link.join (link.link row) u rows = ⟨v, more, .ok ()⟩ := by
  obtain ⟨more, world, wrote, last⟩ := bind_ok.mp h
  obtain ⟨store, saves, rfl⟩ := write_ok.mp wrote
  obtain ⟨-, same⟩ := pure_ok.mp last
  obtain rfl : store = v := congrArg World.store same
  unfold saveLinks at saves
  rw [if_neg hs] at saves
  exact ⟨more, saves⟩

variable [ExactKeys K] {upserted : Upserted (Message e)} (c : Update context e message s t upserted)
  (lawful : link.Lawful)
include c lawful

omit [ExactKeys K] lawful in
/-- Before the row is saved, join rows of other owners are as they were, and all are if rows are only
appended. -/
theorem Update.pruned_joined [Loadable E] (only : Only link.join (.joined link rows) c.pending) :
    (link.strategy = .append → c.pruned.rows link.join = s.rows link.join) ∧
      ((c.pruned.rows link.join).filter fun x =>
          !(record link.join).satisfies [.eq link.ownerColumn (keyOf e c.written)] x) =
        (s.rows link.join).filter fun x =>
          !(record link.join).satisfies [.eq link.ownerColumn (keyOf e c.written)] x := by
  have pruned := c.rows_pruned_only only List.not_mem_nil
  cases keyed : (record (table e)).keyIsEmpty c.prepared with
  | true =>
    have same : c.pruned.rows link.join = s.rows link.join := by
      rw [pruned, keyed]
      exact List.filter_eq_self.mpr fun _ _ => rfl
    exact ⟨fun _ => same, by rw [same]⟩
  | false =>
    rw [c.written_of_keyed keyed]
    simp only [keyed, Pending.takes, Bool.not_false, Bool.true_and, decide_true] at pruned
    constructor
    · intro hs
      rw [pruned]
      exact List.filter_eq_self.mpr fun x _ => by simp [hs]
    · rw [pruned, List.filter_filter]
      refine List.filter_congr fun x _ => ?_
      cases (record link.join).satisfies [.eq link.ownerColumn (keyOf e c.prepared)] x <;> simp

theorem Update.rows_cleared [context.Timeless] (only : Only link.join (.joined link rows) c.pending)
    (hs : link.strategy = .clear) : t.rows link.join = c.pruned.rows link.join := by
  obtain ⟨u, v, first, one, last⟩ := c.links_only only lawful.join_ne
  have writes : (Pending.joined link rows).writes = [] := if_pos hs
  have moved : Moves (SameIn link.join) (saveOne c.written (.joined link rows))
      (⟨u, context, ()⟩ : World K Unit) fun _ _ => True :=
    moves_saveOne_sameIn (writes ▸ List.not_mem_nil)
  have saved := moved.1
  rw [one] at saved
  rw [last, saved, first]

/-- After the row is saved, the join rows to the targets that are missing are added. -/
theorem Update.rows_joined [context.Timeless] (only : Only link.join (.joined link rows) c.pending)
    (hs : link.strategy ≠ .clear) :
    ∃ extra, t.rows link.join = c.pruned.rows link.join ++ extra ∧
      (∀ x ∈ extra, x ∈ rows.map (link.link c.written)) ∧
        ∀ x ∈ rows.map (link.link c.written), x ∈ t.rows link.join := by
  obtain ⟨u, v, first, one, last⟩ := c.links_only only lawful.join_ne
  obtain ⟨more, links⟩ := saveOne_joined_ok hs one
  obtain ⟨-, extra, added, new, all⟩ := linkAll_ok lawful.apart lawful.keyless_target lawful.keyless
    lawful.columns links
  refine ⟨extra, ?_, fun x hx => ?_, fun x hx => ?_⟩
  · rw [last, added, first]
  · obtain ⟨row, hr, rfl⟩ := new x hx
    exact List.mem_map_of_mem hr
  · obtain ⟨row, hr, rfl⟩ := List.mem_map.mp hx
    rw [last]
    exact all row hr

/-- The join rows of the owner are afterwards what the strategy says, and those of others stay. -/
theorem Update.relinks [context.Timeless] [Loadable E] (only : Only link.join (.joined link rows) c.pending)
    (none : link.strategy ≠ .append → ∀ x ∈ c.pruned.rows link.join,
      ¬Linked link.join link.ownerColumn (keyOf e c.written) x) :
    Relinks link c.written rows (s.rows link.join) (t.rows link.join) := by
  obtain ⟨appends, others⟩ := c.pruned_joined only
  by_cases hs : link.strategy = .clear
  · have same := c.rows_cleared lawful only hs
    refine ⟨fun {x} linked => ?_, ?_⟩
    · rw [same, hs]
      exact ⟨fun hx => none (hs ▸ nofun) x hx linked, False.elim⟩
    · rw [same, others]
  · obtain ⟨extra, added, new, all⟩ := c.rows_joined lawful only hs
    refine ⟨fun {x} linked => ?_, ?_⟩
    · have mem : x ∈ t.rows link.join ↔
          x ∈ c.pruned.rows link.join ∨ x ∈ rows.map (link.link c.written) := by
        constructor
        · intro hx
          rw [added] at hx
          exact (List.mem_append.mp hx).imp id (new x)
        · rintro (hx | hx)
          · rw [added]
            exact List.mem_append_left extra hx
          · exact all x hx
      rw [mem]
      cases strategy : link.strategy with
      | append => rw [appends strategy]
      | default | replace => exact or_iff_right fun hx => none (by rw [strategy]; nofun) x hx linked
      | clear => exact absurd strategy hs
    · have linked : (extra.filter fun x =>
          !(record link.join).satisfies [.eq link.ownerColumn (keyOf e c.written)] x) = [] := by
        refine List.filter_eq_nil_iff.mpr fun x hx => ?_
        obtain ⟨target, -, rfl⟩ := List.mem_map.mp (new x hx)
        have made := lawful.linked c.written target
        unfold Linked at made
        rw [made]
        exact Bool.false_ne_true
      rw [added, List.filter_append, linked, List.append_nil, others]

/-- The targets are put one after the other. -/
theorem Update.rows_target [context.Timeless] (hs : link.strategy ≠ .clear)
    (only : Only (table link.target) (.joined link rows) c.pending) :
    t.rows (table link.target) = putAll (s.rows (table link.target)) rows := by
  obtain ⟨u, v, first, one, last⟩ := c.links_only only lawful.target_ne
  obtain ⟨more, links⟩ := saveOne_joined_ok hs one
  have untouched : table link.target ∉ (Pending.joined link rows).prunes :=
    fun h => lawful.apart (List.mem_singleton.mp h).symm
  obtain ⟨put, -⟩ := linkAll_ok lawful.apart lawful.keyless_target lawful.keyless lawful.columns
    links
  have pruned : c.pruned.rows (table link.target) = s.rows (table link.target) := by
    rw [c.rows_unpruned (only.forall_mem untouched fun _ _ prunes => prunes), c.rows_referred
      (only.forall_mem List.not_mem_nil fun _ writes _ => Pending.not_mem_refers writes)]
  rw [last, put, first, pruned]

end

/-! ## Children -/

section

variable [ExactKeys K] [Loadable E] {row : Record e} {upserted : Upserted (Message e)}

omit [DecidableEq K] in
/-- Of the children of a parent, only those are not asked for that are provided again. -/
theorem exists_prunedChildren {target : E} {strategy : Strategy} (column : String) (k : Value)
    (kept : List (Record target)) (hs : strategy ≠ .append) :
    ∃ query ∈ prunedChildren (table target) strategy column k kept, ∀ x,
      Linked (table target) column k x → (record (table target)).satisfies query.conditions x = false →
        strategy = .replace ∧ key x ∈ presentKeys kept := by
  cases strategy with
  | append => exact absurd rfl hs
  | default | clear =>
    refine ⟨linkedBy column k, rfl, fun x linked unasked => ?_⟩
    exact absurd (linked.symm.trans unasked) nofun
  | replace =>
    unfold prunedChildren
    dsimp only
    split
    · refine ⟨linkedBy column k, rfl, fun x linked unasked => ?_⟩
      exact absurd (linked.symm.trans unasked) nofun
    · refine ⟨_, rfl, fun x linked unasked => ⟨rfl, ?_⟩⟩
      have both : (record (table target)).satisfies ([.eq column k] ++
          [.notIn (record (table target)).keyColumn (presentKeys kept)]) x =
            ((record (table target)).satisfies [.eq column k] x && (record (table target)).satisfies
              [.notIn (record (table target)).keyColumn (presentKeys kept)] x) := List.all_append
      have both := both.symm.trans unasked
      unfold Linked at linked
      rw [linked, Bool.true_and, satisfies_singleton, Condition.column, KeyColumns.value?,
        Option.getD_some, Condition.holds, Bool.not_eq_false'] at both
      exact (Value.isIn_iff (ExactKeys.isExact _ x)).mp both

/-- When a row is saved, of its children only those are there that are provided again. Of a row without a
key no children are deleted. -/
theorem Update.pruned_children (c : Update context e message s t upserted)
    {link : Children e} {rows : List (Record link.target)} (hs : link.strategy ≠ .append)
    (only : Only (table link.target) (.children link rows) c.pending) :
    (record (table e)).keyIsEmpty c.prepared = true ∧
        c.pruned.rows (table link.target) = s.rows (table link.target) ∨
      ∀ x ∈ c.pruned.rows (table link.target),
        Linked (table link.target) link.column (keyOf e c.written) x →
          link.strategy = .replace ∧ key x ∈ presentKeys rows := by
  have pruned := c.rows_pruned_only only List.not_mem_nil
  cases keyed : (record (table e)).keyIsEmpty c.prepared with
  | true =>
    refine Or.inl ⟨rfl, ?_⟩
    rw [pruned, keyed]
    exact List.filter_eq_self.mpr fun _ _ => rfl
  | false =>
    refine Or.inr fun x hx linked => ?_
    obtain ⟨query, asked, kept⟩ := exists_prunedChildren link.column (keyOf e c.prepared) rows hs
    rw [c.written_of_keyed keyed] at linked
    rw [pruned, List.mem_filter, keyed, Pending.takes, Option.mem_def.mp asked] at hx
    refine kept x linked ?_
    simpa using hx.2

end

end Operations

end ProtoStore.Domain
