import ProtoStore.Proofs.Domain.Failing
import ProtoStore.Proofs.Domain.Reload

/-!
# Rows saved again

`Settled` says of the records of a link that they are stored as they would be saved. Saving them again
goes from parts of the store to parts of it, and puts them all back (`prepare_settled`,
`saveCollections_settled`). A link whose strategy drops all of its rows has none to save
(`Pending.cleared`).
-/

namespace ProtoStore.Domain.Operations

open Store Domain.Action

variable {E K : Type} [DecidableEq K] [Catalog K] [ExactKeys K] [Bindings E K] [Loadable E] {e : E}
  {t u : Store K} {row : Record e} {pending : List (Pending e)} {context : Context}

/-! ## Records of links -/

/-- A row is stored under a key. -/
def Keyed (t : Store K) (kind : K) (row : Row kind) : Prop :=
  row ∈ t.rows kind ∧ (record kind).keyIsEmpty row = false

/-- A column of a row holds a key. -/
def Linked (kind : K) (column : String) (k : Value) (row : Row kind) : Prop :=
  (record kind).satisfies [.eq column k] row = true

/-- The records of a link are stored as they would be saved, and so are all rows that a strategy may
delete. -/
def Settled (t : Store K) (row : Record e) : Pending e → Prop
  | .reference link target => ∀ x ∈ target, Keyed t (table link.target) x
  | .children link rows =>
    (link.strategy = .clear → rows = []) ∧
      (∀ r ∈ rows, Keyed t (table link.target) (link.attach row r)) ∧
      ∀ x ∈ t.rows (table link.target), Linked (table link.target) link.column (keyOf e row) x →
        ∃ r ∈ rows, link.attach row r = x
  | .joined link rows =>
    (link.strategy = .clear → rows = []) ∧ ByColumns link.join ∧
      (∀ r ∈ rows, Keyed t (table link.target) r ∧ Keyed t link.join (link.link row r)) ∧
      (link.strategy ≠ .append → ∀ x ∈ t.rows link.join,
        Linked link.join link.ownerColumn (keyOf e row) x → ∃ r ∈ rows, link.link row r = x)

/-- The rows that are saved for a link of a record. -/
inductive Resaved (row : Record e) : Pending e → (kind : K) → Row kind → Prop
  | children {link : Children e} {rows : List (Record link.target)} {r : Record link.target} :
    r ∈ rows → Resaved row (.children link rows) (table link.target) (link.attach row r)
  | joined {link : Joined e} {rows : List (Record link.target)} {r : Record link.target} :
    r ∈ rows → Resaved row (.joined link rows) link.join (link.link row r)

/-- The target of a reference is stored. -/
def Referred (t : Store K) : Pending e → Prop
  | .reference link target => ∀ x ∈ target, Keyed t (table link.target) x
  | .children _ _ | .joined _ _ => True

/-- A link without its records where its strategy drops them all. -/
def Pending.cleared : Pending e → Pending e
  | .reference link target => .reference link target
  | .children link rows => .children link (if link.strategy = .clear then [] else rows)
  | .joined link rows => .joined link (if link.strategy = .clear then [] else rows)

/-- A record pointed to the target of a reference. -/
def Pending.point (row : Record e) : Pending e → Record e
  | .reference link target => link.assign target row
  | .children _ _ | .joined _ _ => row

/-- The link that records are for. -/
def Pending.link : Pending e → MessageLink e
  | .reference link _ => .reference link
  | .children link _ => .children link
  | .joined link _ => .joined link

omit [ExactKeys K] [Loadable E] in
/-- Records that are stored as they are saved are none where all are dropped. -/
theorem Settled.cleared_eq {p : Pending e} (h : Settled t row p) : p.cleared = p := by
  cases p with
  | reference link target => rfl
  | children link rows =>
    by_cases hs : link.strategy = .clear
    · simp [Pending.cleared, h.1 hs]
    · simp [Pending.cleared, hs]
  | joined link rows =>
    by_cases hs : link.strategy = .clear
    · simp [Pending.cleared, h.1 hs]
    · simp [Pending.cleared, hs]

/-! ## The parts of an update -/

omit [Loadable E] in
theorem prepare_settled [context.Timeless] (ht : t.Distinct) (alive : context.check = .ok ())
    (h : ∀ p ∈ pending, Referred t p) (part : Part t u) (start : Record e) :
    ∃ v, prepare pending start ⟨u, context, ()⟩ =
        (.ok (pending.foldl Pending.point start), ⟨v, context, ()⟩) ∧ Fills t u v := by
  induction pending generalizing u start with
  | nil => exact ⟨u, rfl, Fills.refl part⟩
  | cons p pending ih =>
    obtain ⟨hp, hrest⟩ := List.forall_mem_cons.mp h
    have first : ∃ v, prepareOne start p ⟨u, context, ()⟩ =
        (.ok (p.point start), ⟨v, context, ()⟩) ∧ Fills t u v := by
      cases p with
      | reference link target =>
        cases target with
        | none => exact ⟨u, rfl, Fills.refl part⟩
        | some target =>
          obtain ⟨v, hv, fills, -⟩ := part.save ht alive (hp target rfl).1 (hp target rfl).2
          exact ⟨v, bind_ok.mpr ⟨target, _, write_done hv, rfl⟩, fills⟩
      | children link rows => exact ⟨u, rfl, Fills.refl part⟩
      | joined link rows => exact ⟨u, rfl, Fills.refl part⟩
    obtain ⟨v, hv, fills⟩ := first
    obtain ⟨w, hw, fills'⟩ := ih hrest fills.part (p.point start)
    refine ⟨w, ?_, fills.trans fills'⟩
    unfold prepare at hw ⊢
    rw [List.foldlM_cons]
    exact bind_ok.mpr ⟨_, _, hv, hw⟩

omit [ExactKeys K] [Loadable E] in
/-- Records that are dropped are not looked at. -/
theorem saveOne_cleared {world : World K Unit} [world.context.Timeless] (p : Pending e) :
    saveOne row p.cleared world = saveOne row p world := by
  cases p with
  | reference link target => rfl
  | children link rows =>
    by_cases hs : link.strategy = .clear
    · simp only [Pending.cleared, saveOne, saveChildren, hs, if_true, bind_apply, write, world.after_timeless]
      rfl
    · simp only [Pending.cleared, if_neg hs]
  | joined link rows =>
    by_cases hs : link.strategy = .clear
    · simp only [Pending.cleared, saveOne, saveLinks, hs, if_true, bind_apply, write, world.after_timeless]
      rfl
    · simp only [Pending.cleared, if_neg hs]

variable [Distinguishes E]

omit [Loadable E] in
theorem saveOne_settled [context.Timeless] {p : Pending e} (ht : t.Distinct) (alive : context.check = .ok ())
    (hl : p.link ∈ Bindings.links e) (h : Settled t row p) (part : Part t u) :
    ∃ v, saveOne row p ⟨u, context, ()⟩ = (.ok (), ⟨v, context, ()⟩) ∧ Fills t u v ∧
      ∀ {kind : K} {x : Row kind}, Resaved row p kind x → x ∈ v.rows kind := by
  cases p with
  | reference link target => exact ⟨u, rfl, Fills.refl part, fun hx => nomatch hx⟩
  | children link rows =>
    obtain ⟨clear, hr, -⟩ := h
    obtain ⟨v, hv, fills, hm⟩ := part.saveAll ht alive hr
    have saves : u.saveChildren context (table link.target) link.strategy (link.attach row) rows =
        ⟨v, rows.map (link.attach row), .ok ()⟩ := by
      unfold saveChildren
      split
      · next hs =>
        rw [clear hs] at hv ⊢
        exact hv
      · exact hv
    refine ⟨v, bind_ok.mpr ⟨_, _, write_done saves, rfl⟩, fills, ?_⟩
    intro kind x hx
    cases hx with
    | children hx => exact hm _ hx
  | joined link rows =>
    obtain ⟨clear, columns, hr, -⟩ := h
    obtain ⟨-, -, told⟩ := Distinguishes.joined hl
    obtain ⟨v, hv, fills, hm⟩ := part.linkAll columns told ht alive
      fun r hm => ⟨(hr r hm).1.1, (hr r hm).1.2, (hr r hm).2.1, (hr r hm).2.2⟩
    have saves : u.saveLinks context (table link.target) link.join link.strategy (link.link row) rows =
        ⟨v, rows, .ok ()⟩ := by
      unfold saveLinks
      split
      · next hs =>
        rw [clear hs] at hv ⊢
        exact hv
      · exact hv
    refine ⟨v, bind_ok.mpr ⟨_, _, write_done saves, rfl⟩, fills, ?_⟩
    intro kind x hx
    cases hx with
    | joined hx => exact hm _ hx

omit [DecidableEq K] [ExactKeys K] [Loadable E] [Distinguishes E] in
@[simp] theorem Pending.link_cleared (p : Pending e) : p.cleared.link = p.link := by
  cases p <;> rfl

omit [Loadable E] in
theorem saveCollections_settled [context.Timeless] (ht : t.Distinct) (alive : context.check = .ok ())
    (hl : ∀ p ∈ pending, p.link ∈ Bindings.links e) (h : ∀ p ∈ pending, Settled t row p.cleared)
    (part : Part t u) :
    ∃ v, saveCollections pending row ⟨u, context, ()⟩ = (.ok (), ⟨v, context, ()⟩) ∧ Fills t u v ∧
      ∀ p ∈ pending, ∀ {kind : K} {x : Row kind}, x ∈ t.rows kind → Resaved row p.cleared kind x →
        x ∈ v.rows kind := by
  induction pending generalizing u with
  | nil => exact ⟨u, rfl, Fills.refl part, fun _ hp => nomatch hp⟩
  | cons p pending ih =>
    obtain ⟨hp, hrest⟩ := List.forall_mem_cons.mp h
    obtain ⟨hlp, hlrest⟩ := List.forall_mem_cons.mp hl
    have linked : p.cleared.link ∈ Bindings.links e := p.link_cleared ▸ hlp
    obtain ⟨v, hv, fills, hm⟩ := saveOne_settled ht alive linked hp part
    rw [saveOne_cleared] at hv
    obtain ⟨w, hw, fills', hm'⟩ := ih hlrest hrest fills.part
    refine ⟨w, bind_ok.mpr ⟨(), _, hv, hw⟩, fills.trans fills', ?_⟩
    intro q hq kind x ht hx
    rcases List.mem_cons.mp hq with rfl | hq
    · exact fills'.grows ht (hm hx)
    · exact hm' q hq ht hx

end ProtoStore.Domain.Operations
