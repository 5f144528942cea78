import ProtoStore.Proofs.Domain.Discipline

/-!
# Operations keep the invariant of a discipline

Every operation takes a store along `Discipline.Goes`, for all hooks that hand on what they are given.
The parts of an update come first, in the order of the update: the links of a message are converted
(`moves_collect_ready`), the targets of references saved (`moves_prepare`), rows pruned (`moves_prune`), and
the linked rows saved (`moves_saveCollections`).
-/

namespace ProtoStore.Domain.Discipline

open Store Operations

variable {E K σ : Type} [DecidableEq K] [Catalog K] [ExactKeys K] [Bindings E K] {D : Discipline E}

/-! ## Linked rows -/

section Linked

variable {s : Store K} {kind join : K} {context : Context} {strategy : Strategy}

omit [ExactKeys K] in
theorem goes_deleteSome {query : Option Query} {after : Store K} {n : Nat} (hy : D.yields kind)
    (h : s.deleteSome context kind query = .ok (after, n)) : D.Goes s after := by
  cases query with
  | none =>
    rw [deleteSome, Except.ok.injEq, Prod.mk.injEq] at h
    rw [← h.1]
    exact refl_of D.Goes s
  | some query => exact goes_delete hy h

theorem goes_saveAll {attach : Row kind → Row kind} {rows : List (Row kind)}
    (ha : ∀ t, D.Goes s t → D.Inv t → ∀ row ∈ rows, D.allows t kind (attach row)) :
    D.Goes s (saveAll context kind attach s rows).store := by
  intro inv
  induction rows generalizing s context with
  | nil => exact refl_of D.Goes s inv
  | cons row rest ih =>
    have first : D.Goes s (s.save context kind (attach row)).store :=
      goes_save (ha s (refl_of D.Goes s) inv row List.mem_cons_self)
    rw [saveAll]
    split
    · exact first inv
    · refine trans_of D.Goes first (ih (fun t ht it other ho => ?_)) inv
      exact ha t (trans_of D.Goes first ht) it other (List.mem_cons_of_mem row ho)

theorem goes_saveChildren {attach : Row kind → Row kind} {rows : List (Row kind)}
    (ha : strategy ≠ .clear → ∀ t, D.Goes s t → D.Inv t →
      ∀ row ∈ rows, D.allows t kind (attach row)) :
    D.Goes s (s.saveChildren context kind strategy attach rows).store := by
  unfold saveChildren
  split
  · exact refl_of D.Goes s
  · next h => exact goes_saveAll (ha h)

theorem goes_ensureLink {row : Row join} (ha : D.allows s join row) :
    D.Goes s (s.ensureLink context join row).1 := by
  unfold ensureLink
  split
  · exact refl_of D.Goes s
  · exact refl_of D.Goes s
  · exact goes_create ha

theorem goes_saveLink {link : Row kind → Row join} {row : Row kind} (ha : D.allows s kind row)
    (hl : ∀ t written, D.Goes s t → D.Inv t → D.holds t kind written →
      D.allows t join (link written)) :
    D.Goes s (s.saveLink context kind join link row).store := by
  have saved : D.Goes s (s.save context kind row).store := goes_save ha
  rw [saveLink]
  split
  · exact saved
  · next h =>
    intro inv
    exact trans_of D.Goes saved
      (goes_ensureLink (hl _ _ saved (saved inv).1 (holds_save h))) inv

theorem goes_linkAll {link : Row kind → Row join} {rows : List (Row kind)}
    (ha : ∀ row ∈ rows, D.allows s kind row)
    (hl : ∀ t written, D.Goes s t → D.Inv t → D.holds t kind written →
      D.allows t join (link written)) :
    D.Goes s (linkAll context kind join link s rows).store := by
  intro inv
  induction rows generalizing s context with
  | nil => exact refl_of D.Goes s inv
  | cons row rest ih =>
    have first : D.Goes s (s.saveLink context kind join link row).store :=
      goes_saveLink (ha row List.mem_cons_self) hl
    rw [linkAll]
    split
    · exact first inv
    · obtain ⟨inv', hleads⟩ := first inv
      refine trans_of D.Goes first (ih (fun other ho => ?_) fun t written ht => ?_) inv
      · exact D.allows_mono hleads (ha other (List.mem_cons_of_mem row ho))
      · exact hl t written (trans_of D.Goes first ht)

theorem goes_saveLinks {link : Row kind → Row join} {rows : List (Row kind)}
    (ha : ∀ row ∈ rows, D.allows s kind row)
    (hl : strategy ≠ .clear → ∀ t written, D.Goes s t → D.Inv t → D.holds t kind written →
      D.allows t join (link written)) :
    D.Goes s (s.saveLinks context kind join strategy link rows).store := by
  unfold saveLinks
  split
  · exact refl_of D.Goes s
  · next h => exact goes_linkAll ha (hl h)

end Linked

/-! ## Conversions -/

section Conversion

variable {hooks : Hooks E σ} (quiet : hooks.Quiet) {world : World K σ}
include quiet

omit [ExactKeys K] in
theorem moves_toRecord_allows {e : E} {message : Message e} (h : D.admits e message) :
    Moves Eq (toRecord hooks e message) world fun row s => D.allows s (table e) row :=
  (moves_toRecord quiet e message).mono fun _ s _ hr => D.record s h hr

omit [ExactKeys K] in
theorem moves_toMessage_admits {e : E} {row : Record e} (inv : D.Inv world.store)
    (h : row ∈ world.store.rows (table e)) :
    Moves Eq (toMessage hooks e row) world fun message _ => D.admits e message :=
  (moves_toMessage quiet e row).mono fun _ _ _ hm => D.message (inv.allowed h) hm

end Conversion

/-! ## The parts of an update -/

/-- The records of a link may be written. -/
def Ready (D : Discipline E) (s : Store K) {e : E} : Pending e → Prop
  | .reference link row =>
    .reference link ∈ Bindings.links e ∧ ∀ t ∈ row, D.allows s (table link.target) t
  | .children link rows =>
    .children link ∈ Bindings.links e ∧ ∀ row ∈ rows, D.allows s (table link.target) row
  | .joined link rows =>
    .joined link ∈ Bindings.links e ∧ ∀ row ∈ rows, D.allows s (table link.target) row

omit [ExactKeys K] in
theorem Ready.mono {s t : Store K} {e : E} {pending : Pending e} (h : D.Ready s pending)
    (hl : D.leads s t) : D.Ready t pending := by
  cases pending with
  | reference link row => exact ⟨h.1, fun x hx => D.allows_mono hl (h.2 x hx)⟩
  | children link rows => exact ⟨h.1, fun x hx => D.allows_mono hl (h.2 x hx)⟩
  | joined link rows => exact ⟨h.1, fun x hx => D.allows_mono hl (h.2 x hx)⟩

section Parts

variable {hooks : Hooks E σ} {world : World K σ} {e : E} {row : Record e}
  {pending : List (Pending e)}

omit [ExactKeys K] in
theorem ready_of_collected {message : Message e} (h : D.admits e message) {s : Store K}
    (hc : List.Forall₂ (Collected message) (Bindings.links e) pending) :
    ∀ p ∈ pending, D.Ready s p := by
  intro p hp
  obtain ⟨link, hl, hc⟩ := exists_of_forall₂ hc hp
  cases hc with
  | @reference link row hr =>
    refine ⟨hl, fun t ht => ?_⟩
    generalize hg : link.get message = got at hr
    cases hr with
    | none => cases ht
    | some hm =>
      cases ht
      exact D.record s (D.get_reference hl h _ hg) hm
  | children hr =>
    refine ⟨hl, fun t ht => ?_⟩
    obtain ⟨m, hm, hc⟩ := exists_of_forall₂ hr ht
    exact D.record s (D.get_children hl h m hm) hc
  | joined hr =>
    refine ⟨hl, fun t ht => ?_⟩
    obtain ⟨m, hm, hc⟩ := exists_of_forall₂ hr ht
    exact D.record s (D.get_joined hl h m hm) hc

omit [ExactKeys K] in
theorem moves_collect_ready (quiet : hooks.Quiet) {message : Message e} (h : D.admits e message) :
    Moves Eq (collect hooks e message) world fun pending s => ∀ p ∈ pending, D.Ready s p :=
  (moves_collect quiet message).mono fun _ _ _ hc => ready_of_collected h hc

theorem moves_prepare (inv : D.Inv world.store) (hp : ∀ p ∈ pending, D.Ready world.store p)
    (hr : D.allows world.store (table e) row) :
    Moves D.Goes (prepare pending row : Action K σ (Record e)) world fun row s =>
      D.allows s (table e) row := by
  refine Moves.foldlM (fun p hm row after hg hr => ?_) hr
  obtain ⟨inv', hl⟩ := hg inv
  have ready := (hp p hm).mono hl
  cases p with
  | reference link target =>
    cases target with
    | none => exact Moves.pure (D.assign ready.1 (fun t ht => by cases ht) hr)
    | some target =>
      have saved : D.Goes after.store (after.store.save after.context (table link.target) target).store :=
        goes_save (ready.2 target rfl)
      have write : Moves D.Goes (Action.write 1 fun context store =>
          store.save context (table link.target) target) after fun written s =>
            D.allows s (table e) row ∧ D.holds s (table link.target) written :=
        Moves.write saved fun hok => ⟨D.allows_mono (saved inv').2 hr, holds_save hok⟩
      refine write.bind fun written last _ hw => ?_
      refine Moves.pure (D.assign ready.1 (fun t ht => ?_) hw.1)
      cases ht
      exact hw.2
  | children link rows => exact Moves.pure hr
  | joined link rows => exact Moves.pure hr

omit [ExactKeys K] in
theorem moves_prune (hp : ∀ p ∈ pending, D.Ready world.store p) :
    Moves D.Goes (prune pending row : Action K σ Unit) world fun _ _ => True := by
  unfold prune
  split
  · exact Moves.pure trivial
  · refine Moves.forM fun p hm after _ => ?_
    cases p with
    | reference link row => exact Moves.pure trivial
    | children link rows =>
      exact Moves.remove fun t n h => goes_deleteSome (D.yields_children (hp _ hm).1) h
    | joined link rows =>
      exact Moves.remove fun t n h => goes_deleteSome (D.yields_joined (hp _ hm).1) h

theorem moves_saveCollections (inv : D.Inv world.store) (hp : ∀ p ∈ pending, D.Ready world.store p)
    (hr : D.holds world.store (table e) row) :
    Moves D.Goes (saveCollections pending row : Action K σ Unit) world fun _ _ => True := by
  refine Moves.forM fun p hm after hg => ?_
  obtain ⟨inv', hl⟩ := hg inv
  have ready := (hp p hm).mono hl
  cases p with
  | reference link target => exact Moves.pure trivial
  | children link rows =>
    refine (Moves.write (P := fun _ _ => True) (goes_saveChildren fun hs t ht it x hx => ?_)
      fun _ => trivial).bind fun _ _ _ _ => Moves.pure trivial
    have hl' := D.trans hl (ht inv').2
    exact D.attach ready.1 hs (D.holds_mono hl' hr) (D.allows_mono (ht inv').2 (ready.2 x hx))
  | joined link rows =>
    refine (Moves.write (P := fun _ _ => True) (goes_saveLinks ready.2 fun hs t x ht it hx => ?_)
      fun _ => trivial).bind fun _ _ _ _ => Moves.pure trivial
    exact D.join ready.1 hs (D.holds_mono (D.trans hl (ht inv').2) hr) hx

end Parts

/-! ## Answers -/

section Answers

variable {hooks : Hooks E σ} (quiet : hooks.Quiet) {world : World K σ} {e : E} {row : Record e}
include quiet

omit [ExactKeys K] in
/-- The message of a stored row may be used again. -/
theorem moves_respond_admits (inv : D.Inv world.store) (h : row ∈ world.store.rows (table e)) :
    Moves Eq (respond hooks e row) world fun message _ => D.admits e message := by
  unfold respond
  refine (moves_toMessage_admits quiet inv h).bind fun message _ _ hm => Moves.foldlM ?_ hm
  intro link hl m _ _ hm
  refine moves_loadOne quiet link m (fun l t s hlink => ?_) (fun l ts s hlink => ?_)
    fun l ts s hlink => ?_
  · exact D.set_reference (hlink ▸ hl) hm
  · exact D.set_children (hlink ▸ hl) hm
  · exact D.set_joined (hlink ▸ hl) hm

end Answers

/-! ## Operations -/

section Operations

variable {hooks : Hooks E σ} (quiet : hooks.Quiet) {world : World K σ} {e : E}

include quiet

theorem moves_create {input : Option (Message e)} (h : ∀ m ∈ input, D.admits e m)
    (inv : D.Inv world.store) :
    Moves D.Goes (Operations.create hooks e input) world fun _ _ => True := by
  unfold Operations.create
  refine (Moves.of_eq (moves_required input)).bind fun message w₁ g₁ hm => ?_
  obtain ⟨inv₁, -⟩ := g₁ inv
  refine (Moves.of_eq (moves_toRecord_allows quiet (h message hm))).bind fun row w₂ g₂ hr => ?_
  obtain ⟨inv₂, -⟩ := g₂ inv₁
  refine (Moves.of_eq (moves_collect_ready quiet (h message hm))).bind fun pending w₃ g₃ hp => ?_
  obtain ⟨inv₃, l₃⟩ := g₃ inv₂
  refine (Moves.hook quiet _ _).bind fun row' w₄ g₄ hr' => ?_
  subst hr'
  obtain ⟨inv₄, l₄⟩ := g₄ inv₃
  have hp := fun p hm => (hp p hm).mono l₄
  have hr := D.allows_mono (D.trans l₃ l₄) hr
  refine (moves_prepare inv₄ hp hr).bind fun row w₅ g₅ hr => ?_
  obtain ⟨inv₅, l₅⟩ := g₅ inv₄
  refine (Moves.write (P := fun written s => D.holds s (table e) written) (goes_create hr)
    holds_create).bind fun written w₆ g₆ hw => ?_
  obtain ⟨inv₆, l₆⟩ := g₆ inv₅
  refine (moves_saveCollections inv₆ (fun p hm => (hp p hm).mono (D.trans l₅ l₆)) hw).bind
    fun _ _ _ _ => ?_
  exact (Moves.hook quiet _ _).bind fun _ _ _ _ => Moves.of_eq (moves_respond quiet)

omit [ExactKeys K] in
/-- What is read in full may be used again. -/
theorem moves_read_admits {input : Option (Message e)} (inv : D.Inv world.store) :
    Moves Eq (Operations.read hooks e input none) world fun message _ => D.admits e message := by
  unfold Operations.read
  refine (moves_required input).bind fun message _ h₁ _ => ?_
  refine (moves_toRecord quiet e message).bind fun row _ h₂ _ => ?_
  refine (moves_requireKey row).bind fun _ _ h₃ _ => ?_
  refine (Moves.hook quiet _ _).bind fun query _ h₄ hq => ?_
  refine (Moves.hook quiet _ _).bind fun query' _ h₅ hq' => ?_
  subst hq hq'
  refine (Moves.ask _).bind fun found w h₆ hf => ?_
  cases found with
  | none => exact Moves.throw _
  | some found =>
    refine (Moves.hook quiet _ _).bind fun found' w' h₇ hf' => ?_
    subst hf'
    have hs : world.store = w'.store := by rw [h₁, h₂, h₃, h₄, h₅, h₆, h₇]
    rw [hs] at inv
    exact moves_respond_admits quiet inv (h₇ ▸ mem_of_first hf rfl)

omit quiet [ExactKeys K] in
theorem moves_lockRow {row : Record e} (inv : D.Inv world.store)
    (hr : D.allows world.store (table e) row) :
    Moves Eq (lockRow e row : Action K σ _) world fun locked s => D.allows s (table e) locked.2 := by
  unfold lockRow
  split
  · exact (Moves.ask _).bind fun _ _ hs _ => Moves.pure (hs ▸ hr)
  · next keep hk =>
    refine (Moves.ask _).bind fun stored w hs hf => ?_
    rw [hs] at inv hr
    cases stored with
    | none => exact Moves.pure hr
    | some stored => exact Moves.pure (D.keep hk (inv.allowed (mem_of_first hf rfl)) hr)

theorem moves_strictUpdate {input : Option (Message e)} (h : ∀ m ∈ input, D.admits e m)
    (inv : D.Inv world.store) :
    Moves D.Goes (strictUpdate hooks e input) world fun _ _ => True := by
  unfold strictUpdate
  refine (Moves.of_eq (moves_required input)).bind fun message w₁ g₁ hm => ?_
  obtain ⟨inv₁, -⟩ := g₁ inv
  refine (Moves.of_eq (moves_toRecord_allows quiet (h message hm))).bind fun row w₂ g₂ hr => ?_
  obtain ⟨inv₂, -⟩ := g₂ inv₁
  refine (Moves.of_eq (moves_collect_ready quiet (h message hm))).bind fun pending w₃ g₃ hp => ?_
  obtain ⟨inv₃, l₃⟩ := g₃ inv₂
  refine (Moves.of_eq (moves_lockRow inv₃ (D.allows_mono l₃ hr))).bind fun locked w₄ g₄ hr => ?_
  obtain ⟨inv₄, l₄⟩ := g₄ inv₃
  refine (Moves.hook quiet _ _).bind fun row' w₅ g₅ hr' => ?_
  subst hr'
  obtain ⟨inv₅, l₅⟩ := g₅ inv₄
  have hp := fun p hm => (hp p hm).mono (D.trans l₄ l₅)
  refine (moves_prepare inv₅ hp (D.allows_mono l₅ hr)).bind fun row w₆ g₆ hr => ?_
  obtain ⟨inv₆, l₆⟩ := g₆ inv₅
  have hp := fun p hm => (hp p hm).mono l₆
  refine (moves_prune hp).bind fun _ w₇ g₇ _ => ?_
  obtain ⟨inv₇, l₇⟩ := g₇ inv₆
  refine (Moves.hook quiet _ _).bind fun row' w₈ g₈ hr' => ?_
  subst hr'
  obtain ⟨inv₈, l₈⟩ := g₈ inv₇
  have hr := D.allows_mono (D.trans l₇ l₈) hr
  refine (Moves.write (P := fun written s => D.holds s (table e) written) (goes_save hr)
    holds_save).bind fun written w₉ g₉ hw => ?_
  obtain ⟨inv₉, l₉⟩ := g₉ inv₈
  refine (moves_saveCollections inv₉
    (fun p hm => (hp p hm).mono (D.trans (D.trans l₇ l₈) l₉)) hw).bind fun _ _ _ _ => ?_
  refine (Moves.hook quiet _ _).bind fun _ _ _ _ => ?_
  exact (Moves.of_eq (moves_respond quiet)).bind fun _ _ _ _ => Moves.pure trivial

theorem moves_patch {input : Option (Message e)} {mask : List String}
    (h : ∀ m ∈ input, D.admits e m) (inv : D.Inv world.store) :
    Moves D.Goes (patch hooks e input mask) world fun _ _ => True := by
  unfold patch
  refine (Moves.of_eq (moves_required input)).bind fun message w₁ g₁ hm => ?_
  obtain ⟨inv₁, -⟩ := g₁ inv
  refine (Moves.hook quiet _ _).bind fun _ w₂ g₂ _ => ?_
  obtain ⟨inv₂, -⟩ := g₂ inv₁
  refine (Moves.of_eq (moves_read_admits quiet inv₂)).bind fun current w₃ g₃ hc => ?_
  obtain ⟨inv₃, -⟩ := g₃ inv₂
  refine (Moves.hook quiet _ _).bind fun _ w₄ g₄ _ => ?_
  obtain ⟨inv₄, -⟩ := g₄ inv₃
  refine (Moves.hook quiet _ _).bind fun merged w₅ g₅ hmerged => ?_
  subst hmerged
  obtain ⟨inv₅, -⟩ := g₅ inv₄
  have admitted := D.masked mask (h message hm) hc
  refine (moves_strictUpdate quiet (fun m hm => by cases hm; exact admitted) inv₅).bind
    fun _ _ _ _ => ?_
  exact (Moves.hook quiet _ _).bind fun _ _ _ _ => Moves.pure trivial

theorem moves_patchSet {input : Option (List (Message e))} {masks : List (List String)}
    (h : ∀ ms ∈ input, ∀ m ∈ ms, D.admits e m) (inv : D.Inv world.store) :
    Moves D.Goes (patchSet hooks e input masks) world fun _ _ => True := by
  unfold patchSet
  refine (Moves.of_eq (moves_required input)).bind fun messages w₁ g₁ hm => ?_
  obtain ⟨inv₁, -⟩ := g₁ inv
  have patches : Moves D.Goes ((messages.zip masks).mapM fun x => patch hooks e (some x.1) x.2) w₁
      fun _ _ => True := by
    refine (Moves.mapM (P := fun _ _ _ => True) (fun x hx after g => ?_)
      fun _ _ _ _ _ _ => trivial).mono fun _ _ _ _ => trivial
    refine moves_patch quiet (fun m hx' => ?_) (g inv₁).1
    cases hx'
    exact h messages hm x.1 (List.of_mem_zip hx).1
  split
  · refine Moves.bind (P := fun _ _ => False) (Moves.throw _) fun _ _ _ h => h.elim
  · exact patches

omit [ExactKeys K] in
theorem moves_delete {input : Option (Message e)} (hy : D.yields (table e)) :
    Moves D.Goes (Operations.delete hooks e input) world fun _ _ => True := by
  unfold Operations.delete
  refine (Moves.of_eq (moves_required input)).bind fun message _ _ _ => ?_
  refine (Moves.of_eq (moves_toRecord quiet e message)).bind fun row _ _ _ => ?_
  refine (Moves.of_eq (moves_requireKey row)).bind fun _ _ _ _ => ?_
  refine (Moves.hook quiet _ _).bind fun query _ _ _ => ?_
  refine (Moves.remove fun t n h => goes_delete hy h).bind fun _ _ _ _ => ?_
  exact (Moves.hook quiet _ _).mono fun _ _ _ _ => trivial

omit [ExactKeys K] in
theorem moves_deleteSet {input : Option (List (Message e))} (hy : D.yields (table e)) :
    Moves D.Goes (deleteSet hooks e input) world fun _ _ => True := by
  unfold deleteSet
  refine (Moves.of_eq (moves_required input)).bind fun messages _ _ _ => ?_
  refine (Moves.of_eq (Moves.mapM (P := fun _ _ _ => True) (fun message _ _ _ => ?_)
    fun _ _ _ _ _ _ => trivial)).bind fun keys _ _ _ => ?_
  · refine (moves_toRecord quiet e message).bind fun row _ _ _ => ?_
    exact (moves_requireKey row).bind fun _ _ _ _ => Moves.pure trivial
  refine (Moves.hook quiet _ _).bind fun query _ _ _ => ?_
  refine (Moves.remove fun t n h => goes_delete hy h).bind fun _ _ _ _ => ?_
  exact (Moves.hook quiet _ _).mono fun _ _ _ _ => trivial

end Operations

end ProtoStore.Domain.Discipline
