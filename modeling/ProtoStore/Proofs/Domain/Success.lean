import ProtoStore.Proofs.Domain.Action
import ProtoStore.Proofs.Store.Writing

/-!
# Actions that succeed

* `Action.bind_ok` and the lemmas after it : what an action that succeeds has done;
* `Action.Answers` : what an action answers that leaves the world as it is, through sequences and
  loops;
* `Steady` : an action that leaves the context as it is.

Calls leave the context as it is if it is a timeless one.
-/

namespace ProtoStore.Domain

variable {K σ α β : Type} [Catalog K]

theorem World.after_timeless (world : World K σ) [world.context.Timeless] (moments : Nat) :
    world.after moments = world := by
  rw [World.after, Context.after_timeless]

namespace Action

variable {act : Action K σ α} {f : α → Action K σ β} {world last : World K σ} {a c : α} {b : β}

theorem bind_ok : (act >>= f) world = (.ok b, last) ↔
    ∃ a after, act world = (.ok a, after) ∧ f a after = (.ok b, last) := by
  rw [bind_apply]
  constructor
  · intro h
    split at h
    · next a after ha => exact ⟨a, after, ha, h⟩
    · cases h
  · rintro ⟨a, after, ha, hf⟩
    rw [ha]
    exact hf

theorem pure_ok : (pure a : Action K σ α) world = (.ok c, last) ↔ a = c ∧ world = last :=
  ⟨fun h => by cases h; exact ⟨rfl, rfl⟩, fun ⟨ha, hw⟩ => by rw [ha, hw]; rfl⟩

theorem ofExcept_ok {result : Except Failure α} :
    ofExcept result world = (.ok a, last) ↔ result = .ok a ∧ world = last :=
  ⟨fun h => by cases h; exact ⟨rfl, rfl⟩, fun ⟨ha, hw⟩ => by rw [ha, hw]; rfl⟩

theorem ask_ok {moments : Nat} {question : Context → Store K → Except Failure α} :
    ask moments question world = (.ok a, last) ↔
      question world.context world.store = .ok a ∧ world.after moments = last :=
  Prod.mk.injEq _ _ _ _ ▸ Iff.rfl

theorem write_ok {moments : Nat} {call : Context → Store K → Writing K α} :
    write moments call world = (.ok a, last) ↔
      ∃ store, call world.context world.store = ⟨store, a, .ok ()⟩ ∧
        last = { world.after moments with store := store } := by
  constructor
  · intro h
    rw [write] at h
    rcases hc : call world.context world.store with ⟨store, written, _ | _⟩ <;> rw [hc] at h <;>
      cases h
    exact ⟨store, rfl, rfl⟩
  · rintro ⟨store, hc, rfl⟩
    rw [write, hc]
    rfl

theorem write_done [world.context.Timeless] {moments : Nat} {call : Context → Store K → Writing K α}
    {store : Store K} (h : call world.context world.store = ⟨store, a, .ok ()⟩) :
    write moments call world = (.ok a, { world with store := store }) :=
  write_ok.mpr ⟨store, h, by rw [world.after_timeless]⟩

theorem remove_ok {call : Context → Store K → Except Failure (Store K × Nat)} {u : Unit} :
    (remove call : Action K σ Unit) world = (.ok u, last) ↔
      ∃ store n, call world.context world.store = .ok (store, n) ∧
        last = { world.after 1 with store := store } := by
  constructor
  · intro h
    rw [remove] at h
    rcases hc : call world.context world.store with _ | ⟨store, n⟩ <;> rw [hc] at h <;> cases h
    exact ⟨store, n, rfl, rfl⟩
  · rintro ⟨store, n, hc, rfl⟩
    rw [remove, hc]

theorem forM_append_ok {f : β → Action K σ Unit} {xs ys : List β} :
    (xs ++ ys).forM f world = (.ok (), last) ↔
      ∃ middle, xs.forM f world = (.ok (), middle) ∧ ys.forM f middle = (.ok (), last) := by
  induction xs generalizing world with
  | nil =>
    constructor
    · exact fun h => ⟨world, rfl, h⟩
    · rintro ⟨middle, first, rest⟩
      cases first
      exact rest
  | cons x xs ih =>
    change (f x >>= fun _ => (xs ++ ys).forM f) world = _ ↔
      ∃ middle, (f x >>= fun _ => xs.forM f) world = _ ∧ _
    simp only [bind_ok, ih]
    constructor
    · rintro ⟨u, after, first, middle, rest, last⟩
      exact ⟨middle, ⟨u, after, first, rest⟩, last⟩
    · rintro ⟨middle, ⟨u, after, first, rest⟩, last⟩
      exact ⟨u, after, first, middle, rest, last⟩

end Action

/-! ## Actions that only answer -/

namespace Action

/-- What an action answers, if it leaves the world as it is. -/
def Answers (act : Action K σ α) (world : World K σ) (P : α → Prop) : Prop :=
  ∀ a last, act world = (.ok a, last) ↔ P a ∧ world = last

variable {act : Action K σ α} {world : World K σ} {P : α → Prop}

theorem Answers.pure (a : α) : (Pure.pure a : Action K σ α).Answers world (a = ·) :=
  fun _ _ => pure_ok

theorem Answers.ask [world.context.Timeless] {moments : Nat}
    (question : Context → Store K → Except Failure α) :
    (Action.ask moments question).Answers world (question world.context world.store = .ok ·) := by
  intro a last
  rw [ask_ok, world.after_timeless]

theorem Answers.bind {f : α → Action K σ β} {Q : α → β → Prop} (h : act.Answers world P)
    (hf : ∀ a, (f a).Answers world (Q a)) :
    (act >>= f).Answers world fun b => ∃ a, P a ∧ Q a b := by
  intro b last
  rw [bind_ok]
  constructor
  · rintro ⟨a, after, ha, hb⟩
    obtain ⟨hp, rfl⟩ := (h a after).mp ha
    obtain ⟨hp', rfl⟩ := (hf a b last).mp hb
    exact ⟨⟨a, hp, hp'⟩, rfl⟩
  · rintro ⟨⟨a, hp, hp'⟩, rfl⟩
    exact ⟨a, world, (h a world).mpr ⟨hp, rfl⟩, (hf a b world).mpr ⟨hp', rfl⟩⟩

theorem Answers.congr {Q : α → Prop} (h : act.Answers world P) (hp : ∀ a, P a ↔ Q a) :
    act.Answers world Q :=
  fun a last => by rw [h a last, hp]

theorem Answers.optionMapM {f : β → Action K σ α} {P : β → α → Prop}
    (hf : ∀ b, (f b).Answers world (P b)) (x : Option β) :
    (x.mapM f).Answers world (Option.Rel P x) := by
  cases x with
  | none =>
    refine (Answers.pure none).congr fun a => ⟨?_, ?_⟩
    · rintro rfl
      exact .none
    · rintro ⟨⟩
      rfl
  | some b =>
    show (some <$> f b).Answers world _
    rw [map_eq_pure_bind]
    refine ((hf b).bind fun a => Answers.pure (some a)).congr fun a => ⟨?_, ?_⟩
    · rintro ⟨a, ha, rfl⟩
      exact .some ha
    · rintro ⟨⟩
      next ha => exact ⟨_, ha, rfl⟩

theorem Answers.mapM {f : β → Action K σ α} {P : β → α → Prop}
    (hf : ∀ b, (f b).Answers world (P b)) (xs : List β) :
    (xs.mapM f).Answers world (List.Forall₂ P xs) := by
  induction xs with
  | nil =>
    refine (Answers.pure []).congr fun as => ?_
    rw [List.forall₂_nil_left_iff, eq_comm]
  | cons x xs ih =>
    rw [List.mapM_cons]
    refine ((hf x).bind fun a => ih.bind fun as => Answers.pure (a :: as)).congr fun as => ?_
    rw [List.forall₂_cons_left_iff]
    constructor
    · rintro ⟨a, ha, as, has, rfl⟩
      exact ⟨a, as, ha, has, rfl⟩
    · rintro ⟨a, as, ha, has, rfl⟩
      exact ⟨a, ha, as, has, rfl⟩

end Action

/-! ## Steady actions -/

/-- The context stays as it is, if time makes no difference to it. -/
def Steady (act : Action K Unit α) : Prop :=
  ∀ world, world.context.Timeless → (act world).2.context = world.context

namespace Steady

variable {act : Action K Unit α}

theorem pure (a : α) : Steady (pure a : Action K Unit α) := fun _ _ => rfl

theorem write (moments : Nat) (call : Context → Store K → Writing K α) :
    Steady (Action.write moments call) :=
  fun _ timeless => timeless.after_eq moments

theorem remove (call : Context → Store K → Except Failure (Store K × Nat)) :
    Steady (Action.remove call) := by
  intro world timeless
  unfold Action.remove
  split <;> exact timeless.after_eq 1

theorem bind {f : α → Action K Unit β} (h : Steady act) (hf : ∀ a, Steady (f a)) :
    Steady (act >>= f) := by
  intro world timeless
  have first := h world timeless
  rw [Action.bind_apply]
  rcases ha : act world with ⟨_ | a, after⟩ <;> rw [ha] at first
  · exact first
  · exact (hf a after (by rwa [first])).trans first

theorem forM {f : β → Action K Unit Unit} (hf : ∀ b, Steady (f b)) (xs : List β) :
    Steady (xs.forM f) := by
  induction xs with
  | nil => exact pure ()
  | cons x xs ih =>
    show Steady (f x >>= fun _ => xs.forM f)
    exact (hf x).bind fun _ => ih

theorem foldlM {f : α → β → Action K Unit α} (hf : ∀ a b, Steady (f a b)) (xs : List β) (a : α) :
    Steady (xs.foldlM f a) := by
  induction xs generalizing a with
  | nil => exact pure a
  | cons x xs ih =>
    rw [List.foldlM_cons]
    exact (hf a x).bind ih

theorem exists_of_ok {world last : World K Unit} [timeless : world.context.Timeless] {a : α}
    (h : Steady act) (ha : act world = (.ok a, last)) : ∃ store, last = ⟨store, world.context, ()⟩ := by
  have hc := h world timeless
  rw [ha] at hc
  exact ⟨last.store, by rw [← hc]⟩

end Steady

end ProtoStore.Domain
