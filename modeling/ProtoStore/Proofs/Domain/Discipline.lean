import ProtoStore.Proofs.Domain.Reading
import ProtoStore.Proofs.Store.Reading

/-!
# Disciplines

A `Discipline` of a domain says which rows may be written to a store, what the records that other
rows point to must have, how stores go on, and from which tables rows may be deleted. Its laws are
about single steps: a key given, a row put, rows deleted, a message converted, a link made.

`Discipline.Inv` says that keys are distinct and that all rows are as the discipline wants them, and
`Discipline.Goes` that this is kept. Here are the calls of a store that write single rows:

* `goes_save`, `goes_create` : a row that the discipline allows may be put, and then may be pointed to
  (`holds_save`, `holds_create`);
* `goes_delete` : rows of kinds that yield may be deleted.
-/

namespace ProtoStore.Domain

open Store

/-- Which rows may be written, and what follows for the rows of a store. -/
structure Discipline (E : Type) {K : Type} [DecidableEq K] [Catalog K] [Bindings E K] where
  /-- Messages that operations may be called with. -/
  admits : (e : E) → Message e → Prop
  /-- Rows that may be written. -/
  allows : Store K → (kind : K) → Row kind → Prop
  /-- Stored rows that others may point to. -/
  holds : Store K → (kind : K) → Row kind → Prop
  /-- How stores go on. -/
  leads : Store K → Store K → Prop
  /-- Kinds of rows that may be deleted. -/
  yields : K → Prop
  refl (s : Store K) : leads s s
  trans {s t u : Store K} : leads s t → leads t u → leads s u
  allows_mono {s t : Store K} {kind : K} {row : Row kind} :
    leads s t → allows s kind row → allows t kind row
  holds_mono {s t : Store K} {kind : K} {row : Row kind} :
    leads s t → holds s kind row → holds t kind row
  leads_draw (s : Store K) : leads s s.draw
  leads_see (s : Store K) (key : Value) : leads s (s.see key)
  leads_put {s t : Store K} {kind : K} {rows : List (Row kind)} :
    Altered s kind rows t → (∀ k ∈ (s.rows kind).map key, k ∈ rows.map key) → leads s t
  leads_delete {s t : Store K} {kind : K} {rows : List (Row kind)} :
    Altered s kind rows t → yields kind → rows.Sublist (s.rows kind) → leads s t
  /-- A row with a new key is allowed if it was without. -/
  allows_setKey {s : Store K} {kind : K} {row : Row kind} {key : (record kind).Key} :
    (record kind).rowKey.generate (.ofNat (s.sequence + 1)) (s.fresh s.drawn) = some key →
      allows s kind row → allows s.draw kind ((record kind).setKey key row)
  /-- A row is held once it has a key and is stored. -/
  holds_put {s after t : Store K} {kind : K} {row written : Row kind} {rows : List (Row kind)} :
    s.assignKey kind row = (after, .ok written) → Altered after kind rows t → written ∈ rows →
      holds t kind written
  record {e : E} {m : Message e} {row : Record e} (s : Store K) :
    admits e m → Bindings.fillRecord e m (Bindings.blankRecord e) = .ok row → allows s (table e) row
  message {s : Store K} {e : E} {row : Record e} {m : Message e} :
    allows s (table e) row → Bindings.fillMessage e row (Bindings.blank e) = .ok m → admits e m
  keep {s : Store K} {e : E} {keep : Record e → Record e → Record e} {stored row : Record e} :
    Bindings.keepParents? e = some keep → allows s (table e) stored → allows s (table e) row →
      allows s (table e) (keep stored row)
  masked {e : E} {source target : Message e} (mask : List String) :
    admits e source → admits e target →
      admits e (Mask.apply (Bindings.maskFields e) mask "" source target)
  get_reference {e : E} {link : Reference e} {m : Message e} :
    .reference link ∈ Bindings.links e → admits e m → ∀ t ∈ link.get m, admits link.target t
  set_reference {e : E} {link : Reference e} {m : Message e} {t : Option (Message link.target)} :
    .reference link ∈ Bindings.links e → admits e m → admits e (link.set t m)
  assign {s : Store K} {e : E} {link : Reference e} {row : Record e}
    {target : Option (Record link.target)} :
    .reference link ∈ Bindings.links e → (∀ t ∈ target, holds s (table link.target) t) →
      allows s (table e) row → allows s (table e) (link.assign target row)
  get_children {e : E} {link : Children e} {m : Message e} :
    .children link ∈ Bindings.links e → admits e m → ∀ t ∈ link.get m, admits link.target t
  set_children {e : E} {link : Children e} {m : Message e} {ts : List (Message link.target)} :
    .children link ∈ Bindings.links e → admits e m → admits e (link.set ts m)
  yields_children {e : E} {link : Children e} :
    .children link ∈ Bindings.links e → yields (table link.target)
  attach {s : Store K} {e : E} {link : Children e} {parent : Record e} {row : Record link.target} :
    .children link ∈ Bindings.links e → link.strategy ≠ .clear → holds s (table e) parent →
      allows s (table link.target) row → allows s (table link.target) (link.attach parent row)
  get_joined {e : E} {link : Joined e} {m : Message e} :
    .joined link ∈ Bindings.links e → admits e m → ∀ t ∈ link.get m, admits link.target t
  set_joined {e : E} {link : Joined e} {m : Message e} {ts : List (Message link.target)} :
    .joined link ∈ Bindings.links e → admits e m → admits e (link.set ts m)
  yields_joined {e : E} {link : Joined e} :
    .joined link ∈ Bindings.links e → yields link.join
  join {s : Store K} {e : E} {link : Joined e} {owner : Record e} {target : Record link.target} :
    .joined link ∈ Bindings.links e → link.strategy ≠ .clear → holds s (table e) owner →
      holds s (table link.target) target → allows s link.join (link.link owner target)

namespace Discipline

variable {E K σ : Type} [DecidableEq K] [Catalog K] [Bindings E K] (D : Discipline E)

/-- Keys are distinct, and all rows may be written and pointed to. -/
structure Inv (s : Store K) : Prop where
  distinct : s.Distinct
  allowed {kind : K} {row : Row kind} : row ∈ s.rows kind → D.allows s kind row
  held {kind : K} {row : Row kind} : row ∈ s.rows kind → D.holds s kind row

/-- How operations take a store on. -/
def Goes (s t : Store K) : Prop := D.Inv s → D.Inv t ∧ D.leads s t

instance : IsPreorder (Store K) D.Goes where
  refl s h := ⟨h, D.refl s⟩
  trans _ _ _ hst htu h := by
    obtain ⟨ht, hl⟩ := hst h
    obtain ⟨hu, hl'⟩ := htu ht
    exact ⟨hu, D.trans hl hl'⟩

variable {D}

/-! ## Calls of the store -/

section Calls

variable {s after t : Store K} {kind : K} {row written : Row kind} {context : Context}

theorem goes_of_rows (hl : D.leads s after) (hr : after.rows = s.rows) : D.Goes s after := by
  refine fun inv => ⟨⟨inv.distinct.of_rows hr, fun hm => ?_, fun hm => ?_⟩, hl⟩ <;> rw [hr] at hm
  · exact D.allows_mono hl (inv.allowed hm)
  · exact D.holds_mono hl (inv.held hm)

theorem leads_assignKey (row : Row kind) : D.leads s (s.assignKey kind row).1 := by
  rcases assignKey_fst s row with h | h <;> rw [h]
  · exact D.leads_draw s
  · exact D.leads_see s _

theorem goes_assignKey (row : Row kind) : D.Goes s (s.assignKey kind row).1 :=
  goes_of_rows (leads_assignKey row) (rows_assignKey row)

theorem allows_assignKey (h : s.assignKey kind row = (after, .ok written))
    (ha : D.allows s kind row) : D.allows after kind written := by
  rcases assignKey_ok h with ⟨-, rfl, rfl⟩ | ⟨-, rfl, key, hk, rfl⟩
  · exact D.allows_mono (D.leads_see s _) ha
  · exact D.allows_setKey hk ha

/-- Putting an allowed row with its key keeps the invariant. -/
theorem goes_put {rows : List (Row kind)} (h : s.assignKey kind row = (after, .ok written))
    (puts : Altered after kind rows t) (ha : D.allows s kind row) (hk : ∀ k ∈ (s.rows kind).map key, k ∈ rows.map key)
    (hd : s.Distinct → (rows.map key).Nodup) (hw : written ∈ rows)
    (hr : ∀ x ∈ rows, x = written ∨ x ∈ s.rows kind) : D.Goes s t := by
  intro inv
  have hrows : after.rows = s.rows := rows_of_assignKey h
  have hg := goes_assignKey (D := D) (s := s) row
  rw [h] at hg
  obtain ⟨hinv, hl⟩ := hg inv
  have hl' : D.leads after t := D.leads_put puts (by rwa [hrows])
  have hd := hd inv.distinct
  refine ⟨⟨hinv.distinct.alter puts hd, fun {other x} hm => ?_, fun {other x} hm => ?_⟩, D.trans hl hl'⟩
  · by_cases e : other = kind
    · subst e
      rw [puts.rows_self] at hm
      refine D.allows_mono hl' ?_
      rcases hr x hm with rfl | hx
      · exact allows_assignKey h ha
      · exact hinv.allowed (by rwa [hrows])
    · rw [puts.rows_of_ne e] at hm
      exact D.allows_mono hl' (hinv.allowed hm)
  · by_cases e : other = kind
    · subst e
      rw [puts.rows_self] at hm
      rcases hr x hm with rfl | hx
      · exact D.holds_put h puts hw
      · exact D.holds_mono hl' (hinv.held (by rwa [hrows]))
    · rw [puts.rows_of_ne e] at hm
      exact D.holds_mono hl' (hinv.held hm)

variable [ExactKeys K]

theorem goes_save (ha : D.allows s kind row) : D.Goes s (s.save context kind row).store := by
  rcases save_cases context s kind row with ⟨-, h | h⟩ | ⟨after, written, hk, h⟩ <;> rw [h]
  · exact refl_of D.Goes s
  · exact goes_assignKey row
  · have hrows : after.rows = s.rows := rows_of_assignKey hk
    refine goes_put hk (altered_upsert after written) ha (fun k hm => ?_) (fun hd => ?_)
      mem_replaceOrAdd_self fun x hx => ?_
    · rw [hrows]
      exact key_mem_replaceOrAdd hm
    · rw [hrows]
      exact nodup_replaceOrAdd (hd kind)
    · rw [hrows] at hx
      exact eq_or_mem_of_mem_replaceOrAdd hx

omit [ExactKeys K] in
theorem holds_save (h : (s.save context kind row).result = .ok ()) :
    D.holds (s.save context kind row).store kind (s.save context kind row).written := by
  rcases save_cases context s kind row with ⟨⟨failure, hf⟩, -⟩ | ⟨after, written, hk, hs⟩
  · rw [hf] at h; cases h
  · rw [hs]
    exact D.holds_put hk (altered_upsert after written) mem_replaceOrAdd_self

theorem goes_create (ha : D.allows s kind row) : D.Goes s (s.create context kind row).store := by
  rcases create_cases context s kind row with ⟨-, h | h⟩ | ⟨after, written, hk, hn, h⟩ <;> rw [h]
  · exact refl_of D.Goes s
  · exact goes_assignKey row
  · have puts : Altered after kind (s.rows kind ++ [written]) (after.push kind written) := by
      have altered := altered_push after written
      rwa [rows_of_assignKey hk] at altered
    refine goes_put hk puts ha (fun k hm => ?_) (fun hd => nodup_append_key (hd kind) hn)
      (List.mem_append_right _ (List.mem_singleton_self written)) fun x hx => ?_
    · rw [List.map_append]
      exact List.mem_append_left _ hm
    · rcases List.mem_append.mp hx with hx | hx
      · exact Or.inr hx
      · exact Or.inl (List.mem_singleton.mp hx)

theorem holds_create (h : (s.create context kind row).result = .ok ()) :
    D.holds (s.create context kind row).store kind (s.create context kind row).written := by
  rcases create_cases context s kind row with ⟨⟨failure, hf⟩, -⟩ | ⟨after, written, hk, -, hs⟩
  · rw [hf] at h; cases h
  · rw [hs]
    exact D.holds_put hk (altered_push after written)
      (List.mem_append_right _ (List.mem_singleton_self written))

omit [ExactKeys K] in
theorem goes_delete {query : Query} {n : Nat} (hy : D.yields kind)
    (h : s.delete context kind query = .ok (after, n)) : D.Goes s after := by
  obtain ⟨chosen, others, hs, -, loses, -⟩ := delete_ok h
  have hsub := (RecordType.sublist_of_split hs).2
  have hl := D.leads_delete loses hy hsub
  refine fun inv => ⟨⟨inv.distinct.delete h, fun {other x} hm => ?_, fun {other x} hm => ?_⟩, hl⟩
  · refine D.allows_mono hl (inv.allowed ?_)
    by_cases e : other = kind
    · subst e
      rw [loses.rows_self] at hm
      exact hsub.subset hm
    · rwa [loses.rows_of_ne e] at hm
  · refine D.holds_mono hl (inv.held ?_)
    by_cases e : other = kind
    · subst e
      rw [loses.rows_self] at hm
      exact hsub.subset hm
    · rwa [loses.rows_of_ne e] at hm

end Calls

end Discipline

end ProtoStore.Domain
