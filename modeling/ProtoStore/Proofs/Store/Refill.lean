import ProtoStore.Proofs.Store.Alike
import ProtoStore.Proofs.Store.Effects

/-!
# Rows put back

A part of a store `t` is a store all keys of which are keys of `t`. Saving rows of `t` to a part of it
succeeds, and fills the part up (`Fills`) with these rows: `Part.save`, `Part.saveAll`, `Part.linkAll`. A
part that has all rows of `t` has no others (`Part.alike`).
-/

namespace ProtoStore.Store

variable {K : Type} [DecidableEq K] [Catalog K] {t u v w : Store K} {kind join : K} {context : Context}

/-- All keys of a store are keys of another, and are distinct. -/
structure Part (t u : Store K) : Prop where
  distinct : u.Distinct
  keys {kind : K} {row : Row kind} : row ∈ u.rows kind → key row ∈ (t.rows kind).map key

/-- A part of a store goes on to another without losing rows of the store. -/
structure Fills (t u v : Store K) : Prop where
  part : Part t v
  grows {kind : K} {row : Row kind} : row ∈ t.rows kind → row ∈ u.rows kind → row ∈ v.rows kind

theorem Part.refl (h : t.Distinct) : Part t t := ⟨h, List.mem_map_of_mem⟩

theorem Fills.refl (h : Part t u) : Fills t u u := ⟨h, fun _ hm => hm⟩

theorem Fills.trans (h : Fills t u v) (h' : Fills t v w) : Fills t u w :=
  ⟨h'.part, fun ht hm => h'.grows ht (h.grows ht hm)⟩

/-- A part of a store that holds all its rows holds no others. -/
theorem Part.alike (h : Part t u) (ht : t.Distinct)
    (hm : ∀ (kind : K), ∀ row ∈ t.rows kind, row ∈ u.rows kind) : Alike t u := by
  refine ⟨ht, h.distinct, fun {kind row} => ⟨hm kind row, fun hr => ?_⟩⟩
  obtain ⟨x, hx, e⟩ := List.mem_map.mp (h.keys hr)
  rwa [← h.distinct.eq_of_key (hm kind x hx) hr e]

variable [ExactKeys K]

omit [ExactKeys K] in
theorem Part.alter {rows : List (Row kind)} (h : Part t u) (ha : Altered u kind rows v)
    (hd : (rows.map key).Nodup) (hs : ∀ row ∈ rows, key row ∈ (t.rows kind).map key) : Part t v := by
  refine ⟨h.distinct.alter ha hd, fun {other row} hm => ?_⟩
  by_cases e : other = kind
  · subst e
    rw [ha.rows_self] at hm
    exact hs row hm
  · rw [ha.rows_of_ne e] at hm
    exact h.keys hm

/-! ## Putting back -/

theorem Part.save {row : Row kind} (h : Part t u) (ht : t.Distinct) (alive : context.check = .ok ())
    (hr : row ∈ t.rows kind) (keyed : (record kind).keyIsEmpty row = false) :
    ∃ v, u.save context kind row = ⟨v, row, .ok ()⟩ ∧ Fills t u v ∧ row ∈ v.rows kind := by
  have part : Part t (u.see (key row)) := ⟨h.distinct.of_rows rfl, h.keys⟩
  refine ⟨_, save_ok.mpr ⟨alive, _, assignKey_of_keyed keyed, rfl⟩, ⟨?_, fun {other x} hx' hx => ?_⟩, ?_⟩
  · refine part.alter (altered_upsert _ row) (nodup_replaceOrAdd (h.distinct kind)) fun x hx => ?_
    rcases eq_or_mem_of_mem_replaceOrAdd hx with rfl | hx
    · exact List.mem_map_of_mem hr
    · exact h.keys hx
  · by_cases e : other = kind
    · subst e
      rw [rows_upsert]
      by_cases hk : key x = key row
      · rw [ht.eq_of_key hx' hr hk]
        exact mem_replaceOrAdd_self
      · exact mem_replaceOrAdd_of_ne hx hk
    · rw [rows_upsert_of_ne row e]
      exact hx
  · rw [rows_upsert]
    exact mem_replaceOrAdd_self

theorem Part.saveAll [context.Timeless] {attach : Row kind → Row kind} {rows : List (Row kind)} (h : Part t u)
    (ht : t.Distinct) (alive : context.check = .ok ())
    (hr : ∀ row ∈ rows, attach row ∈ t.rows kind ∧ (record kind).keyIsEmpty (attach row) = false) :
    ∃ v, saveAll context kind attach u rows = ⟨v, rows.map attach, .ok ()⟩ ∧ Fills t u v ∧
      ∀ row ∈ rows, attach row ∈ v.rows kind := by
  induction rows generalizing u with
  | nil => exact ⟨u, rfl, Fills.refl h, fun _ hm => nomatch hm⟩
  | cons row rest ih =>
    obtain ⟨hrow, hrest⟩ := List.forall_mem_cons.mp hr
    obtain ⟨v, hv, fills, hm⟩ := h.save ht alive hrow.1 hrow.2
    obtain ⟨w, hw, fills', hm'⟩ := ih fills.part hrest
    refine ⟨w, saveAll_cons_ok.mpr ⟨v, hv, ?_⟩, fills.trans fills', ?_⟩
    · rwa [Context.after_timeless]
    · exact List.forall_mem_cons.mpr ⟨fills'.grows hrow.1 hm, hm'⟩

/-- A row is found by the values of all its columns. -/
structure ByColumns (join : K) : Prop where
  reads (row : Row join) : (record join).Reads (equalTo row).conditions
  iff (row other : Row join) : (record join).satisfies (equalTo row).conditions other = true ↔ other = row

section

variable (by_columns : ByColumns join) (told : ∀ a b : Row join, key a = key b → a = b)
include by_columns told

theorem Part.ensureLink [context.Timeless] {row : Row join} (h : Part t u) (alive : context.check = .ok ())
    (hr : row ∈ t.rows join) (keyed : (record join).keyIsEmpty row = false) :
    ∃ v, u.ensureLink context join row = (v, .ok ()) ∧ Fills t u v ∧ row ∈ v.rows join := by
  have count : u.count context join (equalTo row) =
      .ok ((u.rows join).filter ((record join).satisfies (equalTo row).conditions)).length :=
    (count_ok (by_columns.reads row)).mpr ⟨alive, rfl⟩
  unfold Store.ensureLink
  rw [count]
  by_cases hm : row ∈ u.rows join
  · have found : row ∈ (u.rows join).filter ((record join).satisfies (equalTo row).conditions) :=
      List.mem_filter.mpr ⟨hm, (by_columns.iff row row).mpr rfl⟩
    obtain ⟨n, hn⟩ := Nat.exists_eq_add_of_lt (List.length_pos_of_mem found)
    rw [hn, Nat.zero_add]
    exact ⟨u, rfl, Fills.refl h, hm⟩
  · -- A row of the same key would be the same row, since a join row is told by its key.
    have none : (u.rows join).filter ((record join).satisfies (equalTo row).conditions) = [] := by
      refine List.filter_eq_nil_iff.mpr fun x hx hs => hm ?_
      rwa [← (by_columns.iff row x).mp hs]
    have fresh : key row ∉ (u.rows join).map key := by
      intro hk
      obtain ⟨x, hx, same⟩ := List.mem_map.mp hk
      exact hm (told x row same ▸ hx)
    have created : u.create context join row =
        ⟨(u.see (key row)).push join row, row, .ok ()⟩ :=
      create_ok.mpr ⟨alive, fresh, _, assignKey_of_keyed keyed, rfl⟩
    have part : Part t (u.see (key row)) := ⟨h.distinct.of_rows rfl, h.keys⟩
    rw [none, List.length_nil]
    dsimp only
    rw [Context.after_timeless, created]
    refine ⟨_, rfl, ⟨?_, fun {other x} _ hx => ?_⟩, ?_⟩
    · refine part.alter (altered_push _ row) (nodup_append_key (h.distinct join) fresh) fun x hx => ?_
      rcases List.mem_append.mp hx with hx | hx
      · exact h.keys hx
      · exact List.mem_map_of_mem (List.mem_singleton.mp hx ▸ hr)
    · by_cases e : other = join
      · subst e
        rw [rows_push]
        exact List.mem_append_left [row] hx
      · rw [rows_push_of_ne e]
        exact hx
    · rw [rows_push]
      exact List.mem_append_right _ (List.mem_singleton_self row)

omit [ExactKeys K] by_columns told in
theorem linkAll_cons_ok [context.Timeless] {link : Row kind → Row join} {row written : Row kind}
    {rest more : List (Row kind)} (hs : u.save context kind row = ⟨v, written, .ok ()⟩)
    (hl : v.ensureLink context join (link written) = (w, .ok ()))
    (hr : linkAll context kind join link w rest = ⟨t, more, .ok ()⟩) :
    linkAll context kind join link u (row :: rest) = ⟨t, written :: more, .ok ()⟩ := by
  have first : u.saveLink context kind join link row = ⟨w, written, .ok ()⟩ := by
    unfold saveLink
    rw [hs]
    dsimp only
    rw [Context.after_timeless, hl]
  unfold linkAll
  rw [first]
  dsimp only
  rw [Context.after_timeless, hr]

theorem Part.linkAll [context.Timeless] {link : Row kind → Row join} {rows : List (Row kind)} (h : Part t u)
    (ht : t.Distinct) (alive : context.check = .ok ())
    (hr : ∀ row ∈ rows, row ∈ t.rows kind ∧ (record kind).keyIsEmpty row = false ∧
      link row ∈ t.rows join ∧ (record join).keyIsEmpty (link row) = false) :
    ∃ v, linkAll context kind join link u rows = ⟨v, rows, .ok ()⟩ ∧ Fills t u v ∧
      ∀ row ∈ rows, link row ∈ v.rows join := by
  induction rows generalizing u with
  | nil => exact ⟨u, rfl, Fills.refl h, fun _ hm => nomatch hm⟩
  | cons row rest ih =>
    obtain ⟨⟨hrow, keyed, hlink, linked⟩, hrest⟩ := List.forall_mem_cons.mp hr
    obtain ⟨v, hv, fills, -⟩ := h.save ht alive hrow keyed
    obtain ⟨w, hw, fills', hm⟩ := fills.part.ensureLink by_columns told alive hlink linked
    obtain ⟨x, hx, fills'', hm'⟩ := ih fills'.part hrest
    refine ⟨x, linkAll_cons_ok hv hw hx, (fills.trans fills').trans fills'', ?_⟩
    exact List.forall_mem_cons.mpr ⟨fills''.grows hlink hm, hm'⟩

end

/-! ## Taking out -/

omit [ExactKeys K] in
theorem exists_delete {query : Query} (alive : context.check = .ok ())
    (hr : (record kind).Reads query.conditions) :
    ∃ n, u.delete context kind query =
      .ok (u.discard kind ((record kind).satisfies query.conditions), n) := by
  refine ⟨((u.rows kind).filter ((record kind).satisfies query.conditions)).length, ?_⟩
  rw [delete_eq, alive, RecordType.select_eq hr]
  rfl

omit [ExactKeys K] in
theorem exists_deleteSome {query : Option Query} (alive : context.check = .ok ())
    (hr : ∀ q ∈ query, (record kind).Reads q.conditions) :
    ∃ v n, u.deleteSome context kind query = .ok (v, n) := by
  cases query with
  | none => exact ⟨u, 0, rfl⟩
  | some q =>
    obtain ⟨n, deleted⟩ := exists_delete (u := u) alive (hr q rfl)
    exact ⟨_, n, deleted⟩

end ProtoStore.Store
