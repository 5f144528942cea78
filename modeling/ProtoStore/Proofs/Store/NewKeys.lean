import ProtoStore.Proofs.Store.Writing

/-!
# Numbers as keys

How the running number moves (`le_observe`, `observe_lt`), which numbers it counts out as keys
(`KeyedByNumber.assignKey_of_empty`, `assignKey_of_end`), and what storing one row with such a key does:

* `KeyedByNumber kind` : keys are numbers, of any of the four widths;
* `save_of_unheld`, `create_of_unheld` : a row whose key is not held is added at the end;
* `Storing` : what holds of a call that stores a row, whether it succeeds or fails.
-/

namespace ProtoStore

/-! ## Numbers as keys -/

/-- The number that a value is. -/
def Value.integer? : Value → Option Int
  | .uint n => some n.toNat
  | .int n => some n.toInt
  | .null | .bool _ | .float _ | .string _ | .bytes _ | .uuid _ | .moment _ | .list _ => none

theorem Value.isExact_of_integer? {v : Value} {n : Int} (h : v.integer? = some n) :
    v.isExact = true := by
  cases v with
  | uint _ | int _ => rfl
  | null | bool _ | float _ | string _ | bytes _ | uuid _ | moment _ | list _ => cases h

namespace RowKey

/-- The types of keys that are numbers. -/
inductive IsNumber : (κ : Type) → RowKey κ → Prop
  | uint32 : IsNumber UInt32 inferInstance
  | uint64 : IsNumber UInt64 inferInstance
  | int32 : IsNumber Int32 inferInstance
  | int64 : IsNumber Int64 inferInstance

namespace IsNumber

variable {κ : Type} {keys : RowKey κ}

/-- Only zero is no key. -/
theorem exists_integer (h : IsNumber κ keys) (k : κ) :
    ∃ n, (keys.toValue k).integer? = some n ∧ (keys.isEmpty k = true ↔ n = 0) := by
  cases h with
  | uint32 =>
    refine ⟨(k : UInt32).toUInt64.toNat, rfl, ?_⟩
    show ((k : UInt32) == 0) = true ↔ _
    rw [beq_iff_eq, ← UInt32.toNat_inj, UInt32.toNat_toUInt64, Int.natCast_eq_zero]
    rfl
  | uint64 =>
    refine ⟨(k : UInt64).toNat, rfl, ?_⟩
    show ((k : UInt64) == 0) = true ↔ _
    rw [beq_iff_eq, ← UInt64.toNat_inj, Int.natCast_eq_zero]
    rfl
  | int32 =>
    refine ⟨(k : Int32).toInt64.toInt, rfl, ?_⟩
    show ((k : Int32) == 0) = true ↔ _
    rw [beq_iff_eq, ← Int32.toInt_inj, Int32.toInt_toInt64]
    rfl
  | int64 =>
    refine ⟨(k : Int64).toInt, rfl, ?_⟩
    show ((k : Int64) == 0) = true ↔ _
    rw [beq_iff_eq, ← Int64.toInt_inj]
    rfl

/-- A new key is the number that was counted out. -/
theorem integer?_of_generate (h : IsNumber κ keys) {n : UInt64} {fresh : Uuid} {k : κ}
    (hk : keys.generate n fresh = some k) : (keys.toValue k).integer? = some (n.toNat : Int) := by
  cases h with
  | uint32 =>
    obtain ⟨bound, hk⟩ := Option.ite_none_right_eq_some.mp hk
    obtain rfl := Option.some.inj hk
    show some (n.toUInt32.toUInt64.toNat : Int) = _
    rw [UInt32.toNat_toUInt64, UInt64.toNat_toUInt32, Nat.mod_eq_of_lt bound]
  | uint64 =>
    obtain rfl := Option.some.inj hk
    rfl
  | int32 =>
    obtain ⟨bound, hk⟩ := Option.ite_none_right_eq_some.mp hk
    obtain rfl := Option.some.inj hk
    show some (Int32.ofNat n.toNat).toInt64.toInt = _
    rw [Int32.toInt_toInt64, Int32.toInt_ofNat_of_lt bound]
  | int64 =>
    obtain ⟨bound, hk⟩ := Option.ite_none_right_eq_some.mp hk
    obtain rfl := Option.some.inj hk
    show some (Int64.ofNat n.toNat).toInt = _
    rw [Int64.toInt_ofNat_of_lt bound]

end IsNumber

end RowKey

namespace Store

/-! ## The running number -/

/-- The next number, before its end. -/
theorem next_number {sequence : Nat} (hs : sequence + 1 < UInt64.size) :
    (UInt64.ofNat (sequence + 1)).toNat = sequence + 1 ∧ UInt64.ofNat (sequence + 1) ≠ 0 := by
  have toNat : (UInt64.ofNat (sequence + 1)).toNat = sequence + 1 := UInt64.toNat_ofNat_of_lt hs
  refine ⟨toNat, fun e => ?_⟩
  rw [e] at toNat
  exact absurd toNat (Nat.succ_ne_zero sequence).symm

theorem le_reach (sequence : Nat) (n : UInt64) : sequence ≤ reach sequence n := by
  have split := Nat.div_add_mod sequence UInt64.size
  unfold reach
  rw [Nat.mul_comm] at split
  omega

theorem toNat_le_reach (sequence : Nat) (n : UInt64) : n.toNat ≤ reach sequence n := by
  unfold reach
  omega

theorem reach_lt {sequence : Nat} (h : sequence < UInt64.size) (n : UInt64) :
    reach sequence n < UInt64.size := by
  have bound : n.toNat < UInt64.size := n.toNat_lt
  unfold reach
  rw [Nat.div_eq_of_lt h, Nat.mod_eq_of_lt h]
  omega

theorem le_observe (sequence : Nat) (k : Value) : sequence ≤ observe sequence k := by
  unfold observe
  split
  · exact le_reach sequence _
  · split
    · exact le_reach sequence _
    · exact Nat.le_refl _
  · exact Nat.le_refl _

theorem observe_lt {sequence : Nat} (h : sequence < UInt64.size) (k : Value) :
    observe sequence k < UInt64.size := by
  unfold observe
  split
  · exact reach_lt h _
  · split
    · exact reach_lt h _
    · exact h
  · exact h

/-- A number that was seen is not greater than the running number. -/
theorem integer?_le_observe {k : Value} {n : Int} (h : k.integer? = some n) (sequence : Nat) :
    n ≤ observe sequence k := by
  cases k with
  | uint m =>
    obtain rfl := Option.some.inj h
    exact Int.ofNat_le.mpr (toNat_le_reach sequence m)
  | int m =>
    obtain rfl := Option.some.inj h
    unfold observe
    dsimp only
    split
    · next nonneg =>
      have same : (m.toUInt64.toNat : Int) = m.toInt := by
        rw [Int64.toNat_toUInt64_of_le nonneg]
        exact Int.toNat_of_nonneg (Int64.le_iff_toInt_le.mp nonneg)
      rw [← same]
      exact Int.ofNat_le.mpr (toNat_le_reach sequence _)
    · next negative =>
      have below : m.toInt < 0 := Int.not_le.mp fun h => negative (Int64.le_iff_toInt_le.mpr h)
      omega
  | null | bool _ | float _ | string _ | bytes _ | uuid _ | moment _ | list _ => cases h

variable {K : Type} [Catalog K] {s t : Store K} {kind : K} {row written : Row kind} {context : Context}

/-! ## Rows with numbers as keys -/

/-- The keys of rows are numbers. -/
structure KeyedByNumber (kind : K) : Prop where
  isNumber : RowKey.IsNumber (record kind).Key (record kind).rowKey
  key_setKey (k : (record kind).Key) (row : Row kind) :
    (record kind).key ((record kind).setKey k row) = k

namespace KeyedByNumber

theorem exists_integer (h : KeyedByNumber kind) (row : Row kind) :
    ∃ n, (key row).integer? = some n ∧ ((record kind).keyIsEmpty row = true ↔ n = 0) :=
  h.isNumber.exists_integer ((record kind).key row)

theorem sameKey_eq_false (h : KeyedByNumber kind) {a b : Row kind}
    (hn : (key a).integer? ≠ (key b).integer?) : sameKey a b = false := by
  obtain ⟨n, ha, -⟩ := h.exists_integer a
  rw [Bool.eq_false_iff]
  intro same
  have equal : key a = key b := (Value.same_iff (Or.inl (Value.isExact_of_integer? ha))).mp same
  exact hn (congrArg Value.integer? equal)

/-- A row without a key gets the next number as its key, if its type of keys has that number. -/
theorem assignKey_of_empty (h : KeyedByNumber kind) (s : Store K)
    (empty : (record kind).keyIsEmpty row = true) (room : UInt64.ofNat (s.sequence + 1) ≠ 0) :
    s.assignKey kind row = (s.draw, .error (.store (.missingKey (record kind).table))) ∨
      ∃ k, s.assignKey kind row = (s.draw, .ok ((record kind).setKey k row)) ∧
        (key ((record kind).setKey k row)).integer? =
          some ((UInt64.ofNat (s.sequence + 1)).toNat : Int) := by
  rw [Store.assignKey_of_empty empty, newKey_of_room room, RecordType.withNewKey?]
  cases hk : (record kind).rowKey.generate (.ofNat (s.sequence + 1)) (s.fresh s.drawn) with
  | none => exact Or.inl rfl
  | some k =>
    refine Or.inr ⟨k, rfl, ?_⟩
    have number := h.isNumber.integer?_of_generate hk
    rw [key, RecordType.keyValue, h.key_setKey]
    exact number

end KeyedByNumber

/-- There is no number after the last one. -/
theorem assignKey_of_end (empty : (record kind).keyIsEmpty row = true)
    (last : s.sequence + 1 = UInt64.size) : s.assignKey kind row = (s.draw, .error .panic) := by
  rw [assignKey_of_empty empty, newKey_of_end]
  rw [last]
  rfl

/-! ## Storing one row -/

variable [DecidableEq K]

theorem place?_of_unheld (unheld : ∀ x ∈ s.rows kind, sameKey x row = false) : s.place? kind row = none := by
  refine List.findIdx?_eq_none_iff.mpr fun stored there => ?_
  rw [Bool.eq_false_iff, ne_eq, Option.any_eq_true]
  rintro ⟨x, here, same⟩
  have held : x ∈ s.rows kind := List.mem_filterMap.mpr ⟨stored, there, here⟩
  rw [unheld x held] at same
  cases same

theorem save_of_unheld (alive : context.check = .ok ())
    (hk : s.assignKey kind row = (t, .ok written))
    (unheld : ∀ x ∈ s.rows kind, sameKey x written = false) :
    s.save context kind row = ⟨t.push kind written, written, .ok ()⟩ := by
  have rows : t.rows = s.rows := rows_of_assignKey hk
  unfold save
  rw [alive, hk]
  dsimp only
  rw [upsert, place?_of_unheld (by rwa [rows])]

theorem create_of_unheld (alive : context.check = .ok ())
    (hk : s.assignKey kind row = (t, .ok written))
    (unheld : ∀ x ∈ s.rows kind, sameKey x written = false) :
    s.create context kind row = ⟨t.push kind written, written, .ok ()⟩ := by
  have rows : t.rows = s.rows := rows_of_assignKey hk
  have none : ¬((s.rows kind).any fun other => sameKey other written) = true := by
    rw [List.any_eq_true]
    rintro ⟨x, hx, same⟩
    exact Bool.eq_false_iff.mp (unheld x hx) same
  unfold create
  rw [alive, hk]
  dsimp only
  rw [insert, rows, if_neg none]

/-- What a call that stores a row leaves, whether it is to be a new row or not. -/
structure Storing (s : Store K) (kind : K) (row : Row kind) (w : Writing K (Row kind)) : Prop where
  sequence : w.store.sequence = (s.assignKey kind row).1.sequence
  /-- No other row comes in. -/
  rows {other : K} {x : Row other} : x ∈ w.store.rows other →
    x ∈ s.rows other ∨ ∃ written, (s.assignKey kind row).2 = .ok written ∧ key x = key written
  fails {t : Store K} {failure : Failure} : s.assignKey kind row = (t, .error failure) →
    w = ⟨t, row, .error failure⟩
  stores {t : Store K} {written : Row kind} : s.assignKey kind row = (t, .ok written) →
    (∀ x ∈ s.rows kind, sameKey x written = false) → w = ⟨t.push kind written, written, .ok ()⟩

theorem mem_rows_of_altered {u : Store K} {rows : List (Row kind)}
    (hk : s.assignKey kind row = (t, .ok written)) (ha : Altered t kind rows u)
    (hr : ∀ x ∈ rows, x = written ∨ x ∈ s.rows kind) {other : K} {x : Row other} (hx : x ∈ u.rows other) :
    x ∈ s.rows other ∨ ∃ written, (s.assignKey kind row).2 = .ok written ∧ key x = key written := by
  by_cases e : other = kind
  · subst e
    rw [ha.rows_self] at hx
    rcases hr x hx with rfl | hx
    · exact Or.inr ⟨x, by rw [hk], rfl⟩
    · exact Or.inl hx
  · rw [ha.rows_of_ne e, rows_of_assignKey hk] at hx
    exact Or.inl hx

/-- Without a key nothing is stored. -/
theorem storing_of_failed {failure : Failure} (hk : s.assignKey kind row = (t, .error failure)) :
    Storing s kind row ⟨t, row, .error failure⟩ := by
  refine ⟨by rw [hk], fun hx => ?rows, fun h => ?fails, fun h => ?stores⟩
  case rows =>
    rw [rows_of_assignKey hk] at hx
    exact Or.inl hx
  all_goals
    rw [hk] at h
    cases h
  rfl

/-- With a key, what is left to show is what becomes of the row that has it. -/
theorem storing_of_assigned {w : Writing K (Row kind)} (hk : s.assignKey kind row = (t, .ok written))
    (sequence : w.store.sequence = t.sequence)
    (rows : ∀ {other : K} {x : Row other}, x ∈ w.store.rows other →
      x ∈ s.rows other ∨ ∃ written, (s.assignKey kind row).2 = .ok written ∧ key x = key written)
    (stores : (∀ x ∈ s.rows kind, sameKey x written = false) →
      w = ⟨t.push kind written, written, .ok ()⟩) : Storing s kind row w := by
  refine ⟨by rw [sequence, hk], rows, fun h => ?fails, fun h => ?stores⟩
  all_goals
    rw [hk] at h
    cases h
  exact stores

theorem storing_save (alive : context.check = .ok ()) (s : Store K) (row : Row kind) :
    Storing s kind row (s.save context kind row) := by
  rcases hk : s.assignKey kind row with ⟨t, failure | written⟩
  · have failed : s.save context kind row = ⟨t, row, .error failure⟩ := by
      unfold save
      rw [alive, hk]
    exact failed ▸ storing_of_failed hk
  · have saved : s.save context kind row = ⟨t.upsert kind written, written, .ok ()⟩ := by
      unfold save
      rw [alive, hk]
    have stores := save_of_unheld alive hk
    rw [saved] at stores ⊢
    refine storing_of_assigned hk (sequence_upsert written) (fun hx => ?_) stores
    refine mem_rows_of_altered hk (altered_upsert t written) (fun x hx => ?_) hx
    rw [rows_of_assignKey hk] at hx
    exact eq_or_mem_of_mem_replaceOrAdd hx

theorem storing_create (alive : context.check = .ok ()) (s : Store K) (row : Row kind) :
    Storing s kind row (s.create context kind row) := by
  rcases hk : s.assignKey kind row with ⟨t, failure | written⟩
  · have failed : s.create context kind row = ⟨t, row, .error failure⟩ := by
      unfold create
      rw [alive, hk]
    exact failed ▸ storing_of_failed hk
  · have stores := create_of_unheld alive hk
    by_cases held : ((t.rows kind).any fun other => sameKey other written) = true
    · have refused : s.create context kind row =
          ⟨t, written, .error (.store (.duplicateKey (record kind).table))⟩ := by
        unfold create
        rw [alive, hk]
        dsimp only
        rw [insert, if_pos held]
      rw [refused] at stores ⊢
      refine storing_of_assigned hk rfl (fun hx => ?_) stores
      rw [rows_of_assignKey hk] at hx
      exact Or.inl hx
    · have added : s.create context kind row = ⟨t.push kind written, written, .ok ()⟩ := by
        unfold create
        rw [alive, hk]
        dsimp only
        rw [insert, if_neg held]
      rw [added] at stores ⊢
      refine storing_of_assigned hk rfl (fun hx => ?_) stores
      refine mem_rows_of_altered hk (altered_push t written) (fun x hx => ?_) hx
      rw [rows_of_assignKey hk] at hx
      rcases List.mem_append.mp hx with hx | hx
      · exact Or.inr hx
      · exact Or.inl (List.mem_singleton.mp hx)

end Store

end ProtoStore
