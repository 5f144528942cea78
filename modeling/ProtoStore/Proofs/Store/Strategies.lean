import ProtoStore.Blog.Record
import ProtoStore.Proofs.Store.Effects
import ProtoStore.Proofs.Store.Sameness
import ProtoStore.Shelf

/-!
# What the strategies leave of the children

The children of a parent are pruned and the provided ones saved, each as the strategy says:

* `isPruned`, `pruneChildren_ok` : which rows are pruned;
* `Saves`, `exists_saves` : saving rows does not depend on the rows that are there, and puts those it
  writes over them;
* `exchange_replace_default` : the replacing strategy and the default one leave the same;
* `exchanged_of_ok` : which rows each strategy keeps, and which it takes away.
-/

namespace ProtoStore

/-! ## Rows parted -/

namespace RecordType

variable {R : Type} {type : RecordType R} {rows chosen others : List R}

theorem meets_cons (condition : Condition) (rest : List Condition) (row : R) :
    type.meets (condition :: rest) row = (type.value? row condition.column).elim
      (.error (.unknownColumn type.table condition.column)) fun v =>
        if condition.holds v then type.meets rest row else .ok false := by
  rw [meets, require]
  cases type.value? row condition.column <;> rfl

/-- Where rows were parted, each of them was looked at. -/
theorem exists_meets_of_split {conditions : List Condition} {row : R}
    (h : type.split conditions rows = .ok (chosen, others)) (hr : row ∈ rows) :
    ∃ b, type.meets conditions row = .ok b := by
  induction rows generalizing chosen others with
  | nil => cases hr
  | cons first rest ih =>
    rw [split] at h
    cases hm : type.meets conditions first with
    | error e =>
      rw [hm] at h
      cases h
    | ok b =>
      rw [hm] at h
      cases hs : type.split conditions rest with
      | error e =>
        rw [hs] at h
        cases h
      | ok parts =>
        rcases List.mem_cons.mp hr with rfl | hr
        · exact ⟨b, hm⟩
        · exact ih hs hr

theorem split_ok {conditions : List Condition} {p : R → Bool}
    (met : ∀ row b, type.meets conditions row = .ok b → b = p row)
    (h : type.split conditions rows = .ok (chosen, others)) :
    chosen = rows.filter p ∧ ∀ row ∈ rows, type.satisfies conditions row = p row := by
  have satisfied : ∀ row ∈ rows, type.satisfies conditions row = p row := by
    intro row hr
    obtain ⟨b, hb⟩ := exists_meets_of_split h hr
    rw [satisfies_of_meets hb, met row b hb]
  obtain ⟨rfl, -⟩ := eq_of_split h
  exact ⟨List.filter_congr satisfied, satisfied⟩

/-- Rows are parted in vain by conditions that fail for the same rows. -/
theorem split_fails_iff {conditions conditions' : List Condition} {e : StoreError}
    (same : ∀ row e, type.meets conditions row = .error e ↔ type.meets conditions' row = .error e) :
    type.split conditions rows = .error e ↔ type.split conditions' rows = .error e := by
  induction rows with
  | nil => exact ⟨nofun, nofun⟩
  | cons row rows ih =>
    rw [split, split]
    cases hm : type.meets conditions row with
    | error e' => rw [(same row e').mp hm]
    | ok b =>
      cases hm' : type.meets conditions' row with
      | error e' =>
        have failed := (same row e').mpr hm'
        rw [hm] at failed
        cases failed
      | ok b' =>
        dsimp only
        cases hs : type.split conditions rows <;> cases hs' : type.split conditions' rows <;>
          rw [hs, hs'] at ih <;> simp_all [Except.map]

end RecordType

namespace Store

variable {K : Type} [Catalog K] {kind other : K} {column : String} {parent : Value}
  {children kept written : List (Row kind)} {strategy : Strategy} {attach : Row kind → Row kind}
  {context later : Context} {x : Row kind} {n : Nat}

/-! ## Which rows are pruned -/

/-- Whether a column of a row holds the key of a parent. -/
def pointsTo (column : String) (parent : Value) (x : Row kind) : Bool :=
  ((record kind).value? x column).any fun v => v.same parent

/-- Whether the key column of a row holds the key of one of some rows. -/
def isAmong (kept : List (Row kind)) (x : Row kind) : Bool :=
  ((record kind).value? x (record kind).keyColumn).any fun v => v.isIn (presentKeys kept)

/-- Whether a row is pruned. -/
def isPruned (strategy : Strategy) (column : String) (parent : Value) (kept : List (Row kind))
    (x : Row kind) : Bool :=
  match strategy with
  | .append => false
  | .default | .clear => pointsTo column parent x
  | .replace => pointsTo column parent x && !isAmong kept x

theorem meets_eq_ok {b : Bool} (h : (record kind).meets [.eq column parent] x = .ok b) :
    b = pointsTo column parent x := by
  rw [RecordType.meets_cons] at h
  unfold pointsTo
  cases hv : (record kind).value? x column with
  | none => simp [Condition.column, hv] at h
  | some v => cases hs : v.same parent <;> simp_all [Condition.column, Condition.holds, RecordType.meets]

theorem meets_notIn_ok {b : Bool} (h : (record kind).meets
    [.eq column parent, .notIn (record kind).keyColumn (presentKeys kept)] x = .ok b) :
    b = (pointsTo column parent x && !isAmong kept x) := by
  rw [RecordType.meets_cons, RecordType.meets_cons] at h
  unfold pointsTo isAmong
  cases hv : (record kind).value? x column with
  | none => simp [Condition.column, hv] at h
  | some v =>
    cases hs : v.same parent with
    | false => simp_all [Condition.column, Condition.holds]
    | true =>
      cases hk : (record kind).value? x (record kind).keyColumn with
      | none => simp [Condition.column, Condition.holds, hv, hs, hk] at h
      | some k =>
        cases hi : k.isIn (presentKeys kept) <;>
          simp_all [Condition.column, Condition.holds, RecordType.meets]

variable [DecidableEq K] {store pruned after : Store K}

theorem pruneChildren_ok
    (h : store.pruneChildren context kind strategy column parent kept = .ok (pruned, n)) :
    pruned = store.discard kind (isPruned strategy column parent kept) ∧
      n = ((store.rows kind).filter (isPruned strategy column parent kept)).length := by
  have delete {query : Query} {p : Row kind → Bool}
      (met : ∀ x b, (record kind).meets query.conditions x = .ok b → b = p x)
      (h : store.delete context kind query = .ok (pruned, n)) :
      pruned = store.discard kind p ∧ n = ((store.rows kind).filter p).length := by
    obtain ⟨chosen, others, split, rfl, -, rfl⟩ := delete_ok h
    obtain ⟨rfl, same⟩ := RecordType.split_ok met split
    exact ⟨discard_congr same, rfl⟩
  unfold pruneChildren prunedChildren at h
  cases strategy with
  | append =>
    cases h
    have none : (store.rows kind).filter (isPruned .append column parent kept) = [] :=
      List.filter_eq_nil_iff.mpr fun _ _ => nofun
    exact ⟨discard_none.symm, by rw [none]; rfl⟩
  | default | clear => exact delete (fun x b hb => meets_eq_ok hb) h
  | replace =>
    dsimp only at h
    split at h
    · next nothing =>
      have among : ∀ x, isAmong kept x = false := by
        intro x
        unfold isAmong
        rw [nothing]
        cases (record kind).value? x (record kind).keyColumn <;> rfl
      refine delete (fun x b hb => ?_) h
      rw [isPruned, among, Bool.not_false, Bool.and_true]
      exact meets_eq_ok hb
    · exact delete (fun x b hb => meets_notIn_ok hb) h

/-- The key column tells rows apart: each row has it, and holds in it the key of another one only if it
has the same key. -/
def KeyColumnTells (kind : K) : Prop :=
  ∀ x : Row kind, ∃ v, (record kind).value? x (record kind).keyColumn = some v ∧
    ∀ y : Row kind, (key y).same v = true → sameKey y x = true

theorem delete_fails_iff {query query' : Query} {failure : Failure}
    (same : ∀ e, (record kind).split query.conditions (store.rows kind) = .error e ↔
      (record kind).split query'.conditions (store.rows kind) = .error e) :
    store.delete context kind query = .error failure ↔
      store.delete context kind query' = .error failure := by
  rw [delete_eq, delete_eq, RecordType.select, RecordType.select]
  cases context.check with
  | error e => exact Iff.rfl
  | ok _ =>
    cases hs : (record kind).split query.conditions (store.rows kind) with
    | error e => rw [(same e).mp hs]; rfl
    | ok parts =>
      cases hs' : (record kind).split query'.conditions (store.rows kind) with
      | error e =>
        have failed := (same e).mpr hs'
        rw [hs] at failed
        cases failed
      | ok parts' =>
        refine iff_of_false (fun failed => ?_) fun failed => ?_
        · cases failed
        · cases failed

/-- The replacing strategy fails to prune where the default one does. -/
theorem pruneChildren_fails_iff (tells : KeyColumnTells kind) {failure : Failure} :
    store.pruneChildren context kind .replace column parent kept = .error failure ↔
      store.pruneChildren context kind .default column parent kept = .error failure := by
  unfold pruneChildren prunedChildren
  dsimp only
  split
  · exact Iff.rfl
  · refine delete_fails_iff fun e => RecordType.split_fails_iff fun x e => ?_
    obtain ⟨k, hk, -⟩ := tells x
    show (record kind).meets [.eq column parent, .notIn (record kind).keyColumn (presentKeys kept)] x =
      .error e ↔ (record kind).meets [.eq column parent] x = .error e
    rw [RecordType.meets_cons, RecordType.meets_cons, RecordType.meets_cons]
    cases hv : (record kind).value? x column with
    | none => simp [Condition.column, hv]
    | some v =>
      cases hs : v.same parent <;> cases hi : k.isIn (presentKeys kept) <;>
        simp [Condition.column, Condition.holds, RecordType.meets, hv, hs, hk, hi]

/-! ## Saving, whatever rows are there -/

/-- Which key a row gets is not told by the rows. -/
theorem Altered.assignKey {start : Store K} {rows : List (Row kind)} (h : Altered store kind rows start)
    (row : Row kind) : (start.assignKey kind row).2 = (store.assignKey kind row).2 ∧
      Altered (store.assignKey kind row).1 kind rows (start.assignKey kind row).1 := by
  cases keyed : (record kind).keyIsEmpty row with
  | true =>
    rw [assignKey_of_empty keyed, assignKey_of_empty keyed]
    refine ⟨?_, h.rows_self, h.rows_of_ne, ?_, ?_, h.fresh⟩
    · unfold newKey
      rw [h.sequence, h.drawn, h.fresh]
    · exact congrArg (· + 1) h.sequence
    · exact congrArg (· + 1) h.drawn
  | false =>
    rw [assignKey_of_keyed keyed, assignKey_of_keyed keyed]
    exact ⟨rfl, h.rows_self, h.rows_of_ne, congrArg (observe · (key row)) h.sequence, h.drawn, h.fresh⟩

/-- What it comes to that rows are saved, whatever rows of the kind are there. -/
structure Saves (context : Context) (attach : Row kind → Row kind) (store : Store K)
    (children : List (Row kind)) (after : Store K) (written saved : List (Row kind))
    (result : Except Failure Unit) : Prop where
  /-- The rows that are saved are put over those that are there. -/
  saveAll_eq {start : Store K} {rows : List (Row kind)} : Altered store kind rows start →
    ∃ last, saveAll context kind attach start children = ⟨last, written, result⟩ ∧
      Altered after kind (putAll rows saved) last
  saved_eq : result = .ok () → saved = written
  /-- A child that has a key is saved under it. -/
  keyed : result = .ok () → ∀ child ∈ children, (record kind).keyIsEmpty (attach child) = false →
    attach child ∈ written

theorem exists_save (context : Context) (store : Store K) (row : Row kind) :
    ∃ (after : Store K) (written : Row kind) (saved : List (Row kind)) (result : Except Failure Unit),
      (∀ {start : Store K} {rows : List (Row kind)}, Altered store kind rows start →
        ∃ last, start.save context kind row = ⟨last, written, result⟩ ∧
          Altered after kind (putAll rows saved) last) ∧
      (result = .ok () → saved = [written]) ∧
        ((record kind).keyIsEmpty row = false → written = row) := by
  unfold save
  cases context.check with
  | error failure =>
    exact ⟨store, row, [], .error failure, fun {start} _ altered => ⟨start, rfl, altered⟩, nofun,
      fun _ => rfl⟩
  | ok _ =>
    rcases hk : store.assignKey kind row with ⟨after, failure | written⟩
    · refine ⟨after, row, [], .error failure, fun {start _} altered => ?_, nofun, fun _ => rfl⟩
      obtain ⟨same, assigned⟩ := altered.assignKey row
      rw [hk] at same assigned
      rcases hs : start.assignKey kind row with ⟨last, result⟩
      rw [hs] at same assigned
      obtain rfl : result = .error failure := same
      exact ⟨last, rfl, assigned⟩
    · refine ⟨after, written, [written], .ok (), fun {start _} altered => ?_, fun _ => rfl,
        fun keyed => ?_⟩
      · obtain ⟨same, assigned⟩ := altered.assignKey row
        rw [hk] at same assigned
        rcases hs : start.assignKey kind row with ⟨middle, result⟩
        rw [hs] at same assigned
        obtain rfl : result = .ok written := same
        have put := altered_upsert middle written
        rw [assigned.rows_self] at put
        exact ⟨_, rfl, assigned.trans put⟩
      · rw [assignKey_of_keyed keyed, Prod.mk.injEq, Except.ok.injEq] at hk
        exact hk.2.symm

theorem exists_saves (context : Context) (attach : Row kind → Row kind) (store : Store K)
    (children : List (Row kind)) :
    ∃ after written saved result, Saves context attach store children after written saved result := by
  induction children generalizing store context with
  | nil => exact ⟨store, [], [], .ok (), fun altered => ⟨_, rfl, altered⟩, fun _ => rfl, fun _ => nofun⟩
  | cons child rest ih =>
    obtain ⟨after, written, saved, result, first, put, keyed⟩ := exists_save context store (attach child)
    cases result with
    | error failure =>
      refine ⟨after, written :: rest, saved, .error failure, fun altered => ?_, nofun, nofun⟩
      obtain ⟨last, saves, altered⟩ := first altered
      refine ⟨last, ?_, altered⟩
      rw [saveAll, saves]
    | ok _ =>
      obtain ⟨last, others, more, result, later⟩ := ih (context.after 1) after
      refine ⟨last, written :: others, written :: more, result, fun altered => ?_, fun ok => ?_,
        fun ok row hr full => ?_⟩
      · obtain ⟨middle, saves, altered⟩ := first altered
        rw [put rfl] at altered
        obtain ⟨final, rest_saves, altered⟩ := later.saveAll_eq altered
        refine ⟨final, ?_, altered⟩
        rw [saveAll, saves]
        dsimp only
        rw [rest_saves]
      · rw [later.saved_eq ok]
      · rcases List.mem_cons.mp hr with rfl | hr
        · rw [keyed full]
          exact List.mem_cons_self
        · exact List.mem_cons_of_mem written (later.keyed ok row hr full)

/-! ## Replacing and the default -/

/-- Prunes the children of a parent and saves the provided ones. -/
def exchangeChildren (context : Context) (store : Store K) (kind : K) (strategy : Strategy)
    (column : String) (parent : Value) (attach : Row kind → Row kind) (children : List (Row kind)) :
    Writing K (List (Row kind)) :=
  match store.pruneChildren context kind strategy column parent children with
  | .error failure => ⟨store, children, .error failure⟩
  | .ok (pruned, _) => pruned.saveChildren (context.after 1) kind strategy attach children

/-- Two calls come to the same: both fail in the same way, or both leave the same rows. -/
structure SameOutcome {α : Type} (a b : Writing K α) : Prop where
  result : a.result = b.result
  written : a.written = b.written
  sequence : a.store.sequence = b.store.sequence
  drawn : a.store.drawn = b.store.drawn
  rows : a.result = .ok () → ∀ kind, (a.store.rows kind).Perm (b.store.rows kind)

omit [DecidableEq K] in
/-- A row that is kept because it is among the provided ones is saved again. -/
theorem any_sameKey_of_isAmong (tells : KeyColumnTells kind)
    (keeps : ∀ row, (record kind).key (attach row) = (record kind).key row)
    (keyed : ∀ child ∈ children, (record kind).keyIsEmpty (attach child) = false →
      attach child ∈ written)
    (among : isAmong children x = true) : written.any (sameKey x) = true := by
  obtain ⟨v, hv, same⟩ := tells x
  unfold isAmong Value.isIn presentKeys at among
  rw [hv, Option.any_some, List.any_eq_true] at among
  obtain ⟨k, hk, equal⟩ := among
  obtain ⟨child, hc, rfl⟩ := List.mem_map.mp hk
  obtain ⟨provided, present⟩ := List.mem_filter.mp hc
  have attached : key (attach child) = key child := by
    unfold key RecordType.keyValue
    rw [keeps]
  have full : (record kind).keyIsEmpty (attach child) = false := by
    unfold RecordType.keyIsEmpty at present ⊢
    rw [keeps]
    exact (Bool.not_eq_true' _).mp present
  refine List.any_eq_true.mpr ⟨attach child, keyed child provided full, sameKey_symm ?_⟩
  unfold sameKey
  rw [← key, attached]
  exact same child equal

omit [DecidableEq K] in
/-- The rows that the default strategy prunes and the replacing one keeps are all saved again. -/
theorem filter_isPruned (rows : List (Row kind))
    (again : ∀ x, isAmong children x = true → written.any (sameKey x) = true) :
    ((rows.filter fun x => !isPruned .replace column parent children x).filter fun x =>
        !written.any (sameKey x)) =
      (rows.filter fun x => !isPruned .default column parent children x).filter fun x =>
        !written.any (sameKey x) := by
  rw [List.filter_filter, List.filter_filter]
  refine List.filter_congr fun x _ => ?_
  cases put : written.any (sameKey x) with
  | true => rfl
  | false =>
    have new : isAmong children x = false := by
      rw [Bool.eq_false_iff]
      intro among
      rw [again x among] at put
      cases put
    rw [isPruned, isPruned, new, Bool.not_false, Bool.and_true]

/-- The replacing strategy and the default one come to the same, though the one overwrites the rows that
the other deletes and stores again. -/
theorem exchange_replace_default (store : Store K) (context : Context) (column : String) (parent : Value)
    (children : List (Row kind)) (apart : Apart (store.rows kind)) (tells : KeyColumnTells kind)
    (keeps : ∀ row, (record kind).key (attach row) = (record kind).key row) :
    SameOutcome (store.exchangeChildren context kind .replace column parent attach children)
      (store.exchangeChildren context kind .default column parent attach children) := by
  unfold exchangeChildren
  cases replaced : store.pruneChildren context kind .replace column parent children with
  | error failure =>
    rw [(pruneChildren_fails_iff tells).mp replaced]
    exact ⟨rfl, rfl, rfl, rfl, nofun⟩
  | ok left =>
    cases dropped : store.pruneChildren context kind .default column parent children with
    | error failure =>
      rw [(pruneChildren_fails_iff tells).mpr dropped] at replaced
      cases replaced
    | ok right =>
      obtain ⟨pruned, n⟩ := left
      obtain ⟨pruned', n'⟩ := right
      obtain ⟨rfl, -⟩ := pruneChildren_ok replaced
      obtain ⟨rfl, -⟩ := pruneChildren_ok dropped
      obtain ⟨after, written, saved, result, saves⟩ :=
        exists_saves (context.after 1) attach store children
      obtain ⟨last, replacing, left⟩ :=
        saves.saveAll_eq (altered_discard store (isPruned .replace column parent children))
      obtain ⟨last', defaulting, right⟩ :=
        saves.saveAll_eq (altered_discard store (isPruned .default column parent children))
      simp only [saveChildren, reduceCtorEq, if_false, replacing, defaulting]
      refine ⟨rfl, rfl, left.sequence.trans right.sequence.symm, left.drawn.trans right.drawn.symm,
        fun ok other => ?_⟩
      obtain rfl := saves.saved_eq ok
      by_cases same : other = kind
      · subst same
        have again (x) (among : isAmong children x = true) : saved.any (sameKey x) = true :=
          any_sameKey_of_isAmong tells keeps (saves.keyed ok) among
        rw [left.rows_self, right.rows_self]
        refine (putAll_perm (apart.filter _) saved).trans ?_
        rw [filter_isPruned _ again]
        exact (putAll_perm (apart.filter _) saved).symm
      · rw [left.rows_of_ne same, right.rows_of_ne same]

/-! ## Rows kept and taken away -/

/-- Two rows are the same or have the same key. -/
def SharesKey (x y : Row kind) : Prop := x = y ∨ sameKey x y = true

/-- What pruning and saving children leaves, by strategy: `pruned` after the first, `after` at the end.
The `written` rows are the provided ones under their final keys. -/
structure Exchanged (strategy : Strategy) (column : String) (parent : Value) (before pruned : Store K)
    (n : Nat) (after : Store K) (written : List (Row kind)) : Prop where
  others (other : K) : other ≠ kind → after.rows other = before.rows other
  /-- A row that was not linked to the parent stays, unless a provided one has its key. -/
  unlinked (x : Row kind) : x ∈ before.rows kind → pointsTo column parent x = false →
    (∀ w ∈ written, ¬SharesKey x w) → x ∈ after.rows kind
  entered (x : Row kind) : x ∈ after.rows kind → x ∈ before.rows kind ∨ x ∈ written
  provided : strategy = .default ∨ strategy = .replace → ∀ x ∈ after.rows kind,
    pointsTo column parent x = true → ∃ w ∈ written, SharesKey x w
  appended : strategy = .append → ∀ x ∈ before.rows kind, ∃ y ∈ after.rows kind, SharesKey x y ∧
    (y = x ∨ y ∈ written)
  cleared : strategy = .clear → (∀ x ∈ after.rows kind, pointsTo column parent x = false) ∧
    (after.rows kind).Sublist (before.rows kind)
  /-- The rows that are pruned are taken out of their table, and counted. -/
  counted : ∃ gone : Row kind → Bool, pruned = before.discard kind gone ∧
    n = ((before.rows kind).filter gone).length

theorem saveChildren_clear
    (h : pruned.saveChildren context kind .clear attach children = ⟨after, written, .ok ()⟩) :
    after = pruned := by
  rw [saveChildren, if_pos rfl, Writing.mk.injEq] at h
  exact h.1.symm

theorem saveChildren_ok (cleared : strategy ≠ .clear)
    (h : pruned.saveChildren context kind strategy attach children = ⟨after, written, .ok ()⟩) :
    after.rows kind = putAll (pruned.rows kind) written ∧
      ∀ child ∈ children, (record kind).keyIsEmpty (attach child) = false → attach child ∈ written := by
  rw [saveChildren, if_neg cleared] at h
  obtain ⟨_, others, saved, result, saves⟩ := exists_saves context attach pruned children
  obtain ⟨last, all, altered⟩ := saves.saveAll_eq (altered_self pruned kind)
  rw [h, Writing.mk.injEq] at all
  obtain ⟨rfl, rfl, rfl⟩ := all
  rw [altered.rows_self, saves.saved_eq rfl]
  exact ⟨rfl, saves.keyed rfl⟩

omit [DecidableEq K] in
/-- After rows were put, those of other keys are there, and of the rows put some. -/
theorem mem_putAll_iff {rows : List (Row kind)} (apart : Apart rows) :
    x ∈ putAll rows written ↔
      (x ∈ rows ∧ ∀ w ∈ written, sameKey x w = false) ∨ x ∈ putAll [] written := by
  rw [(putAll_perm apart written).mem_iff, List.mem_append, List.mem_filter, Bool.not_eq_true',
    List.any_eq_false]
  simp only [Bool.not_eq_true]

omit [DecidableEq K] in
theorem isPruned_of_unlinked (h : pointsTo column parent x = false) (strategy : Strategy)
    (kept : List (Row kind)) : isPruned strategy column parent kept x = false := by
  cases strategy <;> simp [isPruned, h]

/-- Of the rows of a kind, those that pruning leaves stay unless they are overwritten. -/
theorem mem_of_saveChildren (apart : Apart (pruned.rows kind))
    (saves : pruned.saveChildren context kind strategy attach children = ⟨after, written, .ok ()⟩)
    (hx : x ∈ pruned.rows kind) (new : ∀ w ∈ written, sameKey x w = false) : x ∈ after.rows kind := by
  by_cases cleared : strategy = .clear
  · subst cleared
    rwa [saveChildren_clear saves]
  · rw [(saveChildren_ok cleared saves).1, mem_putAll_iff apart]
    exact Or.inl ⟨hx, new⟩

theorem mem_or_of_saveChildren (apart : Apart (pruned.rows kind))
    (saves : pruned.saveChildren context kind strategy attach children = ⟨after, written, .ok ()⟩)
    (hx : x ∈ after.rows kind) : x ∈ pruned.rows kind ∨ x ∈ written := by
  by_cases cleared : strategy = .clear
  · subst cleared
    rw [saveChildren_clear saves] at hx
    exact Or.inl hx
  · rw [(saveChildren_ok cleared saves).1, mem_putAll_iff apart] at hx
    exact hx.imp And.left mem_of_mem_putAll_nil

/-- Each strategy keeps and removes the rows it is to. -/
theorem exchanged_of_ok (apart : Apart (store.rows kind)) (tells : KeyColumnTells kind)
    (keeps : ∀ row, (record kind).key (attach row) = (record kind).key row)
    (prunes : store.pruneChildren context kind strategy column parent children = .ok (pruned, n))
    (saves : pruned.saveChildren later kind strategy attach children = ⟨after, written, .ok ()⟩) :
    Exchanged strategy column parent store pruned n after written := by
  obtain ⟨rfl, rfl⟩ := pruneChildren_ok prunes
  have left : Apart ((store.discard kind (isPruned strategy column parent children)).rows kind) := by
    rw [rows_discard]
    exact apart.filter _
  have mem_left {x : Row kind} : x ∈ (store.discard kind (isPruned strategy column parent children)).rows
      kind ↔ x ∈ store.rows kind ∧ isPruned strategy column parent children x = false := by
    rw [rows_discard, List.mem_filter, Bool.not_eq_true']
  refine {
    others := fun other h => ?others
    unlinked := fun x hx unlinked new => ?unlinked
    entered := fun x hx => (mem_or_of_saveChildren left saves hx).imp (fun h => (mem_left.mp h).1) id
    provided := fun hs x hx linked => ?provided
    appended := fun hs x hx => ?appended
    cleared := fun hs => ?cleared
    counted := ⟨_, rfl, rfl⟩ }
  case others =>
    have saved := congrArg (fun w => w.store.rows other) saves
    dsimp only at saved
    rwa [rows_saveChildren_of_ne h, rows_discard_of_ne _ h, eq_comm] at saved
  case unlinked =>
    refine mem_of_saveChildren left saves (mem_left.mpr ⟨hx, isPruned_of_unlinked unlinked _ _⟩) ?_
    exact fun w hw => Bool.eq_false_iff.mpr fun same => new w hw (Or.inr same)
  case provided =>
    have cleared : strategy ≠ .clear := by rcases hs with rfl | rfl <;> nofun
    obtain ⟨rows, keyed⟩ := saveChildren_ok cleared saves
    rcases mem_or_of_saveChildren left saves hx with stayed | put
    · have kept := (mem_left.mp stayed).2
      rcases hs with rfl | rfl
      · exact absurd (linked.symm.trans kept) nofun
      · rw [isPruned, linked, Bool.true_and, Bool.not_eq_false'] at kept
        obtain ⟨w, hw, same⟩ := List.any_eq_true.mp (any_sameKey_of_isAmong tells keeps keyed kept)
        exact ⟨w, hw, Or.inr same⟩
    · exact ⟨x, put, Or.inl rfl⟩
  case appended =>
    subst hs
    have cleared : Strategy.append ≠ .clear := nofun
    obtain ⟨rows, -⟩ := saveChildren_ok cleared saves
    by_cases put : ∃ w ∈ written, sameKey x w = true
    · obtain ⟨w, hw, same⟩ := exists_mem_putAll put
      rw [rows]
      exact ⟨w, (mem_putAll_iff left).mpr (Or.inr hw), Or.inr same, Or.inr (mem_of_mem_putAll_nil hw)⟩
    · refine ⟨x, mem_of_saveChildren left saves (mem_left.mpr ⟨hx, rfl⟩) ?_, Or.inl rfl, Or.inl rfl⟩
      exact fun w hw => Bool.eq_false_iff.mpr fun same => put ⟨w, hw, same⟩
  case cleared =>
    subst hs
    rw [saveChildren_clear saves]
    refine ⟨fun x hx => (mem_left.mp hx).2, ?_⟩
    rw [rows_discard]
    exact List.filter_sublist

end Store

/-! ## Key columns -/

theorem Blog.keyColumnTells : ∀ kind : Blog.Kind, Store.KeyColumnTells kind
  | .record e => by
    cases e <;> exact fun _ => ⟨_, rfl, fun _ same => same⟩
  -- The key column of a join row holds its owner, which is no key of a pair.
  | .articleTag => fun x => by
    obtain ⟨_ | _, _⟩ := x <;> exact ⟨_, rfl, nofun⟩
  | .threadTopic | .digestFeatured | .digestHidden => fun _ => ⟨_, rfl, nofun⟩

/-! ## Notes on books -/

namespace Shelf

open Store

theorem keyColumnTells : ∀ kind : Kind, KeyColumnTells kind
  | .book | .shadow | .note | .code | .event | .label | .document =>
    fun _ => ⟨_, rfl, fun _ same => same⟩
  -- The key column of a label on a book holds the book, which is no key of a pair.
  | .bookLabel => fun _ => ⟨_, rfl, nofun⟩

instance : DecidableEq (Row Kind.note) := inferInstanceAs (DecidableEq Note)

/-- Two notes on the seventh book, one on another book and one on none. -/
def desk : Store Kind where
  tables name := if name = "notes" then [⟨.note, (⟨1, "a", some 7⟩ : Note)⟩, ⟨.note, (⟨2, "b", some 7⟩ : Note)⟩,
    ⟨.note, (⟨3, "c", some 8⟩ : Note)⟩, ⟨.note, (⟨4, "d", none⟩ : Note)⟩] else []
  sequence := 4
  fresh _ := ⟨0⟩
  drawn := 0

/-- Notes for the seventh book: one of its own, given twice, a new one, one of the other book, and one of
an unknown key. -/
def handed : List (Row Kind.note) :=
  ([⟨2, "e", none⟩, ⟨0, "f", none⟩, ⟨3, "g", some 8⟩, ⟨2, "h", none⟩, ⟨9, "i", none⟩] : List Note)

/-- Puts a note on the seventh book. -/
def onSeventh (note : Row Kind.note) : Row Kind.note := { (note : Note) with bookId := some 7 }

theorem key_onSeventh (note : Row Kind.note) :
    (record Kind.note).key (onSeventh note) = (record Kind.note).key note := rfl

/-- Both strategies leave the same notes, in other places. -/
theorem exchange_notes_replace_default :
    let replaced := desk.exchangeChildren .unlimited Kind.note .replace "book_id" (.uint 7) onSeventh handed
    let dropped := desk.exchangeChildren .unlimited Kind.note .default "book_id" (.uint 7) onSeventh handed
    replaced.result = .ok () ∧
      replaced.store.rows Kind.note = ([⟨2, "h", some 7⟩, ⟨3, "g", some 7⟩, ⟨4, "d", none⟩,
        ⟨5, "f", some 7⟩, ⟨9, "i", some 7⟩] : List Note) ∧
      dropped.store.rows Kind.note = ([⟨3, "g", some 7⟩, ⟨4, "d", none⟩, ⟨2, "h", some 7⟩,
        ⟨5, "f", some 7⟩, ⟨9, "i", some 7⟩] : List Note) ∧
      SameOutcome replaced dropped :=
  ⟨by decide +kernel, by decide +kernel, by decide +kernel,
    exchange_replace_default desk .unlimited "book_id" (.uint 7) handed (by decide +kernel)
      (keyColumnTells .note) key_onSeventh⟩

/-- The notes but for those that the replacing strategy takes away. -/
def kept : Store Kind := desk.discard Kind.note (isPruned .replace "book_id" (.uint 7) handed)

theorem exchanged_notes :
    let saving := kept.saveChildren .unlimited Kind.note .replace onSeventh handed
    desk.pruneChildren .unlimited Kind.note .replace "book_id" (.uint 7) handed = .ok (kept, 1) ∧
      saving.result = .ok () ∧
        Exchanged .replace "book_id" (.uint 7) desk kept 1 saving.store saving.written := by
  have prunes : desk.pruneChildren .unlimited Kind.note .replace "book_id" (.uint 7) handed =
      .ok (kept, 1) := rfl
  have saves : (kept.saveChildren .unlimited Kind.note .replace onSeventh handed).result = .ok () := by
    decide +kernel
  intro saving
  have stored : kept.saveChildren .unlimited Kind.note .replace onSeventh handed =
      ⟨saving.store, saving.written, .ok ()⟩ := by rw [← saves]
  exact ⟨prunes, saves,
    exchanged_of_ok (by decide +kernel) (keyColumnTells .note) key_onSeventh prunes stored⟩

end Shelf

end ProtoStore
