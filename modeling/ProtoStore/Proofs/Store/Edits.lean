import ProtoStore.Proofs.Store.NewKeys
import ProtoStore.Shelf

/-!
# New keys in runs of calls

No number in use is greater than the running number (`Counted`), so a number that it counts out for a
row without a key is new, until it has come to the end of its 64 bits: there is no next number then, and the
call that asks for it panics (`new_keys_fresh_iff`).

* `Edit` : a call that stores a row or deletes rows; `edited` is the store that a run of them leaves,
  and `usedKeys` are the keys that it has given out or been given;
* `LacksKey`, `StoredAnew` : the two ways in which storing a row without a key is to end;
* `Counted.after`, `counted_edited` : what one call keeps, and a run.
-/

namespace ProtoStore.Store

variable {K : Type} [DecidableEq K] [Catalog K]

/-! ## Calls -/

/-- A call that changes rows. -/
inductive Edit (K : Type) [Catalog K]
  | create (kind : K) (row : Row kind)
  | save (kind : K) (row : Row kind)
  | delete (kind : K) (query : Query)

namespace Edit

/-- The kind of the rows of a call. -/
def kind : Edit K → K
  | create kind _ | save kind _ | delete kind _ => kind

/-- The store that a call leaves, whether it succeeds or fails. -/
def after (store : Store K) (context : Context) : Edit K → Store K
  | create kind row => (store.create context kind row).store
  | save kind row => (store.save context kind row).store
  | delete kind query =>
    match store.delete context kind query with
    | .ok (after, _) => after
    | .error _ => store

/-- The key that a call gives out or is given. One that fails before that uses none. -/
def key? (store : Store K) (context : Context) : Edit K → Option Value
  | create kind row | save kind row =>
    match context.check with
    | .error _ => none
    | .ok () => (store.assignKey kind row).2.toOption.map key
  | delete _ _ => none

end Edit

/-- The store that calls leave, each made in its context. -/
def edited (store : Store K) (edits : List (Context × Edit K)) : Store K :=
  edits.foldl (fun store edit => edit.2.after store edit.1) store

/-- The keys that calls give out or are given. -/
def usedKeys (store : Store K) : List (Context × Edit K) → List Value
  | [] => []
  | (context, edit) :: rest =>
    (edit.key? store context).toList ++ usedKeys (edit.after store context) rest

/-- A call fails for want of a key and leaves all tables. -/
structure LacksKey (store : Store K) (kind : K) (writing : Writing K (Row kind)) : Prop where
  fails : writing.result = .error (.store (.missingKey (record kind).table))
  tables : writing.store.tables = store.tables

/-- A row is added at the end of its table under a key that no row of the table holds and that was not used
before. -/
structure StoredAnew (used : List Value) (store : Store K) (kind : K) (row : Row kind)
    (writing : Writing K (Row kind)) : Prop where
  succeeds : writing.result = .ok ()
  written : ∃ k, writing.written = (record kind).setKey k row
  keyed : (record kind).keyIsEmpty writing.written = false
  tables : writing.store.tables = (store.push kind writing.written).tables
  unheld (other : K) : (record other).table = (record kind).table → ∀ x ∈ store.rows other,
    (key x).integer? ≠ (key writing.written).integer?
  unused : ∀ k ∈ used, k.integer? ≠ (key writing.written).integer?

/-- What is to come of a call that stores a row without a key, where `used` are the keys used
before. -/
def Edit.GivesNewKey (used : List Value) (store : Store K) (context : Context) : Edit K → Prop
  | create kind row => context.check = .ok () → (record kind).keyIsEmpty row = true →
    LacksKey store kind (store.create context kind row) ∨
      StoredAnew used store kind row (store.create context kind row)
  | save kind row => context.check = .ok () → (record kind).keyIsEmpty row = true →
    LacksKey store kind (store.save context kind row) ∨
      StoredAnew used store kind row (store.save context kind row)
  | delete _ _ => True

variable {s t : Store K} {kind : K} {row written : Row kind} {context : Context} {edit : Edit K}
  {used : List Value}

/-! ## Single calls -/

/-- A call stores a row, or else changes nothing but that it may lose rows. -/
theorem Edit.after_cases (s : Store K) (context : Context) (edit : Edit K) :
    ((edit.after s context).sequence = s.sequence ∧ edit.key? s context = none ∧
        ∀ kind, ∀ x ∈ (edit.after s context).rows kind, x ∈ s.rows kind) ∨
      ∃ (row : Row edit.kind) (w : Writing K (Row edit.kind)), Storing s edit.kind row w ∧
        edit.after s context = w.store ∧
        edit.key? s context = (s.assignKey edit.kind row).2.toOption.map key := by
  cases edit with
  | create kind row =>
    cases live : context.check with
    | error failure =>
      have same : (Edit.create kind row).after s context = s := by
        show (s.create context kind row).store = s
        unfold Store.create
        rw [live]
      rw [same]
      exact Or.inl ⟨rfl, by rw [Edit.key?, live], fun _ _ hx => hx⟩
    | ok _ => exact Or.inr ⟨row, _, storing_create live s row, rfl, by rw [Edit.key?, live]; rfl⟩
  | save kind row =>
    cases live : context.check with
    | error failure =>
      have same : (Edit.save kind row).after s context = s := by
        show (s.save context kind row).store = s
        unfold Store.save
        rw [live]
      rw [same]
      exact Or.inl ⟨rfl, by rw [Edit.key?, live], fun _ _ hx => hx⟩
    | ok _ => exact Or.inr ⟨row, _, storing_save live s row, rfl, by rw [Edit.key?, live]; rfl⟩
  | delete kind query =>
    unfold Edit.after
    dsimp only
    split
    · next after n deleted =>
      obtain ⟨chosen, others, split, -, altered, -⟩ := delete_ok deleted
      refine Or.inl ⟨altered.sequence, rfl, fun other x hx => ?_⟩
      by_cases e : other = kind
      · subst e
        rw [altered.rows_self] at hx
        exact (RecordType.sublist_of_split split).2.subset hx
      · rwa [altered.rows_of_ne e] at hx
    · exact Or.inl ⟨rfl, rfl, fun _ _ hx => hx⟩

theorem Edit.le_sequence (s : Store K) (context : Context) (edit : Edit K) :
    s.sequence ≤ (edit.after s context).sequence := by
  obtain ⟨same, -, -⟩ | ⟨row, w, storing, after, -⟩ := Edit.after_cases s context edit
  · exact Nat.le_of_eq same.symm
  · rw [after, storing.sequence]
    rcases assignKey_fst s row with h | h <;> rw [h]
    · exact Nat.le_succ s.sequence
    · exact le_observe s.sequence _

/-! ## Numbers in use -/

/-- No number in use is greater than the running number. -/
structure Counted (used : List Value) (store : Store K) : Prop where
  bound : ∀ k ∈ used, ∀ n, k.integer? = some n → n ≤ store.sequence
  used {kind : K} {row : Row kind} : row ∈ store.rows kind → key row ∈ used

theorem counted_empty (fresh : Nat → Uuid) : Counted [] (Store.empty fresh : Store K) := by
  refine ⟨?_, ?_⟩
  · exact fun _ hk => nomatch hk
  · exact fun {_ _} hx => nomatch hx

omit [DecidableEq K] in
/-- A key that is assigned is not greater than the running number afterwards. -/
theorem integer?_of_assignKey (h : KeyedByNumber kind) (hk : (s.assignKey kind row).2 = .ok written)
    {n : Int} (hn : (key written).integer? = some n) : n ≤ (s.assignKey kind row).1.sequence := by
  cases he : (record kind).keyIsEmpty row with
  | false =>
    rw [assignKey_of_keyed he] at hk ⊢
    obtain rfl := Except.ok.inj hk
    exact integer?_le_observe hn s.sequence
  | true =>
    by_cases last : UInt64.ofNat (s.sequence + 1) = 0
    · rw [Store.assignKey_of_empty he, newKey_of_end last] at hk
      cases hk
    obtain lacks | ⟨k, new, number⟩ := h.assignKey_of_empty s he last
    · rw [lacks] at hk
      cases hk
    · rw [new] at hk ⊢
      obtain rfl := Except.ok.inj hk
      rw [number] at hn
      obtain rfl := Option.some.inj hn
      have below : (UInt64.ofNat (s.sequence + 1)).toNat ≤ s.sequence + 1 := by
        rw [UInt64.toNat_ofNat']
        exact Nat.mod_le _ _
      exact Int.ofNat_le.mpr below

namespace Counted

/-- One call keeps the bound. -/
theorem after (h : Counted used s) (hn : KeyedByNumber edit.kind) :
    Counted (used ++ (edit.key? s context).toList) (edit.after s context) := by
  have le : s.sequence ≤ (edit.after s context).sequence := Edit.le_sequence s context edit
  obtain ⟨same, none, rows⟩ | ⟨row, w, storing, after, key?⟩ := Edit.after_cases s context edit
  · rw [none, Option.toList_none, List.append_nil]
    refine ⟨fun k hk n integer => ?_, fun hx => h.used (rows _ _ hx)⟩
    exact Int.le_trans (h.bound k hk n integer) (Int.ofNat_le.mpr le)
  · refine ⟨fun k hk n integer => ?_, fun {other x} hx => ?_⟩
    · rcases List.mem_append.mp hk with hk | hk
      · exact Int.le_trans (h.bound k hk n integer) (Int.ofNat_le.mpr le)
      · rw [key?, Option.mem_toList, Option.map_eq_some_iff] at hk
        obtain ⟨written, hw, rfl⟩ := hk
        rw [after, storing.sequence]
        cases assigned : (s.assignKey edit.kind row).2 with
        | error e =>
          rw [assigned] at hw
          cases hw
        | ok other =>
          rw [assigned] at hw
          obtain rfl := Option.some.inj hw
          exact integer?_of_assignKey hn assigned integer
    · rw [List.mem_append]
      rw [after] at hx
      rcases storing.rows hx with hx | ⟨written, assigned, same⟩
      · exact Or.inl (h.used hx)
      · right
        rw [key?, assigned, same]
        exact List.mem_singleton_self _

/-- The next number differs from all numbers in use. -/
theorem integer?_ne (h : Counted used s) {k : Value} (hk : k ∈ used) :
    k.integer? ≠ some ((s.sequence + 1 : Nat) : Int) := by
  intro e
  have le := h.bound k hk _ e
  omega

/-- With a number left, storing a row without a key gives it a new one or fails for want of one. -/
theorem lacks_or_stored (h : Counted used s) {w : Writing K (Row kind)} (storing : Storing s kind row w)
    (hn : KeyedByNumber kind) (empty : (record kind).keyIsEmpty row = true)
    (room : w.store.sequence < UInt64.size) :
    LacksKey s kind w ∨ StoredAnew used s kind row w := by
  rw [storing.sequence, Store.assignKey_of_empty empty] at room
  obtain ⟨toNat, next⟩ := next_number room
  obtain missing | ⟨k, new, number⟩ := hn.assignKey_of_empty s empty next
  · left
    rw [storing.fails missing]
    exact ⟨rfl, rfl⟩
  · right
    rw [toNat] at number
    have unused : ∀ v ∈ used, v.integer? ≠ (key ((record kind).setKey k row)).integer? := by
      intro v hv
      rw [number]
      exact h.integer?_ne hv
    rw [storing.stores new fun x hx => hn.sameKey_eq_false (unused _ (h.used hx))]
    refine ⟨rfl, ⟨k, rfl⟩, ?_, rfl, fun other _ x hx => unused _ (h.used hx), unused⟩
    obtain ⟨n, integer, isEmpty⟩ := hn.exists_integer ((record kind).setKey k row)
    rw [number, Option.some.injEq] at integer
    rw [Bool.eq_false_iff, ne_eq, isEmpty, ← integer]
    omega

/-- A call that does not take the running number to its end gives a row without a key a new one, or
fails for want of one. -/
theorem givesNewKey (h : Counted used s) (hn : KeyedByNumber edit.kind)
    (room : (edit.after s context).sequence < UInt64.size) : edit.GivesNewKey used s context := by
  cases edit with
  | create kind row => exact fun live empty => h.lacks_or_stored (storing_create live s row) hn empty room
  | save kind row => exact fun live empty => h.lacks_or_stored (storing_save live s row) hn empty room
  | delete kind query => trivial

end Counted

/-! ## The end of the running number -/

omit [DecidableEq K] in
/-- Only a row without a key takes the running number to its end. -/
theorem empty_of_end (hs : s.sequence < UInt64.size) (ht : UInt64.size ≤ (s.assignKey kind row).1.sequence) :
    (record kind).keyIsEmpty row = true ∧ s.sequence + 1 = UInt64.size := by
  cases empty : (record kind).keyIsEmpty row with
  | false =>
    rw [assignKey_of_keyed empty] at ht
    exact absurd (observe_lt hs _) (Nat.not_lt.mpr ht)
  | true =>
    rw [Store.assignKey_of_empty empty] at ht
    change UInt64.size ≤ s.sequence + 1 at ht
    exact ⟨rfl, by omega⟩

/-- The call that takes the running number to its end panics. -/
theorem panics_of_end {w : Writing K (Row kind)} (storing : Storing s kind row w)
    (hs : s.sequence < UInt64.size) (ht : UInt64.size ≤ w.store.sequence) :
    (record kind).keyIsEmpty row = true ∧ w = ⟨s.draw, row, .error .panic⟩ := by
  rw [storing.sequence] at ht
  obtain ⟨empty, last⟩ := empty_of_end hs ht
  exact ⟨empty, storing.fails (assignKey_of_end empty last)⟩

theorem not_lacks_or_stored {w : Writing K (Row kind)} (storing : Storing s kind row w)
    (hs : s.sequence < UInt64.size) (ht : UInt64.size ≤ w.store.sequence) :
    (record kind).keyIsEmpty row = true ∧ ¬(LacksKey s kind w ∨ StoredAnew used s kind row w) := by
  obtain ⟨empty, rfl⟩ := panics_of_end storing hs ht
  refine ⟨empty, ?_⟩
  rintro (lacks | stored)
  · cases lacks.fails
  · cases stored.succeeds

theorem not_givesNewKey_of_end (hs : s.sequence < UInt64.size)
    (ht : UInt64.size ≤ (edit.after s context).sequence) : ¬edit.GivesNewKey used s context := by
  have moved : (edit.after s context).sequence ≠ s.sequence := fun same =>
    absurd hs (Nat.not_lt.mpr (same ▸ ht))
  intro gives
  cases edit with
  | create kind row =>
    cases live : context.check with
    | error failure =>
      have same : (s.create context kind row).store = s := by
        unfold Store.create
        rw [live]
      exact moved (congrArg Store.sequence same)
    | ok _ =>
      obtain ⟨empty, neither⟩ := not_lacks_or_stored (storing_create live s row) hs ht
      exact neither (gives live empty)
  | save kind row =>
    cases live : context.check with
    | error failure =>
      have same : (s.save context kind row).store = s := by
        unfold Store.save
        rw [live]
      exact moved (congrArg Store.sequence same)
    | ok _ =>
      obtain ⟨empty, neither⟩ := not_lacks_or_stored (storing_save live s row) hs ht
      exact neither (gives live empty)
  | delete kind query =>
    apply moved
    unfold Edit.after
    dsimp only
    split
    · next deleted =>
      obtain ⟨chosen, others, -, -, altered, -⟩ := delete_ok deleted
      exact altered.sequence
    · rfl

/-! ## Runs -/

theorem edited_append (s : Store K) (before after : List (Context × Edit K)) :
    edited s (before ++ after) = edited (edited s before) after :=
  List.foldl_append

theorem le_sequence_edited (s : Store K) (edits : List (Context × Edit K)) :
    s.sequence ≤ (edited s edits).sequence := by
  induction edits generalizing s with
  | nil => exact Nat.le_refl _
  | cons edit rest ih => exact Nat.le_trans (Edit.le_sequence s edit.1 edit.2) (ih _)

/-- A run keeps the bound. -/
theorem counted_edited {edits : List (Context × Edit K)} (h : Counted used s)
    (hn : ∀ edit ∈ edits, KeyedByNumber edit.2.kind) :
    Counted (used ++ usedKeys s edits) (edited s edits) := by
  induction edits generalizing s used with
  | nil =>
    rw [usedKeys, List.append_nil]
    exact h
  | cons edit rest ih =>
    obtain ⟨first, others⟩ := List.forall_mem_cons.mp hn
    rw [usedKeys, ← List.append_assoc]
    exact ih (h.after first) others

/-- A run that takes the running number to its end has a call that does so. -/
theorem exists_end {edits : List (Context × Edit K)} (hs : s.sequence < UInt64.size)
    (ht : UInt64.size ≤ (edited s edits).sequence) :
    ∃ before context edit after, edits = before ++ (context, edit) :: after ∧
      (edited s before).sequence < UInt64.size ∧
        UInt64.size ≤ (edit.after (edited s before) context).sequence := by
  induction edits generalizing s with
  | nil => exact absurd hs (Nat.not_lt.mpr ht)
  | cons edit rest ih =>
    obtain ⟨context, edit⟩ := edit
    by_cases first : (edit.after s context).sequence < UInt64.size
    · obtain ⟨before, context', edit', after, rfl, below, beyond⟩ := ih first ht
      exact ⟨(context, edit) :: before, context', edit', after, rfl, below, beyond⟩
    · exact ⟨[], context, edit, rest, rfl, hs, Nat.not_lt.mp first⟩

/-- In a run over rows with numbers as keys, every row without a key is stored under a new one or fails
for want of one, exactly if the running number does not come past its end. The call that takes it there
panics. -/
theorem new_keys_fresh_iff (fresh : Nat → Uuid) (edits : List (Context × Edit K))
    (hn : ∀ edit ∈ edits, KeyedByNumber edit.2.kind) :
    (∀ before context edit after, edits = before ++ (context, edit) :: after →
      edit.GivesNewKey (usedKeys (Store.empty fresh) before) (edited (Store.empty fresh) before)
        context) ↔
      (edited (Store.empty fresh) edits).sequence < UInt64.size := by
  have start : (Store.empty fresh : Store K).sequence < UInt64.size := Nat.zero_lt_succ _
  constructor
  · intro gives
    by_contra beyond
    obtain ⟨before, context, edit, after, rfl, below, last⟩ := exists_end start (Nat.not_lt.mp beyond)
    exact not_givesNewKey_of_end below last (gives before context edit after rfl)
  · rintro room before context edit after rfl
    have numbers : ∀ edit ∈ before, KeyedByNumber edit.2.kind :=
      fun edit he => hn edit (List.mem_append_left _ he)
    have number : KeyedByNumber edit.kind :=
      hn (context, edit) (List.mem_append_right before List.mem_cons_self)
    have counted : Counted (usedKeys (Store.empty fresh) before) (edited (Store.empty fresh) before) :=
      counted_edited (counted_empty fresh) numbers
    rw [edited_append] at room
    have le := le_sequence_edited (edit.after (edited (Store.empty fresh) before) context) after
    exact counted.givesNewKey number (Nat.lt_of_le_of_lt le room)

end ProtoStore.Store

namespace ProtoStore.Shelf

open Store

instance : DecidableEq (Row Kind.book) := inferInstanceAs (DecidableEq Book)

/-- A book of a number and a title. -/
def book (id : UInt64) (title : String) : Book := ⟨id, title, 0, none, ⟨0⟩⟩

/-- Two books with numbers and two without. -/
def shelve (last : UInt64) : List (Context × Edit Kind) := [
  (.unlimited, .create .book (book 1 "first")), (.unlimited, .create .book (book last "last")),
  (.unlimited, .save .book (book 0 "third")), (.unlimited, .save .book (book 0 "fourth"))]

theorem keyedByNumber_shelve (last : UInt64) : ∀ edit ∈ shelve last, KeyedByNumber edit.2.kind := by
  have number : KeyedByNumber Kind.book := ⟨.uint64, fun _ _ => rfl⟩
  simp only [shelve, List.forall_mem_cons]
  exact ⟨number, number, number, number, List.forall_mem_nil _⟩

/-- The last numbers there are can be counted out. -/
theorem new_keys_fresh_at_end :
    let books := shelve 18446744073709551613
    let store : Store Kind := Store.empty fun _ => .nil
    (∀ edit ∈ books, KeyedByNumber edit.2.kind) ∧
      (edited store books).rows .book = [book 1 "first", book 18446744073709551613 "last",
        book 18446744073709551614 "third", book 18446744073709551615 "fourth"] ∧
      ∀ before context edit after, books = before ++ (context, edit) :: after →
        edit.GivesNewKey (usedKeys store before) (edited store before) context := by
  intro books store
  have numbers := keyedByNumber_shelve 18446744073709551613
  have room : (edited store books).sequence < UInt64.size := by decide +kernel
  exact ⟨numbers, by decide +kernel, (new_keys_fresh_iff _ books numbers).mpr room⟩

/-- After a book with the last number there is, storing one without a number panics. Where this is caught, the
running number has begun again, and the next book takes the place of the first one. -/
theorem panics_after_last_key :
    let books := shelve 18446744073709551615
    let store : Store Kind := Store.empty fun _ => .nil
    let shelved := edited store (books.take 2)
    (∀ edit ∈ books, KeyedByNumber edit.2.kind) ∧
      shelved.rows .book = [book 1 "first", book 18446744073709551615 "last"] ∧
      shelved.save .unlimited .book (book 0 "third") = ⟨shelved.draw, book 0 "third", .error .panic⟩ ∧
      (edited store books).rows .book = [book 1 "fourth", book 18446744073709551615 "last"] ∧
      ¬∀ before context edit after, books = before ++ (context, edit) :: after →
        edit.GivesNewKey (usedKeys store before) (edited store before) context := by
  intro books store shelved
  have numbers := keyedByNumber_shelve 18446744073709551615
  have storing : Storing shelved Kind.book (book 0 "third") (shelved.save .unlimited .book (book 0 "third")) :=
    storing_save rfl shelved _
  obtain ⟨-, panics⟩ := panics_of_end storing (by decide +kernel) (by decide +kernel)
  refine ⟨numbers, by decide +kernel, panics, by decide +kernel, fun gives => ?_⟩
  have third := gives (books.take 2) .unlimited (.save .book (book 0 "third")) (books.drop 3) rfl
  exact not_givesNewKey_of_end (by decide +kernel) (by decide +kernel) third

end ProtoStore.Shelf
