import ProtoStore.Proofs.Blog.Canonical
import ProtoStore.Proofs.Blog.Children
import ProtoStore.Proofs.Blog.Leaves

/-!
# The row of a strict update

A strict update puts one row into the table of its message and leaves all others there
(`rows_own_table`). It says whether there was a row of the key before (`Update.created_iff`). The row is the
record of the message under its key or a new one (`bare_written`), with the keys of parents that the row
before it held (`parents_written`) and the key of its writer (`holdsWriter_article`).
`strictUpdate_upserts` states this for all messages, after any run of calls.
-/

namespace ProtoStore

/-! ## The table of the message -/

namespace Store

variable {K : Type} [Catalog K] [ExactKeys K] {kind : K} {row : Row kind} {rows : List (Row kind)}

theorem filter_replaceOrAdd_ne (row : Row kind) (rows : List (Row kind)) :
    (replaceOrAdd row rows).filter (fun x => !sameKey x row) = rows.filter fun x => !sameKey x row := by
  have self : sameKey row row = true := sameKey_iff.mpr rfl
  induction rows with
  | nil => rw [replaceOrAdd, List.filter_cons_of_neg (by simp [self]), List.filter_nil]
  | cons other rest ih =>
    rw [replaceOrAdd]
    split
    · next same => rw [List.filter_cons_of_neg (by simp [self]), List.filter_cons_of_neg (by simp [same])]
    · next differ =>
      rw [List.filter_cons_of_pos (by simp [differ]), List.filter_cons_of_pos (by simp [differ]), ih]

theorem filter_replaceOrAdd_same (h : (rows.map key).Nodup) :
    (replaceOrAdd row rows).filter (sameKey · row) = [row] := by
  have self : sameKey row row = true := sameKey_iff.mpr rfl
  have nodup : ((replaceOrAdd row rows).map key).Nodup := nodup_replaceOrAdd h
  refine List.perm_singleton.mp ((List.perm_ext_iff_of_nodup (nodup.of_map.filter _)
    (List.nodup_singleton row)).mpr fun x => ?_)
  rw [List.mem_filter, List.mem_singleton]
  constructor
  · rintro ⟨hx, same⟩
    exact eq_of_key nodup hx mem_replaceOrAdd_self (sameKey_iff.mp same)
  · rintro rfl
    exact ⟨mem_replaceOrAdd_self, self⟩

end Store

namespace Domain.Operations

open Store Domain.Action

variable {E K : Type} [DecidableEq K] [Catalog K] [ExactKeys K] [Bindings E K] {e : E}
  {context : Context} {message : Message e} {s t : Store K} {upserted : Upserted (Message e)}

/-- The row that is written is put into its table. -/
theorem Update.rows_table (c : Update context e message s t upserted)
    (writes : ∀ p ∈ c.pending, table e ∉ p.writes) (prunes : ∀ p ∈ c.pending, table e ∉ p.prunes) :
    t.rows (table e) = replaceOrAdd c.written (s.rows (table e)) := by
  obtain ⟨-, after, assigned, saved⟩ := Store.save_ok.mp c.saves
  have linked : t.rows (table e) = c.saved.rows (table e) := sameIn_of_saveCollections writes c.links
  rw [linked, saved, rows_upsert, rows_of_assignKey assigned, c.rows_unpruned prunes,
    c.rows_referred fun p hp => Pending.not_mem_refers (writes p hp)]

/-- It is said that a row is new exactly if there was none of its key. -/
theorem Update.created_iff [KeyColumns E] (c : Update context e message s t upserted) :
    upserted.created = true ↔ ∀ x ∈ s.rows (table e), key x ≠ key c.row := by
  have locked := (Prod.mk.inj ((locks_iff c.alive).mp c.locks)).1
  rw [← locked, Option.isNone_iff_eq_none, stored, List.find?_eq_none]
  exact forall₂_congr fun x _ => not_congr sameKey_iff

omit [ExactKeys K] in
/-- What no reference changes in a record is the same after references are prepared. -/
theorem of_prepare {P : Record e → Prop} {pending : List (Pending e)} {locked prepared : Record e}
    {world last : World K Unit}
    (assigns : ∀ p ∈ pending, ∀ link, p.link = .reference link →
      ∀ target row, P row → P (link.assign target row))
    (prepares : prepare pending locked world = (.ok prepared, last)) (h : P locked) : P prepared := by
  induction pending generalizing locked world with
  | nil =>
    cases prepares
    exact h
  | cons p pending ih =>
    obtain ⟨first, rest⟩ := List.forall_mem_cons.mp assigns
    obtain ⟨pointed, middle, one, others⟩ := bind_ok.mp prepares
    refine ih rest others ?_
    cases p with
    | reference link target =>
      cases target with
      | none =>
        cases one
        exact first link rfl _ _ h
      | some target =>
        obtain ⟨saved, _, -, done⟩ := bind_ok.mp one
        cases done
        exact first link rfl _ _ h
    | children link rows | joined link rows =>
      cases one
      exact h

end Domain.Operations

namespace Blog

open Domain Store Operations

variable {e : Entity} {m : e.Message} {s t : Store Kind} {context : Context}
  {upserted : Upserted e.Message} {row written : Record e}

/-! ## The columns of a row -/

theorem bare_setKey (k : (record (table e)).Key) (row : Record e) :
    e.bare ((record (table e)).setKey k row) = (record (table e)).setKey k (e.bare row) := by
  cases e <;> rfl

theorem parents_setKey (k : (record (table e)).Key) (row : Record e) :
    e.parents ((record (table e)).setKey k row) = e.parents row := by
  cases e <;> rfl

theorem key_setKey (k : (record (table e)).Key) (row : Record e) :
    (record (table e)).key ((record (table e)).setKey k row) = k := by
  cases e <;> rfl

theorem setKey_key (row : Record e) :
    (record (table e)).setKey ((record (table e)).key row) row = row := by
  cases e <;> rfl

/-- No keys of parents. -/
def noParents : Option Uuid × Option UInt64 × Option UInt64 := (none, none, none)

theorem parents_of_converts (h : Converts e m row) : e.parents row = noParents := by
  rw [← bare_of_converts h]
  cases e <;> rfl

section

variable (c : Update context e m s t upserted)
include c

/-- Locking takes over the keys of parents, and nothing else. -/
theorem locked_eq : e.bare c.locked = e.bare c.row ∧
    (record (table e)).key c.locked = (record (table e)).key c.row ∧
    e.parents c.locked = (stored s e c.row).elim noParents e.parents := by
  have locked := (Prod.mk.inj ((locks_iff c.alive).mp c.locks)).2
  have none := parents_of_converts c.converts
  rw [← locked]
  cases stored s e c.row with
  | none =>
    rw [← none]
    cases e <;> exact ⟨rfl, rfl, rfl⟩
  | some old =>
    cases e <;> exact ⟨rfl, rfl, rfl⟩

theorem prepared_eq : e.bare c.prepared = e.bare c.row ∧
    (record (table e)).key c.prepared = (record (table e)).key c.row ∧
    e.parents c.prepared = (stored s e c.row).elim noParents e.parents := by
  refine of_prepare (P := fun r => e.bare r = e.bare c.row ∧
    (record (table e)).key r = (record (table e)).key c.row ∧
      e.parents r = (stored s e c.row).elim noParents e.parents)
    (fun p hp link reference target row h => ?_) c.prepares (locked_eq c)
  have hl : .reference link ∈ Bindings.links e := reference ▸ link_mem_of_collected c.collected hp
  exact forall_reference (P := fun e link => ∀ target (row other : Record e) parents,
    e.bare row = e.bare other ∧ (record (table e)).key row = (record (table e)).key other ∧
        e.parents row = parents →
      e.bare (link.assign target row) = e.bare other ∧
        (record (table e)).key (link.assign target row) = (record (table e)).key other ∧
          e.parents (link.assign target row) = parents)
    (fun _ _ _ _ h => h) hl target row c.row _ h

/-- The row is the record of the message, under its key if that is not empty. -/
theorem bare_written : e.bare c.written =
      (record (table e)).setKey ((record (table e)).key c.written) c.row ∧
    ((record (table e)).keyIsEmpty c.row = false →
      (record (table e)).key c.written = (record (table e)).key c.row) := by
  obtain ⟨bare, same, -⟩ := prepared_eq c
  rw [bare_of_converts c.converts] at bare
  have empty : (record (table e)).keyIsEmpty c.prepared = (record (table e)).keyIsEmpty c.row :=
    congrArg (record (table e)).rowKey.isEmpty same
  obtain ⟨-, after, assigned, -⟩ := Store.save_ok.mp c.saves
  rcases assignKey_ok assigned with ⟨-, -, written⟩ | ⟨none, -, k, -, written⟩
  · rw [written, bare, same, setKey_key]
    exact ⟨rfl, fun _ => rfl⟩
  · rw [written, bare_setKey, bare, key_setKey]
    refine ⟨rfl, fun keyed => ?_⟩
    rw [← empty, none] at keyed
    cases keyed

theorem parents_of_written : e.parents c.written = (stored s e c.row).elim noParents e.parents := by
  obtain ⟨-, -, parents⟩ := prepared_eq c
  obtain ⟨-, after, assigned, -⟩ := Store.save_ok.mp c.saves
  rcases assignKey_ok assigned with ⟨-, -, written⟩ | ⟨-, -, k, -, written⟩
  · rw [written, parents]
  · rw [written, parents_setKey, parents]

theorem rows_own_table : t.rows (table e) = replaceOrAdd c.written (s.rows (table e)) := by
  have unpruned : Kind.record e ∉ e.prunedKinds := by cases e <;> decide
  exact c.rows_table (table_not_mem_writes c.collected) fun p hp prunes =>
    unpruned (mem_prunedKinds_of_prunes c.collected p hp _ prunes)

end

/-! ## Rows without a key -/

/-- Rows of one key have both a key or none. -/
theorem keyIsEmpty_of_key {a b : Record e} (h : key a = key b) :
    (record (table e)).keyIsEmpty a = (record (table e)).keyIsEmpty b := by
  refine congrArg (record (table e)).rowKey.isEmpty ?_
  cases e with
  | tag => exact Value.string.inj h
  | article => exact toValue_uuid_injective h
  | blogPost | author | comment | reply | thread | digest => exact Value.uint.inj h

/-- No row has an empty key. -/
theorem stored_of_empty (numbers : numbered.Inv s) (hs : Unexhausted s)
    (empty : (record (table e)).keyIsEmpty row = true) : stored s e row = none := by
  refine stored_eq_none fun x hx same => ?_
  have keyed := (numbers.held hx hs).1
  rw [keyIsEmpty_of_key same, empty] at keyed
  cases keyed

/-- A new number is that of no row. -/
theorem stored_of_new [context.Timeless] (N : Numbered (table e)) (leaf : Bindings.links e = [])
    (c : Update context e m s t upserted) (numbers : numbered.Inv s) (hs : Unexhausted t)
    (empty : (record (table e)).keyIsEmpty c.row = true) : stored s e c.written = none := by
  obtain ⟨-, same, -⟩ := locked_eq c
  have without : (record (table e)).keyIsEmpty c.locked = true :=
    (congrArg (record (table e)).rowKey.isEmpty same).trans empty
  rw [N.isEmpty, beq_iff_eq] at without
  obtain ⟨written, sequence, -⟩ := N.save_ok (c.leaf leaf)
  rw [without, numberAfter, if_pos rfl] at sequence
  obtain ⟨number, -⟩ := next_number (sequence ▸ hs.1)
  refine stored_eq_none fun x hx equal => ?_
  have bound : (N.id x).toNat ≤ s.sequence := by
    have held := (numbers.held hx ((c.goes (D := numbered) trivial numbers).2.unexhausted hs)).2
    rwa [N.value] at held
  rw [N.key_eq_iff, written, Numbered.under, N.id_put, without, numberFor, if_pos rfl] at equal
  rw [equal, number] at bound
  omega

/-- The keys of parents are those of the row that is replaced. -/
theorem parents_written [context.Timeless] (c : Update context e m s t upserted) (numbers : numbered.Inv s)
    (hs : Unexhausted t) : e.parents c.written = (stored s e c.written).elim noParents e.parents := by
  rw [parents_of_written]
  cases keyed : (record (table e)).keyIsEmpty c.row with
  | false =>
    have same : key c.written = key c.row :=
      congrArg (record (table e)).rowKey.toValue ((bare_written c).2 keyed)
    unfold stored sameKey
    rw [show (record (table e)).keyValue c.written = (record (table e)).keyValue c.row from same]
  | true =>
    rw [stored_of_empty numbers ((c.goes (D := numbered) trivial numbers).2.unexhausted hs) keyed]
    cases e with
    | comment => rw [stored_of_new numberedComments rfl c numbers hs keyed]
    | reply => rw [stored_of_new numberedReplies rfl c numbers hs keyed]
    | blogPost | author | tag | article | thread | digest => cases stored s _ c.written <;> rfl

/-! ## The writer of an article -/

/-- The key of a writer who is stored as provided, or no key if none is provided. -/
def IsKeyOfWriter (authors : List AuthorRecord) : Option Author → Option UInt64 → Prop
  | none, id => id = none
  | some writer, id => ∃ author ∈ authors, id = some author.id ∧ author.name = writer.name ∧
    author.email = writer.email ∧ author.id ≠ 0 ∧ (writer.id ≠ 0 → author.id = writer.id)

/-- The row of an article holds the key of its writer. -/
def HoldsWriter (after : Store Kind) : (e : Entity) → e.Message → Record e → Prop
  | .article, (m : Article), (r : ArticleRecord) =>
    IsKeyOfWriter (after.rows (.record .author)) m.writer r.writerId
  | .blogPost, _, _ | .author, _, _ | .comment, _, _ | .tag, _, _ | .reply, _, _ | .thread, _, _
  | .digest, _, _ => True

theorem writerId_of_save {row written : Record Entity.article}
    (h : s.save context (Kind.record .article) row = ⟨t, written, .ok ()⟩) :
    ArticleRecord.writerId written = ArticleRecord.writerId row := by
  obtain ⟨-, after, assigned, -⟩ := Store.save_ok.mp h
  rcases assignKey_ok assigned with ⟨-, -, written⟩ | ⟨-, -, k, -, written⟩ <;> rw [written]
  rfl

/-- The writer is saved before the article, whose row then holds its key. -/
theorem isKeyOfWriter_of_prepare [context.Timeless] {m : Article} {pending : List (Pending Entity.article)}
    {locked prepared : Record Entity.article} {last : World Kind Unit}
    (hc : List.Forall₂ (Collected (e := Entity.article) m) (Bindings.links Entity.article) pending)
    (h : prepare pending locked ⟨s, context, ()⟩ = (.ok prepared, last))
    (keyed : ∀ author : AuthorRecord, author ∈ last.store.rows (.record .author) → author.id ≠ 0) :
    IsKeyOfWriter (last.store.rows (.record .author)) m.writer (ArticleRecord.writerId prepared) := by
  cases writer_prepared hc h with
  | without absent =>
    rw [absent]
    rfl
  | @saved author _ written u provided converts saves =>
    cases converts
    rw [provided]
    have stored : written ∈ u.rows (.record .author) := mem_of_save saves
    refine ⟨written, stored, rfl, ?_⟩
    have full := keyed written stored
    obtain ⟨rfl, -⟩ := numberedAuthors.save_ok saves
    exact ⟨rfl, rfl, full, fun h0 => if_neg h0⟩

theorem holdsWriter_article [context.Timeless] {m : Article} {upserted : Upserted Article}
    (c : Update context Entity.article m s t upserted) (numbers : numbered.Inv t) (hs : Unexhausted t) :
    HoldsWriter t Entity.article m c.written := by
  obtain ⟨writer, comments, tags, split, -⟩ := collected_article c.collected
  have links := c.links
  rw [split] at links
  -- No part of the update after the first saves or deletes authors.
  obtain ⟨_, middle, first, others⟩ := Action.bind_ok.mp links
  obtain ⟨-, rfl⟩ := Action.pure_ok.mp first
  have authors : t.rows (.record .author) = c.referred.rows (.record .author) := by
    have apart : ∀ p ∈ [Pending.children articleComments comments, .joined articleTags tags],
        Kind.record .author ∉ p.writes := by
      simp [Pending.writes, Domain.table, articleComments, articleTags]
    have unpruned : Kind.record .author ∉ Entity.article.prunedKinds := by decide
    have linked : t.rows (.record .author) = c.saved.rows (.record .author) :=
      sameIn_of_saveCollections apart others
    rw [linked, c.rows_saved (by decide), c.rows_unpruned]
    exact fun p hp prunes => unpruned (mem_prunedKinds_of_prunes c.collected p hp _ prunes)
  have keyed (author : AuthorRecord) (ha : author ∈ c.referred.rows (.record .author)) : author.id ≠ 0 := by
    have saved : author ∈ t.rows (.record .author) := authors ▸ ha
    have held : (author.id == 0) = false := (numbers.held saved hs).1
    exact ne_of_beq_false held
  show IsKeyOfWriter (t.rows (.record .author)) m.writer (ArticleRecord.writerId c.written)
  rw [writerId_of_save c.saves, authors]
  exact isKeyOfWriter_of_prepare c.collected c.prepares keyed

/-! ## The key of an answer -/

/-- The key of an answer is that of the row. -/
theorem converts_keyOnly_of_responds {value : e.Message} (h : Responds context t row value) :
    ∃ keyRow, Converts e (Bindings.keyOnly e value) keyRow ∧ key keyRow = key row := by
  cases e with
  | article =>
    have id := id_of_responds_article h
    refine ⟨{ (default : ArticleRecord) with
      id := ArticleRecord.id row, keywords := texts.encode [] }, ?_, rfl⟩
    show fillArticleRecord { (default : Article) with id := (value : Article).id } default = _
    unfold fillArticleRecord
    rw [id]
    cases ArticleRecord.id row with
    | none => rfl
    | some u => simp [Convert.uuid?, Uuid.text_ne_empty, Uuid.parse?_text]; rfl
  | thread =>
    have id : (value : Thread).id = ThreadRecord.id row := id_of_responds_thread h
    exact ⟨_, rfl, congrArg Value.uint id⟩
  | digest =>
    have id : (value : Digest).id = DigestRecord.id row := id_of_responds_digest h
    exact ⟨_, rfl, congrArg Value.uint id⟩
  | blogPost | author | comment | tag | reply =>
    obtain ⟨keyRow, converts, same⟩ := converts_keyOnly_leaf (by decide) ((responds_leaf rfl).mp h)
    exact ⟨keyRow, converts, congrArg (record (Domain.table _)).rowKey.toValue same⟩

/-! ## Strict updates -/

/-- What a strict update makes of the table of its message: `row` is the record of the message, `keyRow`
has the key of the answer, and `written` is the row that is there afterwards. -/
structure ExactUpsert (m : e.Message) (before after : Store Kind) (upserted : Upserted e.Message)
    (row keyRow written : Record e) : Prop where
  converts : Converts e m row
  answers : Converts e (Bindings.keyOnly e upserted.value) keyRow
  created : upserted.created = true ↔ ∀ x ∈ before.rows (table e), key x ≠ key row
  created_of_empty : (record (table e)).keyIsEmpty row = true → upserted.created = true
  /-- There is one row of the key of the answer. -/
  one : (after.rows (table e)).filter (sameKey · keyRow) = [written]
  /-- But for the keys of other messages it is the record of the message, under a new key if that has
  none. -/
  columns : e.bare written = (record (table e)).setKey ((record (table e)).key written) row
  keyed : (record (table e)).keyIsEmpty row = false →
    (record (table e)).key written = (record (table e)).key row
  /-- It holds the keys of parents that the row before it held. -/
  parents : e.parents written = (stored before e written).elim noParents e.parents
  writer : HoldsWriter after e m written
  others : (after.rows (table e)).filter (fun x => !sameKey x written) =
    (before.rows (table e)).filter fun x => !sameKey x written

theorem exists_exactUpsert [context.Timeless] (c : Update context e m s t upserted) (numbers : numbered.Inv s)
    (hs : Unexhausted t) :
    ∃ row keyRow written, ExactUpsert m s t upserted row keyRow written := by
  obtain ⟨last, counts⟩ := c.goes (D := numbered) trivial numbers
  obtain ⟨keyRow, converts, same⟩ := converts_keyOnly_of_responds c.responds
  obtain ⟨columns, keyed⟩ := bare_written c
  have rows := rows_own_table c
  have created := c.created_iff
  refine ⟨c.row, keyRow, c.written, {
    converts := c.converts
    answers := converts
    created := created
    created_of_empty := fun empty => created.mpr fun x hx equal => ?_
    one := ?_
    columns := columns
    keyed := keyed
    parents := parents_written c numbers hs
    writer := ?_
    others := by rw [rows, filter_replaceOrAdd_ne] }⟩
  · have full := (numbers.held hx (counts.unexhausted hs)).1
    rw [keyIsEmpty_of_key equal, empty] at full
    cases full
  · have written : (sameKey · keyRow) = fun x : Record e => sameKey x c.written := by
      funext x
      unfold sameKey
      rw [show (record (table e)).keyValue keyRow = (record (table e)).keyValue c.written from same]
    rw [written, rows, filter_replaceOrAdd_same (numbers.distinct _)]
  · cases e with
    | article => exact holdsWriter_article c last hs
    | blogPost | author | comment | tag | reply | thread | digest => trivial

/-- A strict update that succeeds replaces or adds one row, which is that of its message, and leaves all
other rows of its table, as long as the running number has not come past its end. -/
theorem strictUpdate_upserts (fresh : Nat → Uuid) (hf : ∀ n, (fresh n).isNil = false)
    (calls : List (Context × Call Entity)) (context : Context) (e : Entity) (m : e.Message) :
    let store : Store Kind := run (Store.empty fresh) calls
    ∀ upserted last, strictUpdate Hooks.none e (some m) ⟨store, context, ()⟩ = (.ok upserted, last) →
      last.store.sequence < UInt64.size →
        ∃ row keyRow written, ExactUpsert m store last.store upserted row keyRow written := by
  intro store upserted last updates hs
  obtain ⟨numbers, -⟩ := numbered_run fresh calls
  obtain ⟨c⟩ := exists_update updates
  have counts : Counts store last.store := (c.goes (D := numbered) trivial numbers).2
  exact exists_exactUpsert c numbers (unexhausted_of_run hf counts hs)

/-- The comment that `draftCalls` store is replaced; an article by a new writer is added. -/
theorem strictUpdate_upserts_draft :
    let store : Store Kind := run (Store.empty oddUuid) draftCalls
    let comment : Comment := ⟨3, "No.", ["kept"]⟩
    let article : Article :=
      { (default : Article) with title := "On time", writer := some ⟨0, "Grace", some "grace@example"⟩ }
    (∃ value last, strictUpdate Hooks.none Entity.comment (some comment) ⟨store, .unlimited, ()⟩ =
        (.ok ⟨value, false⟩, last) ∧ last.store.sequence < UInt64.size ∧
      ∃ row keyRow written,
        ExactUpsert (e := .comment) comment store last.store ⟨value, false⟩ row keyRow written) ∧
    ∃ value last, strictUpdate Hooks.none Entity.article (some article) ⟨store, .unlimited, ()⟩ =
        (.ok ⟨value, true⟩, last) ∧ last.store.sequence < UInt64.size ∧
      ∃ row keyRow written,
        ExactUpsert (e := .article) article store last.store ⟨value, true⟩ row keyRow written := by
  intro store comment article
  constructor
  · obtain ⟨value, last, updates, room⟩ : ∃ value last,
        strictUpdate Hooks.none Entity.comment (some comment) ⟨store, .unlimited, ()⟩ =
          (.ok ⟨value, false⟩, last) ∧ last.store.sequence < UInt64.size :=
      exists_of_created (by decide +kernel) (by decide +kernel)
    exact ⟨value, last, updates, room, strictUpdate_upserts oddUuid isNil_oddUuid draftCalls .unlimited
      .comment comment ⟨value, false⟩ last updates room⟩
  · obtain ⟨value, last, updates, room⟩ : ∃ value last,
        strictUpdate Hooks.none Entity.article (some article) ⟨store, .unlimited, ()⟩ =
          (.ok ⟨value, true⟩, last) ∧ last.store.sequence < UInt64.size :=
      exists_of_created (by decide +kernel) (by decide +kernel)
    exact ⟨value, last, updates, room, strictUpdate_upserts oddUuid isNil_oddUuid draftCalls .unlimited
      .article article ⟨value, true⟩ last updates room⟩

end Blog

end ProtoStore
