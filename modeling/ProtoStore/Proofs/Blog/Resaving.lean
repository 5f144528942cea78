import ProtoStore.Proofs.Blog.Rewriting

/-!
# Updates with what was read

In a store where every row has a key of its own and all rows of messages can be read (`Sound`), an update
with what was read of a record leads to the rows that `Entity.rewritten` tells.

* `Entity.outcome` : the store of these rows;
* `tidy_outcome` : there the links of the record are stored as an update writes them;
* `responds_outcome` : there the record responds as before, without what an update drops;
* `strictUpdate_outcome` : the update succeeds, and leads there.
-/

namespace ProtoStore.Blog

open Domain Store Operations Domain.Action

/-- Every row has a key of its own, and all rows of messages have messages that fit a memory. -/
structure Sound (s : Store Kind) : Prop where
  distinct : s.Distinct
  keyed {kind : Kind} {x : Row kind} : x ∈ s.rows kind → (record kind).keyIsEmpty x = false
  readable (e : Entity) : ∀ row ∈ s.rows (.record e), ∃ m, Reverts e row m ∧ e.Addressable m

/-- The store that an update with what was read of a record leads to. -/
def Entity.outcome (e : Entity) (s : Store Kind) (row : Record e) : Store Kind :=
  s.filterMap (e.rewritten s row)

/-- A message without what an update drops. -/
def Entity.retained : (e : Entity) → e.Message → e.Message
  | digest, (m : Digest) => ({ m with entries := [], hidden := [] } : Digest)
  | blogPost, m | author, m | comment, m | tag, m | article, m | reply, m | thread, m => m

variable {s : Store Kind} {e : Entity} {row : Record e} {context later : Context}

theorem Sound.addressable (h : Sound s) (hr : row ∈ s.rows (.record e)) {m : e.Message}
    (reverts : Reverts e row m) : e.Addressable m := by
  obtain ⟨m', reverts', ha⟩ := h.readable e row hr
  cases reverts.symm.trans reverts'
  exact ha

theorem Sound.faithful_usual (h : Sound s) (hr : row ∈ s.rows (.record e)) :
    Faithful (table e) (e.usual row) := by
  obtain ⟨m, reverts, ha⟩ := h.readable e row hr
  exact Blog.faithful_usual ha reverts

theorem Sound.reverts_usual (h : Sound s) (hr : row ∈ s.rows (.record e)) {m : e.Message}
    (reverts : Reverts e row m) : Reverts e (e.usual row) m :=
  Blog.reverts_usual (h.addressable hr reverts) reverts

/-! ## Rows of the outcome -/

theorem hasTag_iff {id : String} :
    hasTag s id = true ↔ ∃ tag ∈ s.rows (.record .tag), key tag = .string id := by
  unfold hasTag
  rw [List.any_eq_true]
  refine exists_congr fun tag => and_congr_right fun _ => ?_
  rw [beq_iff_eq]
  exact ⟨fun same => congrArg Value.string same, fun same => Value.string.inj same⟩

theorem rows_outcome_author : (e.outcome s row).rows (.record .author) = s.rows (.record .author) :=
  rows_filterMap_of_some fun _ _ => by cases e <;> rfl

theorem rows_outcome_tag : (e.outcome s row).rows (.record .tag) = s.rows (.record .tag) :=
  rows_filterMap_of_some fun _ _ => by cases e <;> rfl

theorem rows_outcome_joined {link : Joined e} (hl : .joined link ∈ Bindings.links e) :
    (e.outcome s row).rows (table link.target) = s.rows (table link.target) :=
  forall_joined (P := fun e link => ∀ row : Record e,
    (e.outcome s row).rows (table link.target) = s.rows (table link.target))
    (fun _ => rows_outcome_tag) (fun _ => rows_outcome_tag) (fun _ => rows_outcome_tag)
    (fun _ => rows_outcome_tag) hl row

theorem rows_outcome_reference {link : Reference e} (hl : .reference link ∈ Bindings.links e)
    (row : Record e) : (e.outcome s row).rows (table link.target) = s.rows (table link.target) :=
  forall_reference (P := fun e link => ∀ row : Record e,
    (e.outcome s row).rows (table link.target) = s.rows (table link.target))
    (fun _ => rows_outcome_author) hl row

theorem mem_outcome_self (hr : row ∈ s.rows (table e)) :
    e.repointed s row ∈ (e.outcome s row).rows (table e) :=
  mem_filterMap.mpr ⟨row, hr, rewritten_self row⟩

/-- Join rows are not changed. -/
theorem rewritten_join {link : Joined e} (hl : .joined link ∈ Bindings.links e) {x y : Row link.join}
    (h : e.rewritten s row link.join x = some y) : y = x := by
  by_contra hn
  rcases rewritten_changes h hn with ⟨same, -⟩ | ⟨other, hl', same, -⟩
  · exact forall_joined (P := fun e link => link.join ≠ table e) nofun nofun nofun nofun hl same
  · exact forall_joined (P := fun _ link => ∀ target : Entity, link.join ≠ table target)
      (fun _ => nofun) (fun _ => nofun) (fun _ => nofun) (fun _ => nofun) hl _ same

/-- A join row that leads to a stored tag stays, unless all of its owner are dropped. -/
theorem rewritten_join_of_target {link : Joined e} (hl : .joined link ∈ Bindings.links e)
    (hs : link.strategy ≠ .clear) {x : Row link.join} {target : Record link.target}
    (hm : target ∈ s.rows (table link.target))
    (hv : (record link.join).value? x link.targetColumn = some (key target)) :
    e.rewritten s row link.join x = some x := by
  refine forall_joined (P := fun e link => ∀ (row : Record e) (x : Row link.join)
    (target : Record link.target), link.strategy ≠ .clear → target ∈ s.rows (table link.target) →
      (record link.join).value? x link.targetColumn = some (key target) →
        e.rewritten s row link.join x = some x) ?_ ?_ ?_ ?_ hl row x target hs hm hv
  · exact fun _ _ _ _ _ _ => rfl
  · intro row x target _ hm hv
    have stored : hasTag s (ThreadTopic.tagId x) = true :=
      hasTag_iff.mpr ⟨target, hm, (Option.some.inj hv).symm⟩
    exact if_neg fun h => Bool.false_ne_true (h.2.symm.trans stored)
  · intro row x target _ hm hv
    have stored : hasTag s (DigestTag.tagId x) = true :=
      hasTag_iff.mpr ⟨target, hm, (Option.some.inj hv).symm⟩
    exact if_neg fun h => Bool.false_ne_true (h.2.symm.trans stored)
  · exact fun _ _ _ hs => absurd rfl hs

/-- A join row that stays leads to a stored tag, where links are exchanged. -/
theorem target_of_rewritten {link : Joined e} (hl : .joined link ∈ Bindings.links e) {x : Row link.join}
    (owned : owner link.join x = some (keyOf e row))
    (h : e.rewritten s row link.join x = some x) :
    link.strategy ≠ .clear ∧ (link.strategy ≠ .append → ∃ target ∈ s.rows (table link.target),
      (record link.join).value? x link.targetColumn = some (key target)) := by
  refine forall_joined (P := fun e link => ∀ (row : Record e) (x : Row link.join),
    owner link.join x = some (keyOf e row) → e.rewritten s row link.join x = some x →
      link.strategy ≠ .clear ∧ (link.strategy ≠ .append → ∃ target ∈ s.rows (table link.target),
        (record link.join).value? x link.targetColumn = some (key target))) ?_ ?_ ?_ ?_ hl row x owned h
  · exact fun _ _ _ _ => ⟨nofun, fun hs => absurd rfl hs⟩
  · intro row x owned h
    have same : ThreadTopic.threadId x = ThreadRecord.id row := Value.uint.inj (Option.some.inj owned)
    cases stored : hasTag s (ThreadTopic.tagId x) with
    | false => cases (if_pos ⟨same, stored⟩).symm.trans h
    | true =>
      obtain ⟨tag, ht, hk⟩ := hasTag_iff.mp stored
      exact ⟨nofun, fun _ => ⟨tag, ht, congrArg some hk.symm⟩⟩
  · intro row x owned h
    have same : DigestTag.digestId x = DigestRecord.id row := Value.uint.inj (Option.some.inj owned)
    cases stored : hasTag s (DigestTag.tagId x) with
    | false => cases (if_pos ⟨same, stored⟩).symm.trans h
    | true =>
      obtain ⟨tag, ht, hk⟩ := hasTag_iff.mp stored
      exact ⟨nofun, fun _ => ⟨tag, ht, congrArg some hk.symm⟩⟩
  · intro row x owned h
    have same : DigestTag.digestId x = DigestRecord.id row := Value.uint.inj (Option.some.inj owned)
    cases (if_pos same).symm.trans h

/-- A child that stays is rewritten to what pointing it at its parent gives. -/
theorem child_rewritten (h : Sound s) {link : Children e} (hl : .children link ∈ Bindings.links e)
    {x y : Record link.target} (hx : x ∈ s.rows (table link.target))
    (linked : Linked (table link.target) link.column (keyOf e row) x)
    (rewritten : e.rewritten s row (table link.target) x = some y) :
    Faithful (table link.target) y ∧ link.strategy ≠ .clear ∧
      link.attach (e.repointed s row) (link.target.bare y) = y := by
  refine forall_children (P := fun e link => ∀ (row : Record e) (x y : Record link.target),
    x ∈ s.rows (table link.target) → Linked (table link.target) link.column (keyOf e row) x →
      e.rewritten s row (table link.target) x = some y →
        Faithful (table link.target) y ∧ link.strategy ≠ .clear ∧
          link.attach (e.repointed s row) (link.target.bare y) = y) ?_ ?_ ?_ hl row x y hx linked rewritten
  · intro row x y hx linked rewritten
    have same := linked_comment_iff.mp linked
    cases (rewritten_comment same).symm.trans rewritten
    refine ⟨h.faithful_usual hx, nofun, ?_⟩
    obtain ⟨id, body, flags, articleId⟩ := x
    obtain rfl : articleId = ArticleRecord.id row := same
    rfl
  · intro row x y hx linked rewritten
    have same := linked_reply_iff.mp linked
    cases (rewritten_reply same).symm.trans rewritten
    refine ⟨trivial, nofun, ?_⟩
    obtain ⟨id, text, threadId, digestId⟩ := x
    obtain rfl : threadId = some (ThreadRecord.id row) := same
    rfl
  · intro row x y hx linked rewritten
    cases (rewritten_entry (linked_entry_iff.mp linked)).symm.trans rewritten

/-- The links of a record are stored in the outcome as an update writes them. -/
theorem tidy_outcome (h : Sound s) (hr : row ∈ s.rows (table e)) :
    Tidy (e.outcome s row) e (e.repointed s row) where
  mem := mem_outcome_self hr
  keyed {kind y} hy := by
    obtain ⟨x, hx, rewritten⟩ := mem_filterMap.mp hy
    exact (congrArg (record kind).rowKey.isEmpty (key_rewritten rewritten)).trans (h.keyed hx)
  writer article reference hm := by
    cases article
    obtain ⟨n, hn, rfl⟩ := List.mem_map.mp hm
    obtain ⟨-, stored⟩ := Option.filter_eq_some_iff.mp (Option.mem_toList.mp hn)
    obtain ⟨author, ha, same⟩ := List.any_eq_true.mp stored
    show _ ∈ ((Entity.article.outcome s row).rows (.record .author)).map key
    rw [rows_outcome_author]
    exact List.mem_map.mpr ⟨author, ha, congrArg Value.uint (beq_iff_eq.mp same)⟩
  children {link} hl y hy linked := by
    obtain ⟨x, hx, rewritten⟩ := mem_filterMap.mp hy
    rw [keyOf_repointed] at linked
    exact child_rewritten h hl hx ((satisfies_rewritten hl rewritten).symm.trans linked) rewritten
  joined {link} hl y hy linked := by
    obtain ⟨x, hx, rewritten⟩ := mem_filterMap.mp hy
    obtain rfl := rewritten_join hl rewritten
    rw [keyOf_repointed, linked_iff_owner hl] at linked
    rw [rows_outcome_joined hl]
    exact target_of_rewritten hl linked rewritten

/-! ## Answers of the outcome -/

section

variable (alive : context.check = .ok ()) (live : later.check = .ok ())
include alive live

theorem loadChildren_outcome (h : Sound s) {link : Children e} (hl : .children link ∈ Bindings.links e)
    {rows : List (Record link.target)}
    (loads : s.loadChildren context (table link.target) link.column (keyOf e row) = .ok rows) :
    (e.outcome s row).loadChildren later (table link.target) link.column (keyOf e (e.repointed s row)) =
      .ok (rows.filterMap (e.rewritten s row (table link.target))) := by
  rw [keyOf_repointed]
  exact loadChildren_filterMap h.distinct alive live (Loadable.children hl) (hasColumn_key link.target)
    (KeyColumns.value? link.target) (Loadable.sorted link.target) keepsKeys_rewritten
    (fun _ _ => satisfies_rewritten hl) loads

theorem loadLinked_outcome [context.Timeless] [later.Timeless] {link : Joined e} (hl : .joined link ∈ Bindings.links e)
    (hs : link.strategy ≠ .clear) {rows : List (Record link.target)}
    (loads : s.loadLinked context (table link.target) link.join link.ownerColumn (keyOf e row)
      link.targetColumn = .ok rows) :
    (e.outcome s row).loadLinked later (table link.target) link.join link.ownerColumn
      (keyOf e (e.repointed s row)) link.targetColumn = .ok rows := by
  rw [keyOf_repointed, ← loads]
  refine loadLinked_congr alive live (Loadable.joined hl) (hasColumn_key link.target)
    (KeyColumns.value? link.target) (Loadable.sorted link.target) (rows_outcome_joined hl) fun target ht => ?_
  rw [mem_targetKeys, mem_targetKeys]
  constructor
  · rintro ⟨y, hy, linked, hv⟩
    obtain ⟨x, hx, rewritten⟩ := mem_filterMap.mp hy
    obtain rfl := rewritten_join hl rewritten
    exact ⟨y, hx, linked, hv⟩
  · rintro ⟨x, hx, linked, hv⟩
    exact ⟨x, mem_filterMap.mpr ⟨x, hx, rewritten_join_of_target hl hs ht hv⟩, linked, hv⟩

/-- The writer of an article is loaded as before, since one that is not stored is not loaded. -/
theorem writer_outcome {row : Record Entity.article} {found : Option (Record Entity.author)}
    (loads : if articleWriter.keyIsEmpty row then found = none
      else s.loadOne context (table Entity.author) (articleWriter.key row) = .ok found) :
    if articleWriter.keyIsEmpty (Entity.article.repointed s row) then found = none
    else (Entity.article.outcome s row).loadOne later (table Entity.author)
      (articleWriter.key (Entity.article.repointed s row)) = .ok found := by
  have authors : (Entity.article.outcome s row).rows (table Entity.author) =
    s.rows (table Entity.author) := rows_outcome_author
  rw [loadOne_eq alive (KeyColumns.value? Entity.author) (hasColumn_key Entity.author)] at loads
  rw [loadOne_eq live (KeyColumns.value? Entity.author) (hasColumn_key Entity.author), authors]
  clear authors
  obtain ⟨id, title, publishedAt, status, keywords, meta_, rating, writerId⟩ := row
  cases kept : writerId.filter (hasAuthor s) with
  | some n =>
    obtain ⟨rfl, -⟩ := Option.filter_eq_some_iff.mp kept
    have same : articleWriter.key (Entity.article.repointed s
        ⟨id, title, publishedAt, status, keywords, meta_, rating, some n⟩) = .uint n :=
      congrArg RowKey.toValue kept
    have keyed : articleWriter.keyIsEmpty (Entity.article.repointed s
        ⟨id, title, publishedAt, status, keywords, meta_, rating, some n⟩) = (n == 0) :=
      congrArg RowKey.isEmpty kept
    rw [same, keyed]
    exact loads
  | none =>
    have empty : articleWriter.keyIsEmpty (Entity.article.repointed s
        ⟨id, title, publishedAt, status, keywords, meta_, rating, writerId⟩) = true :=
      congrArg RowKey.isEmpty kept
    rw [if_pos empty]
    split at loads
    · exact loads
    · next keyed =>
      rw [← Except.ok.inj loads, List.find?_eq_none]
      intro author ha same
      cases writerId with
      | none => exact keyed rfl
      | some n =>
        rw [Value.same_iff (Or.inl (ExactKeys.isExact _ author))] at same
        have stored : hasAuthor s n = true :=
          List.any_eq_true.mpr ⟨author, ha, beq_iff_eq.mpr (Value.uint.inj same)⟩
        rw [Option.filter_some, if_pos stored] at kept
        cases kept

end

theorem forall₂_filterMap {α β : Type} {R : α → β → Prop} {f : α → Option α} {xs : List α} {ys : List β}
    (h : List.Forall₂ R xs ys) (hf : ∀ x ∈ xs, ∀ y, R x y → ∃ x', f x = some x' ∧ R x' y) :
    List.Forall₂ R (xs.filterMap f) ys := by
  induction h with
  | nil => exact .nil
  | cons hr _ ih =>
    obtain ⟨first, rest⟩ := List.forall_mem_cons.mp hf
    obtain ⟨x', hx, hr'⟩ := first _ hr
    rw [List.filterMap_cons_some hx]
    exact .cons hr' (ih rest)

section

variable [context.Timeless] [later.Timeless] (h : Sound s) (alive : context.check = .ok ())
  (live : later.check = .ok ())
include h alive live

theorem responds_outcome_article {row : Record Entity.article} (hr : row ∈ s.rows (.record .article))
    {value : Article} (responds : Responds context s row value) :
    Responds (e := Entity.article) later (Entity.article.outcome s row)
      (Entity.article.repointed s row) value := by
  obtain ⟨m, reverts, m₁, ⟨found, writer, loads, hw, rfl⟩, m₂, ⟨comments, ms, loads', hc, rfl⟩, m₃,
    ⟨tags, ts, loads'', ht, rfl⟩, rfl⟩ := responds
  have hl : .children articleComments ∈ Bindings.links Entity.article :=
    List.mem_cons_of_mem _ List.mem_cons_self
  refine ⟨m, h.reverts_usual hr reverts, _, ⟨found, writer, ?_, hw, rfl⟩, _,
    ⟨_, ms, loadChildren_outcome alive live h hl loads', ?_, rfl⟩, _, ⟨tags, ts, ?_, ht, rfl⟩, rfl⟩
  · exact writer_outcome alive live loads
  · refine forall₂_filterMap hc fun x hx m hm => ?_
    obtain ⟨hx, linked⟩ := (mem_children alive hl loads' x).mp hx
    exact ⟨_, rewritten_comment (linked_comment_iff.mp linked), h.reverts_usual hx hm⟩
  · exact loadLinked_outcome alive live
      (List.mem_cons_of_mem _ (List.mem_cons_of_mem _ List.mem_cons_self)) (by nofun) loads''

theorem responds_outcome_thread {row : Record Entity.thread} {value : Thread}
    (responds : Responds context s row value) :
    Responds (e := Entity.thread) later (Entity.thread.outcome s row) (Entity.thread.repointed s row)
      value := by
  obtain ⟨m, reverts, m₁, ⟨replies, rs, loads, hr, rfl⟩, m₂, ⟨topics, ts, loads', ht, rfl⟩, rfl⟩ := responds
  have hl : .children threadReplies ∈ Bindings.links Entity.thread := List.mem_cons_self
  refine ⟨m, reverts, _, ⟨_, rs, loadChildren_outcome alive live h hl loads, ?_, rfl⟩, _,
    ⟨topics, ts, ?_, ht, rfl⟩, rfl⟩
  · refine forall₂_filterMap hr fun x hx m hm => ?_
    obtain ⟨-, linked⟩ := (mem_children alive hl loads x).mp hx
    exact ⟨_, rewritten_reply (linked_reply_iff.mp linked), hm⟩
  · exact loadLinked_outcome alive live (List.mem_cons_of_mem _ List.mem_cons_self) (by nofun) loads'

theorem responds_outcome_digest {row : Record Entity.digest} {value : Digest}
    (responds : Responds context s row value) :
    Responds (e := Entity.digest) later (Entity.digest.outcome s row) (Entity.digest.repointed s row)
      (Entity.digest.retained value) := by
  obtain ⟨m, reverts, m₁, ⟨entries, es, loads, he, rfl⟩, m₂, ⟨featured, fs, loads', hf, rfl⟩, m₃,
    ⟨hidden, hs, loads'', hh, rfl⟩, rfl⟩ := responds
  have hl : .children digestEntries ∈ Bindings.links Entity.digest := List.mem_cons_self
  have dropped := loadChildren_outcome alive live h hl loads
  have none : entries.filterMap (Entity.digest.rewritten s row (table digestEntries.target)) = [] := by
    refine List.filterMap_eq_nil_iff.mpr fun x hx => rewritten_entry (linked_entry_iff.mp ?_)
    exact ((mem_children alive hl loads x).mp hx).2
  rw [none] at dropped
  refine ⟨m, reverts, _, ⟨[], [], dropped, .nil, rfl⟩, _, ⟨featured, fs, ?_, hf, rfl⟩, _,
    ⟨[], [], ?_, .nil, rfl⟩, rfl⟩
  · exact loadLinked_outcome alive live (List.mem_cons_of_mem _ List.mem_cons_self) (by nofun) loads'
  · have hl : .joined digestHidden ∈ Bindings.links Entity.digest :=
      List.mem_cons_of_mem _ (List.mem_cons_of_mem _ List.mem_cons_self)
    refine loadLinked_eq_nil live (Loadable.joined hl) (hasColumn_key Entity.tag)
      (Loadable.sorted Entity.tag) fun y hy linked => ?_
    obtain ⟨x, hx, rewritten⟩ := mem_filterMap.mp hy
    obtain rfl := rewritten_join hl rewritten
    exact (target_of_rewritten hl ((linked_iff_owner hl).mp linked) rewritten).1 rfl

end

theorem responds_outcome [context.Timeless] [later.Timeless] (h : Sound s) (hr : row ∈ s.rows (table e)) (alive : context.check = .ok ())
    (live : later.check = .ok ()) {value : e.Message} (responds : Responds context s row value) :
    Responds later (e.outcome s row) (e.repointed s row) (e.retained value) := by
  cases e with
  | article => exact responds_outcome_article h alive live hr responds
  | thread => exact responds_outcome_thread h alive live responds
  | digest => exact responds_outcome_digest h alive live responds
  | comment =>
    obtain ⟨m, reverts, loaded⟩ := responds
    exact ⟨m, h.reverts_usual hr reverts, loaded⟩
  | blogPost | author | tag | reply => exact responds

/-! ## The update -/

/-- The record of an answer is the row it comes from in the usual encoding, without the keys of
others. -/
theorem converts_answer (h : Sound s) (hr : row ∈ s.rows (table e)) {value : e.Message}
    (responds : Responds context s row value) : Converts e value (e.bare (e.usual row)) := by
  obtain ⟨m, reverts, loads⟩ := responds
  exact converts_of_loadsAll (fun _ hl => hl) loads
    (converts_of_reverts (h.faithful_usual hr) (h.reverts_usual hr reverts))

/-- Replies and tags always have records. -/
theorem exists_rows {f : e.Message → Record e} (hf : ∀ m, e.fillRecord m e.blankRecord = .ok (f m))
    (messages : List e.Message) : ∃ rows, List.Forall₂ (Converts e) messages rows :=
  ⟨messages.map f, List.forall₂_map_right_iff.mpr (List.forall₂_same.mpr fun m _ => hf m)⟩

/-- What a digest drops has records, too. -/
theorem exists_collected_digest {value : Digest} {pending : List (Pending Entity.digest)}
    (collected : List.Forall₂ (Collected (e := Entity.digest) (Entity.digest.retained value))
      (Bindings.links Entity.digest) pending) :
    ∃ entries featured hidden, pending = [.children digestEntries [], .joined digestFeatured featured,
        .joined digestHidden []] ∧
      List.Forall₂ (Collected (e := Entity.digest) value) (Bindings.links Entity.digest)
        [.children digestEntries entries, .joined digestFeatured featured, .joined digestHidden hidden] := by
  obtain ⟨entries, featured, hidden, rfl, he, hf, hh⟩ := collected_digest collected
  cases he
  cases hh
  obtain ⟨entries, he⟩ := exists_rows (e := Entity.reply) (fun _ => rfl) value.entries
  obtain ⟨hidden, hh⟩ := exists_rows (e := Entity.tag) (fun _ => rfl) value.hidden
  exact ⟨entries, featured, hidden, rfl, .cons (.children he) (.cons (.joined hf) (.cons (.joined hh) .nil))⟩

/-- An update with an answer would write what is stored in the outcome. -/
theorem exists_collected [context.Timeless] (h : Sound s) (hr : row ∈ s.rows (table e)) (alive : context.check = .ok ())
    {value : e.Message} (responds : Responds context s row value) :
    ∃ pending, List.Forall₂ (Collected value) (Bindings.links e) pending ∧
      (∀ p ∈ pending, Settled (e.outcome s row) (e.repointed s row) p.cleared) ∧
        pending.foldl Pending.point
          ((Bindings.keepParents? e).elim (e.bare (e.usual row)) fun keep =>
            keep row (e.bare (e.usual row))) = e.repointed s row := by
  obtain ⟨pending, collected, settled, pointed⟩ :=
    (tidy_outcome h hr).resettles alive (responds_outcome h hr alive alive responds)
  cases e with
  | digest =>
    obtain ⟨entries, featured, hidden, rfl, whole⟩ := exists_collected_digest collected
    refine ⟨_, whole, ?_, pointed⟩
    simp only [List.forall_mem_cons] at settled ⊢
    exact ⟨settled.1, settled.2.1, settled.2.2.1, List.forall_mem_nil _⟩
  | article | thread | blogPost | author | comment | tag | reply =>
    refine ⟨pending, collected, fun p hp => ?_, pointed⟩
    rw [(settled p hp).cleared_eq]
    exact settled p hp

/-- Saving what was read leads to the outcome. -/
theorem restores_outcome (h : Sound s) (hr : row ∈ s.rows (table e)) {value : e.Message}
    {pending : List (Pending e)}
    (collected : List.Forall₂ (Collected value) (Bindings.links e) pending)
    (settled : ∀ p ∈ pending, Settled (e.outcome s row) (e.repointed s row) p.cleared) :
    Restores s (e.outcome s row) pending (e.repointed s row) where
  referred p hp := by
    obtain ⟨link, hl, hc⟩ := exists_of_forall₂ collected hp
    cases hc with
    | @reference link target _ =>
      intro x hx
      obtain ⟨hm, hk⟩ := settled _ hp x hx
      exact ⟨rows_outcome_reference hl row ▸ hm, hk⟩
    | children _ => trivial
    | joined _ => trivial
  settled := settled
  keyed := (tidy_outcome h hr).keyed_of_mem (mem_outcome_self hr)
  gone {kind x} hx hk := by
    cases rewritten : e.rewritten s row kind x with
    | some y =>
      refine absurd (List.mem_map.mpr ⟨y, mem_filterMap.mpr ⟨x, hx, rewritten⟩, ?_⟩) hk
      exact keepsKeys_rewritten rewritten
    | none =>
      rcases rewritten_drops rewritten with ⟨link, hl, hs, same, linked⟩ | ⟨link, hl, hs, same, linked⟩
      · obtain ⟨p, hp, hc⟩ := exists_of_forall₂ collected.flip hl
        cases hc
        exact ⟨_, hp, Pending.takes_children hs same ((keyOf_repointed row).symm ▸ linked)⟩
      · obtain ⟨p, hp, hc⟩ := exists_of_forall₂ collected.flip hl
        cases hc
        exact ⟨_, hp, Pending.takes_joined hs same ((keyOf_repointed row).symm ▸ linked)⟩
  new {kind y} hy hn := by
    obtain ⟨x, hx, rewritten⟩ := mem_filterMap.mp hy
    have changed : y ≠ x := fun same => hn (same ▸ hx)
    rcases rewritten_changes rewritten changed with ⟨same, hk⟩ | ⟨link, hl, same, linked⟩
    · exact Or.inl ⟨same, hk.trans (keyOf_repointed row).symm⟩
    · obtain ⟨p, hp, hc⟩ := exists_of_forall₂ collected.flip hl
      cases hc
      exact Or.inr ⟨_, hp, same, (keyOf_repointed row).symm ▸ linked⟩

/-- An update with what was read of a record succeeds, and leads to the outcome. -/
theorem strictUpdate_outcome [context.Timeless] (h : Sound s) (hr : row ∈ s.rows (table e)) (alive : context.check = .ok ())
    {value : e.Message} (responds : Responds context s row value) :
    ∃ last, Nonempty (Update context e value s last ⟨e.retained value, false⟩) ∧
      Alike (e.outcome s row) last := by
  obtain ⟨pending, collected, settled, pointed⟩ := exists_collected h hr alive responds
  have tidy := tidy_outcome h hr
  have same : (record (table e)).key (e.bare (e.usual row)) = (record (table e)).key row := by
    cases e <;> rfl
  exact exists_update_toward h.distinct (h.distinct.filterMap keepsKeys_rewritten) alive alive hr
    (converts_answer h hr responds) same collected (restores_outcome h hr collected settled) pointed
    (responds_outcome h hr alive alive responds)

end ProtoStore.Blog
