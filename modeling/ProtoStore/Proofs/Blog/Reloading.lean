import ProtoStore.Proofs.Blog.Conversion
import ProtoStore.Proofs.Blog.Links
import ProtoStore.Proofs.Domain.Repeat

/-!
# Messages of the blog loaded again

* `Loadable Entity` : rows are found and sorted by their columns;
* `byColumns_join` : a join row is told by its columns;
* `converts_of_responds` : the record of an answer is the row it comes from, without the keys of others;
* `exists_converts_keyOnly` : the record of its key has the same key.
-/

namespace ProtoStore.Blog

open Domain Store Operations

/-! ## Columns -/

theorem compareBy_key {e : Entity} (a b : Record e) :
    (record (table e)).compareBy [⟨(record (table e)).keyColumn, false⟩] a b =
      ((key a).compare? (key b)).getD .eq := by
  unfold RecordType.compareBy RecordType.compareIn
  rw [List.foldr_cons, List.foldr_nil, KeyColumns.value?, KeyColumns.value?]
  exact Ordering.then_eq

theorem sortedByKey_of_number {e : Entity} {id : Record e → UInt64} (h : ∀ row, key row = .uint (id row)) :
    SortedByKey (table e) := by
  refine ⟨UInt64, inferInstance, inferInstance, inferInstance, id, fun a b => ?_, fun a b hab => ?_⟩
  · rw [compareBy_key, h, h]
    unfold Value.compare?
    rfl
  · rw [h, h, hab]

theorem sortedByKey_tag : SortedByKey (table Entity.tag) := by
  refine ⟨String, inferInstance, inferInstance, inferInstance, TagRecord.id, fun a b => ?_, fun a b hab => ?_⟩
  · rw [compareBy_key]
    show ((Value.string (TagRecord.id a)).compare? (.string (TagRecord.id b))).getD .eq = _
    unfold Value.compare?
    rfl
  · exact congrArg Value.string hab

/-- The place of an identifier in the order of keys. -/
def rank : Option Uuid → Nat
  | none => 0
  | some u => u.bits.toNat + 1

theorem compare?_rank (a b : Option Uuid) :
    ((toValue a).compare? (toValue b)).getD .eq = compare (rank a) (rank b) := by
  cases a with
  | none => cases b <;> rfl
  | some u =>
    cases b with
    | none => rfl
    | some v =>
      show compare u.bits.toNat v.bits.toNat = compare (u.bits.toNat + 1) (v.bits.toNat + 1)
      simp only [Nat.compare_eq_ite_lt, Nat.add_lt_add_iff_right]

theorem rank_injective : Function.Injective rank := by
  intro a b h
  cases a with
  | none =>
    cases b with
    | none => rfl
    | some v => exact absurd h.symm (Nat.succ_ne_zero _)
  | some u =>
    cases b with
    | none => exact absurd h (Nat.succ_ne_zero _)
    | some v => exact congrArg some (Uuid.toNat_bits_inj.mp (Nat.succ.inj h))

theorem sortedByKey_article : SortedByKey (table Entity.article) := by
  refine ⟨Nat, inferInstance, inferInstance, inferInstance, fun row => rank (ArticleRecord.id row),
    fun a b => ?_, fun a b hab => ?_⟩
  · rw [compareBy_key]
    exact compare?_rank _ _
  · exact congrArg toValue (rank_injective hab)

instance : Loadable Entity where
  sorted e := by
    cases e with
    | article => exact sortedByKey_article
    | tag => exact sortedByKey_tag
    | blogPost | author | comment | reply | thread | digest => exact sortedByKey_of_number fun _ => rfl
  children hl := forall_children (P := fun _ link => HasColumn (table link.target) link.column)
    rfl rfl rfl hl
  joined hl := forall_joined (P := fun _ link => HasColumn link.join link.ownerColumn)
    rfl rfl rfl rfl hl

theorem linked_iff {kind : Kind} {column : String} {k v : Value} {x : Row kind}
    (hv : (record kind).value? x column = some v) (exact : v.isExact = true) :
    Linked kind column k x ↔ v = k := by
  unfold Linked
  rw [satisfies_singleton, Condition.column, hv, Option.getD_some, Condition.holds,
    Value.same_iff (Or.inl exact)]

theorem byColumns_pair {join : Kind} {first second : String} {f g : Row join → Value}
    (hc : ∀ row : Row join, (equalTo row).conditions = [.eq first (f row), .eq second (g row)])
    (hf : ∀ row, (record join).value? row first = some (f row) ∧ (f row).isExact = true)
    (hg : ∀ row, (record join).value? row second = some (g row) ∧ (g row).isExact = true)
    (inj : ∀ a b, f a = f b → g a = g b → a = b) : ByColumns join := by
  have has : ∀ (row : Row join) {column : String} {v : Value},
      (record join).value? row column = some v → ((record join).column? column).isSome = true := by
    intro row column v hv
    rw [RecordType.value?, Option.map_eq_some_iff] at hv
    obtain ⟨found, hfound, -⟩ := hv
    exact Option.isSome_of_mem hfound
  refine ⟨fun row condition hm => ?_, fun row other => ?_⟩
  · rw [hc, List.mem_cons, List.mem_singleton] at hm
    rcases hm with rfl | rfl
    · exact has row (hf row).1
    · exact has row (hg row).1
  · rw [hc]
    unfold RecordType.satisfies
    simp only [List.all_cons, List.all_nil, Bool.and_true, Bool.and_eq_true, Condition.column,
      (hf other).1, (hg other).1, Option.getD_some, Condition.holds, Value.same_iff (Or.inl (hf other).2),
      Value.same_iff (Or.inl (hg other).2)]
    exact ⟨fun h => inj other row h.1 h.2, fun h => h ▸ ⟨rfl, rfl⟩⟩

theorem toValue_uuid_injective : Function.Injective (toValue : Option Uuid → Value) := by
  intro a b h
  cases a <;> cases b <;> cases h <;> rfl

theorem isExact_uuid (id : Option Uuid) : (toValue id).isExact = true := by cases id <;> rfl

theorem toValue_number_injective : Function.Injective (toValue : Option UInt64 → Value) := by
  intro a b h
  cases a <;> cases b <;> cases h <;> rfl

theorem isExact_number (id : Option UInt64) : (toValue id).isExact = true := by cases id <;> rfl

theorem linked_comment_iff {parent : Record Entity.article} {x : Row (Kind.record .comment)} :
    Linked (Kind.record .comment) articleComments.column (keyOf Entity.article parent) x ↔
      CommentRecord.articleId x = ArticleRecord.id parent := by
  rw [linked_iff (v := toValue (CommentRecord.articleId x)) rfl (isExact_uuid _)]
  exact ⟨fun h => toValue_uuid_injective h, fun h => congrArg toValue h⟩

theorem linked_reply_iff {parent : Record Entity.thread} {x : Row (Kind.record .reply)} :
    Linked (Kind.record .reply) threadReplies.column (keyOf Entity.thread parent) x ↔
      ReplyRecord.threadId x = some (ThreadRecord.id parent) := by
  rw [linked_iff (v := toValue (ReplyRecord.threadId x)) rfl (isExact_number _)]
  exact ⟨fun h => toValue_number_injective h, fun h => h ▸ rfl⟩

theorem byColumns_articleTag : ByColumns Kind.articleTag := by
  refine byColumns_pair (f := fun r : ArticleTag => toValue r.articleId)
    (g := fun r : ArticleTag => toValue r.tagId) (fun _ => rfl) (fun r => ⟨rfl, isExact_uuid _⟩)
    (fun _ => ⟨rfl, rfl⟩) fun a b hf hg => ?_
  cases a
  cases b
  cases toValue_uuid_injective hf
  cases hg
  rfl

theorem byColumns_threadTopic : ByColumns Kind.threadTopic := by
  refine byColumns_pair (f := fun r : ThreadTopic => toValue r.threadId)
    (g := fun r : ThreadTopic => toValue r.tagId) (fun _ => rfl) (fun _ => ⟨rfl, rfl⟩)
    (fun _ => ⟨rfl, rfl⟩) fun a b hf hg => ?_
  cases a
  cases b
  cases hf
  cases hg
  rfl

theorem byColumns_digestTag {join : Kind} (h : join = .digestFeatured ∨ join = .digestHidden) :
    ByColumns join := by
  rcases h with rfl | rfl
  all_goals
    refine byColumns_pair (f := fun r : DigestTag => toValue r.digestId)
      (g := fun r : DigestTag => toValue r.tagId) (fun _ => rfl) (fun _ => ⟨rfl, rfl⟩)
      (fun _ => ⟨rfl, rfl⟩) fun a b hf hg => ?_
    cases a
    cases b
    cases hf
    cases hg
    rfl

theorem byColumns_join {e : Entity} {link : Joined e} (hl : .joined link ∈ Bindings.links e) :
    ByColumns link.join :=
  forall_joined (P := fun _ link => ByColumns link.join) byColumns_articleTag byColumns_threadTopic
    (byColumns_digestTag (Or.inl rfl)) (byColumns_digestTag (Or.inr rfl)) hl

/-! ## Records of answers -/

section

variable {context : Context} {t : Store Kind} {e : Entity} {row : Record e} {m loaded : e.Message}

/-- The record of a message is a row of its own. -/
theorem converts_of_reverts (h : Faithful (table e) row) (hr : Reverts e row m) :
    Converts e m (e.bare row) := by
  obtain ⟨m', hm, -, converts⟩ := fillMessage_faithful h
  cases hr.symm.trans hm
  exact converts

theorem converts_of_reverts_all {rows : List (Record e)} {ms : List e.Message}
    (h : ∀ row ∈ rows, Faithful (table e) row) (hr : List.Forall₂ (Reverts e) rows ms) :
    List.Forall₂ (Converts e) ms (rows.map e.bare) := by
  induction hr with
  | nil => exact .nil
  | cons hm _ ih =>
    obtain ⟨first, rest⟩ := List.forall_mem_cons.mp h
    exact .cons (converts_of_reverts first hm) (ih rest)

/-- Links are not in the record of a message. -/
theorem converts_of_loads {link : MessageLink e} (hl : link ∈ Bindings.links e)
    (h : Loads context t row link m loaded) {r : Record e} (hc : Converts e m r) :
    Converts e loaded r := by
  cases link with
  | reference link =>
    obtain ⟨-, target, -, -, rfl⟩ := h
    exact forall_reference (P := fun e link => ∀ (m : e.Message) target r, Converts e m r →
      Converts e (link.set target m) r) (fun _ _ _ h => h) hl m target r hc
  | children link =>
    obtain ⟨-, targets, -, -, rfl⟩ := h
    exact forall_children (P := fun e link => ∀ (m : e.Message) targets r, Converts e m r →
      Converts e (link.set targets m) r) (fun _ _ _ h => h) (fun _ _ _ h => h) (fun _ _ _ h => h) hl m
      targets r hc
  | joined link =>
    obtain ⟨-, targets, -, -, rfl⟩ := h
    exact forall_joined (P := fun e link => ∀ (m : e.Message) targets r, Converts e m r →
      Converts e (link.set targets m) r) (fun _ _ _ h => h) (fun _ _ _ h => h) (fun _ _ _ h => h)
      (fun _ _ _ h => h) hl m targets r hc

theorem converts_of_loadsAll {links : List (MessageLink e)} (hl : ∀ link ∈ links, link ∈ Bindings.links e)
    (h : LoadsAll context t row links m loaded) {r : Record e} (hc : Converts e m r) :
    Converts e loaded r := by
  induction links generalizing m with
  | nil => exact h ▸ hc
  | cons link links ih =>
    obtain ⟨hlink, hlinks⟩ := List.forall_mem_cons.mp hl
    obtain ⟨next, first, rest⟩ := h
    exact ih hlinks rest (converts_of_loads hlink first hc)

theorem converts_of_responds (hf : Faithful (table e) row) (h : Responds context t row loaded) :
    Converts e loaded (e.bare row) := by
  obtain ⟨m, reverts, loads⟩ := h
  exact converts_of_loadsAll (fun _ hl => hl) loads (converts_of_reverts hf reverts)

theorem key_bare (row : Record e) :
    (record (table e)).key (e.bare row) = (record (table e)).key row := by
  cases e <;> rfl

/-- The key of a message is converted as the message is. -/
theorem exists_converts_keyOnly {r : Record e} (h : Converts e m r) :
    ∃ r', Converts e (Bindings.keyOnly e m) r' ∧
      (record (table e)).key r' = (record (table e)).key r := by
  cases e with
  | article =>
    obtain ⟨id, publishedAt, hid, -, rfl⟩ := fillArticleRecord_ok h
    refine ⟨{ (default : ArticleRecord) with id, keywords := texts.encode [] }, ?_, rfl⟩
    show fillArticleRecord { (default : Article) with id := (m : Article).id } default = _
    unfold fillArticleRecord
    rw [hid]
    rfl
  | blogPost | author | comment | tag | reply | thread | digest => cases h; exact ⟨_, rfl, rfl⟩

end

end ProtoStore.Blog
