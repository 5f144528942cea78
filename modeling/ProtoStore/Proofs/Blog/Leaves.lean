import ProtoStore.Proofs.Blog.Convertible
import ProtoStore.Proofs.Blog.Masks
import ProtoStore.Proofs.Blog.Patching
import ProtoStore.Proofs.Blog.Rewriting
import ProtoStore.Proofs.Domain.Lasting

/-!
# Patches of messages without links

Posts, authors, comments, tags and replies are stored in one row each. A patch of such a message fails if no
row has its key. Otherwise it answers the message of the row with what the mask names taken from the input,
and stores it in place of the row, with the keys of the article, thread and digest that the row holds
(`patch_exact`).

The flags of comments are the only columns of such a row that are encoded; the discipline `legible` says that
every run leaves them readable.
-/

namespace ProtoStore.Blog

open Domain Store Operations

/-- The messages without links. -/
def Entity.leaves : List Entity := [blogPost, author, comment, tag, reply]

/-- The keys of an article, a thread and a digest that a record holds. -/
def Entity.parents : (e : Entity) → e.Record → Option Uuid × Option UInt64 × Option UInt64
  | comment, (r : CommentRecord) => (r.articleId, none, none)
  | reply, (r : ReplyRecord) => (none, r.threadId, r.digestId)
  | blogPost, _ | author, _ | tag, _ | article, _ | thread, _ | digest, _ => (none, none, none)

variable {e : Entity} {row other : Record e} {m : e.Message}

theorem links_leaf (leaf : e ∈ Entity.leaves) : Bindings.links e = [] := by
  cases e with
  | blogPost | author | comment | tag | reply => rfl
  | article | thread | digest => exact absurd leaf (by decide)

/-! ## Readable rows -/

/-- The flags of comments read back, whatever other messages are stored. -/
def legible : Discipline Entity := { faithful with
  admits := fun _ _ => True
  allows := fun _ kind row => kind = .record .comment → Faithful kind row
  allows_mono := fun _ h => h
  allows_setKey := fun _ h comments => faithful_setKey _ (h comments)
  record := fun _ _ h comments => by
    cases comments
    exact faithful_of_fillRecord trivial h
  message := fun _ _ => trivial
  keep := fun hk _ h comments => faithful_keepParents hk (h comments)
  masked := fun _ _ _ => trivial
  get_reference := fun _ _ _ _ => trivial
  set_reference := fun _ _ => trivial
  assign := fun {s e link row target} hl _ _ => forall_reference
    (P := fun e link => ∀ (row : e.Record) t, Kind.record e = .record .comment →
      Faithful (.record e) (link.assign t row)) (fun _ _ comments => nomatch comments) hl row target
  get_children := fun _ _ _ _ => trivial
  set_children := fun _ _ => trivial
  attach := fun {s e link parent row} hl _ _ h => forall_children
    (P := fun e link => ∀ (parent : e.Record) row, (Kind.record link.target = .record .comment →
      Faithful (.record link.target) row) → Kind.record link.target = .record .comment →
        Faithful (.record link.target) (link.attach parent row))
    (fun _ _ h comments => h comments) (fun _ _ _ _ => trivial) (fun _ _ _ _ => trivial) hl parent row h
  get_joined := fun _ _ _ _ => trivial
  set_joined := fun _ _ => trivial
  join := fun {s e link owner target} hl _ _ _ _ => forall_joined
    (P := fun e link => ∀ owner target, Faithful link.join (link.link owner target))
    (fun _ _ => trivial) (fun _ _ => trivial) (fun _ _ => trivial) (fun _ _ => trivial) hl owner target }

theorem legible_run (fresh : Nat → Uuid) (calls : List (Context × Call Entity)) :
    legible.Inv (run (Store.empty fresh : Store Kind) calls) := by
  refine (legible.inv_empty_run fresh (fun call _ => .of_forall (fun _ _ => trivial) call.2) fun call _ => ?_).1
  cases call.2 <;> trivial

theorem exists_reverts_leaf (leaf : e ∈ Entity.leaves) {s : Store Kind} (inv : legible.Inv s)
    (hr : row ∈ s.rows (table e)) : ∃ m, Reverts e row m := by
  cases e with
  | comment => exact (fillMessage_faithful (inv.allowed hr rfl)).imp fun _ h => h.1
  | blogPost | author | tag | reply => exact ⟨_, rfl⟩
  | article | thread | digest => exact absurd leaf (by decide)

/-! ## Rows of messages without links -/

theorem exists_converts_leaf (leaf : e ∈ Entity.leaves) (m : e.Message) : ∃ row, Converts e m row := by
  cases e with
  | blogPost | author | comment | tag | reply => exact ⟨_, rfl⟩
  | article | thread | digest => exact absurd leaf (by decide)

/-- A record with the keys of the stored one is the stored one with the fields of its message. -/
theorem fillRecord_leaf (leaf : e ∈ Entity.leaves) (converts : Converts e m other) :
    e.fillRecord m row = .ok (kept row other) := by
  cases e with
  | blogPost | author | comment | tag | reply =>
    cases converts
    rfl
  | article | thread | digest => exact absurd leaf (by decide)

theorem parents_kept : e.parents (kept row other) = e.parents row := by
  cases e <;> rfl

theorem key_kept : (record (table e)).key (kept row other) = (record (table e)).key other := by
  cases e <;> rfl

theorem reverts_leaf (leaf : e ∈ Entity.leaves) (converts : Converts e m other) : Reverts e (kept row other) m := by
  cases e with
  | comment =>
    cases converts
    show fillComment (kept row _) default = _
    simp only [fillComment, kept, Bindings.keepParents?, Entity.keepParents?, Option.elim, keepArticle,
      fillCommentRecord, ofJson_texts, bind, Except.bind, pure, Except.pure]
  | blogPost | author | tag | reply =>
    cases converts
    rfl
  | article | thread | digest => exact absurd leaf (by decide)

/-- Rows of one key value have one key. -/
theorem key_leaf (leaf : e ∈ Entity.leaves) (same : key row = key other) :
    (record (table e)).key row = (record (table e)).key other := by
  cases e with
  | blogPost | author | comment | reply => exact Value.uint.inj same
  | tag => exact Value.string.inj same
  | article | thread | digest => exact absurd leaf (by decide)

/-- The message of a row without links has the key of the row. -/
theorem converts_keyOnly_leaf (leaf : e ∈ Entity.leaves) (reverts : Reverts e row m) :
    ∃ keyRow, Converts e (Bindings.keyOnly e m) keyRow ∧
      (record (table e)).key keyRow = (record (table e)).key row := by
  cases e with
  | comment =>
    obtain ⟨flags, -, rfl⟩ := fillComment_ok reverts
    exact ⟨_, rfl, rfl⟩
  | blogPost | author | tag | reply =>
    cases reverts
    exact ⟨_, rfl, rfl⟩
  | article | thread | digest => exact absurd leaf (by decide)

/-- A mask takes no other key from a message of the same key. -/
theorem key_taken (leaf : e ∈ Entity.leaves) {input current : e.Message} {keyRow keyRow' : Record e}
    (keys : Converts e (Bindings.keyOnly e input) keyRow) (keys' : Converts e (Bindings.keyOnly e current) keyRow')
    (same : (record (table e)).key keyRow = (record (table e)).key keyRow') {names : Finset String}
    (converts : Converts e (e.taken names input current) other) :
    (record (table e)).key other = (record (table e)).key keyRow := by
  cases e with
  | blogPost | author | comment | tag | reply =>
    cases keys
    cases keys'
    cases converts
    exact (congrArg (Mask.pick names "Id" _) same.symm).trans (Mask.pick_self _)
  | article | thread | digest => exact absurd leaf (by decide)

/-! ## Patches -/

/-- What the patch of a message without links leaves of a row, and what it answers. -/
structure Patched (s last : Store Kind) (e : Entity) (row updated : Record e) (value : e.Message) : Prop where
  /-- The row has the fields of the answer. -/
  filled : e.fillRecord value row = .ok updated
  parents : e.parents updated = e.parents row
  /-- It is in the place of the old row. -/
  placed : ∃ before after,
    s.rows (table e) = before ++ row :: after ∧ last.rows (table e) = before ++ updated :: after
  others (kind : Kind) : kind ≠ table e → last.rows kind = s.rows kind
  /-- The answer is read again. -/
  read (asked : e.Message) (other : Record e) : Converts e asked other → key other = key row →
    (Operations.read Hooks.none e (some asked) none).Yields last (.ok value) last

variable {s : Store Kind} {input : e.Message} {keyRow : Record e}

theorem patched_upsert (leaf : e ∈ Entity.leaves) (distinct : s.Distinct) (hr : row ∈ s.rows (table e))
    {updated : Record e} {value : e.Message} (filled : e.fillRecord value row = .ok updated)
    (parents : e.parents updated = e.parents row)
    (same : (record (table e)).key updated = (record (table e)).key row)
    (keyed : (record (table e)).keyIsEmpty updated = false) (reverts : Reverts e updated value) :
    Patched s ((s.see (key updated)).upsert (table e) updated) e row updated value := by
  obtain ⟨before, after, split⟩ := List.append_of_mem hr
  have sameKey : key updated = key row := congrArg (record (table e)).rowKey.toValue same
  have nodup : ((before ++ row :: after).map key).Nodup := split ▸ distinct (table e)
  refine ⟨filled, parents, ⟨before, after, split, ?_⟩, fun kind apart => rows_upsert_of_ne _ apart,
    fun asked other asks found => ?_⟩
  · rw [rows_upsert, rows_see, split, replaceOrAdd_append nodup sameKey]
  · have alive : Context.unlimited.check = .ok () := rfl
    have seen : (s.see (key updated)).Distinct := distinct.of_rows rfl
    have stays : ((s.see (key updated)).upsert (table e) updated).Distinct := seen.upsert updated
    have there : updated ∈ ((s.see (key updated)).upsert (table e) updated).rows (table e) := by
      rw [rows_upsert]
      exact mem_replaceOrAdd_self
    have responds : Responds .unlimited ((s.see (key updated)).upsert (table e) updated) updated value :=
      (responds_leaf (links_leaf leaf)).mpr reverts
    have answers : (Operations.read Hooks.none e (some asked) none).Answers
        ⟨(s.see (key updated)).upsert (table e) updated, .unlimited, ()⟩
        (Reads .unlimited ((s.see (key updated)).upsert (table e) updated) e asked none) := read_answers none
    refine (interruptible_read (e := e) (some asked) none).yields_of_eq ((answers value _).mpr ⟨?_, rfl⟩)
    exact reads_of_responds stays alive alive there keyed asks (key_leaf leaf (found.trans sameKey.symm))
      responds

/-- A patch of a stored row takes what the mask names from the input, and all else from the row. -/
theorem patch_row (leaf : e ∈ Entity.leaves) (inv : legible.Inv s)
    (hr : row ∈ s.rows (table e)) (keys : Converts e (Bindings.keyOnly e input) keyRow)
    (keyed : (record (table e)).keyIsEmpty keyRow = false) (found : key row = key keyRow) (mask : List String) :
    ∃ current updated last, Reverts e row current ∧
      (patch Hooks.none e (some input) mask).Yields s (.ok (e.taken (Mask.rests "" mask) input current)) last ∧
      Patched s last e row updated (e.taken (Mask.rests "" mask) input current) := by
  obtain ⟨current, reverts⟩ := exists_reverts_leaf leaf inv hr
  obtain ⟨currentKey, currentKeys, sameCurrent⟩ := converts_keyOnly_leaf leaf reverts
  obtain ⟨other, converts⟩ := exists_converts_leaf leaf (e.taken (Mask.rests "" mask) input current)
  have same : (record (table e)).key keyRow = (record (table e)).key row := key_leaf leaf found.symm
  have sameOther : (record (table e)).key other = (record (table e)).key row :=
    (key_taken leaf keys currentKeys (same.trans sameCurrent.symm) converts).trans same
  have sameKept : (record (table e)).key (kept row other) = (record (table e)).key row := key_kept.trans sameOther
  have keyedRow : (record (table e)).keyIsEmpty row = false := by
    rwa [RecordType.keyIsEmpty, ← same]
  have keyedKept : (record (table e)).keyIsEmpty (kept row other) = false := by
    rwa [RecordType.keyIsEmpty, sameKept]
  have again : Reverts e (kept row other) _ := reverts_leaf leaf converts
  refine ⟨current, _, _, reverts, ?_, patched_upsert leaf inv.distinct hr (fillRecord_leaf leaf converts)
    parents_kept sameKept keyedKept again⟩
  rw [← Entity.apply_mask] at converts again ⊢
  exact (interruptible_patch (e := e) (some input) mask).yields_of_eq (patch_leaf (links_leaf leaf) inv.distinct rfl
    hr keyedRow keys same reverts converts sameOther keyedKept again)

theorem key_of_converts_comment {id : UInt64} {body : String} {keyRow : Record Entity.comment}
    (keys : Converts Entity.comment (Bindings.keyOnly Entity.comment (⟨id, body, []⟩ : Comment)) keyRow) :
    (record (table Entity.comment)).keyIsEmpty keyRow = (id == 0) ∧ key keyRow = .uint id := by
  cases keys
  exact ⟨rfl, rfl⟩

/-- In every store that calls leave, a patch of a message without links with a key fails and changes nothing
if no row has the key. Otherwise it answers the message of the row with what the mask names taken from the
input, and stores it in place of the row; the keys of parents and all other rows stay. -/
theorem patch_exact (fresh : Nat → Uuid) (calls : List (Context × Call Entity)) (e : Entity)
    (leaf : e ∈ Entity.leaves) (input : e.Message) (mask : List String) :
    let store : Store Kind := run (Store.empty fresh) calls
    let patching : Action Kind Unit e.Message := patch Hooks.none e (some input) mask
    ∃ keyRow, Converts e (Bindings.keyOnly e input) keyRow ∧
      ((record (table e)).keyIsEmpty keyRow = false →
        ((∀ row ∈ store.rows (table e), key row ≠ key keyRow) →
          patching.Yields store (.error .notFound) store) ∧
        ∀ row ∈ store.rows (table e), key row = key keyRow →
          ∃ current updated last, Reverts e row current ∧
            patching.Yields store (.ok (e.taken (Mask.rests "" mask) input current)) last ∧
            Patched store last e row updated (e.taken (Mask.rests "" mask) input current)) := by
  intro store patching
  obtain ⟨keyRow, keys⟩ := exists_converts_leaf leaf (Bindings.keyOnly e input)
  refine ⟨keyRow, keys, fun keyed => ⟨fun unused => ?_, fun row hr found => ?_⟩⟩
  · exact (interruptible_patch (e := e) (some input) mask).yields_of_eq
      (patch_not_found rfl keys keyed unused mask)
  · exact patch_row leaf (legible_run fresh calls) hr keys keyed found mask

/-- The body of the comment that `draftCalls` store is replaced. Its flags and its article stay. -/
theorem patch_exact_draft :
    let store : Store Kind := run (Store.empty oddUuid) draftCalls
    let row : CommentRecord := ⟨3, "Yes.", "[\"new\"]", some (oddUuid 1)⟩
    store.rows (table Entity.comment) = [row] ∧
      patch Hooks.none Entity.comment (some (⟨5, "No.", []⟩ : Comment)) ["Body"] ⟨store, .unlimited, ()⟩ =
        (.error .notFound, ⟨store, .unlimited, ()⟩) ∧
      ∃ last, patch Hooks.none Entity.comment (some (⟨3, "No.", []⟩ : Comment)) ["Body", "Nope"]
          ⟨store, .unlimited, ()⟩ = (.ok (⟨3, "No.", ["new"]⟩ : Comment), ⟨last, .unlimited, ()⟩) ∧
        last.rows (table Entity.comment) = [({ row with body := "No." } : CommentRecord)] ∧
        last.rows .articleTag = store.rows .articleTag := by
  intro store row
  have rows : store.rows (table Entity.comment) = [row] := by decide +kernel
  have same : run (Store.empty oddUuid) draftCalls = store := rfl
  obtain ⟨_, missingKey, missing⟩ := patch_exact oddUuid draftCalls .comment (by decide)
    (⟨5, "No.", []⟩ : Comment) ["Body"]
  obtain ⟨_, presentKey, present⟩ := patch_exact oddUuid draftCalls .comment (by decide)
    (⟨3, "No.", []⟩ : Comment) ["Body", "Nope"]
  obtain ⟨missingKeyed, missingValue⟩ := key_of_converts_comment missingKey
  obtain ⟨presentKeyed, presentValue⟩ := key_of_converts_comment presentKey
  rw [same, rows] at missing present
  -- From here on the run is not to be unfolded.
  clear same
  clear_value store
  have absent := (missing missingKeyed).1 fun x hx same => by
    rw [List.mem_singleton.mp hx, missingValue] at same
    cases same
  obtain ⟨current, updated, last, reverts, patches, patched⟩ :=
    (present presentKeyed).2 row (List.mem_singleton_self row) presentValue.symm
  have read : (fillComment row default).toOption = some ⟨3, "Yes.", ["new"]⟩ := by decide +kernel
  obtain rfl : current = ⟨3, "Yes.", ["new"]⟩ :=
    Option.some.inj ((congrArg Except.toOption reverts).symm.trans read)
  have taken : Entity.comment.taken (Mask.rests "" ["Body", "Nope"]) (⟨3, "No.", []⟩ : Comment)
      (⟨3, "Yes.", ["new"]⟩ : Comment) = (⟨3, "No.", ["new"]⟩ : Comment) :=
    Comment.ext rfl (by decide +kernel) (by decide +kernel)
  have flags : texts.encode ["new"] = "[\"new\"]" := by decide +kernel
  rw [taken] at patches patched
  have filled : ({ row with body := "No.", flags := texts.encode ["new"] } : CommentRecord) = updated :=
    Except.ok.inj patched.filled
  rw [flags] at filled
  obtain ⟨before, after, split, placed⟩ := patched.placed
  obtain ⟨rfl, rfl⟩ : before = [] ∧ after = [] := by
    rw [rows] at split
    cases before with
    | nil => exact ⟨rfl, (List.cons.inj split).2.symm⟩
    | cons x before =>
      exact absurd (List.cons.inj split).2.symm (List.append_ne_nil_of_right_ne_nil _ (List.cons_ne_nil _ _))
  exact ⟨rows, absent.unlimited, last, patches.unlimited, placed.trans (congrArg (fun r => [r]) filled.symm),
    patched.others .articleTag (by decide)⟩

end ProtoStore.Blog
