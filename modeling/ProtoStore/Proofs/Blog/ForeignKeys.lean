import ProtoStore.Proofs.Blog.Conversion
import ProtoStore.Proofs.Blog.Links
import ProtoStore.Proofs.Domain.Frame
import ProtoStore.Proofs.Domain.Lasting

/-!
# Keys of parents

Replies hold the keys of a thread and of a digest, comments that of an article. A call that stores a
message leaves these keys in all rows it does not save; `foreign_keys_kept_iff` says which of them stay
in the rows it does save. A strict update of a reply keeps both of its keys, but a thread saves its
replies without the key of a digest (`digest_lost_by_thread`).

* `Upsert` : a call that creates, updates or patches;
* `Upsert.savedReplies`, `Upsert.savedComments` : the rows that it saves;
* `Overwrites` : rows are lost, or saved over.
-/

namespace ProtoStore.Blog

open Domain Store Operations

/-! ## Calls that store a message -/

/-- A call that creates, updates or patches. -/
inductive Upsert (e : Entity)
  | create (m : e.Message)
  | strictUpdate (m : e.Message)
  | patch (m : e.Message) (mask : List String)

namespace Upsert

variable {e : Entity}

/-- The call as one of a run. -/
def call : Upsert e → Call Entity
  | create m => .create e (some m)
  | strictUpdate m => .strictUpdate e (some m)
  | patch m mask => .patch e (some m) mask

/-- The message that is stored: what is given, merged into the stored message by a patch. -/
def message (s : Store Kind) (context : Context) : Upsert e → Option e.Message
  | create m | strictUpdate m => some m
  | patch m mask =>
    match (Operations.read Hooks.none e (some (e.keyOnly m)) none ⟨s, context, ()⟩).1 with
    | .ok current => some (Mask.apply e.maskFields mask "" m current)
    | .error _ => none

end Upsert

/-! ## Rows with numbers as keys -/

/-- The number under which a row with a number is stored. -/
def numberFor (sequence : Nat) (id : UInt64) : UInt64 := if id = 0 then .ofNat (sequence + 1) else id

/-- The running number after that. -/
def numberAfter (sequence : Nat) (id : UInt64) : Nat :=
  if id = 0 then sequence + 1 else reach sequence id

/-- A kind of rows whose keys are numbers. -/
structure Numbered (kind : Kind) where
  id : Row kind → UInt64
  put : UInt64 → Row kind → Row kind
  isEmpty (row : Row kind) : (record kind).keyIsEmpty row = (id row == 0)
  value (row : Row kind) : key row = .uint (id row)
  withNewKey (n : UInt64) (fresh : Uuid) (row : Row kind) :
    (record kind).withNewKey? n fresh row = some (put n row)
  put_id (row : Row kind) : put (id row) row = row
  id_put (n : UInt64) (row : Row kind) : id (put n row) = n

/-- Comments have numbers. -/
def numberedComments : Numbered (.record .comment) where
  id (r : CommentRecord) := r.id
  put n (r : CommentRecord) := { r with id := n }
  isEmpty _ := rfl
  value _ := rfl
  withNewKey _ _ _ := rfl
  put_id _ := rfl
  id_put _ _ := rfl

/-- Replies have numbers. -/
def numberedReplies : Numbered (.record .reply) where
  id (r : ReplyRecord) := r.id
  put n (r : ReplyRecord) := { r with id := n }
  isEmpty _ := rfl
  value _ := rfl
  withNewKey _ _ _ := rfl
  put_id _ := rfl
  id_put _ _ := rfl

/-- Threads have numbers. -/
def numberedThreads : Numbered (.record .thread) where
  id (r : ThreadRecord) := r.id
  put n (r : ThreadRecord) := { r with id := n }
  isEmpty _ := rfl
  value _ := rfl
  withNewKey _ _ _ := rfl
  put_id _ := rfl
  id_put _ _ := rfl

namespace Numbered

variable {kind : Kind} (N : Numbered kind) {s t after : Store Kind} {row written : Row kind}
  {context : Context}

theorem key_eq_iff {a b : Row kind} : key a = key b ↔ N.id a = N.id b := by
  rw [N.value, N.value, Value.uint.injEq]

/-- A row under the number it gets. -/
def under (sequence : Nat) (row : Row kind) : Row kind := N.put (numberFor sequence (N.id row)) row

theorem assignKey_ok (h : s.assignKey kind row = (after, .ok written)) :
    written = N.under s.sequence row ∧ after.sequence = numberAfter s.sequence (N.id row) := by
  by_cases h0 : N.id row = 0
  · have empty : (record kind).keyIsEmpty row = true := by rw [N.isEmpty, h0]; rfl
    rw [assignKey_of_empty empty, Prod.mk.injEq] at h
    obtain ⟨rfl, new⟩ := h
    have room := (newKey_ok new).1
    rw [newKey_of_room room, N.withNewKey] at new
    obtain rfl := Except.ok.inj new
    exact ⟨by rw [under, numberFor, if_pos h0], by rw [numberAfter, if_pos h0]; rfl⟩
  · have keyed : (record kind).keyIsEmpty row = false := by
      rw [N.isEmpty]
      exact beq_false_of_ne h0
    rw [assignKey_of_keyed keyed, Prod.mk.injEq, Except.ok.injEq] at h
    obtain ⟨rfl, rfl⟩ := h
    refine ⟨by rw [under, numberFor, if_neg h0, N.put_id], ?_⟩
    rw [numberAfter, if_neg h0, see, N.value]
    rfl

theorem save_ok (h : s.save context kind row = ⟨t, written, .ok ()⟩) :
    written = N.under s.sequence row ∧ t.sequence = numberAfter s.sequence (N.id row) ∧
      t.rows kind = replaceOrAdd written (s.rows kind) := by
  obtain ⟨-, after, hk, rfl⟩ := Store.save_ok.mp h
  obtain ⟨hw, hs⟩ := N.assignKey_ok hk
  exact ⟨hw, by rw [sequence_upsert, hs], by rw [rows_upsert, rows_of_assignKey hk]⟩

theorem create_ok (h : s.create context kind row = ⟨t, written, .ok ()⟩) :
    written = N.under s.sequence row ∧ t.sequence = numberAfter s.sequence (N.id row) ∧
      key written ∉ (s.rows kind).map key ∧ t.rows kind = s.rows kind ++ [written] := by
  obtain ⟨-, hn, after, hk, rfl⟩ := Store.create_ok.mp h
  obtain ⟨hw, hs⟩ := N.assignKey_ok hk
  exact ⟨hw, hs, hn, by rw [rows_push, rows_of_assignKey hk]⟩

/-- Rows under the numbers they get one after the other. -/
def underAll : Nat → List (Row kind) → List (Row kind)
  | _, [] => []
  | n, row :: rest => N.under n row :: underAll (numberAfter n (N.id row)) rest

theorem saveAll_ok {attach : Row kind → Row kind} {rows more : List (Row kind)}
    (h : saveAll context kind attach s rows = ⟨t, more, .ok ()⟩) :
    t.rows kind = putAll (s.rows kind) (N.underAll s.sequence (rows.map attach)) := by
  induction rows generalizing s context more with
  | nil =>
    cases h
    rfl
  | cons row rest ih =>
    cases more with
    | nil =>
      rw [saveAll] at h
      split at h <;> cases h
    | cons written more =>
      obtain ⟨u, hs, hr⟩ := saveAll_cons_ok.mp h
      obtain ⟨rfl, hu, hrows⟩ := N.save_ok hs
      rw [ih hr, hu, hrows]
      rfl

/-- Rows that agree in what the number does not change agree under their numbers. -/
theorem forall_mem_underAll {P : Row kind → Prop} {rows : List (Row kind)} (sequence : Nat)
    (hp : ∀ n row, P row → P (N.put n row)) (h : ∀ row ∈ rows, P row) :
    ∀ row ∈ N.underAll sequence rows, P row := by
  induction rows generalizing sequence with
  | nil => exact fun _ hm => nomatch hm
  | cons first rest ih =>
    rw [underAll, List.forall_mem_cons]
    rw [List.forall_mem_cons] at h
    exact ⟨hp _ _ h.1, ih _ h.2⟩

end Numbered

/-! ## Rows saved by a call -/

/-- The record of a reply. -/
def replyRecord (m : Reply) : ReplyRecord := ⟨m.id, m.text, none, none⟩

/-- The record of a comment. -/
def commentRecord (m : Comment) : CommentRecord := ⟨m.id, m.body, texts.encode m.flags, none⟩

namespace Upsert

/-- The reply that a call on a reply saves. An update takes over the keys of parents. -/
def savedReply (s : Store Kind) (m : Reply) : Upsert .reply → ReplyRecord
  | create _ => numberedReplies.under s.sequence (replyRecord m)
  | strictUpdate _ | patch _ _ =>
    numberedReplies.under s.sequence
      (((s.rows (.record .reply)).find? fun other : ReplyRecord => other.id == m.id).elim
        (replyRecord m) fun stored => keepThreadAndDigest stored (replyRecord m))

/-- The replies that a call saves. -/
def savedReplies (s : Store Kind) : {e : Entity} → Upsert e → e.Message → List ReplyRecord
  | .reply, u, m => [u.savedReply s m]
  | .thread, _, (m : Thread) =>
    numberedReplies.underAll (numberAfter s.sequence m.id) (m.replies.map fun reply =>
      { replyRecord reply with threadId := some (numberFor s.sequence m.id) })
  | .blogPost, _, _ | .author, _, _ | .comment, _, _ | .tag, _, _ | .article, _, _
  | .digest, _, _ => []

/-- The comment that a call on a comment saves. An update takes over the key of the article. -/
def savedComment (s : Store Kind) (m : Comment) : Upsert .comment → CommentRecord
  | create _ => numberedComments.under s.sequence (commentRecord m)
  | strictUpdate _ | patch _ _ =>
    numberedComments.under s.sequence
      (((s.rows (.record .comment)).find? fun other : CommentRecord => other.id == m.id).elim
        (commentRecord m) fun stored => keepArticle stored (commentRecord m))

/-- The comments that a call saves, unless it is one on an article. -/
def savedComments (s : Store Kind) : {e : Entity} → Upsert e → e.Message → List CommentRecord
  | .comment, u, m => [u.savedComment s m]
  | .blogPost, _, _ | .author, _, _ | .tag, _, _ | .article, _, _ | .reply, _, _ | .thread, _, _
  | .digest, _, _ => []

end Upsert

/-! ## Rows saved over -/

/-- Of some rows, others are saved and the rest stays or is lost. -/
def Overwrites {kind : Kind} (rows written after : List (Row kind)) : Prop :=
  ∀ x ∈ after, x ∈ written ∨ x ∈ rows ∧ key x ∉ written.map key

namespace Overwrites

variable {kind : Kind} {rows part written after : List (Row kind)} {row : Row kind}

theorem of_sublist (h : after.Sublist rows) : Overwrites rows [] after :=
  fun _ hx => Or.inr ⟨h.subset hx, List.not_mem_nil⟩

theorem of_replaceOrAdd (hd : (rows.map key).Nodup) :
    Overwrites rows [row] (replaceOrAdd row rows) := by
  intro x hx
  rcases (mem_replaceOrAdd hd).mp hx with rfl | ⟨hm, hk⟩
  · exact Or.inl (List.mem_singleton_self x)
  · exact Or.inr ⟨hm, fun h => hk (List.mem_singleton.mp h)⟩

theorem of_append (hn : key row ∉ rows.map key) : Overwrites rows [row] (rows ++ [row]) := by
  intro x hx
  rcases List.mem_append.mp hx with hx | hx
  · exact Or.inr ⟨hx, fun h => hn (List.mem_singleton.mp h ▸ List.mem_map_of_mem hx)⟩
  · exact Or.inl hx

theorem of_putAll (hd : (rows.map key).Nodup) (hp : part.Sublist rows) :
    Overwrites rows written (putAll part written) := by
  intro x hx
  exact (mem_or_of_mem_putAll (hd.sublist (hp.map key)) hx).imp id fun ⟨hm, hn⟩ => ⟨hp.subset hm, hn⟩

/-- What rows hold stays where the rows saved over them hold the same. -/
theorem kept_iff (N : Numbered kind) {A : Type} {f : Row kind → A} {x : Row kind}
    (h : Overwrites rows written after) (hd : (rows.map key).Nodup)
    (hw : ∀ a ∈ written, ∀ b ∈ written, f a = f b) (hr : row ∈ rows) (hx : x ∈ after)
    (hk : N.id x = N.id row) : f x = f row ↔ ∀ w ∈ written, N.id w = N.id row → f w = f row := by
  rcases h x hx with hm | ⟨hm, hn⟩
  · exact ⟨fun hf w hw' _ => (hw w hw' x hm).trans hf, fun hf => hf x hm hk⟩
  · obtain rfl : x = row := eq_of_key hd hm hr (N.key_eq_iff.mpr hk)
    refine ⟨fun _ w hw' hkw => absurd ?_ hn, fun _ => rfl⟩
    rw [← N.key_eq_iff.mpr hkw]
    exact List.mem_map_of_mem hw'

end Overwrites

/-! ## Rows of links -/

section

variable {e : Entity} {m : e.Message} {pending : List (Pending e)}

theorem replies_not_mem_writes (he : e ≠ .thread)
    (hc : List.Forall₂ (Collected m) (Bindings.links e) pending) :
    ∀ p ∈ pending, Kind.record .reply ∉ p.writes := by
  have hn : Kind.record .reply ∉ e.linkedKinds := by
    cases e <;> first | exact absurd rfl he | decide
  exact fun p hp h => hn (mem_linkedKinds_of_writes hc p hp _ h)

theorem comments_not_mem_writes (he : e ≠ .article)
    (hc : List.Forall₂ (Collected m) (Bindings.links e) pending) :
    ∀ p ∈ pending, Kind.record .comment ∉ p.writes := by
  have hn : Kind.record .comment ∉ e.linkedKinds := by
    cases e <;> first | exact absurd rfl he | decide
  exact fun p hp h => hn (mem_linkedKinds_of_writes hc p hp _ h)

end

/-! ## Children -/

/-- The children of a row, saved one after the other. -/
theorem rows_saveCollections_children {e : Entity} (link : Children e)
    (N : Numbered (table link.target)) {rows : List (Record link.target)} {rest : List (Pending e)}
    {row : Record e} {s : Store Kind} {context : Context} {last : World Kind Unit}
    (hs : link.strategy ≠ .clear) (apart : ∀ p ∈ rest, table link.target ∉ p.writes)
    (h : saveCollections (.children link rows :: rest) row ⟨s, context, ()⟩ = (.ok (), last)) :
    last.store.rows (table link.target) = putAll (s.rows (table link.target))
      (N.underAll s.sequence (rows.map (link.attach row))) := by
  obtain ⟨_, middle, first, others⟩ := Action.bind_ok.mp h
  obtain ⟨more, after, wrote, done⟩ := Action.bind_ok.mp first
  obtain ⟨u, saves, rfl⟩ := Action.write_ok.mp wrote
  obtain ⟨-, rfl⟩ := Action.pure_ok.mp done
  unfold saveChildren at saves
  rw [if_neg hs] at saves
  have same : SameIn (table link.target) u last.store := sameIn_of_saveCollections apart others
  rw [same, N.saveAll_ok saves]

/-! ## Replies of threads -/

section Thread

variable {m : Thread} {s t : Store Kind} {context : Context} {written : ThreadRecord}
  {pending : List (Pending Entity.thread)}

/-- The replies of a thread, saved one after the other. -/
theorem rows_saveCollections_thread {last : World Kind Unit}
    (hc : List.Forall₂ (Collected (e := Entity.thread) m) (Bindings.links Entity.thread) pending)
    (h : saveCollections pending (written : Record Entity.thread) ⟨s, context, ()⟩ = (.ok (), last)) :
    last.store.rows (.record .reply) = putAll (s.rows (.record .reply))
      (numberedReplies.underAll s.sequence (m.replies.map fun reply =>
        { replyRecord reply with threadId := some written.id })) := by
  obtain ⟨rows, topics, rfl, hr, -⟩ := collected_thread hc
  obtain rfl : rows = m.replies.map replyRecord := rows_of_converts (fun _ => rfl) hr
  have writes : (Pending.joined threadTopics topics).writes = [.record .tag, .threadTopic] := rfl
  have apart : ∀ p ∈ [Pending.joined threadTopics topics], Kind.record .reply ∉ p.writes := by
    refine List.forall_mem_singleton.mpr ?_
    rw [writes]
    decide
  have saved : last.store.rows (.record .reply) = putAll (s.rows (.record .reply))
      (numberedReplies.underAll s.sequence ((m.replies.map replyRecord).map fun row : ReplyRecord =>
        { row with threadId := some written.id })) :=
    rows_saveCollections_children threadReplies numberedReplies (by decide) apart h
  rw [saved, List.map_map]
  rfl

theorem overwrites_of_saveCollections {saved : Store Kind} {last : World Kind Unit}
    (hd : s.Distinct) (hp : (saved.rows (.record .reply)).Sublist (s.rows (.record .reply)))
    (hn : saved.sequence = numberAfter s.sequence m.id)
    (hw : written = numberedThreads.under s.sequence (⟨m.id, m.title⟩ : ThreadRecord))
    (hc : List.Forall₂ (Collected (e := Entity.thread) m) (Bindings.links Entity.thread) pending)
    (h : saveCollections pending (written : Record Entity.thread) ⟨saved, context, ()⟩ =
      (.ok (), last)) (u : Upsert .thread) :
    Overwrites (s.rows (.record .reply)) (u.savedReplies s m)
      (last.store.rows (.record .reply)) := by
  rw [rows_saveCollections_thread hc h, hn, hw]
  exact Overwrites.of_putAll (hd _) hp

/-- A thread is saved under its number or the next one. -/
theorem saved_of_update_thread {upserted : Upserted Thread}
    (c : Update context Entity.thread m s t upserted) :
    c.referred = s ∧ c.prepared = (⟨m.id, m.title⟩ : ThreadRecord) ∧
      c.written = numberedThreads.under s.sequence (⟨m.id, m.title⟩ : ThreadRecord) ∧
        c.saved.sequence = numberAfter s.sequence m.id := by
  obtain ⟨row, pending, locked, prepared, written, referred, pruned, saved, converts, collected, locks,
    prepares, prunes, saves, links, -⟩ := c
  obtain ⟨_, -, locks⟩ := locks
  obtain ⟨-, rfl⟩ := Prod.mk.inj locks
  cases converts
  have drops : Drops referred pruned := drops_of_prune prunes
  obtain ⟨rows, topics, rfl, -, -⟩ := collected_thread collected
  cases prepares
  obtain ⟨hw, hn, -⟩ := numberedThreads.save_ok saves
  rw [drops.sequence] at hw hn
  exact ⟨rfl, rfl, hw, hn⟩

theorem created_of_creation_thread {value : Thread} (c : Creation context Entity.thread m s t value) :
    c.referred = s ∧ c.written = numberedThreads.under s.sequence (⟨m.id, m.title⟩ : ThreadRecord) ∧
      c.created.sequence = numberAfter s.sequence m.id := by
  obtain ⟨row, pending, prepared, written, referred, created, converts, collected, prepares, creates,
    links, -⟩ := c
  cases converts
  obtain ⟨rows, topics, rfl, -, -⟩ := collected_thread collected
  cases prepares
  obtain ⟨hw, hn, -, -⟩ := numberedThreads.create_ok creates
  exact ⟨rfl, hw, hn⟩

theorem overwrites_of_update_thread {upserted : Upserted Thread} (hd : s.Distinct)
    (c : Update context Entity.thread m s t upserted) (u : Upsert .thread) :
    Overwrites (s.rows (.record .reply)) (u.savedReplies s m) (t.rows (.record .reply)) := by
  obtain ⟨referred, -, written, sequence⟩ := saved_of_update_thread c
  have pruned : (c.saved.rows (.record .reply)).Sublist (s.rows (.record .reply)) := by
    have drops : Drops c.referred c.pruned := drops_of_prune c.prunes
    have sub := drops.rows (.record .reply)
    rwa [referred, ← c.rows_saved (by decide)] at sub
  exact overwrites_of_saveCollections hd pruned sequence written c.collected c.links u

theorem overwrites_of_creation_thread {value : Thread} (hd : s.Distinct)
    (c : Creation context Entity.thread m s t value) (u : Upsert .thread) :
    Overwrites (s.rows (.record .reply)) (u.savedReplies s m) (t.rows (.record .reply)) := by
  obtain ⟨referred, written, sequence⟩ := created_of_creation_thread c
  have same : c.created.rows (.record .reply) = s.rows (.record .reply) := by
    rw [c.rows_created (by decide), referred]
  exact overwrites_of_saveCollections hd (same ▸ List.Sublist.refl _) sequence written c.collected
    c.links u

end Thread

/-! ## Replies and comments by themselves -/

section Leaf

variable {s t : Store Kind} {context : Context}

theorem overwrites_of_save {kind : Kind} (N : Numbered kind) {row written : Row kind} (hd : s.Distinct)
    (h : s.save context kind row = ⟨t, written, .ok ()⟩) :
    Overwrites (s.rows kind) [N.under s.sequence row] (t.rows kind) := by
  obtain ⟨rfl, -, hr⟩ := N.save_ok h
  rw [hr]
  exact Overwrites.of_replaceOrAdd (hd kind)

theorem overwrites_of_create {kind : Kind} (N : Numbered kind) {row written : Row kind}
    (h : s.create context kind row = ⟨t, written, .ok ()⟩) :
    Overwrites (s.rows kind) [N.under s.sequence row] (t.rows kind) := by
  obtain ⟨rfl, -, hn, hr⟩ := N.create_ok h
  rw [hr]
  exact Overwrites.of_append hn

theorem stored_eq {e : Entity} (N : Numbered (table e)) (row : Record e) :
    stored s e row = (s.rows (table e)).find? fun other => N.id other == N.id row := by
  refine congrArg (fun p => (s.rows (table e)).find? p) (funext fun other => ?_)
  rw [Bool.eq_iff_iff, sameKey_iff, N.key_eq_iff, beq_iff_eq]

theorem overwrites_of_update {e : Entity} (N : Numbered (table e)) {m : e.Message}
    {upserted : Upserted e.Message} {keep : Record e → Record e → Record e} (hd : s.Distinct)
    (hl : Bindings.links e = []) (hk : Bindings.keepParents? e = some keep)
    (c : Update context e m s t upserted) :
    Overwrites (s.rows (table e)) [N.under s.sequence (((s.rows (table e)).find? fun other =>
      N.id other == N.id c.row).elim c.row fun found => keep found c.row)] (t.rows (table e)) := by
  have taken := (Prod.mk.inj ((locks_iff c.alive).mp c.locks)).2
  rw [hk, stored_eq N] at taken
  have saved := overwrites_of_save N hd (c.leaf hl)
  rwa [← taken] at saved

theorem overwrites_of_creation {e : Entity} (N : Numbered (table e)) {m value : e.Message}
    (hl : Bindings.links e = []) (c : Creation context e m s t value) :
    Overwrites (s.rows (table e)) [N.under s.sequence c.row] (t.rows (table e)) :=
  overwrites_of_create N (c.leaf hl)

end Leaf

/-! ## Calls that succeed -/

section Calls

variable {e : Entity} {u : Upsert e} {m : e.Message} {s t : Store Kind} {context : Context}

/-- The course that a call takes which stores a message. -/
def Upsert.Takes (m : e.Message) (s t : Store Kind) : Upsert e → Prop
  | create _ => ∃ value, Nonempty (Creation .unlimited e m s t value)
  | strictUpdate _ | patch _ _ => ∃ upserted, Nonempty (Update .unlimited e m s t upserted)

theorem exists_of_discard {α : Type} {act : Action Kind Unit α} {world : World Kind Unit}
    (h : (discard act world).1 = .ok ()) : ∃ a, act world = (.ok a, (discard act world).2) := by
  change ((act >>= fun _ => pure ()) world).1 = _ at h
  show ∃ a, act world = (.ok a, ((act >>= fun _ => pure ()) world).2)
  rw [Action.bind_apply] at h ⊢
  rcases ha : act world with ⟨_ | a, last⟩
  · rw [ha] at h
    cases h
  · exact ⟨a, rfl⟩

theorem Upsert.takes_of_ok (h : (u.call.act Hooks.none ⟨s, context, ()⟩).1 = .ok ()) :
    ∃ m, u.message s context = some m ∧ u.Takes m s (u.call.after s context) := by
  cases u with
  | create m =>
    obtain ⟨value, hv⟩ := exists_of_discard h
    exact ⟨m, rfl, value, exists_creation hv⟩
  | strictUpdate m =>
    obtain ⟨upserted, hv⟩ := exists_of_discard h
    exact ⟨m, rfl, upserted, exists_update hv⟩
  | patch m mask =>
    obtain ⟨value, hv⟩ := exists_of_discard h
    obtain ⟨current, created, read, -, course⟩ := exists_patch hv
    refine ⟨_, ?_, _, course⟩
    rw [Upsert.message, show (Operations.read Hooks.none e (some (e.keyOnly m)) none ⟨s, context, ()⟩).1 =
      .ok current from read]
    rfl

theorem Upsert.Takes.sublist {kind : Kind} (h : u.Takes m s t) (hk : kind ≠ table e)
    (hw : ∀ pending, List.Forall₂ (Collected m) (Bindings.links e) pending →
      ∀ p ∈ pending, kind ∉ p.writes) : (t.rows kind).Sublist (s.rows kind) := by
  cases u with
  | create _ =>
    obtain ⟨value, ⟨c⟩⟩ := h
    rw [c.rows_eq hk (hw _ c.collected)]
  | strictUpdate _ | patch _ _ =>
    obtain ⟨upserted, ⟨c⟩⟩ := h
    exact c.sublist hk (hw _ c.collected)

theorem overwrites_replies (hd : s.Distinct) (h : u.Takes m s t) :
    Overwrites (s.rows (.record .reply)) (u.savedReplies s m) (t.rows (.record .reply)) := by
  by_cases ht : e = .thread
  · subst ht
    cases u with
    | create _ =>
      obtain ⟨value, ⟨c⟩⟩ := h
      exact overwrites_of_creation_thread hd c _
    | strictUpdate _ | patch _ _ =>
      obtain ⟨upserted, ⟨c⟩⟩ := h
      exact overwrites_of_update_thread hd c _
  by_cases hr : e = .reply
  · subst hr
    cases u with
    | create _ =>
      obtain ⟨value, ⟨c⟩⟩ := h
      have row : c.row = replyRecord m := (Except.ok.inj c.converts).symm
      have saved := overwrites_of_creation numberedReplies rfl c
      rwa [row] at saved
    | strictUpdate _ | patch _ _ =>
      obtain ⟨upserted, ⟨c⟩⟩ := h
      have row : c.row = replyRecord m := (Except.ok.inj c.converts).symm
      have saved := overwrites_of_update numberedReplies hd rfl rfl c
      rwa [row] at saved
  have none : u.savedReplies s m = [] := by
    cases e <;> first | rfl | contradiction
  have other : Kind.record .reply ≠ .record e := fun h => hr (Kind.record.inj h).symm
  rw [none]
  exact Overwrites.of_sublist (h.sublist other fun _ => replies_not_mem_writes ht)

theorem overwrites_comments (hd : s.Distinct) (ha : e ≠ .article) (h : u.Takes m s t) :
    Overwrites (s.rows (.record .comment)) (u.savedComments s m) (t.rows (.record .comment)) := by
  by_cases hc : e = .comment
  · subst hc
    cases u with
    | create _ =>
      obtain ⟨value, ⟨c⟩⟩ := h
      have row : c.row = commentRecord m := (Except.ok.inj c.converts).symm
      have saved := overwrites_of_creation numberedComments rfl c
      rwa [row] at saved
    | strictUpdate _ | patch _ _ =>
      obtain ⟨upserted, ⟨c⟩⟩ := h
      have row : c.row = commentRecord m := (Except.ok.inj c.converts).symm
      have saved := overwrites_of_update numberedComments hd rfl rfl c
      rwa [row] at saved
  have none : u.savedComments s m = [] := by
    cases e <;> first | rfl | contradiction
  have other : Kind.record .comment ≠ .record e := fun h => hc (Kind.record.inj h).symm
  rw [none]
  exact Overwrites.of_sublist (h.sublist other fun _ => comments_not_mem_writes ha)

/-- The rows that a call saves all hold the same keys of parents. -/
theorem savedReplies_agree : ∀ a ∈ u.savedReplies s m, ∀ b ∈ u.savedReplies s m,
    a.digestId = b.digestId ∧ a.threadId = b.threadId := by
  cases e with
  | reply =>
    intro a ha b hb
    rw [List.mem_singleton.mp ha, List.mem_singleton.mp hb]
    exact ⟨rfl, rfl⟩
  | thread =>
    have fixed : ∀ a ∈ u.savedReplies s m,
        a.digestId = none ∧ a.threadId = some (numberFor s.sequence (m : Thread).id) := by
      refine numberedReplies.forall_mem_underAll _ (fun _ _ h => h) fun row hm => ?_
      obtain ⟨reply, -, rfl⟩ := List.mem_map.mp hm
      exact ⟨rfl, rfl⟩
    intro a ha b hb
    obtain ⟨hd, ht⟩ := fixed a ha
    obtain ⟨hd', ht'⟩ := fixed b hb
    exact ⟨hd.trans hd'.symm, ht.trans ht'.symm⟩
  | blogPost | author | comment | tag | article | digest => exact fun _ h => nomatch h

theorem savedComments_agree : ∀ a ∈ u.savedComments s m, ∀ b ∈ u.savedComments s m, a = b := by
  cases e with
  | comment =>
    intro a ha b hb
    rw [List.mem_singleton.mp ha, List.mem_singleton.mp hb]
  | blogPost | author | tag | article | reply | thread | digest => exact fun _ h => nomatch h

/-- A call that succeeds leaves the keys of parents in all rows but those that it saves, and in these
where they are saved with the same keys. -/
theorem foreign_keys_kept_iff (hd : s.Distinct)
    (h : (u.call.act Hooks.none ⟨s, context, ()⟩).1 = .ok ()) :
    ∃ m, u.message s context = some m ∧
      (∀ r ∈ s.rows (.record .reply), ∀ after ∈ (u.call.after s context).rows (.record .reply),
        after.id = r.id →
          (after.digestId = r.digestId ↔
            ∀ w ∈ u.savedReplies s m, w.id = r.id → w.digestId = r.digestId) ∧
          (after.threadId = r.threadId ↔
            ∀ w ∈ u.savedReplies s m, w.id = r.id → w.threadId = r.threadId)) ∧
      (e ≠ .article → ∀ r ∈ s.rows (.record .comment),
        ∀ after ∈ (u.call.after s context).rows (.record .comment), after.id = r.id →
          (after.articleId = r.articleId ↔
            ∀ w ∈ u.savedComments s m, w.id = r.id → w.articleId = r.articleId)) := by
  obtain ⟨m, hm, course⟩ := Upsert.takes_of_ok h
  refine ⟨m, hm, fun r hr after ha hk => ⟨?_, ?_⟩, fun he r hr after ha hk => ?_⟩
  · exact (overwrites_replies hd course).kept_iff numberedReplies (hd _)
      (fun a ha b hb => (savedReplies_agree a ha b hb).1) hr ha hk
  · exact (overwrites_replies hd course).kept_iff numberedReplies (hd _)
      (fun a ha b hb => (savedReplies_agree a ha b hb).2) hr ha hk
  · exact (overwrites_comments hd he course).kept_iff numberedComments (hd _)
      (fun a ha b hb => congrArg _ (savedComments_agree a ha b hb)) hr ha hk

end Calls

instance : DecidableEq (Row (Kind.record .reply)) := inferInstanceAs (DecidableEq ReplyRecord)

/-- A store with a digest and a reply in it. -/
def digestStore : Store Kind :=
  ((Store.empty fun _ => .nil).upsert (.record .digest) (⟨1⟩ : DigestRecord)).upsert (.record .reply)
    (⟨5, "first", none, some 1⟩ : ReplyRecord)

theorem distinct_digestStore : digestStore.Distinct :=
  ((distinct_empty _).upsert _).upsert _

/-- An update of the reply itself keeps it in the digest. -/
theorem foreign_keys_kept_by_reply :
    let u : Upsert .reply := .strictUpdate ⟨5, "second"⟩
    let after : Store Kind := u.call.after digestStore .unlimited
    digestStore.Distinct ∧ (u.call.act Hooks.none ⟨digestStore, .unlimited, ()⟩).1 = .ok () ∧
      after.rows (.record .reply) = [(⟨5, "second", none, some 1⟩ : ReplyRecord)] ∧
      ∃ m, u.message digestStore .unlimited = some m ∧
        ∀ r ∈ digestStore.rows (.record .reply), ∀ x ∈ after.rows (.record .reply), x.id = r.id →
          (x.digestId = r.digestId ↔
            ∀ w ∈ u.savedReplies digestStore m, w.id = r.id → w.digestId = r.digestId) := by
  have ok : ((Upsert.strictUpdate (⟨5, "second"⟩ : Reply) : Upsert .reply).call.act Hooks.none
      ⟨digestStore, .unlimited, ()⟩).1 = .ok () := by decide +kernel
  obtain ⟨m, hm, replies, -⟩ := foreign_keys_kept_iff distinct_digestStore ok
  exact ⟨distinct_digestStore, ok, by decide +kernel, m, hm,
    fun r hr x hx hk => (replies r hr x hx hk).1⟩

/-- An update of a thread with the reply in it takes the reply from the digest. -/
theorem digest_lost_by_thread :
    let u : Upsert .thread := .strictUpdate ⟨7, "on it", [⟨5, "second"⟩], []⟩
    digestStore.Distinct ∧ (u.call.act Hooks.none ⟨digestStore, .unlimited, ()⟩).1 = .ok () ∧
      ∃ r ∈ digestStore.rows (.record .reply),
        ∃ after ∈ (u.call.after digestStore .unlimited).rows (.record .reply),
          after.id = r.id ∧ after.digestId ≠ r.digestId := by
  have rows : (Call.after digestStore .unlimited (Upsert.strictUpdate (e := .thread)
      ⟨7, "on it", [⟨5, "second"⟩], []⟩).call).rows (.record .reply) =
        [(⟨5, "second", some 7, none⟩ : ReplyRecord)] := by decide +kernel
  refine ⟨distinct_digestStore, by decide +kernel, (⟨5, "first", none, some 1⟩ : ReplyRecord),
    List.mem_singleton_self _, (⟨5, "second", some 7, none⟩ : ReplyRecord), ?_, rfl, fun same => ?_⟩
  · exact rows ▸ List.mem_singleton_self _
  · exact Option.some_ne_none 1 same.symm

end ProtoStore.Blog
