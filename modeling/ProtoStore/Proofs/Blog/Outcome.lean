import ProtoStore.Proofs.Blog.Convertible
import ProtoStore.Proofs.Blog.Numbers
import ProtoStore.Proofs.Blog.References
import ProtoStore.Proofs.Blog.Reloading
import ProtoStore.Proofs.Domain.Cleaning
import ProtoStore.Proofs.Domain.Stages

/-!
# What an update leaves

The row of a message after an update or a creation (`Rests`), and what else an update sees to
(`Complete`):

* `rests_of_update`, `rests_of_creation` : the row is stored under a key, in a store whose rows all are as
  calls leave them;
* `writer_held` : the writer of an article is stored;
* `joined_held` : join rows that an update exchanges are all new, and lead to stored tags.
-/

namespace ProtoStore.Blog

open Domain Store Operations Domain.Action

variable {s t : Store Kind} {context : Context} {e : Entity} {row : Record e}

/-! ## Stores after a write -/

/-- What holds of a store that calls have left, and of a row in it. -/
structure Rests (t : Store Kind) (e : Entity) (row : Record e) : Prop where
  numbers : numbered.Inv t
  unexhausted : Unexhausted t
  rows : faithful.Inv t
  mem : row ∈ t.rows (table e)

/-- What an update leaves beyond that: the writer of an article is stored, and where the join rows of an
owner are exchanged all their tags are. -/
structure Complete (t : Store Kind) (e : Entity) (row : Record e) : Prop where
  writer : e = .article → Held t (table e) row
  joined {link : Joined e} : .joined link ∈ Bindings.links e → link.strategy ≠ .append →
    ∀ x ∈ t.rows link.join, Linked link.join link.ownerColumn (keyOf e row) x → Held t link.join x

namespace Rests

theorem distinct (h : Rests t e row) : t.Distinct := h.numbers.distinct

theorem keyed_of_mem (h : Rests t e row) {kind : Kind} {x : Row kind} (hx : x ∈ t.rows kind) :
    Keyed t kind x :=
  ⟨hx, (h.numbers.held hx h.unexhausted).1⟩

theorem keyed (h : Rests t e row) : Keyed t (table e) row := h.keyed_of_mem h.mem

theorem admissible (h : Rests t e row) {kind : Kind} {x : Row kind} (hx : x ∈ t.rows kind) :
    Admissible t.sequence kind x :=
  h.numbers.allowed hx h.unexhausted

theorem faithful_of_mem (h : Rests t e row) {kind : Kind} {x : Row kind} (hx : x ∈ t.rows kind) :
    Faithful kind x :=
  h.rows.allowed hx

/-- An answer is read by its key. -/
theorem reads_keyOnly [context.Timeless] (h : Rests t e row) (alive : context.check = .ok ())
    {later : Context} [later.Timeless] (live : later.check = .ok ()) {value : e.Message} (responds : Responds context t row value) :
    Reads later t e (Bindings.keyOnly e value) none value := by
  have converts := converts_of_responds (h.faithful_of_mem h.mem) responds
  obtain ⟨r, hr, hk⟩ := exists_converts_keyOnly converts
  exact reads_of_responds h.distinct alive live h.mem h.keyed.2 hr (hk.trans (key_bare row)) responds

end Rests

section

variable [context.Timeless] {message : e.Message} (numbers : numbered.Inv s) (rows : faithful.Inv s) (hu : Unexhausted t)
  (ha : e.Addressable message)
include numbers rows hu ha

theorem rests_of_update {upserted : Upserted e.Message}
    (c : Update context e message s t upserted) : Rests t e c.written :=
  ⟨(c.goes (D := numbered) trivial numbers).1, hu, (c.goes (D := faithful) ha rows).1,
    c.mem (table_not_mem_writes c.collected)⟩

theorem rests_of_creation {value : e.Message} (c : Creation context e message s t value) :
    Rests t e c.written :=
  ⟨(c.goes (D := numbered) trivial numbers).1, hu, (c.goes (D := faithful) ha rows).1,
    c.mem (table_not_mem_writes c.collected)⟩

end

/-! ## The writer of an article -/

theorem references_of_assignKey {kind : Kind} {after : Store Kind} {x written : Row kind}
    (h : s.assignKey kind x = (after, .ok written)) : references kind written = references kind x := by
  rcases assignKey_ok h with ⟨-, -, rfl⟩ | ⟨-, -, k, hk, rfl⟩
  · rfl
  · exact references_setKey hk

/-- Where no row is watched, nothing but the keys of stored rows is kept. -/
theorem inv_none (h : s.Distinct) : (referential .none).Inv s :=
  ⟨h, fun _ watched => watched.elim, fun hm _ => List.mem_map_of_mem hm⟩

theorem held_of_prepare [context.Timeless] {m : Article} {pending : List (Pending Entity.article)}
    {locked prepared : Record Entity.article} {last : World Kind Unit}
    (hc : List.Forall₂ (Collected (e := Entity.article) m) (Bindings.links Entity.article) pending)
    (h : prepare pending locked ⟨s, context, ()⟩ = (.ok prepared, last)) :
    Held last.store (.record .article) prepared := by
  cases writer_prepared hc h with
  | without absent => exact held_articleWriter nofun
  | saved provided converts saves =>
    refine held_articleWriter fun x hx => ?_
    cases hx
    exact List.mem_map_of_mem (mem_of_save saves)

theorem writer_held [context.Timeless] {m : Article} {upserted : Upserted Article}
    (c : Update context Entity.article m s t upserted) (h : s.Distinct) :
    Held t (.record .article) c.written := by
  have held : Held c.referred (.record .article) c.prepared := held_of_prepare c.collected c.prepares
  obtain ⟨inv, keeps, -⟩ := c.inv_pruned (D := referential .none) trivial (inv_none h)
  obtain ⟨-, keeps'⟩ := c.inv_of_pruned (D := referential .none) trivial (fun watched => watched.elim) inv
  obtain ⟨-, after, written, -⟩ := Store.save_ok.mp c.saves
  have same : references (.record .article) c.written = references (.record .article) c.prepared :=
    references_of_assignKey written
  unfold Held
  rw [same]
  exact (held.mono keeps).mono keeps'

/-! ## Join rows that are exchanged -/

/-- The row that a join row is of. -/
def owner : (kind : Kind) → Row kind → Option Value
  | .articleTag, (r : ArticleTag) => some (toValue r.articleId)
  | .threadTopic, (r : ThreadTopic) => some (.uint r.threadId)
  | .digestFeatured, (r : DigestTag) | .digestHidden, (r : DigestTag) => some (.uint r.digestId)
  | .record _, _ => none

/-- The join rows of an owner are watched. -/
def Watch.ownedBy (join : Kind) (k : Value) : Watch :=
  ⟨fun kind row => kind = join ∧ owner kind row = some k, Or.inr fun _ _ h => nomatch h.2⟩

theorem exists_owner {link : Joined e} (hl : .joined link ∈ Bindings.links e) (x : Row link.join) :
    ∃ v, (record link.join).value? x link.ownerColumn = some v ∧ v.isExact = true ∧
      owner link.join x = some v :=
  forall_joined (P := fun _ link => ∀ x : Row link.join,
      ∃ v, (record link.join).value? x link.ownerColumn = some v ∧ v.isExact = true ∧
        owner link.join x = some v)
    (fun _ => ⟨_, rfl, isExact_uuid _, rfl⟩) (fun _ => ⟨_, rfl, rfl, rfl⟩)
    (fun _ => ⟨_, rfl, rfl, rfl⟩) (fun _ => ⟨_, rfl, rfl, rfl⟩) hl x

theorem linked_iff_owner {link : Joined e} (hl : .joined link ∈ Bindings.links e) {k : Value}
    {x : Row link.join} : Linked link.join link.ownerColumn k x ↔ owner link.join x = some k := by
  obtain ⟨v, hv, exact, ho⟩ := exists_owner hl x
  rw [linked_iff hv exact, ho, Option.some.injEq]

/-- A new number owns nothing yet. -/
theorem not_linked_of_new {link : Joined e} (hl : .joined link ∈ Bindings.links e)
    (hs : link.strategy ≠ .append) {sequence : Nat} (bound : sequence + 1 < UInt64.size) {fresh : Uuid}
    {k : (record (table e)).Key}
    (hk : (record (table e)).rowKey.generate (.ofNat (sequence + 1)) fresh = some k)
    {x : Row link.join} (hx : Admissible sequence link.join x) :
    ¬Linked link.join link.ownerColumn (keyOf e ((record (table e)).setKey k row)) x := by
  rw [linked_iff_owner hl]
  obtain ⟨toNat, -⟩ := next_number bound
  have new : ∀ {n : UInt64}, n.toNat ≤ sequence → n ≠ .ofNat (sequence + 1) := by
    rintro n hn rfl
    omega
  exact forall_joined
    (P := fun e link => ∀ (row : Record e) (k : (record (table e)).Key) (x : Row link.join),
      link.strategy ≠ .append →
      (record (table e)).rowKey.generate (.ofNat (sequence + 1)) fresh = some k →
      Admissible sequence link.join x →
        owner link.join x ≠ some (keyOf e ((record (table e)).setKey k row)))
    (fun _ _ _ hs => absurd rfl hs)
    (fun _ _ _ _ hk hx ho => by
      cases hk
      exact new hx (Value.uint.inj (Option.some.inj ho)))
    (fun _ _ _ _ hk hx ho => by
      cases hk
      exact new hx (Value.uint.inj (Option.some.inj ho)))
    (fun _ _ _ _ _ hx => hx.elim) hl row k x hs hk hx

section

variable [context.Timeless] {message : e.Message} {upserted : Upserted e.Message}
  (c : Update context e message s t upserted) (numbers : numbered.Inv s) (hu : Unexhausted t)
  {link : Joined e} (hl : .joined link ∈ Bindings.links e) (hs : link.strategy ≠ .append)
include numbers hu hl hs

/-- Before the row is saved, no join rows are left that it would own. -/
theorem not_linked_of_pruned {x : Row link.join} (hx : x ∈ c.pruned.rows link.join) :
    ¬Linked link.join link.ownerColumn (keyOf e c.written) x := by
  obtain ⟨inv, -, allowed⟩ := c.inv_pruned (D := numbered) trivial numbers
  obtain ⟨inv', counts, held⟩ := c.inv_saved allowed inv
  obtain ⟨-, counts'⟩ := c.inv_of_saved (D := numbered) trivial held inv'
  have saved : Unexhausted c.saved := counts'.unexhausted hu
  obtain ⟨-, after, assigned, hsaved⟩ := Store.save_ok.mp c.saves
  -- With a key of its own the row had its join rows pruned; without one nothing was pruned, but the
  -- number that is drawn is greater than all that join rows hold.
  rcases assignKey_ok assigned with ⟨keyed, -, same⟩ | ⟨-, rfl, k, hk, same⟩
  · obtain ⟨p, hp, collected⟩ := exists_of_forall₂ c.collected.flip hl
    cases collected
    rw [same]
    exact not_linked_of_prune (fun _ hp => link_mem_of_collected c.collected hp) c.prunes keyed hp hs x hx
  · have bound : c.pruned.sequence + 1 < UInt64.size := by
      rw [hsaved, Unexhausted, sequence_upsert] at saved
      exact saved.1
    rw [same]
    exact not_linked_of_new hl hs bound hk (inv.allowed hx (counts.unexhausted saved))

theorem joined_held {x : Row link.join} (hx : x ∈ t.rows link.join)
    (linked : Linked link.join link.ownerColumn (keyOf e c.written) x) : Held t link.join x := by
  have distinct : c.pruned.Distinct := (c.inv_pruned (D := numbered) trivial numbers).1.distinct
  -- Of the owner no join row is left here, so none of those watched is older than this update.
  have inv : (referential (.ownedBy link.join (keyOf e c.written))).Inv c.pruned := by
    refine ⟨distinct, fun hm watched => ?_, fun hm _ => List.mem_map_of_mem hm⟩
    obtain ⟨rfl, ho⟩ := watched
    exact absurd ((linked_iff_owner hl).mpr ho) (not_linked_of_pruned c numbers hu hl hs hm)
  have last := c.inv_of_pruned (D := referential (.ownedBy link.join (keyOf e c.written))) trivial
    (fun watched => nomatch watched.2) inv
  exact last.1.allowed hx ⟨rfl, (linked_iff_owner hl).mp linked⟩

end

theorem complete_of_update [context.Timeless] {message : e.Message} {upserted : Upserted e.Message}
    (c : Update context e message s t upserted) (numbers : numbered.Inv s) (hu : Unexhausted t) :
    Complete t e c.written := by
  refine ⟨fun article => ?_, fun hl hs x hx linked => joined_held c numbers hu hl hs hx linked⟩
  cases article
  exact writer_held c numbers.distinct

end ProtoStore.Blog
