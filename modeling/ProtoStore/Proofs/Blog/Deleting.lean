import ProtoStore.Proofs.Blog.Reloading
import ProtoStore.Proofs.Domain.Deletion

/-!
# Deletions in the blog

Messages deleted together are those deleted one after the other (`deleteSet_as_each`).
-/

namespace ProtoStore.Blog

open Domain Store Operations

/-- In every store, messages that all have keys are deleted together as they are one after the other: the rows of
their keys are gone and are found no more, and nothing else changes. If one of several messages has no key, or no
record, the first such message is what their deletion fails for, and nothing is deleted. -/
theorem deleteSet_as_each (store : Store Kind) (e : Entity) (messages : List e.Message) :
    (∀ rows : List (Record e), List.Forall₂ (HasKey e) messages rows →
      ∃ after : Store Kind,
        (deleteSet Hooks.none e (some messages)).Yields store (.ok ()) after ∧
        Action.Yields (messages.forM fun message => Operations.delete Hooks.none e (some message)) store (.ok ())
          after ∧
        Lost (table e) (rows.map key) store after ∧
        ∀ (asked : e.Message) (row : Record e) (fields : Option (List String)),
          HasKey e asked row → key row ∈ rows.map key →
          (∀ selection ∈ fields, ∀ column ∈ selection, HasColumn (table e) column) →
          (Operations.read Hooks.none e (some asked) fields).Yields after (.error .notFound) after) ∧
      ((∃ message ∈ messages, ¬ ∃ row, HasKey e message row) →
        ∃ before message after rows failure, messages = before ++ message :: after ∧
          List.Forall₂ (HasKey e) before rows ∧ Refuses e message failure ∧
          ∀ context, deleteSet Hooks.none e (some messages) ⟨store, context, ()⟩ =
            (.error failure, ⟨store, context, ()⟩)) := by
  constructor
  · intro rows keyed
    have each : (messages.forM fun message => (Operations.delete Hooks.none e (some message) :
        Action Kind Unit Unit)).Interruptible :=
      .forM (fun message => interruptible_delete (e := e) (some message)) messages
    refine ⟨store.withoutKeys (table e) (rows.map key),
      (interruptible_deleteSet (e := e) (some messages)).yields_of_eq (deleteSet_keyed rfl keyed),
      each.yields_of_eq (forM_delete rfl keyed), lost_withoutKeys store (table e) _, ?_⟩
    intro asked row fields asked_keyed gone known
    exact (interruptible_read (e := e) (some asked) fields).yields_of_eq (read_deleted rfl asked_keyed gone known)
  · rintro ⟨message, inside, unkeyed⟩
    rcases keyed_or_first_refused e messages with
      ⟨rows, keyed⟩ | ⟨before, first, after, rows, failure, rfl, keyed, refuses⟩
    · obtain ⟨row, -, has⟩ := keyed.exists_right inside
      exact absurd ⟨row, has⟩ unkeyed
    · exact ⟨before, first, after, rows, failure, rfl, keyed, refuses, fun context =>
        deleteSet_refused keyed refuses⟩

/-- An article of an identifier, in one of its spellings. -/
def spelled (id : String) : Article := { (default : Article) with id := some ⟨id⟩ }

/-- The record of an article of an identifier. -/
def identified (id : UInt8) : ArticleRecord :=
  { (default : ArticleRecord) with id := some ⟨.ofNat 128 id.toNat⟩, keywords := "[]" }

/-- A store with two articles. -/
def twoArticles : Store Kind :=
  let create (id : String) : Context × Call Entity := (.unlimited, .create .article (some (spelled id)))
  run (Store.empty fun n => ⟨.ofNat 128 n⟩) [
    create "00000000-0000-0000-0000-00000000000a", create "00000000-0000-0000-0000-00000000000b"]

/-- One article deleted twice, under two spellings of its identifier, and one that is not there. -/
theorem deleteSet_as_each_spelled :
    let messages : List Article := [spelled "00000000-0000-0000-0000-00000000000A",
      spelled "urn:uuid:00000000-0000-0000-0000-00000000000a", spelled "00000000-0000-0000-0000-00000000000c"]
    let rows : List (Record Entity.article) := [identified 10, identified 10, identified 12]
    (List.Forall₂ (HasKey Entity.article) messages rows ∧ ∃ after : Store Kind,
      deleteSet Hooks.none Entity.article (some messages) ⟨twoArticles, .unlimited, ()⟩ =
        (.ok (), ⟨after, .unlimited, ()⟩) ∧
      messages.forM (fun message => Operations.delete Hooks.none Entity.article (some message))
        ⟨twoArticles, .unlimited, ()⟩ = (.ok (), ⟨after, .unlimited, ()⟩) ∧
      (twoArticles.rows (.record .article)).map ArticleRecord.id = [some ⟨10⟩, some ⟨11⟩] ∧
      (after.rows (.record .article)).map ArticleRecord.id = [some ⟨11⟩] ∧
      Operations.read Hooks.none Entity.article (some (spelled "00000000-0000-0000-0000-00000000000a")) none
        ⟨after, .unlimited, ()⟩ = (.error .notFound, ⟨after, .unlimited, ()⟩)) ∧
    ∃ failure, ∀ context, deleteSet Hooks.none Entity.article (some [spelled "00000000-0000-0000-0000-00000000000a", spelled ""])
      ⟨twoArticles, context, ()⟩ = (.error failure, ⟨twoArticles, context, ()⟩) := by
  intro messages rows
  have keyed : List.Forall₂ (HasKey Entity.article) messages rows :=
    .cons ⟨rfl, rfl⟩ (.cons ⟨rfl, rfl⟩ (.cons ⟨rfl, rfl⟩ .nil))
  constructor
  · obtain ⟨succeeds, -⟩ := deleteSet_as_each twoArticles Entity.article messages
    obtain ⟨after, together, each, lost, missing⟩ := succeeds rows keyed
    refine ⟨keyed, after, together.unlimited, each.unlimited, by decide +kernel, ?_, ?_⟩
    · have left : after.rows (.record .article) = _ := lost.left
      rw [left]
      decide +kernel
    · exact (missing (spelled "00000000-0000-0000-0000-00000000000a") (identified 10) none ⟨rfl, rfl⟩ List.mem_cons_self nofun).unlimited
  · obtain ⟨-, fails⟩ := deleteSet_as_each twoArticles Entity.article
      [spelled "00000000-0000-0000-0000-00000000000a", spelled ""]
    have unkeyed : ¬ ∃ row, HasKey Entity.article (spelled "") row := by
      rintro ⟨row, converts, keyed⟩
      cases converts
      exact nomatch keyed
    obtain ⟨-, -, -, -, failure, -, -, -, failed⟩ :=
      fails ⟨spelled "", List.mem_cons_of_mem _ List.mem_cons_self, unkeyed⟩
    exact ⟨failure, failed⟩

end ProtoStore.Blog
