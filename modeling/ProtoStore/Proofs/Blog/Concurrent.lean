import ProtoStore.Proofs.Blog.Conversion
import ProtoStore.Proofs.Domain.Session

/-!
# Posts that are updated concurrently

* `created_exact_iff` : two strict updates of one post report exactly one of them as its creation if and only if
  one comes after the other;
* `created_twice` : otherwise both may;
* `strictUpdate_in_turn` : one after the other they are the operations themselves.
-/

namespace ProtoStore.Blog

open Domain Operations Session

variable {store final : Store Kind} {context context' : Context} {post post' : BlogPost} {turns : List Turn}
  {one two : Upserted BlogPost}

/-- A row has the key of a post. -/
def HasPost (store : Store Kind) (id : UInt64) : Prop :=
  ∃ row ∈ (store.rows (.record .blogPost) : List BlogPostRecord), row.id = id

/-- The record of a post. -/
def postRecord (post : BlogPost) : Record Entity.blogPost := (⟨post.id, post.title, post.author⟩ : BlogPostRecord)

theorem converts_post (post : BlogPost) : Converts Entity.blogPost post (postRecord post) := rfl

theorem key_post {row other : Record Entity.blogPost} :
    Store.key row = Store.key other ↔ BlogPostRecord.id row = BlogPostRecord.id other :=
  ⟨fun same => Value.uint.inj same, fun same => congrArg Value.uint same⟩

theorem hasPost_iff : HasPost store post.id ↔
    Store.key (postRecord post) ∈ (store.rows (Entities.table Entity.blogPost)).map Store.key := by
  rw [List.mem_map]
  exact exists_congr fun row => and_congr_right fun _ => (@key_post row (postRecord post)).symm

/-- **Which of two concurrent updates creates a post.** None does if the post is there already. If it is not,
exactly one reports its creation if and only if the calls of one come after those of the other; otherwise both
do. -/
theorem created_exact_iff (same : post'.id = post.id) (keyed : post.id ≠ 0)
    (h : interleave turns store (updating context Entity.blogPost (some post))
      (updating context' Entity.blogPost (some post')) = some (final, .ok one, .ok two)) :
    (HasPost store post.id → one.created = false ∧ two.created = false) ∧
      (¬ HasPost store post.id → (one.created ≠ two.created ↔ Turn.Serial turns) ∧
        (¬ Turn.Serial turns → one.created = true ∧ two.created = true)) := by
  have empty (post : BlogPost) (keyed : post.id ≠ 0) :
      (Catalog.record (Entities.table Entity.blogPost : Kind)).keyIsEmpty (postRecord post) = false :=
    beq_eq_false_iff_ne.mpr keyed
  obtain ⟨first, second⟩ := created_of_interleaved rfl (empty post keyed) (empty post' (same ▸ keyed))
    (converts_post post) (converts_post post') (key_post.mpr same) h
  rw [← hasPost_iff] at first second
  refine ⟨fun there => ?_, fun absent => ?_⟩
  · exact ⟨Bool.eq_false_iff.mpr fun new => (first.mp new).1 there,
      Bool.eq_false_iff.mpr fun new => (second.mp new).1 there⟩
  · simp only [absent, not_false_eq_true, true_and] at first second
    unfold Turn.Serial
    by_cases before : turns = [.first, .first, .second, .second]
    · have one_created := first.mpr (by simp [before])
      have two_created : two.created = false := Bool.eq_false_iff.mpr fun new => second.mp new before
      simp [before, one_created, two_created]
    have two_created := second.mpr before
    by_cases after : turns = [.second, .second, .first, .first]
    · have one_created : one.created = false := Bool.eq_false_iff.mpr fun new => first.mp new after
      simp [after, one_created, two_created]
    · simp [before, after, first.mpr after, two_created]

/-- Updates that come one after the other are the operations themselves, each on the store it finds. -/
theorem strictUpdate_in_turn {result result' : Except Failure (Upserted BlogPost)}
    (h : interleave [.first, .first, .second, .second] store (updating context Entity.blogPost (some post))
      (updating context' Entity.blogPost (some post')) = some (final, result, result')) :
    let done := strictUpdate Hooks.none Entity.blogPost (some post) ⟨store, context, ()⟩
    let next := strictUpdate Hooks.none Entity.blogPost (some post') ⟨done.2.store, context', ()⟩
    result = done.1 ∧ result' = next.1 ∧ final = next.2.store := by
  intro done next
  have in_turn : interleave (.replicate 2 .first ++ .replicate 2 .second) store
      (updating context Entity.blogPost (some post)) (updating context' Entity.blogPost (some post')) =
        some (final, result, result') := h
  obtain ⟨first, second⟩ := interleave_in_turn in_turn
  rw [alone_updating rfl, alone_updating rfl, Prod.mk.injEq] at second
  rw [alone_updating rfl] at first
  exact ⟨first, second.2, second.1⟩

/-- A store without rows. -/
def blankStore : Store Kind := .empty fun _ => .nil

/-- The same post by two writers. -/
def firstPost : BlogPost := ⟨7, "first", "Ada"⟩
def secondPost : BlogPost := ⟨7, "second", "Max"⟩

theorem not_hasPost_blankStore (id : UInt64) : ¬ HasPost blankStore id := by
  rintro ⟨row, there, -⟩
  cases there

theorem created_once_in_turn :
    ∃ (final : Store Kind) (one two : Upserted BlogPost),
      interleave [.first, .first, .second, .second] blankStore
        (updating .unlimited Entity.blogPost (some firstPost))
        (updating .unlimited Entity.blogPost (some secondPost)) = some (final, .ok one, .ok two) ∧
      one.created ≠ two.created := by
  obtain ⟨final, one, two, run⟩ : ∃ (final : Store Kind) (one two : Upserted BlogPost),
      interleave [.first, .first, .second, .second] blankStore
        (updating .unlimited Entity.blogPost (some firstPost))
        (updating .unlimited Entity.blogPost (some secondPost)) = some (final, .ok one, .ok two) :=
    ⟨_, _, _, rfl⟩
  have same : secondPost.id = firstPost.id := rfl
  have keyed : firstPost.id ≠ 0 := by decide
  have one_of_them := ((created_exact_iff same keyed run).2 (not_hasPost_blankStore _)).1
  exact ⟨final, one, two, run, one_of_them.mpr (by decide)⟩

/-- Two updates that both look before either saves. -/
theorem created_twice :
    ∃ (final : Store Kind) (one two : Upserted BlogPost),
      interleave [.first, .second, .first, .second] blankStore
        (updating .unlimited Entity.blogPost (some firstPost))
        (updating .unlimited Entity.blogPost (some secondPost)) = some (final, .ok one, .ok two) ∧
      ¬ HasPost blankStore 7 ∧ one.created = true ∧ two.created = true :=
  ⟨_, _, _, rfl, not_hasPost_blankStore 7, rfl, rfl⟩

end ProtoStore.Blog
