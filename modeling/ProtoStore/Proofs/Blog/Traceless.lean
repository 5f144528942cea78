import ProtoStore.Proofs.Blog.Convertible
import ProtoStore.Proofs.Blog.Failing
import ProtoStore.Proofs.Domain.Traceless

/-!
# Calls on the blog that leave no trace

A call that finds fault with its arguments or messages, or whose context is over, leaves the rows and
the running number as they were (`untouched_by_rejecting`). Failures of hooks and of the store itself are
not among these.
-/

namespace ProtoStore.Blog

open Domain Store Operations

theorem readable_faithful : faithful.Readable := fun h => by
  obtain ⟨message, reverts, -, -⟩ := fillMessage_faithful h
  exact ⟨message, reverts⟩

theorem namesFields : NamesFields Entity := fillRecord_fails

/-- In every store that calls leave, a call whose context is over changes nothing, and neither does one
that fails because of its arguments or messages. -/
theorem untouched_by_rejecting (fresh : Nat → Uuid) (calls : List (Context × Call Entity))
    (h : ∀ call ∈ calls, call.2.Writes Entity.Addressable) (context : Context) (call : Call Entity)
    (hw : call.Writes Entity.Addressable) :
    let store : Store Kind := run (Store.empty fresh) calls
    (context.isOver = true → call.after store context = store) ∧
      ∀ failure, (call.act Hooks.none ⟨store, context, ()⟩).1 = .error failure →
        call.Rejects failure → call.after store context = store := by
  intro store
  refine ⟨fun ended => ?_, fun failure failed rejects => ?_⟩
  · have idle : (call.act Hooks.none ⟨store, context, ()⟩).2 = ⟨store, context, ()⟩ :=
      call.idle_of_over ended
    exact congrArg World.store idle
  · exact call.eq_of_rejects readable_faithful namesFields hw (faithful_run fresh h) (Prod.ext failed rfl)
      rejects

/-- A run that leaves rows in four tables. -/
def openingCalls : List (Context × Call Entity) := [
  (.unlimited, .create .thread (some (⟨3, "On stores", [⟨0, "first"⟩], [⟨"a", "A"⟩]⟩ : Thread)))]

/-- An article whose writer, comments and tags could be stored, but which was published before time. -/
def misdated : Call Entity := .strictUpdate .article (some { (default : Article) with
  title := "On time", writer := some ⟨0, "Bo", none⟩, comments := [⟨0, "No.", []⟩], tags := [⟨"c", "C"⟩]
  publishedAt := some ⟨0, -1⟩ })

theorem untouched_by_misdated :
    let store : Store Kind := run (Store.empty fun n => ⟨.ofNat 128 (n + 1)⟩) openingCalls
    (∀ call ∈ openingCalls, call.2.Writes Entity.Addressable) ∧ misdated.Writes Entity.Addressable ∧
      (store.rows (.record .reply)).length = 1 ∧ store.sequence = 4 ∧
      Context.unlimited.cancel.isOver = true ∧
      misdated.after store Context.unlimited.cancel = store ∧
      (misdated.act Hooks.none ⟨store, .unlimited, ()⟩).1 =
        .error (.conversion "published_at" .negativeNanos) ∧
      misdated.after store .unlimited = store := by
  have writes : ∀ call ∈ openingCalls, call.2.Writes Entity.Addressable :=
    List.forall_mem_singleton.mpr fun _ _ => trivial
  have admitted : misdated.Writes Entity.Addressable := fun m hm x hx => by
    cases hm
    cases hx
  exact ⟨writes, admitted, by decide +kernel, by decide +kernel, rfl,
    (untouched_by_rejecting _ _ writes Context.unlimited.cancel misdated admitted).1 rfl, rfl,
    (untouched_by_rejecting _ _ writes .unlimited misdated admitted).2 _ rfl
      (Or.inr (Or.inr ⟨_, _, rfl⟩))⟩

end ProtoStore.Blog
