import ProtoStore.Store.Failure

/-!
# Contexts

Operations run in a `Context`, which may be cancelled or run out of time; from then on every call of
the store fails. Time passes while an operation runs: `Context.after` is what has become of a context some
moments later, and no two calls of an operation are made at the same moment, so that a context may end
between any two of them. A call cannot tell a deadline from a cancellation by someone else, which comes at
some moment as well.

Copies of a context are the same context: `ContextPool` keeps contexts apart from the handles on them.
-/

namespace ProtoStore

/-- What operations run in. -/
structure Context where
  cancelled : Bool
  /-- The moments left until the deadline, if there is one. -/
  momentsLeft : Option Nat
deriving Repr, DecidableEq

namespace Context

/-- A context that ends only when it is cancelled. -/
def unlimited : Context := ⟨false, none⟩

/-- A context that ends after some moments. -/
def withTimeout (moments : Nat) : Context := ⟨false, some moments⟩

/-- Ends a context. -/
def cancel (context : Context) : Context := { context with cancelled := true }

/-- Whether a context has ended. -/
def isOver (context : Context) : Bool := context.cancelled || context.momentsLeft == some 0

/-- The context some moments later. One that is cancelled stays as it is. -/
def after (context : Context) (moments : Nat) : Context :=
  if context.cancelled then context
  else { context with momentsLeft := context.momentsLeft.map (· - moments) }

/-- Fails in a context that has ended. -/
def check (context : Context) : Except Failure Unit :=
  if context.isOver then .error .cancelled else .ok ()

end Context

/-- Contexts and handles on them, in the order they were made. -/
structure ContextPool where
  contexts : List Context
  /-- The position of each handle's context. -/
  handles : List Nat

namespace ContextPool

/-- No contexts. -/
def empty : ContextPool := ⟨[], []⟩

/-- Makes a context and a handle on it. -/
def add (pool : ContextPool) (context : Context) : ContextPool :=
  ⟨pool.contexts ++ [context], pool.handles ++ [pool.contexts.length]⟩

/-- Makes another handle on the context of a handle. -/
def share (pool : ContextPool) (handle : Nat) : ContextPool :=
  match pool.handles[handle]? with
  | some position => { pool with handles := pool.handles ++ [position] }
  | none => pool

/-- Cancels the context of a handle. -/
def cancel (pool : ContextPool) (handle : Nat) : ContextPool :=
  match pool.handles[handle]? with
  | some position => { pool with contexts := pool.contexts.modify position Context.cancel }
  | none => pool

/-- The context of each handle. -/
def views (pool : ContextPool) : List Context :=
  pool.handles.filterMap fun position => pool.contexts[position]?

end ContextPool

end ProtoStore
