import ProtoStore.Schema.Error

/-!
# Dependencies between messages

An edge from one message to another means that a row of the first refers to a row of the second,
which has to exist before it. A nullable edge can wait: the row is written with a null key and
completed later.

`Graph.requiredCycle?` looks for a cycle of edges that cannot wait. `Graph.order` puts every message
after those it requires, in order of declaration where it can.
-/

namespace ProtoStore

/-- A foreign key of `source` that refers to `target`. -/
structure Edge where
  source : String
  target : String
  /-- The field that declares the association. -/
  field : String
  nullable : Bool
deriving Repr, DecidableEq

/-- Messages in order of declaration, and their dependencies. -/
structure Graph where
  nodes : List String
  edges : List Edge
deriving Repr, DecidableEq

namespace Graph

/-! ## Cycles -/

/-- How far the search has come with a node. -/
inductive Mark
  | unvisited
  | active
  | done
deriving Repr, DecidableEq

/-- The position of the last node with a name. -/
def lastIndex? (graph : Graph) (name : String) : Option Nat :=
  (graph.nodes.reverse.idxOf? name).map fun i => graph.nodes.length - 1 - i

/-- The edges of a node that cannot wait. -/
def requiredFrom (graph : Graph) (node : Nat) : List Edge :=
  match graph.nodes[node]? with
  | some name => graph.edges.filter fun edge => !edge.nullable && edge.source == name
  | none => []

/-- Searches depth first from a node. Stops at an edge that leads back to an active node; otherwise
gives the marks with everything reached marked done. A search never goes deeper than there are
unvisited nodes, so the number of nodes bounds `depth`. -/
def visit (graph : Graph) : (depth : Nat) → (node : Nat) → List Mark → Except Edge (List Mark)
  | 0, _, marks => .ok marks
  | depth + 1, node, marks => do
    let after ← (graph.requiredFrom node).foldlM
      (fun (marks : List Mark) edge =>
        match graph.lastIndex? edge.target with
        | none => .ok marks
        | some next =>
          match marks[next]? with
          | some .active => .error edge
          | some .unvisited => graph.visit depth next marks
          | _ => .ok marks)
      (marks.set node .active)
    return after.set node .done

/-- Searches from every node not reached yet. -/
def search (graph : Graph) : Except Edge (List Mark) :=
  (List.range graph.nodes.length).foldlM
    (fun (marks : List Mark) (node : Nat) =>
      match marks[node]? with
      | some .unvisited => graph.visit graph.nodes.length node marks
      | _ => .ok marks)
    (graph.nodes.map fun _ => Mark.unvisited)

/-- The edge that closes a cycle of edges that cannot wait. -/
def requiredCycle? (graph : Graph) : Option Edge :=
  match graph.search with
  | .error edge => some edge
  | .ok _ => none

/-! ## Order -/

/-- The edges of a node that lead to another node not yet emitted. -/
def pending (graph : Graph) (emitted : List Nat) (node : Nat) : List Edge :=
  match graph.nodes[node]? with
  | none => []
  | some name => graph.edges.filter fun edge =>
      edge.source == name && edge.target != name
        && (graph.nodes.idxOf? edge.target).any (!emitted.contains ·)

/-- The node to emit next: the first that waits for nothing, or else the first that waits only
through nullable edges. -/
def next? (graph : Graph) (emitted : List Nat) : Option Nat :=
  let waiting := (List.range graph.nodes.length).filter (!emitted.contains ·)
  (waiting.find? fun node => (graph.pending emitted node).isEmpty).or
    (waiting.find? fun node => (graph.pending emitted node).all (·.nullable))

/-- The error of a graph in which nothing can be emitted next. -/
def stuck (graph : Graph) (emitted : List Nat) : SchemaError :=
  let waiting := (List.range graph.nodes.length).filter (!emitted.contains ·)
  match waiting.head?.bind fun node => (graph.pending emitted node).head? with
  | some edge => .cyclic edge.source edge.target edge.field
  | none => .malformed "association graph" "unresolvable order"

/-- Emits `count` more nodes. -/
def emit (graph : Graph) : (count : Nat) → (emitted : List Nat) → Except SchemaError (List Nat)
  | 0, emitted => .ok emitted
  | count + 1, emitted =>
    match graph.next? emitted with
    | some node => graph.emit count (emitted ++ [node])
    | none => .error (graph.stuck emitted)

/-- The nodes, each after those it requires. -/
def order (graph : Graph) : Except SchemaError (List String) :=
  match graph.requiredCycle? with
  | some edge => .error (.cyclic edge.source edge.target edge.field)
  | none => do
    let emitted ← graph.emit graph.nodes.length []
    return emitted.filterMap (graph.nodes[·]?)

end Graph

end ProtoStore
