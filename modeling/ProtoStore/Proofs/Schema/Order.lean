import Mathlib.Data.List.Perm.Subperm
import Mathlib.Order.WellFoundedSet
import ProtoStore.Proofs.Schema.Cycle

/-!
# The order of a graph

Where the requirements of a graph are well founded, some node not yet emitted requires none of the others, whatever
has been emitted so far: the edges it still waits for can all wait, so it may go next. In the same way, where no
edges at all lead from a node back to itself, some node waits for nothing.

* `Emitted` : what is true of the nodes emitted so far, kept by each choice (`Emitted.next`) and so by the
  whole run (`emit_ok`);
* `order_perm` : an order lists the nodes, each as often as the graph does;
* `order_requires` : in an order what a node requires stands before it;
* `exists_first` : a node not yet emitted with no edge of a well-founded kind to another one;
* `next?_isSome`, `emit_total` : the next node can be chosen after any emission, so that emission goes on to the end;
* `emit_steps` : each node emitted was chosen after those before it;
* `pending_of_next?`, `order_waits` : without cycles of edges of either kind, the chosen node waits for nothing, and
  every edge is kept by the order;
* `order_total` : the order exists exactly for graphs without a required cycle, and what it is.
-/

namespace ProtoStore.Graph

variable {graph : Graph} {emitted result : List Nat} {count node : Nat} {names : List String} {edge : Edge}

/-! ## Emitting nodes -/

/-- Positions that are emitted at most once, each after those that its edges lead to and that cannot wait. -/
structure Emitted (graph : Graph) (emitted : List Nat) : Prop where
  nodup : emitted.Nodup
  listed : ∀ node ∈ emitted, node < graph.nodes.length
  ready : ∀ edge ∈ graph.edges, edge.nullable = false → edge.target ≠ edge.source →
    ∀ source ∈ emitted, graph.nodes[source]? = some edge.source →
      ∀ target, graph.nodes.idxOf? edge.target = some target → [target, source].Sublist emitted

theorem mem_waiting :
    node ∈ (List.range graph.nodes.length).filter (!emitted.contains ·) ↔
      node < graph.nodes.length ∧ node ∉ emitted := by
  simp

theorem next?_ok (h : graph.next? emitted = some node) :
    node < graph.nodes.length ∧ node ∉ emitted ∧
      ∀ edge ∈ graph.pending emitted node, edge.nullable = true := by
  have waiting {p : Nat → Bool}
      (found : ((List.range graph.nodes.length).filter (!emitted.contains ·)).find? p = some node) :
      node < graph.nodes.length ∧ node ∉ emitted :=
    mem_waiting.mp (List.mem_of_find?_eq_some found)
  unfold next? at h
  rcases Option.or_eq_some_iff.mp h with free | ⟨-, deferred⟩
  · have nothing := List.isEmpty_iff.mp (List.find?_some (p := fun node =>
      (graph.pending emitted node).isEmpty) free)
    exact ⟨(waiting free).1, (waiting free).2, by simp [nothing]⟩
  · have nullable := List.all_eq_true.mp (List.find?_some (p := fun node =>
      (graph.pending emitted node).all (·.nullable)) deferred)
    exact ⟨(waiting deferred).1, (waiting deferred).2, nullable⟩

theorem Emitted.nil (graph : Graph) : graph.Emitted [] := ⟨.nil, by simp, by simp⟩

/-- One more node keeps what is true of those emitted. -/
theorem Emitted.next (so_far : graph.Emitted emitted) (h : graph.next? emitted = some node) :
    graph.Emitted (emitted ++ [node]) := by
  obtain ⟨listed, fresh, nullable⟩ := next?_ok h
  refine ⟨?_, ?_, ?_⟩
  · have apart : ∀ other ∈ emitted, ∀ last ∈ [node], other ≠ last := by
      rintro other there last here rfl
      exact fresh (List.mem_singleton.mp here ▸ there)
    exact List.nodup_append.mpr ⟨so_far.nodup, by simp, apart⟩
  · intro other there
    rcases List.mem_append.mp there with before | here
    · exact so_far.listed other before
    · rwa [List.mem_singleton.mp here]
  · intro edge there required distinct source source_there at_source target at_target
    rcases List.mem_append.mp source_there with before | here
    · exact (so_far.ready edge there required distinct source before at_source target at_target).trans
        (List.sublist_append_left _ _)
    · obtain rfl := List.mem_singleton.mp here
      -- a target not emitted would make the edge pending, and then nullable
      have target_emitted : target ∈ emitted := by
        by_contra missing
        have pending : edge ∈ graph.pending emitted source := by
          simp [pending, at_source, there, distinct, at_target, missing]
        simp [nullable edge pending] at required
      exact (List.singleton_sublist.mpr target_emitted).append (.refl [source])

theorem emit_ok {count : Nat} (so_far : graph.Emitted emitted)
    (h : graph.emit count emitted = .ok result) :
    graph.Emitted result ∧ result.length = emitted.length + count := by
  induction count generalizing emitted with
  | zero =>
    cases h
    exact ⟨so_far, rfl⟩
  | succ count ih =>
    unfold emit at h
    split at h
    · next node chosen =>
      obtain ⟨whole, length⟩ := ih (so_far.next chosen) h
      exact ⟨whole, by simpa [Nat.add_assoc, Nat.add_comm 1] using length⟩
    · cases h

/-! ## The order -/

/-- An order comes from emitting every node of a graph without a required cycle. -/
theorem order_ok (h : graph.order = .ok names) :
    graph.requiredCycle? = none ∧ ∃ emitted, graph.emit graph.nodes.length [] = .ok emitted ∧ graph.Emitted emitted ∧
      emitted.Perm (List.range graph.nodes.length) ∧ names = emitted.filterMap (graph.nodes[·]?) := by
  unfold order at h
  split at h
  · cases h
  · next acyclic =>
    obtain ⟨emitted, run, h⟩ := Except.bind_eq_ok.mp h
    cases h
    obtain ⟨whole, length⟩ := emit_ok (.nil graph) run
    have inside : emitted ⊆ List.range graph.nodes.length :=
      fun node there => List.mem_range.mpr (whole.listed node there)
    have perm := (List.subperm_of_subset whole.nodup inside).perm_of_length_le (by simp [length])
    exact ⟨acyclic, emitted, run, whole, perm, rfl⟩

theorem filterMap_range_getElem? {α : Type} (l : List α) :
    (List.range l.length).filterMap (l[·]?) = l := by
  induction l with
  | nil => rfl
  | cons a l ih =>
    rw [List.length_cons, List.range_succ_eq_map, List.filterMap_cons_some (by rfl), List.filterMap_map]
    exact congrArg _ ih

/-- An order lists the nodes, each as often as the graph does. -/
theorem order_perm (h : graph.order = .ok names) : names.Perm graph.nodes := by
  obtain ⟨-, emitted, -, -, perm, rfl⟩ := order_ok h
  have listed := perm.filterMap (graph.nodes[·]?)
  rwa [filterMap_range_getElem?] at listed

/-- Of two listed names, that of the position emitted first comes first. -/
theorem names_sublist {source target : String} (source_listed : source ∈ graph.nodes)
    (target_listed : target ∈ graph.nodes)
    (kept : ∀ i j, i < graph.nodes.length → graph.nodes[i]? = some source → graph.nodes.idxOf? target = some j →
      [j, i].Sublist emitted) : [target, source].Sublist (emitted.filterMap (graph.nodes[·]?)) := by
  obtain ⟨i, inside, at_i⟩ := List.getElem_of_mem source_listed
  have at_i : graph.nodes[i]? = some source := at_i ▸ List.getElem?_eq_getElem inside
  obtain ⟨j, at_j⟩ := Option.isSome_iff_exists.mp (List.isSome_idxOf?.mpr target_listed)
  obtain ⟨j_inside, j_at, -⟩ := List.idxOf?_eq_some_iff.mp at_j
  have names_kept := (kept i j inside at_i at_j).filterMap (graph.nodes[·]?)
  simpa [at_i, List.getElem?_eq_getElem j_inside, j_at] using names_kept

/-- In an order what a node requires stands before it. -/
theorem order_requires (h : graph.order = .ok names) {source target : String}
    (required : graph.Requires source target) : [target, source].Sublist names := by
  obtain ⟨acyclic, emitted, -, whole, perm, rfl⟩ := order_ok h
  have distinct : target ≠ source := by
    rintro rfl
    exact not_requires_self acyclic target (.single required)
  obtain ⟨source_listed, target_listed, edge, there, cannot_wait, rfl, rfl⟩ := required
  refine names_sublist source_listed target_listed fun i j inside at_i at_j => ?_
  have i_emitted : i ∈ emitted := perm.mem_iff.mpr (List.mem_range.mpr inside)
  exact whole.ready edge there cannot_wait distinct i i_emitted at_i j at_j

/-! ## What nodes wait for -/

/-- A listed node has an edge to another listed node, whether or not it can wait. -/
def Waits (graph : Graph) (source target : String) : Prop :=
  source ∈ graph.nodes ∧ target ∈ graph.nodes ∧ source ≠ target ∧
    ∃ edge ∈ graph.edges, edge.source = source ∧ edge.target = target

theorem mem_pending : edge ∈ graph.pending emitted node ↔
    edge ∈ graph.edges ∧ graph.nodes[node]? = some edge.source ∧ edge.target ≠ edge.source ∧
      ∃ target, graph.nodes.idxOf? edge.target = some target ∧ target ∉ emitted := by
  unfold pending
  split
  · next outside => simp [outside]
  · next name position =>
    have named : name = edge.source ↔ edge.source = name := eq_comm
    simp only [position, List.mem_filter, Bool.and_eq_true, beq_iff_eq, bne_iff_ne, Option.any_eq_true,
      Bool.not_eq_true', List.contains_eq_mem, decide_eq_false_iff_not, Option.some.injEq, named]
    constructor
    · rintro ⟨there, ⟨rfl, apart⟩, waits⟩
      exact ⟨there, rfl, apart, waits⟩
    · rintro ⟨there, rfl, apart, waits⟩
      exact ⟨there, ⟨rfl, apart⟩, waits⟩

theorem waits_of_pending (h : edge ∈ graph.pending emitted node) : graph.Waits edge.source edge.target := by
  obtain ⟨there, position, apart, target, at_target, -⟩ := mem_pending.mp h
  have listed : edge.target ∈ graph.nodes := List.isSome_idxOf?.mp (Option.isSome_of_eq_some at_target)
  exact ⟨List.mem_of_getElem? position, listed, apart.symm, edge, there, rfl, rfl⟩

/-- Without cycles of edges of either kind there is no endless waiting. -/
theorem waits_wellFounded (acyclic : ∀ name, ¬ Relation.TransGen graph.Waits name name) :
    WellFounded fun target source => graph.Waits source target := by
  have strict : IsStrictOrder String fun target source => Relation.TransGen graph.Waits source target :=
    { irrefl := acyclic, trans := fun _ _ _ first second => second.trans first }
  have finite : {name | name ∈ graph.nodes}.WellFoundedOn
      fun target source => Relation.TransGen graph.Waits source target :=
    (List.finite_toSet graph.nodes).wellFoundedOn
  exact Subrelation.wf (fun waits => ⟨.single waits, waits.2.1, waits.1⟩) (Set.wellFoundedOn_iff.mp finite)

/-! ## Progress -/

/-- Of the nodes not yet emitted, one has no pending edge of a well-founded kind. -/
theorem exists_first {R : String → String → Prop} (wf : WellFounded fun target source => R source target)
    (listed : node < graph.nodes.length) (waiting : node ∉ emitted) :
    ∃ first < graph.nodes.length, first ∉ emitted ∧
      ∀ edge ∈ graph.pending emitted first, ¬ R edge.source edge.target := by
  obtain ⟨name, ⟨first, fresh, position⟩, least⟩ := wf.has_min
    {name | ∃ i : Nat, i ∉ emitted ∧ graph.nodes[i]? = some name}
    ⟨_, node, waiting, List.getElem?_eq_getElem listed⟩
  refine ⟨first, (List.getElem?_eq_some_iff.mp position).1, fresh, fun edge there related => ?_⟩
  obtain ⟨-, at_first, -, target, at_target, target_fresh⟩ := mem_pending.mp there
  obtain ⟨inside, at_index, -⟩ := List.idxOf?_eq_some_iff.mp at_target
  obtain rfl := Option.some.inj (position.symm.trans at_first)
  exact least edge.target ⟨target, target_fresh, by rw [List.getElem?_eq_getElem inside, at_index]⟩ related

/-- As long as a node is not emitted, there is one that waits only through edges that can wait. -/
theorem next?_isSome (acyclic : graph.requiredCycle? = none) (listed : node < graph.nodes.length)
    (waiting : node ∉ emitted) : (graph.next? emitted).isSome := by
  obtain ⟨first, inside, fresh, free⟩ := exists_first (requires_wellFounded acyclic) listed waiting
  have nullable : ∀ edge ∈ graph.pending emitted first, edge.nullable = true := by
    intro edge there
    obtain ⟨source_listed, target_listed, -, -⟩ := waits_of_pending there
    by_contra required
    exact free edge there ⟨source_listed, target_listed, edge, (mem_pending.mp there).1, by simpa using required, rfl, rfl⟩
  unfold next?
  rw [Option.isSome_or, Bool.or_eq_true, List.find?_isSome, List.find?_isSome]
  exact .inr ⟨first, mem_waiting.mpr ⟨inside, fresh⟩, List.all_eq_true.mpr nullable⟩

theorem exists_waiting (h : emitted.length < graph.nodes.length) :
    ∃ node < graph.nodes.length, node ∉ emitted := by
  by_contra all
  push Not at all
  have covered : List.range graph.nodes.length ⊆ emitted := fun node there => all node (List.mem_range.mp there)
  have bound := (List.subperm_of_subset List.nodup_range covered).length_le
  rw [List.length_range] at bound
  omega

/-- Emission goes on to the end from whatever has been emitted. -/
theorem emit_total (acyclic : graph.requiredCycle? = none)
    (h : emitted.length + count ≤ graph.nodes.length) : ∃ result, graph.emit count emitted = .ok result := by
  induction count generalizing emitted with
  | zero => exact ⟨emitted, rfl⟩
  | succ count ih =>
    have fewer : emitted.length < graph.nodes.length := by omega
    obtain ⟨node, listed, waiting⟩ := exists_waiting fewer
    obtain ⟨next, chosen⟩ := Option.isSome_iff_exists.mp (next?_isSome acyclic listed waiting)
    have later : (emitted ++ [next]).length + count ≤ graph.nodes.length := by
      rw [List.length_append, List.length_singleton]
      omega
    obtain ⟨result, run⟩ := ih later
    exact ⟨result, by rw [emit, chosen]; exact run⟩

/-- Each node that is emitted was chosen after those before it. -/
theorem emit_steps (h : graph.emit count emitted = .ok result) :
    ∃ added, result = emitted ++ added ∧
      ∀ before node later, added = before ++ node :: later → graph.next? (emitted ++ before) = some node := by
  induction count generalizing emitted with
  | zero =>
    cases h
    exact ⟨[], by simp, by simp⟩
  | succ count ih =>
    unfold emit at h
    split at h
    · next first chosen =>
      obtain ⟨added, rfl, steps⟩ := ih h
      refine ⟨first :: added, by simp, fun before node later parts => ?_⟩
      cases before with
      | nil =>
        obtain ⟨rfl, -⟩ := List.cons.inj parts
        simpa using chosen
      | cons earlier before =>
        obtain ⟨rfl, rest⟩ := List.cons.inj parts
        simpa using steps before node later rest
    · cases h

/-! ## Edges that can wait -/

/-- Without cycles of edges of either kind, the node chosen waits for nothing. -/
theorem pending_of_next? (acyclic : ∀ name, ¬ Relation.TransGen graph.Waits name name)
    (h : graph.next? emitted = some node) : graph.pending emitted node = [] := by
  obtain ⟨listed, waiting, -⟩ := next?_ok h
  obtain ⟨first, inside, fresh, free⟩ := exists_first (waits_wellFounded acyclic) listed waiting
  have nothing : graph.pending emitted first = [] :=
    List.eq_nil_iff_forall_not_mem.mpr fun edge there => free edge there (waits_of_pending there)
  unfold next? at h
  rcases Option.or_eq_some_iff.mp h with chosen | ⟨none, -⟩
  · exact List.isEmpty_iff.mp (List.find?_some (p := fun node => (graph.pending emitted node).isEmpty) chosen)
  · have empty := List.find?_eq_none.mp none first (mem_waiting.mpr ⟨inside, fresh⟩)
    exact absurd (List.isEmpty_iff.mpr nothing) empty

/-- Without cycles of edges of either kind, an order puts the target of every edge before its source. -/
theorem order_waits (acyclic : ∀ name, ¬ Relation.TransGen graph.Waits name name) (h : graph.order = .ok names)
    {source target : String} (waits : graph.Waits source target) : [target, source].Sublist names := by
  obtain ⟨-, emitted, run, -, perm, rfl⟩ := order_ok h
  obtain ⟨source_listed, target_listed, apart, edge, there, rfl, rfl⟩ := waits
  refine names_sublist source_listed target_listed fun i j inside at_i at_j => ?_
  obtain ⟨before, later, whole⟩ := List.append_of_mem (perm.mem_iff.mpr (List.mem_range.mpr inside))
  obtain ⟨added, same, steps⟩ := emit_steps run
  obtain rfl : emitted = added := by simpa using same
  simp only [List.nil_append] at steps
  -- when the source was chosen it waited for nothing, so its target had been emitted
  have nothing := pending_of_next? acyclic (steps before i later whole)
  have target_before : j ∈ before := by
    by_contra missing
    have pending : edge ∈ graph.pending before i := mem_pending.mpr ⟨there, at_i, apart.symm, j, at_j, missing⟩
    simp [nothing] at pending
  rw [whole]
  exact (List.singleton_sublist.mpr target_before).append (List.singleton_sublist.mpr List.mem_cons_self)

/-! ## The order -/

theorem exists_order (acyclic : graph.requiredCycle? = none) : ∃ names, graph.order = .ok names := by
  have start : ([] : List Nat).length + graph.nodes.length ≤ graph.nodes.length := by simp
  obtain ⟨emitted, run⟩ := emit_total acyclic start
  exact ⟨_, by rw [order, acyclic]; simp only [run]; rfl⟩

theorem order_of_cycle (found : graph.requiredCycle? = some edge) :
    graph.order = .error (.cyclic edge.source edge.target edge.field) := by
  rw [order, found]

/-- **Orders of graphs.** A graph has an order exactly if it has no required cycle, and the only error is the edge of
such a cycle: emission does not get stuck, whatever has been emitted. An order lists the nodes, each as often as the
graph does. Every required edge between two listed nodes has its target first, and so has every edge if no edges lead
from a node to others and back. -/
theorem order_total (graph : Graph) :
    ((∃ names, graph.order = .ok names) ↔ graph.requiredCycle? = none) ∧
    (∀ error, graph.order = .error error →
      ∃ edge, graph.requiredCycle? = some edge ∧ error = .cyclic edge.source edge.target edge.field) ∧
    (graph.requiredCycle? = none → ∀ emitted count, emitted.length + count ≤ graph.nodes.length →
      ∃ result, graph.emit count emitted = .ok result) ∧
    ∀ names, graph.order = .ok names →
      names.Perm graph.nodes ∧
      (∀ edge ∈ graph.edges, edge.nullable = false → edge.source ≠ edge.target → edge.source ∈ graph.nodes →
        edge.target ∈ graph.nodes → [edge.target, edge.source].Sublist names) ∧
      ((∀ name, ¬ Relation.TransGen graph.Waits name name) →
        ∀ edge ∈ graph.edges, edge.source ≠ edge.target → edge.source ∈ graph.nodes → edge.target ∈ graph.nodes →
          [edge.target, edge.source].Sublist names) := by
  refine ⟨⟨?_, exists_order⟩, ?_, fun acyclic emitted count => emit_total acyclic, fun names ordered => ⟨?_, ?_, ?_⟩⟩
  · rintro ⟨names, ordered⟩
    exact (order_ok ordered).1
  · intro error failed
    cases found : graph.requiredCycle? with
    | some edge => exact ⟨edge, rfl, Except.error.inj (failed.symm.trans (order_of_cycle found))⟩
    | none =>
      obtain ⟨names, ordered⟩ := exists_order found
      cases failed.symm.trans ordered
  · exact order_perm ordered
  · intro edge there required _ source target
    exact order_requires ordered ⟨source, target, edge, there, required, rfl, rfl⟩
  · intro acyclic edge there apart source target
    exact order_waits acyclic ordered ⟨source, target, apart, edge, there, rfl, rfl⟩

/-- Posts whose pinned comment may come later, comments that require their post and its author, and authors who may
be each other's editor. -/
def board : Graph where
  nodes := ["Comment", "Post", "Author"]
  edges := [⟨"Comment", "Post", "post", false⟩, ⟨"Post", "Comment", "pinned", true⟩,
    ⟨"Comment", "Author", "writer", false⟩, ⟨"Author", "Author", "editor", true⟩, ⟨"Post", "Label", "label", false⟩]

/-- Comments on posts, which may come later. -/
def guestbook : Graph where
  nodes := ["Comment", "Post"]
  edges := [⟨"Comment", "Post", "post", true⟩]

theorem guestbook_acyclic (name : String) : ¬ Relation.TransGen guestbook.Waits name name := by
  intro cycle
  obtain ⟨_, ⟨-, -, -, edge, there, from_name, -⟩, -⟩ := Relation.TransGen.head'_iff.mp cycle
  obtain ⟨_, -, ⟨-, -, -, other, other_there, -, to_name⟩⟩ := Relation.TransGen.tail'_iff.mp cycle
  obtain rfl := List.mem_singleton.mp there
  obtain rfl := List.mem_singleton.mp other_there
  exact absurd (to_name.trans from_name.symm) (by decide)

theorem order_total_board :
    board.order = .ok ["Author", "Post", "Comment"] ∧ board.requiredCycle? = none ∧
    ["Author", "Comment"].Sublist ["Author", "Post", "Comment"] ∧
    (∃ result, board.emit 2 [0] = .ok result) ∧ (∃ edge, knot.requiredCycle? = some edge) ∧
    ["Post", "Comment"].Sublist ["Post", "Comment"] := by
  have ordered : board.order = .ok ["Author", "Post", "Comment"] := by decide +kernel
  obtain ⟨exists_iff, -, going, orders⟩ := order_total board
  have acyclic := exists_iff.mp ⟨_, ordered⟩
  obtain ⟨-, required, -⟩ := orders _ ordered
  have before := required ⟨"Comment", "Author", "writer", false⟩ (by decide) rfl (by decide) (by decide) (by decide)
  obtain ⟨edge, found, -⟩ := (order_total knot).2.1 (.cyclic "Comment" "Post" "post") (by decide +kernel)
  obtain ⟨-, -, kept⟩ := (order_total guestbook).2.2.2 ["Post", "Comment"] (by decide +kernel)
  have deferrable := kept guestbook_acyclic ⟨"Comment", "Post", "post", true⟩
    (by decide) (by decide) (by decide) (by decide)
  exact ⟨ordered, acyclic, before, going acyclic [0] 2 (by decide), ⟨edge, found⟩, deferrable⟩

end ProtoStore.Graph
