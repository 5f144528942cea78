import Mathlib.Data.List.Count
import ProtoStore.Proofs.Except
import ProtoStore.Schema.Graph

/-!
# The search and its runs

`Graph.visit` is told how deep it may go. `Explores` is the search without such a bound, as rules whose derivations
are the runs that end. What is said of searches is proved by induction on these runs.

* `Progress` : what marks a search keeps;
* `Explores`, `Visited` : the runs along edges and from a node;
* `Explores.unique` : a search has one run at most;
* `Explores.length`, `Explores.progress` : what a run does to the marks;
* `explores_foldlM`, `visited_iff` : a search has a run, and its result is that of the search bounded by the number of
  nodes.
-/

namespace ProtoStore.Graph

variable {graph : Graph} {marks middle after : List Mark} {depth node next : Nat} {edges : List Edge}
  {result : Except Edge (List Mark)}

theorem lastIndex?_ok {name : String} {i : Nat} (h : graph.lastIndex? name = some i) :
    graph.nodes[i]? = some name := by
  unfold lastIndex? at h
  obtain ⟨j, found, rfl⟩ := Option.map_eq_some_iff.mp h
  obtain ⟨inside, at_j, -⟩ := List.idxOf?_eq_some_iff.mp found
  rw [List.length_reverse] at inside
  rw [List.getElem_reverse] at at_j
  rw [List.getElem?_eq_getElem (by omega)]
  simpa using at_j

theorem lastIndex?_lt {name : String} {i : Nat} (h : graph.lastIndex? name = some i) : i < graph.nodes.length :=
  (List.getElem?_eq_some_iff.mp (lastIndex?_ok h)).1

theorem lastIndex?_of_mem {name : String} (h : name ∈ graph.nodes) :
    ∃ i, graph.lastIndex? name = some i ∧ graph.nodes[i]? = some name := by
  have listed : (graph.nodes.reverse.idxOf? name).isSome := by simpa using h
  obtain ⟨j, found⟩ := Option.isSome_iff_exists.mp listed
  have last : graph.lastIndex? name = some (graph.nodes.length - 1 - j) := by
    simp [lastIndex?, found]
  exact ⟨_, last, lastIndex?_ok last⟩

/-! ## Marks -/

/-- What is done stays done, what is active stays so, and nothing becomes either active or unvisited. -/
structure Progress (marks after : List Mark) : Prop where
  done : ∀ node : Nat, marks[node]? = some .done → after[node]? = some .done
  active : ∀ node : Nat, after[node]? = some .active ↔ marks[node]? = some .active
  unvisited : after.count .unvisited ≤ marks.count .unvisited

theorem Progress.refl (marks : List Mark) : Progress marks marks :=
  ⟨fun _ => id, fun _ => .rfl, Nat.le_refl _⟩

theorem Progress.trans (first : Progress marks middle) (second : Progress middle after) :
    Progress marks after where
  done node done := second.done node (first.done node done)
  active node := (second.active node).trans (first.active node)
  unvisited := Nat.le_trans second.unvisited first.unvisited

theorem count_set_active (fresh : marks[node]? = some .unvisited) :
    (marks.set node .active).count .unvisited + 1 = marks.count .unvisited := by
  obtain ⟨inside, at_node⟩ := List.getElem?_eq_some_iff.mp fresh
  have positive : 0 < marks.count .unvisited :=
    List.count_pos_iff.mpr (at_node ▸ List.getElem_mem inside)
  rw [List.count_set inside, at_node]
  simp
  omega

theorem count_set_done (marks : List Mark) (node : Nat) :
    (marks.set node .done).count .unvisited ≤ marks.count .unvisited := by
  rcases Nat.lt_or_ge node marks.length with inside | outside
  · rw [List.count_set inside]
    simp
  · exact (List.set_eq_of_length_le outside).symm ▸ Nat.le_refl _

/-- A node is active only while it is searched. -/
theorem Progress.around (fresh : marks[node]? = some .unvisited)
    (inner : Progress (marks.set node .active) after) : Progress marks (after.set node .done) where
  done i done := by
    have other : node ≠ i := by
      rintro rfl
      simp [fresh] at done
    rw [List.getElem?_set_ne other]
    exact inner.done i (by rwa [List.getElem?_set_ne other])
  active i := by
    rcases eq_or_ne node i with rfl | other
    · rw [fresh, List.getElem?_set, if_pos rfl]
      split <;> simp
    · rw [List.getElem?_set_ne other, inner.active, List.getElem?_set_ne other]
  unvisited := by
    have := count_set_active fresh
    have := inner.unvisited
    have := count_set_done after node
    omega

/-! ## Runs -/

/-- A run of the search along the edges of an active node, one after the other. It ends where no edge is left, or at
the first edge that leads to an active node. -/
inductive Explores (graph : Graph) : List Edge → List Mark → Except Edge (List Mark) → Prop
  | finished {marks : List Mark} : Explores graph [] marks (.ok marks)
  /-- Nothing is to be done for an edge that leads to no listed node, or to one that is done. -/
  | skipped {edge : Edge} {edges : List Edge} {marks : List Mark} {result : Except Edge (List Mark)}
      (idle : ∀ next, graph.lastIndex? edge.target = some next → marks[next]? = some .done)
      (rest : Explores graph edges marks result) : Explores graph (edge :: edges) marks result
  | closed {edge : Edge} {edges : List Edge} {marks : List Mark} {next : Nat}
      (leads : graph.lastIndex? edge.target = some next) (active : marks[next]? = some .active) :
      Explores graph (edge :: edges) marks (.error edge)
  /-- The search from the node that an edge leads to reports an edge, and the search ends. -/
  | reported {edge report : Edge} {edges : List Edge} {marks : List Mark} {next : Nat}
      (leads : graph.lastIndex? edge.target = some next) (fresh : marks[next]? = some .unvisited)
      (inner : Explores graph (graph.requiredFrom next) (marks.set next .active) (.error report)) :
      Explores graph (edge :: edges) marks (.error report)
  /-- The search from the node that an edge leads to reports nothing, and the search goes on. -/
  | entered {edge : Edge} {edges : List Edge} {marks inside : List Mark} {next : Nat}
      {result : Except Edge (List Mark)} (leads : graph.lastIndex? edge.target = some next)
      (fresh : marks[next]? = some .unvisited)
      (inner : Explores graph (graph.requiredFrom next) (marks.set next .active) (.ok inside))
      (rest : Explores graph edges (inside.set next .done) result) : Explores graph (edge :: edges) marks result

/-- A run of the search from a node: the node is active while its edges are searched, and done afterwards. -/
def Visited (graph : Graph) (node : Nat) (marks : List Mark) (result : Except Edge (List Mark)) : Prop :=
  ∃ inner, graph.Explores (graph.requiredFrom node) (marks.set node .active) inner ∧
    result = inner.map (·.set node .done)

theorem Explores.unique {other : Except Edge (List Mark)} (run : graph.Explores edges marks result)
    (again : graph.Explores edges marks other) : result = other := by
  induction run generalizing other with
  | finished => cases again; rfl
  | skipped idle _ ih =>
    cases again with
    | skipped _ rest => exact ih rest
    | closed leads active => simp [idle _ leads] at active
    | reported leads fresh _ => simp [idle _ leads] at fresh
    | entered leads fresh _ _ => simp [idle _ leads] at fresh
  | closed leads active =>
    cases again with
    | skipped idle _ => simp [idle _ leads] at active
    | closed => rfl
    | reported leads' fresh _ => simp_all
    | entered leads' fresh _ _ => simp_all
  | reported leads fresh _ ih =>
    cases again with
    | skipped idle _ => simp [idle _ leads] at fresh
    | closed leads' active => simp_all
    | reported leads' _ inner =>
      obtain rfl := Option.some.inj (leads.symm.trans leads')
      exact ih inner
    | entered leads' _ inner _ =>
      obtain rfl := Option.some.inj (leads.symm.trans leads')
      cases ih inner
  | entered leads fresh _ _ ih_inner ih_rest =>
    cases again with
    | skipped idle _ => simp [idle _ leads] at fresh
    | closed leads' active => simp_all
    | reported leads' _ inner =>
      obtain rfl := Option.some.inj (leads.symm.trans leads')
      cases ih_inner inner
    | entered leads' _ inner rest =>
      obtain rfl := Option.some.inj (leads.symm.trans leads')
      cases ih_inner inner
      exact ih_rest rest

theorem Explores.length (run : graph.Explores edges marks result) (h : result = .ok after) :
    after.length = marks.length := by
  induction run generalizing after with
  | finished => cases h; rfl
  | skipped _ _ ih => exact ih h
  | closed => cases h
  | reported => cases h
  | entered _ _ _ _ ih_inner ih_rest => rw [ih_rest h, List.length_set, ih_inner rfl, List.length_set]

theorem Explores.progress (run : graph.Explores edges marks result) (h : result = .ok after) :
    Progress marks after := by
  induction run generalizing after with
  | finished => cases h; exact .refl _
  | skipped _ _ ih => exact ih h
  | closed => cases h
  | reported => cases h
  | entered _ fresh _ _ ih_inner ih_rest => exact ((ih_inner rfl).around fresh).trans (ih_rest h)

/-! ## The bounded search -/

/-- The search along one edge. -/
def follow (graph : Graph) (depth : Nat) (marks : List Mark) (edge : Edge) :
    Except Edge (List Mark) :=
  match graph.lastIndex? edge.target with
  | none => .ok marks
  | some next =>
    match marks[next]? with
    | some .active => .error edge
    | some .unvisited => graph.visit depth next marks
    | _ => .ok marks

theorem visit_succ (graph : Graph) (depth node : Nat) (marks : List Mark) :
    graph.visit (depth + 1) node marks =
      ((graph.requiredFrom node).foldlM (graph.follow depth) (marks.set node .active)).map (·.set node .done) :=
  rfl

/-- As deep as there are unvisited nodes, the bounded search along edges does what the search does. -/
theorem explores_foldlM (sized : marks.length = graph.nodes.length) (enough : marks.count .unvisited ≤ depth) :
    graph.Explores edges marks (edges.foldlM (graph.follow depth) marks) := by
  induction depth using Nat.strongRecOn generalizing edges marks with | ind depth deeper =>
  induction edges generalizing marks with
  | nil => exact .finished
  | cons edge edges ih =>
    rw [List.foldlM_cons]
    cases leads : graph.lastIndex? edge.target with
    | none =>
      have ignored : graph.follow depth marks edge = .ok marks := by simp [follow, leads]
      rw [ignored]
      exact .skipped (by simp [leads]) (ih sized enough)
    | some next =>
      have inside : next < marks.length := sized ▸ lastIndex?_lt leads
      have at_next := List.getElem?_eq_getElem inside
      cases mark : marks[next] with
      | active =>
        rw [mark] at at_next
        have stopped : graph.follow depth marks edge = .error edge := by simp [follow, leads, at_next]
        rw [stopped]
        exact .closed leads at_next
      | done =>
        rw [mark] at at_next
        have passed : graph.follow depth marks edge = .ok marks := by simp [follow, leads, at_next]
        rw [passed]
        exact .skipped (by simpa [leads] using at_next) (ih sized enough)
      | unvisited =>
        rw [mark] at at_next
        have fewer := count_set_active at_next
        obtain ⟨below, rfl⟩ : ∃ below, depth = below + 1 := Nat.exists_eq_add_one.mpr (by omega)
        have followed : graph.follow (below + 1) marks edge =
            ((graph.requiredFrom next).foldlM (graph.follow below) (marks.set next .active)).map
              (·.set next .done) := by
          simp [follow, leads, at_next, visit_succ]
        have inner : graph.Explores (graph.requiredFrom next) (marks.set next .active)
            ((graph.requiredFrom next).foldlM (graph.follow below) (marks.set next .active)) :=
          deeper below (by omega) (by simpa using sized) (by omega)
        rw [followed]
        generalize (graph.requiredFrom next).foldlM (graph.follow below) (marks.set next .active) = found at inner ⊢
        cases found with
        | error report => exact .reported leads at_next inner
        | ok reached =>
          have kept := (inner.progress rfl).around at_next
          refine .entered leads at_next inner (ih ?_ (Nat.le_trans kept.unvisited enough))
          rw [List.length_set, inner.length rfl, List.length_set, sized]

/-- The search from a listed node has one run, and its result is that of the search as deep as there are nodes. -/
theorem visited_iff (sized : marks.length = graph.nodes.length) (listed : node < graph.nodes.length) :
    graph.Visited node marks result ↔ graph.visit graph.nodes.length node marks = result := by
  obtain ⟨depth, size⟩ : ∃ depth, graph.nodes.length = depth + 1 := Nat.exists_eq_add_one.mpr (by omega)
  have enough : (marks.set node .active).count .unvisited ≤ depth := by
    have bound : (marks.set node .active).count .unvisited < (marks.set node .active).length := by
      exact List.count_lt_length_iff.mpr ⟨.active, List.mem_set (sized ▸ listed) _, by decide⟩
    rw [List.length_set] at bound
    omega
  have run : graph.Explores (graph.requiredFrom node) (marks.set node .active)
      ((graph.requiredFrom node).foldlM (graph.follow depth) (marks.set node .active)) :=
    explores_foldlM (by simpa using sized) enough
  rw [size, visit_succ]
  constructor
  · rintro ⟨inner, other, rfl⟩
    rw [run.unique other]
  · rintro rfl
    exact ⟨_, run, rfl⟩

end ProtoStore.Graph
