import Mathlib.Order.WellFounded
import ProtoStore.Proofs.Schema.Search

/-!
# The search for required cycles

The active nodes are those on the way from the start of the search to the node it is at, and each of them leads
there through required edges: an edge back to one of them closes a cycle. A node that is done requires only nodes
that are done, each of them earlier than itself, so no chain of requirements comes back to it.

* `Sound` : what the marks say of the nodes at any time;
* `Explores.sound`, `Explores.closing` : a run along edges that reports nothing, and one that reports an edge;
* `Between` : what is true of the whole search after some of its starts, kept by each start (`Between.enter`);
* `search_ok`, `search_error` : the whole search that reports nothing, and one that reports an edge;
* `requires_wellFounded` : in a graph without a required cycle there are no endless requirements;
* `closing_edge` : the search reports an edge exactly if there is a required cycle, that edge is on one, and the
  search ends.
-/

namespace ProtoStore.Graph

variable {graph : Graph} {marks after : List Mark} {node next : Nat} {edges : List Edge} {edge report : Edge}
  {result : Except Edge (List Mark)} {name : String}

/-! ## What nodes require -/

/-- A listed node has an edge to another listed node that cannot wait. -/
def Requires (graph : Graph) (source target : String) : Prop :=
  source ∈ graph.nodes ∧ target ∈ graph.nodes ∧
    ∃ edge ∈ graph.edges, edge.nullable = false ∧ edge.source = source ∧ edge.target = target

/-- The search goes from one position to another. -/
def Needs (graph : Graph) (node next : Nat) : Prop :=
  ∃ edge ∈ graph.requiredFrom node, graph.lastIndex? edge.target = some next

theorem needs_of_requires {source target : String} (h : graph.Requires source target)
    (position : graph.nodes[node]? = some source) :
    ∃ next, graph.Needs node next ∧ graph.nodes[next]? = some target := by
  obtain ⟨-, listed, edge, there, required, rfl, rfl⟩ := h
  obtain ⟨next, last, at_next⟩ := lastIndex?_of_mem listed
  refine ⟨next, ⟨edge, ?_, last⟩, at_next⟩
  simp [requiredFrom, position, there, required]

/-- An edge that the search follows is a requirement of the node it comes from. -/
theorem requires_of_requiredFrom (there : edge ∈ graph.requiredFrom node)
    (leads : graph.lastIndex? edge.target = some next) :
    graph.nodes[node]? = some edge.source ∧ edge ∈ graph.edges ∧ edge.nullable = false ∧
      graph.Requires edge.source edge.target := by
  unfold requiredFrom at there
  split at there
  · next name position =>
    simp only [List.mem_filter, Bool.and_eq_true, Bool.not_eq_true', beq_iff_eq] at there
    obtain ⟨listed, required, rfl⟩ := there
    exact ⟨position, listed, required, List.mem_of_getElem? position, List.mem_of_getElem? (lastIndex?_ok leads),
      edge, listed, required, rfl, rfl⟩
  · cases there

/-! ## Nodes that are done -/

/-- The marks of a search. A node that is done starts no endless chain of requirements. -/
structure Sound (graph : Graph) (marks : List Mark) : Prop where
  length : marks.length = graph.nodes.length
  done : ∀ node : Nat, marks[node]? = some .done → Acc (fun next node => graph.Needs node next) node

theorem Sound.activate (sound : graph.Sound marks) (node : Nat) :
    graph.Sound (marks.set node .active) where
  length := by simpa using sound.length
  done i done := by
    have other : node ≠ i := by
      rintro rfl
      obtain ⟨inside, -⟩ := List.getElem?_eq_some_iff.mp done
      rw [List.length_set] at inside
      simp [List.getElem?_set_self inside] at done
    rw [List.getElem?_set_ne other] at done
    exact sound.done i done

theorem Sound.finish (sound : graph.Sound marks)
    (required : ∀ next, graph.Needs node next → marks[next]? = some .done) :
    graph.Sound (marks.set node .done) where
  length := by simpa using sound.length
  done i done := by
    rcases eq_or_ne node i with rfl | other
    · exact ⟨_, fun next needed => sound.done next (required next needed)⟩
    · rw [List.getElem?_set_ne other] at done
      exact sound.done i done

theorem Sound.inside (sound : graph.Sound marks) (leads : graph.lastIndex? name = some next) :
    next < marks.length :=
  sound.length ▸ lastIndex?_lt leads

/-- A run along edges that reports nothing leaves done what they lead to. -/
theorem Explores.sound (run : graph.Explores edges marks result) (h : result = .ok after)
    (sound : graph.Sound marks) :
    graph.Sound after ∧
      ∀ edge ∈ edges, ∀ next, graph.lastIndex? edge.target = some next → after[next]? = some .done := by
  induction run generalizing after with
  | finished =>
    cases h
    exact ⟨sound, by simp⟩
  | skipped idle rest ih =>
    obtain ⟨sound_after, others⟩ := ih h sound
    refine ⟨sound_after, List.forall_mem_cons.mpr ⟨fun next leads => ?_, others⟩⟩
    exact (rest.progress h).done next (idle next leads)
  | closed => cases h
  | reported => cases h
  | @entered edge edges marks inside next result leads fresh inner rest ih_inner ih_rest =>
    obtain ⟨sound_inside, required⟩ := ih_inner rfl (sound.activate next)
    have finished : graph.Sound (inside.set next .done) := by
      refine sound_inside.finish ?_
      rintro other ⟨needed, there, leads⟩
      exact required needed there other leads
    obtain ⟨sound_after, others⟩ := ih_rest h finished
    refine ⟨sound_after, List.forall_mem_cons.mpr ⟨fun other leads' => ?_, others⟩⟩
    obtain rfl := Option.some.inj (leads.symm.trans leads')
    exact (rest.progress h).done next (List.getElem?_set_self (sound_inside.inside leads))

/-- A run that reports an edge of a node, where every active node leads to that node, has found a cycle. -/
theorem Explores.closing (run : graph.Explores edges marks result) (h : result = .error report)
    (own : ∀ edge ∈ edges, edge ∈ graph.requiredFrom node) (position : graph.nodes[node]? = some name)
    (path : ∀ i : Nat, marks[i]? = some .active → ∀ other, graph.nodes[i]? = some other →
      Relation.ReflTransGen graph.Requires other name) :
    report ∈ graph.edges ∧ report.nullable = false ∧ graph.Requires report.source report.target ∧
      Relation.ReflTransGen graph.Requires report.target report.source := by
  induction run generalizing node name with
  | finished => cases h
  | skipped _ _ ih => exact ih h (List.forall_mem_cons.mp own).2 position path
  | closed leads active =>
    cases h
    obtain ⟨at_node, listed, required, requires⟩ := requires_of_requiredFrom (own _ List.mem_cons_self) leads
    obtain rfl := Option.some.inj (position.symm.trans at_node)
    exact ⟨listed, required, requires, path _ active _ (lastIndex?_ok leads)⟩
  | @reported edge report edges marks next leads fresh inner ih =>
    obtain ⟨at_node, -, -, requires⟩ := requires_of_requiredFrom (own edge List.mem_cons_self) leads
    obtain rfl := Option.some.inj (position.symm.trans at_node)
    refine ih h (fun _ there => there) (lastIndex?_ok leads) fun i active other at_i => ?_
    rcases eq_or_ne next i with rfl | apart
    · obtain rfl := Option.some.inj ((lastIndex?_ok leads).symm.trans at_i)
      exact .refl
    · rw [List.getElem?_set_ne apart] at active
      exact (path i active other at_i).tail requires
  | entered leads fresh inner _ _ ih =>
    refine ih h (List.forall_mem_cons.mp own).2 position fun i active other at_i => ?_
    exact path i (((inner.progress rfl).around fresh).active i |>.mp active) other at_i

/-! ## The whole search -/

/-- The search from one node, which does nothing where the node is reached already. -/
def enter (graph : Graph) (marks : List Mark) (node : Nat) : Except Edge (List Mark) :=
  match marks[node]? with
  | some .unvisited => graph.visit graph.nodes.length node marks
  | _ => .ok marks

theorem search_eq (graph : Graph) : graph.search =
    (List.range graph.nodes.length).foldlM graph.enter (graph.nodes.map fun _ => .unvisited) :=
  rfl

theorem enter_cases (sized : marks.length = graph.nodes.length) (listed : node < graph.nodes.length) :
    marks[node]? = some .unvisited ∧ graph.Visited node marks (graph.enter marks node) ∨
      marks[node]? ≠ some .unvisited ∧ graph.enter marks node = .ok marks := by
  unfold enter
  split
  · next fresh => exact .inl ⟨fresh, (visited_iff sized listed).mpr rfl⟩
  · next visited => exact .inr ⟨visited, rfl⟩

/-- Between two starts of the search no node is active, and those it started from are done. -/
structure Between (graph : Graph) (seen : List Nat) (marks : List Mark) : Prop where
  sound : graph.Sound marks
  idle : ∀ node : Nat, marks[node]? ≠ some .active
  done : ∀ node ∈ seen, marks[node]? = some .done

theorem Between.start (graph : Graph) : graph.Between [] (graph.nodes.map fun _ => .unvisited) := by
  refine ⟨⟨by simp, fun node done => ?_⟩, fun node active => ?_, by simp⟩
  · simp [List.getElem?_replicate] at done
  · simp [List.getElem?_replicate] at active

theorem Between.enter {seen : List Nat} (between : graph.Between seen marks) (listed : node < graph.nodes.length)
    (h : graph.enter marks node = .ok after) : graph.Between (seen ++ [node]) after := by
  have sized := between.sound.length
  have inside : node < marks.length := sized ▸ listed
  rcases enter_cases sized listed with ⟨fresh, inner, run, found⟩ | ⟨visited, unchanged⟩
  · obtain ⟨reached, rfl, rfl⟩ := Except.map_eq_ok.mp (found.symm.trans h)
    have kept := (run.progress rfl).around fresh
    obtain ⟨sound, required⟩ := run.sound rfl (between.sound.activate node)
    refine ⟨sound.finish ?_, fun i active => between.idle i ((kept.active i).mp active), fun i there => ?_⟩
    · rintro next ⟨edge, there, leads⟩
      exact required edge there next leads
    · rcases List.mem_append.mp there with before | here
      · exact kept.done i (between.done i before)
      · rw [List.mem_singleton.mp here]
        exact List.getElem?_set_self (by rwa [run.length rfl, List.length_set])
  · cases unchanged.symm.trans h
    refine ⟨between.sound, between.idle, fun i there => ?_⟩
    rcases List.mem_append.mp there with before | here
    · exact between.done i before
    · rw [List.mem_singleton.mp here]
      have idle := between.idle node
      rw [List.getElem?_eq_getElem inside] at idle visited ⊢
      cases mark : marks[node] with
      | unvisited => exact absurd (congrArg some mark) visited
      | active => exact absurd (congrArg some mark) idle
      | done => rfl

/-- Where the search finds no cycle, no node starts an endless chain of requirements. -/
theorem search_ok (h : graph.search = .ok after) (listed : node < graph.nodes.length) :
    Acc (fun next node => graph.Needs node next) node := by
  rw [search_eq] at h
  have between := List.foldlM_ok graph.Between (.start graph)
    (fun _ _ _ _ there between entered => between.enter (List.mem_range.mp there) entered) h
  exact between.sound.done node (between.done node (List.mem_range.mpr listed))

/-- The edge that the search reports requires a node from which required edges lead back. -/
theorem search_error (h : graph.search = .error report) :
    report ∈ graph.edges ∧ report.nullable = false ∧ graph.Requires report.source report.target ∧
      Relation.ReflTransGen graph.Requires report.target report.source := by
  rw [search_eq] at h
  obtain ⟨seen, node, marks, there, between, failed⟩ := List.foldlM_error graph.Between (.start graph)
    (fun _ _ _ _ there between entered => between.enter (List.mem_range.mp there) entered) h
  have listed := List.mem_range.mp there
  rcases enter_cases between.sound.length listed with ⟨fresh, inner, run, found⟩ | ⟨-, unchanged⟩
  · have position := List.getElem?_eq_getElem listed
    refine run.closing (Except.map_eq_error.mp (found.symm.trans failed)) (fun _ there => there) position ?_
    intro i active other at_i
    rcases eq_or_ne node i with rfl | apart
    · obtain rfl := Option.some.inj (position.symm.trans at_i)
      exact .refl
    · rw [List.getElem?_set_ne apart] at active
      exact absurd active (between.idle i)
  · cases unchanged.symm.trans failed

/-! ## Graphs without a required cycle -/

/-- In a graph without a required cycle there are no endless requirements. -/
theorem requires_wellFounded (h : graph.requiredCycle? = none) :
    WellFounded fun target source => graph.Requires source target := by
  have searched : ∃ marks, graph.search = .ok marks := by
    unfold requiredCycle? at h
    split at h
    · cases h
    · next marks found => exact ⟨marks, found⟩
  obtain ⟨marks, searched⟩ := searched
  have from_position {node : Nat} (acc : Acc (fun next node => graph.Needs node next) node) :
      ∀ name, graph.nodes[node]? = some name →
        Acc (fun target source => graph.Requires source target) name := by
    induction acc with
    | intro node _ ih =>
      refine fun name at_node => ⟨_, fun target required => ?_⟩
      obtain ⟨next, needed, at_next⟩ := needs_of_requires required at_node
      exact ih next needed target at_next
  refine ⟨fun name => ⟨_, fun target required => ?_⟩⟩
  obtain ⟨node, inside, at_node⟩ := List.getElem_of_mem required.2.1
  exact from_position (search_ok searched inside) target (at_node ▸ List.getElem?_eq_getElem inside)

/-- No node requires itself, not even through others. -/
theorem not_requires_self (h : graph.requiredCycle? = none) (name : String) :
    ¬ Relation.TransGen graph.Requires name name := by
  intro cycle
  have swapped := Relation.transGen_swap.mpr cycle
  exact (requires_wellFounded h).transGen.irrefl.irrefl name swapped

theorem requiredCycle?_some (h : graph.requiredCycle? = some edge) : graph.search = .error edge := by
  unfold requiredCycle? at h
  split at h
  · next found => exact Option.some.inj h ▸ found
  · cases h

/-- **Required cycles.** The search reports an edge exactly if a node requires itself, if only through others. The
edge that it reports is a required edge of the graph, and required edges lead from its target back to its source.
From every node and all marks the search has exactly one run, which gives what `visit` gives. -/
theorem closing_edge (graph : Graph) :
    ((∃ edge, graph.requiredCycle? = some edge) ↔ ∃ name, Relation.TransGen graph.Requires name name) ∧
    (∀ edge, graph.requiredCycle? = some edge →
      edge ∈ graph.edges ∧ edge.nullable = false ∧ graph.Requires edge.source edge.target ∧
        Relation.ReflTransGen graph.Requires edge.target edge.source) ∧
    ∀ node marks, node < graph.nodes.length → marks.length = graph.nodes.length →
      (∃! result, graph.Visited node marks result) ∧
        graph.Visited node marks (graph.visit graph.nodes.length node marks) := by
  refine ⟨⟨?_, ?_⟩, fun edge found => search_error (requiredCycle?_some found), fun node marks listed sized => ?_⟩
  · rintro ⟨edge, found⟩
    obtain ⟨-, -, requires, back⟩ := search_error (requiredCycle?_some found)
    exact ⟨edge.source, .head' requires back⟩
  · rintro ⟨name, cycle⟩
    refine Option.isSome_iff_exists.mp (Option.isSome_iff_ne_none.mpr fun none => ?_)
    exact not_requires_self none name cycle
  · have runs (result : Except Edge (List Mark)) : graph.Visited node marks result ↔
        graph.visit graph.nodes.length node marks = result := visited_iff sized listed
    exact ⟨⟨_, (runs _).mpr rfl, fun other run => ((runs other).mp run).symm⟩, (runs _).mpr rfl⟩

/-- Posts and comments that require each other, drafts of posts that may have another draft as their origin, and
authors that are not listed. -/
def knot : Graph where
  nodes := ["Draft", "Post", "Comment"]
  edges := [⟨"Draft", "Draft", "origin", true⟩, ⟨"Draft", "Post", "post", false⟩, ⟨"Post", "Author", "writer", false⟩,
    ⟨"Post", "Comment", "pinned", false⟩, ⟨"Comment", "Post", "post", false⟩]

theorem closing_edge_knot :
    knot.requiredCycle? = some ⟨"Comment", "Post", "post", false⟩ ∧
    Relation.ReflTransGen knot.Requires "Post" "Comment" ∧
    (∃ name, Relation.TransGen knot.Requires name name) ∧
    ∃! result, knot.Visited 0 [.unvisited, .active, .unvisited] result := by
  have found : knot.requiredCycle? = some ⟨"Comment", "Post", "post", false⟩ := by decide +kernel
  obtain ⟨reported, sound, runs⟩ := closing_edge knot
  obtain ⟨-, -, -, back⟩ := sound _ found
  exact ⟨found, back, reported.mp ⟨_, found⟩, (runs 0 _ (by decide) rfl).1⟩

end ProtoStore.Graph
