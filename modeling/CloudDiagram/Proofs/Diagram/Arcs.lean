import CloudDiagram.Proofs.Diagram.Placement

/-!
# The links answer as the lists do

The links of a diagram are filled once, from the nodes and then from the connections, and are
asked from then on instead of the two lists. Whatever stands in the lists, an id twice,
connections side by side, back and forth or from an id to itself, or ends that no node has,
the answers are those that reading through the lists would give.

Nothing in this depends on how arcs are kept. A graph may enter the ids of nodes and the ends
of connections among its own, and it may count an arc once or several times; as long as it
finds exactly the arcs that were entered, filling it in two rounds makes it find what the
links find. The ids that exist are kept apart from it, so the ends of connections, which such
a graph has as its nodes, do not become known.
-/

namespace CloudDiagram

variable {Graph : Type}

/-- How a graph is filled and asked. Of the library that keeps the arcs nothing else
is used. -/
structure ArcStore (Graph : Type) where
  /-- A graph without ids and arcs. -/
  empty : Graph
  /-- Enter an id. -/
  addNode (graph : Graph) (id : String) : Graph
  /-- Enter an arc, and the ids at its ends if they are new. -/
  addArc (graph : Graph) (source target : String) : Graph
  /-- Whether there is an arc from one id to the other. -/
  containsArc (graph : Graph) (source target : String) : Bool

namespace ArcStore

/-- An arc is found exactly if it was entered. Entering an id brings no arc, and an
arc that was entered stays and brings no other one. -/
structure Faithful (store : ArcStore Graph) : Prop where
  empty (source target : String) : store.containsArc store.empty source target = false
  addNode (graph : Graph) (id source target : String) :
    store.containsArc (store.addNode graph id) source target =
      store.containsArc graph source target
  addArc (graph : Graph) (first second source target : String) :
    store.containsArc (store.addArc graph first second) source target = true ↔
      store.containsArc graph source target = true ∨ first = source ∧ second = target

/-- Enter the ids of nodes, one after another; an id may come more than once. -/
def addNodes (store : ArcStore Graph) (graph : Graph) (nodes : List Node) : Graph :=
  nodes.foldl (fun graph node => store.addNode graph node.id) graph

/-- Enter connections, one after another, whether or not their ends are ids of
nodes. -/
def addEdges (store : ArcStore Graph) (graph : Graph) (edges : List Connection) : Graph :=
  edges.foldl (fun graph edge => store.addArc graph edge.source edge.target) graph

/-- The graph of a list of nodes and a list of connections, in two rounds: all nodes
first, and then all connections. -/
def ofLists (store : ArcStore Graph) (nodes : List Node) (edges : List Connection) : Graph :=
  store.addEdges (store.addNodes store.empty nodes) edges

variable {store : ArcStore Graph}

/-- Nodes bring no arcs, however many are entered and whatever the graph held
before. -/
theorem Faithful.addNodes (faithful : store.Faithful) (graph : Graph) (nodes : List Node)
    (source target : String) :
    store.containsArc (store.addNodes graph nodes) source target =
      store.containsArc graph source target := by
  induction nodes generalizing graph with
  | nil => rfl
  | cons node rest inductionHypothesis =>
    exact (inductionHypothesis _).trans (faithful.addNode graph node.id source target)

/-- Connections bring the arcs between their ends, in addition to those the graph
has. The induction is over the connections, and the graph changes from step to step.
-/
theorem Faithful.addEdges (faithful : store.Faithful) (graph : Graph) (edges : List Connection)
    (source target : String) :
    store.containsArc (store.addEdges graph edges) source target = true ↔
      store.containsArc graph source target = true ∨
        ∃ edge ∈ edges, edge.source = source ∧ edge.target = target := by
  induction edges generalizing graph with
  | nil => simp [ArcStore.addEdges]
  | cons edge rest inductionHypothesis =>
    have entered := faithful.addArc graph edge.source edge.target source target
    simp only [List.mem_cons, exists_eq_or_imp]
    rw [← or_assoc, ← entered]
    exact inductionHypothesis _

/-- The graph of a diagram has the arcs that its connections run along, and no
others. The nodes have no part in it. -/
theorem Faithful.containsArc_ofLists (faithful : store.Faithful) (nodes : List Node)
    (edges : List Connection) (source target : String) :
    store.containsArc (store.ofLists nodes edges) source target = true ↔
      ∃ edge ∈ edges, edge.source = source ∧ edge.target = target := by
  rw [ofLists, faithful.addEdges, faithful.addNodes, faithful.empty]
  simp

end ArcStore

namespace Links

/-- A connection dangles exactly if one of its ends is no node's id. It need not be
a connection of the diagram. -/
theorem isDangling_ofLists {nodes : List Node} {edges : List Connection} {edge : Connection} :
    (ofLists nodes edges).isDangling edge = true ↔
      (∀ node ∈ nodes, node.id ≠ edge.source) ∨ ∀ node ∈ nodes, node.id ≠ edge.target := by
  have unknown (id : String) : (!(ofLists nodes edges).known.contains id) = true ↔
      ∀ node ∈ nodes, node.id ≠ id := by
    rw [Bool.not_eq_true', ← Bool.not_eq_true, known_ofLists]
    simp
  rw [isDangling, Bool.or_eq_true, unknown, unknown]

/-- What the links of a diagram answer can be read off its lists. Two ids are joined
exactly if some connection runs from the first to the second, and any graph that
keeps arcs faithfully finds the same once it is filled with both lists. The networks
of an id are the network nodes that a connection leads to from it, in the order of
the nodes and each with what it describes; the id is placed in the first of them.
And a connection dangles, whether it is one of the diagram or not, exactly if one of
its ends is no node's id. -/
theorem links_answer_as_lists {store : ArcStore Graph} (faithful : store.Faithful)
    (nodes : List Node) (edges : List Connection) :
    let links := ofLists nodes edges
    (∀ source target,
      (links.connects source target = true ↔
        ∃ edge ∈ edges, edge.source = source ∧ edge.target = target) ∧
      links.connects source target =
        store.containsArc (store.ofLists nodes edges) source target) ∧
    (∀ source,
      let targets := nodes.filter fun node =>
        node.kind? = some .network ∧ ∃ edge ∈ edges, edge.source = source ∧ edge.target = node.id
      (links.networksOf nodes source).map Prod.fst = targets ∧
      (∀ found ∈ links.networksOf nodes source, found.1.network? = some found.2) ∧
      links.containingNetwork? nodes source = targets.head?.bind Node.network?) ∧
    ∀ edge, links.isDangling edge = true ↔
      (∀ node ∈ nodes, node.id ≠ edge.source) ∨ ∀ node ∈ nodes, node.id ≠ edge.target := by
  intro links
  refine ⟨?_, ?_, fun edge => isDangling_ofLists⟩
  · intro source target
    have joined : links.connects source target = true ↔
        ∃ edge ∈ edges, edge.source = source ∧ edge.target = target := connects_ofLists
    have found := faithful.containsArc_ofLists nodes edges source target
    exact ⟨joined, Bool.eq_iff_iff.mpr (joined.trans found.symm)⟩
  · intro source targets
    refine ⟨map_fst_networksOf nodes edges source, ?_, containingNetwork?_ofLists nodes edges source⟩
    intro found member
    rw [networksOf_ofLists] at member
    obtain ⟨node, -, described⟩ := List.mem_filterMap.mp member
    obtain ⟨network, same, rfl⟩ := Option.map_eq_some_iff.mp described
    exact same

end Links

/-- A graph that lists its ids and its arcs, each of them once. The ends of an arc
become ids of the graph, as they do in graphs that have no arcs without nodes. -/
def ArcStore.listed : ArcStore (List String × List (String × String)) where
  empty := ([], [])
  addNode graph id := (graph.1.insert id, graph.2)
  addArc graph source target :=
    ((graph.1.insert source).insert target, graph.2.insert (source, target))
  containsArc graph source target := (source, target) ∈ graph.2

/-- Arcs are kept faithfully in a list, so the condition on graphs can be met. -/
theorem ArcStore.listed_faithful : listed.Faithful where
  empty source target := by simp [listed]
  addNode graph id source target := rfl
  addArc graph first second source target := by
    simp only [listed, decide_eq_true_eq, List.mem_insert_iff, Prod.mk.injEq]
    rw [or_comm, @eq_comm _ first, @eq_comm _ second]

/-- Two networks and a bucket bear one id, and an instance is joined to it twice, to itself and
to an id that no node has, while the networks are joined back to it. -/
theorem Links.answers_about_shared_ids :
    let network (name : String) : Node :=
      { id := "n", payload := .network { name, cidrBlock := "10.0.0.0/16" } }
    let machine : Node :=
      { id := "c", payload := .compute { instanceType := "t2.micro", machineImage := "ami-1" } }
    let bucket : Node := { id := "n", payload := .storage { bucketName := "logs" } }
    let nodes : List Node := [network "prod", bucket, machine, network "test"]
    let edges : List Connection :=
      [⟨"e1", "c", "n"⟩, ⟨"e2", "n", "c"⟩, ⟨"e3", "c", "c"⟩, ⟨"e4", "c", "n"⟩, ⟨"e5", "c", "y"⟩]
    let links := ofLists nodes edges
    let graph := ArcStore.listed.ofLists nodes edges
    ArcStore.listed.Faithful ∧ graph.1.contains "y" = true ∧
      links.connects "c" "n" = ArcStore.listed.containsArc graph "c" "n" ∧
      (links.networksOf nodes "c").map Prod.fst = [network "prod", network "test"] ∧
      links.isDangling ⟨"e5", "c", "y"⟩ = true := by
  intro network machine bucket nodes edges links graph
  obtain ⟨joined, placed, dangling⟩ :=
    links_answer_as_lists ArcStore.listed_faithful nodes edges
  refine ⟨ArcStore.listed_faithful, by decide, (joined "c" "n").2, ?_, ?_⟩
  · rw [(placed "c").1]
    decide
  · exact (dangling ⟨"e5", "c", "y"⟩).mpr (Or.inr (by decide))

end CloudDiagram
