import OhMyClass.Contracts.Plans
import OhMyClass.Graph.Walks

/-!
# Prerequisite depth of a lesson sequence

The validator asks for every session how deep its chain of prerequisites is, and
takes for it the distance of the ancestor that is farthest away.  Where there is
a short way beside the long one that is less than the longest chain.
-/

namespace OhMyClass.Middleware

open List OhMyClass.Contracts OhMyClass.Graph Relation

/-! ## Directed graphs -/

/-- A directed graph as it was built; every edge is between nodes of it. -/
structure DiGraph where
  nodes : List String
  edges : List (String × String)
  ends_mem : ∀ edge ∈ edges, edge.1 ∈ nodes ∧ edge.2 ∈ nodes

namespace DiGraph

def empty : DiGraph := ⟨[], [], by simp⟩

def addNode (graph : DiGraph) (node : String) : DiGraph :=
  if node ∈ graph.nodes then graph
  else
    { graph with
      nodes := graph.nodes ++ [node]
      ends_mem := fun edge member =>
        (graph.ends_mem edge member).imp (List.mem_append_left _) (List.mem_append_left _) }

variable {graph : DiGraph}

@[simp]
theorem mem_nodes_addNode {node other : String} :
    other ∈ (graph.addNode node).nodes ↔ other ∈ graph.nodes ∨ other = node := by
  unfold addNode
  split
  next known =>
    constructor
    · exact Or.inl
    · rintro (old | rfl)
      · exact old
      · exact known
  next => simp

/-- Both ends become nodes; an edge that is there already is not added again. -/
def addEdge (graph : DiGraph) (edge : String × String) : DiGraph :=
  let graph := (graph.addNode edge.1).addNode edge.2
  if edge ∈ graph.edges then graph
  else
    { graph with
      edges := graph.edges ++ [edge]
      ends_mem := by
        intro other member
        rcases List.mem_append.mp member with old | new
        · exact graph.ends_mem other old
        · rw [List.mem_singleton.mp new]
          simp [graph] }

theorem mem_nodes_addEdge {edge : String × String} {node : String} (member : node ∈ graph.nodes) :
    node ∈ (graph.addEdge edge).nodes := by
  unfold addEdge
  dsimp only
  split <;> simp [member]

/-- The nodes that are kept and the edges among them. -/
def subgraph (graph : DiGraph) (kept : List String) : DiGraph where
  nodes := graph.nodes.filter (· ∈ kept)
  edges := graph.edges.filter fun edge => edge.1 ∈ kept ∧ edge.2 ∈ kept
  ends_mem := by
    intro edge member
    simp only [List.mem_filter, decide_eq_true_eq] at member ⊢
    rcases member with ⟨isEdge, firstKept, secondKept⟩
    rcases graph.ends_mem edge isEdge with ⟨first, second⟩
    exact ⟨⟨first, firstKept⟩, second, secondKept⟩

theorem edge_subgraph {kept : List String} {first second : String} :
    Edge (graph.subgraph kept).edges first second ↔
      Edge graph.edges first second ∧ first ∈ kept ∧ second ∈ kept := by
  simp [Edge, subgraph]

theorem mem_nodes_of_reaches {source target : String}
    (reaches : ReflTransGen (Edge graph.edges) source target) (member : target ∈ graph.nodes) :
    source ∈ graph.nodes := by
  rcases reaches.cases_head with rfl | ⟨next, taken, _⟩
  · exact member
  · exact (graph.ends_mem _ taken).1

end DiGraph

/-- What the validator uses of networkx, on nodes of the graph.  `none` stands
for `NetworkXNoPath`. -/
structure Networkx where
  ancestors : DiGraph → String → List String
  hasPath : DiGraph → String → String → Bool
  shortestPathLength : DiGraph → String → String → Option Nat
  mem_ancestors : ∀ graph target, target ∈ graph.nodes → ∀ source,
    source ∈ ancestors graph target ↔
      source ≠ target ∧ ReflTransGen (Edge graph.edges) source target
  hasPath_iff : ∀ graph source target, source ∈ graph.nodes → target ∈ graph.nodes →
    (hasPath graph source target = true ↔ ReflTransGen (Edge graph.edges) source target)
  shortestPathLength_iff : ∀ graph source target length, source ∈ graph.nodes →
    target ∈ graph.nodes →
    (shortestPathLength graph source target = some length ↔
      IsLeast {length | Walk graph.edges length source target} length)

inductive ConsistencyRule where
  | cycle
  | bloomRule
  | cltOverload
  | durationDrift
  | sessionCountNorm
  | prereqDepth
  deriving DecidableEq

inductive ConsistencySeverity where
  | hard
  | advisory
  deriving DecidableEq

structure ConsistencyIssue where
  rule : ConsistencyRule
  severity : ConsistencySeverity
  message : String
  sessionId : Option String
  deriving DecidableEq

def sessionGraph (sequence : LessonSequence) : DiGraph :=
  sequence.sessions.foldl
    (fun graph session =>
      (session.prerequisiteSessions.map (·, session.sessionId)).foldl DiGraph.addEdge graph)
    (sequence.sessionIds.foldl DiGraph.addNode .empty)

/-- `none` where networkx, or `max` of nothing, raises. -/
def longestPrerequisiteDepth (networkx : Networkx) (graph : DiGraph) (sessionId : String) :
    Option Nat :=
  let ancestors := networkx.ancestors graph sessionId
  if ancestors = [] then some 0
  else do
    let subgraph := graph.subgraph (ancestors ++ [sessionId])
    let lengths ← (ancestors.filter (networkx.hasPath subgraph · sessionId)).mapM
      (networkx.shortestPathLength subgraph · sessionId)
    lengths.max?

def prerequisiteDepthIssue (session : SessionPlan) : ConsistencyIssue where
  rule := .prereqDepth
  severity := .hard
  sessionId := some session.sessionId
  message := "Prerequisite chain exceeds 3 unmastered levels."

def prerequisiteDepthIssues (networkx : Networkx) (graph : DiGraph) :
    List SessionPlan → Option (List ConsistencyIssue)
  | [] => some []
  | session :: rest => do
    let depth ← longestPrerequisiteDepth networkx graph session.sessionId
    let issues ← prerequisiteDepthIssues networkx graph rest
    return if depth > 3 then prerequisiteDepthIssue session :: issues else issues

/-! ## The depth -/

theorem mem_nodes_sessionGraph {sequence : LessonSequence} {sessionId : String}
    (member : sessionId ∈ sequence.sessionIds) : sessionId ∈ (sessionGraph sequence).nodes := by
  have added : ∀ (ids : List String) (graph : DiGraph),
      sessionId ∈ graph.nodes ∨ sessionId ∈ ids → sessionId ∈ (ids.foldl .addNode graph).nodes := by
    intro ids
    induction ids with
    | nil => simp
    | cons id ids ih =>
      intro graph known
      refine ih (graph.addNode id) ?_
      simpa [or_assoc] using known
  have keptByEdges (edges : List (String × String)) (graph : DiGraph)
      (known : sessionId ∈ graph.nodes) : sessionId ∈ (edges.foldl .addEdge graph).nodes :=
    List.foldlRecOn (motive := fun (graph : DiGraph) => sessionId ∈ graph.nodes) edges _ known
      fun _ known _ _ => DiGraph.mem_nodes_addEdge known
  exact List.foldlRecOn (motive := fun (graph : DiGraph) => sessionId ∈ graph.nodes) _ _
    (added _ _ (Or.inr member)) fun graph known _ _ => keptByEdges _ graph known

/-- The distances from which a node is reached. -/
def distances (edges : List (String × String)) (target : String) : Set Nat :=
  {length | ∃ source, IsLeast {length | Walk edges length source target} length}

section

variable {networkx : Networkx} {graph : DiGraph} {sessionId : String} {source : String}

section

variable (member : sessionId ∈ graph.nodes)

include member

theorem walk_subgraph_ancestors {length : Nat} :
    Walk (graph.subgraph (networkx.ancestors graph sessionId ++ [sessionId])).edges length source
        sessionId ↔ Walk graph.edges length source sessionId := by
  have kept (node : String) (reaches : ReflTransGen (Edge graph.edges) node sessionId) :
      node ∈ networkx.ancestors graph sessionId ++ [sessionId] := by
    by_cases isTarget : node = sessionId
    · exact mem_append_right _ (mem_singleton.mpr isTarget)
    · exact mem_append_left _
        ((networkx.mem_ancestors graph sessionId member node).mpr ⟨isTarget, reaches⟩)
  constructor
  · intro walk
    exact walk.mono fun first second taken _ => (DiGraph.edge_subgraph.mp taken).1
  · intro walk
    refine walk.mono fun first second taken reaches => DiGraph.edge_subgraph.mpr ⟨taken, ?_, ?_⟩
    · exact kept first (ReflTransGen.head taken reaches)
    · exact kept second reaches

theorem mem_nodes_subgraph_ancestors
    (isSource : source ∈ networkx.ancestors graph sessionId ++ [sessionId]) :
    source ∈ (graph.subgraph (networkx.ancestors graph sessionId ++ [sessionId])).nodes := by
  refine mem_filter.mpr ⟨?_, decide_eq_true isSource⟩
  rcases mem_append.mp isSource with isAncestor | isTarget
  · exact DiGraph.mem_nodes_of_reaches
      ((networkx.mem_ancestors graph sessionId member source).mp isAncestor).2 member
  · rw [mem_singleton.mp isTarget]
    exact member

theorem shortestPathLength_ancestor (isAncestor : source ∈ networkx.ancestors graph sessionId)
    {length : Nat} :
    networkx.shortestPathLength
        (graph.subgraph (networkx.ancestors graph sessionId ++ [sessionId])) source sessionId =
        some length ↔ IsLeast {length | Walk graph.edges length source sessionId} length := by
  rw [networkx.shortestPathLength_iff _ _ _ _
    (mem_nodes_subgraph_ancestors member (mem_append_left _ isAncestor))
    (mem_nodes_subgraph_ancestors member (mem_append_right _ (mem_singleton_self _)))]
  simp only [walk_subgraph_ancestors member]

theorem hasPath_ancestor (isAncestor : source ∈ networkx.ancestors graph sessionId) :
    networkx.hasPath (graph.subgraph (networkx.ancestors graph sessionId ++ [sessionId])) source
      sessionId = true := by
  refine (networkx.hasPath_iff _ _ _
    (mem_nodes_subgraph_ancestors member (mem_append_left _ isAncestor))
    (mem_nodes_subgraph_ancestors member
      (mem_append_right _ (mem_singleton_self _)))).mpr ?_
  rw [reflTransGen_iff_walk]
  simp only [walk_subgraph_ancestors member]
  rw [← reflTransGen_iff_walk]
  exact ((networkx.mem_ancestors graph sessionId member source).mp isAncestor).2

end

theorem mapM_eq_some_map {α β : Type*} {f : α → Option β} {value : α → β} {list : List α}
    (isValue : ∀ x ∈ list, f x = some (value x)) : list.mapM f = some (list.map value) := by
  induction list with
  | nil => rfl
  | cons x list ih =>
    rw [forall_mem_cons] at isValue
    simp [isValue.1, ih isValue.2]

theorem longestPrerequisiteDepth_spec (networkx : Networkx)
    (member : sessionId ∈ graph.nodes) :
    ∃ depth, longestPrerequisiteDepth networkx graph sessionId = some depth ∧
      IsGreatest (distances graph.edges sessionId) depth := by
  have atTarget : IsLeast {length | Walk graph.edges length sessionId sessionId} 0 :=
    ⟨rfl, fun _ _ => Nat.zero_le _⟩
  have isAncestor_of_walk {source : String} {length : Nat}
      (walk : Walk graph.edges length source sessionId) (other : source ≠ sessionId) :
      source ∈ networkx.ancestors graph sessionId :=
    (networkx.mem_ancestors graph sessionId member source).mpr ⟨other, walk.reflTransGen⟩
  rw [longestPrerequisiteDepth]
  by_cases none : networkx.ancestors graph sessionId = []
  · refine ⟨0, if_pos none, ⟨sessionId, atTarget⟩, ?_⟩
    rintro length ⟨source, least⟩
    by_cases isTarget : source = sessionId
    · subst isTarget
      exact least.2 rfl
    · have isAncestor := isAncestor_of_walk least.1 isTarget
      rw [none] at isAncestor
      cases isAncestor
  · dsimp only
    rw [if_neg none, filter_eq_self.mpr fun source => hasPath_ancestor member]
    have found (source : String) (isAncestor : source ∈ networkx.ancestors graph sessionId) :
        ∃ length, IsLeast {length | Walk graph.edges length source sessionId} length := by
      have reaches := ((networkx.mem_ancestors graph sessionId member source).mp isAncestor).2
      exact ⟨_, isLeast_csInf (reflTransGen_iff_walk.mp reaches)⟩
    choose! distance isLeast using found
    rw [mapM_eq_some_map fun source isAncestor =>
      (shortestPathLength_ancestor member isAncestor).mpr (isLeast source isAncestor)]
    have nonempty : (networkx.ancestors graph sessionId).map distance ≠ [] := by simpa using none
    obtain ⟨depth, isMax⟩ := Option.ne_none_iff_exists'.mp (List.max?_eq_none_iff.not.mpr nonempty)
    refine ⟨depth, isMax, ?_⟩
    rw [List.max?_eq_some_iff] at isMax
    rcases isMax with ⟨isDistance, greatest⟩
    constructor
    · rcases mem_map.mp isDistance with ⟨source, isAncestor, rfl⟩
      exact ⟨source, isLeast source isAncestor⟩
    · rintro length ⟨source, least⟩
      by_cases isTarget : source = sessionId
      · subst isTarget
        exact Nat.le_trans (least.2 rfl) (Nat.zero_le depth)
      · have isAncestor := isAncestor_of_walk least.1 isTarget
        rw [least.unique (isLeast source isAncestor)]
        exact greatest _ (mem_map_of_mem isAncestor)

theorem mem_prerequisiteDepthIssues (networkx : Networkx) {sessions : List SessionPlan}
    (known : ∀ session ∈ sessions, session.sessionId ∈ graph.nodes) :
    ∃ issues, prerequisiteDepthIssues networkx graph sessions = some issues ∧
      ∀ issue, issue ∈ issues ↔
        ∃ session ∈ sessions, issue = prerequisiteDepthIssue session ∧
          ∃ depth, longestPrerequisiteDepth networkx graph session.sessionId = some depth ∧
            depth > 3 := by
  induction sessions with
  | nil => exact ⟨[], rfl, by simp⟩
  | cons session rest ih =>
    rw [forall_mem_cons] at known
    rcases longestPrerequisiteDepth_spec networkx known.1 with ⟨depth, isDepth, _⟩
    rcases ih known.2 with ⟨issues, areIssues, mem_issues⟩
    refine ⟨_, by simp [prerequisiteDepthIssues, isDepth, areIssues]; rfl, fun issue => ?_⟩
    by_cases deep : depth > 3
    · simp [deep, mem_issues, isDepth]
    · simp [deep, mem_issues, isDepth]

end

/-- The depth of the session is its longest chain of prerequisites, and it is
reported exactly where some chain has more than three levels. -/
structure DepthIsLongestChain (networkx : Networkx) (sequence : LessonSequence)
    (sessionId : String) : Prop where
  depth : ∃ depth,
    longestPrerequisiteDepth networkx (sessionGraph sequence) sessionId = some depth ∧
      IsGreatest (walkLengths (sessionGraph sequence).edges sessionId) depth
  reported : ∃ issues,
    prerequisiteDepthIssues networkx (sessionGraph sequence) sequence.sessions = some issues ∧
      ((∃ issue ∈ issues, issue.rule = .prereqDepth ∧ issue.severity = .hard ∧
          issue.sessionId = some sessionId) ↔
        ∃ length ∈ walkLengths (sessionGraph sequence).edges sessionId, 3 < length)

/-- Some longest chain into the session has no shortcut between its ends. -/
def HasDirectLongestChain (edges : List (String × String)) (sessionId : String) : Prop :=
  ∃ source length, IsGreatest (walkLengths edges sessionId) length ∧
    IsLeast {length | Walk edges length source sessionId} length

/-- The greatest distance is the longest chain just where that has no shortcut. -/
theorem hasDirectLongestChain_iff {edges : List (String × String)} {sessionId : String}
    {depth : Nat} (isDepth : IsGreatest (distances edges sessionId) depth) :
    HasDirectLongestChain edges sessionId ↔ IsGreatest (walkLengths edges sessionId) depth := by
  constructor
  · rintro ⟨source, length, isLongest, isLeast⟩
    rcases isDepth.1 with ⟨farthest, least⟩
    have same : depth = length :=
      Nat.le_antisymm (isLongest.2 ⟨farthest, least.1⟩) (isDepth.2 ⟨source, isLeast⟩)
    rw [same]
    exact isLongest
  · intro isLongest
    rcases isDepth.1 with ⟨source, isLeast⟩
    exact ⟨source, depth, isLongest, isLeast⟩

theorem depthIsLongestChain_iff (networkx : Networkx) {sequence : LessonSequence}
    {sessionId : String} (member : sessionId ∈ sequence.sessionIds) :
    DepthIsLongestChain networkx sequence sessionId ↔
      HasDirectLongestChain (sessionGraph sequence).edges sessionId := by
  rcases longestPrerequisiteDepth_spec networkx (mem_nodes_sessionGraph member) with
    ⟨depth, computed, isDepth⟩
  rw [hasDirectLongestChain_iff isDepth]
  constructor
  · rintro ⟨⟨other, alsoComputed, isLongest⟩, _⟩
    rw [Option.some.inj (computed.symm.trans alsoComputed)]
    exact isLongest
  · intro isLongest
    refine ⟨⟨depth, computed, isLongest⟩, ?_⟩
    have known (session : SessionPlan) (isSession : session ∈ sequence.sessions) :
        session.sessionId ∈ (sessionGraph sequence).nodes :=
      mem_nodes_sessionGraph (mem_map_of_mem isSession)
    rcases mem_prerequisiteDepthIssues networkx known with
      ⟨issues, areIssues, mem_issues⟩
    refine ⟨issues, areIssues, ?_⟩
    constructor
    · rintro ⟨issue, isIssue, _, _, isSession⟩
      rcases (mem_issues issue).mp isIssue with ⟨session, _, rfl, found, isFound, deep⟩
      rw [Option.some.inj isSession, computed] at isFound
      rw [← Option.some.inj isFound] at deep
      exact ⟨depth, isLongest.1, deep⟩
    · rintro ⟨length, isLength, long⟩
      rcases mem_map.mp member with ⟨session, isSession, rfl⟩
      have deep : depth > 3 := Nat.lt_of_lt_of_le long (isLongest.2 isLength)
      exact ⟨prerequisiteDepthIssue session,
        (mem_issues _).mpr ⟨session, isSession, rfl, depth, computed, deep⟩, rfl, rfl, rfl⟩

/-- Walks tried in the order of their lengths. -/
def networkxByWalks : Networkx where
  ancestors graph target := graph.nodes.filter fun source =>
    source ≠ target ∧ (shortestWalk graph.edges source target).isSome
  hasPath graph source target := (shortestWalk graph.edges source target).isSome
  shortestPathLength graph source target := shortestWalk graph.edges source target
  mem_ancestors graph target member source := by
    simp only [List.mem_filter, decide_eq_true_eq, shortestWalk_isSome_iff]
    constructor
    · exact And.right
    · exact fun ⟨other, reaches⟩ => ⟨DiGraph.mem_nodes_of_reaches reaches member, other, reaches⟩
  hasPath_iff graph source target _ _ := shortestWalk_isSome_iff
  shortestPathLength_iff graph source target length _ _ := shortestWalk_eq_some_iff

def sessionPlan (sessionId : String) (prerequisiteSessions : List String)
    (sessionIdLength : 1 ≤ sessionId.length ∧ sessionId.length ≤ 32) : SessionPlan where
  sessionId := sessionId
  orderIndex := 1
  prerequisiteSessions := prerequisiteSessions
  sessionIdLength := sessionIdLength
  orderIndexRange := by decide

/-- Five sessions in a row, the last with prerequisites of its own. -/
def fiveSessions (lastPrerequisites : List String)
    (known : ∀ required ∈ lastPrerequisites, required ∈ ["a", "b", "c", "d", "e"]) :
    LessonSequence where
  sessions := [sessionPlan "a" [] (by decide), sessionPlan "b" ["a"] (by decide),
    sessionPlan "c" ["b"] (by decide), sessionPlan "d" ["c"] (by decide),
    sessionPlan "e" lastPrerequisites (by decide)]
  sessionCount := ⟨Nat.le_add_left _ _, by simp⟩
  references := by
    refine checkReferences_eq_ok_iff.mpr ?_
    simpa [sessionPlan] using known

def chainSequence : LessonSequence := fiveSessions ["d"] (by decide)

/-- The last session also builds on the first one. -/
def shortcutSequence : LessonSequence := fiveSessions ["d", "a"] (by decide)

theorem depthIsLongestChain_chainSequence :
    DepthIsLongestChain networkxByWalks chainSequence "e" ↔
      HasDirectLongestChain (sessionGraph chainSequence).edges "e" :=
  depthIsLongestChain_iff networkxByWalks (by decide)

theorem acyclic_of_lt {edges : List (String × String)}
    (increases : ∀ edge ∈ edges, edge.1 < edge.2) : Acyclic edges := by
  intro node cycle
  have less : ∀ {first second : String}, TransGen (Edge edges) first second → first < second := by
    intro first second reaches
    induction reaches with
    | single taken => exact increases _ taken
    | tail _ taken ih => exact ih.trans (increases _ taken)
  exact lt_irrefl node (less cycle)

/-- There are four levels above the last session, three are counted, and nothing
is reported. -/
theorem shortcutSequence_not_longest :
    Acyclic (sessionGraph shortcutSequence).edges ∧ "e" ∈ shortcutSequence.sessionIds ∧
      prerequisiteDepthIssues networkxByWalks (sessionGraph shortcutSequence)
        shortcutSequence.sessions = some [] ∧
      ¬ DepthIsLongestChain networkxByWalks shortcutSequence "e" := by
  refine ⟨acyclic_of_lt (by decide), by decide, by decide, ?_⟩
  rintro ⟨⟨depth, computed, isLongest⟩, _⟩
  have four : 4 ∈ walkLengths (sessionGraph shortcutSequence).edges "e" := ⟨"a", by decide⟩
  have atMost := isLongest.2 four
  rw [← Option.some.inj computed] at atMost
  exact absurd atMost (by decide)

end OhMyClass.Middleware
