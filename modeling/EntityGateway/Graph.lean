import EntityGateway.Sorted

/-!
# The entity graph

Entities are nodes; a relationship joins two entities both ways, and an entity joined to itself
is ignored. Each entity carries the data sources of its records. Neighbours are kept in
ascending id order, so every search visits them in that order and identical graphs and queries
give identical answers.

* `EntityGraph.shortestPath` finds a shortest simple path of at most `maxDegrees` edges under
  constraints, preferring in turn: a path through an entity of a required data source that
  avoids the avoided entities, one through such an entity that may pass avoided ones (unless
  they are forbidden), a path avoiding them, and any path (unless they are forbidden).
* `EntityGraph.buildOut` lists the entities within `hops` relationships of a set of seeds, in
  the order a breadth-first search discovers them, seeds excluded.

Both searches are breadth-first over a visited set. Every entry put on the queue adds a fresh
state to that set, so the queue never holds more entries than there are states: twice the
number of nodes for a path search (a node with and without a required source met), and the
seeds and the nodes for a build-out. That bound is the fuel the searches run on.
-/

namespace EntityGateway

/-- Entities, the relationships between them, and the data sources of each. -/
structure EntityGraph where
  /-- Each node with its neighbours, both in ascending id order. -/
  adjacency : List (Int × List Int) := []
  /-- The data sources of each entity added with `addEntity`. -/
  sources : List (Int × List String) := []
  deriving DecidableEq, Repr

/-- Constraints on one shortest-path search. -/
structure PathConstraints where
  maxDegrees : Nat
  avoid : List Int := []
  forbidAvoided : Bool := false
  requiredSources : List String := []
  deriving DecidableEq, Repr

namespace EntityGraph

/-- Add an entity with data sources. -/
def addEntity (g : EntityGraph) (e : Int) (dataSources : List String) : EntityGraph :=
  { adjacency := updateAscending e [] (fun ns => ns) g.adjacency,
    sources := updateAscending e [] (fun ss => dataSources.foldl (fun acc s => insertAscending s acc) ss)
      g.sources }

/-- Join two entities both ways; an entity is not joined to itself. -/
def addRelationship (g : EntityGraph) (a b : Int) : EntityGraph :=
  if a = b then g
  else
    { g with adjacency :=
        updateAscending b [] (insertAscending a) (updateAscending a [] (insertAscending b) g.adjacency) }

def contains (g : EntityGraph) (id : Int) : Bool := (g.adjacency.lookup id).isSome

/-- The neighbours of an entity, in ascending order. -/
def neighbors (g : EntityGraph) (id : Int) : List Int := (g.adjacency.lookup id).getD []

/-- The number of nodes. -/
def size (g : EntityGraph) : Nat := g.adjacency.length

/-- Whether an entity has one of the required data sources. -/
def hasAnySource (g : EntityGraph) (id : Int) (required : List String) : Bool :=
  ((g.sources.lookup id).getD []).any required.contains

/-- One path search: the target, the bound on edges, the blocked entities and the data sources
of which some intermediate entity must carry one, if any. -/
structure Search where
  target : Int
  maxDegrees : Nat
  blocked : List Int
  required : Option (List String)

/-- Queue the extensions of a path (kept newest entity first) by the neighbours `next`, each
to an entity neither blocked nor on the path, whose state is new. -/
def extend (g : EntityGraph) (s : Search) (path : List Int) (satisfied : Bool) :
    List Int → List (Int × Bool) → List (List Int × Bool) → List (Int × Bool) × List (List Int × Bool)
  | [], visited, queued => (visited, queued)
  | n :: ns, visited, queued =>
    if s.blocked.contains n || path.contains n then extend g s path satisfied ns visited queued
    else
      let met := satisfied || (n != s.target && match s.required with
        | some r => g.hasAnySource n r
        | none => false)
      if visited.contains (n, met) then extend g s path satisfied ns visited queued
      else extend g s path satisfied ns ((n, met) :: visited) (queued ++ [(n :: path, met)])

/-- Breadth-first search over (entity, requirement met) states; paths are kept newest entity
first. -/
def searchLoop (g : EntityGraph) (s : Search) :
    Nat → List (Int × Bool) → List (List Int × Bool) → Option (List Int)
  | 0, _, _ => none
  | _ + 1, _, [] => none
  | fuel + 1, visited, (path, satisfied) :: rest =>
    match path with
    | [] => searchLoop g s fuel visited rest
    | current :: _ =>
      if current = s.target then
        if s.required.isNone || satisfied then some path.reverse else searchLoop g s fuel visited rest
      else if path.length > s.maxDegrees then searchLoop g s fuel visited rest
      else
        let (visited, queued) := extend g s path satisfied (g.neighbors current) visited []
        searchLoop g s fuel visited (rest ++ queued)

/-- A shortest simple path from `source` within the search's bound; the endpoints never count
toward the required sources. -/
def search (g : EntityGraph) (source : Int) (s : Search) : Option (List Int) :=
  searchLoop g s (2 * g.size + 1) [(source, false)] [([source], false)]

/-- A shortest simple path honouring the constraints, by the preference order above. A
forbidden entity never appears in a result. -/
def shortestPath (g : EntityGraph) (source target : Int) (c : PathConstraints) : Option (List Int) :=
  if !g.contains source || !g.contains target then none
  else if source = target then some [source]
  else
    let avoided := c.avoid.filter fun id => id != source && id != target
    let run := fun (blocked : List Int) (required : Option (List String)) =>
      g.search source ⟨target, c.maxDegrees, blocked, required⟩
    let withSources : Option (List Int) :=
      if c.requiredSources.isEmpty then none
      else
        match run avoided (some c.requiredSources) with
        | some p => some p
        | none => if c.forbidAvoided then none else run [] (some c.requiredSources)
    match withSources with
    | some p => some p
    | none =>
      match run avoided none with
      | some p => some p
      | none => if c.forbidAvoided then none else run [] none

/-- Queue the undiscovered neighbours of an entity at the next depth. -/
def discover (depth : Nat) :
    List Int → List Int → List Int → List (Int × Nat) → List Int × List Int × List (Int × Nat)
  | [], visited, found, queued => (visited, found, queued)
  | n :: ns, visited, found, queued =>
    if visited.contains n then discover depth ns visited found queued
    else discover depth ns (n :: visited) (found ++ [n]) (queued ++ [(n, depth + 1)])

/-- Breadth-first discovery from queued entities and their depths. -/
def buildOutLoop (g : EntityGraph) (hops : Nat) :
    Nat → List Int → List Int → List (Int × Nat) → List Int
  | 0, _, found, _ => found
  | _ + 1, _, found, [] => found
  | fuel + 1, visited, found, (current, depth) :: rest =>
    if depth ≥ hops then buildOutLoop g hops fuel visited found rest
    else
      let (visited, found, queued) := discover depth (g.neighbors current) visited found []
      buildOutLoop g hops fuel visited found (rest ++ queued)

/-- The entities within `hops` relationships of any seed, in discovery order, seeds excluded. -/
def buildOut (g : EntityGraph) (seeds : List Int) (hops : Nat) : List Int :=
  buildOutLoop g hops (seeds.length + g.size + 1) seeds [] (seeds.map (·, 0))

end EntityGraph

end EntityGateway
