import EntityGateway.Service.Path

/-!
# Networks of entities

`findNetwork` checks a request (at least one entity, one degree and one entity allowed,
identifiers of one kind, known data sources), resolves the identifiers and asks the engine;
`resolveNetworkQuery` is the stage of checks and resolution.
For each pair of requested entities, in request order, the engine's path between them is kept
if it fits the degree bound and dropped otherwise.

The entities of the answer come in a fixed order: the requested ones, those on the paths (in
path order), then those the engine added. The budget, the larger of the entity limit and the
number requested, cuts from the tail, so requested entities are never cut; a cut, or the
engine's own report, marks the limit reached.
-/

namespace EntityGateway

/-- The paths between requested entities and the entities of the network. -/
structure NetworkAnswer where
  paths : List PathView
  entities : List EntityDataView
  limitReached : Bool

def NetworkAnswer.toJson (a : NetworkAnswer) : Json :=
  Json.obj [("entityPaths", .array (a.paths.map PathView.toJson)),
    ("entities", .array (a.entities.map EntityDataView.toJson)), ("maxEntityLimitReached", .bool a.limitReached)]

/-- A network request as the caller phrased it. -/
structure NetworkQuery where
  entities : Identifiers
  maxDegrees : Nat := 3
  buildOut : Nat := 1
  maxEntities : Nat := 1000

/-- The pairs of a list in order: each element with every later one. -/
def orderedPairs : List Int → List (Int × Int)
  | [] => []
  | a :: rest => rest.map (a, ·) ++ orderedPairs rest

/-- Append the ids not yet listed. -/
def appendNew (ordered : List Int) (ids : List Int) : List Int :=
  ids.foldl (fun acc id => if acc.contains id then acc else acc ++ [id]) ordered

/-- The checks of a network query that need no engine: at least one entity, one degree and
one entity allowed, identifiers of one kind. -/
def NetworkQuery.check (q : NetworkQuery) : Except GatewayError Unit := do
  if q.entities.items.isEmpty then throw (.invalid "at least one entity is required")
  if q.maxDegrees < 1 then
    throw (.invalid ("maxDegrees must be at least 1: " ++ toString q.maxDegrees))
  if q.maxEntities < 1 then
    throw (.invalid ("maxEntities must be at least 1: " ++ toString q.maxEntities))
  let _ ← q.entities.homogeneousKind "entities"

namespace Service

/-- The checks of a network query, then its entities, resolved in order with repeats
dropped. -/
def resolveNetworkQuery (e : Engine σ) (q : NetworkQuery) : Service σ (List Int) := do
  lift q.check
  ensureKnownSources e (q.entities.items.filterMap EntityIdentifier.dataSource?) "entity identifier"
  resolveAll e q.entities

/-- The network of the requested entities. -/
def findNetwork (e : Engine σ) (q : NetworkQuery) (o : RenderOptions) : Service σ (Answer NetworkAnswer) := do
  let requested ← resolveNetworkQuery e q
  let request : NetworkRequest := ⟨requested, q.maxDegrees, q.buildOut, q.maxEntities⟩
  let flags := o.engineFlags
  let reply ← call (e.findNetwork request flags)
  let payload ← lift (reply.read "network")
  let paths := (orderedPairs requested).map fun (a, b) => (PathView.select payload.paths a b).checked q.maxDegrees []
  let ordered := paths.foldl (fun acc p => appendNew acc p.entityIds) requested
  let ordered := appendNew ordered (payload.entities.map (·.entity.entityId))
  let budget := max q.maxEntities requested.length
  let limit := payload.limitReached || decide (ordered.length > budget)
  let entities ← gather e payload.entities (ordered.take budget) flags
  return ⟨⟨paths, ← projectAll o entities, limit⟩, reply.raw⟩

end Service

end EntityGateway
