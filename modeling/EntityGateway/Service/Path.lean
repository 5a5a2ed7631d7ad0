import EntityGateway.Service.Lookup

/-!
# Paths between entities

`findPath` checks a request before asking the engine: at least one degree, endpoints of one
kind, avoided identifiers of one kind, and known data sources (the required ones first, then
those of the identifiers). Identifiers are resolved; an endpoint that is also avoided while
avoided entities are forbidden is refused. An entity path to itself is the entity alone.
`resolvePathQuery` is the stage of checks and resolution, `PathQuery.check` its part that needs
no engine.

The engine's path between the endpoints (in either orientation, turned to run from the start)
is checked against the request: it must run from start to end, have at most `maxDegrees`
edges, repeat no entity and, when avoided entities are forbidden, hold none of them. A path that
breaks the request becomes no path. The answer lists the entities on the path, or both
endpoints when there is none.
-/

namespace EntityGateway

/-- Ordered entity ids from start to end; no ids means no path was found. -/
structure PathView where
  start : Int
  finish : Int
  entityIds : List Int
  deriving DecidableEq, Repr

namespace PathView

def toJson (p : PathView) : Json :=
  Json.obj [("startEntityId", Json.int p.start), ("endEntityId", Json.int p.finish),
    ("entityIds", .array (p.entityIds.map Json.int))]

/-- The engine path between two entities, in either orientation, ordered from `start`. -/
def select (paths : List EntityPath) (start finish : Int) : PathView :=
  let ids := paths.findSome? fun p =>
    if p.start = start ∧ p.finish = finish then some p.entities
    else if p.start = finish ∧ p.finish = start then some p.entities.reverse
    else none
  ⟨start, finish, ids.getD []⟩

/-- Whether a list has no repeated element. -/
def distinct : List Int → Bool
  | [] => true
  | x :: xs => !xs.contains x && distinct xs

/-- Whether a path can answer a request bounded by `maxDegrees` that forbids `forbidden`. -/
def fits (p : PathView) (maxDegrees : Nat) (forbidden : List Int) : Bool :=
  match p.entityIds.head?, p.entityIds.getLast? with
  | some first, some last =>
    first = p.start && last = p.finish && p.entityIds.length - 1 ≤ maxDegrees &&
      distinct p.entityIds && !p.entityIds.any forbidden.contains
  | _, _ => true

/-- The path itself if it fits, else no path. -/
def checked (p : PathView) (maxDegrees : Nat) (forbidden : List Int) : PathView :=
  if p.fits maxDegrees forbidden then p else ⟨p.start, p.finish, []⟩

end PathView

/-- A path and the entities it passes. -/
structure PathAnswer where
  path : PathView
  entities : List EntityDataView

def PathAnswer.toJson (a : PathAnswer) : Json :=
  Json.obj [("entityPath", a.path.toJson), ("entities", .array (a.entities.map EntityDataView.toJson))]

/-- A path request as the caller phrased it. -/
structure PathQuery where
  source : EntityIdentifier
  target : EntityIdentifier
  maxDegrees : Nat := 3
  avoid : Identifiers := Identifiers.empty
  forbidAvoided : Bool := false
  requiredSources : List String := []

/-- The checks of a path query that need no engine: at least one degree, endpoints of one
kind, avoided identifiers of one kind. -/
def PathQuery.check (q : PathQuery) : Except GatewayError Unit := do
  if q.maxDegrees < 1 then
    throw (.invalid ("maxDegrees must be at least 1: " ++ toString q.maxDegrees))
  ensureSameKind q.source q.target "from and to"
  let _ ← q.avoid.homogeneousKind "avoidEntities"

/-- Refuses a path whose endpoint is forbidden. -/
def ensureAllowedEndpoints (source target : Int) (forbidden : List Int) : Except GatewayError Unit :=
  match [source, target].find? forbidden.contains with
  | some id => .error (.invalid ("entity " ++ toString id ++ " cannot be both a path endpoint and forbidden"))
  | none => .ok ()

namespace Service

/-- The checks of a path query, then its endpoints and its avoided entities, resolved in
order. -/
def resolvePathQuery (e : Engine σ) (q : PathQuery) : Service σ (Int × Int × List Int) := do
  lift q.check
  ensureKnownSources e q.requiredSources "requiredSources"
  ensureKnownSources e (([q.source, q.target] ++ q.avoid.items).filterMap EntityIdentifier.dataSource?)
    "entity identifier"
  return (← resolve e q.source, ← resolve e q.target, ← resolveAll e q.avoid)

/-- A shortest path honouring the query. -/
def findPath (e : Engine σ) (q : PathQuery) (o : RenderOptions) : Service σ (Answer PathAnswer) := do
  let (source, target, avoid) ← resolvePathQuery e q
  let forbid := q.forbidAvoided && !avoid.isEmpty
  let forbidden := if forbid then avoid else []
  lift (ensureAllowedEndpoints source target forbidden)
  let flags := o.engineFlags
  if source = target then
    let reply ← call (e.entityById source flags)
    let d ← lift (reply.read "entity")
    return ⟨⟨⟨source, target, [source]⟩, [← lift (project o d)]⟩, reply.raw⟩
  let request : PathRequest := ⟨source, target, q.maxDegrees, avoid, forbid, q.requiredSources⟩
  let reply ← call (e.findPath request flags)
  let payload ← lift (reply.read "path")
  let path := (PathView.select payload.paths source target).checked q.maxDegrees forbidden
  let wanted := if path.entityIds.isEmpty then [source, target] else path.entityIds
  let entities ← gather e payload.entities wanted flags
  return ⟨⟨path, ← projectAll o entities⟩, reply.raw⟩

end Service

end EntityGateway
