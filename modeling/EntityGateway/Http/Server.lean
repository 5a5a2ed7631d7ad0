import EntityGateway.Http.Route
import EntityGateway.Http.Target
import EntityGateway.Http.Response
import EntityGateway.Service.Network
import EntityGateway.Service.Search
import EntityGateway.Service.Why
import EntityGateway.Service.Catalog
import EntityGateway.Session

/-!
# Serving requests

A request is matched to its route, its parameters are read in the route's order (the first
fault answers), and the work is done on the engine on top of the session's pool, started with
the first request. Entity lookups and paths and networks show related entities as `PARTIAL`
unless asked otherwise; searches and explanations show none. A `HEAD` request is answered as a
`GET` one, without the body. The link to the request is its target without the fragment.
-/

namespace EntityGateway

/-- What a request asks for once its parameters are read. -/
inductive Work where
  /-- An answer at once, without an engine. -/
  | immediate (shown : Shown)
  /-- A service run on an engine of the pool. -/
  | onEngine (service : Service LocalEngine Shown)
  /-- Bringing every engine of the pool to the default configuration. -/
  | refresh

/-- An entity id in a path: an integer of 64 bits, around blanks. -/
def parseEntityId (text : String) : Except GatewayError Int :=
  match EntityIdentifier.parseInt64? text.trimBlank with
  | some id => .ok id
  | none => .error (.invalid ("entity id must be an integer: " ++ text))

namespace Work

open Service

/-- Show an entity. -/
def lookup (i : EntityIdentifier) (q : QueryParams) : Except GatewayError Work := do
  let o ← q.projection .summarized
  let withRaw ← q.withRaw
  return .onEngine ((·.present withRaw EntityDataView.toJson) <$> getEntity localEngine i o)

/-- Explain how an entity was resolved. -/
def explain (i : EntityIdentifier) (q : QueryParams) : Except GatewayError Work := do
  let o ← q.projection .none
  let withRaw ← q.withRaw
  return .onEngine ((·.present withRaw WhyAnswer.toJson) <$> whyEntity localEngine i o)

/-- A path between two entities. -/
def path (q : QueryParams) : Except GatewayError Work := do
  let o ← q.projection .summarized
  let source ← q.identifier "from"
  let target ← q.identifier "to"
  let maxDegrees ← q.number "maxDegrees" 3
  let avoid ← q.identifiers "x" "avoidEntities"
  let forbidAvoided ← q.flag "forbidAvoided" false
  let requiredSources := (q.all "s").map fun s => s.trimBlank.upper
  let withRaw ← q.withRaw
  let query : PathQuery := ⟨source, target, maxDegrees, avoid, forbidAvoided, requiredSources⟩
  return .onEngine ((·.present withRaw PathAnswer.toJson) <$> findPath localEngine query o)

/-- The network around some entities. -/
def network (q : QueryParams) : Except GatewayError Work := do
  let o ← q.projection .summarized
  let entities ← q.identifiers "e" "entities"
  let maxDegrees ← q.number "maxDegrees" 3
  let buildOut ← q.number "buildOut" 1
  let maxEntities ← q.number "maxEntities" 1000
  let withRaw ← q.withRaw
  let query : NetworkQuery := ⟨entities, maxDegrees, buildOut, maxEntities⟩
  return .onEngine ((·.present withRaw NetworkAnswer.toJson) <$> findNetwork localEngine query o)

/-- A search by the criteria of the `attrs` and `attr` parameters and of the body. -/
def search (q : QueryParams) (body : String) : Except GatewayError Work := do
  let o ← q.projection .none
  let c ← (q.all "attrs").foldlM SearchCriteria.mergeJsonText {}
  let c ← (q.all "attr").foldlM SearchCriteria.mergePair c
  let c ← c.mergeJsonText body
  let includeOnly ← MatchBucket.parseAll (q.all "includeOnly")
  let withRaw ← q.withRaw
  return .onEngine ((·.present withRaw SearchAnswer.toJson) <$> Service.search localEngine c includeOnly o)

/-- Why two entities resolved or related as they did. -/
def compareEntities (q : QueryParams) : Except GatewayError Work := do
  let o ← q.projection .none
  let first ← q.identifier "entity1"
  let second ← q.identifier "entity2"
  let withRaw ← q.withRaw
  return .onEngine ((·.present withRaw WhyAnswer.toJson) <$> whyEntities localEngine first second o)

/-- Why two records resolved or related as they did. -/
def compareRecords (q : QueryParams) : Except GatewayError Work := do
  let o ← q.projection .none
  let first := (← q.required "dataSource1", ← q.required "recordId1")
  let second := (← q.required "dataSource2", ← q.required "recordId2")
  let withRaw ← q.withRaw
  return .onEngine ((·.present withRaw WhyAnswer.toJson) <$> whyRecords localEngine first second o)

/-- The attribute types of the active configuration. -/
def attributes (q : QueryParams) : Except GatewayError Work := do
  let f := AttributeTypeFilter.make (q.get "attributeClass") (q.get "featureType") (← q.flag "withInternal" false)
  let withRaw ← q.withRaw
  return .onEngine ((·.present withRaw attributeTypesJson) <$> attributeTypes localEngine f)

/-- The work a route asks for. -/
def ofRoute (q : QueryParams) (body : String) : Route → Except GatewayError Work
  | .heartbeat => return .immediate ⟨.string "OK", none⟩
  | .version => return .onEngine do
    let id ← call localEngine.activeConfigId
    return ⟨Json.obj [("version", .string serverVersion), ("restApiVersion", .string restApiVersion),
      ("activeConfigId", Json.int id)], none⟩
  | .dataSources => return .onEngine do
    let sources ← call localEngine.dataSources
    return ⟨Json.obj [("dataSources", Json.strings sources)], none⟩
  | .dataSource code => do
    let withRaw ← q.withRaw
    return .onEngine ((·.present withRaw dataSourceJson) <$> dataSource localEngine code)
  | .record ds rid => do
    let withRaw ← q.withRaw
    return .onEngine ((·.present withRaw RecordDataView.toJson) <$> getRecord localEngine ds rid)
  | .entityByRecord ds rid => lookup (EntityIdentifier.ofRecord ds rid) q
  | .whyEntityByRecord ds rid => explain (EntityIdentifier.ofRecord ds rid) q
  | .attributeTypes => attributes q
  | .entity id => do lookup (.entity (← parseEntityId id)) q
  | .whyEntity id => do explain (.entity (← parseEntityId id)) q
  | .entityPaths => path q
  | .entityNetworks => network q
  | .search _ => search q body
  | .whyEntities => compareEntities q
  | .whyRecords => compareRecords q
  | .currentConfig => return .onEngine do
    let id ← call localEngine.activeConfigId
    let config ← call localEngine.exportConfig
    return ⟨Json.obj [("activeConfigId", Json.int id), ("config", config)], none⟩
  | .refreshConfig => return .refresh

end Work

namespace Session

/-- The session with its pool started, if it was not. -/
def withPool (s : Session) : Except GatewayError (Session × EnginePool) :=
  match s.pool with
  | some p => .ok (s, p)
  | none => do
    let (repo, p) ← EnginePool.start s.repo s.poolSize
    return ({ s with repo, pool := some p }, p)

/-- Do a request's work on the pool. -/
def perform (s : Session) (p : EnginePool) (info : RequestInfo) :
    Except GatewayError Work → HttpResponse × Session
  | .error e => (info.respond [.overall] (.error e), s)
  | .ok (.immediate shown) => (info.respond [.overall] (.ok shown), s)
  | .ok (.onEngine svc) =>
    let (r, p) := p.execute s.repo svc
    (info.respond [.overall, .enqueued, .engine] r, { s with pool := some p })
  | .ok .refresh =>
    match p.refresh s.repo with
    | .ok (n, p) =>
      (info.respond [.overall, .refresh]
        (.ok ⟨Json.obj [("refreshed", .bool true), ("reinitialized", Json.nat n)], none⟩),
        { s with pool := some p })
    | .error e => (info.respond [.overall, .refresh] (.error e), s)

/-- Answer a request of a method for a target, with a body. The answer is the response, or the
reason the request cannot be formed at all: a method that is not a token, or a target that is not
a URI. It fails only when the pool cannot be started. An `OPTIONS` request is answered at once,
for any target. -/
def serve (s : Session) (method target body : String) :
    Except GatewayError (Except String HttpResponse × Session) := do
  let (s, p) ← s.withPool
  if !Http.isMethodToken method then return (.error "invalid HTTP method", s)
  match RequestTarget.parse target with
  | .error f => return (.error f.text, s)
  | .ok t =>
    if method = "OPTIONS" then return (.ok ⟨200, .text ""⟩, s)
    let segments := t.segments?.getD []
    match t.segments?.bind Route.ofSegments with
    | none => return (.ok ⟨404, .text ""⟩, s)
    | some decoded =>
      if !(Route.methodsOf segments).contains method then return (.ok ⟨405, .text ""⟩, s)
      let (response, s) : HttpResponse × Session := match decoded with
        | .error name => (⟨400, .text ("Invalid URL: Invalid UTF-8 in `" ++ name ++ "`")⟩, s)
        | .ok r => s.perform p ⟨method, t.link⟩ (Work.ofRoute t.params body r)
      if method = "HEAD" then return (.ok { response with body := .text "" }, s)
      return (.ok response, s)

end Session

end EntityGateway
