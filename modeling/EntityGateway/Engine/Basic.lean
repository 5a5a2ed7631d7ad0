import EntityGateway.Error
import EntityGateway.Payload.Path
import EntityGateway.Payload.Record
import EntityGateway.Payload.Search
import EntityGateway.Payload.Why
import EntityGateway.Projection.Options

/-!
# Engines

An `Engine` is what the gateway asks: resolve a record to its entity, fetch an entity or a
record, find paths and networks, search by attributes, explain matches, and report or switch
its configuration. Each call runs over the engine's state `σ` and either fails with the
engine's return code and message or answers; payloads are answered as a `Reply`, the JSON the
engine wrote with its reading as a typed payload.

Gateway services run in `Service σ`, over the same state, failing with a `GatewayError`;
`Service.call` makes an engine call one step of a service, converting its failure, and
`Reply.read` takes the typed payload or reports the payload as malformed.
-/

namespace EntityGateway

/-- A path search as an engine receives it, identifiers resolved. -/
structure PathRequest where
  source : Int
  target : Int
  maxDegrees : Nat
  avoid : List Int
  forbidAvoided : Bool
  requiredSources : List String
  deriving DecidableEq, Repr

/-- A network search as an engine receives it, identifiers resolved. -/
structure NetworkRequest where
  entityIds : List Int
  maxDegrees : Nat
  buildOut : Nat
  maxEntities : Nat
  deriving DecidableEq, Repr

/-- An engine payload: the JSON the engine wrote, and its reading. -/
structure Reply (α : Type) where
  raw : Json
  data : Except String α

namespace Reply

/-- The reply of a payload the engine built itself. -/
def ofData (toJson : α → Json) (a : α) : Reply α := ⟨toJson a, .ok a⟩

/-- The reply of a JSON payload, read by a decoder. -/
def ofJson (decode : Decoder α) (j : Json) : Reply α := ⟨j, decode j⟩

/-- The typed payload, or a malformed-payload error naming `what` was read. -/
def read (what : String) (r : Reply α) : Except GatewayError α :=
  r.data.mapError fun e => .malformed (what ++ " payload: " ++ e)

end Reply

/-- One engine call over state `σ`. -/
abbrev EngineCall (σ α : Type) := ExceptT EngineFailure (StateM σ) α

/-- The calls of an entity-resolution engine over state `σ`. -/
structure Engine (σ : Type) where
  resolveRecord : String → String → EngineCall σ Int
  entityByRecord : String → String → EngineFlags → EngineCall σ (Reply EntityData)
  entityById : Int → EngineFlags → EngineCall σ (Reply EntityData)
  record : String → String → EngineCall σ (Reply RecordData)
  findPath : PathRequest → EngineFlags → EngineCall σ (Reply PathData)
  findNetwork : NetworkRequest → EngineFlags → EngineCall σ (Reply NetworkData)
  search : Json → EngineFlags → EngineCall σ (Reply SearchData)
  whyEntity : Int → EngineFlags → EngineCall σ (Reply WhyData)
  whyEntities : Int → Int → EngineFlags → EngineCall σ (Reply WhyData)
  whyRecords : String → String → String → String → EngineFlags → EngineCall σ (Reply WhyData)
  /-- The active configuration document. -/
  exportConfig : EngineCall σ Json
  activeConfigId : EngineCall σ Int
  /-- The configuration the repository designates as default. -/
  defaultConfigId : EngineCall σ Int
  activateConfig : Int → EngineCall σ Unit

/-- The data sources a configuration document registers: the texts of its `DATA_SOURCES`. -/
def configDataSources (document : Json) : List String :=
  match document.get? "DATA_SOURCES" with
  | some (.array xs) => xs.filterMap Json.str?
  | _ => []

namespace Engine

/-- The data sources of the active configuration. -/
def dataSources (e : Engine σ) : EngineCall σ (List String) := do
  return configDataSources (← e.exportConfig)

end Engine

/-- A gateway service over engine state `σ`. -/
abbrev Service (σ α : Type) := ExceptT GatewayError (StateM σ) α

namespace Service

/-- An engine call as a step of a service; engine failures become gateway errors. -/
def call (c : EngineCall σ α) : Service σ α :=
  ExceptT.mk do
    match ← c.run with
    | .ok a => return .ok a
    | .error f => return .error (GatewayError.ofFailure f)

/-- A result that needs no engine. -/
def lift (r : Except GatewayError α) : Service σ α := ExceptT.mk (pure r)

end Service

end EntityGateway
