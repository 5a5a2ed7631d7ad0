import EntityGateway.Service.Resolve
import EntityGateway.Projection.Project

/-!
# Looking up entities and records

`getEntity` fetches an entity by id or by one of its records and projects it with the request's
options; `getRecord` fetches one record with every attribute it carries, its data source
trimmed and upper-cased first. `gather` collects the entity data of a list of entities, taking
each from a payload at hand when it is there and fetching it otherwise.

Every answer carries the engine payload it came from, for callers that ask for it.
-/

namespace EntityGateway

/-- A shown answer and the engine payload it came from. -/
structure Answer (α : Type) where
  data : α
  raw : Json

/-- A record with every attribute it carries. -/
structure RecordDataView where
  dataSource : String
  recordId : String
  entityId : Int
  lastSeen : Option Timestamp
  values : List (String × List String)
  nameData : List String
  addressData : List String
  phoneData : List String
  characteristicData : List String
  identifierData : List String
  relationshipData : List String
  otherData : List String
  deriving DecidableEq, Repr

namespace RecordDataView

def ofData (d : RecordData) : RecordDataView :=
  let r := d.record
  ⟨r.dataSource, r.recordId, d.entityId, r.lastSeen, d.values, r.nameData, r.addressData, r.phoneData,
    r.characteristicData, r.identifierData, r.relationshipData, r.otherData⟩

def toJson (v : RecordDataView) : Json :=
  Json.objOf [some ("dataSource", .string v.dataSource), some ("recordId", .string v.recordId),
    some ("entityId", Json.int v.entityId), someMember "lastSeenTimestamp" Timestamp.toJson v.lastSeen,
    some ("jsonData", .object (v.values.map fun (k, vs) => (k, Json.strings vs))),
    listMember "nameData" Json.string v.nameData, listMember "addressData" Json.string v.addressData,
    listMember "phoneData" Json.string v.phoneData,
    listMember "characteristicData" Json.string v.characteristicData,
    listMember "identifierData" Json.string v.identifierData,
    listMember "relationshipData" Json.string v.relationshipData,
    listMember "otherData" Json.string v.otherData]

end RecordDataView

namespace Service

/-- An entity, by id or by one of its records, projected with the options. -/
def getEntity (e : Engine σ) (i : EntityIdentifier) (o : RenderOptions) : Service σ (Answer EntityDataView) := do
  let flags := o.engineFlags
  let reply ← match i with
    | .entity id => call (e.entityById id flags)
    | .record ds rid => call (e.entityByRecord ds rid flags)
  let d ← lift (reply.read "entity")
  return ⟨← lift (project o d), reply.raw⟩

/-- One record with every attribute it carries. -/
def getRecord (e : Engine σ) (dataSource recordId : String) : Service σ (Answer RecordDataView) := do
  let reply ← call (e.record dataSource.trimBlank.upper recordId)
  let d ← lift (reply.read "record")
  return ⟨RecordDataView.ofData d, reply.raw⟩

/-- The entity data of each wanted entity, in order: from `provided` when there, fetched
otherwise. -/
def gather (e : Engine σ) (provided : List EntityData) (wanted : List Int) (flags : EngineFlags) :
    Service σ (List EntityData) :=
  wanted.mapM fun id =>
    match provided.find? (·.entity.entityId = id) with
    | some d => return d
    | none => do lift ((← call (e.entityById id flags)).read "entity")

/-- Project every entity of a list. -/
def projectAll (o : RenderOptions) (ds : List EntityData) : Service σ (List EntityDataView) :=
  lift (ds.mapM (project o))

end Service

end EntityGateway
