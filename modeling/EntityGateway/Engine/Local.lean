import EntityGateway.Engine.Local.Why

/-!
# The local engine

The engine interface over a repository of resolved entities. Records of data sources the
active configuration does not register are not looked up; an entity without records is
unknown; a configuration must be registered to be switched to.

* A path is the graph's shortest path between the two entities under the request's
  constraints; the payload lists the path (empty when there is none) and the entities on it, or
  both endpoints when there is no path.
* A network lists the shortest path of each pair of requested entities, in request order, and
  the entities of the requested ones, those on the paths and those within the build-out of the
  requested ones, cut to the larger of the entity limit and the number requested.
* A search maps each criteria attribute to its feature type (an attribute code of the
  configuration, or a feature type itself), scores every entity's merged values against the
  searched values, and lists the entities that match, closest level first, then by id.
* An explanation of one entity compares each record with the other records; of two entities,
  all records of each side, the level being the stored relationship's, else disclosed when a
  relationship is disclosed, else the scores' classification; of two records, the records, the
  level being resolved within one entity, else the stored relationship's or the scores'.
-/

namespace EntityGateway

namespace LocalEngine

/-- Start an engine on a repository with its default configuration, registering the default
configuration of no data sources as default when there is none. -/
def start (repo : Repository) : Repository × LocalEngine :=
  let (repo, id) := match repo.defaultConfigId with
    | some id => (repo, id)
    | none => repo.registerConfig (defaultConfig []) true
  (repo, ⟨repo, id, EngineSettings.ofDocument ((repo.config id).getD .null)⟩)

def requireDataSource (e : LocalEngine) (dataSource : String) : Except EngineFailure Unit :=
  if e.settings.dataSources.contains dataSource then .ok () else .error (EngineFailure.unknownDataSource dataSource)

/-- A stored record and its entity, from a registered data source. -/
def storedRecord (e : LocalEngine) (dataSource recordId : String) : Except EngineFailure (Int × RecordDocument) := do
  e.requireDataSource dataSource
  match e.repo.findRecord dataSource recordId with
  | some r => .ok (r.entityId, r.document)
  | none => .error (EngineFailure.unknownRecord dataSource recordId)

def resolveRecord (e : LocalEngine) (dataSource recordId : String) : Except EngineFailure Int :=
  (e.storedRecord dataSource recordId).map (·.1)

def recordData (e : LocalEngine) (dataSource recordId : String) : Except EngineFailure RecordData := do
  let (id, r) ← e.storedRecord dataSource recordId
  return ⟨id, recordPayload e.settings r true, r.features⟩

def requireEntity (e : LocalEngine) (entityId : Int) : Except EngineFailure Unit :=
  if e.repo.entityExists entityId then .ok () else .error (EngineFailure.unknownEntity entityId)

/-- Adjacent repeats dropped. -/
def dedupAdjacent : List Int → List Int
  | a :: b :: rest => if a = b then dedupAdjacent (b :: rest) else a :: dedupAdjacent (b :: rest)
  | xs => xs

def pathData (e : LocalEngine) (r : PathRequest) (flags : EngineFlags) : Except EngineFailure PathData := do
  e.requireEntity r.source
  e.requireEntity r.target
  r.requiredSources.forM e.requireDataSource
  let c : PathConstraints := ⟨r.maxDegrees, r.avoid, r.forbidAvoided, r.requiredSources⟩
  let path := (e.repo.graph.shortestPath r.source r.target c).getD []
  let shown := dedupAdjacent (if path.isEmpty then [r.source, r.target] else path)
  return ⟨[⟨r.source, r.target, path⟩], ← shown.mapM fun id => e.entityData id flags⟩

/-- Append the ids not yet listed. -/
def pushUnique (ordered : List Int) (ids : List Int) : List Int :=
  ids.foldl (fun acc id => if acc.contains id then acc else acc ++ [id]) ordered

/-- The pairs of a list in order: each element with every later one. -/
def pairs : List Int → List (Int × Int)
  | [] => []
  | a :: rest => rest.map (a, ·) ++ pairs rest

def networkData (e : LocalEngine) (r : NetworkRequest) (flags : EngineFlags) : Except EngineFailure NetworkData := do
  r.entityIds.forM e.requireEntity
  let g := e.repo.graph
  let c : PathConstraints := { maxDegrees := r.maxDegrees }
  let paths := (pairs r.entityIds).map fun (a, b) => (⟨a, b, (g.shortestPath a b c).getD []⟩ : EntityPath)
  let ordered := paths.foldl (fun acc p => pushUnique acc p.entities) r.entityIds
  let ordered := pushUnique ordered (g.buildOut r.entityIds r.buildOut)
  let budget := max r.maxEntities r.entityIds.length
  return ⟨paths, ← (ordered.take budget).mapM fun id => e.entityData id flags, decide (ordered.length > budget)⟩

/-- The searched values by feature type: each attribute of the criteria object mapped to its
feature type, organization names marked. -/
def inboundOf (settings : EngineSettings) (criteria : Json) : AscendingMap String (List Scoring.InboundValue) :=
  match criteria with
  | .object ms => ms.foldl (fun acc (code, values) =>
      let featureType := match settings.attributes.lookup code with
        | some t => some t
        | none => if (settings.attributeClasses.lookup code).isSome then some code else none
      match featureType with
      | none => acc
      | some t =>
        let texts := match values with
          | .string s => [s]
          | .array items => items.filterMap Json.str?
          | _ => []
        acc.update t [] fun target =>
          target ++ texts.map fun s => { value := s, organization := code == "NAME_ORG" }) .empty
  | _ => .empty

def searchData (e : LocalEngine) (criteria : Json) (flags : EngineFlags) : Except EngineFailure SearchData := do
  let inbound := inboundOf e.settings criteria
  let scored := e.repo.recordEntityIds.filterMap fun id =>
    let scores := Scoring.scoreFeatures inbound (mergedValues (e.repo.recordsOf id))
    let level := Scoring.classify scores
    if level = .noMatch then none else some (level, id, scores)
  let ranked := scored.mergeSort fun a b => a.1.rank ≤ b.1.rank
  let candidates ← ranked.mapM fun (level, id, scores) => do
    return (⟨⟨level.number, level, Scoring.matchKey scores, scores⟩, ← e.entityData id flags⟩ : SearchCandidate)
  return ⟨candidates⟩

/-- The stored level of the relationship from one entity to another. -/
def storedLevel (e : LocalEngine) (entityId relatedId : Int) : Option MatchLevel :=
  ((e.repo.relationshipsOf entityId).find? (·.relatedId = relatedId)).map (·.level)

/-- The records of a list other than the one at `index`. -/
def others (records : List RecordDocument) (index : Nat) : List RecordDocument :=
  (records.zipIdx.filter (·.2 ≠ index)).map (·.1)

def whyEntityData (e : LocalEngine) (entityId : Int) (flags : EngineFlags) : Except EngineFailure WhyData := do
  let records ← e.entityRecords entityId
  let results := records.zipIdx.map fun (r, i) =>
    let rest := others records i
    let candidate := if rest.isEmpty then r.features else mergedValues rest
    let scores := Scoring.scoreFeatures (asInbound r.features r.features_ascending) candidate
    (⟨entityId, [recordKey r], none, [], ⟨Scoring.matchKey scores, .resolved, none, scores, []⟩⟩ : WhyResult)
  return ⟨results, [← e.entityData entityId flags]⟩

/-- The explanation of two entities from their records: the level is the stored relationship's,
else disclosed when a relationship is disclosed, else the scores' classification. -/
def whyEntitiesResult (e : LocalEngine) (id1 id2 : Int) (records1 records2 : List RecordDocument) :
    WhyResult :=
  let scores := Scoring.scoreFeatures (asInbound (mergedValues records1) (keysAscend_mergedValues records1))
    (mergedValues records2)
  let relations := disclosedRelations records1 records2
  let level := match e.storedLevel id1 id2 with
    | some l => l
    | none => if relations.isEmpty then Scoring.classify scores else .disclosed
  ⟨id1, records1.map recordKey, some id2, records2.map recordKey,
    ⟨whyKeyOf scores relations, level, none, scores, relations⟩⟩

def whyEntitiesData (e : LocalEngine) (id1 id2 : Int) (flags : EngineFlags) : Except EngineFailure WhyData := do
  let records1 ← e.entityRecords id1
  let records2 ← e.entityRecords id2
  return ⟨[e.whyEntitiesResult id1 id2 records1 records2], [← e.entityData id1 flags, ← e.entityData id2 flags]⟩

def whyRecordsData (e : LocalEngine) (ds1 rid1 ds2 rid2 : String) (flags : EngineFlags) :
    Except EngineFailure WhyData := do
  let (id1, r1) ← e.storedRecord ds1 rid1
  let (id2, r2) ← e.storedRecord ds2 rid2
  let scores := Scoring.scoreFeatures (asInbound r1.features r1.features_ascending) r2.features
  let relations := disclosedRelations [r1] [r2]
  let level := if id1 = id2 then .resolved else (e.storedLevel id1 id2).getD (Scoring.classify scores)
  let ids := if id1 = id2 then [id1] else [id1, id2]
  let result : WhyResult := ⟨id1, [recordKey r1], some id2, [recordKey r2],
    ⟨whyKeyOf scores relations, level, none, scores, relations⟩⟩
  return ⟨[result], ← ids.mapM fun id => e.entityData id flags⟩

def defaultConfigId (e : LocalEngine) : Except EngineFailure Int :=
  match e.repo.defaultConfigId with
  | some id => .ok id
  | none => .error ⟨EngineFailure.configurationCode, "No default configuration"⟩

def activateConfig (e : LocalEngine) (id : Int) : Except EngineFailure LocalEngine :=
  match e.repo.config id with
  | some document => .ok { e with configId := id, settings := EngineSettings.ofDocument document }
  | none => .error ⟨EngineFailure.configurationCode, "Unknown configuration id: " ++ toString id⟩

/-- A pure answer as an engine call over the local engine. -/
def answer (f : LocalEngine → Except EngineFailure α) : EngineCall LocalEngine α :=
  ExceptT.mk do return f (← get)

end LocalEngine

open LocalEngine in
/-- The engine interface of a local engine. -/
def localEngine : Engine LocalEngine where
  resolveRecord ds rid := answer (·.resolveRecord ds rid)
  entityByRecord ds rid flags := answer fun e => do
    let id ← e.resolveRecord ds rid
    return Reply.ofData EntityData.toJson (← e.entityData id flags)
  entityById id flags := answer fun e => (e.entityData id flags).map (Reply.ofData EntityData.toJson)
  record ds rid := answer fun e => (e.recordData ds rid).map (Reply.ofData RecordData.toJson)
  findPath r flags := answer fun e => (e.pathData r flags).map (Reply.ofData PathData.toJson)
  findNetwork r flags := answer fun e => (e.networkData r flags).map (Reply.ofData NetworkData.toJson)
  search c flags := answer fun e => (e.searchData c flags).map (Reply.ofData SearchData.toJson)
  whyEntity id flags := answer fun e => (e.whyEntityData id flags).map (Reply.ofData WhyData.toJson)
  whyEntities a b flags := answer fun e => (e.whyEntitiesData a b flags).map (Reply.ofData WhyData.toJson)
  whyRecords ds1 rid1 ds2 rid2 flags :=
    answer fun e => (e.whyRecordsData ds1 rid1 ds2 rid2 flags).map (Reply.ofData WhyData.toJson)
  exportConfig := answer fun e => .ok e.settings.document
  activeConfigId := answer fun e => .ok e.configId
  defaultConfigId := answer LocalEngine.defaultConfigId
  activateConfig id := ExceptT.mk do
    match (← get).activateConfig id with
    | .ok e => set e; return .ok ()
    | .error f => return .error f

end EntityGateway
