import EntityGateway.Engine.Basic
import EntityGateway.Scoring
import EntityGateway.Store.Repository

/-!
# Entity payloads of the local engine

The local engine answers from a repository of resolved entities, assembling each payload from
the entity's records.

* `mergeFeatures` folds record features into entity features: the values of one type that
  normalize to the same text form one feature, its first-seen value primary, features in the
  order their first value was seen. With internal features, names, addresses and phones also
  give key features (`NAME_KEY`, `ADDR_KEY`, `PHONE_KEY`) whose value is the normalized text.
* A feature or value is known by `featureId`, the first six bytes of the SHA-256 digest of its
  type, a bar and its text.
* With feature statistics, a value counts the entities having a value of its type (the base
  type for key features) with the same normalized text.
* `recordPayload` sorts a record's values by the attribute class of their feature type.
* `entityData` builds the entity with its record summaries (one per data source, in order) and,
  when asked, its related entities, which lose features and records unless their details are
  asked for too. An entity without records is unknown.
-/

namespace EntityGateway

/-- A local engine: a repository and the configuration the engine runs with. -/
structure LocalEngine where
  repo : Repository
  configId : Int
  settings : EngineSettings

namespace LocalEngine

/-- The internal key type of a feature type that has one. -/
def keyType : String → Option String
  | "NAME" => some "NAME_KEY"
  | "ADDRESS" => some "ADDR_KEY"
  | "PHONE" => some "PHONE_KEY"
  | _ => none

/-- The stable id of a feature type and value. -/
def featureId (featureType value : String) : Int :=
  Sha256.prefixValue 6 (featureType ++ "|" ++ value)

/-- The entities holding each normalized value, by feature type. -/
abbrev FeatureCounts := List (String × List (String × List Int))

/-- Collect, for each feature type and normalized value, the entities holding it. -/
def featureCounts (repo : Repository) : FeatureCounts :=
  repo.records.foldl (fun acc r =>
    r.document.features.foldl (fun acc (t, values) =>
      updateAscending t [] (fun byValue => values.foldl (fun byValue v =>
        updateAscending (Scoring.normalize t v) [] (insertAscending r.entityId) byValue) byValue) acc) acc) []

/-- The number of entities holding a normalized value of a feature type. -/
def countOf (cs : FeatureCounts) (featureType normalized : String) : Option Nat :=
  ((cs.lookup featureType).bind (·.lookup normalized)).map List.length

/-- One group of values: their normalized text and the values, first seen first. -/
abbrev ValueGroup := String × List String

/-- Add a value to the groups of its type. -/
def addToGroups (featureType : String) (groups : List ValueGroup) (value : String) : List ValueGroup :=
  let n := Scoring.normalize featureType value
  if groups.any (·.1 = n) then
    groups.map fun (m, vs) => if m = n ∧ !vs.contains value then (m, vs ++ [value]) else (m, vs)
  else groups ++ [(n, [value])]

/-- The value groups of each feature type over the records. -/
def valueGroups (records : List RecordDocument) : List (String × List ValueGroup) :=
  records.foldl (fun acc r =>
    r.features.foldl (fun acc (t, values) =>
      updateAscending t [] (fun groups => values.foldl (addToGroups t) groups) acc) acc) []

/-- A feature of type `featureType` from a group's values; its statistics count `countType`. -/
def buildFeature (featureType countType normalized : String) (members : List String)
    (counts : Option FeatureCounts) : Feature :=
  let stats := counts.map fun cs =>
    { entityCount := (countOf cs countType normalized).getD 1, candidateCapReached := false,
      scoringCapReached := false, suppressed := false : FeatureStats }
  let primary := members.headD ""
  { id := featureId featureType primary, text := primary, usageType := none,
    values := members.map fun v => ⟨featureId featureType v, v, stats⟩ }

/-- The features of an entity's records, by type. -/
def mergeFeatures (records : List RecordDocument) (withInternal : Bool) (counts : Option FeatureCounts) :
    List (String × List Feature) :=
  (valueGroups records).foldl (fun acc (t, groups) =>
    let acc := updateAscending t [] (fun _ =>
      groups.map fun (n, members) => buildFeature t t n members counts) acc
    match withInternal, keyType t with
    | true, some k =>
      updateAscending k [] (fun _ => groups.map fun (n, _) => buildFeature k t n [n] counts) acc
    | _, _ => acc) []

/-- The text of a disclosure among a record's relationship data. -/
def disclosureText (d : Disclosure) : String :=
  (d.domain ++ " " ++ d.kind.code ++ ": " ++ d.key ++ " " ++ d.role.getD "").trimBlankRight

/-- A record as the engine shows it; with its data, values sorted by attribute class. -/
def recordPayload (settings : EngineSettings) (r : RecordDocument) (withData : Bool) : EntityRecord :=
  let base : EntityRecord := { dataSource := r.dataSource, recordId := r.recordId, lastSeen := r.lastSeen }
  if !withData then base
  else
    let filled := r.features.foldl (fun (acc : EntityRecord) (t, values) =>
      values.foldl (fun (acc : EntityRecord) v =>
        match settings.attributeClasses.lookup t with
        | some "NAME" => { acc with nameData := acc.nameData ++ [v] }
        | some "ADDRESS" => { acc with addressData := acc.addressData ++ [v] }
        | some "PHONE" => { acc with phoneData := acc.phoneData ++ [v] }
        | some "CHARACTERISTIC" => { acc with characteristicData := acc.characteristicData ++ [t ++ ": " ++ v] }
        | some "IDENTIFIER" => { acc with identifierData := acc.identifierData ++ [t ++ ": " ++ v] }
        | _ => { acc with otherData := acc.otherData ++ [t ++ ": " ++ v] }) acc) base
    let filled := { filled with relationshipData := r.disclosures.map disclosureText }
    { filled with otherData := filled.otherData ++ r.otherData }

/-- One summary per data source, in data source order. -/
def summaries (records : List RecordDocument) : List RecordSummary :=
  let grouped := records.foldl (fun (acc : List (String × Nat × Option Timestamp)) r =>
    updateAscending r.dataSource (0, none) (fun (n, t) => (n + 1, Timestamp.laterOpt t r.lastSeen)) acc) []
  grouped.map fun (ds, n, t) => ⟨ds, n, t⟩

/-- The first name stated by a record. -/
def entityName (records : List RecordDocument) : Option String :=
  records.findSome? fun r => (r.valuesOf "NAME").head?

/-- An entity assembled from its records. -/
def buildEntity (settings : EngineSettings) (entityId : Int) (records : List RecordDocument)
    (flags : EngineFlags) (counts : Option FeatureCounts) : Entity :=
  { entityId,
    name := entityName records,
    features := if flags.features then mergeFeatures records flags.internalFeatures counts else [],
    summaries := summaries records,
    records := if flags.records then records.map fun r => recordPayload settings r flags.recordData else [],
    lastSeen := records.foldl (fun t r => Timestamp.laterOpt t r.lastSeen) none }

/-- The records of an entity; an entity without records is unknown. -/
def entityRecords (e : LocalEngine) (entityId : Int) : Except EngineFailure (List RecordDocument) :=
  match e.repo.recordsOf entityId with
  | [] => .error (EngineFailure.unknownEntity entityId)
  | rs => .ok rs

/-- An entity related to another, as listed with the other's data: without features and records
unless their details are asked for. -/
def relatedEntity (e : LocalEngine) (flags : EngineFlags) (counts : Option FeatureCounts)
    (rel : StoredRelationship) : Except EngineFailure RelatedEntity := do
  let rs ← e.entityRecords rel.relatedId
  let other := buildEntity e.settings rel.relatedId rs flags counts
  let other := if flags.relatedDetails then other else { other with features := [], records := [] }
  return ⟨other, rel.level, rel.matchKey, rel.disclosed, rel.ambiguous⟩

/-- The data of an entity and, when asked, its related entities. -/
def entityData (e : LocalEngine) (entityId : Int) (flags : EngineFlags) : Except EngineFailure EntityData := do
  let records ← e.entityRecords entityId
  let counts := if flags.featureStats then some (featureCounts e.repo) else none
  let entity := buildEntity e.settings entityId records flags counts
  let related ← if flags.related then (e.repo.relationshipsOf entityId).mapM (e.relatedEntity flags counts)
    else pure []
  return ⟨entity, related⟩

end LocalEngine

end EntityGateway
