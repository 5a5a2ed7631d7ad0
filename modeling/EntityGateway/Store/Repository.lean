import EntityGateway.Store.Config
import EntityGateway.Store.Document
import EntityGateway.Graph
import EntityGateway.Json.Parse

/-!
# The repository

A repository holds resolved entities: each record (known by data source and record id) with the
entity it belongs to, the relationships between entities (one row per direction), and the
registered configurations, at most one of them the default.

Records are kept in ascending order of data source, then record id, comparing texts by code
point (which is the order of their UTF-8 bytes); relationships in ascending order of entity,
then related entity; configurations by id.

`importFixture` is idempotent: a record whose entity and document are unchanged counts as
unchanged and is left alone, any other record is inserted or replaced; each relationship is
stored in both directions, replacing what was there. The fixture's configuration, or the
default configuration of its data sources, is registered and becomes the default.

`Reachable` holds of the repositories that fixture imports and configuration changes reach from
the empty one: every state the gateway can hold.
-/

namespace EntityGateway

/-- A stored record and the entity it belongs to. -/
structure StoredRecord where
  entityId : Int
  document : RecordDocument
  deriving DecidableEq, Repr

/-- A registered configuration. -/
structure StoredConfig where
  id : Int
  document : Json
  isDefault : Bool

/-- What one import did. -/
structure ImportStats where
  inserted : Nat := 0
  unchanged : Nat := 0
  relationships : Nat := 0
  configId : Int := 0
  deriving DecidableEq, Repr

/-- The numbers of entities, records and relationships of a repository. -/
structure RepositoryCounts where
  entities : Nat
  records : Nat
  relationships : Nat
  deriving DecidableEq, Repr

/-- Resolved entities, their records and relationships, and the registered configurations. -/
structure Repository where
  /-- Entity ids that fixtures have named, ascending. -/
  entities : List Int := []
  records : List StoredRecord := []
  relationships : List StoredRelationship := []
  configs : List StoredConfig := []

namespace Repository

/-- The order of records: data source, then record id. -/
def recordOrder (a b : RecordDocument) : Ordering :=
  match compare a.dataSource b.dataSource with
  | .eq => compare a.recordId b.recordId
  | o => o

/-- Insert a record, replacing the one with the same data source and record id. -/
def upsertRecord (r : StoredRecord) : List StoredRecord → List StoredRecord
  | [] => [r]
  | s :: rest =>
    match recordOrder r.document s.document with
    | .lt => r :: s :: rest
    | .eq => r :: rest
    | .gt => s :: upsertRecord r rest

/-- The order of relationship rows: entity, then related entity. -/
def relationshipOrder (a b : StoredRelationship) : Ordering :=
  match compare a.entityId b.entityId with
  | .eq => compare a.relatedId b.relatedId
  | o => o

/-- Insert a relationship row, replacing the one between the same entities. -/
def upsertRelationship (r : StoredRelationship) : List StoredRelationship → List StoredRelationship
  | [] => [r]
  | s :: rest =>
    match relationshipOrder r s with
    | .lt => r :: s :: rest
    | .eq => r :: rest
    | .gt => s :: upsertRelationship r rest

/-- Add a configuration unless its id is registered. -/
def insertConfig (c : StoredConfig) : List StoredConfig → List StoredConfig
  | [] => [c]
  | s :: rest =>
    if c.id < s.id then c :: s :: rest
    else if c.id = s.id then s :: rest
    else s :: insertConfig c rest

/-- Make a configuration the default, and no other; fails when none is registered. -/
def setDefaultConfig (repo : Repository) (id : Int) : Except String Repository :=
  if repo.configs.isEmpty then .error "No configurations registered"
  else .ok { repo with configs := repo.configs.map fun c => { c with isDefault := decide (c.id = id) } }

/-- A document as it reads back from its stored text: numbers written as floats take their
shortest form. -/
def storedForm (document : Json) : Json :=
  match Json.parse document.compact with
  | .ok j => j
  | .error _ => document

/-- Register a configuration, possibly as the default, and answer its id. -/
def registerConfig (repo : Repository) (document : Json) (makeDefault : Bool) : Repository × Int :=
  let id := configIdOf document
  let document := storedForm document
  let repo := { repo with configs := insertConfig ⟨id, document, false⟩ repo.configs }
  if makeDefault then
    match repo.setDefaultConfig id with
    | .ok r => (r, id)
    | .error _ => (repo, id)
  else (repo, id)

/-- The id of the default configuration, if any. -/
def defaultConfigId (repo : Repository) : Option Int :=
  (repo.configs.find? (·.isDefault)).map (·.id)

/-- The document of a configuration. -/
def config (repo : Repository) (id : Int) : Option Json :=
  (repo.configs.find? (·.id = id)).map (·.document)

/-- The stored record of a data source and record id. -/
def findRecord (repo : Repository) (dataSource recordId : String) : Option StoredRecord :=
  repo.records.find? fun r => r.document.dataSource = dataSource ∧ r.document.recordId = recordId

/-- Store one record of an entity, counting it as unchanged or inserted. -/
def importRecord (entityId : Int) (acc : Repository × ImportStats) (doc : RecordDocument) :
    Repository × ImportStats :=
  let (repo, stats) := acc
  match repo.findRecord doc.dataSource doc.recordId with
  | some r =>
    if r.entityId = entityId ∧ r.document = doc then (repo, { stats with unchanged := stats.unchanged + 1 })
    else ({ repo with records := upsertRecord ⟨entityId, doc⟩ repo.records },
          { stats with inserted := stats.inserted + 1 })
  | none =>
    ({ repo with records := upsertRecord ⟨entityId, doc⟩ repo.records },
     { stats with inserted := stats.inserted + 1 })

/-- Store the records of one entity of a fixture, naming the entity. -/
def importEntity (acc : Repository × ImportStats) (e : FixtureEntity) : Repository × ImportStats :=
  let (repo, stats) := acc
  let repo := { repo with entities := insertAscending e.entityId repo.entities }
  e.records.foldl (importRecord e.entityId) (repo, stats)

/-- Store a relationship in both directions, replacing what was stored between the two. -/
def importRelationship (acc : Repository × ImportStats) (rel : StoredRelationship) :
    Repository × ImportStats :=
  let (repo, stats) := acc
  ({ repo with relationships := upsertRelationship rel.reversed (upsertRelationship rel repo.relationships) },
   { stats with relationships := stats.relationships + 1 })

/-- Import a fixture. -/
def importFixture (repo : Repository) (f : RepositoryFixture) : Repository × ImportStats :=
  let document := f.config.getD (defaultConfig f.dataSources)
  let (repo, configId) := repo.registerConfig document true
  f.relationships.foldl importRelationship (f.entities.foldl importEntity (repo, { configId }))

/-- The repositories that fixture imports and configuration changes reach from the empty one. -/
inductive Reachable : Repository → Prop
  | empty : Reachable {}
  | imported {repo : Repository} (f : RepositoryFixture) :
      Reachable repo → Reachable (repo.importFixture f).1
  | registered {repo : Repository} (document : Json) (makeDefault : Bool) :
      Reachable repo → Reachable (repo.registerConfig document makeDefault).1
  | defaultSet {repo repo' : Repository} (id : Int) :
      Reachable repo → repo.setDefaultConfig id = .ok repo' → Reachable repo'

/-- Whether an entity has records. -/
def entityExists (repo : Repository) (entityId : Int) : Bool :=
  repo.records.any (·.entityId = entityId)

/-- The entity a record belongs to. -/
def entityOfRecord (repo : Repository) (dataSource recordId : String) : Option Int :=
  (repo.findRecord dataSource recordId).map (·.entityId)

/-- The records of an entity, in record order. -/
def recordsOf (repo : Repository) (entityId : Int) : List RecordDocument :=
  (repo.records.filter (·.entityId = entityId)).map (·.document)

/-- The entities that have records, ascending. -/
def recordEntityIds (repo : Repository) : List Int :=
  repo.records.foldl (fun acc r => insertAscending r.entityId acc) []

/-- The stored relationships of an entity, by ascending related entity. -/
def relationshipsOf (repo : Repository) (entityId : Int) : List StoredRelationship :=
  repo.relationships.filter (·.entityId = entityId)

/-- The relationship graph over every entity, with the data sources of each. -/
def graph (repo : Repository) : EntityGraph :=
  let g := repo.records.foldl (fun (g : EntityGraph) r => g.addEntity r.entityId [r.document.dataSource]) {}
  repo.relationships.foldl (fun (g : EntityGraph) r => g.addRelationship r.entityId r.relatedId) g

/-- Distinct entities with records, records, and relationship rows halved. -/
def counts (repo : Repository) : RepositoryCounts :=
  ⟨repo.recordEntityIds.length, repo.records.length, repo.relationships.length / 2⟩

end Repository

end EntityGateway
