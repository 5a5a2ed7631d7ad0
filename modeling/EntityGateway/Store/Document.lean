import EntityGateway.Payload.Basic
import EntityGateway.Time
import EntityGateway.Sorted

/-!
# Repository documents

What a repository holds and a fixture brings: records as their sources stated them (feature
values by type, other data, and the relationships a record discloses), the entities that
records resolve to, the relationships between entities, and possibly a configuration.

Each type reads from JSON with upper snake case fields, absent lists and maps read as empty,
and `toJson` writes it back, leaving out what is absent or empty where the stored form does.
A record's features are read into an ordered map, so every record lists its feature types in
ascending order (`RecordDocument.features_ascending`).
-/

namespace EntityGateway

open Decoder

/-- The side of a disclosed relationship a record states. -/
inductive DisclosureKind where
  | link
  | pointer
  | anchor
  deriving DecidableEq, Repr

namespace DisclosureKind

def code : DisclosureKind → String
  | .link => "LINK"
  | .pointer => "POINTER"
  | .anchor => "ANCHOR"

def decode : Decoder DisclosureKind :=
  enum [("LINK", .link), ("POINTER", .pointer), ("ANCHOR", .anchor)]

end DisclosureKind

/-- A relationship a record itself discloses, such as its employer. -/
structure Disclosure where
  domain : String
  kind : DisclosureKind
  key : String
  role : Option String := none
  deriving DecidableEq, Repr

namespace Disclosure

def decode : Decoder Disclosure :=
  record "RelationshipDisclosure"
    [field "DOMAIN" .required string, field "KIND" .required DisclosureKind.decode,
     field "KEY" .required string, field "ROLE" .defaulted (option string)]
    fun ms => do
      return ⟨← req ms "DOMAIN" string, ← req ms "KIND" DisclosureKind.decode, ← req ms "KEY" string,
        ← opt ms "ROLE" string⟩

end Disclosure

/-- A record as its source stated it. -/
structure RecordDocument where
  dataSource : String
  recordId : String
  lastSeen : Option Timestamp := none
  /-- Feature values by type, types in ascending order. -/
  features : List (String × List String) := []
  features_ascending : KeysAscend features := by decide
  otherData : List String := []
  disclosures : List Disclosure := []
  deriving DecidableEq, Repr

namespace RecordDocument

/-- A record that states no features lists its feature types in order. -/
theorem noFeatures_ascending : KeysAscend ([] : List (String × List String)) := keysAscend_nil

def decode : Decoder RecordDocument :=
  record "RecordDocument"
    [field "DATA_SOURCE" .required string, field "RECORD_ID" .required string,
     field "LAST_SEEN_DT" .defaulted (option Timestamp.decode),
     field "FEATURES" .defaulted (ascendingMap (list string)), field "OTHER_DATA" .defaulted (list string),
     field "RELATIONSHIPS" .defaulted (list Disclosure.decode)]
    fun ms => do
      let dataSource ← req ms "DATA_SOURCE" string
      let recordId ← req ms "RECORD_ID" string
      let lastSeen ← opt ms "LAST_SEEN_DT" Timestamp.decode
      let features ← dflt ms "FEATURES" (ascendingMap (list string)) .empty
      let otherData ← dflt ms "OTHER_DATA" (list string) []
      let disclosures ← dflt ms "RELATIONSHIPS" (list Disclosure.decode) []
      return ⟨dataSource, recordId, lastSeen, features.toList, features.ascending, otherData, disclosures⟩

/-- The values a record states for a feature type. -/
def valuesOf (r : RecordDocument) (featureType : String) : List String :=
  (r.features.lookup featureType).getD []

end RecordDocument

/-- An entity of a fixture with its records. -/
structure FixtureEntity where
  entityId : Int
  records : List RecordDocument
  deriving DecidableEq, Repr

namespace FixtureEntity

def decode : Decoder FixtureEntity :=
  record "FixtureEntity" [field "ENTITY_ID" .required i64, field "RECORDS" .required (list RecordDocument.decode)]
    fun ms => do return ⟨← req ms "ENTITY_ID" i64, ← req ms "RECORDS" (list RecordDocument.decode)⟩

end FixtureEntity

/-- A stored relationship from one entity to another. -/
structure StoredRelationship where
  entityId : Int
  relatedId : Int
  level : MatchLevel
  matchKey : String := ""
  disclosed : Bool := false
  ambiguous : Bool := false
  deriving DecidableEq, Repr

namespace StoredRelationship

def decode : Decoder StoredRelationship :=
  record "StoredRelationship"
    [field "ENTITY_ID" .required i64, field "RELATED_ID" .required i64,
     field "MATCH_LEVEL" .required MatchLevel.decode, field "MATCH_KEY" .defaulted string,
     field "DISCLOSED" .defaulted bool, field "AMBIGUOUS" .defaulted bool]
    fun ms => do
      return ⟨← req ms "ENTITY_ID" i64, ← req ms "RELATED_ID" i64, ← req ms "MATCH_LEVEL" MatchLevel.decode,
        ← dflt ms "MATCH_KEY" string "", ← dflt ms "DISCLOSED" bool false, ← dflt ms "AMBIGUOUS" bool false⟩

/-- The same relationship seen from the other entity. -/
def reversed (r : StoredRelationship) : StoredRelationship :=
  { r with entityId := r.relatedId, relatedId := r.entityId }

end StoredRelationship

/-- What a fixture brings into a repository. -/
structure RepositoryFixture where
  config : Option Json := none
  entities : List FixtureEntity
  relationships : List StoredRelationship := []

namespace RepositoryFixture

/-- Any JSON value. -/
def anyJson : Decoder Json := fun j => .ok j

def decode : Decoder RepositoryFixture :=
  record "RepositoryFixture"
    [field "CONFIG" .defaulted (option anyJson), field "ENTITIES" .required (list FixtureEntity.decode),
     field "RELATIONSHIPS" .defaulted (list StoredRelationship.decode)]
    fun ms => do
      return ⟨← opt ms "CONFIG" anyJson, ← req ms "ENTITIES" (list FixtureEntity.decode),
        ← dflt ms "RELATIONSHIPS" (list StoredRelationship.decode) []⟩

/-- The data sources of the fixture's records, in ascending order without repeats. -/
def dataSources (f : RepositoryFixture) : List String :=
  f.entities.foldl (fun acc e => e.records.foldl (fun acc r => insertAscending r.dataSource acc) acc) []

end RepositoryFixture

end EntityGateway
