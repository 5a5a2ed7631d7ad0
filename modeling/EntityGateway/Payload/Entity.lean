import EntityGateway.Payload.Basic
import EntityGateway.Time

/-!
# Entity payloads

What an engine answers about an entity: the resolved entity with its features, record summaries
and records, and the entities related to it. Each type has a decoder from the engine's JSON
(fields in upper snake case, absent lists read as empty) and `toJson`, which writes the same
shape and leaves out absent values and empty lists where the engine does.
-/

namespace EntityGateway

open Decoder

/-- Statistics of one feature value. -/
structure FeatureStats where
  entityCount : Nat
  candidateCapReached : Bool
  scoringCapReached : Bool
  suppressed : Bool
  deriving DecidableEq, Repr

/-- One value folded into a feature. -/
structure FeatureValue where
  id : Int
  text : String
  stats : Option FeatureStats
  deriving DecidableEq, Repr

/-- A feature of an entity: its primary value and every value folded into it. -/
structure Feature where
  id : Int
  text : String
  usageType : Option String
  values : List FeatureValue
  deriving DecidableEq, Repr

/-- How many records an entity has from one data source. -/
structure RecordSummary where
  dataSource : String
  count : Nat
  lastSeen : Option Timestamp
  deriving DecidableEq, Repr

/-- One record of an entity, with the values it contributes by attribute class. -/
structure EntityRecord where
  dataSource : String
  recordId : String
  lastSeen : Option Timestamp := none
  matchKey : Option String := none
  nameData : List String := []
  addressData : List String := []
  phoneData : List String := []
  characteristicData : List String := []
  identifierData : List String := []
  relationshipData : List String := []
  otherData : List String := []
  deriving DecidableEq, Repr

/-- A resolved entity. -/
structure Entity where
  entityId : Int
  name : Option String := none
  features : List (String × List Feature) := []
  summaries : List RecordSummary := []
  records : List EntityRecord := []
  lastSeen : Option Timestamp := none
  deriving DecidableEq, Repr

/-- An entity related to another, and how. -/
structure RelatedEntity where
  entity : Entity
  level : MatchLevel
  matchKey : String
  disclosed : Bool
  ambiguous : Bool
  deriving DecidableEq, Repr

/-- An entity and the entities related to it. -/
structure EntityData where
  entity : Entity
  related : List RelatedEntity
  deriving DecidableEq, Repr

/-- A member that is written only when present. -/
def someMember (k : String) (f : α → Json) : Option α → Option (String × Json)
  | some a => some (k, f a)
  | none => none

/-- A list member that is written only when not empty. -/
def listMember (k : String) (f : α → Json) (xs : List α) : Option (String × Json) :=
  if xs.isEmpty then none else some (k, .array (xs.map f))

namespace FeatureStats

def decode : Decoder FeatureStats :=
  record "RawFeatureStats"
    [field "ENTITY_COUNT" .required u64, field "CANDIDATE_CAP_REACHED" .defaulted bool,
     field "SCORING_CAP_REACHED" .defaulted bool, field "SUPPRESSED" .defaulted bool]
    fun ms => do
      let c ← req ms "ENTITY_COUNT" u64
      let a ← dflt ms "CANDIDATE_CAP_REACHED" bool false
      let b ← dflt ms "SCORING_CAP_REACHED" bool false
      let s ← dflt ms "SUPPRESSED" bool false
      return ⟨c, a, b, s⟩

def toJson (s : FeatureStats) : Json :=
  Json.obj [("ENTITY_COUNT", Json.nat s.entityCount), ("CANDIDATE_CAP_REACHED", .bool s.candidateCapReached),
    ("SCORING_CAP_REACHED", .bool s.scoringCapReached), ("SUPPRESSED", .bool s.suppressed)]

end FeatureStats

namespace FeatureValue

def decode : Decoder FeatureValue :=
  record "RawFeatureValue"
    [field "LIB_FEAT_ID" .required i64, field "FEAT_DESC" .required string,
     field "STATS" .defaulted (option FeatureStats.decode)]
    fun ms => do
      let id ← req ms "LIB_FEAT_ID" i64
      let t ← req ms "FEAT_DESC" string
      let s ← opt ms "STATS" FeatureStats.decode
      return ⟨id, t, s⟩

def toJson (v : FeatureValue) : Json :=
  Json.objOf [some ("LIB_FEAT_ID", Json.int v.id), some ("FEAT_DESC", .string v.text),
    someMember "STATS" FeatureStats.toJson v.stats]

end FeatureValue

namespace Feature

def decode : Decoder Feature :=
  record "RawFeature"
    [field "LIB_FEAT_ID" .required i64, field "FEAT_DESC" .required string,
     field "USAGE_TYPE" .defaulted (option string), field "FEAT_DESC_VALUES" .defaulted (list FeatureValue.decode)]
    fun ms => do
      let id ← req ms "LIB_FEAT_ID" i64
      let t ← req ms "FEAT_DESC" string
      let u ← opt ms "USAGE_TYPE" string
      let vs ← dflt ms "FEAT_DESC_VALUES" (list FeatureValue.decode) []
      return ⟨id, t, u, vs⟩

def toJson (f : Feature) : Json :=
  Json.objOf [some ("LIB_FEAT_ID", Json.int f.id), some ("FEAT_DESC", .string f.text),
    someMember "USAGE_TYPE" Json.string f.usageType,
    some ("FEAT_DESC_VALUES", .array (f.values.map FeatureValue.toJson))]

end Feature

namespace RecordSummary

def decode : Decoder RecordSummary :=
  record "RawRecordSummary"
    [field "DATA_SOURCE" .required string, field "RECORD_COUNT" .required usize,
     field "LAST_SEEN_DT" .defaulted (option Timestamp.decode)]
    fun ms => do
      let ds ← req ms "DATA_SOURCE" string
      let c ← req ms "RECORD_COUNT" usize
      let t ← opt ms "LAST_SEEN_DT" Timestamp.decode
      return ⟨ds, c, t⟩

def toJson (s : RecordSummary) : Json :=
  Json.objOf [some ("DATA_SOURCE", .string s.dataSource), some ("RECORD_COUNT", Json.nat s.count),
    someMember "LAST_SEEN_DT" Timestamp.toJson s.lastSeen]

end RecordSummary

namespace EntityRecord

/-- The fields of a record, in declaration order. -/
def fields : List Field :=
  [field "DATA_SOURCE" .required string, field "RECORD_ID" .required string,
   field "LAST_SEEN_DT" .defaulted (option Timestamp.decode), field "MATCH_KEY" .defaulted (option string),
   field "NAME_DATA" .defaulted (list string), field "ADDRESS_DATA" .defaulted (list string),
   field "PHONE_DATA" .defaulted (list string), field "CHARACTERISTIC_DATA" .defaulted (list string),
   field "IDENTIFIER_DATA" .defaulted (list string), field "RELATIONSHIP_DATA" .defaulted (list string),
   field "OTHER_DATA" .defaulted (list string)]

/-- Build a record from members known to be well formed. -/
def build (ms : List (String × Json)) : Except String EntityRecord := do
  let ds ← req ms "DATA_SOURCE" string
  let rid ← req ms "RECORD_ID" string
  let t ← opt ms "LAST_SEEN_DT" Timestamp.decode
  let mk ← opt ms "MATCH_KEY" string
  let texts := fun k => dflt ms k (list string) []
  return { dataSource := ds, recordId := rid, lastSeen := t, matchKey := mk,
           nameData := ← texts "NAME_DATA", addressData := ← texts "ADDRESS_DATA",
           phoneData := ← texts "PHONE_DATA", characteristicData := ← texts "CHARACTERISTIC_DATA",
           identifierData := ← texts "IDENTIFIER_DATA", relationshipData := ← texts "RELATIONSHIP_DATA",
           otherData := ← texts "OTHER_DATA" }

def decode : Decoder EntityRecord := record "RawRecord" fields build

/-- The members of a record. -/
def members (r : EntityRecord) : List (Option (String × Json)) :=
  [some ("DATA_SOURCE", .string r.dataSource), some ("RECORD_ID", .string r.recordId),
   someMember "LAST_SEEN_DT" Timestamp.toJson r.lastSeen, someMember "MATCH_KEY" Json.string r.matchKey,
   listMember "NAME_DATA" Json.string r.nameData, listMember "ADDRESS_DATA" Json.string r.addressData,
   listMember "PHONE_DATA" Json.string r.phoneData,
   listMember "CHARACTERISTIC_DATA" Json.string r.characteristicData,
   listMember "IDENTIFIER_DATA" Json.string r.identifierData,
   listMember "RELATIONSHIP_DATA" Json.string r.relationshipData,
   listMember "OTHER_DATA" Json.string r.otherData]

def toJson (r : EntityRecord) : Json := Json.objOf r.members

end EntityRecord

namespace Entity

def decode : Decoder Entity :=
  record "RawResolvedEntity"
    [field "ENTITY_ID" .required i64, field "ENTITY_NAME" .defaulted (option string),
     field "FEATURES" .defaulted (map (list Feature.decode)),
     field "RECORD_SUMMARY" .defaulted (list RecordSummary.decode),
     field "RECORDS" .defaulted (list EntityRecord.decode),
     field "LAST_SEEN_DT" .defaulted (option Timestamp.decode)]
    fun ms => do
      let id ← req ms "ENTITY_ID" i64
      let n ← opt ms "ENTITY_NAME" string
      let fs ← dflt ms "FEATURES" (map (list Feature.decode)) []
      let ss ← dflt ms "RECORD_SUMMARY" (list RecordSummary.decode) []
      let rs ← dflt ms "RECORDS" (list EntityRecord.decode) []
      let t ← opt ms "LAST_SEEN_DT" Timestamp.decode
      return ⟨id, n, fs, ss, rs, t⟩

/-- The members of an entity. -/
def members (e : Entity) : List (Option (String × Json)) :=
  [some ("ENTITY_ID", Json.int e.entityId), someMember "ENTITY_NAME" Json.string e.name,
   if e.features.isEmpty then none
   else some ("FEATURES", .object (e.features.map fun (k, fs) => (k, .array (fs.map Feature.toJson)))),
   listMember "RECORD_SUMMARY" RecordSummary.toJson e.summaries,
   listMember "RECORDS" EntityRecord.toJson e.records,
   someMember "LAST_SEEN_DT" Timestamp.toJson e.lastSeen]

def toJson (e : Entity) : Json := Json.objOf e.members

end Entity

namespace RelatedEntity

def decode : Decoder RelatedEntity :=
  recordWithPart "RawRelatedEntity"
    [field "MATCH_LEVEL_CODE" .required MatchLevel.decode, field "MATCH_KEY" .defaulted string,
     field "IS_DISCLOSED" .defaulted bool, field "IS_AMBIGUOUS" .defaulted bool]
    Entity.decode
    fun ms e => do
      let l ← req ms "MATCH_LEVEL_CODE" MatchLevel.decode
      let k ← dflt ms "MATCH_KEY" string ""
      let d ← dflt ms "IS_DISCLOSED" bool false
      let a ← dflt ms "IS_AMBIGUOUS" bool false
      return ⟨e, l, k, d, a⟩

def toJson (r : RelatedEntity) : Json :=
  Json.objOf (r.entity.members ++
    [some ("MATCH_LEVEL_CODE", r.level.toJson), some ("MATCH_KEY", .string r.matchKey),
     some ("IS_DISCLOSED", .bool r.disclosed), some ("IS_AMBIGUOUS", .bool r.ambiguous)])

end RelatedEntity

namespace EntityData

def decode : Decoder EntityData :=
  record "RawEntityData"
    [field "RESOLVED_ENTITY" .required Entity.decode,
     field "RELATED_ENTITIES" .defaulted (list RelatedEntity.decode)]
    fun ms => do
      let e ← req ms "RESOLVED_ENTITY" Entity.decode
      let rs ← dflt ms "RELATED_ENTITIES" (list RelatedEntity.decode) []
      return ⟨e, rs⟩

def toJson (d : EntityData) : Json :=
  Json.obj [("RESOLVED_ENTITY", d.entity.toJson),
    ("RELATED_ENTITIES", .array (d.related.map RelatedEntity.toJson))]

end EntityData

end EntityGateway
