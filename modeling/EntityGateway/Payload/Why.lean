import EntityGateway.Payload.Entity
import EntityGateway.Payload.Score

/-!
# Why payloads

What an engine answers when asked why records belong together: for each result the entity, the
records it was judged on, for a comparison the other entity and its records, and the match
info — the engine's why-key, the match level, the resolution rule, feature scores and the
disclosed relationships met on the way.
-/

namespace EntityGateway

open Decoder

/-- A record named by data source and record id. -/
structure RecordKey where
  dataSource : String
  recordId : String
  deriving DecidableEq, Repr

namespace RecordKey

def decode : Decoder RecordKey :=
  record "RawRecordKey" [field "DATA_SOURCE" .required string, field "RECORD_ID" .required string]
    fun ms => do return ⟨← req ms "DATA_SOURCE" string, ← req ms "RECORD_ID" string⟩

def toJson (k : RecordKey) : Json :=
  Json.obj [("DATA_SOURCE", .string k.dataSource), ("RECORD_ID", .string k.recordId)]

end RecordKey

/-- One disclosed-relationship feature pair: side one's kind and roles. -/
structure DisclosedRelation where
  domain : String
  kind : RelationKind
  role1 : Option String := none
  role2 : Option String := none
  key : Option String := none
  deriving DecidableEq, Repr

namespace DisclosedRelation

def decode : Decoder DisclosedRelation :=
  record "RawDisclosedRelation"
    [field "DOMAIN" .required string, field "FTYPE_CODE" .required RelationKind.decode,
     field "ROLE1" .defaulted (option string), field "ROLE2" .defaulted (option string),
     field "REL_KEY" .defaulted (option string)]
    fun ms => do
      return ⟨← req ms "DOMAIN" string, ← req ms "FTYPE_CODE" RelationKind.decode,
        ← opt ms "ROLE1" string, ← opt ms "ROLE2" string, ← opt ms "REL_KEY" string⟩

def toJson (r : DisclosedRelation) : Json :=
  Json.objOf [some ("DOMAIN", .string r.domain), some ("FTYPE_CODE", r.kind.toJson),
    someMember "ROLE1" Json.string r.role1, someMember "ROLE2" Json.string r.role2,
    someMember "REL_KEY" Json.string r.key]

end DisclosedRelation

/-- The engine's explanation of one match. -/
structure WhyMatchInfo where
  whyKey : String
  level : MatchLevel
  rule : Option String
  scores : ScoreMap
  relations : List DisclosedRelation
  deriving DecidableEq, Repr

namespace WhyMatchInfo

def decode : Decoder WhyMatchInfo :=
  record "RawWhyMatchInfo"
    [field "WHY_KEY" .defaulted string, field "MATCH_LEVEL_CODE" .required MatchLevel.decode,
     field "WHY_ERRULE_CODE" .defaulted (option string), field "FEATURE_SCORES" .defaulted ScoreMap.decode,
     field "DISCLOSED_RELATIONS" .defaulted (list DisclosedRelation.decode)]
    fun ms => do
      return ⟨← dflt ms "WHY_KEY" string "", ← req ms "MATCH_LEVEL_CODE" MatchLevel.decode,
        ← opt ms "WHY_ERRULE_CODE" string, ← dflt ms "FEATURE_SCORES" ScoreMap.decode [],
        ← dflt ms "DISCLOSED_RELATIONS" (list DisclosedRelation.decode) []⟩

def toJson (i : WhyMatchInfo) : Json :=
  Json.objOf [some ("WHY_KEY", .string i.whyKey), some ("MATCH_LEVEL_CODE", i.level.toJson),
    someMember "WHY_ERRULE_CODE" Json.string i.rule, some ("FEATURE_SCORES", ScoreMap.toJson i.scores),
    some ("DISCLOSED_RELATIONS", .array (i.relations.map DisclosedRelation.toJson))]

end WhyMatchInfo

/-- One why result: an entity and the records it was judged on, for a comparison the other
entity and its records, and the explanation. -/
structure WhyResult where
  entityId : Int
  focus : List RecordKey
  otherId : Option Int
  otherFocus : List RecordKey
  info : WhyMatchInfo
  deriving DecidableEq, Repr

namespace WhyResult

def decode : Decoder WhyResult :=
  record "RawWhyResult"
    [field "ENTITY_ID" .required i64, field "FOCUS_RECORDS" .defaulted (list RecordKey.decode),
     field "ENTITY_ID_2" .defaulted (option i64), field "FOCUS_RECORDS_2" .defaulted (list RecordKey.decode),
     field "MATCH_INFO" .required WhyMatchInfo.decode]
    fun ms => do
      return ⟨← req ms "ENTITY_ID" i64, ← dflt ms "FOCUS_RECORDS" (list RecordKey.decode) [],
        ← opt ms "ENTITY_ID_2" i64, ← dflt ms "FOCUS_RECORDS_2" (list RecordKey.decode) [],
        ← req ms "MATCH_INFO" WhyMatchInfo.decode⟩

def toJson (r : WhyResult) : Json :=
  Json.objOf [some ("ENTITY_ID", Json.int r.entityId),
    some ("FOCUS_RECORDS", .array (r.focus.map RecordKey.toJson)),
    someMember "ENTITY_ID_2" Json.int r.otherId, listMember "FOCUS_RECORDS_2" RecordKey.toJson r.otherFocus,
    some ("MATCH_INFO", r.info.toJson)]

end WhyResult

/-- The why results and the entities they speak of. -/
structure WhyData where
  results : List WhyResult
  entities : List EntityData
  deriving DecidableEq, Repr

namespace WhyData

def decode : Decoder WhyData :=
  record "RawWhyData"
    [field "WHY_RESULTS" .defaulted (list WhyResult.decode), field "ENTITIES" .defaulted (list EntityData.decode)]
    fun ms => do
      return ⟨← dflt ms "WHY_RESULTS" (list WhyResult.decode) [], ← dflt ms "ENTITIES" (list EntityData.decode) []⟩

def toJson (d : WhyData) : Json :=
  Json.obj [("WHY_RESULTS", .array (d.results.map WhyResult.toJson)),
    ("ENTITIES", .array (d.entities.map EntityData.toJson))]

end WhyData

end EntityGateway
