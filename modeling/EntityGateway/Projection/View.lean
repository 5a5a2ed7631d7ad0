import EntityGateway.Payload.Entity

/-!
# Entity views

What the gateway shows of an entity: `EntityView` with its summaries, records, features and the
values of its records by attribute class, `RelatedView` for an entity related to it, and
`EntityDataView` for both together. Each `toJson` writes camel-case members and leaves out what
is absent or empty; a related entity's members stand beside its relation's.
-/

namespace EntityGateway

/-- A record summary as shown. -/
structure SummaryView where
  dataSource : String
  count : Nat
  lastSeen : Option Timestamp
  deriving DecidableEq, Repr

/-- A record as shown. -/
structure RecordView where
  dataSource : String
  recordId : String
  lastSeen : Option Timestamp
  matchKey : Option String
  deriving DecidableEq, Repr

/-- One value of a feature as shown. -/
structure DetailView where
  internalId : Int
  value : String
  statistics : Option FeatureStats
  deriving DecidableEq, Repr

/-- A feature as shown. -/
structure FeatureView where
  primaryId : Int
  primaryValue : String
  usageType : Option String
  duplicateValues : Option (List String)
  details : List DetailView
  deriving DecidableEq, Repr

/-- An entity as shown. -/
structure EntityView where
  entityId : Int
  name : Option String := none
  summaries : List SummaryView := []
  records : Option (List RecordView) := none
  features : List (String × List FeatureView) := []
  lastSeen : Option Timestamp := none
  nameData : List String := []
  addressData : List String := []
  phoneData : List String := []
  characteristicData : List String := []
  identifierData : List String := []
  relationshipData : List String := []
  otherData : List String := []
  isPartial : Bool := true
  deriving DecidableEq, Repr

/-- A related entity as shown. -/
structure RelatedView where
  entity : EntityView
  level : MatchLevel
  matchKey : String
  disclosed : Bool
  ambiguous : Bool
  deriving DecidableEq, Repr

/-- An entity and its related entities as shown; `related` is absent when relationships are
not rendered. -/
structure EntityDataView where
  entity : EntityView
  related : Option (List RelatedView)
  deriving DecidableEq, Repr

namespace FeatureStats

/-- Statistics as shown. -/
def viewJson (s : FeatureStats) : Json :=
  Json.obj [("entityCount", Json.nat s.entityCount), ("candidateCapReached", .bool s.candidateCapReached),
    ("scoringCapReached", .bool s.scoringCapReached), ("suppressed", .bool s.suppressed)]

end FeatureStats

def SummaryView.toJson (s : SummaryView) : Json :=
  Json.objOf [some ("dataSource", .string s.dataSource), some ("recordCount", Json.nat s.count),
    someMember "lastSeenTimestamp" Timestamp.toJson s.lastSeen]

def RecordView.toJson (r : RecordView) : Json :=
  Json.objOf [some ("dataSource", .string r.dataSource), some ("recordId", .string r.recordId),
    someMember "lastSeenTimestamp" Timestamp.toJson r.lastSeen,
    someMember "matchKey" Json.string r.matchKey]

def DetailView.toJson (d : DetailView) : Json :=
  Json.objOf [some ("internalId", Json.int d.internalId), some ("featureValue", .string d.value),
    someMember "statistics" FeatureStats.viewJson d.statistics]

def FeatureView.toJson (f : FeatureView) : Json :=
  Json.objOf [some ("primaryId", Json.int f.primaryId), some ("primaryValue", .string f.primaryValue),
    someMember "usageType" Json.string f.usageType,
    someMember "duplicateValues" Json.strings f.duplicateValues,
    some ("featureDetails", .array (f.details.map DetailView.toJson))]

namespace EntityView

/-- The members of an entity view. -/
def members (e : EntityView) : List (Option (String × Json)) :=
  [some ("entityId", Json.int e.entityId), someMember "entityName" Json.string e.name,
   listMember "recordSummaries" SummaryView.toJson e.summaries,
   someMember "records" (fun rs => .array (rs.map RecordView.toJson)) e.records,
   if e.features.isEmpty then none
   else some ("features", .object (e.features.map fun (k, fs) => (k, .array (fs.map FeatureView.toJson)))),
   someMember "lastSeenTimestamp" Timestamp.toJson e.lastSeen,
   listMember "nameData" Json.string e.nameData, listMember "addressData" Json.string e.addressData,
   listMember "phoneData" Json.string e.phoneData,
   listMember "characteristicData" Json.string e.characteristicData,
   listMember "identifierData" Json.string e.identifierData,
   listMember "relationshipData" Json.string e.relationshipData,
   listMember "otherData" Json.string e.otherData,
   some ("partial", .bool e.isPartial)]

def toJson (e : EntityView) : Json := Json.objOf e.members

end EntityView

def RelatedView.toJson (r : RelatedView) : Json :=
  Json.objOf (r.entity.members ++
    [some ("matchLevel", r.level.toJson), some ("matchKey", .string r.matchKey),
     some ("disclosed", .bool r.disclosed), some ("ambiguous", .bool r.ambiguous)])

namespace EntityDataView

/-- The members of an entity and its related entities. -/
def members (d : EntityDataView) : List (Option (String × Json)) :=
  [some ("resolvedEntity", d.entity.toJson),
   someMember "relatedEntities" (fun rs => .array (rs.map RelatedView.toJson)) d.related]

def toJson (d : EntityDataView) : Json := Json.objOf d.members

end EntityDataView

end EntityGateway
