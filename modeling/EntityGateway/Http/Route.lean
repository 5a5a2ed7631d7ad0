import EntityGateway.Http.Url

/-!
# Routes

The routes the gateway serves, read off a request path's segments. A captured segment may be
empty, except as the last segment of the path; a trailing slash makes a different, unknown path.
A captured segment is percent-decoded and must then be UTF-8: the first that is not is named in
the refusal. Every route takes `GET` (and so `HEAD`), except that searching also takes `POST`
and refreshing the configuration takes `POST` only.
-/

namespace EntityGateway

/-- A route of the gateway, with the path segments it captures. -/
inductive Route where
  | heartbeat
  | version
  | dataSources
  | dataSource (code : String)
  | record (dataSource recordId : String)
  | entityByRecord (dataSource recordId : String)
  | whyEntityByRecord (dataSource recordId : String)
  | attributeTypes
  | entity (id : String)
  | whyEntity (id : String)
  | entityPaths
  | entityNetworks
  /-- Searching, under `/entities` (`GET` only) and under `/search-entities`. -/
  | search (acceptsPost : Bool)
  | whyEntities
  | whyRecords
  | currentConfig
  | refreshConfig
  deriving DecidableEq, Repr

namespace Route

/-- A captured segment, percent-decoded; the capture's name when the bytes are not UTF-8. -/
def capture (name segment : String) : Except String String :=
  match Utf8.decodeStrict? (Url.percentDecodeBytes segment.toUTF8.toList) with
  | some text => .ok text
  | none => .error name

/-- The route of a path's segments, if any, its captures decoded. -/
def ofSegments : List String → Option (Except String Route)
  | ["heartbeat"] => some (.ok .heartbeat)
  | ["version"] => some (.ok .version)
  | ["data-sources"] => some (.ok .dataSources)
  | ["data-sources", ds] =>
    if ds.isEmpty then none else some (.dataSource <$> capture "data_source" ds)
  | ["data-sources", ds, "records", rid] =>
    if rid.isEmpty then none
    else some (.record <$> capture "data_source" ds <*> capture "record_id" rid)
  | ["data-sources", ds, "records", rid, "entity"] =>
    some (.entityByRecord <$> capture "data_source" ds <*> capture "record_id" rid)
  | ["data-sources", ds, "records", rid, "entity", "why"] =>
    some (.whyEntityByRecord <$> capture "data_source" ds <*> capture "record_id" rid)
  | ["attribute-types"] => some (.ok .attributeTypes)
  | ["entities"] => some (.ok (.search false))
  | ["entities", id] => if id.isEmpty then none else some (.entity <$> capture "entity_id" id)
  | ["entities", id, "why"] => some (.whyEntity <$> capture "entity_id" id)
  | ["entity-paths"] => some (.ok .entityPaths)
  | ["entity-networks"] => some (.ok .entityNetworks)
  | ["search-entities"] => some (.ok (.search true))
  | ["why", "entities"] => some (.ok .whyEntities)
  | ["why", "records"] => some (.ok .whyRecords)
  | ["config", "current"] => some (.ok .currentConfig)
  | ["config", "refresh"] => some (.ok .refreshConfig)
  | _ => none

/-- The methods the route of a path's segments takes. -/
def methodsOf : List String → List String
  | ["search-entities"] => ["GET", "HEAD", "POST"]
  | ["config", "refresh"] => ["POST"]
  | _ => ["GET", "HEAD"]

end Route

end EntityGateway
