import EntityGateway.Engine.Basic
import EntityGateway.Json.Print

/-!
# A scripted engine

An engine that answers from canned payloads, for answers a real engine would rarely give:
records that move between entities, payloads that break a request, malformed payloads and
failures. Every call is written to a log, in the engine's own notation.

* The scripted lists of resolutions and entities are read as maps: of two entries for one key,
  the later one counts.
* A record resolves to the front of its scripted list of entities; the front is dropped while
  more than one remains, so the last one repeats. A record of an unregistered data source, or
  one without a script, is unknown.
* Entities answer their scripted payload; other entities are unknown.
* Paths, networks, searches and explanations answer their scripted payload, explanations
  falling back to a shared one; without a payload the call fails with code 9999.
* Any payload may be `{"$error": {"code": c, "message": m}}`, which fails the call with that
  code and message.
-/

namespace EntityGateway

/-- The canned answers of a scripted engine. -/
structure ScriptSpec where
  dataSources : List String := []
  config : Option Json := none
  resolutions : List ((String × String) × List Int) := []
  entities : List (Int × Json) := []
  path : Option Json := none
  network : Option Json := none
  search : Option Json := none
  why : Option Json := none
  whyEntity : Option Json := none
  whyEntities : Option Json := none
  whyRecords : Option Json := none
  record : Option Json := none

/-- What a scripted engine remembers: the remaining resolutions and the calls made. -/
structure ScriptState where
  queues : List ((String × String) × List Int)
  calls : List String

namespace ScriptState

def initial (spec : ScriptSpec) : ScriptState := ⟨spec.resolutions, []⟩

end ScriptState

namespace Scripted

/-- Log a call. -/
def log (entry : String) : EngineCall ScriptState Unit :=
  modify fun s => { s with calls := s.calls ++ [entry] }

/-- A payload, or the failure it scripts. -/
def payload (j : Json) : Except EngineFailure Json :=
  match j.get? "$error" with
  | some err =>
    let code := match err.get? "code" with
      | some (.number n) => (n.toInt64?).getD 0
      | _ => 0
    .error ⟨code, (err.getD "message").str?.getD ""⟩
  | none => .ok j

/-- A scripted payload, or the failure of a missing one. -/
def scripted (name : String) (p : Option Json) : EngineCall ScriptState Json :=
  match p with
  | some j => ExceptT.mk (pure (payload j))
  | none => throw ⟨9999, name ++ " not scripted"⟩

/-- A list of ids as written in the log. -/
def idList (ids : List Int) : String := "[" ++ ", ".intercalate (ids.map toString) ++ "]"

/-- A list of texts as written in the log. -/
def textList (xs : List String) : String := "[" ++ ", ".intercalate (xs.map debugQuote) ++ "]"

/-- The value of the last entry with key `k`, so that a later entry replaces an earlier one. -/
def lookupLast [BEq α] (k : α) (xs : List (α × β)) : Option β := xs.reverse.lookup k

/-- The front of a resolution list; the list loses it while more than one id remains. -/
def takeFront : List Int → Option (Int × List Int)
  | [] => none
  | [x] => some (x, [x])
  | x :: rest => some (x, rest)

def resolveRecord (spec : ScriptSpec) (ds rid : String) : EngineCall ScriptState Int := do
  log ("resolve_record(" ++ ds ++ "," ++ rid ++ ")")
  if !spec.dataSources.contains ds then throw (EngineFailure.unknownDataSource ds)
  let s ← get
  match (lookupLast (ds, rid) s.queues).bind takeFront with
  | some (id, rest) =>
    set { s with queues := s.queues.map fun (k, q) => if k = (ds, rid) then (k, rest) else (k, q) }
    return id
  | none => throw (EngineFailure.unknownRecord ds rid)

def entityById (spec : ScriptSpec) (id : Int) (flags : EngineFlags) : EngineCall ScriptState (Reply EntityData) := do
  log ("get_entity(" ++ toString id ++ ",flags=" ++ toString flags.bits ++ ")")
  match lookupLast id spec.entities with
  | some j => return Reply.ofJson EntityData.decode (← ExceptT.mk (pure (payload j)))
  | none => throw (EngineFailure.unknownEntity id)

end Scripted

open Scripted in
/-- The engine interface of a script. -/
def scriptedEngine (spec : ScriptSpec) : Engine ScriptState where
  resolveRecord := resolveRecord spec
  entityByRecord ds rid flags := do
    log ("get_entity_by_record_id(" ++ ds ++ "," ++ rid ++ ",flags=" ++ toString flags.bits ++ ")")
    entityById spec (← resolveRecord spec ds rid) flags
  entityById := entityById spec
  record ds rid := do
    log ("get_record(" ++ ds ++ "," ++ rid ++ ")")
    match spec.record with
    | some j => return Reply.ofJson RecordData.decode (← ExceptT.mk (pure (payload j)))
    | none => throw (EngineFailure.unknownRecord ds rid)
  findPath r flags := do
    log ("find_path(from=" ++ toString r.source ++ ",to=" ++ toString r.target ++ ",maxDegrees=" ++
      toString r.maxDegrees ++ ",avoid=" ++ idList r.avoid ++ ",forbid=" ++ toString r.forbidAvoided ++
      ",sources=" ++ textList r.requiredSources ++ ",flags=" ++ toString flags.bits ++ ")")
    return Reply.ofJson PathData.decode (← scripted "path" spec.path)
  findNetwork r flags := do
    log ("find_network(entities=" ++ idList r.entityIds ++ ",maxDegrees=" ++ toString r.maxDegrees ++
      ",buildOut=" ++ toString r.buildOut ++ ",maxEntities=" ++ toString r.maxEntities ++
      ",flags=" ++ toString flags.bits ++ ")")
    return Reply.ofJson NetworkData.decode (← scripted "network" spec.network)
  search c flags := do
    log ("search(" ++ c.compact ++ ",flags=" ++ toString flags.bits ++ ")")
    return Reply.ofJson SearchData.decode (← scripted "search" spec.search)
  whyEntity id flags := do
    log ("why_entity(" ++ toString id ++ ",flags=" ++ toString flags.bits ++ ")")
    return Reply.ofJson WhyData.decode (← scripted "whyEntity" (spec.whyEntity.orElse fun _ => spec.why))
  whyEntities a b flags := do
    log ("why_entities(" ++ toString a ++ "," ++ toString b ++ ",flags=" ++ toString flags.bits ++ ")")
    return Reply.ofJson WhyData.decode (← scripted "whyEntities" (spec.whyEntities.orElse fun _ => spec.why))
  whyRecords ds1 rid1 ds2 rid2 flags := do
    log ("why_records(" ++ ds1 ++ "," ++ rid1 ++ "," ++ ds2 ++ "," ++ rid2 ++ ",flags=" ++ toString flags.bits ++ ")")
    return Reply.ofJson WhyData.decode (← scripted "whyRecords" (spec.whyRecords.orElse fun _ => spec.why))
  exportConfig := do
    log "export_config"
    match spec.config with
    | some j => ExceptT.mk (pure (payload j))
    | none => return Json.obj [("DATA_SOURCES", Json.strings spec.dataSources)]
  activeConfigId := return 1
  defaultConfigId := return 1
  activateConfig _ := return ()

end EntityGateway
