import EntityGateway.Payload.Entity

/-!
# Path and network payloads

What an engine answers to a path or network query: the paths found, each from a start entity to
an end entity through the listed entities, and the entities on them; a network also says
whether it stopped at its entity limit.
-/

namespace EntityGateway

open Decoder

/-- A path between two entities, listing every entity on it. -/
structure EntityPath where
  start : Int
  finish : Int
  entities : List Int
  deriving DecidableEq, Repr

namespace EntityPath

def decode : Decoder EntityPath :=
  record "RawEntityPath"
    [field "START_ENTITY_ID" .required i64, field "END_ENTITY_ID" .required i64,
     field "ENTITIES" .defaulted (list i64)]
    fun ms => do
      return ⟨← req ms "START_ENTITY_ID" i64, ← req ms "END_ENTITY_ID" i64, ← dflt ms "ENTITIES" (list i64) []⟩

def toJson (p : EntityPath) : Json :=
  Json.obj [("START_ENTITY_ID", Json.int p.start), ("END_ENTITY_ID", Json.int p.finish),
    ("ENTITIES", .array (p.entities.map Json.int))]

end EntityPath

/-- The paths of a path query and the entities on them. -/
structure PathData where
  paths : List EntityPath
  entities : List EntityData
  deriving DecidableEq, Repr

namespace PathData

def decode : Decoder PathData :=
  record "RawPathData"
    [field "ENTITY_PATHS" .defaulted (list EntityPath.decode), field "ENTITIES" .defaulted (list EntityData.decode)]
    fun ms => do
      return ⟨← dflt ms "ENTITY_PATHS" (list EntityPath.decode) [], ← dflt ms "ENTITIES" (list EntityData.decode) []⟩

def toJson (d : PathData) : Json :=
  Json.obj [("ENTITY_PATHS", .array (d.paths.map EntityPath.toJson)),
    ("ENTITIES", .array (d.entities.map EntityData.toJson))]

end PathData

/-- The paths of a network query, the entities on them, and whether the entity limit was met. -/
structure NetworkData where
  paths : List EntityPath
  entities : List EntityData
  limitReached : Bool
  deriving DecidableEq, Repr

namespace NetworkData

def decode : Decoder NetworkData :=
  record "RawNetworkData"
    [field "ENTITY_PATHS" .defaulted (list EntityPath.decode), field "ENTITIES" .defaulted (list EntityData.decode),
     field "MAX_ENTITY_LIMIT_REACHED" .defaulted bool]
    fun ms => do
      return ⟨← dflt ms "ENTITY_PATHS" (list EntityPath.decode) [], ← dflt ms "ENTITIES" (list EntityData.decode) [],
        ← dflt ms "MAX_ENTITY_LIMIT_REACHED" bool false⟩

def toJson (d : NetworkData) : Json :=
  Json.obj [("ENTITY_PATHS", .array (d.paths.map EntityPath.toJson)),
    ("ENTITIES", .array (d.entities.map EntityData.toJson)), ("MAX_ENTITY_LIMIT_REACHED", .bool d.limitReached)]

end NetworkData

end EntityGateway
