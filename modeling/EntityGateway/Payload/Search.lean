import EntityGateway.Payload.Entity
import EntityGateway.Payload.Score

/-!
# Search payloads

What an engine answers to a search by attributes: each candidate entity with its match info,
the numeric and named match level, the match key and the feature scores.
-/

namespace EntityGateway

open Decoder

/-- How a candidate matched the searched attributes. -/
structure MatchInfo where
  levelNumber : Nat
  level : MatchLevel
  key : String
  scores : ScoreMap
  deriving DecidableEq, Repr

namespace MatchInfo

def decode : Decoder MatchInfo :=
  record "RawMatchInfo"
    [field "MATCH_LEVEL" .required u8, field "MATCH_LEVEL_CODE" .required MatchLevel.decode,
     field "MATCH_KEY" .defaulted string, field "FEATURE_SCORES" .defaulted ScoreMap.decode]
    fun ms => do
      return ⟨← req ms "MATCH_LEVEL" u8, ← req ms "MATCH_LEVEL_CODE" MatchLevel.decode,
        ← dflt ms "MATCH_KEY" string "", ← dflt ms "FEATURE_SCORES" ScoreMap.decode []⟩

def toJson (i : MatchInfo) : Json :=
  Json.obj [("MATCH_LEVEL", Json.nat i.levelNumber), ("MATCH_LEVEL_CODE", i.level.toJson),
    ("MATCH_KEY", .string i.key), ("FEATURE_SCORES", ScoreMap.toJson i.scores)]

end MatchInfo

/-- A candidate entity of a search. -/
structure SearchCandidate where
  info : MatchInfo
  entity : EntityData
  deriving DecidableEq, Repr

namespace SearchCandidate

def decode : Decoder SearchCandidate :=
  record "RawSearchCandidate"
    [field "MATCH_INFO" .required MatchInfo.decode, field "ENTITY" .required EntityData.decode]
    fun ms => do return ⟨← req ms "MATCH_INFO" MatchInfo.decode, ← req ms "ENTITY" EntityData.decode⟩

def toJson (c : SearchCandidate) : Json :=
  Json.obj [("MATCH_INFO", c.info.toJson), ("ENTITY", c.entity.toJson)]

end SearchCandidate

/-- The candidates of a search. -/
structure SearchData where
  candidates : List SearchCandidate
  deriving DecidableEq, Repr

namespace SearchData

def decode : Decoder SearchData :=
  record "RawSearchData" [field "RESOLVED_ENTITIES" .defaulted (list SearchCandidate.decode)]
    fun ms => do return ⟨← dflt ms "RESOLVED_ENTITIES" (list SearchCandidate.decode) []⟩

def toJson (d : SearchData) : Json :=
  Json.obj [("RESOLVED_ENTITIES", .array (d.candidates.map SearchCandidate.toJson))]

end SearchData

end EntityGateway
