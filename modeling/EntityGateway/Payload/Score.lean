import EntityGateway.Payload.Basic

/-!
# Feature scores

A `FeatureScore` is the engine's record of the best compared pair of one feature type: the
inbound and candidate values, the score from 0 to 100, its bucket, and for names the score again
as a full-name or an organization-name score.
-/

namespace EntityGateway

open Decoder

/-- The best compared pair of one feature type. -/
structure FeatureScore where
  inbound : String
  candidate : String
  score : Int
  bucket : ScoreBucket
  fullNameScore : Option Int := none
  orgNameScore : Option Int := none
  deriving DecidableEq, Repr

namespace FeatureScore

def decode : Decoder FeatureScore :=
  record "RawFeatureScore"
    [field "INBOUND_FEAT" .required string, field "CANDIDATE_FEAT" .required string,
     field "FULL_SCORE" .required i32, field "SCORE_BUCKET" .required ScoreBucket.decode,
     field "FULL_NAME_SCORE" .defaulted (option i32), field "ORG_NAME_SCORE" .defaulted (option i32)]
    fun ms => do
      let a ← req ms "INBOUND_FEAT" string
      let b ← req ms "CANDIDATE_FEAT" string
      let s ← req ms "FULL_SCORE" i32
      let k ← req ms "SCORE_BUCKET" ScoreBucket.decode
      let f ← opt ms "FULL_NAME_SCORE" i32
      let o ← opt ms "ORG_NAME_SCORE" i32
      return ⟨a, b, s, k, f, o⟩

def toJson (s : FeatureScore) : Json :=
  Json.objOf [some ("INBOUND_FEAT", .string s.inbound), some ("CANDIDATE_FEAT", .string s.candidate),
    some ("FULL_SCORE", Json.int s.score), some ("SCORE_BUCKET", s.bucket.toJson),
    someMemberInt "FULL_NAME_SCORE" s.fullNameScore, someMemberInt "ORG_NAME_SCORE" s.orgNameScore]
where
  someMemberInt (k : String) : Option Int → Option (String × Json)
    | some v => some (k, Json.int v)
    | none => none

end FeatureScore

/-- Scores by feature type, in key order. -/
abbrev ScoreMap := List (String × List FeatureScore)

namespace ScoreMap

def decode : Decoder ScoreMap := map (list FeatureScore.decode)

def toJson (m : ScoreMap) : Json :=
  .object (m.map fun (k, ss) => (k, .array (ss.map FeatureScore.toJson)))

end ScoreMap

end EntityGateway
