import EntityGateway.Payload.Score
import EntityGateway.Error
import EntityGateway.Text.Case

/-!
# Result buckets and score views

A search sorts each candidate into a `MatchBucket` by its match level: a resolved candidate is a
match, a possibly-same one a possible match, a possibly-related or disclosed one a possible
relation, a name-only one a name-only match, and a candidate that does not match is dropped.
A filter names buckets in text, each value possibly a comma-separated list.

`FeatureScoreView` is the shown form of a feature score, and `bestNameScore` the highest
full-name or organization-name score among the name scores, absent when there is none.
-/

namespace EntityGateway

/-- The kind of a search result. -/
inductive MatchBucket where
  | match
  | possibleMatch
  | possibleRelation
  | nameOnlyMatch
  deriving DecidableEq, Repr

namespace MatchBucket

/-- The bucket's name. -/
def code : MatchBucket → String
  | .match => "MATCH"
  | .possibleMatch => "POSSIBLE_MATCH"
  | .possibleRelation => "POSSIBLE_RELATION"
  | .nameOnlyMatch => "NAME_ONLY_MATCH"

/-- The position of a bucket in the order of declaration. -/
def rank : MatchBucket → Nat
  | .match => 0
  | .possibleMatch => 1
  | .possibleRelation => 2
  | .nameOnlyMatch => 3

def toJson (b : MatchBucket) : Json := .string b.code

/-- Read a bucket from text, trimmed and upper-cased. -/
def parse (text : String) : Except GatewayError MatchBucket :=
  match text.trimBlank.upper with
  | "MATCH" => .ok .match
  | "POSSIBLE_MATCH" => .ok .possibleMatch
  | "POSSIBLE_RELATION" => .ok .possibleRelation
  | "NAME_ONLY_MATCH" => .ok .nameOnlyMatch
  | other => .error (.invalid ("unrecognized search result type: " ++ other))

/-- The bucket of a match level; none for a candidate that does not match. -/
def ofLevel : MatchLevel → Option MatchBucket
  | .resolved => some .match
  | .possiblySame => some .possibleMatch
  | .possiblyRelated | .disclosed => some .possibleRelation
  | .nameOnly => some .nameOnlyMatch
  | .noMatch => none

/-- Insert a bucket into a list kept in order and free of repeats. -/
def insertSorted (b : MatchBucket) : List MatchBucket → List MatchBucket
  | [] => [b]
  | c :: cs =>
    if b.rank < c.rank then b :: c :: cs
    else if b.rank = c.rank then c :: cs
    else c :: insertSorted b cs

/-- The buckets a list of filter values names, each value a comma-separated list whose blank
items are skipped; in order and without repeats. -/
def parseAll (values : List String) : Except GatewayError (List MatchBucket) :=
  values.foldlM (fun acc v =>
    ((v.splitOn ",").map String.trimBlank |>.filter (· ≠ "")).foldlM
      (fun acc t => do return insertSorted (← parse t) acc) acc) []

end MatchBucket

/-- The shown form of a feature score. -/
structure FeatureScoreView where
  inboundFeature : String
  candidateFeature : String
  score : Int
  scoringBucket : ScoreBucket
  fullNameScore : Option Int
  orgNameScore : Option Int
  deriving DecidableEq, Repr

namespace FeatureScoreView

def ofScore (s : FeatureScore) : FeatureScoreView :=
  ⟨s.inbound, s.candidate, s.score, s.bucket, s.fullNameScore, s.orgNameScore⟩

def toJson (v : FeatureScoreView) : Json :=
  Json.objOf [some ("inboundFeature", .string v.inboundFeature),
    some ("candidateFeature", .string v.candidateFeature), some ("score", Json.int v.score),
    some ("scoringBucket", v.scoringBucket.toJson),
    v.fullNameScore.map fun s => ("fullNameScore", Json.int s),
    v.orgNameScore.map fun s => ("orgNameScore", Json.int s)]

end FeatureScoreView

/-- The shown form of scores by feature type. -/
def projectScores (m : ScoreMap) : List (String × List FeatureScoreView) :=
  m.map fun (t, ss) => (t, ss.map FeatureScoreView.ofScore)

/-- The shown scores as a JSON object. -/
def scoreViewsJson (m : List (String × List FeatureScoreView)) : Json :=
  .object (m.map fun (t, vs) => (t, .array (vs.map FeatureScoreView.toJson)))

/-- The greatest of a list of optional values, ignoring the absent ones. -/
def maxPresent : List (Option Int) → Option Int
  | [] => none
  | none :: xs => maxPresent xs
  | some x :: xs =>
    match maxPresent xs with
    | some y => some (max x y)
    | none => some x

/-- The highest full-name or organization-name score among the name scores. -/
def bestNameScore (m : ScoreMap) : Option Int :=
  match m.lookup "NAME" with
  | some ss => maxPresent (ss.flatMap fun s => [s.fullNameScore, s.orgNameScore])
  | none => none

end EntityGateway
