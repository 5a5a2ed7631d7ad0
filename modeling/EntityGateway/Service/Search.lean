import EntityGateway.Service.Lookup
import EntityGateway.Search.Bucket
import EntityGateway.Search.Criteria

/-!
# Searching by attributes

`search` asks the engine for the candidates matching non-empty criteria and keeps, in the
engine's order, those that match at all and whose bucket the filter accepts (an empty filter
accepts every bucket). Each result is the candidate's entity as projected, its bucket, match
level and key, its feature scores as shown, and its best name score when it has one.
-/

namespace EntityGateway

/-- One search result. -/
structure SearchResult where
  entity : EntityDataView
  bucket : MatchBucket
  level : MatchLevel
  matchKey : String
  scores : List (String × List FeatureScoreView)
  bestNameScore : Option Int

def SearchResult.toJson (r : SearchResult) : Json :=
  Json.objOf (r.entity.members ++
    [some ("resultType", r.bucket.toJson), some ("matchLevel", r.level.toJson),
     some ("matchKey", .string r.matchKey), some ("featureScores", scoreViewsJson r.scores),
     r.bestNameScore.map fun s => ("bestNameScore", Json.int s)])

/-- The results of a search. -/
structure SearchAnswer where
  results : List SearchResult

def SearchAnswer.toJson (a : SearchAnswer) : Json :=
  Json.obj [("searchResults", .array (a.results.map SearchResult.toJson))]

/-- The result of a candidate, unless it does not match or the filter refuses its bucket. -/
def searchResult (o : RenderOptions) (includeOnly : List MatchBucket) (c : SearchCandidate) :
    Except GatewayError (Option SearchResult) :=
  match MatchBucket.ofLevel c.info.level with
  | none => .ok none
  | some b =>
    if !includeOnly.isEmpty && !includeOnly.contains b then .ok none
    else do
      let v ← project o c.entity
      return some ⟨v, b, c.info.level, c.info.key, projectScores c.info.scores, bestNameScore c.info.scores⟩

namespace Service

/-- The candidates matching the criteria, filtered by bucket. -/
def search (e : Engine σ) (c : SearchCriteria) (includeOnly : List MatchBucket) (o : RenderOptions) :
    Service σ (Answer SearchAnswer) := do
  if c.isEmpty then lift (.error (.invalid "search criteria must not be empty"))
  let reply ← call (e.search c.engineValue o.engineFlags)
  let payload ← lift (reply.read "search")
  let results ← lift (payload.candidates.filterMapM (searchResult o includeOnly))
  return ⟨⟨results⟩, reply.raw⟩

end Service

end EntityGateway
