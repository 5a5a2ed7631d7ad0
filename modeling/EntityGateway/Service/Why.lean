import EntityGateway.Service.Lookup
import EntityGateway.Why.Key

/-!
# Why records belong together

* `whyEntity` explains one entity: one result per record. The engine must give at least one.
* `whyEntities` compares two entities named by identifiers of one kind. Records can move
  between entities while the comparison runs, so for record identifiers both are resolved
  again after the engine answers, and the comparison is repeated (at most `maxWhyAttempts`
  times in all) while either has moved. Comparing an entity with itself is refused, and the
  one result must compare the two entities asked about.
* `whyRecords` compares two records; the one result must have each record among the focus
  records of its side.

Each result is shown with its feature scores, its disclosed relationships grouped by domain
and its why-key reconciled with both; the entities compared are gathered and projected.
-/

namespace EntityGateway

/-- The number of comparisons of two entities tried while their records move. -/
def maxWhyAttempts : Nat := 3

/-- One side of a comparison: an entity and the records it was judged on. -/
structure WhyPerspective where
  entityId : Int
  focus : List RecordKey
  deriving DecidableEq, Repr

namespace WhyPerspective

def contains (p : WhyPerspective) (dataSource recordId : String) : Bool :=
  p.focus.any fun r => r.dataSource = dataSource ∧ r.recordId = recordId

def toJson (p : WhyPerspective) : Json :=
  Json.obj [("entityId", Json.int p.entityId), ("focusRecords", .array (p.focus.map fun r =>
    Json.obj [("dataSource", .string r.dataSource), ("recordId", .string r.recordId)]))]

end WhyPerspective

/-- The shown explanation of one match. -/
structure WhyInfoView where
  whyKey : String
  level : MatchLevel
  rule : Option String
  scores : List (String × List FeatureScoreView)
  relationships : List RelationshipView

/-- One shown why result. -/
structure WhyResultView where
  perspective : WhyPerspective
  other : Option WhyPerspective
  info : WhyInfoView

namespace WhyResultView

def ofResult (r : WhyResult) : WhyResultView :=
  let scores := projectScores r.info.scores
  let relationships := groupRelations r.info.relations
  { perspective := ⟨r.entityId, r.focus⟩,
    other := r.otherId.map fun id => ⟨id, r.otherFocus⟩,
    info := ⟨WhyKey.reconcile r.info.whyKey scores relationships, r.info.level, r.info.rule, scores,
      relationships⟩ }

def toJson (v : WhyResultView) : Json :=
  Json.objOf [some ("perspective", v.perspective.toJson),
    v.other.map fun p => ("otherPerspective", p.toJson),
    some ("matchInfo", Json.objOf [some ("whyKey", .string v.info.whyKey),
      some ("matchLevel", v.info.level.toJson), v.info.rule.map fun r => ("resolutionRule", .string r),
      some ("featureScores", scoreViewsJson v.info.scores),
      some ("disclosedRelationships", .array (v.info.relationships.map RelationshipView.toJson))])]

end WhyResultView

/-- The why results and the entities they speak of. -/
structure WhyAnswer where
  results : List WhyResultView
  entities : List EntityDataView

def WhyAnswer.toJson (a : WhyAnswer) : Json :=
  Json.obj [("whyResults", .array (a.results.map WhyResultView.toJson)),
    ("entities", .array (a.entities.map EntityDataView.toJson))]

/-- An optional id as it is written in messages. -/
def optionText : Option Int → String
  | some i => "Some(" ++ toString i ++ ")"
  | none => "None"

namespace Service

/-- The answer of a why payload about the given entities. -/
def whyAnswer (e : Engine σ) (payload : WhyData) (ids : List Int) (o : RenderOptions) (raw : Json) :
    Service σ (Answer WhyAnswer) := do
  let entities ← gather e payload.entities ids o.engineFlags
  return ⟨⟨payload.results.map WhyResultView.ofResult, ← projectAll o entities⟩, raw⟩

/-- The one result of a why payload. -/
def singleResult (payload : WhyData) : Except GatewayError WhyResult :=
  match payload.results with
  | [r] => .ok r
  | rs => .error (.malformed ("expected exactly one why result, got " ++ toString rs.length))

/-- One result per record of an entity. -/
def whyEntity (e : Engine σ) (i : EntityIdentifier) (o : RenderOptions) : Service σ (Answer WhyAnswer) := do
  ensureKnownSources e i.dataSource?.toList "entity identifier"
  let id ← resolve e i
  let reply ← call (e.whyEntity id o.engineFlags)
  let payload ← lift (reply.read "why")
  if payload.results.isEmpty then
    lift (.error (.malformed ("why payload for entity " ++ toString id ++ " has no results")))
  whyAnswer e payload [id] o reply.raw

/-- Compare the entities of two identifiers once; for record identifiers, also tell whether
either record has moved since. -/
def compareOnce (e : Engine σ) (first second : EntityIdentifier) (byRecord : Bool) (flags : EngineFlags) :
    Service σ (Int × Int × Reply WhyData × Bool) := do
  let id1 ← resolve e first
  let id2 ← resolve e second
  if id1 = id2 then lift (.error (.invalid ("cannot compare entity " ++ toString id1 ++ " with itself")))
  let reply ← call (e.whyEntities id1 id2 flags)
  if !byRecord then return (id1, id2, reply, false)
  let moved ← do
    if (← resolve e first) ≠ id1 then pure true
    else pure ((← resolve e second) ≠ id2)
  return (id1, id2, reply, moved)

/-- Compare the entities of two identifiers, again while their records move, with `n` more
comparisons allowed. -/
def compareEntities (e : Engine σ) (first second : EntityIdentifier) (byRecord : Bool) (flags : EngineFlags) :
    Nat → Service σ (Int × Int × Reply WhyData)
  | 0 => do
    let (id1, id2, reply, _) ← compareOnce e first second byRecord flags
    return (id1, id2, reply)
  | n + 1 => do
    let (id1, id2, reply, moved) ← compareOnce e first second byRecord flags
    if moved then compareEntities e first second byRecord flags n else return (id1, id2, reply)

/-- Exactly one result comparing two entities. -/
def whyEntities (e : Engine σ) (first second : EntityIdentifier) (o : RenderOptions) :
    Service σ (Answer WhyAnswer) := do
  lift (ensureSameKind first second "compared entities")
  ensureKnownSources e (first.dataSource?.toList ++ second.dataSource?.toList) "entity identifier"
  let (id1, id2, reply) ← compareEntities e first second (first.kind == .record) o.engineFlags (maxWhyAttempts - 1)
  let payload ← lift (reply.read "why")
  let r ← lift (singleResult payload)
  if r.entityId ≠ id1 ∨ r.otherId ≠ some id2 then
    lift (.error (.malformed ("why payload compares " ++ toString r.entityId ++ " and " ++ optionText r.otherId ++
      ", expected " ++ toString id1 ++ " and " ++ toString id2)))
  whyAnswer e payload [id1, id2] o reply.raw

/-- Exactly one result comparing two records. -/
def whyRecords (e : Engine σ) (first second : String × String) (o : RenderOptions) :
    Service σ (Answer WhyAnswer) := do
  let a := EntityIdentifier.ofRecord first.1 first.2
  let b := EntityIdentifier.ofRecord second.1 second.2
  let ds1 := first.1.trimBlank.upper
  let ds2 := second.1.trimBlank.upper
  ensureKnownSources e [ds1, ds2] "record identifier"
  let reply ← call (e.whyRecords ds1 first.2 ds2 second.2 o.engineFlags)
  let payload ← lift (reply.read "why")
  let r ← lift (singleResult payload)
  let v := WhyResultView.ofResult r
  let otherHas := match v.other with
    | some p => p.contains ds2 second.2
    | none => false
  if !(v.perspective.contains ds1 first.2 && otherHas) then
    lift (.error (.malformed ("why payload focus records do not include " ++ a.display ++ " and " ++ b.display)))
  let ids := match r.otherId with
    | some id2 => if id2 ≠ r.entityId then [r.entityId, id2] else [r.entityId]
    | none => [r.entityId]
  whyAnswer e payload ids o reply.raw

end Service

end EntityGateway
