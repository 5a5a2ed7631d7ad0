import EntityGateway.Projection.Options
import EntityGateway.Projection.View

/-!
# Projecting entity data onto views

`project o d` renders an engine's entity data under the options `o`. The rules, in order of
precedence:

* an entity with neither records nor record summaries breaks the engine's contract and is an
  error;
* with `forceMinimal`, the entity shows its id, its records (unless the level is `summary`)
  without last-seen time or match key, and nothing else, and every related entity its id only;
* the level `minimal` shows no name and no record summaries, `summary` no records, and only
  `summary` and `verbose` show when the entity was last seen;
* features are shown unless the feature mode is `none`, and then the view is not partial;
  internal features (types ending in `_KEY`) only when asked;
* at the level `verbose` the record values of each attribute class are gathered over the
  records, each value once, in order;
* related entities are shown unless relationships are off: fully for `full`, else with name and
  record summaries only.
-/

namespace EntityGateway

namespace Projection

/-- A feature type that exists only to support matching. -/
def isInternalFeature (featureType : String) : Bool := featureType.endsWith "_KEY"

/-- Append the values not yet present, in order. -/
def mergeDistinct (target values : List String) : List String :=
  values.foldl (fun acc v => if acc.contains v then acc else acc ++ [v]) target

/-- Record summaries as shown at a level. -/
def summaries (level : DetailLevel) (ss : List RecordSummary) : List SummaryView :=
  ss.map fun s => ⟨s.dataSource, s.count, if level.showsLastSeen then s.lastSeen else none⟩

/-- A record as shown: its last-seen time and match key only at the level `verbose` without
`forceMinimal`. -/
def record (o : RenderOptions) (r : EntityRecord) : RecordView :=
  let verbose := o.detailLevel == .verbose && !o.forceMinimal
  ⟨r.dataSource, r.recordId, if verbose then r.lastSeen else none, if verbose then r.matchKey else none⟩

/-- A feature as shown: the representative mode keeps only the values of the feature's own id
and lists no duplicates; otherwise every value is kept and the distinct texts other than the
primary one are the duplicates. -/
def feature (o : RenderOptions) (f : Feature) : FeatureView :=
  let representative := o.featureMode == .representative
  let details := (f.values.filter fun v => !representative || v.id == f.id).map fun v =>
    ⟨v.id, v.text, if o.withFeatureStats then v.stats else none⟩
  let duplicates :=
    if representative then none
    else some (f.values.foldl (fun acc v =>
      if v.text != f.text && !acc.contains v.text then acc ++ [v.text] else acc) [])
  ⟨f.id, f.text, f.usageType, duplicates, details⟩

/-- The features as shown, internal ones only when asked. -/
def features (o : RenderOptions) (fs : List (String × List Feature)) : List (String × List FeatureView) :=
  (fs.filter fun (t, _) => o.withInternalFeatures || !isInternalFeature t).map
    fun (t, vs) => (t, vs.map (feature o))

/-- An entity as shown. -/
def entity (o : RenderOptions) (e : Entity) : EntityView :=
  let level := o.detailLevel
  let records := if level.showsRecords then some (e.records.map (record o)) else none
  if o.forceMinimal then { entityId := e.entityId, records := records }
  else
    let gather := fun (f : EntityRecord → List String) =>
      if level == .verbose then e.records.foldl (fun acc r => mergeDistinct acc (f r)) [] else []
    { entityId := e.entityId
      name := if level.showsName then e.name else none
      summaries := if level.showsName then summaries level e.summaries else []
      records := records
      features := if o.featureMode != .none then features o e.features else []
      lastSeen := if level.showsLastSeen then e.lastSeen else none
      nameData := gather (·.nameData)
      addressData := gather (·.addressData)
      phoneData := gather (·.phoneData)
      characteristicData := gather (·.characteristicData)
      identifierData := gather (·.identifierData)
      relationshipData := gather (·.relationshipData)
      otherData := gather (·.otherData)
      isPartial := o.featureMode == .none }

/-- A related entity as shown: fully for `full` without `forceMinimal`, else its id with, unless
`forceMinimal` or the level `minimal`, its name and record summaries. -/
def related (o : RenderOptions) (r : RelatedEntity) : RelatedView :=
  let full := o.relationshipMode == .full && !o.forceMinimal
  let view :=
    if full then entity o r.entity
    else if !o.forceMinimal && o.detailLevel.showsName then
      { entityId := r.entity.entityId, name := r.entity.name
        summaries := summaries o.detailLevel r.entity.summaries }
    else { entityId := r.entity.entityId }
  ⟨view, r.level, r.matchKey, r.disclosed, r.ambiguous⟩

end Projection

/-- Render entity data under the options; an entity with neither records nor record summaries
breaks the engine's contract. -/
def project (o : RenderOptions) (d : EntityData) : Except GatewayError EntityDataView :=
  if d.entity.records.isEmpty && d.entity.summaries.isEmpty then
    .error (.contractViolation d.entity.entityId)
  else
    .ok ⟨Projection.entity o d.entity,
      if o.relationshipMode == .none then none else some (d.related.map (Projection.related o))⟩

end EntityGateway
