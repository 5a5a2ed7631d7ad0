import EntityGateway.Projection.Project
import EntityGateway.Proofs.Distinct

/-!
# Projection of entity data

`project o d` shows the entity data `d` as the options `o` ask. A projection keeps the entity
it shows: its id is the entity's id (`project_entityId`), whatever the options.

`ProjectionRules o d v` lists the rules a view obeys, in their order of precedence: with
`forceMinimal` the entity shows its id and its records alone; otherwise the feature mode decides
features and partiality; the level decides records, last-seen times and names; only the level
`verbose` gathers the values of each attribute class over the records, each value once, in order;
and the switches gate internal features, statistics, duplicate values and related entities.
`project_obeys_precedence` proves that every entity data with records or record summaries
projects, under any options, to a view that obeys them. Each rule is a lemma about
`Projection.entity`, `Projection.record`, `Projection.related` or `Projection.features`.
-/

namespace EntityGateway

/-- The attribute classes whose values an entity view gathers from the records. -/
inductive AttributeClass where
  | name
  | address
  | phone
  | characteristic
  | identifier
  | relationship
  | other
  deriving DecidableEq, Repr

namespace AttributeClass

/-- The values a record gives to a class. -/
def ofRecord : AttributeClass → EntityRecord → List String
  | .name, r => r.nameData
  | .address, r => r.addressData
  | .phone, r => r.phoneData
  | .characteristic, r => r.characteristicData
  | .identifier, r => r.identifierData
  | .relationship, r => r.relationshipData
  | .other, r => r.otherData

/-- The values a view shows for a class. -/
def ofView : AttributeClass → EntityView → List String
  | .name, v => v.nameData
  | .address, v => v.addressData
  | .phone, v => v.phoneData
  | .characteristic, v => v.characteristicData
  | .identifier, v => v.identifierData
  | .relationship, v => v.relationshipData
  | .other, v => v.otherData

end AttributeClass

namespace DetailLevel

theorem showsRecords_iff (l : DetailLevel) : l.showsRecords = true ↔ l ≠ .summary := by
  cases l <;> decide

theorem showsLastSeen_of_brief {l : DetailLevel} (h : l = .minimal ∨ l = .brief) :
    l.showsLastSeen = false := by
  rcases h with rfl | rfl <;> rfl

end DetailLevel

namespace Projection

variable {o : RenderOptions}

/-- Gathering the values of a class over records keeps the first occurrence of each. -/
theorem foldl_mergeDistinct (f : EntityRecord → List String) (rs : List EntityRecord) :
    rs.foldl (fun acc r => mergeDistinct acc (f r)) [] = (rs.flatMap f).eraseDups := by
  have hmerge : mergeDistinct = appendDistinct := rfl
  rw [hmerge, foldl_appendDistinct, appendDistinct_eq_eraseDups List.nodup_nil, List.nil_append]

theorem entity_entityId (o : RenderOptions) (e : Entity) : (entity o e).entityId = e.entityId := by
  unfold entity
  split <;> rfl

/-- The records are listed at every level but `summary`, whatever the other options. -/
theorem entity_records (o : RenderOptions) (e : Entity) :
    (entity o e).records = if o.detailLevel.showsRecords then some (e.records.map (record o)) else none := by
  unfold entity
  split <;> rfl

theorem mem_entity_records {e : Entity} {rs : List RecordView} (h : rs ∈ (entity o e).records) :
    rs = e.records.map (record o) := by
  rw [entity_records] at h
  split at h
  · exact (Option.mem_some_iff.1 h).symm
  · cases h

/-- With `forceMinimal`, an entity shows its id and its records, and nothing else. -/
theorem entity_of_forceMinimal (h : o.forceMinimal = true) (e : Entity) :
    entity o e = { entityId := e.entityId, records := (entity o e).records } := by
  rw [entity_records]
  simp [entity, h]

/-- With `forceMinimal`, a record shows no last-seen time and no match key. -/
theorem record_of_forceMinimal (h : o.forceMinimal = true) (r : EntityRecord) :
    (record o r).lastSeen = none ∧ (record o r).matchKey = none := by
  simp [record, h]

/-- With `forceMinimal`, a related entity shows its id alone. -/
theorem related_of_forceMinimal (h : o.forceMinimal = true) (r : RelatedEntity) :
    (related o r).entity = { entityId := r.entity.entityId } := by
  simp [related, h]

/-- Without `forceMinimal`, an entity is partial exactly when features are off. -/
theorem entity_isPartial (h : o.forceMinimal = false) (e : Entity) :
    (entity o e).isPartial = (o.featureMode == .none) := by
  simp [entity, h]

/-- Without features, an entity shows none. -/
theorem entity_features_of_none (h : o.featureMode = .none) (e : Entity) : (entity o e).features = [] := by
  unfold entity
  split <;> simp [h]

/-- The features an entity shows are among its features as shown. -/
theorem mem_entity_features {e : Entity} {tf : String × List FeatureView} (h : tf ∈ (entity o e).features) :
    tf ∈ features o e.features := by
  unfold entity at h
  split at h
  · simp at h
  · simp only at h
    split at h
    · exact h
    · simp at h

/-- At a level that does not show last-seen times, neither the entity nor its summaries show one. -/
theorem entity_lastSeen_of_hidden (h : o.detailLevel.showsLastSeen = false) (e : Entity) :
    (entity o e).lastSeen = none ∧ ∀ s ∈ (entity o e).summaries, s.lastSeen = none := by
  unfold entity
  split
  · simp
  · refine ⟨by simp [h], fun s hs => ?_⟩
    simp only [summaries] at hs
    split at hs
    · obtain ⟨s', -, rfl⟩ := List.mem_map.1 hs
      simp [h]
    · simp at hs

/-- Without `forceMinimal`, the values of a class are gathered over the records at the level
`verbose`, and none are shown at other levels. -/
theorem ofView_entity_of_not_forceMinimal (h : o.forceMinimal = false) (c : AttributeClass) (e : Entity) :
    c.ofView (entity o e) =
      if o.detailLevel == .verbose then e.records.foldl (fun acc r => mergeDistinct acc (c.ofRecord r)) []
      else [] := by
  unfold entity
  rw [if_neg (by simp [h])]
  cases c <;> rfl

/-- **The values of an attribute class.** Only the level `verbose` without `forceMinimal` shows
them: each value of the records once, in the order first met. -/
theorem ofView_entity (o : RenderOptions) (c : AttributeClass) (e : Entity) :
    c.ofView (entity o e) =
      if o.detailLevel = .verbose ∧ o.forceMinimal = false then (e.records.flatMap c.ofRecord).eraseDups
      else [] := by
  cases hmin : o.forceMinimal
  · rw [ofView_entity_of_not_forceMinimal hmin, foldl_mergeDistinct]
    by_cases hv : o.detailLevel = .verbose <;> simp [hv]
  · rw [entity_of_forceMinimal hmin]
    cases c <;> simp [AttributeClass.ofView]

/-! ## Features -/

theorem feature_statistics (h : o.withFeatureStats = false) (f : Feature) :
    ∀ dv ∈ (feature o f).details, dv.statistics = none := by
  intro dv hdv
  simp only [feature, List.mem_map] at hdv
  obtain ⟨v, -, rfl⟩ := hdv
  simp [h]

theorem feature_duplicates (h : o.featureMode = .representative) (f : Feature) :
    (feature o f).duplicateValues = none := by
  simp [feature, h]

/-- A feature type shown comes with its features as shown, and is internal only when asked. -/
theorem mem_features {fs : List (String × List Feature)} {tf : String × List FeatureView}
    (h : tf ∈ features o fs) :
    (o.withInternalFeatures || !isInternalFeature tf.1) = true ∧ ∃ vs : List Feature, tf.2 = vs.map (feature o) := by
  simp only [features, List.mem_map, List.mem_filter] at h
  obtain ⟨⟨t, vs⟩, ⟨-, hshown⟩, rfl⟩ := h
  exact ⟨hshown, vs, rfl⟩

end Projection

/-! ## The rules of a view -/

/-- The rules a view `v` of the entity data `d` obeys under the options `o`, in their order of
precedence. -/
structure ProjectionRules (o : RenderOptions) (d : EntityData) (v : EntityDataView) : Prop where
  /-- `forceMinimal` shows the entity's id and records alone, records without last-seen time or
  match key, and related entities by id alone. -/
  forceMinimal : o.forceMinimal = true →
    v.entity = { entityId := d.entity.entityId, records := v.entity.records } ∧
    (∀ rs ∈ v.entity.records, ∀ r ∈ rs, r.lastSeen = none ∧ r.matchKey = none) ∧
    (∀ rs ∈ v.related, rs.map (·.entity) = d.related.map fun r => { entityId := r.entity.entityId })
  /-- Otherwise the feature mode `none` shows no features and a partial entity, and any other
  mode a whole one. -/
  featureMode : o.forceMinimal = false →
    (o.featureMode = .none → v.entity.features = [] ∧ v.entity.isPartial = true) ∧
    (o.featureMode ≠ .none → v.entity.isPartial = false)
  /-- The level `summary` lists no records. -/
  summary : o.detailLevel = .summary → v.entity.records = none
  /-- Every other level lists one record view for each record, in order. -/
  records : o.detailLevel ≠ .summary →
    v.entity.records.map (List.map fun r => (r.dataSource, r.recordId)) =
      some (d.entity.records.map fun r => (r.dataSource, r.recordId))
  /-- The levels `minimal` and `brief` show no last-seen time, on the entity or its summaries. -/
  lastSeen : o.detailLevel = .minimal ∨ o.detailLevel = .brief →
    v.entity.lastSeen = none ∧ ∀ s ∈ v.entity.summaries, s.lastSeen = none
  /-- Only `verbose` without `forceMinimal` shows the values of each attribute class: those of
  the records, each once, in order. -/
  attributeData : ∀ c : AttributeClass, c.ofView v.entity =
    if o.detailLevel = .verbose ∧ o.forceMinimal = false then (d.entity.records.flatMap c.ofRecord).eraseDups
    else []
  /-- Internal feature types are shown only when asked. -/
  internal : o.withInternalFeatures = false → ∀ tf ∈ v.entity.features, Projection.isInternalFeature tf.1 = false
  /-- Statistics are shown only when asked. -/
  statistics : o.withFeatureStats = false →
    ∀ tf ∈ v.entity.features, ∀ f ∈ tf.2, ∀ dv ∈ f.details, dv.statistics = none
  /-- The representative mode lists no duplicate values. -/
  representative : o.featureMode = .representative →
    ∀ tf ∈ v.entity.features, ∀ f ∈ tf.2, f.duplicateValues = none
  /-- Related entities are shown unless relationships are off. -/
  related : v.related = none ↔ o.relationshipMode = .none

/-- Entity data with records or record summaries projects to its entity and related entities. -/
theorem project_eq_ok {o : RenderOptions} {d : EntityData}
    (hd : d.entity.records ≠ [] ∨ d.entity.summaries ≠ []) :
    project o d = .ok ⟨Projection.entity o d.entity,
      if o.relationshipMode == .none then none else some (d.related.map (Projection.related o))⟩ := by
  have hkept : (d.entity.records.isEmpty && d.entity.summaries.isEmpty) = false := by
    rcases hd with hd | hd <;> simp [hd]
  simp only [project, hkept]
  rfl

/-- **Precedence of the projection rules.** Every entity data with records or record summaries
projects, under any options, to a view that obeys `ProjectionRules`. -/
theorem project_obeys_precedence (o : RenderOptions) {d : EntityData}
    (hd : d.entity.records ≠ [] ∨ d.entity.summaries ≠ []) :
    ∃ v, project o d = .ok v ∧ ProjectionRules o d v := by
  refine ⟨_, project_eq_ok hd, ⟨fun hmin => ⟨?_, ?_, ?_⟩, fun hmin => ⟨?_, ?_⟩, ?_, ?_, ?_, ?_, ?_, ?_, ?_, ?_⟩⟩
  · exact Projection.entity_of_forceMinimal hmin d.entity
  · intro rs hrs r hr
    rw [Projection.mem_entity_records hrs, List.mem_map] at hr
    obtain ⟨r', -, rfl⟩ := hr
    exact Projection.record_of_forceMinimal hmin r'
  · -- related entities, when shown, are shown by id alone
    intro rs hrs
    dsimp only at hrs
    split at hrs
    · cases hrs
    · rw [← Option.mem_some_iff.1 hrs, List.map_map]
      exact List.map_congr_left fun r _ => Projection.related_of_forceMinimal hmin r
  · intro hnone
    refine ⟨Projection.entity_features_of_none hnone d.entity, ?_⟩
    rw [Projection.entity_isPartial hmin, hnone]
    rfl
  · intro hnone
    rw [Projection.entity_isPartial hmin]
    simpa using hnone
  · intro hsummary
    rw [Projection.entity_records, hsummary]
    rfl
  · intro hsummary
    rw [Projection.entity_records, if_pos ((DetailLevel.showsRecords_iff _).2 hsummary), Option.map_some,
      List.map_map]
    rfl
  · exact fun hlevel => Projection.entity_lastSeen_of_hidden (DetailLevel.showsLastSeen_of_brief hlevel) d.entity
  · exact fun c => Projection.ofView_entity o c d.entity
  · intro hinternal tf htf
    obtain ⟨hshown, -⟩ := Projection.mem_features (Projection.mem_entity_features htf)
    simpa [hinternal] using hshown
  · intro hstats tf htf f hf
    obtain ⟨-, vs, hvs⟩ := Projection.mem_features (Projection.mem_entity_features htf)
    rw [hvs, List.mem_map] at hf
    obtain ⟨f', -, rfl⟩ := hf
    exact Projection.feature_statistics hstats f'
  · intro hrep tf htf f hf
    obtain ⟨-, vs, hvs⟩ := Projection.mem_features (Projection.mem_entity_features htf)
    rw [hvs, List.mem_map] at hf
    obtain ⟨f', -, rfl⟩ := hf
    exact Projection.feature_duplicates hrep f'
  · by_cases hmode : o.relationshipMode = .none <;> simp [hmode]

/-- An entity of two records that share a name. -/
def twoRecordEntity : EntityData where
  entity := { entityId := 1,
              records := [{ dataSource := "A", recordId := "1", nameData := ["Joe"] },
                { dataSource := "A", recordId := "2", nameData := ["Joe", "Jo"] }] }
  related := []

/-- Under the default options, `twoRecordEntity` projects to a view that obeys the rules. -/
theorem twoRecordEntity_obeys_precedence :
    (twoRecordEntity.entity.records ≠ [] ∨ twoRecordEntity.entity.summaries ≠ []) ∧
      ∃ v, project {} twoRecordEntity = .ok v ∧ ProjectionRules {} twoRecordEntity v :=
  have hd : twoRecordEntity.entity.records ≠ [] ∨ twoRecordEntity.entity.summaries ≠ [] :=
    .inl (List.cons_ne_nil _ _)
  ⟨hd, project_obeys_precedence {} hd⟩

/-- A projection shows the entity it was given. -/
theorem project_entityId {o : RenderOptions} {d : EntityData} {v : EntityDataView}
    (h : project o d = .ok v) : v.entity.entityId = d.entity.entityId := by
  unfold project at h
  split at h
  · cases h
  · cases h
    exact Projection.entity_entityId o d.entity

end EntityGateway
