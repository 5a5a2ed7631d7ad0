import EntityGateway.Engine.Local
import EntityGateway.Proofs.Ascending
import EntityGateway.Proofs.Projection
import EntityGateway.Proofs.ServiceRun

/-!
# What a projection reads of the local engine's entity data

`RenderOptions.engineFlags` asks the engine for what a projection shows, and the local engine
builds an entity's data from the flags it is given. The two are written apart: each flag gates a
part of `LocalEngine.buildEntity` or `LocalEngine.entityData` (features, internal key features,
their statistics, records, record data, related entities and their details), and each branch of
`project` reads some of these parts. This module shows that they agree.

* `Requests F o`: the flags `F` contain what the options `o` ask for, flag by flag;
* `entity_buildEntity`, `related_congr`: the view of an entity built with such flags is the view
  of the entity built with the options' own flags;
* `features_mergeFeatures_stats`, `features_mergeFeatures_internal`: statistics and internal key
  features asked for beyond the options are not seen through the projection;
* `project_entityData_of_requests`: projecting the local engine's entity data built with any such
  flags gives the view of the data built with the options' flags;
* `LocalPayloadsRender`: every entity data of every payload of the local engine has record
  summaries, so no projection of it breaks the engine's contract.
-/

namespace EntityGateway

open Projection

/-! ## The flags the options ask for -/

namespace RenderOptions

variable (o : RenderOptions)

@[simp] theorem engineFlags_features :
    o.engineFlags.features = (!o.forceMinimal && o.featureMode != .none) := by
  unfold engineFlags; cases o.forceMinimal <;> rfl

@[simp] theorem engineFlags_records : o.engineFlags.records = o.detailLevel.showsRecords := by
  unfold engineFlags; cases o.forceMinimal <;> rfl

@[simp] theorem engineFlags_recordData :
    o.engineFlags.recordData = (!o.forceMinimal && o.detailLevel == .verbose) := by
  unfold engineFlags; cases o.forceMinimal <;> rfl

@[simp] theorem engineFlags_featureStats :
    o.engineFlags.featureStats = (!o.forceMinimal && o.featureMode != .none && o.withFeatureStats) := by
  unfold engineFlags; cases o.forceMinimal <;> rfl

@[simp] theorem engineFlags_internalFeatures :
    o.engineFlags.internalFeatures =
      (!o.forceMinimal && o.featureMode != .none && o.withInternalFeatures) := by
  unfold engineFlags; cases o.forceMinimal <;> rfl

@[simp] theorem engineFlags_related : o.engineFlags.related = (o.relationshipMode != .none) := by
  unfold engineFlags; cases o.forceMinimal <;> rfl

@[simp] theorem engineFlags_relatedDetails :
    o.engineFlags.relatedDetails = (!o.forceMinimal && o.relationshipMode == .full) := by
  unfold engineFlags; cases o.forceMinimal <;> rfl

end RenderOptions

/-- The flags `F` contain every flag the options `o` ask the engine for, stated by what each flag
of `RenderOptions.engineFlags` is set for. -/
structure Requests (F : EngineFlags) (o : RenderOptions) : Prop where
  records : o.detailLevel.showsRecords = true → F.records = true
  features : o.forceMinimal = false → o.featureMode ≠ .none → F.features = true
  recordData : o.forceMinimal = false → o.detailLevel = .verbose → F.recordData = true
  featureStats : o.forceMinimal = false → o.featureMode ≠ .none → o.withFeatureStats = true →
    F.featureStats = true
  internalFeatures : o.forceMinimal = false → o.featureMode ≠ .none → o.withInternalFeatures = true →
    F.internalFeatures = true
  related : o.relationshipMode ≠ .none → F.related = true
  relatedDetails : o.forceMinimal = false → o.relationshipMode = .full → F.relatedDetails = true

namespace Requests

variable {F : EngineFlags} {o : RenderOptions}

theorem of_contains (h : F.contains o.engineFlags = true) : Requests F o := by
  simp only [EngineFlags.contains, Bool.and_eq_true, Bool.or_eq_true, Bool.not_eq_true'] at h
  obtain ⟨⟨⟨⟨⟨⟨hfeat, hrec⟩, hdata⟩, hstats⟩, hint⟩, hrel⟩, hdet⟩ := h
  constructor
  · intro hs
    exact hrec.resolve_left (by simp [hs])
  · intro hmin hmode
    exact hfeat.resolve_left (by simp [hmin, hmode])
  · intro hmin hlevel
    exact hdata.resolve_left (by simp [hmin, hlevel])
  · intro hmin hmode hs
    exact hstats.resolve_left (by simp [hmin, hmode, hs])
  · intro hmin hmode hi
    exact hint.resolve_left (by simp [hmin, hmode, hi])
  · intro hmode
    exact hrel.resolve_left (by simp [hmode])
  · intro hmin hmode
    exact hdet.resolve_left (by simp [hmin, hmode])

end Requests

/-! ## Records and entities of the local engine -/

namespace LocalEngine

/-- A record carries its head (data source, record id, last-seen time, no match key) whatever
data it is given. -/
theorem recordPayload_head (s : EngineSettings) (r : RecordDocument) (withData : Bool) :
    ((recordPayload s r withData).dataSource, (recordPayload s r withData).recordId,
      (recordPayload s r withData).lastSeen, (recordPayload s r withData).matchKey) =
      (r.dataSource, r.recordId, r.lastSeen, none) := by
  let head := fun (x : EntityRecord) => (x.dataSource, x.recordId, x.lastSeen, x.matchKey)
  -- both folds of the record data only append to the value lists
  have hfold : ∀ {α : Type} (step : EntityRecord → α → EntityRecord), (∀ x a, head (step x a) = head x) →
      ∀ (l : List α) (x : EntityRecord), head (l.foldl step x) = head x := by
    intro α step hstep l
    induction l with
    | nil => intro x; rfl
    | cons a l ih => intro x; rw [List.foldl_cons, ih, hstep]
  cases withData
  · rfl
  · refine hfold _ (fun x p => ?_) r.features _
    refine hfold _ (fun x v => ?_) p.2 x
    split <;> rfl

@[simp] theorem record_recordPayload (o : RenderOptions) (s : EngineSettings) (r : RecordDocument)
    (withData : Bool) :
    Projection.record o (recordPayload s r withData) = Projection.record o (recordPayload s r false) := by
  have h := recordPayload_head s r withData
  have h' := recordPayload_head s r false
  simp only [Prod.mk.injEq] at h h'
  simp [Projection.record, h, h']

/-- A fold whose every step answers a non-empty list answers one over a non-empty list. -/
theorem foldl_ne_nil_of_step {α β : Type} {f : List β → α → List β} (hf : ∀ acc a, f acc a ≠ []) :
    ∀ {l : List α} (acc : List β), l ≠ [] → l.foldl f acc ≠ []
  | [], _, h => absurd rfl h
  | [a], acc, _ => hf acc a
  | a :: b :: l, acc, _ => foldl_ne_nil_of_step hf (f acc a) (List.cons_ne_nil b l)

/-- An entity with records has record summaries. -/
theorem summaries_ne_nil {rs : List RecordDocument} (h : rs ≠ []) : summaries rs ≠ [] := by
  simp only [summaries, ne_eq, List.map_eq_nil_iff]
  exact foldl_ne_nil_of_step (fun _ _ => updateAscending_ne_nil _ _ _ _) _ h

theorem entityRecords_ne_nil {e : LocalEngine} {id : Int} {rs : List RecordDocument}
    (h : e.entityRecords id = .ok rs) : rs ≠ [] := by
  unfold entityRecords at h
  split at h
  · cases h
  · cases h
    assumption

end LocalEngine

/-! ## Features -/

/-- Two folds that run in step: related starts and steps that keep the relation give related
results. -/
theorem foldl_rel {α β γ : Type} (R : β → γ → Prop) {f : β → α → β} {g : γ → α → γ}
    (h : ∀ b c a, R b c → R (f b a) (g c a)) :
    ∀ (l : List α) {b : β} {c : γ}, R b c → R (l.foldl f b) (l.foldl g c)
  | [], _, _, hbc => hbc
  | a :: l, _, _, hbc => foldl_rel R h l (h _ _ a hbc)

namespace Projection

variable {o : RenderOptions}

/-- Features as shown: those of the shown types, each feature as shown. -/
theorem features_eq (o : RenderOptions) (fs : List (String × List Feature)) :
    features o fs = (fs.filter fun e => o.withInternalFeatures || !isInternalFeature e.1).map
      (Prod.map id (List.map (feature o))) := rfl

theorem features_eq_filter_map (o : RenderOptions) (fs : List (String × List Feature)) :
    features o fs = (fs.map (Prod.map id (List.map (feature o)))).filter
      fun e => o.withInternalFeatures || !isInternalFeature e.1 := by
  rw [features_eq, List.filter_map]
  rfl

end Projection

namespace LocalEngine

open Projection

variable {o : RenderOptions}

/-- Without statistics shown, a feature shows the same whatever counts it was built with. -/
@[simp] theorem feature_buildFeature (hs : o.withFeatureStats = false) (t ct n : String)
    (members : List String) (counts : Option FeatureCounts) :
    feature o (buildFeature t ct n members counts) = feature o (buildFeature t ct n members none) := by
  simp [feature, buildFeature, hs, List.filter_map, List.foldl_map, Function.comp_def]

/-- Without statistics shown, the features of records show the same whatever counts they were
built with. -/
theorem map_mergeFeatures_stats (hs : o.withFeatureStats = false) (rs : List RecordDocument)
    (internal : Bool) (counts : Option FeatureCounts) :
    (mergeFeatures rs internal counts).map (Prod.map id (List.map (feature o))) =
      (mergeFeatures rs internal none).map (Prod.map id (List.map (feature o))) := by
  unfold mergeFeatures
  refine foldl_rel (fun (b c : List (String × List Feature)) => b.map (Prod.map id (List.map (feature o))) =
    c.map (Prod.map id (List.map (feature o)))) (fun b c a hbc => ?_) _ rfl
  obtain ⟨t, groups⟩ := a
  -- each step sets the entries of a type (and of its key type) alike on both sides
  cases internal <;> cases hk : keyType t <;>
    simp only [hk, map_updateAscending_const, hbc, List.map_map, Function.comp_def, feature_buildFeature hs]

theorem features_mergeFeatures_stats (hs : o.withFeatureStats = false) (rs : List RecordDocument)
    (internal : Bool) (counts : Option FeatureCounts) :
    features o (mergeFeatures rs internal counts) = features o (mergeFeatures rs internal none) := by
  rw [features_eq_filter_map, features_eq_filter_map, map_mergeFeatures_stats hs]

/-- A key type is an internal feature type. -/
theorem isInternalFeature_of_keyType {t k : String} (h : keyType t = some k) : isInternalFeature k = true := by
  unfold keyType at h
  split at h <;> cases h <;> decide +kernel

/-- Internal features asked for beyond the options are not shown: key features are of internal
types, and inserting them keeps the other types in place. -/
theorem filter_mergeFeatures_internal (rs : List RecordDocument) (counts : Option FeatureCounts) :
    (mergeFeatures rs true counts).filter (fun e => !isInternalFeature e.1) =
      (mergeFeatures rs false counts).filter (fun e => !isInternalFeature e.1) := by
  unfold mergeFeatures
  refine (foldl_rel (fun (b c : List (String × List Feature)) => KeysAscend b ∧ KeysAscend c ∧
    b.filter (fun e => !isInternalFeature e.1) = c.filter (fun e => !isInternalFeature e.1))
    (fun b c a hbc => ?_) _ ⟨keysAscend_nil, keysAscend_nil, rfl⟩).2.2
  obtain ⟨t, groups⟩ := a
  obtain ⟨hb, hc, hbc⟩ := hbc
  -- both sides set the entry of `t`; the left may then set that of its key type, which is internal
  have hstep : ∀ x, (updateAscending t [] (fun _ => x) b).filter (fun e => !isInternalFeature e.1) =
      (updateAscending t [] (fun _ => x) c).filter (fun e => !isInternalFeature e.1) := by
    intro x
    cases ht : isInternalFeature t
    · rw [filter_updateAscending_of_pos _ _ _ (fun t => !isInternalFeature t) (by simp [ht]) hb,
        filter_updateAscending_of_pos _ _ _ (fun t => !isInternalFeature t) (by simp [ht]) hc, hbc]
    · rw [filter_updateAscending_of_neg _ _ _ (fun t => !isInternalFeature t) (by simp [ht]),
        filter_updateAscending_of_neg _ _ _ (fun t => !isInternalFeature t) (by simp [ht]), hbc]
  cases hk : keyType t with
  | none =>
    simp only [hk]
    exact ⟨keysAscend_updateAscending _ _ _ hb, keysAscend_updateAscending _ _ _ hc, hstep _⟩
  | some k =>
    simp only [hk]
    refine ⟨keysAscend_updateAscending _ _ _ (keysAscend_updateAscending _ _ _ hb),
      keysAscend_updateAscending _ _ _ hc, ?_⟩
    rw [filter_updateAscending_of_neg _ _ _ (fun t => !isInternalFeature t)
      (by simp [isInternalFeature_of_keyType hk]), hstep]

end LocalEngine

/-! ## The view of an entity -/

namespace LocalEngine

open Projection

variable {F : EngineFlags} {o : RenderOptions}

@[simp] theorem buildEntity_features (s : EngineSettings) (id : Int) (rs : List RecordDocument)
    (flags : EngineFlags) (counts : Option FeatureCounts) :
    (buildEntity s id rs flags counts).features =
      if flags.features then mergeFeatures rs flags.internalFeatures counts else [] := rfl

@[simp] theorem buildEntity_records (s : EngineSettings) (id : Int) (rs : List RecordDocument)
    (flags : EngineFlags) (counts : Option FeatureCounts) :
    (buildEntity s id rs flags counts).records =
      if flags.records then rs.map fun r => recordPayload s r flags.recordData else [] := rfl

/-- Internal features are shown alike when the flags ask for them at least when the options do. -/
theorem features_mergeFeatures_internal {internal : Bool}
    (h : o.withInternalFeatures = true → internal = true) (rs : List RecordDocument)
    (counts : Option FeatureCounts) :
    features o (mergeFeatures rs internal counts) = features o (mergeFeatures rs o.withInternalFeatures counts) := by
  cases hwi : o.withInternalFeatures
  · cases internal
    · rfl
    · simp only [features_eq, hwi, Bool.false_or, filter_mergeFeatures_internal]
  · rw [h hwi]

section

variable (s : EngineSettings) (id : Int) (rs : List RecordDocument) (cs : FeatureCounts)

theorem recordViews_buildEntity (hF : Requests F o) (h : o.detailLevel.showsRecords = true)
    (counts counts' : Option FeatureCounts) :
    (buildEntity s id rs F counts).records.map (record o) =
      (buildEntity s id rs o.engineFlags counts').records.map (record o) := by
  simp [hF.records h, h]

theorem shownRecords_buildEntity (hF : Requests F o) (counts counts' : Option FeatureCounts) :
    (if o.detailLevel.showsRecords then some ((buildEntity s id rs F counts).records.map (record o)) else none) =
      if o.detailLevel.showsRecords then
        some ((buildEntity s id rs o.engineFlags counts').records.map (record o))
      else none := by
  split
  · rename_i h
    rw [recordViews_buildEntity s id rs hF h]
  · rfl

theorem records_buildEntity_of_verbose (hF : Requests F o) (hmin : o.forceMinimal = false)
    (hv : o.detailLevel = .verbose) (counts counts' : Option FeatureCounts) :
    (buildEntity s id rs F counts).records = (buildEntity s id rs o.engineFlags counts').records := by
  have hs : o.detailLevel.showsRecords = true := by simp [hv, DetailLevel.showsRecords]
  simp [hF.records hs, hF.recordData hmin hv, hmin, hv, DetailLevel.showsRecords]

/-- With features shown, the features of an entity built with the flags show as those of the
entity built with the options' flags. -/
theorem features_buildEntity (hF : Requests F o) (hmin : o.forceMinimal = false)
    (hmode : o.featureMode ≠ .none) :
    features o (buildEntity s id rs F (if F.featureStats then some cs else none)).features =
      features o (buildEntity s id rs o.engineFlags
        (if o.engineFlags.featureStats then some cs else none)).features := by
  have hint : o.withInternalFeatures = true → F.internalFeatures = true := hF.internalFeatures hmin hmode
  have hshown : (o.featureMode != .none) = true := by simpa using hmode
  simp only [buildEntity_features, hF.features hmin hmode, RenderOptions.engineFlags_features,
    RenderOptions.engineFlags_internalFeatures, RenderOptions.engineFlags_featureStats, hmin, hshown,
    Bool.not_false, Bool.true_and, if_true, features_mergeFeatures_internal hint]
  cases hws : o.withFeatureStats
  · -- statistics are shown on neither side
    rw [features_mergeFeatures_stats hws]
    simp
  · simp [hF.featureStats hmin hmode hws]

/-- **An entity shows alike under richer flags.** The view of an entity built with flags that
contain what the options ask for is the view of the entity built with the options' flags. -/
theorem entity_buildEntity (hF : Requests F o) :
    entity o (buildEntity s id rs F (if F.featureStats then some cs else none)) =
      entity o (buildEntity s id rs o.engineFlags (if o.engineFlags.featureStats then some cs else none)) := by
  cases hmin : o.forceMinimal
  · -- every part of the full view reads only what the options' flags ask for
    simp only [entity, hmin, Bool.false_eq_true, if_false]
    congr 1
    · exact shownRecords_buildEntity s id rs hF _ _
    · split
      · rename_i hmode
        exact features_buildEntity s id rs cs hF hmin (by simpa using hmode)
      · rfl
    -- the values of the seven attribute classes, gathered at the level `verbose` only
    all_goals
      split
      · rename_i hv
        rw [records_buildEntity_of_verbose s id rs hF hmin (by simpa using hv)]
      · rfl
  · -- only the records are shown
    simp only [entity, hmin, if_true]
    congr 1
    exact shownRecords_buildEntity s id rs hF _ _

end

end LocalEngine

/-! ## Entity data -/

namespace Projection

variable {o : RenderOptions}

/-- A related entity shows only its id, name and record summaries, unless it is shown fully. -/
theorem related_congr {a b : Entity} (hfull : o.relationshipMode = .full → o.forceMinimal = false →
      entity o a = entity o b)
    (hid : a.entityId = b.entityId) (hname : a.name = b.name) (hsum : a.summaries = b.summaries)
    (level : MatchLevel) (key : String) (disclosed ambiguous : Bool) :
    related o ⟨a, level, key, disclosed, ambiguous⟩ = related o ⟨b, level, key, disclosed, ambiguous⟩ := by
  unfold related
  simp only [hid, hname, hsum]
  split
  · rename_i hf
    simp only [Bool.and_eq_true, beq_iff_eq, Bool.not_eq_true'] at hf
    rw [hfull hf.1 hf.2]
  · rfl

end Projection

namespace LocalEngine

open Projection

variable {F : EngineFlags} {o : RenderOptions}

/-- A related entity built with the flags shows as the one built with the options' flags. -/
theorem relatedEntity_of_requests (hF : Requests F o) (e : LocalEngine) (cs : FeatureCounts)
    (rel : StoredRelationship) {r : RelatedEntity}
    (h : e.relatedEntity F (if F.featureStats then some cs else none) rel = .ok r) :
    ∃ r', e.relatedEntity o.engineFlags (if o.engineFlags.featureStats then some cs else none) rel = .ok r' ∧
      related o r = related o r' := by
  unfold relatedEntity at h ⊢
  obtain ⟨rs, hrs, h⟩ := except_bind_eq_ok.1 h
  cases h
  refine ⟨_, by rw [hrs]; rfl, ?_⟩
  apply related_congr
  · -- shown fully, a related entity keeps its details on both sides
    intro hfull hmin
    simp only [hF.relatedDetails hmin hfull, RenderOptions.engineFlags_relatedDetails, hmin, hfull,
      Bool.not_false, beq_self_eq_true, Bool.and_self, if_true]
    exact entity_buildEntity e.settings rel.relatedId rs cs hF
  -- the id, name and summaries are kept when details are cleared
  all_goals
    simp only [apply_ite Entity.entityId, apply_ite Entity.name, apply_ite Entity.summaries, ite_self]
    rfl

/-- Entity data with records shows alike when built with flags that contain what the options ask
for and when built with the options' flags. -/
theorem project_buildEntity (hF : Requests F o) (s : EngineSettings) (id : Int) {rs : List RecordDocument}
    (hrs : rs ≠ []) (cs : FeatureCounts) {relF relG : List RelatedEntity}
    (hrel : o.relationshipMode ≠ .none → relF.map (related o) = relG.map (related o)) :
    project o ⟨buildEntity s id rs F (if F.featureStats then some cs else none), relF⟩ =
      project o ⟨buildEntity s id rs o.engineFlags (if o.engineFlags.featureStats then some cs else none), relG⟩ := by
  rw [project_eq_ok (.inr (summaries_ne_nil hrs)), project_eq_ok (.inr (summaries_ne_nil hrs)),
    entity_buildEntity s id rs cs hF]
  by_cases hmode : o.relationshipMode = .none
  · simp [hmode]
  · simp [hmode, hrel hmode]

/-- **Entity data asks for what the projection reads.** Entity data that the local engine builds
with flags containing what the options ask for projects as the entity data built with the
options' own flags, which the engine builds too. -/
theorem project_entityData_of_requests {e : LocalEngine} {id : Int} (hF : Requests F o) {d : EntityData}
    (hd : e.entityData id F = .ok d) :
    ∃ d', e.entityData id o.engineFlags = .ok d' ∧ project o d = project o d' := by
  unfold entityData at hd ⊢
  obtain ⟨rs, hrs, hd⟩ := except_bind_eq_ok.1 hd
  have hne := entityRecords_ne_nil hrs
  simp only [hrs, bind, Except.bind] at hd ⊢
  by_cases hmode : o.relationshipMode = .none
  · -- related entities are not shown, nor asked for
    have hG : o.engineFlags.related = false := by simp [hmode]
    simp only [hG, Bool.false_eq_true, if_false, pure, Except.pure, Except.ok.injEq, exists_eq_left']
    split at hd
    · split at hd
      · cases hd
      · cases hd
        exact project_buildEntity hF e.settings id hne _ (fun h => absurd hmode h)
    · cases hd
      exact project_buildEntity hF e.settings id hne _ (fun h => absurd hmode h)
  · -- related entities are asked for on both sides, and show alike
    have hG : o.engineFlags.related = true := by simpa using hmode
    rw [if_pos (hF.related hmode)] at hd
    split at hd
    · cases hd
    · rename_i relF hrelF
      cases hd
      obtain ⟨relG, hrelG, hmap⟩ := mapM_eq_ok_of_step
        (fun rel r h => relatedEntity_of_requests hF e (featureCounts e.repo) rel h) hrelF
      simp only [hG, if_true, hrelG, pure, Except.pure, Except.ok.injEq, exists_eq_left']
      exact project_buildEntity hF e.settings id hne _ (fun _ => hmap)

end LocalEngine

/-! ## Every payload renders -/

/-- Entity data that every projection renders: the projector's contract holds of it. -/
def EntityData.Renders (d : EntityData) : Prop := ∀ o, ∃ v, project o d = .ok v

namespace LocalEngine

/-- The entity of the local engine's entity data is built from the entity's records. -/
theorem entityData_entity {e : LocalEngine} {id : Int} {F : EngineFlags} {d : EntityData}
    (h : e.entityData id F = .ok d) :
    ∃ rs, e.entityRecords id = .ok rs ∧
      d.entity = buildEntity e.settings id rs F (if F.featureStats then some (featureCounts e.repo) else none) := by
  unfold entityData at h
  obtain ⟨rs, hrs, h⟩ := except_bind_eq_ok.1 h
  simp only at h
  -- with or without related entities, the entity is the one built from the records
  split at h <;>
  · obtain ⟨related, -, h⟩ := except_bind_eq_ok.1 h
    cases h
    exact ⟨rs, hrs, rfl⟩

/-- The local engine's entity data always renders: an entity with records has record summaries. -/
theorem entityData_renders {e : LocalEngine} {id : Int} {F : EngineFlags} {d : EntityData}
    (h : e.entityData id F = .ok d) : d.Renders := by
  obtain ⟨rs, hrs, hd⟩ := entityData_entity h
  have hsum : d.entity.summaries ≠ [] := by
    rw [hd]
    exact summaries_ne_nil (entityRecords_ne_nil hrs)
  exact fun o => ⟨_, project_eq_ok (.inr hsum)⟩

theorem entityData_mapM_renders {e : LocalEngine} {F : EngineFlags} {ids : List Int} {ds : List EntityData}
    (h : ids.mapM (fun id => e.entityData id F) = .ok ds) : ∀ d ∈ ds, d.Renders :=
  forall_mem_of_mapM_eq_ok (fun _ _ => entityData_renders) h

end LocalEngine

/-- Every entity data of every payload of the local engine, under the flags `F`, renders. -/
structure LocalPayloadsRender (e : LocalEngine) (F : EngineFlags) : Prop where
  entity : ∀ id d, e.entityData id F = .ok d → d.Renders
  path : ∀ r p, e.pathData r F = .ok p → ∀ d ∈ p.entities, d.Renders
  network : ∀ r n, e.networkData r F = .ok n → ∀ d ∈ n.entities, d.Renders
  search : ∀ criteria s, e.searchData criteria F = .ok s → ∀ c ∈ s.candidates, c.entity.Renders
  whyEntity : ∀ id w, e.whyEntityData id F = .ok w → ∀ d ∈ w.entities, d.Renders
  whyEntities : ∀ id1 id2 w, e.whyEntitiesData id1 id2 F = .ok w → ∀ d ∈ w.entities, d.Renders
  whyRecords : ∀ ds1 rid1 ds2 rid2 w, e.whyRecordsData ds1 rid1 ds2 rid2 F = .ok w →
    ∀ d ∈ w.entities, d.Renders

namespace LocalEngine

/-- Each payload lists entity data the engine built, so each of them renders. -/
theorem localPayloadsRender (e : LocalEngine) (F : EngineFlags) : LocalPayloadsRender e F where
  entity _ _ h := entityData_renders h
  path r p h := by
    unfold pathData at h
    obtain ⟨-, -, h⟩ := except_bind_eq_ok.1 h
    obtain ⟨-, -, h⟩ := except_bind_eq_ok.1 h
    obtain ⟨-, -, h⟩ := except_bind_eq_ok.1 h
    obtain ⟨ds, hds, h⟩ := except_bind_eq_ok.1 h
    cases h
    exact entityData_mapM_renders hds
  network r n h := by
    unfold networkData at h
    obtain ⟨-, -, h⟩ := except_bind_eq_ok.1 h
    obtain ⟨ds, hds, h⟩ := except_bind_eq_ok.1 h
    cases h
    exact entityData_mapM_renders hds
  search criteria s h := by
    unfold searchData at h
    obtain ⟨cs, hcs, h⟩ := except_bind_eq_ok.1 h
    cases h
    refine forall_mem_of_mapM_eq_ok (fun x c hc => ?_) hcs
    obtain ⟨level, id, scores⟩ := x
    obtain ⟨d, hd, hc⟩ := except_bind_eq_ok.1 hc
    cases hc
    exact entityData_renders hd
  whyEntity id w h := by
    unfold whyEntityData at h
    obtain ⟨records, -, h⟩ := except_bind_eq_ok.1 h
    simp only at h
    obtain ⟨d, hd, h⟩ := except_bind_eq_ok.1 h
    cases h
    simpa using entityData_renders hd
  whyEntities id1 id2 w h := by
    unfold whyEntitiesData at h
    obtain ⟨records1, -, h⟩ := except_bind_eq_ok.1 h
    obtain ⟨records2, -, h⟩ := except_bind_eq_ok.1 h
    obtain ⟨d1, hd1, h⟩ := except_bind_eq_ok.1 h
    obtain ⟨d2, hd2, h⟩ := except_bind_eq_ok.1 h
    cases h
    simpa using ⟨entityData_renders hd1, entityData_renders hd2⟩
  whyRecords ds1 rid1 ds2 rid2 w h := by
    unfold whyRecordsData at h
    obtain ⟨stored1, -, h⟩ := except_bind_eq_ok.1 h
    obtain ⟨stored2, -, h⟩ := except_bind_eq_ok.1 h
    simp only at h
    obtain ⟨ds, hds, h⟩ := except_bind_eq_ok.1 h
    cases h
    exact entityData_mapM_renders hds

end LocalEngine

/-! ## The flags of a projection -/

/-- **A projection reads only what its flags ask for.** Entity data that the local engine builds
for an entity with any flags containing the options' engine flags projects, under the options,
as the entity data built with the options' own flags, which the engine then builds too; and the
entity data of every payload of the local engine has records or record summaries, so its
projection never breaks the engine's contract. -/
theorem projection_reads_only_requested_flags :
    (∀ (e : LocalEngine) (id : Int) (o : RenderOptions) (F : EngineFlags) (d : EntityData),
        F.contains o.engineFlags = true → e.entityData id F = .ok d →
        ∃ d', e.entityData id o.engineFlags = .ok d' ∧ project o d = project o d') ∧
    ∀ (e : LocalEngine) (F : EngineFlags), LocalPayloadsRender e F :=
  ⟨fun _ _ _ _ _ hF hd => LocalEngine.project_entityData_of_requests (Requests.of_contains hF) hd,
    LocalEngine.localPayloadsRender⟩

/-- Every flag. -/
def EngineFlags.all : EngineFlags := ⟨true, true, true, true, true, true, true⟩

/-- A local engine over one record of entity 1. -/
def oneRecordEngine : LocalEngine :=
  ⟨{ records := [⟨1, ⟨"A", "1", none, [], RecordDocument.noFeatures_ascending, [], []⟩⟩] }, 0,
    ⟨.null, ["A"], [], []⟩⟩

/-- Entity 1 built with every flag projects under the default options as when built with their
own flags. -/
theorem oneRecord_projects_as_requested :
    ∃ d, (EngineFlags.all.contains ({} : RenderOptions).engineFlags = true ∧
        oneRecordEngine.entityData 1 EngineFlags.all = .ok d) ∧
      ∃ d', oneRecordEngine.entityData 1 ({} : RenderOptions).engineFlags = .ok d' ∧
        project {} d = project {} d' :=
  have hF : EngineFlags.all.contains ({} : RenderOptions).engineFlags = true := by decide
  ⟨_, ⟨hF, rfl⟩, projection_reads_only_requested_flags.1 oneRecordEngine 1 {} EngineFlags.all _ hF rfl⟩

end EntityGateway
