import EntityGateway.Engine.Local
import EntityGateway.Why.Key
import EntityGateway.Proofs.ServiceRun
import EntityGateway.Proofs.SymmetricScores

/-!
# Explaining two entities either way round

Explaining why two entities match compares all records of the first with all records of the
second. Taken the other way round, the explanation is the mirror image of the first one.

* `disclosedRelations_swap`: the relations disclosed between two sides, taken the other way
  round, are those of the first way, one for one, each seen from its other side
  (`DisclosedRelation.mirror`: the roles of the two sides change places, and so do pointer and
  anchor);
* `levelsSymmetric_of_reachable`: in every repository that fixture imports and configuration
  changes reach from the empty one, the stored relationship between two entities has one level
  either way round, since an import stores each relationship in both directions;
* `whyEntitiesResult_mirrors`: over such a repository the explanation of two entities and that of
  the same two the other way round report the same level, the same scores and buckets by feature
  type, why-keys with the same feature tokens, and mirrored relations (`WhyResult.Mirrors`).
-/

namespace EntityGateway

/-! ## Relations seen from the other side -/

namespace RelationKind

/-- The kind of a relation seen from its other side: a pointer there is an anchor. -/
def mirror : RelationKind → RelationKind
  | .link => .link
  | .pointer => .anchor
  | .anchor => .pointer

end RelationKind

namespace DisclosedRelation

/-- A relation seen from its other side: the roles of the two sides change places, and so do
pointer and anchor. -/
def mirror (r : DisclosedRelation) : DisclosedRelation :=
  { r with kind := r.kind.mirror, role1 := r.role2, role2 := r.role1 }

end DisclosedRelation

namespace LocalEngine

theorem pairKind_swap (k₁ k₂ : DisclosureKind) :
    pairKind k₂ k₁ = (pairKind k₁ k₂).map RelationKind.mirror := by
  cases k₁ <;> cases k₂ <;> rfl

/-- Two disclosures paired the other way round make the mirrored relation. -/
theorem pairDisclosures_swap (d₁ d₂ : Disclosure) :
    pairDisclosures d₂ d₁ = (pairDisclosures d₁ d₂).map DisclosedRelation.mirror := by
  unfold pairDisclosures
  by_cases h : d₁.domain = d₂.domain ∧ d₁.key = d₂.key
  · obtain ⟨hd, hk⟩ := h
    rw [if_pos ⟨hd.symm, hk.symm⟩, if_pos ⟨hd, hk⟩, pairKind_swap, Option.map_map, Option.map_map]
    simp [Function.comp_def, DisclosedRelation.mirror, hd, hk]
  · rw [if_neg fun h' => h ⟨h'.1.symm, h'.2.symm⟩, if_neg h]
    rfl

/-- The relations disclosed between two sides the other way round are the mirrored relations of
the first way, one for one. -/
theorem disclosedRelations_swap (side₁ side₂ : List RecordDocument) :
    (disclosedRelations side₂ side₁).Perm
      ((disclosedRelations side₁ side₂).map DisclosedRelation.mirror) := by
  unfold disclosedRelations
  have hswap : ∀ d₂ : Disclosure, (side₁.flatMap (·.disclosures)).filterMap (pairDisclosures d₂) =
      (side₁.flatMap (·.disclosures)).filterMap fun d₁ =>
        (pairDisclosures d₁ d₂).map DisclosedRelation.mirror :=
    fun d₂ => List.filterMap_congr fun d₁ _ => pairDisclosures_swap d₁ d₂
  simp only [hswap, List.map_flatMap, List.map_filterMap]
  exact (perm_flatMap_filterMap_comm _ _ fun d₁ d₂ =>
    (pairDisclosures d₁ d₂).map DisclosedRelation.mirror).symm

end LocalEngine

/-! ## Stored levels either way round -/

namespace Repository

/-- The stored relationship row from one entity to another, if any. -/
def rowBetween (rows : List StoredRelationship) (x y : Int) : Option StoredRelationship :=
  rows.find? fun r => r.entityId = x ∧ r.relatedId = y

@[simp] theorem rowBetween_nil (x y : Int) : rowBetween [] x y = none := rfl

theorem rowBetween_cons (s : StoredRelationship) (rows : List StoredRelationship) (x y : Int) :
    rowBetween (s :: rows) x y =
      if s.entityId = x ∧ s.relatedId = y then some s else rowBetween rows x y := by
  by_cases h : s.entityId = x ∧ s.relatedId = y
  · simp [rowBetween, h]
  · rw [if_neg h, rowBetween, List.find?_cons_of_neg (by simpa using h)]
    rfl

theorem relationshipOrder_eq_iff {a b : StoredRelationship} :
    relationshipOrder a b = .eq ↔ a.entityId = b.entityId ∧ a.relatedId = b.relatedId := by
  unfold relationshipOrder
  cases h : compare a.entityId b.entityId
  · have := compare_lt_iff_lt.1 h
    simp only [reduceCtorEq, false_iff, not_and]
    omega
  · simp [compare_eq_iff_eq.1 h]
  · have := compare_gt_iff_gt.1 h
    simp only [reduceCtorEq, false_iff, not_and]
    omega

/-- Storing a row replaces the row between its two entities and leaves every other. -/
theorem rowBetween_upsertRelationship (r : StoredRelationship) (rows : List StoredRelationship)
    (x y : Int) :
    rowBetween (upsertRelationship r rows) x y =
      if r.entityId = x ∧ r.relatedId = y then some r else rowBetween rows x y := by
  fun_induction upsertRelationship r rows with
  | case1 => simp [rowBetween_cons]
  | case2 s rest => rw [rowBetween_cons]
  | case3 s rest h =>
    -- the row replaced is between the same two entities
    obtain ⟨h₁, h₂⟩ := relationshipOrder_eq_iff.1 h
    simp only [rowBetween_cons, h₁, h₂]
    split_ifs <;> rfl
  | case4 s rest h ih =>
    have hne : ¬(r.entityId = s.entityId ∧ r.relatedId = s.relatedId) := by
      rw [← relationshipOrder_eq_iff, h]
      exact nofun
    rw [rowBetween_cons, rowBetween_cons, ih]
    by_cases hs : s.entityId = x ∧ s.relatedId = y
    · obtain ⟨rfl, rfl⟩ := hs
      simp [hne]
    · simp [hs]

/-- Every stored relationship row reads one level either way round. -/
def LevelsSymmetric (rows : List StoredRelationship) : Prop :=
  ∀ x y, (rowBetween rows x y).map (·.level) = (rowBetween rows y x).map (·.level)

/-- A relationship stored in both directions gives both its level, and leaves every other pair. -/
theorem level_rowBetween_both (rel : StoredRelationship) (rows : List StoredRelationship)
    (x y : Int) :
    (rowBetween (upsertRelationship rel.reversed (upsertRelationship rel rows)) x y).map (·.level) =
      if (rel.entityId = x ∧ rel.relatedId = y) ∨ (rel.entityId = y ∧ rel.relatedId = x) then
        some rel.level
      else (rowBetween rows x y).map (·.level) := by
  rw [rowBetween_upsertRelationship, rowBetween_upsertRelationship]
  by_cases h₁ : rel.reversed.entityId = x ∧ rel.reversed.relatedId = y
  · rw [if_pos h₁, if_pos (.inr ⟨h₁.2, h₁.1⟩)]
    rfl
  · rw [if_neg h₁]
    by_cases h₂ : rel.entityId = x ∧ rel.relatedId = y
    · rw [if_pos h₂, if_pos (.inl h₂)]
      rfl
    · rw [if_neg h₂, if_neg]
      rintro (h | h)
      exacts [h₂ h, h₁ ⟨h.2, h.1⟩]

theorem levelsSymmetric_both {rel : StoredRelationship} {rows : List StoredRelationship}
    (h : LevelsSymmetric rows) :
    LevelsSymmetric (upsertRelationship rel.reversed (upsertRelationship rel rows)) := by
  intro x y
  rw [level_rowBetween_both, level_rowBetween_both]
  by_cases hc : (rel.entityId = x ∧ rel.relatedId = y) ∨ (rel.entityId = y ∧ rel.relatedId = x)
  · rw [if_pos hc, if_pos hc.symm]
  · rw [if_neg hc, if_neg (mt Or.symm hc), h x y]

theorem relationships_setDefaultConfig {repo repo' : Repository} {id : Int}
    (h : repo.setDefaultConfig id = .ok repo') : repo'.relationships = repo.relationships := by
  unfold setDefaultConfig at h
  split at h
  · cases h
  · cases h
    rfl

theorem relationships_registerConfig (repo : Repository) (document : Json) (makeDefault : Bool) :
    (repo.registerConfig document makeDefault).1.relationships = repo.relationships := by
  unfold registerConfig
  dsimp only
  split
  · split
    · next hset => exact (relationships_setDefaultConfig hset).trans rfl
    · rfl
  · rfl

theorem relationships_importRecord (entityId : Int) (acc : Repository × ImportStats)
    (doc : RecordDocument) : (importRecord entityId acc doc).1.relationships = acc.1.relationships := by
  obtain ⟨repo, stats⟩ := acc
  simp only [importRecord]
  split
  · split <;> rfl
  · rfl

theorem relationships_importEntity (acc : Repository × ImportStats) (e : FixtureEntity) :
    (importEntity acc e).1.relationships = acc.1.relationships := by
  obtain ⟨repo, stats⟩ := acc
  -- the records of the entity are stored one by one, none of them touching a relationship
  exact List.foldlRecOn (motive := fun acc : Repository × ImportStats =>
      acc.1.relationships = repo.relationships) e.records _ rfl
    fun acc h doc _ => (relationships_importRecord _ acc doc).trans h

theorem relationships_importRelationship (acc : Repository × ImportStats) (rel : StoredRelationship) :
    (importRelationship acc rel).1.relationships =
      upsertRelationship rel.reversed (upsertRelationship rel acc.1.relationships) := by
  obtain ⟨repo, stats⟩ := acc
  rfl

theorem levelsSymmetric_importFixture {repo : Repository} (h : LevelsSymmetric repo.relationships)
    (f : RepositoryFixture) : LevelsSymmetric (repo.importFixture f).1.relationships := by
  unfold importFixture
  dsimp only
  have hregistered : LevelsSymmetric
      (repo.registerConfig (f.config.getD (defaultConfig f.dataSources)) true).1.relationships := by
    rwa [relationships_registerConfig]
  -- the entities leave the relationships, and each relationship is stored both ways
  refine List.foldlRecOn (motive := fun acc : Repository × ImportStats =>
    LevelsSymmetric acc.1.relationships) _ _ ?_ fun acc hacc rel _ => ?_
  · exact List.foldlRecOn (motive := fun acc : Repository × ImportStats =>
      LevelsSymmetric acc.1.relationships) _ _ hregistered
      fun acc hacc e _ => (relationships_importEntity acc e).symm ▸ hacc
  · rw [relationships_importRelationship]
    exact levelsSymmetric_both hacc

theorem levelsSymmetric_of_reachable {repo : Repository} (h : repo.Reachable) :
    LevelsSymmetric repo.relationships := by
  induction h with
  | empty => intro x y; rfl
  | imported f _ ih => exact levelsSymmetric_importFixture ih f
  | registered document makeDefault _ ih =>
    rw [relationships_registerConfig]
    exact ih
  | defaultSet id _ hset ih =>
    rw [relationships_setDefaultConfig hset]
    exact ih

end Repository

namespace LocalEngine

open Repository

theorem storedLevel_eq (e : LocalEngine) (a b : Int) :
    e.storedLevel a b = (rowBetween e.repo.relationships a b).map (·.level) := by
  simp [storedLevel, relationshipsOf, rowBetween]

theorem storedLevel_swap {e : LocalEngine} (he : LevelsSymmetric e.repo.relationships) (a b : Int) :
    e.storedLevel b a = e.storedLevel a b := by
  rw [storedLevel_eq, storedLevel_eq, he]

end LocalEngine

/-! ## Grouped directions -/

namespace RelationDirection

/-- The direction of a relation seen from its other side. -/
def mirror : RelationDirection → RelationDirection
  | .outbound => .inbound
  | .inbound => .outbound
  | .bidirectional => .bidirectional

theorem ofKind_mirror (k : RelationKind) : ofKind k.mirror = (ofKind k).mirror := by
  cases k <;> rfl

theorem mirror_combine (a b : RelationDirection) :
    (a.combine b).mirror = a.mirror.combine b.mirror := by
  cases a <;> cases b <;> rfl

theorem combine_right_comm (a b c : RelationDirection) :
    (a.combine b).combine c = (a.combine c).combine b := by
  cases a <;> cases b <;> cases c <;> rfl

theorem combine_self_combine (a b : RelationDirection) :
    (a.combine a).combine b = (b.combine b).combine a := by
  cases a <;> cases b <;> rfl

end RelationDirection

/-- The domain of a view and its direction. -/
def RelationshipView.domainDirection (v : RelationshipView) : String × RelationDirection :=
  (v.domain, v.direction)

/-- A relation's direction combined into the entry of its domain, entries in domain order. -/
def addDirection (ds : List (String × RelationDirection)) (r : DisclosedRelation) :
    List (String × RelationDirection) :=
  updateAscending r.domain (RelationDirection.ofKind r.kind)
    (·.combine (RelationDirection.ofKind r.kind)) ds

theorem map_insertRelation (r : DisclosedRelation) (vs : List RelationshipView) :
    (insertRelation r vs).map RelationshipView.domainDirection =
      addDirection (vs.map RelationshipView.domainDirection) r := by
  induction vs with
  | nil => rfl
  | cons v vs ih =>
    have hv : v.domainDirection = (v.domain, v.direction) := rfl
    rw [addDirection, List.map_cons, hv, updateAscending_cons]
    unfold insertRelation
    by_cases h₁ : r.domain < v.domain
    · rw [if_pos h₁, if_pos h₁]
      rfl
    · rw [if_neg h₁, if_neg h₁]
      by_cases h₂ : r.domain = v.domain
      · rw [if_pos h₂, if_pos h₂]
        rfl
      · rw [if_neg h₂, if_neg h₂, List.map_cons, ih]
        rfl

/-- The domains and directions of the grouped relations. -/
theorem map_groupRelations (rs : List DisclosedRelation) :
    (groupRelations rs).map RelationshipView.domainDirection = rs.foldl addDirection [] :=
  (List.foldl_hom (List.map RelationshipView.domainDirection)
    fun vs r => (map_insertRelation r vs).symm).symm

theorem addDirection_right_comm (ds : List (String × RelationDirection))
    (r₁ r₂ : DisclosedRelation) :
    addDirection (addDirection ds r₁) r₂ = addDirection (addDirection ds r₂) r₁ :=
  updateAscending_comm (fun _ => RelationDirection.combine_right_comm _ _ _)
    (fun _ => RelationDirection.combine_self_combine _ _) ds

/-- The grouped directions do not depend on the order of the relations. -/
theorem foldl_addDirection_perm {rs rs' : List DisclosedRelation} (h : rs.Perm rs')
    (ds : List (String × RelationDirection)) :
    rs.foldl addDirection ds = rs'.foldl addDirection ds :=
  h.foldl_eq' (fun r₁ _ r₂ _ ds => addDirection_right_comm ds r₁ r₂) ds

/-- Seen from the other side, every grouped direction turns round. -/
theorem foldl_addDirection_mirror (rs : List DisclosedRelation)
    (ds : List (String × RelationDirection)) :
    (rs.map DisclosedRelation.mirror).foldl addDirection
        (ds.map (Prod.map id RelationDirection.mirror)) =
      (rs.foldl addDirection ds).map (Prod.map id RelationDirection.mirror) := by
  rw [List.foldl_map]
  refine List.foldl_hom (List.map (Prod.map id RelationDirection.mirror)) fun ds r => ?_
  rw [addDirection, addDirection, map_updateAscending _ _ _ RelationDirection.mirror
    (·.combine (RelationDirection.ofKind r.kind).mirror) fun v => RelationDirection.mirror_combine _ _]
  simp only [DisclosedRelation.mirror, RelationDirection.ofKind_mirror]

/-- Relations that are others seen from their other side, one for one, group into the same domains
with every direction turned round. -/
theorem groupRelations_of_perm_mirror {rs rs' : List DisclosedRelation}
    (h : rs'.Perm (rs.map DisclosedRelation.mirror)) :
    (groupRelations rs').map RelationshipView.domainDirection =
      (groupRelations rs).map fun v => (v.domain, v.direction.mirror) := by
  have hmap : (groupRelations rs).map (fun v => (v.domain, v.direction.mirror)) =
      ((groupRelations rs).map RelationshipView.domainDirection).map
        (Prod.map id RelationDirection.mirror) := by
    simp [Function.comp_def, RelationshipView.domainDirection]
  rw [hmap, map_groupRelations, map_groupRelations, foldl_addDirection_perm h]
  exact foldl_addDirection_mirror rs []

/-! ## The explanation either way round -/

/-- Two explanations of a pair of entities, the second taken the other way round: the entities and
their records change places; the level, the scores without the values compared, and the feature
tokens that begin the why-key are the same; the disclosed relations are the first's seen from their
other side, one for one, so the grouped directions swap outbound and inbound. -/
structure WhyResult.Mirrors (r r' : WhyResult) : Prop where
  entities : some r'.entityId = r.otherId ∧ r'.otherId = some r.entityId
  focus : r'.focus = r.otherFocus ∧ r'.otherFocus = r.focus
  level : r'.info.level = r.info.level
  scores : Scoring.unpaired r'.info.scores = Scoring.unpaired r.info.scores
  featureTokens : ∃ rest rest', r.info.whyKey = Scoring.matchKey r.info.scores ++ rest ∧
    r'.info.whyKey = Scoring.matchKey r.info.scores ++ rest'
  relations : r'.info.relations.Perm (r.info.relations.map DisclosedRelation.mirror)
  directions : (groupRelations r'.info.relations).map RelationshipView.domainDirection =
    (groupRelations r.info.relations).map fun v => (v.domain, v.direction.mirror)

namespace LocalEngine

open Repository

/-- Over stored levels that read the same either way round, the explanation of two sides of two
entities mirrors that of the same sides the other way round. -/
theorem whyEntitiesResult_mirrors {e : LocalEngine} (he : LevelsSymmetric e.repo.relationships)
    (a b : Int) (rs₁ rs₂ : List RecordDocument) :
    (e.whyEntitiesResult a b rs₁ rs₂).Mirrors (e.whyEntitiesResult b a rs₂ rs₁) := by
  have hscores := Scoring.unpaired_scoreFeatures_comm (keysAscend_mergedValues rs₂)
    (keysAscend_mergedValues rs₁)
  have hrelations := disclosedRelations_swap rs₁ rs₂
  -- each why-key begins with the match key of its scores, the same either way round
  refine ⟨⟨rfl, rfl⟩, ⟨rfl, rfl⟩, ?_, hscores,
    ⟨_, _, rfl, congrArg (· ++ _) (Scoring.matchKey_eq_of_unpaired hscores)⟩, hrelations,
    groupRelations_of_perm_mirror hrelations⟩
  -- the stored level, the presence of relations and the classification agree either way
  have hempty : (disclosedRelations rs₂ rs₁).isEmpty = (disclosedRelations rs₁ rs₂).isEmpty := by
    rw [Bool.eq_iff_iff, List.isEmpty_iff_length_eq_zero, List.isEmpty_iff_length_eq_zero,
      hrelations.length_eq, List.length_map]
  simp only [whyEntitiesResult, storedLevel_swap he, hempty, Scoring.classify_eq_of_unpaired hscores]

theorem whyEntitiesData_eq_ok {e : LocalEngine} {a b : Int} {flags : EngineFlags} {w : WhyData} :
    e.whyEntitiesData a b flags = .ok w ↔
      ∃ rs₁ rs₂ d₁ d₂, e.entityRecords a = .ok rs₁ ∧ e.entityRecords b = .ok rs₂ ∧
        e.entityData a flags = .ok d₁ ∧ e.entityData b flags = .ok d₂ ∧
        w = ⟨[e.whyEntitiesResult a b rs₁ rs₂], [d₁, d₂]⟩ := by
  simp only [whyEntitiesData, except_bind_eq_ok]
  constructor
  · rintro ⟨rs₁, h₁, rs₂, h₂, d₁, h₃, d₂, h₄, hw⟩
    exact ⟨rs₁, rs₂, d₁, d₂, h₁, h₂, h₃, h₄, (Except.ok.inj hw).symm⟩
  · rintro ⟨rs₁, rs₂, d₁, d₂, h₁, h₂, h₃, h₄, rfl⟩
    exact ⟨rs₁, h₁, rs₂, h₂, d₁, h₃, d₂, h₄, rfl⟩

/-- Over every repository that imports and configuration changes reach, an explanation of two
entities answered one way is answered the other way too, with the two entities' payloads swapped
and the mirror image of the first explanation. -/
theorem whyEntitiesData_swap_mirrors {e : LocalEngine} (he : e.repo.Reachable) {a b : Int}
    {flags : EngineFlags} {w : WhyData} (h : e.whyEntitiesData a b flags = .ok w) :
    ∃ w', e.whyEntitiesData b a flags = .ok w' ∧ w'.entities = w.entities.reverse ∧
      ∃ r r', w.results = [r] ∧ w'.results = [r'] ∧ r.Mirrors r' := by
  obtain ⟨rs₁, rs₂, d₁, d₂, h₁, h₂, h₃, h₄, rfl⟩ := whyEntitiesData_eq_ok.1 h
  refine ⟨⟨[e.whyEntitiesResult b a rs₂ rs₁], [d₂, d₁]⟩,
    whyEntitiesData_eq_ok.2 ⟨rs₂, rs₁, d₂, d₁, h₂, h₁, h₄, h₃, rfl⟩, rfl, _, _, rfl, rfl, ?_⟩
  exact whyEntitiesResult_mirrors (levelsSymmetric_of_reachable he) a b rs₁ rs₂

/-- Two people with one record each, one disclosing its employer and the other its employee under
one key, and their stored relationship. -/
def colleagues : RepositoryFixture :=
  { entities :=
      [⟨1, [{ dataSource := "HR", recordId := "1", features := [("NAME", ["Ann Lee"])],
              disclosures := [⟨"EMPLOYER", .pointer, "K", some "EMPLOYEE"⟩] }]⟩,
       ⟨2, [{ dataSource := "HR", recordId := "2", features := [("NAME", ["Ann Li"])],
              disclosures := [⟨"EMPLOYER", .anchor, "K", some "EMPLOYER"⟩] }]⟩],
    relationships := [{ entityId := 1, relatedId := 2, level := .possiblyRelated }] }

/-- An engine on a fresh repository with the colleagues imported. -/
def colleaguesEngine : LocalEngine :=
  ⟨(Repository.importFixture {} colleagues).1, 0, ⟨.null, [], [], []⟩⟩

theorem colleagues_explained_either_way :
    colleaguesEngine.repo.Reachable ∧ ∃ w, colleaguesEngine.whyEntitiesData 1 2 {} = .ok w ∧
      ∃ w', colleaguesEngine.whyEntitiesData 2 1 {} = .ok w' ∧ w'.entities = w.entities.reverse ∧
        ∃ r r', w.results = [r] ∧ w'.results = [r'] ∧ r.Mirrors r' := by
  have he : colleaguesEngine.repo.Reachable := .imported colleagues .empty
  obtain ⟨w, hw⟩ : ∃ w, colleaguesEngine.whyEntitiesData 1 2 {} = .ok w := ⟨_, rfl⟩
  exact ⟨he, w, hw, whyEntitiesData_swap_mirrors he hw⟩

end LocalEngine

end EntityGateway
