import Mathlib.Data.Set.Card
import EntityGateway.Proofs.FeatureGroups
import EntityGateway.Proofs.RequestedFlags
import EntityGateway.Proofs.WiderSearch

/-!
# Feature statistics count the entities holding a value

With feature statistics, every value of a merged feature carries an entity count. The counts come
from one map over the whole repository, `featureCounts`: for each feature type and normal form,
the entities whose records state a value of that type with that normal form, ascending and each
once. A value counts the entities of its own type and normal form; a key feature, whose value is
the normal form of a group of its base type, counts the entities of the base type. The entity the
value belongs to states the value, so it is among those counted and every count is at least one.

* `getD_lookup_updateAscending`: an update of an ascending map changes its own key only;
* `addValues_spec`, `mem_entitiesOf_addEntry`: one feature entry of a record adds the record's
  entity under the normal forms of its values, and nothing else;
* `mem_entitiesOf_featureCounts`: the map holds, under a type and a normal form, exactly the
  entities holding a value of that type and form (`holders`), and `ncard_holders` counts them;
* `mem_mergeFeatures`: a merged feature list is that of a stated type or the key features of a
  stated base type;
* `entityData_entityCounts`: every value of every entity in the local engine's entity data,
  built with statistics, counts the holders of its type, or of the base type for a key feature.
-/

namespace EntityGateway

namespace LocalEngine

/-! ## Holders of a value -/

/-- A record states a value of feature type `t` whose normal form is `n`. -/
def HoldsValue (t n : String) (r : RecordDocument) : Prop :=
  ∃ vs, (t, vs) ∈ r.features ∧ ∃ v ∈ vs, Scoring.normalize t v = n

/-- The entities with a record stating a value of feature type `t` whose normal form is `n`. -/
def holders (repo : Repository) (t n : String) : Set Int :=
  {i | ∃ r ∈ repo.records, r.entityId = i ∧ HoldsValue t n r.document}

/-- An entity stating a value holds its normal form. -/
theorem mem_holders_of_mem_valuesOf {repo : Repository} {i : Int} {t m : String}
    (h : m ∈ valuesOf t (repo.recordsOf i)) : i ∈ holders repo t (Scoring.normalize t m) := by
  simp only [valuesOf, featureEntries, Repository.recordsOf, List.flatMap_map, List.mem_flatMap,
    List.mem_filter, decide_eq_true_eq] at h
  obtain ⟨e, ⟨r, ⟨hr, rfl⟩, he⟩, hm⟩ := h
  split at hm
  · rename_i het
    exact ⟨r, hr, rfl, e.2, het ▸ he, m, hm, rfl⟩
  · cases hm

/-! ## The count map -/

section Lookup

variable {κ β : Type} [LinearOrder κ] [BEq κ] [LawfulBEq κ]

/-- Over ascending keys, an update changes the value of its own key by `f` and no other. -/
theorem getD_lookup_updateAscending {k : κ} (x : κ) (init : β) (f : β → β) {l : List (κ × β)}
    (h : KeysAscend l) :
    ((updateAscending k init f l).lookup x).getD init =
      if x = k then f ((l.lookup k).getD init) else (l.lookup x).getD init := by
  by_cases hx : x = k
  · subst hx
    rw [lookup_updateAscending_self _ _ _ h, if_pos rfl]
    rfl
  · rw [lookup_updateAscending_of_ne _ _ hx, if_neg hx]

end Lookup

theorem pairwise_insertAscending (i : Int) {ids : List Int} (h : ids.Pairwise (· < ·)) :
    (insertAscending i ids).Pairwise (· < ·) := by
  have hs : KeysStrict id ids := by simpa [KeysStrict] using h
  simpa [KeysStrict, Repository.insertAscending_eq] using keysStrict_upsertByKey i hs

/-- The entities a count map holds under the normal form `n` of feature type `t`. -/
def entitiesOf (cs : FeatureCounts) (t n : String) : List Int :=
  (((cs.lookup t).getD []).lookup n).getD []

/-- A normal form held by some entity is counted by the number of its entities. -/
theorem countOf_eq_length {cs : FeatureCounts} {t n : String} (h : entitiesOf cs t n ≠ []) :
    countOf cs t n = some (entitiesOf cs t n).length := by
  unfold entitiesOf at h ⊢
  unfold countOf
  cases hl : cs.lookup t with
  | none => simp [hl] at h
  | some byValue =>
    cases hn : byValue.lookup n with
    | none => simp [hl, hn] at h
    | some ids => simp [hn]

/-- One record's values of type `t` added, under their normal forms, for its entity `i`. -/
def addValues (t : String) (i : Int) (values : List String) (byValue : List (String × List Int)) :
    List (String × List Int) :=
  values.foldl (fun byValue v => updateAscending (Scoring.normalize t v) [] (insertAscending i) byValue) byValue

/-- One feature entry of a record, with its entity, added to a count map. -/
def addEntry (cs : FeatureCounts) (e : Int × String × List String) : FeatureCounts :=
  updateAscending e.2.1 [] (addValues e.2.1 e.1 e.2.2) cs

/-- The feature entries of a repository's records, each with its record's entity. -/
def countEntries (repo : Repository) : List (Int × String × List String) :=
  repo.records.flatMap fun r => r.document.features.map (r.entityId, ·)

/-- The count map is written feature entry by feature entry. -/
theorem featureCounts_eq (repo : Repository) : featureCounts repo = (countEntries repo).foldl addEntry [] := by
  rw [countEntries, List.foldl_flatMap]
  simp only [List.foldl_map]
  rfl

/-- Adding values keeps the normal forms ascending and the entities of each ascending; an entity
is then held under a normal form when it was, or when it is the one added and some value has
that form. -/
theorem addValues_spec (t : String) (i : Int) :
    ∀ (values : List String) {byValue : List (String × List Int)}, KeysAscend byValue →
      (∀ n, ((byValue.lookup n).getD []).Pairwise (· < ·)) →
      KeysAscend (addValues t i values byValue) ∧
        (∀ n, (((addValues t i values byValue).lookup n).getD []).Pairwise (· < ·)) ∧
        ∀ n j, j ∈ ((addValues t i values byValue).lookup n).getD [] ↔
          j ∈ (byValue.lookup n).getD [] ∨ j = i ∧ ∃ v ∈ values, Scoring.normalize t v = n
  | [], _, hk, hs => ⟨hk, hs, fun n j => by simp [addValues]⟩
  | v :: values, byValue, hk, hs => by
    -- one value inserts `i` under its normal form; the rest follow by induction
    have hstep : ∀ n, ((updateAscending (Scoring.normalize t v) [] (insertAscending i) byValue).lookup n).getD [] =
        if n = Scoring.normalize t v then insertAscending i ((byValue.lookup (Scoring.normalize t v)).getD [])
        else (byValue.lookup n).getD [] :=
      fun n => getD_lookup_updateAscending n [] _ hk
    have hk' := keysAscend_updateAscending (Scoring.normalize t v) [] (insertAscending i) hk
    have hs' : ∀ n, (((updateAscending (Scoring.normalize t v) [] (insertAscending i) byValue).lookup n).getD []).Pairwise (· < ·) := by
      intro n
      rw [hstep]
      split
      · exact pairwise_insertAscending i (hs _)
      · exact hs n
    obtain ⟨hk'', hs'', hmem⟩ := addValues_spec t i values hk' hs'
    refine ⟨hk'', hs'', fun n j => ?_⟩
    rw [show addValues t i (v :: values) byValue =
      addValues t i values (updateAscending (Scoring.normalize t v) [] (insertAscending i) byValue) from rfl,
      hmem, hstep]
    by_cases hn : n = Scoring.normalize t v
    · subst hn
      rw [if_pos rfl]
      simp only [mem_insertAscending_iff, List.mem_cons, exists_eq_or_imp, true_or, and_true]
      tauto
    · simp only [if_neg hn, List.mem_cons, exists_eq_or_imp, Ne.symm hn, false_or]

/-- A count map in order: types ascending, normal forms ascending within a type, and the entities
of each normal form ascending. -/
structure CountsOrdered (cs : FeatureCounts) : Prop where
  types : KeysAscend cs
  forms : ∀ t, KeysAscend ((cs.lookup t).getD [])
  entities : ∀ t n, (entitiesOf cs t n).Pairwise (· < ·)

theorem countsOrdered_nil : CountsOrdered [] :=
  ⟨keysAscend_nil, fun _ => keysAscend_nil, fun _ _ => List.Pairwise.nil⟩

theorem entitiesOf_addEntry {cs : FeatureCounts} (hcs : CountsOrdered cs) (e : Int × String × List String)
    (t n : String) :
    entitiesOf (addEntry cs e) t n =
      if t = e.2.1 then ((addValues e.2.1 e.1 e.2.2 ((cs.lookup e.2.1).getD [])).lookup n).getD []
      else entitiesOf cs t n := by
  unfold entitiesOf addEntry
  rw [getD_lookup_updateAscending t [] _ hcs.types]
  split <;> rfl

/-- Adding a feature entry keeps a count map in order. -/
theorem CountsOrdered.addEntry {cs : FeatureCounts} (hcs : CountsOrdered cs) (e : Int × String × List String) :
    CountsOrdered (addEntry cs e) := by
  obtain ⟨i, t, values⟩ := e
  have hadd := addValues_spec t i values (hcs.forms t) (hcs.entities t)
  refine ⟨keysAscend_updateAscending _ _ _ hcs.types, fun t' => ?_, fun t' n => ?_⟩
  · unfold LocalEngine.addEntry
    rw [getD_lookup_updateAscending t' [] _ hcs.types]
    split
    · exact hadd.1
    · exact hcs.forms t'
  · rw [entitiesOf_addEntry hcs]
    split
    · exact hadd.2.1 n
    · exact hcs.entities t' n

/-- A feature entry adds its entity under the normal forms of its values and its type. -/
theorem mem_entitiesOf_addEntry {cs : FeatureCounts} (hcs : CountsOrdered cs) (e : Int × String × List String)
    (t n : String) (j : Int) :
    j ∈ entitiesOf (addEntry cs e) t n ↔
      j ∈ entitiesOf cs t n ∨ e.1 = j ∧ e.2.1 = t ∧ ∃ v ∈ e.2.2, Scoring.normalize t v = n := by
  obtain ⟨i, t', values⟩ := e
  rw [entitiesOf_addEntry hcs]
  by_cases ht : t = t'
  · subst ht
    rw [if_pos rfl, (addValues_spec t i values (hcs.forms t) (hcs.entities t)).2.2]
    simp only [entitiesOf, true_and, eq_comm (a := i)]
  · simp [ht, Ne.symm ht]

/-- Writing feature entries one after another keeps the map in order and adds the entity of each
entry under the normal forms of its values. -/
theorem foldl_addEntry :
    ∀ (es : List (Int × String × List String)) {cs : FeatureCounts}, CountsOrdered cs →
      CountsOrdered (es.foldl addEntry cs) ∧
        ∀ t n j, j ∈ entitiesOf (es.foldl addEntry cs) t n ↔
          j ∈ entitiesOf cs t n ∨ ∃ e ∈ es, e.1 = j ∧ e.2.1 = t ∧ ∃ v ∈ e.2.2, Scoring.normalize t v = n
  | [], _, hcs => ⟨hcs, fun t n j => by simp⟩
  | e :: es, cs, hcs => by
    obtain ⟨hord, hmem⟩ := foldl_addEntry es (hcs.addEntry e)
    refine ⟨hord, fun t n j => ?_⟩
    rw [List.foldl_cons, hmem, mem_entitiesOf_addEntry hcs]
    simp only [List.mem_cons, or_and_right, exists_or, exists_eq_left, or_assoc]

/-- **The count map holds the holders.** Under a feature type and a normal form, the count map
of a repository holds exactly the entities with a record stating a value of that type and
form. -/
theorem mem_entitiesOf_featureCounts (repo : Repository) (t n : String) (j : Int) :
    j ∈ entitiesOf (featureCounts repo) t n ↔ j ∈ holders repo t n := by
  rw [featureCounts_eq, (foldl_addEntry _ countsOrdered_nil).2]
  simp only [entitiesOf, List.lookup_nil, Option.getD_none, List.not_mem_nil, false_or, countEntries,
    List.mem_flatMap, List.mem_map]
  constructor
  · rintro ⟨_, ⟨r, hr, ⟨t', vs⟩, hf, rfl⟩, rfl, rfl, v, hv, hn⟩
    exact ⟨r, hr, rfl, vs, hf, v, hv, hn⟩
  · rintro ⟨r, hr, rfl, vs, hf, v, hv, hn⟩
    exact ⟨_, ⟨r, hr, (t, vs), hf, rfl⟩, rfl, rfl, v, hv, hn⟩

theorem ncard_holders (repo : Repository) (t n : String) :
    (holders repo t n).ncard = (entitiesOf (featureCounts repo) t n).length := by
  have hnodup : (entitiesOf (featureCounts repo) t n).Nodup := by
    rw [featureCounts_eq]
    exact ((foldl_addEntry _ countsOrdered_nil).1.entities t n).imp ne_of_lt
  have hset : holders repo t n = ↑(entitiesOf (featureCounts repo) t n).toFinset := by
    ext j
    rw [Finset.mem_coe, List.mem_toFinset, mem_entitiesOf_featureCounts]
  rw [hset, Set.ncard_coe_finset, List.toFinset_card_of_nodup hnodup]

/-- A normal form some entity holds is counted by the number of its holders, at least one. -/
theorem countOf_featureCounts {repo : Repository} {t n : String} {j : Int} (hj : j ∈ holders repo t n) :
    countOf (featureCounts repo) t n = some (holders repo t n).ncard ∧ 1 ≤ (holders repo t n).ncard := by
  have hmem := (mem_entitiesOf_featureCounts repo t n j).2 hj
  rw [ncard_holders, countOf_eq_length (List.ne_nil_of_mem hmem)]
  exact ⟨rfl, List.length_pos_of_mem hmem⟩

/-! ## Merged features and their values -/

theorem mem_of_lookup_eq_some {κ β : Type} [BEq κ] [LawfulBEq κ] {k : κ} {v : β} :
    ∀ {l : List (κ × β)}, l.lookup k = some v → (k, v) ∈ l
  | [], h => by cases h
  | (k', v') :: rest, h => by
    by_cases hk : k = k'
    · subst hk
      simp only [List.lookup_cons, beq_self_eq_true, Option.some.injEq] at h
      simp [h]
    · rw [List.lookup_cons, beq_eq_false_iff_ne.2 hk] at h
      exact List.mem_cons_of_mem _ (mem_of_lookup_eq_some h)

theorem keysAscend_mergeFeatures (records : List RecordDocument) (withInternal : Bool)
    (counts : Option FeatureCounts) : KeysAscend (mergeFeatures records withInternal counts) := by
  rw [mergeFeatures_eq]
  exact List.foldlRecOn (motive := KeysAscend) _ _ keysAscend_nil fun acc h _ _ => keysAscend_updateAscending _ _ _ h

theorem mem_featureTypes_of_mem_valueGroups {records : List RecordDocument} {e : String × List ValueGroup}
    (he : e ∈ valueGroups records) : e.1 ∈ featureTypes records := by
  have h : (valueGroups records).lookup e.1 = some e.2 := (lookup_eq_some_iff (keysAscend_valueGroups records)).2 he
  rw [lookup_valueGroups] at h
  by_contra hnot
  rw [if_neg hnot] at h
  cases h

/-- A merged feature list is the one of a type the records state, or, for a type they do not
state, the key features of a stated base type. -/
theorem mem_mergeFeatures {records : List RecordDocument} {withInternal : Bool} {counts : Option FeatureCounts}
    {t : String} {fs : List Feature} (h : (t, fs) ∈ mergeFeatures records withInternal counts) :
    (t ∈ featureTypes records ∧
        fs = (groupsOf (Scoring.normalize t) (valuesOf t records)).map fun g => buildFeature t t g.1 g.2 counts) ∨
      (t ∉ featureTypes records ∧ ∃ b, keyType b = some t ∧ b ∈ featureTypes records ∧
        fs = (groupsOf (Scoring.normalize b) (valuesOf b records)).map fun g => buildFeature t b g.1 [g.1] counts) := by
  have hlookup := (lookup_eq_some_iff (keysAscend_mergeFeatures records withInternal counts)).2 h
  by_cases ht : t ∈ featureTypes records
  · rw [(mergeFeatures_groups records withInternal counts ht).1, Option.some.injEq] at hlookup
    exact .inl ⟨ht, hlookup.symm⟩
  · -- the list is written by the entry of some stated type, and not as that type's own features
    have hwrite := hlookup
    rw [mergeFeatures_eq, lookup_foldl_set, List.lookup_nil, Option.or_none] at hwrite
    obtain ⟨e, he, hte⟩ := List.mem_flatMap.1 (List.mem_reverse.1 (mem_of_lookup_eq_some hwrite))
    have hb := mem_featureTypes_of_mem_valueGroups he
    cases withInternal
    · simp only [featureWrites, Bool.false_eq_true, if_false, List.mem_singleton, Prod.mk.injEq] at hte
      exact absurd (hte.1 ▸ hb) ht
    · rcases featureWrites_key hte with hbt | hk
      · exact absurd ((show t = e.1 from hbt) ▸ hb) ht
      · rw [(mergeFeatures_groups records true counts hb).2 t rfl hk ht, Option.some.injEq] at hlookup
        exact .inr ⟨ht, e.1, hk, hb, hlookup.symm⟩

/-- A group of values by normal form holds values of that form, and only such. -/
theorem mem_groupsOf {key : String → String} {vs : List String} {g : ValueGroup} (h : g ∈ groupsOf key vs) :
    (∃ v ∈ vs, key v = g.1) ∧ ∀ m ∈ g.2, m ∈ vs ∧ key m = g.1 := by
  simp only [groupsOf, List.mem_map] at h
  obtain ⟨n, hn, rfl⟩ := h
  refine ⟨?_, fun m hm => ?_⟩
  · simpa using List.mem_eraseDups.1 hn
  · simpa using List.mem_eraseDups.1 hm

/-- Every value of a feature built with counts is one of its members, with the count of the
feature's normal form under its count type. -/
theorem mem_buildFeature_values {featureType countType n : String} {members : List String}
    {cs : FeatureCounts} {v : FeatureValue} (h : v ∈ (buildFeature featureType countType n members (some cs)).values) :
    v.text ∈ members ∧
      v.stats = some ⟨(countOf cs countType n).getD 1, false, false, false⟩ := by
  simp only [buildFeature, Option.map_some, List.mem_map] at h
  obtain ⟨m, hm, rfl⟩ := h
  exact ⟨hm, rfl⟩

/-- What the statistics of a value of a feature of type `t` of entity `i` count: the holders of
`t` and of the value's normal form when the entity's records state `t`, and otherwise, for a key
feature, the holders of its base type and of the normal form that is the value's text. The entity
is among them, so the count is at least one. -/
def CountsHolders (repo : Repository) (i : Int) (t : String) (v : FeatureValue) : Prop :=
  ∃ s, v.stats = some s ∧ 1 ≤ s.entityCount ∧
    ((t ∈ featureTypes (repo.recordsOf i) ∧ s.entityCount = (holders repo t (Scoring.normalize t v.text)).ncard) ∨
      (t ∉ featureTypes (repo.recordsOf i) ∧ ∃ b, keyType b = some t ∧ s.entityCount = (holders repo b v.text).ncard))

/-- Every value of the features merged from an entity's records with the repository's counts
counts the holders of its type, or of its base type for a key feature. -/
theorem countsHolders_of_mem_mergeFeatures {repo : Repository} {i : Int} {withInternal : Bool}
    {t : String} {fs : List Feature} (h : (t, fs) ∈ mergeFeatures (repo.recordsOf i) withInternal (some (featureCounts repo))) :
    ∀ f ∈ fs, ∀ v ∈ f.values, CountsHolders repo i t v := by
  intro f hf v hv
  rcases mem_mergeFeatures h with ⟨ht, rfl⟩ | ⟨ht, b, hk, -, rfl⟩
  · -- a value of the entity's own type is a member of its group, of the group's normal form
    obtain ⟨g, hg, rfl⟩ := List.mem_map.1 hf
    obtain ⟨htext, hstats⟩ := mem_buildFeature_values hv
    obtain ⟨hm, hn⟩ := (mem_groupsOf hg).2 _ htext
    obtain ⟨hcount, hpos⟩ := countOf_featureCounts (mem_holders_of_mem_valuesOf hm)
    rw [hn] at hcount hpos
    refine ⟨_, hstats, ?_, .inl ⟨ht, ?_⟩⟩ <;> simp only [hcount, Option.getD_some, hn, hpos]
  · -- a key value is the normal form of a group of the base type, which some member has
    obtain ⟨g, hg, rfl⟩ := List.mem_map.1 hf
    obtain ⟨htext, hstats⟩ := mem_buildFeature_values hv
    obtain ⟨m, hm, hn⟩ := (mem_groupsOf hg).1
    obtain ⟨hcount, hpos⟩ := countOf_featureCounts (mem_holders_of_mem_valuesOf hm)
    rw [hn] at hcount hpos
    rw [List.mem_singleton] at htext
    refine ⟨_, hstats, ?_, .inr ⟨ht, b, hk, ?_⟩⟩ <;> simp only [hcount, Option.getD_some, htext, hpos]

/-! ## Entity data -/

theorem recordsOf_of_entityRecords {e : LocalEngine} {id : Int} {rs : List RecordDocument}
    (h : e.entityRecords id = .ok rs) : e.repo.recordsOf id = rs := by
  unfold entityRecords at h
  split at h
  · cases h
  · cases h
    rfl

/-- A related entity has no features, or those merged from its records. -/
theorem relatedEntity_features {e : LocalEngine} {flags : EngineFlags} {counts : Option FeatureCounts}
    {rel : StoredRelationship} {r : RelatedEntity} (h : e.relatedEntity flags counts rel = .ok r) :
    r.entity.features = [] ∨
      r.entity.features = mergeFeatures (e.repo.recordsOf r.entity.entityId) flags.internalFeatures counts := by
  unfold relatedEntity at h
  obtain ⟨rs, hrs, h⟩ := except_bind_eq_ok.1 h
  cases h
  have hid : ∀ rs', (buildEntity e.settings rel.relatedId rs' flags counts).entityId = rel.relatedId :=
    fun _ => rfl
  rw [← recordsOf_of_entityRecords hrs]
  by_cases hdet : flags.relatedDetails = true <;> by_cases hfeat : flags.features = true <;>
    simp [hdet, hfeat, hid]

/-- Each related entity of entity data is one the engine built for a stored relationship. -/
theorem relatedEntity_of_mem_related {e : LocalEngine} {id : Int} {flags : EngineFlags} {d : EntityData}
    (hd : e.entityData id flags = .ok d) {r : RelatedEntity} (hr : r ∈ d.related) :
    ∃ rel, e.relatedEntity flags (if flags.featureStats then some (featureCounts e.repo) else none) rel = .ok r := by
  unfold entityData at hd
  obtain ⟨rs, -, hd⟩ := except_bind_eq_ok.1 hd
  simp only at hd
  split at hd
  · obtain ⟨related, hrel, hd⟩ := except_bind_eq_ok.1 hd
    cases hd
    obtain ⟨rel, -, h⟩ := exists_of_mem_mapM_eq_ok hrel r hr
    exact ⟨rel, h⟩
  · obtain ⟨related, hrel, hd⟩ := except_bind_eq_ok.1 hd
    cases hd
    cases hrel
    cases hr

/-- Every entity of entity data has no features or those merged from its records. -/
theorem entityData_features {e : LocalEngine} {id : Int} {flags : EngineFlags} {d : EntityData}
    (hd : e.entityData id flags = .ok d) :
    ∀ x ∈ d.entity :: d.related.map (·.entity), x.features = [] ∨
      x.features = mergeFeatures (e.repo.recordsOf x.entityId) flags.internalFeatures
        (if flags.featureStats then some (featureCounts e.repo) else none) := by
  intro x hx
  rcases List.mem_cons.1 hx with rfl | hx
  · obtain ⟨rs, hrs, hentity⟩ := entityData_entity hd
    rw [hentity, buildEntity_features, show (buildEntity e.settings id rs flags _).entityId = id from rfl,
      recordsOf_of_entityRecords hrs]
    split <;> simp
  · obtain ⟨r, hr, rfl⟩ := List.mem_map.1 hx
    obtain ⟨rel, hrel⟩ := relatedEntity_of_mem_related hd hr
    exact relatedEntity_features hrel

/-- **Feature statistics count the holders of a value.** In entity data the local engine builds
with feature statistics (the data of every entity it answers about, in every payload), every
value of every feature of the entity and of its related entities counts the entities with a
record stating a value of the feature's type, or of its base type for a key feature, with the
value's normal form; the entity itself is one of them, so the count is at least one. -/
theorem entityData_entityCounts {e : LocalEngine} {id : Int} {flags : EngineFlags} {d : EntityData}
    (hstats : flags.featureStats = true) (hd : e.entityData id flags = .ok d) :
    ∀ x ∈ d.entity :: d.related.map (·.entity), ∀ t fs, (t, fs) ∈ x.features →
      ∀ f ∈ fs, ∀ v ∈ f.values, CountsHolders e.repo x.entityId t v := by
  intro x hx t fs hfs
  rcases entityData_features hd x hx with h | h
  · rw [h] at hfs
    cases hfs
  · rw [h, hstats, if_pos rfl] at hfs
    exact countsHolders_of_mem_mergeFeatures hfs

/-- The flags that ask for features, internal ones included, with their statistics. -/
def statsFlags : EngineFlags := { features := true, featureStats := true, internalFeatures := true }

/-- The person with a name and a telephone number has entity data with statistics, and every value
of it counts its holders. -/
theorem namedPhone_countsHolders :
    ∃ d, Service.namedPhoneEngine.entityData 1 statsFlags = .ok d ∧
      ∀ x ∈ d.entity :: d.related.map (·.entity), ∀ t fs, (t, fs) ∈ x.features →
        ∀ f ∈ fs, ∀ v ∈ f.values, CountsHolders Service.namedPhoneEngine.repo x.entityId t v := by
  obtain ⟨d, hd⟩ := (entityData_ok_iff Service.namedPhoneEngine 1 statsFlags).2 ⟨by decide, by decide⟩
  exact ⟨d, hd, entityData_entityCounts rfl hd⟩

end LocalEngine

end EntityGateway
