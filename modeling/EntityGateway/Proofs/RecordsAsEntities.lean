import EntityGateway.Proofs.Distinct
import EntityGateway.Proofs.MirroredWhy

/-!
# Explaining two records as explaining their entities

Two records can be explained against each other directly, or through the entities they resolve
to. When each record is the only one of its entity, the two explanations compare the same
values: an entity's merged values are its record's values without repeats, and the best pair of
a feature type does not change when repeated values are dropped. They differ in the level only:
without a stored relationship, the entities are disclosed when a relationship is disclosed, while
the records keep the classification of their scores.

* `bestPair_eraseDups`: the best pair of values and candidates is the best pair of their values
  without repeats;
* `mergedValues_singleton`: the merged values of one record, its feature types ascending, are
  its values without repeats;
* `whyRecordsData_as_whyEntitiesData`: explaining two records of two entities, each its entity's
  only record, reports the scores, relations and why-key of explaining the entities, and the same
  level exactly when a relationship between them is stored or none is disclosed.
-/

namespace EntityGateway

namespace Scoring

/-! ## Best pairs without repeated values -/

/-- The best pair so far scores at least `s`. -/
def Covers (best : Option (Int × InboundValue × String)) (s : Int) : Prop :=
  ∃ p, best = some p ∧ s ≤ p.1

variable {featureType : String} {i : InboundValue}

theorem covers_keepBest_self (best : Option (Int × InboundValue × String)) (c : String) :
    Covers (keepBest featureType i best c) (similarity featureType i.value c) := by
  dsimp only [keepBest]
  split
  · split
    · exact ⟨_, rfl, le_refl _⟩
    · next top _ _ hle => exact ⟨_, rfl, not_lt.1 hle⟩
  · exact ⟨_, rfl, le_refl _⟩

theorem covers_keepBest {best : Option (Int × InboundValue × String)} {s : Int}
    (h : Covers best s) (c : String) : Covers (keepBest featureType i best c) s := by
  obtain ⟨⟨top, p⟩, rfl, hs⟩ := h
  dsimp only [keepBest]
  split_ifs with hgt
  · exact ⟨_, rfl, hs.trans hgt.le⟩
  · exact ⟨_, rfl, hs⟩

theorem keepBest_of_covers {best : Option (Int × InboundValue × String)} {c : String}
    (h : Covers best (similarity featureType i.value c)) : keepBest featureType i best c = best := by
  obtain ⟨⟨top, p⟩, rfl, hs⟩ := h
  simp [keepBest, not_lt.2 hs]

theorem covers_foldl_keepBest {best : Option (Int × InboundValue × String)} {s : Int}
    (h : Covers best s) (C : List String) : Covers (C.foldl (keepBest featureType i) best) s :=
  List.foldlRecOn (motive := (Covers · s)) C _ h fun _ hb c _ => covers_keepBest hb c

theorem covers_foldl_keepBest_of_mem {c : String} {C : List String} (hc : c ∈ C)
    (best : Option (Int × InboundValue × String)) :
    Covers (C.foldl (keepBest featureType i) best) (similarity featureType i.value c) := by
  induction C generalizing best with
  | nil => cases hc
  | cons c' C ih =>
    rw [List.foldl_cons]
    rcases List.mem_cons.1 hc with rfl | hc
    · exact covers_foldl_keepBest (covers_keepBest_self best c) C
    · exact ih hc _

theorem foldl_keepBest_of_covers {best : Option (Int × InboundValue × String)} {C : List String}
    (h : ∀ c ∈ C, Covers best (similarity featureType i.value c)) :
    C.foldl (keepBest featureType i) best = best := by
  induction C with
  | nil => rfl
  | cons c C ih =>
    rw [List.foldl_cons, keepBest_of_covers (h c List.mem_cons_self)]
    exact ih fun c' hc' => h c' (List.mem_cons_of_mem c hc')

/-- A candidate met again scores no higher than when it was first met. -/
theorem foldl_keepBest_eraseDups (C : List String) (best : Option (Int × InboundValue × String)) :
    C.eraseDups.foldl (keepBest featureType i) best = C.foldl (keepBest featureType i) best :=
  foldl_eraseDups (fun best c => Covers best (similarity featureType i.value c))
    (fun b c => covers_keepBest_self b c) (fun _ c _ h => covers_keepBest h c)
    (fun _ _ h => keepBest_of_covers h) C best

/-- The best pair of values and candidates is the best pair of the values and candidates without
repeats: a pair met again scores no higher than when it was first met. -/
theorem bestPair_eraseDups (featureType : String) (vs ws : List String) :
    bestPair featureType (vs.eraseDups.map fun v => { value := v }) ws.eraseDups =
      bestPair featureType (vs.map fun v => { value := v }) ws := by
  unfold bestPair
  rw [List.foldl_map, List.foldl_map]
  simp only [foldl_keepBest_eraseDups]
  -- a value met again is covered against every candidate
  refine foldl_eraseDups (g := fun best v => ws.foldl (keepBest featureType { value := v }) best)
    (fun best v => ∀ c ∈ ws, Covers best (similarity featureType v c)) ?_ ?_ ?_ vs none
  · intro best v c hc
    exact covers_foldl_keepBest_of_mem hc best
  · intro best v v' h c hc
    exact covers_foldl_keepBest (h c hc) ws
  · intro best v h
    exact foldl_keepBest_of_covers h

/-- The values of a feature list without repeats. -/
def withoutRepeats (values : List (String × List String)) : List (String × List String) :=
  values.map fun e => (e.1, e.2.eraseDups)

@[simp] theorem withoutRepeats_cons (t : String) (vs : List String)
    (values : List (String × List String)) :
    withoutRepeats ((t, vs) :: values) = (t, vs.eraseDups) :: withoutRepeats values := rfl

theorem lookup_withoutRepeats (values : List (String × List String)) (t : String) :
    (withoutRepeats values).lookup t = (values.lookup t).map List.eraseDups := by
  induction values with
  | nil => rfl
  | cons e values ih =>
    obtain ⟨k, vs⟩ := e
    rw [withoutRepeats_cons, List.lookup_cons, List.lookup_cons]
    by_cases h : t = k
    · subst h
      simp
    · simp [beq_eq_false_iff_ne.2 h, ih]

theorem keysAscend_withoutRepeats {values : List (String × List String)} (h : KeysAscend values) :
    KeysAscend (withoutRepeats values) := by
  simpa [KeysAscend, withoutRepeats, List.map_map, Function.comp_def] using h

/-- Scoring values without repeats against candidates without repeats scores alike. -/
theorem scoreFeatures_withoutRepeats {A : List (String × List String)} (hA : KeysAscend A)
    (B : List (String × List String)) :
    scoreFeatures (LocalEngine.asInbound (withoutRepeats A) (keysAscend_withoutRepeats hA)) (withoutRepeats B) =
      scoreFeatures (LocalEngine.asInbound A hA) B := by
  unfold scoreFeatures LocalEngine.asInbound
  dsimp only
  rw [show withoutRepeats A = A.map fun e => (e.1, e.2.eraseDups) from rfl]
  simp only [List.filterMap_map]
  apply List.filterMap_congr
  rintro ⟨t, vs⟩ -
  simp only [Function.comp_apply, lookup_withoutRepeats]
  cases B.lookup t with
  | none => rfl
  | some ws =>
    cases ws with
    | nil => rfl
    | cons w ws =>
      -- candidates without repeats are still some
      obtain ⟨w', ws', hw⟩ : ∃ w' ws', (w :: ws).eraseDups = w' :: ws' :=
        ⟨w, _, List.eraseDups_cons⟩
      simp only [Option.map_some, hw]
      rw [← hw, bestPair_eraseDups]

end Scoring

namespace LocalEngine

/-! ## The values of one record -/

/-- One record's values merged: its feature types, ascending as a record keeps them, each with its
values without repeats. -/
theorem mergedValues_singleton (r : RecordDocument) :
    mergedValues [r] = Scoring.withoutRepeats r.features := by
  unfold mergedValues Scoring.withoutRepeats
  rw [List.foldl_cons, List.foldl_nil]
  -- each feature type is above all before it, so it goes last with its values without repeats
  suffices ∀ (F acc : List (String × List String)), KeysAscend F →
      (∀ x ∈ acc.map Prod.fst, ∀ y ∈ F.map Prod.fst, x < y) →
      F.foldl (fun acc (e : String × List String) =>
        updateAscending e.1 [] (fun target =>
          e.2.foldl (fun target v => if target.contains v then target else target ++ [v]) target) acc)
        acc = acc ++ F.map fun e => (e.1, e.2.eraseDups) from
    this r.features [] r.features_ascending (by simp)
  intro F
  induction F with
  | nil => intro acc _ _; simp
  | cons e F ih =>
    intro acc hF hacc
    obtain ⟨he, hrest⟩ := keysAscend_cons.1 hF
    have hlast : ∀ x ∈ acc.map Prod.fst, x < e.1 := fun x hx => hacc x hx e.1 (by simp)
    rw [List.foldl_cons, updateAscending_of_gt _ _ _ hlast, ih _ hrest]
    · have hdedup : e.2.foldl (fun target v => if target.contains v then target else target ++ [v]) [] =
          e.2.eraseDups := appendDistinct_eq_eraseDups List.nodup_nil e.2
      rw [hdedup, List.append_assoc, List.map_cons, List.singleton_append]
    · intro x hx y hy
      simp only [List.map_append, List.map_cons, List.map_nil, List.mem_append, List.mem_singleton]
        at hx
      rcases hx with hx | rfl
      · exact hacc x hx y (by simp [hy])
      · exact he y hy

/-- Values scored as an ordered map depend on the values alone. -/
theorem asInbound_congr {A A' : List (String × List String)} (h : A = A') (hA : KeysAscend A)
    (hA' : KeysAscend A') : asInbound A hA = asInbound A' hA' := by
  subst h
  rfl

/-! ## Two records and their two entities -/

theorem storedRecord_eq_ok {e : LocalEngine} {dataSource recordId : String} {p : Int × RecordDocument}
    (h : e.storedRecord dataSource recordId = .ok p) :
    ∃ s, e.repo.findRecord dataSource recordId = some s ∧ p = (s.entityId, s.document) := by
  unfold storedRecord at h
  rw [except_bind_eq_ok] at h
  obtain ⟨_, -, h⟩ := h
  split at h
  · next s hs => exact ⟨s, hs, (Except.ok.inj h).symm⟩
  · cases h

theorem entityRecords_of_recordsOf {e : LocalEngine} {entityId : Int} {r : RecordDocument}
    (h : e.repo.recordsOf entityId = [r]) : e.entityRecords entityId = .ok [r] := by
  unfold entityRecords
  rw [h]

theorem mapM_pair_eq_ok {ε α β : Type} {f : α → Except ε β} {a b : α} {l : List β}
    (h : [a, b].mapM f = .ok l) : ∃ x y, f a = .ok x ∧ f b = .ok y ∧ l = [x, y] := by
  cases ha : f a <;> cases hb : f b <;> simp_all [List.mapM_cons, bind, Except.bind, pure, Except.pure]

theorem classify_ne_disclosed (scores : ScoreMap) : Scoring.classify scores ≠ .disclosed := by
  unfold Scoring.classify
  dsimp only
  split_ifs <;> simp

/-- Two records of two entities, each its entity's only record, explained as records and as
entities: the entities'
explanation is answered too, with the same entities, scores, disclosed relations and why-key, and
with the same level exactly when a relationship between the entities is stored or none is
disclosed; otherwise the entities are disclosed and the records classified by their scores. -/
theorem whyRecordsData_as_whyEntitiesData {e : LocalEngine} {ds₁ rid₁ ds₂ rid₂ : String}
    {id₁ id₂ : Int} {r₁ r₂ : RecordDocument} {flags : EngineFlags} {w : WhyData}
    (h₁ : e.repo.findRecord ds₁ rid₁ = some ⟨id₁, r₁⟩) (h₂ : e.repo.findRecord ds₂ rid₂ = some ⟨id₂, r₂⟩)
    (hne : id₁ ≠ id₂) (hone₁ : e.repo.recordsOf id₁ = [r₁]) (hone₂ : e.repo.recordsOf id₂ = [r₂])
    (hw : e.whyRecordsData ds₁ rid₁ ds₂ rid₂ flags = .ok w) :
    ∃ w', e.whyEntitiesData id₁ id₂ flags = .ok w' ∧ w'.entities = w.entities ∧
      ∃ r r', w.results = [r] ∧ w'.results = [r'] ∧ r'.info.scores = r.info.scores ∧
        r'.info.relations = r.info.relations ∧ r'.info.whyKey = r.info.whyKey ∧
        (r'.info.level = r.info.level ↔ (e.storedLevel id₁ id₂).isSome ∨ r.info.relations = []) := by
  -- the engine finds the two records with their entities
  have hstored : ∀ {ds rid id r p}, e.repo.findRecord ds rid = some ⟨id, r⟩ →
      e.storedRecord ds rid = .ok p → p = (id, r) := by
    intro ds rid id r p hfind hp
    obtain ⟨s, hs, rfl⟩ := storedRecord_eq_ok hp
    rw [hfind, Option.some.injEq] at hs
    subst hs
    rfl
  -- take the records' explanation apart
  simp only [whyRecordsData, except_bind_eq_ok] at hw
  obtain ⟨p₁, hp₁, hw⟩ := hw
  obtain rfl := hstored h₁ hp₁
  simp only at hw
  obtain ⟨p₂, hp₂, hw⟩ := hw
  obtain rfl := hstored h₂ hp₂
  simp only [if_neg hne] at hw
  obtain ⟨entities, hentities, hw⟩ := hw
  obtain ⟨d₁, d₂, hd₁, hd₂, rfl⟩ := mapM_pair_eq_ok hentities
  obtain rfl := (Except.ok.inj hw).symm
  -- the entities' explanation compares the same values
  have hscores : Scoring.scoreFeatures (asInbound (mergedValues [r₁]) (keysAscend_mergedValues [r₁]))
      (mergedValues [r₂]) = Scoring.scoreFeatures (asInbound r₁.features r₁.features_ascending) r₂.features := by
    rw [asInbound_congr (mergedValues_singleton r₁) _ (Scoring.keysAscend_withoutRepeats r₁.features_ascending),
      mergedValues_singleton r₂, Scoring.scoreFeatures_withoutRepeats]
  refine ⟨_, whyEntitiesData_eq_ok.2 ⟨[r₁], [r₂], d₁, d₂, entityRecords_of_recordsOf hone₁,
    entityRecords_of_recordsOf hone₂, hd₁, hd₂, rfl⟩, rfl, _, _, rfl, rfl, hscores, rfl, ?_, ?_⟩
  · simp only [whyEntitiesResult, hscores]
  · simp only [whyEntitiesResult, hscores]
    cases e.storedLevel id₁ id₂ with
    | some l => simp
    | none =>
      by_cases hrel : disclosedRelations [r₁] [r₂] = []
      · simp [hrel]
      · simp [hrel, Ne.symm (classify_ne_disclosed _)]

/-- A record of a person disclosing a link to an employer under one key. -/
def linkedRecord (recordId name : String) : RecordDocument :=
  { dataSource := "HR", recordId, features := [("NAME", [name])], features_ascending := keysAscend_singleton _,
    disclosures := [⟨"EMPLOYER", .link, "K", none⟩] }

/-- Two people with one linked record each, and no stored relationship between them. -/
def linkedPair : RepositoryFixture :=
  { entities := [⟨1, [linkedRecord "1" "Ann Lee"]⟩, ⟨2, [linkedRecord "2" "Bo Li"]⟩] }

/-- An engine on a fresh repository with the linked pair imported, their data source registered. -/
def linkedPairEngine : LocalEngine :=
  ⟨(Repository.importFixture {} linkedPair).1, 0, ⟨.null, ["HR"], [], []⟩⟩

theorem linkedPair_explained_as_records :
    linkedPairEngine.repo.findRecord "HR" "1" = some ⟨1, linkedRecord "1" "Ann Lee"⟩ ∧
    linkedPairEngine.repo.findRecord "HR" "2" = some ⟨2, linkedRecord "2" "Bo Li"⟩ ∧
    (1 : Int) ≠ 2 ∧ linkedPairEngine.repo.recordsOf 1 = [linkedRecord "1" "Ann Lee"] ∧
    linkedPairEngine.repo.recordsOf 2 = [linkedRecord "2" "Bo Li"] ∧
    ∃ w, linkedPairEngine.whyRecordsData "HR" "1" "HR" "2" {} = .ok w ∧
      ∃ w', linkedPairEngine.whyEntitiesData 1 2 {} = .ok w' ∧ w'.entities = w.entities ∧
        ∃ r r', w.results = [r] ∧ w'.results = [r'] ∧ r'.info.scores = r.info.scores ∧
          r'.info.relations = r.info.relations ∧ r'.info.whyKey = r.info.whyKey ∧
          (r'.info.level = r.info.level ↔
            (linkedPairEngine.storedLevel 1 2).isSome ∨ r.info.relations = []) := by
  have h₁ : linkedPairEngine.repo.findRecord "HR" "1" = some ⟨1, linkedRecord "1" "Ann Lee"⟩ := rfl
  have h₂ : linkedPairEngine.repo.findRecord "HR" "2" = some ⟨2, linkedRecord "2" "Bo Li"⟩ := rfl
  have hone₁ : linkedPairEngine.repo.recordsOf 1 = [linkedRecord "1" "Ann Lee"] := rfl
  have hone₂ : linkedPairEngine.repo.recordsOf 2 = [linkedRecord "2" "Bo Li"] := rfl
  obtain ⟨w, hw⟩ : ∃ w, linkedPairEngine.whyRecordsData "HR" "1" "HR" "2" {} = .ok w := ⟨_, rfl⟩
  exact ⟨h₁, h₂, by decide, hone₁, hone₂, w, hw,
    whyRecordsData_as_whyEntitiesData h₁ h₂ (by decide) hone₁ hone₂ hw⟩

end LocalEngine

end EntityGateway
