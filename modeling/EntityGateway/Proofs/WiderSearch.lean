import Mathlib.Data.List.Sort
import EntityGateway.Service.Search
import EntityGateway.Proofs.ImportedLookup
import EntityGateway.Proofs.LocalNetwork
import EntityGateway.Proofs.SymmetricScores

/-!
# More searched values never lose a candidate

The values of one attribute in search criteria are alternatives: a candidate matching any of
them counts. Adding a value only adds pairs to compare, and each stage of a search passes that
on, from the criteria to the level of every candidate:

* `entries_subset_insert`: inserting a value keeps every value of the criteria;
* `entries_inboundOf_mono`: each criteria value is searched under the feature type of its
  attribute, so more criteria values are more searched values of each type;
* `closer_scoreFeatures`: the best pair of a feature type scores the highest score over all
  pairs (`score_bestPair`), so more searched values score each type at least as high, and
  `bucketOf` puts a higher score in a bucket at least as close;
* `rank_classify_le`: the level of the scores is monotone in each of the three facts it reads,
  a close name, a close other feature and a plausible other feature;
* `search_insert_loses_no_candidate`: over the local engine, every entity a search lists is
  listed by the search with one more value too, at a level at least as close.
-/

namespace EntityGateway

/-! ## Runs of `mapM` and `filterMapM` -/

section Runs

variable {ε α β : Type}

theorem exists_mem_of_mapM_eq_ok {f : α → Except ε β} :
    ∀ {xs : List α} {ys : List β}, xs.mapM f = .ok ys → ∀ x ∈ xs, ∃ y ∈ ys, f x = .ok y
  | [], _, _, _, hx => absurd hx List.not_mem_nil
  | a :: xs, ys, h, x, hx => by
    rw [List.mapM_cons, except_bind_eq_ok] at h
    obtain ⟨b, hb, h⟩ := h
    obtain ⟨bs, hbs, hys⟩ := except_bind_eq_ok.1 h
    cases hys
    rcases List.mem_cons.1 hx with rfl | hx
    · exact ⟨b, List.mem_cons_self, hb⟩
    · obtain ⟨y, hy, hfy⟩ := exists_mem_of_mapM_eq_ok hbs x hx
      exact ⟨y, List.mem_cons_of_mem _ hy, hfy⟩

theorem exists_of_mem_mapM_eq_ok {f : α → Except ε β} :
    ∀ {xs : List α} {ys : List β}, xs.mapM f = .ok ys → ∀ y ∈ ys, ∃ x ∈ xs, f x = .ok y
  | [], ys, h, y, hy => by
    cases h
    exact absurd hy List.not_mem_nil
  | a :: xs, ys, h, y, hy => by
    rw [List.mapM_cons, except_bind_eq_ok] at h
    obtain ⟨b, hb, h⟩ := h
    obtain ⟨bs, hbs, hys⟩ := except_bind_eq_ok.1 h
    cases hys
    rcases List.mem_cons.1 hy with rfl | hy
    · exact ⟨a, List.mem_cons_self, hb⟩
    · obtain ⟨x, hx, hfx⟩ := exists_of_mem_mapM_eq_ok hbs y hy
      exact ⟨x, List.mem_cons_of_mem _ hx, hfx⟩

/-- Every element a `filterMapM` keeps is kept by its step from an element of the list. -/
theorem exists_of_mem_filterMapM_eq_ok {f : α → Except ε (Option β)} :
    ∀ {xs : List α} {ys : List β}, xs.filterMapM f = .ok ys → ∀ y ∈ ys, ∃ x ∈ xs, f x = .ok (some y)
  | [], ys, h, y, hy => by
    cases h
    exact absurd hy List.not_mem_nil
  | a :: xs, ys, h, y, hy => by
    rw [List.filterMapM_cons, except_bind_eq_ok] at h
    obtain ⟨o, ho, h⟩ := h
    cases o with
    | none =>
      obtain ⟨x, hx, hfx⟩ := exists_of_mem_filterMapM_eq_ok h y hy
      exact ⟨x, List.mem_cons_of_mem _ hx, hfx⟩
    | some b =>
      obtain ⟨bs, hbs, hys⟩ := except_bind_eq_ok.1 h
      cases hys
      rcases List.mem_cons.1 hy with rfl | hy
      · exact ⟨a, List.mem_cons_self, ho⟩
      · obtain ⟨x, hx, hfx⟩ := exists_of_mem_filterMapM_eq_ok hbs y hy
        exact ⟨x, List.mem_cons_of_mem _ hx, hfx⟩

/-- A `filterMapM` that answered keeps what each step of an element keeps. -/
theorem mem_of_filterMapM_eq_ok {f : α → Except ε (Option β)} {y : β} :
    ∀ {xs : List α} {ys : List β}, xs.filterMapM f = .ok ys → ∀ x ∈ xs, f x = .ok (some y) → y ∈ ys
  | [], _, _, _, hx, _ => absurd hx List.not_mem_nil
  | a :: xs, ys, h, x, hx, hfx => by
    rw [List.filterMapM_cons, except_bind_eq_ok] at h
    obtain ⟨o, ho, h⟩ := h
    cases o with
    | none =>
      rcases List.mem_cons.1 hx with rfl | hx
      · rw [hfx] at ho
        cases ho
      · exact mem_of_filterMapM_eq_ok h x hx hfx
    | some b =>
      obtain ⟨bs, hbs, hys⟩ := except_bind_eq_ok.1 h
      cases hys
      rcases List.mem_cons.1 hx with rfl | hx
      · rw [hfx] at ho
        cases ho
        exact List.mem_cons_self
      · exact List.mem_cons_of_mem _ (mem_of_filterMapM_eq_ok hbs x hx hfx)

end Runs

/-! ## Values listed under keys -/

section Entries

variable {κ β : Type}

/-- Each key of an association list paired with each value listed under it. -/
def entries (l : List (κ × List β)) : List (κ × β) := l.flatMap fun e => e.2.map (e.1, ·)

theorem mem_entries {l : List (κ × List β)} {k : κ} {x : β} :
    (k, x) ∈ entries l ↔ ∃ vs, (k, vs) ∈ l ∧ x ∈ vs := by
  simp [entries, List.mem_flatMap]

@[simp] theorem entries_nil : entries ([] : List (κ × List β)) = [] := rfl

@[simp] theorem entries_cons (k : κ) (vs : List β) (l : List (κ × List β)) :
    entries ((k, vs) :: l) = vs.map (k, ·) ++ entries l := rfl

variable [LinearOrder κ]

/-- An update whose change keeps the values it is given keeps every entry's values, under
the entry's key. -/
theorem exists_mem_updateAscending {k : κ} {init : List β} {f : List β → List β}
    (hf : ∀ vs, vs ⊆ f vs) :
    ∀ {l : List (κ × List β)} {k' : κ} {vs : List β}, (k', vs) ∈ l →
      ∃ ws, (k', ws) ∈ updateAscending k init f l ∧ vs ⊆ ws
  | (k₀, v₀) :: rest, k', vs, h => by
    rw [updateAscending_cons]
    rcases List.mem_cons.1 h with heq | hrest
    · cases heq
      split_ifs
      · exact ⟨v₀, by simp, List.Subset.refl _⟩
      · exact ⟨f v₀, by simp, hf v₀⟩
      · exact ⟨v₀, by simp, List.Subset.refl _⟩
    · split_ifs
      · exact ⟨vs, by simp [hrest], List.Subset.refl _⟩
      · exact ⟨vs, by simp [hrest], List.Subset.refl _⟩
      · obtain ⟨ws, hws, hsub⟩ := exists_mem_updateAscending hf hrest
        exact ⟨ws, List.mem_cons_of_mem _ hws, hsub⟩

theorem entries_subset_updateAscending (k : κ) (init : List β) {f : List β → List β}
    (hf : ∀ vs, vs ⊆ f vs) (l : List (κ × List β)) :
    entries l ⊆ entries (updateAscending k init f l) := by
  rintro ⟨k', x⟩ hx
  obtain ⟨vs, hvs, hx⟩ := mem_entries.1 hx
  obtain ⟨ws, hws, hsub⟩ := exists_mem_updateAscending hf hvs
  exact mem_entries.2 ⟨ws, hws, hsub hx⟩

/-- Appending values under a key adds exactly those values to the entries. -/
theorem mem_entries_updateAscending_append (k : κ) (new : List β) {k' : κ} {x : β} :
    ∀ l : List (κ × List β), (k', x) ∈ entries (updateAscending k [] (· ++ new) l) ↔
      (k', x) ∈ entries l ∨ (k' = k ∧ x ∈ new)
  | [] => by simp [updateAscending, and_comm, eq_comm]
  | (k₀, v₀) :: rest => by
    rw [updateAscending_cons]
    split_ifs with hlt heq
    · simp [and_comm, eq_comm, or_comm]
    · subst heq
      simp [and_comm, eq_comm, or_left_comm, or_comm]
    · simp [mem_entries_updateAscending_append k new rest, or_assoc]

end Entries

/-! ## Criteria and the values they search -/

namespace SearchCriteria

/-- Inserting a value keeps every value the criteria had, under its attribute. -/
theorem entries_subset_insert (c : SearchCriteria) (code value : String) :
    entries c.attributes ⊆ entries (c.insert code value).attributes := by
  unfold SearchCriteria.insert
  dsimp only
  split
  · exact List.Subset.refl _
  · exact entries_subset_updateAscending _ _ (fun _ _ hx => mem_insertAscending_iff.2 (.inr hx)) _

end SearchCriteria

namespace LocalEngine

/-- The feature type an attribute code is searched under: the type the configuration maps the
code to, else the code itself when the configuration classes it as a feature type. -/
def featureTypeOf (settings : EngineSettings) (code : String) : Option String :=
  match settings.attributes.lookup code with
  | some t => some t
  | none => if (settings.attributeClasses.lookup code).isSome then some code else none

/-- The texts of a searched value: a text, or the texts of a list. -/
def textsOf : Json → List String
  | .string s => [s]
  | .array items => items.filterMap Json.str?
  | _ => []

/-- One member of a criteria object added to the searched values. -/
def inboundStep (settings : EngineSettings) (acc : AscendingMap String (List Scoring.InboundValue)) :
    String × Json → AscendingMap String (List Scoring.InboundValue)
  | (code, values) =>
    match featureTypeOf settings code with
    | none => acc
    | some t => acc.update t [] (· ++ (textsOf values).map fun s => { value := s, organization := code == "NAME_ORG" })

theorem inboundOf_object (settings : EngineSettings) (ms : List (String × Json)) :
    inboundOf settings (.object ms) = ms.foldl (inboundStep settings) .empty := rfl

theorem textsOf_strings (vs : List String) : textsOf (Json.strings vs) = vs := by
  simp [textsOf, Json.strings, List.filterMap_map, Function.comp_def, Json.str?]

theorem mem_entries_inboundStep (settings : EngineSettings) (acc : AscendingMap String (List Scoring.InboundValue))
    (m : String × Json) {t : String} {x : Scoring.InboundValue} :
    (t, x) ∈ entries (inboundStep settings acc m).toList ↔ (t, x) ∈ entries acc.toList ∨
      featureTypeOf settings m.1 = some t ∧
        ∃ s ∈ textsOf m.2, x = { value := s, organization := m.1 == "NAME_ORG" } := by
  obtain ⟨code, values⟩ := m
  cases h : featureTypeOf settings code with
  | none => simp [inboundStep, h]
  | some t' =>
    simp only [inboundStep, h, AscendingMap.toList_update, mem_entries_updateAscending_append, List.mem_map,
      Option.some.injEq]
    grind

theorem mem_entries_foldl_inboundStep (settings : EngineSettings) {t : String} {x : Scoring.InboundValue} :
    ∀ (ms : List (String × Json)) (acc : AscendingMap String (List Scoring.InboundValue)),
      (t, x) ∈ entries (ms.foldl (inboundStep settings) acc).toList ↔ (t, x) ∈ entries acc.toList ∨
        ∃ m ∈ ms, featureTypeOf settings m.1 = some t ∧
          ∃ s ∈ textsOf m.2, x = { value := s, organization := m.1 == "NAME_ORG" }
  | [], acc => by simp
  | m :: ms, acc => by
    rw [List.foldl_cons, mem_entries_foldl_inboundStep settings ms, mem_entries_inboundStep]
    simp only [List.mem_cons, exists_eq_or_imp, or_assoc]

/-- A searched value of a feature type is a value of an attribute of the criteria searched under
that type, an organization name when the attribute is `NAME_ORG`. -/
theorem mem_entries_inboundOf (settings : EngineSettings) (c : SearchCriteria) {t : String}
    {x : Scoring.InboundValue} :
    (t, x) ∈ entries (inboundOf settings c.engineValue).toList ↔
      ∃ code v, (code, v) ∈ entries c.attributes ∧ featureTypeOf settings code = some t ∧
        x = { value := v, organization := code == "NAME_ORG" } := by
  rw [SearchCriteria.engineValue, inboundOf_object, mem_entries_foldl_inboundStep]
  simp only [AscendingMap.toList_empty, entries_nil, List.not_mem_nil, false_or, List.mem_map, Prod.exists,
    Prod.mk.injEq, mem_entries]
  constructor
  · rintro ⟨_, _, ⟨code, vs, hmem, rfl, rfl⟩, hft, v, hv, rfl⟩
    rw [textsOf_strings] at hv
    exact ⟨code, v, ⟨vs, hmem, hv⟩, hft, rfl⟩
  · rintro ⟨code, v, ⟨vs, hmem, hv⟩, hft, rfl⟩
    exact ⟨code, _, ⟨code, vs, hmem, rfl, rfl⟩, hft, v, by rwa [textsOf_strings], rfl⟩

/-- Criteria with more values search more values of each feature type. -/
theorem entries_inboundOf_mono (settings : EngineSettings) {c₁ c₂ : SearchCriteria}
    (h : entries c₁.attributes ⊆ entries c₂.attributes) :
    entries (inboundOf settings c₁.engineValue).toList ⊆ entries (inboundOf settings c₂.engineValue).toList := by
  rintro ⟨t, x⟩ hx
  obtain ⟨code, v, hv, hft, rfl⟩ := (mem_entries_inboundOf settings c₁).1 hx
  exact (mem_entries_inboundOf settings c₂).2 ⟨code, v, h hv, hft, rfl⟩

end LocalEngine

/-! ## Scores and levels -/

namespace Scoring

theorem le_max?_of_mem {L : List Int} {a : Int} (h : a ∈ L) : ∃ m, L.max? = some m ∧ a ≤ m := by
  obtain ⟨m, hm⟩ := Option.isSome_iff_exists.1 (List.isSome_max?_of_mem h)
  exact ⟨m, hm, (List.max?_eq_some_iff.1 hm).2 a h⟩

/-- A higher score falls in a bucket at least as close. -/
theorem rank_bucketOf_le {s s' : Int} (h : s ≤ s') : (bucketOf s').rank ≤ (bucketOf s).rank := by
  unfold bucketOf
  split_ifs <;> simp only [ScoreBucket.rank] <;> omega

theorem bestBucket_singleton (f : FeatureScore) : bestBucket [f] = some f.bucket := rfl

theorem exists_of_mem_scoreFeatures {I : AscendingMap String (List InboundValue)}
    {M : List (String × List String)} {t : String} {ss : List FeatureScore} (h : (t, ss) ∈ scoreFeatures I M) :
    ∃ vals cs s, (t, vals) ∈ I.toList ∧ M.lookup t = some cs ∧ (bestPair t vals cs).map (·.1) = some s ∧
      bestBucket ss = some (bucketOf s) := by
  obtain ⟨⟨t', vals⟩, hmem, hf⟩ := List.mem_filterMap.1 h
  dsimp only at hf
  split at hf
  · rename_i cs c cs' hcs
    obtain ⟨⟨s, i, c'⟩, hp, heq⟩ := Option.map_eq_some_iff.1 hf
    cases heq
    exact ⟨vals, c :: cs', s, hmem, hcs, by rw [hp]; rfl, bestBucket_singleton _⟩
  · cases hf

theorem exists_mem_scoreFeatures {I : AscendingMap String (List InboundValue)} {M : List (String × List String)}
    {t : String} {vals : List InboundValue} {cs : List String} {s : Int} (hv : (t, vals) ∈ I.toList)
    (hc : M.lookup t = some cs) (hs : (bestPair t vals cs).map (·.1) = some s) :
    ∃ ss, (t, ss) ∈ scoreFeatures I M ∧ bestBucket ss = some (bucketOf s) := by
  obtain ⟨⟨s', i, c⟩, hp, rfl⟩ := Option.map_eq_some_iff.1 hs
  cases cs with
  | nil =>
    rw [score_bestPair] at hs
    exact absurd (List.max?_mem hs) (by simp)
  | cons c₀ cs =>
    exact ⟨_, List.mem_filterMap.2 ⟨(t, vals), hv, by simp only [hc, hp, Option.map_some]; exact rfl⟩,
      by exact bestBucket_singleton _⟩

theorem keysAscend_scoreFeatures (I : AscendingMap String (List InboundValue))
    (M : List (String × List String)) : KeysAscend (scoreFeatures I M) := by
  refine keysAscend_filterMap ?_ I.ascending
  rintro ⟨t, vals⟩ ⟨t', ss⟩ hf
  dsimp only at hf
  split at hf
  · obtain ⟨_, -, heq⟩ := Option.map_eq_some_iff.1 hf
    cases heq
    rfl
  · cases hf

/-- Each feature type scored in `s₁` is scored in `s₂`, its best bucket at least as close. -/
def Closer (s₁ s₂ : ScoreMap) : Prop :=
  ∀ t ss₁, (t, ss₁) ∈ s₁ → ∃ ss₂, (t, ss₂) ∈ s₂ ∧
    ∀ b₁ ∈ bestBucket ss₁, ∃ b₂ ∈ bestBucket ss₂, b₂.rank ≤ b₁.rank

/-- Scoring more searched values scores each feature type at least as close. -/
theorem closer_scoreFeatures {I₁ I₂ : AscendingMap String (List InboundValue)}
    (hI : entries I₁.toList ⊆ entries I₂.toList)
    (M : List (String × List String)) : Closer (scoreFeatures I₁ M) (scoreFeatures I₂ M) := by
  intro t ss₁ hmem
  obtain ⟨vals₁, cs, s₁, hv₁, hcs, hs₁, hb₁⟩ := exists_of_mem_scoreFeatures hmem
  -- the best score of the first side is the score of one of its values `x` against some `c`
  rw [score_bestPair] at hs₁
  obtain ⟨x, hx, c, hc, hxc⟩ : ∃ x ∈ vals₁, ∃ c ∈ cs, similarity t x.value c = s₁ := by
    simpa [List.mem_flatMap] using List.max?_mem hs₁
  -- the second side lists `x` under `t` too, so its best pair scores at least as high
  obtain ⟨ws, hws, hxw⟩ := mem_entries.1 (hI (mem_entries.2 ⟨vals₁, hv₁, hx⟩))
  have hpair : similarity t x.value c ∈ ws.flatMap fun i => cs.map (similarity t i.value) :=
    List.mem_flatMap.2 ⟨x, hxw, List.mem_map_of_mem hc⟩
  obtain ⟨s₂, hs₂, hle⟩ := le_max?_of_mem hpair
  rw [← score_bestPair] at hs₂
  obtain ⟨ss₂, hmem₂, hb₂⟩ := exists_mem_scoreFeatures hws hcs hs₂
  refine ⟨ss₂, hmem₂, fun b₁ hb => ⟨bucketOf s₂, hb₂, ?_⟩⟩
  rw [hb₁, Option.mem_some_iff] at hb
  rw [← hb, ← hxc]
  exact rank_bucketOf_le hle

/-- The level `classify` reads off three facts: a close name, a close other feature and a
plausible other feature. -/
def levelOf (nameClose otherClose otherPlausible : Bool) : MatchLevel :=
  if nameClose then
    if otherClose then .resolved else if otherPlausible then .possiblySame else .nameOnly
  else if otherClose then .possiblyRelated else .noMatch

/-- Each of the three facts only brings the level closer. -/
theorem rank_levelOf_le : ∀ {n₁ c₁ p₁ n₂ c₂ p₂ : Bool}, (n₁ = true → n₂ = true) →
    (c₁ = true → c₂ = true) → (p₁ = true → p₂ = true) → (levelOf n₂ c₂ p₂).rank ≤ (levelOf n₁ c₁ p₁).rank := by
  decide

/-- Whether the best bucket of the names is at least close. -/
def nameMatches (scores : ScoreMap) : Bool :=
  match (scores.lookup nameType).bind bestBucket with
  | some b => decide (b.rank ≤ ScoreBucket.close.rank)
  | none => false

/-- The best buckets of the feature types other than names. -/
def otherBuckets (scores : ScoreMap) : List ScoreBucket :=
  scores.filterMap fun (t, ss) => if t == nameType then none else bestBucket ss

theorem classify_eq_levelOf (scores : ScoreMap) :
    classify scores = levelOf (nameMatches scores)
      ((otherBuckets scores).any fun b => b.rank ≤ ScoreBucket.close.rank)
      ((otherBuckets scores).any fun b => b.rank ≤ ScoreBucket.reasonable.rank) := rfl

theorem nameMatches_eq_true_iff (scores : ScoreMap) :
    nameMatches scores = true ↔
      ∃ b ∈ (scores.lookup nameType).bind bestBucket, b.rank ≤ ScoreBucket.close.rank := by
  unfold nameMatches
  cases (scores.lookup nameType).bind bestBucket <;> simp

theorem mem_otherBuckets {scores : ScoreMap} {b : ScoreBucket} :
    b ∈ otherBuckets scores ↔ ∃ t ss, (t, ss) ∈ scores ∧ t ≠ nameType ∧ bestBucket ss = some b := by
  simp only [otherBuckets, List.mem_filterMap, Prod.exists]
  refine exists₂_congr fun t ss => and_congr_right fun _ => ?_
  by_cases ht : t = nameType <;> simp [ht]

section Closer

variable {s₁ s₂ : ScoreMap}

theorem nameMatches_mono (h₁ : KeysAscend s₁) (h₂ : KeysAscend s₂) (h : Closer s₁ s₂)
    (hn : nameMatches s₁ = true) : nameMatches s₂ = true := by
  rw [nameMatches_eq_true_iff] at hn ⊢
  obtain ⟨b₁, hb₁, hle⟩ := hn
  obtain ⟨ss₁, hl₁, hbb₁⟩ := Option.bind_eq_some_iff.1 hb₁
  obtain ⟨ss₂, hmem₂, hcl⟩ := h _ _ ((lookup_eq_some_iff h₁).1 hl₁)
  obtain ⟨b₂, hb₂, hle₂⟩ := hcl b₁ hbb₁
  exact ⟨b₂, Option.bind_eq_some_iff.2 ⟨ss₂, (lookup_eq_some_iff h₂).2 hmem₂, hb₂⟩, hle₂.trans hle⟩

theorem any_otherBuckets_mono (h : Closer s₁ s₂) (k : Nat)
    (ho : (otherBuckets s₁).any (fun b => b.rank ≤ k) = true) :
    (otherBuckets s₂).any (fun b => b.rank ≤ k) = true := by
  simp only [List.any_eq_true, decide_eq_true_eq] at ho ⊢
  obtain ⟨b₁, hb₁, hle⟩ := ho
  obtain ⟨t, ss₁, hmem, hne, hbb⟩ := mem_otherBuckets.1 hb₁
  obtain ⟨ss₂, hmem₂, hcl⟩ := h t ss₁ hmem
  obtain ⟨b₂, hb₂, hle₂⟩ := hcl b₁ hbb
  exact ⟨b₂, mem_otherBuckets.2 ⟨t, ss₂, hmem₂, hne, hb₂⟩, hle₂.trans hle⟩

/-- Scores at least as close for each feature type classify at a level at least as close. -/
theorem rank_classify_le (h₁ : KeysAscend s₁) (h₂ : KeysAscend s₂) (h : Closer s₁ s₂) :
    (classify s₂).rank ≤ (classify s₁).rank := by
  rw [classify_eq_levelOf, classify_eq_levelOf]
  exact rank_levelOf_le (nameMatches_mono h₁ h₂ h) (any_otherBuckets_mono h _) (any_otherBuckets_mono h _)

end Closer

end Scoring

/-! ## The local engine's candidates -/

namespace LocalEngine

/-- The scores of an entity's merged values against the values searched by criteria. -/
def entityScores (e : LocalEngine) (criteria : Json) (id : Int) : ScoreMap :=
  Scoring.scoreFeatures (inboundOf e.settings criteria) (mergedValues (e.repo.recordsOf id))

/-- One more criteria value scores every entity at a level at least as close. -/
theorem rank_classify_entityScores_insert (e : LocalEngine) (c : SearchCriteria) (code value : String)
    (id : Int) :
    (Scoring.classify (e.entityScores (c.insert code value).engineValue id)).rank ≤
      (Scoring.classify (e.entityScores c.engineValue id)).rank :=
  Scoring.rank_classify_le (Scoring.keysAscend_scoreFeatures _ _) (Scoring.keysAscend_scoreFeatures _ _)
    (Scoring.closer_scoreFeatures (entries_inboundOf_mono _ (c.entries_subset_insert code value)) _)

variable {e : LocalEngine} {criteria : Json} {flags : EngineFlags} {d : SearchData}

/-- A candidate of a search is an entity with records that matches at its level. -/
theorem exists_of_mem_searchData (h : e.searchData criteria flags = .ok d) {c : SearchCandidate}
    (hc : c ∈ d.candidates) :
    ∃ id ∈ e.repo.recordEntityIds, Scoring.classify (e.entityScores criteria id) ≠ .noMatch ∧
      c.info.level = Scoring.classify (e.entityScores criteria id) ∧ e.entityData id flags = .ok c.entity := by
  unfold searchData at h
  obtain ⟨cands, hcands, hd⟩ := except_bind_eq_ok.1 h
  cases hd
  obtain ⟨x, hx, hfx⟩ := exists_of_mem_mapM_eq_ok hcands c hc
  obtain ⟨id, hid, hsome⟩ := List.mem_filterMap.1 ((List.mergeSort_perm _ _).mem_iff.1 hx)
  dsimp only at hsome
  split at hsome
  · cases hsome
  · rename_i hl
    cases hsome
    obtain ⟨ed, hed, hc'⟩ := except_bind_eq_ok.1 hfx
    cases hc'
    exact ⟨id, hid, hl, rfl, hed⟩

/-- Every entity with records that matches is a candidate of the search, at its level. -/
theorem exists_mem_searchData (h : e.searchData criteria flags = .ok d) {id : Int}
    (hid : id ∈ e.repo.recordEntityIds) (hl : Scoring.classify (e.entityScores criteria id) ≠ .noMatch) :
    ∃ c ∈ d.candidates, c.info.level = Scoring.classify (e.entityScores criteria id) ∧
      e.entityData id flags = .ok c.entity := by
  unfold searchData at h
  obtain ⟨cands, hcands, hd⟩ := except_bind_eq_ok.1 h
  cases hd
  have hmem : (Scoring.classify (e.entityScores criteria id), id, e.entityScores criteria id) ∈
      (e.repo.recordEntityIds.filterMap fun id =>
        if Scoring.classify (e.entityScores criteria id) = .noMatch then none
        else some (Scoring.classify (e.entityScores criteria id), id, e.entityScores criteria id)) :=
    List.mem_filterMap.2 ⟨id, hid, if_neg hl⟩
  obtain ⟨c, hc, hfc⟩ := exists_mem_of_mapM_eq_ok hcands _ ((List.mergeSort_perm _ _).mem_iff.2 hmem)
  obtain ⟨ed, hed, hc'⟩ := except_bind_eq_ok.1 hfc
  cases hc'
  exact ⟨_, hc, rfl, hed⟩

end LocalEngine

/-! ## Searches over the local engine -/

theorem MatchLevel.eq_noMatch_of_rank_le {l : MatchLevel} (h : MatchLevel.noMatch.rank ≤ l.rank) :
    l = .noMatch := by
  revert h
  cases l <;> decide

theorem MatchBucket.ofLevel_eq_none_iff {l : MatchLevel} : MatchBucket.ofLevel l = none ↔ l = .noMatch := by
  cases l <;> decide

/-- A result of a candidate is the candidate's entity projected, at the candidate's level. -/
theorem searchResult_eq_some {o : RenderOptions} {includeOnly : List MatchBucket} {c : SearchCandidate}
    {r : SearchResult} (h : searchResult o includeOnly c = .ok (some r)) :
    project o c.entity = .ok r.entity ∧ r.level = c.info.level := by
  unfold searchResult at h
  split at h
  · cases h
  · split at h
    · cases h
    · obtain ⟨v, hv, hr⟩ := except_bind_eq_ok.1 h
      cases hr
      exact ⟨hv, rfl⟩

/-- Without a bucket filter, a matching candidate whose entity projects has a result. -/
theorem searchResult_nil {o : RenderOptions} {c : SearchCandidate} {v : EntityDataView}
    (hl : c.info.level ≠ .noMatch) (hv : project o c.entity = .ok v) :
    ∃ r, searchResult o [] c = .ok (some r) ∧ r.entity = v ∧ r.level = c.info.level := by
  obtain ⟨b, hb⟩ := Option.ne_none_iff_exists'.1 (mt MatchBucket.ofLevel_eq_none_iff.1 hl)
  simp only [searchResult, hb, List.isEmpty_nil, Bool.not_true, Bool.false_and, Bool.false_eq_true,
    ite_false, hv]
  exact ⟨_, rfl, rfl, rfl⟩

namespace Service

/-- A service whose run reads as some answer under `f` answered. -/
theorem exists_exec_eq_ok {σ α β : Type} {x : Service σ α} {st : σ} {f : α → β} {b : β}
    (h : ((x.exec st).1.toOption.map f) = some b) : ∃ a, x.exec st = (.ok a, (x.exec st).2) ∧ f a = b := by
  obtain ⟨a, ha, rfl⟩ := Option.map_eq_some_iff.1 h
  refine ⟨a, ?_, rfl⟩
  cases hx : x.exec st with
  | mk r st' =>
    rw [hx] at ha
    cases r with
    | error e => cases (ha : none = some a)
    | ok a' =>
      cases (ha : some a' = some a)
      rfl

theorem localEngine_search (criteria : Json) (flags : EngineFlags) :
    localEngine.search criteria flags =
      LocalEngine.answer fun e => (e.searchData criteria flags).map (Reply.ofData SearchData.toJson) :=
  rfl

/-- A search call of the local engine that answered read the engine's search data, and left the
state as it was. -/
theorem exec_call_search {criteria : Json} {flags : EngineFlags} {st st' : LocalEngine}
    {reply : Reply SearchData} (h : (call (localEngine.search criteria flags)).exec st = (.ok reply, st')) :
    st' = st ∧ ∃ d, st.searchData criteria flags = .ok d ∧ reply = Reply.ofData SearchData.toJson d := by
  rw [localEngine_search, LocalEngine.exec_call_answer] at h
  obtain ⟨hreply, rfl⟩ := Prod.mk.inj h
  refine ⟨rfl, ?_⟩
  cases hd : st.searchData criteria flags with
  | error f =>
    rw [hd] at hreply
    cases hreply
  | ok d =>
    rw [hd] at hreply
    cases hreply
    exact ⟨d, rfl, rfl⟩

/-- A search over the local engine that answered had non-empty criteria, left the state as it
was, and kept the results `searchResult` gives the candidates of the engine's search data. -/
theorem exec_search_local {c : SearchCriteria} {includeOnly : List MatchBucket} {o : RenderOptions}
    {st st' : LocalEngine} {a : Answer SearchAnswer}
    (h : (search localEngine c includeOnly o).exec st = (.ok a, st')) :
    st' = st ∧ c.isEmpty = false ∧ ∃ d, st.searchData c.engineValue o.engineFlags = .ok d ∧
      d.candidates.filterMapM (searchResult o includeOnly) = .ok a.data.results := by
  unfold search at h
  dsimp only at h
  by_cases hc : c.isEmpty = true
  · rw [if_pos hc, bind_ok_iff] at h
    obtain ⟨_, _, hl, -⟩ := h
    cases hl
  · rw [if_neg hc] at h
    obtain ⟨reply, st₁, hcall, h⟩ := bind_ok_iff.1 h
    obtain ⟨rfl, d, hd, rfl⟩ := exec_call_search hcall
    obtain ⟨payload, st₂, hread, h⟩ := bind_ok_iff.1 h
    obtain ⟨hpayload, rfl⟩ := Prod.mk.inj hread
    cases hpayload
    obtain ⟨results, st₃, hlift, h⟩ := bind_ok_iff.1 h
    rw [exec_lift] at hlift
    obtain ⟨hresults, rfl⟩ := Prod.mk.inj hlift
    obtain ⟨ha, rfl⟩ := Prod.mk.inj h
    cases ha
    exact ⟨rfl, Bool.eq_false_iff.2 hc, d, hd, hresults⟩

/-- **Another value loses no candidate.** Over the local engine and without a bucket filter,
when a search and the search with one more value both answer, every entity the first lists is
listed by the second too, at a level at least as close. -/
theorem search_insert_loses_no_candidate {st st₁ st₂ : LocalEngine} {c : SearchCriteria}
    {code value : String} {o : RenderOptions} {a₁ a₂ : Answer SearchAnswer}
    (h₁ : (search localEngine c [] o).exec st = (.ok a₁, st₁))
    (h₂ : (search localEngine (c.insert code value) [] o).exec st = (.ok a₂, st₂)) :
    ∀ r₁ ∈ a₁.data.results, ∃ r₂ ∈ a₂.data.results,
      r₂.entity = r₁.entity ∧ r₂.level.rank ≤ r₁.level.rank := by
  obtain ⟨-, -, d₁, hd₁, hres₁⟩ := exec_search_local h₁
  obtain ⟨-, -, d₂, hd₂, hres₂⟩ := exec_search_local h₂
  intro r₁ hr₁
  -- the first search listed `r₁` for an entity `id` that matched at `r₁`'s level
  obtain ⟨c₁, hc₁, hsr₁⟩ := exists_of_mem_filterMapM_eq_ok hres₁ r₁ hr₁
  obtain ⟨hproj, hlevel₁⟩ := searchResult_eq_some hsr₁
  obtain ⟨id, hid, hl₁, hcl₁, hed₁⟩ := LocalEngine.exists_of_mem_searchData hd₁ hc₁
  -- with one more value `id` scores at a level at least as close, so it still matches
  have hle := st.rank_classify_entityScores_insert c code value id
  have hl₂ : Scoring.classify (st.entityScores (c.insert code value).engineValue id) ≠ .noMatch :=
    fun h => hl₁ (MatchLevel.eq_noMatch_of_rank_le (h ▸ hle))
  obtain ⟨c₂, hc₂, hcl₂, hed₂⟩ := LocalEngine.exists_mem_searchData hd₂ hid hl₂
  -- and the second search projects the same entity data
  have hent : c₂.entity = c₁.entity := by
    rw [hed₁] at hed₂
    exact (Except.ok.inj hed₂).symm
  obtain ⟨r₂, hsr₂, hent₂, hlevel₂⟩ := searchResult_nil (hcl₂ ▸ hl₂) (hent ▸ hproj)
  refine ⟨r₂, mem_of_filterMapM_eq_ok hres₂ c₂ hc₂ hsr₂, hent₂, ?_⟩
  rw [hlevel₂, hcl₂, hlevel₁, hcl₁]
  exact hle

/-- A record of a person with a name and a telephone number. -/
def annRecord : RecordDocument :=
  { dataSource := "A", recordId := "1", features := [("NAME", ["Ann Lee"]), ("PHONE", ["555 0100"])] }

/-- One person with a name and a telephone number, both feature types of the configuration. -/
def namedPhoneEngine : LocalEngine where
  repo := { entities := [1], records := [⟨1, annRecord⟩] }
  configId := 0
  settings := ⟨.null, ["A"], [("NAME", "NAME"), ("PHONE", "PHONE")], []⟩

/-- Criteria searching one name. -/
def annCriteria : SearchCriteria := ⟨[("NAME", ["Ann Lee"])]⟩

/-- Searched by name, the person matches on the name only; with the telephone number added under
an attribute written in lower case, the same person resolves. -/
theorem annSearch_resolves_with_phone :
    ∃ a₁ a₂, (search localEngine annCriteria [] {}).exec namedPhoneEngine = (.ok a₁, namedPhoneEngine) ∧
      (search localEngine (annCriteria.insert "phone" " 555 0100") [] {}).exec namedPhoneEngine =
        (.ok a₂, namedPhoneEngine) ∧
      a₁.data.results.map (·.level) = [.nameOnly] ∧ a₂.data.results.map (·.level) = [.resolved] ∧
      ∀ r₁ ∈ a₁.data.results, ∃ r₂ ∈ a₂.data.results,
        r₂.entity = r₁.entity ∧ r₂.level.rank ≤ r₁.level.rank := by
  have hl₁ : ((search localEngine annCriteria [] {}).exec namedPhoneEngine).1.toOption.map
      (·.data.results.map (·.level)) = some [.nameOnly] := by decide +kernel
  have hl₂ : ((search localEngine (annCriteria.insert "phone" " 555 0100") [] {}).exec namedPhoneEngine).1.toOption.map
      (·.data.results.map (·.level)) = some [.resolved] := by decide +kernel
  obtain ⟨a₁, h₁, hlev₁⟩ := exists_exec_eq_ok hl₁
  obtain ⟨a₂, h₂, hlev₂⟩ := exists_exec_eq_ok hl₂
  rw [(exec_search_local h₁).1] at h₁
  rw [(exec_search_local h₂).1] at h₂
  exact ⟨a₁, a₂, h₁, h₂, hlev₁, hlev₂, search_insert_loses_no_candidate h₁ h₂⟩

end Service

end EntityGateway
