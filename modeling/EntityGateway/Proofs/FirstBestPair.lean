import EntityGateway.Proofs.WiderSearch

/-!
# The first best pair

`scoreFeatures` scores, for each feature type both sides give values of, every inbound value
against every candidate value, inbound values outermost, and keeps a new pair only when it scores
strictly higher than the pair kept so far. The pair it reports is therefore the first pair with
the highest score, and a type without pairs gets no score at all.

* `firstBest`: the highest score of a list and the first element scoring it, said through
  `List.max?` and `List.find?`, with `firstBest_concat_of_lt` and `firstBest_concat_of_le` for
  one more element;
* `keepBest_firstBest`: one more comparison of `keepBest` keeps the first best pair of the pairs
  compared, so `bestPair_eq_firstBest`: the best pair of a feature type is the first best of all
  its pairs (`pairsOf`);
* `mem_scoreFeatures_iff`: a feature type is scored exactly when its values have a first best
  pair against the candidate's values, with one score read from that pair;
* `scoreFeatures_firstBest`: over an ordered map of inbound values, the scores are a map with an
  entry for exactly the types with values on both sides, each entry the one score
  of the first best pair, its bucket, and for names the score again as a full-name or an
  organization-name score, as the inbound value is a person's or an organization's name.
-/

namespace EntityGateway

namespace Scoring

/-! ## The first best element of a list -/

section FirstBest

variable {α : Type} (score : α → Int)

/-- The highest score of a list and the first element scoring it; none for the empty list. -/
def firstBest (xs : List α) : Option (Int × α) :=
  (xs.map score).max?.bind fun m => (xs.find? fun x => score x = m).map (m, ·)

@[simp] theorem firstBest_nil : firstBest score [] = none := rfl

theorem firstBest_singleton (x : α) : firstBest score [x] = some (score x, x) := by
  simp [firstBest]

theorem firstBest_eq_some_iff {xs : List α} {m : Int} {x : α} :
    firstBest score xs = some (m, x) ↔
      (xs.map score).max? = some m ∧ (xs.find? fun y => score y = m) = some x := by
  unfold firstBest
  cases (xs.map score).max? with
  | none => simp
  | some m' =>
    simp only [Option.bind_some, Option.map_eq_some_iff, Prod.mk.injEq, Option.some.injEq]
    constructor
    · rintro ⟨y, hy, rfl, rfl⟩
      exact ⟨rfl, hy⟩
    · rintro ⟨rfl, hx⟩
      exact ⟨x, hx, rfl, rfl⟩

theorem firstBest_eq_none_iff {xs : List α} : firstBest score xs = none ↔ xs = [] := by
  constructor
  · intro h
    cases xs with
    | nil => rfl
    | cons x xs =>
      -- a list with elements has a highest score, and some element scores it
      obtain ⟨m, hm⟩ := Option.isSome_iff_exists.1
        (List.isSome_max?_of_mem (List.mem_map_of_mem (f := score) (List.mem_cons_self (a := x) (l := xs))))
      obtain ⟨y, hy, hym⟩ := List.mem_map.1 (List.max?_mem hm)
      obtain ⟨z, hz⟩ := Option.isSome_iff_exists.1
        ((List.find?_isSome (p := fun x => decide (score x = m))).2 ⟨y, hy, decide_eq_true hym⟩)
      rw [← Option.not_isSome_iff_eq_none, Option.isSome_iff_exists] at h
      exact absurd ⟨(m, z), (firstBest_eq_some_iff score).2 ⟨hm, hz⟩⟩ h
  · rintro rfl
    rfl

theorem ne_nil_of_firstBest_eq_some {xs : List α} {b : Int × α} (h : firstBest score xs = some b) : xs ≠ [] :=
  fun hnil => by
    rw [(firstBest_eq_none_iff score).2 hnil] at h
    cases h

/-- The first best of a list gains an element scoring strictly higher than all before. -/
theorem firstBest_concat_of_lt {xs : List α} {m : Int} {x y : α} (h : firstBest score xs = some (m, x))
    (hlt : m < score y) : firstBest score (xs ++ [y]) = some (score y, y) := by
  obtain ⟨hm, -⟩ := (firstBest_eq_some_iff score).1 h
  -- every element before scores at most `m`, below the new one
  have hnone : (xs.find? fun z => score z = score y) = none := by
    refine List.find?_eq_none.2 fun z hz hzy => ?_
    have hle := (List.max?_eq_some_iff.1 hm).2 (score z) (List.mem_map_of_mem hz)
    rw [of_decide_eq_true hzy] at hle
    omega
  rw [firstBest_eq_some_iff, List.map_append, List.map_singleton, max?_concat, hm,
    List.find?_append, hnone, Option.none_or]
  simp [max_eq_right hlt.le]

/-- An element scoring no higher than the best before leaves the first best as it was. -/
theorem firstBest_concat_of_le {xs : List α} {m : Int} {x y : α} (h : firstBest score xs = some (m, x))
    (hle : score y ≤ m) : firstBest score (xs ++ [y]) = some (m, x) := by
  obtain ⟨hm, hx⟩ := (firstBest_eq_some_iff score).1 h
  rw [firstBest_eq_some_iff, List.map_append, List.map_singleton, max?_concat, hm,
    List.find?_append, hx, Option.some_or]
  simp [max_eq_left hle]

end FirstBest

/-! ## Best pairs -/

/-- The pairs of inbound and candidate values, inbound values outermost. -/
def pairsOf (inbound : List InboundValue) (candidates : List String) : List (InboundValue × String) :=
  inbound.flatMap fun i => candidates.map (i, ·)

theorem pairsOf_eq_nil_iff {I : List InboundValue} {C : List String} :
    pairsOf I C = [] ↔ I = [] ∨ C = [] := by
  cases I with
  | nil => simp [pairsOf]
  | cons i I => simp +contextual [pairsOf]

/-- The similarity of the two values of a pair under a feature type. -/
def pairSimilarity (featureType : String) (p : InboundValue × String) : Int :=
  similarity featureType p.1.value p.2

/-- Comparing one more pair keeps the first best of the pairs compared. -/
theorem keepBest_firstBest (featureType : String) (ps : List (InboundValue × String))
    (p : InboundValue × String) :
    keepBest featureType p.1 (firstBest (pairSimilarity featureType) ps) p.2 =
      firstBest (pairSimilarity featureType) (ps ++ [p]) := by
  cases hb : firstBest (pairSimilarity featureType) ps with
  | none =>
    obtain rfl := (firstBest_eq_none_iff _).1 hb
    rw [List.nil_append, firstBest_singleton]
    rfl
  | some b =>
    obtain ⟨m, x⟩ := b
    by_cases hlt : m < pairSimilarity featureType p
    · rw [firstBest_concat_of_lt _ hb hlt]
      simp only [keepBest, pairSimilarity] at hlt ⊢
      rw [if_pos hlt]
    · rw [firstBest_concat_of_le _ hb (not_lt.1 hlt)]
      simp only [keepBest, pairSimilarity] at hlt ⊢
      rw [if_neg hlt]

/-- **The best pair is the first best pair.** The pair `bestPair` reports is the first pair of
inbound and candidate values, inbound values outermost, with the highest similarity, and none
when there are no pairs. -/
theorem bestPair_eq_firstBest (featureType : String) (I : List InboundValue) (C : List String) :
    bestPair featureType I C = firstBest (pairSimilarity featureType) (pairsOf I C) := by
  -- the comparisons of one inbound value go on from the pairs before it
  have hinner : ∀ (i : InboundValue) (C : List String) (ps : List (InboundValue × String)),
      C.foldl (keepBest featureType i) (firstBest (pairSimilarity featureType) ps) =
        firstBest (pairSimilarity featureType) (ps ++ C.map (i, ·)) := by
    intro i C
    induction C with
    | nil => simp
    | cons c C ih =>
      intro ps
      rw [List.foldl_cons, keepBest_firstBest featureType ps (i, c), ih]
      simp
  have houter : ∀ (I : List InboundValue) (ps : List (InboundValue × String)),
      I.foldl (fun best i => C.foldl (keepBest featureType i) best) (firstBest (pairSimilarity featureType) ps) =
        firstBest (pairSimilarity featureType) (ps ++ pairsOf I C) := by
    intro I
    induction I with
    | nil => simp [pairsOf]
    | cons i I ih =>
      intro ps
      rw [List.foldl_cons, hinner, ih]
      simp [pairsOf]
  simpa [bestPair] using houter I []

/-! ## Scores of feature types -/

/-- A feature type is scored exactly when its inbound values have a first best pair against the
candidate values, the one score of the type read from that pair. -/
theorem mem_scoreFeatures_iff {I : AscendingMap String (List InboundValue)} {M : List (String × List String)}
    {t : String} {ss : List FeatureScore} :
    (t, ss) ∈ scoreFeatures I M ↔
      ∃ vs cs m i c, (t, vs) ∈ I.toList ∧ M.lookup t = some cs ∧
        firstBest (pairSimilarity t) (pairsOf vs cs) = some (m, i, c) ∧
        ss = [{ inbound := i.value, candidate := c, score := m, bucket := bucketOf m,
                fullNameScore := if t = nameType ∧ i.organization = false then some m else none,
                orgNameScore := if t = nameType ∧ i.organization = true then some m else none }] := by
  constructor
  · intro h
    obtain ⟨⟨t', vs⟩, hmem, hf⟩ := List.mem_filterMap.1 h
    dsimp only at hf
    split at hf
    · rename_i cs c cs' hcs
      obtain ⟨⟨m, i, c'⟩, hp, heq⟩ := Option.map_eq_some_iff.1 hf
      obtain ⟨rfl, rfl⟩ := Prod.mk.inj heq
      rw [bestPair_eq_firstBest] at hp
      refine ⟨vs, c :: cs', m, i, c', hmem, hcs, hp, ?_⟩
      simp only [nameType, List.cons.injEq, FeatureScore.mk.injEq, Bool.and_eq_true, beq_iff_eq,
        Bool.not_eq_true', true_and, and_true]
      exact ⟨if_congr Iff.rfl rfl rfl, if_congr Iff.rfl rfl rfl⟩
    · cases hf
  · rintro ⟨vs, cs, m, i, c, hmem, hcs, hp, rfl⟩
    -- a first best pair means there are candidate values
    have hne : cs ≠ [] := fun hnil => ne_nil_of_firstBest_eq_some _ hp (pairsOf_eq_nil_iff.2 (.inr hnil))
    obtain ⟨c₀, cs', rfl⟩ := List.exists_cons_of_ne_nil hne
    refine List.mem_filterMap.2 ⟨(t, vs), hmem, ?_⟩
    simp only [hcs, bestPair_eq_firstBest, hp, Option.map_some, nameType, Option.some.injEq,
      Prod.mk.injEq, List.cons.injEq, FeatureScore.mk.injEq, Bool.and_eq_true, beq_iff_eq,
      Bool.not_eq_true', true_and, and_true]
    exact ⟨if_congr Iff.rfl rfl rfl, if_congr Iff.rfl rfl rfl⟩

/-- **Each feature type scores its first best pair.** The scores of an ordered map of inbound
values are again kept by feature type in ascending order, with an entry for exactly the types
that both sides give values of. Each entry is one score: the highest similarity over
the pairs of inbound and candidate values, the two values of the first pair, inbound values
outermost, that scores it, the bucket of the score, and for names the score again as a full-name
score when the inbound value is a person's name and as an organization-name score when it is an
organization's. -/
theorem scoreFeatures_firstBest (I : AscendingMap String (List InboundValue))
    (M : List (String × List String)) :
    KeysAscend (scoreFeatures I M) ∧
      ∀ t, ((scoreFeatures I M).lookup t ≠ none ↔
          (∃ vs, I.toList.lookup t = some vs ∧ vs ≠ []) ∧ ∃ cs, M.lookup t = some cs ∧ cs ≠ []) ∧
        ∀ ss, (scoreFeatures I M).lookup t = some ss →
          ∃ vs cs m i c, I.toList.lookup t = some vs ∧ M.lookup t = some cs ∧
            ((pairsOf vs cs).map (pairSimilarity t)).max? = some m ∧
            ((pairsOf vs cs).find? fun p => pairSimilarity t p = m) = some (i, c) ∧
            ss = [{ inbound := i.value, candidate := c, score := m, bucket := bucketOf m,
                    fullNameScore := if t = nameType ∧ i.organization = false then some m else none,
                    orgNameScore := if t = nameType ∧ i.organization = true then some m else none }] := by
  have hS := keysAscend_scoreFeatures I M
  -- the entry of a type is its member of the scores, and its values its member of `I`
  have hentry : ∀ t ss, (scoreFeatures I M).lookup t = some ss ↔
      ∃ vs cs m i c, I.toList.lookup t = some vs ∧ M.lookup t = some cs ∧
        firstBest (pairSimilarity t) (pairsOf vs cs) = some (m, i, c) ∧
        ss = [{ inbound := i.value, candidate := c, score := m, bucket := bucketOf m,
                fullNameScore := if t = nameType ∧ i.organization = false then some m else none,
                orgNameScore := if t = nameType ∧ i.organization = true then some m else none }] := by
    intro t ss
    simp only [lookup_eq_some_iff hS, mem_scoreFeatures_iff, lookup_eq_some_iff I.ascending]
  refine ⟨hS, fun t => ⟨⟨fun h => ?_, fun h => ?_⟩, fun ss h => ?_⟩⟩
  · obtain ⟨ss, hss⟩ := Option.ne_none_iff_exists'.1 h
    obtain ⟨vs, cs, m, i, c, hvs, hcs, hp, -⟩ := (hentry t ss).1 hss
    -- a first best pair needs pairs, so values on both sides
    have hpairs : pairsOf vs cs ≠ [] := ne_nil_of_firstBest_eq_some _ hp
    rw [Ne, pairsOf_eq_nil_iff, not_or] at hpairs
    exact ⟨⟨vs, hvs, hpairs.1⟩, cs, hcs, hpairs.2⟩
  · obtain ⟨⟨vs, hvs, hvs'⟩, cs, hcs, hcs'⟩ := h
    have hpairs : pairsOf vs cs ≠ [] := fun hnil => (pairsOf_eq_nil_iff.1 hnil).elim hvs' hcs'
    obtain ⟨⟨m, i, c⟩, hp⟩ := Option.ne_none_iff_exists'.1 (mt (firstBest_eq_none_iff _).1 hpairs)
    rw [Ne, ← Option.not_isSome_iff_eq_none, not_not, Option.isSome_iff_exists]
    exact ⟨_, (hentry t _).2 ⟨vs, cs, m, i, c, hvs, hcs, hp, rfl⟩⟩
  · obtain ⟨vs, cs, m, i, c, hvs, hcs, hp, rfl⟩ := (hentry t ss).1 h
    obtain ⟨hm, hfind⟩ := (firstBest_eq_some_iff _).1 hp
    exact ⟨vs, cs, m, i, c, hvs, hcs, hm, hfind, rfl⟩

end Scoring

end EntityGateway
