import Mathlib.Data.List.Sort
import Mathlib.Data.List.Infix
import Mathlib.Data.List.Induction
import EntityGateway.Engine.Local.Why
import EntityGateway.Proofs.Ascending

/-!
# Scores either way round

A comparison scores the values of one side against those of the other. Turned around, it scores
the same pairs the other way, and nothing in a score depends on the way: the edit distance, the
similarity and the best score of a feature type are symmetric, though the pair reported with the
best score is the first one met and may change.

* `levenshtein_comm`: the table of `levenshtein` computes the edit distance read from the last
  characters (`levenshtein_eq_editDistRev`), and the edit distance `editDist` is symmetric;
* `similarity_comm`: so is the similarity of two values;
* `score_bestPair`: the score of the best pair is the highest score over all pairs;
* `unpaired_scoreFeatures_comm`: over feature values listed in ascending type order, scoring one
  side against the other gives the feature types, in the same order, with the same scores and
  buckets, as the other way round (`unpaired` forgets the two values compared).
-/

namespace EntityGateway

/-! ## Pairs of two lists -/

theorem filterMap_cons_eq_toList_append {α β : Type} (f : α → Option β) (a : α) (l : List α) :
    (a :: l).filterMap f = (f a).toList ++ l.filterMap f := by
  cases h : f a <;> simp [h]

theorem perm_flatMap_append {β γ : Type} (l : List β) (g h : β → List γ) :
    (l.flatMap fun b => g b ++ h b).Perm (l.flatMap g ++ l.flatMap h) := by
  induction l with
  | nil => simp
  | cons b l ih =>
    simp only [List.flatMap_cons, List.append_assoc]
    exact ((ih.append_left (h b)).trans
      (List.perm_append_comm_assoc (h b) (l.flatMap g) (l.flatMap h))).append_left (g b)

/-- Collecting over the pairs of two lists, the first outermost, gives what is collected with the
second outermost, in another order. -/
theorem perm_flatMap_filterMap_comm {α β γ : Type} (l₁ : List α) (l₂ : List β)
    (f : α → β → Option γ) :
    (l₁.flatMap fun a => l₂.filterMap (f a)).Perm (l₂.flatMap fun b => l₁.filterMap fun a => f a b) := by
  induction l₁ with
  | nil => simp
  | cons a l₁ ih =>
    -- the pairs of `a` come first on the left, and one after each element of `l₂` on the right
    have hspread : (l₂.flatMap fun b => (a :: l₁).filterMap fun a' => f a' b).Perm
        (l₂.filterMap (f a) ++ l₂.flatMap fun b => l₁.filterMap fun a' => f a' b) := by
      simp only [filterMap_cons_eq_toList_append]
      rw [List.filterMap_eq_flatMap_toList]
      exact perm_flatMap_append l₂ _ _
    rw [List.flatMap_cons]
    exact (ih.append_left _).trans hspread.symm

theorem max?_eq_of_perm {l₁ l₂ : List Int} (h : l₁.Perm l₂) : l₁.max? = l₂.max? := by
  cases h₁ : l₁.max? with
  | none =>
    obtain rfl : l₁ = [] := List.max?_eq_none_iff.1 h₁
    rw [← h.nil_eq]
    rfl
  | some a =>
    rw [List.max?_eq_some_iff] at h₁
    symm
    rw [List.max?_eq_some_iff]
    exact ⟨h.mem_iff.1 h₁.1, fun b hb => h₁.2 b (h.mem_iff.2 hb)⟩

theorem max?_concat (L : List Int) (s : Int) :
    (L ++ [s]).max? = some (match L.max? with | some top => max top s | none => s) := by
  cases L with
  | nil => simp
  | cons x L =>
    simp only [List.cons_append, List.max?_cons', List.foldl_append, List.foldl_cons, List.foldl_nil]

namespace Scoring

/-! ## Edit distance -/

/-- The edit distance of two lists, by their first characters: the first character of one side
deleted, one inserted before it, or the two first characters matched, at a cost when they
differ. -/
def editDist : List Char → List Char → Nat
  | [], ys => ys.length
  | _ :: xs, [] => xs.length + 1
  | x :: xs, y :: ys =>
    min (min (editDist xs (y :: ys) + 1) (editDist (x :: xs) ys + 1))
      (editDist xs ys + if x == y then 0 else 1)
termination_by xs ys => xs.length + ys.length

@[simp] theorem editDist_nil_left (ys : List Char) : editDist [] ys = ys.length := by
  rw [editDist]

@[simp] theorem editDist_nil_right (xs : List Char) : editDist xs [] = xs.length := by
  cases xs <;> simp [editDist]

theorem editDist_cons_cons (x : Char) (xs : List Char) (y : Char) (ys : List Char) :
    editDist (x :: xs) (y :: ys) =
      min (min (editDist xs (y :: ys) + 1) (editDist (x :: xs) ys + 1))
        (editDist xs ys + if x == y then 0 else 1) := by
  rw [editDist]

/-- Turning `xs` into `ys` costs what turning `ys` into `xs` does. -/
theorem editDist_comm (xs ys : List Char) : editDist xs ys = editDist ys xs := by
  fun_induction editDist xs ys with
  | case1 ys => simp
  | case2 x xs => simp
  | case3 x xs y ys ih₁ ih₂ ih₃ =>
    -- a deletion on one side is an insertion on the other
    have hcost : (if x == y then 0 else 1) = (if y == x then 0 else 1) := by
      by_cases h : x = y
      · subst h
        rfl
      · simp [h, Ne.symm h]
    rw [editDist_cons_cons y ys x xs, ih₁, ih₂, ih₃, hcost, Nat.min_comm (editDist (y :: ys) xs + 1)]

/-- The edit distance read from the last characters. -/
def editDistRev (xs ys : List Char) : Nat := editDist xs.reverse ys.reverse

@[simp] theorem editDistRev_nil_left (ys : List Char) : editDistRev [] ys = ys.length := by
  simp [editDistRev]

@[simp] theorem editDistRev_nil_right (xs : List Char) : editDistRev xs [] = xs.length := by
  simp [editDistRev]

/-- The recurrence of the edit-distance table, on the last characters. -/
theorem editDistRev_concat (xs : List Char) (x : Char) (ys : List Char) (y : Char) :
    editDistRev (xs ++ [x]) (ys ++ [y]) =
      min (min (editDistRev xs (ys ++ [y]) + 1) (editDistRev (xs ++ [x]) ys + 1))
        (editDistRev xs ys + if x == y then 0 else 1) := by
  simp only [editDistRev, List.reverse_append, List.reverse_cons, List.reverse_nil, List.nil_append,
    List.singleton_append]
  rw [editDist_cons_cons]

theorem inits_eq_nil_cons {α : Type} (l : List α) : l.inits = [] :: l.inits.tail := by
  cases l <;> simp

theorem getLast?_inits {α : Type} : ∀ l : List α, l.inits.getLast? = some l
  | [] => rfl
  | d :: l => by
    rw [List.inits_cons, List.getLast?_cons, List.getLast?_map, getLast?_inits l]
    rfl

theorem map_length_inits {α : Type} : ∀ l : List α, l.inits.map List.length = List.range (l.length + 1)
  | [] => rfl
  | d :: l => by
    rw [List.inits_cons, List.map_cons, List.map_map, List.length_cons, List.range_succ_eq_map,
      ← map_length_inits l, List.map_map]
    rfl

/-- A row of the table after the character `c`, from the entry at the prefix `pre` of the second
text on: each entry is the distance of the text read so far to a longer prefix. -/
theorem nextRow_eq (a : List Char) (c : Char) : ∀ ds pre : List Char,
    nextRow c ds (ds.inits.tail.map fun s => editDistRev a (pre ++ s)) (editDistRev (a ++ [c]) pre)
        (editDistRev a pre) =
      ds.inits.tail.map fun s => editDistRev (a ++ [c]) (pre ++ s)
  | [], pre => by simp [nextRow]
  | d :: ds, pre => by
    -- the first entry is the recurrence at `pre ++ [d]`, the rest the row from there
    have hshift : ∀ g : List Char → Nat,
        (ds.inits.tail.map fun s => g (pre ++ d :: s)) = ds.inits.tail.map fun s => g ((pre ++ [d]) ++ s) := by
      intro g
      simp
    rw [List.inits_cons, List.tail_cons, inits_eq_nil_cons ds]
    simp only [List.map_cons, List.map_map, Function.comp_def]
    rw [hshift (editDistRev a), hshift (editDistRev (a ++ [c])), nextRow, ← editDistRev_concat,
      nextRow_eq a c ds (pre ++ [d])]

theorem lastRow_concat (a : List Char) (c : Char) (b : List Char) :
    lastRow (a ++ [c]) b = match lastRow a b with
      | p0 :: ps => (p0 + 1) :: nextRow c b ps (p0 + 1) p0
      | [] => [] := by
  rw [lastRow, List.foldl_append, List.foldl_cons, List.foldl_nil]
  rfl

/-- The table's last row lists the distances of `a` to every prefix of `b`. -/
theorem lastRow_eq (b : List Char) (a : List Char) : lastRow a b = b.inits.map (editDistRev a) := by
  induction a using List.reverseRecOn with
  | nil =>
    rw [show editDistRev [] = List.length from funext editDistRev_nil_left, map_length_inits]
    rfl
  | append_singleton a c ih =>
    rw [lastRow_concat, ih, inits_eq_nil_cons b, List.map_cons, List.map_cons, editDistRev_nil_right,
      editDistRev_nil_right, List.length_append, List.length_singleton]
    have hrow := nextRow_eq a c b []
    simp only [List.nil_append, editDistRev_nil_right, List.length_append, List.length_singleton] at hrow
    simp only [hrow]

/-- The edit-distance table computes the distance read from the last characters. -/
theorem levenshtein_eq_editDistRev (s t : String) : levenshtein s t = editDistRev s.toList t.toList := by
  unfold levenshtein
  dsimp only
  split
  · rename_i hs
    simp [List.isEmpty_iff.1 hs]
  split
  · rename_i _ ht
    simp [List.isEmpty_iff.1 ht]
  rw [lastRow_eq, List.getLastD_eq_getLast?, List.getLast?_map, getLast?_inits]
  rfl

theorem levenshtein_comm (s t : String) : levenshtein s t = levenshtein t s := by
  rw [levenshtein_eq_editDistRev, levenshtein_eq_editDistRev, editDistRev, editDistRev, editDist_comm]

/-- The similarity of two values does not depend on which comes first. -/
theorem similarity_comm (featureType a b : String) :
    similarity featureType a b = similarity featureType b a := by
  unfold similarity
  by_cases h : normalize featureType a = normalize featureType b
  · simp [h]
  · have h' : normalize featureType b ≠ normalize featureType a := Ne.symm h
    simp only [beq_iff_eq, h, h', if_false, max_comm (normalize featureType a).length,
      levenshtein_comm (normalize featureType a)]

/-! ## The best pair -/

theorem keepBest_eq (featureType : String) (i : InboundValue)
    (best : Option (Int × InboundValue × String)) (c : String) :
    keepBest featureType i best c = best ∨
      keepBest featureType i best c = some (similarity featureType i.value c, i, c) := by
  dsimp only [keepBest]
  split
  · split
    · exact .inr rfl
    · exact .inl rfl
  · exact .inr rfl

/-- Comparing one more pair keeps the highest score. -/
theorem score_keepBest {featureType : String} {i : InboundValue}
    {best : Option (Int × InboundValue × String)} {L : List Int} (h : best.map (·.1) = L.max?)
    (c : String) :
    (keepBest featureType i best c).map (·.1) = (L ++ [similarity featureType i.value c]).max? := by
  cases best with
  | none =>
    obtain rfl : L = [] := List.max?_eq_none_iff.1 h.symm
    simp [keepBest]
  | some p =>
    obtain ⟨top, i₀, c₀⟩ := p
    have hmax : L.max? = some top := h.symm
    rw [max?_concat, hmax]
    dsimp only [keepBest]
    split
    · rename_i hgt
      simp [max_eq_right hgt.le]
    · rename_i hle
      simp [max_eq_left (not_lt.1 hle)]

theorem score_foldl_keepBest (featureType : String) (i : InboundValue) :
    ∀ (C : List String) {best : Option (Int × InboundValue × String)} {L : List Int},
      best.map (·.1) = L.max? →
      (C.foldl (keepBest featureType i) best).map (·.1) = (L ++ C.map (similarity featureType i.value)).max?
  | [], _, _, h => by simpa using h
  | c :: C, _, _, h => by
    rw [List.foldl_cons, score_foldl_keepBest featureType i C (score_keepBest h c)]
    simp

/-- The score of the best pair is the highest score over all pairs, none when there are none. -/
theorem score_bestPair (featureType : String) (I : List InboundValue) (C : List String) :
    (bestPair featureType I C).map (·.1) = (I.flatMap fun i => C.map (similarity featureType i.value)).max? := by
  -- the outer fold, from any best pair so far
  have houter : ∀ (I : List InboundValue) {b : Option (Int × InboundValue × String)} {L : List Int},
      b.map (·.1) = L.max? →
      (I.foldl (fun best i => C.foldl (keepBest featureType i) best) b).map (·.1) =
        (L ++ I.flatMap fun i => C.map (similarity featureType i.value)).max? := by
    intro I
    induction I with
    | nil => intro b L h; simpa using h
    | cons i I ih =>
      intro b L h
      rw [List.foldl_cons, ih (score_foldl_keepBest featureType i C h)]
      simp
  simpa [bestPair] using houter I (b := none) (L := []) rfl

/-- The inbound value of the best pair is one of the inbound values. -/
theorem mem_bestPair {featureType : String} {I : List InboundValue} {C : List String}
    {p : Int × InboundValue × String} (h : bestPair featureType I C = some p) : p.2.1 ∈ I := by
  -- every pair kept along the two folds has its inbound value from `I`
  let Kept : Option (Int × InboundValue × String) → Prop := fun best => ∀ q ∈ best, q.2.1 ∈ I
  have hinner : ∀ i ∈ I, ∀ best, Kept best → Kept (C.foldl (keepBest featureType i) best) := by
    intro i hi best hbest
    refine List.foldlRecOn (motive := Kept) C (keepBest featureType i) hbest fun best' hbest' c _ q hq => ?_
    rcases keepBest_eq featureType i best' c with heq | heq <;> rw [heq] at hq
    · exact hbest' q hq
    · cases hq
      exact hi
  have hall : Kept (I.foldl (fun best i => C.foldl (keepBest featureType i) best) none) :=
    List.foldlRecOn (motive := Kept) I _ (by simp [Kept]) fun best hbest i hi => hinner i hi best hbest
  exact hall p h

/-- Values scored against candidates score as high as the candidates scored against the values. -/
theorem score_bestPair_comm (featureType : String) (vs ws : List String) :
    (bestPair featureType (vs.map fun v => { value := v }) ws).map (·.1) =
      (bestPair featureType (ws.map fun w => { value := w }) vs).map (·.1) := by
  rw [score_bestPair, score_bestPair, List.flatMap_map, List.flatMap_map]
  apply max?_eq_of_perm
  have hperm := perm_flatMap_filterMap_comm vs ws fun v w => some (similarity featureType v w)
  have hsome : ∀ (l : List String) (g : String → Int), l.filterMap (fun x => some (g x)) = l.map g :=
    fun l g => congrFun List.filterMap_eq_map l
  have hsym : (fun w => vs.map fun v => similarity featureType v w) = fun w => vs.map (similarity featureType w) :=
    funext fun w => List.map_congr_left fun v _ => similarity_comm featureType v w
  simp only [hsome, hsym] at hperm
  exact hperm

/-! ## Scores of feature types -/

/-- The highest score over the pairs of values and candidates of a feature type, none when there
are no pairs. -/
def pairScore (featureType : String) (vs ws : List String) : Option Int :=
  (bestPair featureType (vs.map fun v => { value := v }) ws).map (·.1)

theorem pairScore_comm (featureType : String) (vs ws : List String) :
    pairScore featureType vs ws = pairScore featureType ws vs :=
  score_bestPair_comm featureType vs ws

@[simp] theorem pairScore_nil_right (featureType : String) (vs : List String) :
    pairScore featureType vs [] = none := by
  simp [pairScore, score_bestPair]

/-- The score of a feature type whose best pair scored `s`, without the values compared. -/
def unpairedScore (featureType : String) (s : Int) : FeatureScore :=
  ⟨"", "", s, bucketOf s, if featureType == nameType then some s else none, none⟩

/-- A score without the two values compared. -/
def withoutValues (f : FeatureScore) : FeatureScore := { f with inbound := "", candidate := "" }

/-- Scores without the values compared. -/
def unpaired (scores : ScoreMap) : ScoreMap := scores.map fun e => (e.1, e.2.map withoutValues)

/-- Without the values compared, the scores of a side's values against candidates are the highest
scores of the feature types both have values of. -/
theorem unpaired_scoreFeatures {A : List (String × List String)} (hA : KeysAscend A)
    (B : List (String × List String)) :
    unpaired (scoreFeatures (LocalEngine.asInbound A hA) B) =
      A.filterMap fun e =>
        ((B.lookup e.1).bind fun ws => (pairScore e.1 e.2 ws).map fun s => [unpairedScore e.1 s]).map
          (Prod.mk e.1) := by
  unfold unpaired scoreFeatures LocalEngine.asInbound
  dsimp only
  rw [List.map_filterMap, List.filterMap_map]
  apply List.filterMap_congr
  rintro ⟨t, vs⟩ -
  cases hB : B.lookup t with
  | none => simp [hB]
  | some ws =>
    cases ws with
    | nil => simp [hB]
    | cons w ws =>
      cases hp : bestPair t (vs.map fun v => { value := v }) (w :: ws) with
      | none => simp [hB, hp, pairScore]
      | some p =>
        obtain ⟨s, i, c⟩ := p
        -- the inbound value is one of the side's values, none of them an organization
        have hi : i.organization = false := by
          obtain ⟨v, -, rfl⟩ := List.mem_map.1 (mem_bestPair hp)
          rfl
        simp [hB, hp, pairScore, unpairedScore, withoutValues, hi]

/-- Scoring one side against the other gives, without the values compared, what scoring the other
side against the first gives, when both list their values in ascending type order. -/
theorem unpaired_scoreFeatures_comm {A B : List (String × List String)} (hA : KeysAscend A)
    (hB : KeysAscend B) :
    unpaired (scoreFeatures (LocalEngine.asInbound A hA) B) =
      unpaired (scoreFeatures (LocalEngine.asInbound B hB) A) := by
  rw [unpaired_scoreFeatures, unpaired_scoreFeatures,
    filterMap_lookup_comm hA hB fun t vs ws => (pairScore t vs ws).map fun s => [unpairedScore t s]]
  simp only [pairScore_comm _ _ (Prod.snd _)]

theorem bestBucket_withoutValues (ss : List FeatureScore) :
    bestBucket (ss.map withoutValues) = bestBucket ss := by
  unfold bestBucket
  rw [List.foldl_map]
  rfl

theorem lookup_unpaired (scores : ScoreMap) (t : String) :
    (unpaired scores).lookup t = (scores.lookup t).map (List.map withoutValues) := by
  induction scores with
  | nil => rfl
  | cons e scores ih =>
    obtain ⟨k, ss⟩ := e
    have hcons : unpaired ((k, ss) :: scores) = (k, ss.map withoutValues) :: unpaired scores := rfl
    rw [hcons, List.lookup_cons, List.lookup_cons]
    by_cases h : t = k
    · subst h
      simp
    · simp [beq_eq_false_iff_ne.2 h, ih]

/-- The level of a comparison reads the buckets of its scores only. -/
theorem classify_unpaired (scores : ScoreMap) : classify (unpaired scores) = classify scores := by
  unfold classify
  rw [lookup_unpaired]
  simp only [unpaired, List.filterMap_map, Option.bind_map, Function.comp_def, bestBucket_withoutValues]

/-- The key of a comparison reads the buckets of its scores only. -/
theorem matchKey_unpaired (scores : ScoreMap) : matchKey (unpaired scores) = matchKey scores := by
  unfold matchKey unpaired
  simp only [List.map_map, Function.comp_def, bestBucket_withoutValues]

theorem classify_eq_of_unpaired {s s' : ScoreMap} (h : unpaired s = unpaired s') :
    classify s = classify s' := by
  rw [← classify_unpaired, h, classify_unpaired]

theorem matchKey_eq_of_unpaired {s s' : ScoreMap} (h : unpaired s = unpaired s') :
    matchKey s = matchKey s' := by
  rw [← matchKey_unpaired, h, matchKey_unpaired]

end Scoring

end EntityGateway
