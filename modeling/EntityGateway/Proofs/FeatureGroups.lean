import EntityGateway.Engine.Local.Entity
import EntityGateway.Proofs.Ascending
import EntityGateway.Proofs.Distinct

/-!
# Merged features group values by normal form

`LocalEngine.mergeFeatures` folds the feature values of an entity's records into features. For
each feature type the records state, the features are the groups of its values by normal form
(`groupsOf`): one group per normal form, in the order its first value comes, holding the
distinct values of that form in the order they come, the first of them the feature's primary
value. With internal features, a name, address or phone type also gives key features, one per
group, valued at the group's normal form.

Both kinds of features are written into one map keyed by type. The key type of a type sorts after
it (`keyType_lt`), and the types are merged in ascending order, so a record type that is itself a
key type, such as `NAME_KEY`, is merged after the key features of its base type and replaces
them: the key features hold one feature per group, valued at its normal form, only when the
records do not state the key type (`ownKeyType_replaces_keys`).

* `foldl_addToGroups`: adding values one at a time to the groups of the values before them gives
  the groups of all of them;
* `lookup_valueGroups`: the value groups of a type are the groups of its values over the
  records;
* `lookup_foldl_set`: in a map written entry by entry the last write to a key wins;
* `mergeFeatures_groups`: the features of every stated type are built from the groups of its
  values, and the key features of a base type from its groups when the key type is not stated.
-/

namespace EntityGateway

namespace LocalEngine

/-! ## Groups of values -/

/-- The feature entries of the records, record by record. -/
def featureEntries (records : List RecordDocument) : List (String × List String) :=
  records.flatMap (·.features)

/-- The feature types the records state. -/
def featureTypes (records : List RecordDocument) : List String :=
  (featureEntries records).map Prod.fst

/-- The values of type `t` the records state, in order. -/
def valuesOf (t : String) (records : List RecordDocument) : List String :=
  (featureEntries records).flatMap fun e => if e.1 = t then e.2 else []

/-- Values grouped by a normal form: each normal form once, in the order of its first value,
with the distinct values of that form in the order they come. -/
def groupsOf (key : String → String) (vs : List String) : List ValueGroup :=
  (vs.map key).eraseDups.map fun n => (n, (vs.filter fun v => key v = n).eraseDups)

theorem eraseDups_append_singleton {α : Type} [BEq α] [LawfulBEq α] (l : List α) (x : α) :
    (l ++ [x]).eraseDups = if x ∈ l then l.eraseDups else l.eraseDups ++ [x] := by
  rw [← List.nil_append (l ++ [x]), ← appendDistinct_eq_eraseDups List.nodup_nil, appendDistinct_append,
    appendDistinct_eq_eraseDups List.nodup_nil, List.nil_append, appendDistinct_cons, appendDistinct_nil]
  simp only [List.mem_eraseDups]

/-- The groups of values followed by one more value, by whether its normal form is new. -/
theorem groupsOf_append_singleton (key : String → String) (vs : List String) (v : String) :
    groupsOf key (vs ++ [v]) =
      if key v ∈ vs.map key then
        (vs.map key).eraseDups.map fun n =>
          (n, if key v = n then ((vs.filter fun w => key w = n) ++ [v]).eraseDups
            else (vs.filter fun w => key w = n).eraseDups)
      else groupsOf key vs ++ [(key v, [v])] := by
  unfold groupsOf
  rw [List.map_append, List.map_singleton, eraseDups_append_singleton]
  split_ifs with hn
  · refine List.map_congr_left fun n _ => ?_
    by_cases hvn : key v = n <;> simp [hvn]
  · -- no value before has the new form, and the value has none of the old ones
    have hnone : (vs.filter fun w => key w = key v) = [] :=
      List.filter_eq_nil_iff.2 fun w hw hkw => hn (List.mem_map.2 ⟨w, hw, by simpa using hkw⟩)
    rw [List.map_append, List.map_singleton]
    refine congrArg₂ (· ++ ·) (List.map_congr_left fun n hn' => ?_)
      (by simp [hnone, eraseDups_of_nodup (List.nodup_singleton v)])
    have hne : key v ≠ n := fun h => hn (h ▸ List.mem_eraseDups.1 hn')
    simp [hne]

/-- Adding a value to the groups of the values before it gives the groups of all of them: a new
normal form opens a group at the end, a known one takes the value unless it holds it. -/
theorem addToGroups_groupsOf (t : String) (vs : List String) (v : String) :
    addToGroups t (groupsOf (Scoring.normalize t) vs) v = groupsOf (Scoring.normalize t) (vs ++ [v]) := by
  have hany : ((groupsOf (Scoring.normalize t) vs).any fun g => decide (g.1 = Scoring.normalize t v)) = true ↔
      Scoring.normalize t v ∈ vs.map (Scoring.normalize t) := by
    simp only [groupsOf, List.any_map, List.any_eq_true, Function.comp_apply, decide_eq_true_eq,
      List.mem_eraseDups, exists_eq_right]
  rw [groupsOf_append_singleton]
  simp only [addToGroups]
  split_ifs with h₁ h₂ h₂
  · -- the value joins the group of its form unless the group holds it
    rw [groupsOf, List.map_map]
    refine List.map_congr_left fun n _ => ?_
    by_cases hvn : Scoring.normalize t v = n
    · subst hvn
      by_cases hv : v ∈ vs <;> simp [hv, eraseDups_append_singleton, List.mem_eraseDups]
    · simp [hvn, Ne.symm hvn]
  · exact absurd (hany.1 h₁) h₂
  · exact absurd (hany.2 h₂) h₁
  · rfl

theorem foldl_addToGroups (t : String) :
    ∀ (ws vs : List String), ws.foldl (addToGroups t) (groupsOf (Scoring.normalize t) vs) =
      groupsOf (Scoring.normalize t) (vs ++ ws)
  | [], vs => by simp
  | w :: ws, vs => by
    rw [List.foldl_cons, addToGroups_groupsOf, foldl_addToGroups t ws, List.append_assoc, List.singleton_append]

/-! ## The value groups of each type -/

/-- One step of grouping: the values of an entry join the groups of its type. -/
theorem lookup_foldl_groups (t : String) :
    ∀ (es : List (String × List String)) {acc : List (String × List ValueGroup)}, KeysAscend acc →
      (es.foldl (fun acc e => updateAscending e.1 [] (fun groups => e.2.foldl (addToGroups e.1) groups) acc)
          acc).lookup t =
        if t ∈ es.map Prod.fst then
          some ((es.flatMap fun e => if e.1 = t then e.2 else []).foldl (addToGroups t) ((acc.lookup t).getD []))
        else acc.lookup t
  | [], _, _ => by simp
  | (t', vs) :: es, acc, hacc => by
    rw [List.foldl_cons, lookup_foldl_groups t es (keysAscend_updateAscending _ _ _ hacc)]
    by_cases ht : t = t'
    · -- the entry's values come first among the values of its type
      subst ht
      rw [lookup_updateAscending_self _ _ _ hacc]
      by_cases hes : t ∈ es.map Prod.fst
      · simp [hes, List.foldl_append]
      · have hnil : (es.flatMap fun e => if e.1 = t then e.2 else []) = [] :=
          List.flatMap_eq_nil_iff.2 fun e he => if_neg fun (h : e.1 = t) => hes (h ▸ List.mem_map_of_mem he)
        simp [hes, hnil]
    · rw [lookup_updateAscending_of_ne _ _ ht]
      have hmem : t ∈ ((t', vs) :: es).map Prod.fst ↔ t ∈ es.map Prod.fst := by simp [ht]
      by_cases hes : t ∈ es.map Prod.fst
      · rw [if_pos hes, if_pos (hmem.2 hes)]
        simp [Ne.symm ht]
      · rw [if_neg hes, if_neg (mt hmem.1 hes)]

theorem keysAscend_valueGroups (records : List RecordDocument) : KeysAscend (valueGroups records) := by
  unfold valueGroups
  refine List.foldlRecOn (motive := KeysAscend) _ _ keysAscend_nil fun acc hacc r _ => ?_
  exact List.foldlRecOn (motive := KeysAscend) _ _ hacc fun acc' h' _ _ => keysAscend_updateAscending _ _ _ h'

/-- The value groups of a type are the groups of its values over the records, and a type the
records do not state has none. -/
theorem lookup_valueGroups (records : List RecordDocument) (t : String) :
    (valueGroups records).lookup t =
      if t ∈ featureTypes records then some (groupsOf (Scoring.normalize t) (valuesOf t records)) else none := by
  have hfold : valueGroups records =
      (featureEntries records).foldl
        (fun acc e => updateAscending e.1 [] (fun groups => e.2.foldl (addToGroups e.1) groups) acc) [] := by
    rw [featureEntries, List.foldl_flatMap]
    rfl
  rw [hfold, lookup_foldl_groups t _ keysAscend_nil]
  have hstart : (([] : List (String × List ValueGroup)).lookup t).getD [] = groupsOf (Scoring.normalize t) [] := rfl
  rw [hstart, foldl_addToGroups, List.nil_append]
  rfl

/-! ## Maps written entry by entry -/

/-- The last write to a key wins; a key written by none keeps its value. -/
theorem lookup_foldl_set {γ : Type} (x : String) :
    ∀ (ws : List (String × List γ)) (acc : List (String × List γ)),
      (ws.foldl (fun acc w => updateAscending w.1 [] (fun _ => w.2) acc) acc).lookup x =
        (ws.reverse.lookup x).or (acc.lookup x)
  | [], acc => by simp
  | (k, v) :: ws, acc => by
    rw [List.foldl_cons, lookup_foldl_set x ws, List.reverse_cons, List.lookup_append, Option.or_assoc]
    congr 1
    by_cases hx : x = k
    · subst hx
      simp [lookup_updateAscending_const]
    · simp [List.lookup_cons, beq_eq_false_iff_ne.2 hx, lookup_updateAscending_of_ne _ _ hx]

theorem lookup_eq_none_of_forall {γ : Type} {x : String} {l : List (String × γ)} (h : ∀ p ∈ l, p.1 ≠ x) :
    l.lookup x = none :=
  List.lookup_eq_none_iff.2 fun p hp => bne_iff_ne.2 (h p hp).symm

/-- The last write to `x` in a list that ends with a write to `x` and then writes elsewhere. -/
theorem lookup_reverse_of_last {γ : Type} {x : String} {v : γ} (before after : List (String × γ))
    (hafter : ∀ p ∈ after, p.1 ≠ x) : (before ++ (x, v) :: after).reverse.lookup x = some v := by
  rw [List.reverse_append, List.reverse_cons, List.append_assoc, List.lookup_append,
    lookup_eq_none_of_forall fun p hp => hafter p (List.mem_reverse.1 hp), Option.none_or]
  simp

/-! ## Key types -/

/-- A key type sorts after its base type, so the base type is merged first. -/
theorem keyType_lt {t k : String} (h : keyType t = some k) : t < k := by
  unfold keyType at h
  split at h <;> cases h <;> decide +kernel

theorem keyType_injective {t t' k : String} (h : keyType t = some k) (h' : keyType t' = some k) : t = t' := by
  unfold keyType at h h'
  split at h <;> split at h' <;> cases h <;> first | rfl | simp at h'

/-! ## Merged features -/

/-- What merging writes for the value groups of one type: the type's features, then, with
internal features, the key features of its key type. -/
def featureWrites (withInternal : Bool) (counts : Option FeatureCounts) (e : String × List ValueGroup) :
    List (String × List Feature) :=
  (e.1, e.2.map fun g => buildFeature e.1 e.1 g.1 g.2 counts) ::
    if withInternal then ((keyType e.1).map fun k => (k, e.2.map fun g => buildFeature k e.1 g.1 [g.1] counts)).toList
    else []

theorem mergeFeatures_eq (records : List RecordDocument) (withInternal : Bool) (counts : Option FeatureCounts) :
    mergeFeatures records withInternal counts =
      ((valueGroups records).flatMap (featureWrites withInternal counts)).foldl
        (fun acc w => updateAscending w.1 [] (fun _ => w.2) acc) [] := by
  rw [mergeFeatures, List.foldl_flatMap]
  congr 1
  funext acc e
  obtain ⟨t, groups⟩ := e
  cases withInternal <;> cases hk : keyType t <;> simp [featureWrites, hk]

/-- A key feature list is written to the key type of the type whose groups it comes from. -/
theorem keyType_of_mem_keyWrites {withInternal : Bool} {counts : Option FeatureCounts}
    {e : String × List ValueGroup} {p : String × List Feature}
    (hp : p ∈ if withInternal then
      ((keyType e.1).map fun k => (k, e.2.map fun g => buildFeature k e.1 g.1 [g.1] counts)).toList else []) :
    keyType e.1 = some p.1 := by
  split at hp
  · cases hk : keyType e.1 with
    | none => simp [hk] at hp
    | some k =>
      simp only [hk, Option.map_some, Option.toList_some, List.mem_singleton] at hp
      rw [hp]
  · cases hp

/-- Every write of a type's groups is to the type or to its key type. -/
theorem featureWrites_key {withInternal : Bool} {counts : Option FeatureCounts} {e : String × List ValueGroup}
    {p : String × List Feature} (hp : p ∈ featureWrites withInternal counts e) :
    p.1 = e.1 ∨ keyType e.1 = some p.1 := by
  rw [featureWrites, List.mem_cons] at hp
  rcases hp with rfl | hp
  · exact .inl rfl
  · exact .inr (keyType_of_mem_keyWrites hp)

/-- **Merged features group the values by normal form.** For every feature type the records
state, the merged features are built, in order, from the groups of its values by normal form:
one per normal form, in the order of its first value, holding the distinct values of that form in
order, the first one primary. With internal features, a type with a key type that the records do
not state themselves gets key features, one per group, valued at the group's normal form. -/
theorem mergeFeatures_groups (records : List RecordDocument) (withInternal : Bool)
    (counts : Option FeatureCounts) {t : String} (ht : t ∈ featureTypes records) :
    (mergeFeatures records withInternal counts).lookup t =
        some ((groupsOf (Scoring.normalize t) (valuesOf t records)).map fun g => buildFeature t t g.1 g.2 counts) ∧
      ∀ k, withInternal = true → keyType t = some k → k ∉ featureTypes records →
        (mergeFeatures records withInternal counts).lookup k =
          some ((groupsOf (Scoring.normalize t) (valuesOf t records)).map fun g => buildFeature k t g.1 [g.1] counts) := by
  set gs := groupsOf (Scoring.normalize t) (valuesOf t records)
  have hvg := keysAscend_valueGroups records
  have hmem : (t, gs) ∈ valueGroups records :=
    (lookup_eq_some_iff hvg).1 (by rw [lookup_valueGroups, if_pos ht])
  obtain ⟨pre, post, hsplit⟩ := List.append_of_mem hmem
  -- the types merged after `t` are above it
  have hpost : ∀ e ∈ post, t < e.1 := by
    have h := hvg
    rw [KeysAscend, hsplit, List.map_append, List.map_cons, List.pairwise_append, List.pairwise_cons] at h
    exact fun e he => h.2.1.1 e.1 (List.mem_map_of_mem he)
  have hstated : ∀ e ∈ post, e.1 ∈ featureTypes records := by
    intro e he
    have h : (valueGroups records).lookup e.1 = some e.2 :=
      (lookup_eq_some_iff hvg).2 (hsplit ▸ List.mem_append_right _ (List.mem_cons_of_mem _ he))
    rw [lookup_valueGroups] at h
    by_contra hnot
    rw [if_neg hnot] at h
    cases h
  have hlookup : ∀ x, (mergeFeatures records withInternal counts).lookup x =
      ((pre.flatMap (featureWrites withInternal counts) ++ featureWrites withInternal counts (t, gs) ++
        post.flatMap (featureWrites withInternal counts)).reverse.lookup x) := by
    intro x
    rw [mergeFeatures_eq, lookup_foldl_set, hsplit, List.flatMap_append, List.flatMap_cons, List.append_assoc]
    simp
  refine ⟨?_, fun k hwi hk hks => ?_⟩
  · -- `t` is written by its own entry, first there, and by nothing after
    rw [hlookup, featureWrites, List.append_assoc, List.cons_append]
    refine lookup_reverse_of_last _ _ fun p hp hpt => ?_
    rcases List.mem_append.1 hp with hp | hp
    · -- a key feature list of `t` goes to its key type, above `t`
      exact (keyType_lt (keyType_of_mem_keyWrites hp)).ne hpt.symm
    · obtain ⟨e, he, hpe⟩ := List.mem_flatMap.1 hp
      rcases featureWrites_key hpe with h | h
      · exact (hpost e he).ne' (h.symm.trans hpt)
      · exact lt_asymm (hpost e he) (hpt ▸ keyType_lt h)
  · -- `k` is written by the entry of `t` last there, and by no other type
    have hwrites : featureWrites withInternal counts (t, gs) =
        [(t, gs.map fun g => buildFeature t t g.1 g.2 counts), (k, gs.map fun g => buildFeature k t g.1 [g.1] counts)] := by
      simp [featureWrites, hwi, hk]
    have hshape : ∀ (A B : List (String × List Feature)) (a b : String × List Feature),
        A ++ [a, b] ++ B = (A ++ [a]) ++ b :: B := by simp
    rw [hlookup, hwrites, hshape]
    refine lookup_reverse_of_last _ _ fun p hp hpk => ?_
    obtain ⟨e, he, hpe⟩ := List.mem_flatMap.1 hp
    rcases featureWrites_key hpe with h | h
    · exact hks (hpk ▸ h ▸ hstated e he)
    · exact (hpost e he).ne (keyType_injective hk (hpk ▸ h))

/-- Two records with names, one written twice in two cases. -/
def nameRecords : List RecordDocument :=
  [{ dataSource := "A", recordId := "1", features := [("NAME", ["Alice", "ALICE"])] },
   { dataSource := "A", recordId := "2", features := [("NAME", ["Bob"])] }]

/-- The names group into `alice` and `bob`; with internal features each group gives a key
feature, since the records state no `NAME_KEY`. -/
theorem nameRecords_grouped :
    groupsOf (Scoring.normalize "NAME") (valuesOf "NAME" nameRecords) = [("alice", ["Alice", "ALICE"]), ("bob", ["Bob"])] ∧
      "NAME" ∈ featureTypes nameRecords ∧
      (mergeFeatures nameRecords true none).lookup "NAME" =
        some ((groupsOf (Scoring.normalize "NAME") (valuesOf "NAME" nameRecords)).map
          fun g => buildFeature "NAME" "NAME" g.1 g.2 none) ∧
      keyType "NAME" = some "NAME_KEY" ∧ "NAME_KEY" ∉ featureTypes nameRecords ∧
      (mergeFeatures nameRecords true none).lookup "NAME_KEY" =
        some ((groupsOf (Scoring.normalize "NAME") (valuesOf "NAME" nameRecords)).map
          fun g => buildFeature "NAME_KEY" "NAME" g.1 [g.1] none) :=
  have ht : "NAME" ∈ featureTypes nameRecords := by decide
  have hk : "NAME_KEY" ∉ featureTypes nameRecords := by decide
  ⟨by decide +kernel, ht, (mergeFeatures_groups nameRecords true none ht).1, rfl, hk,
    (mergeFeatures_groups nameRecords true none ht).2 "NAME_KEY" rfl rfl hk⟩

/-- A record that states `NAME_KEY` itself. -/
def ownKeyRecord : List RecordDocument :=
  [{ dataSource := "A", recordId := "1", features := [("NAME", ["Alice"]), ("NAME_KEY", ["zed"])] }]

/-- With internal features, the key features of the names of a record that states `NAME_KEY`
itself are that record's own `NAME_KEY` value, not one feature per group of names. -/
theorem ownKeyType_replaces_keys :
    (mergeFeatures ownKeyRecord true none).lookup "NAME_KEY" ≠
      some ((groupsOf (Scoring.normalize "NAME") (valuesOf "NAME" ownKeyRecord)).map
        fun g => buildFeature "NAME_KEY" "NAME" g.1 [g.1] none) := by
  intro h
  have hown : ((mergeFeatures ownKeyRecord true none).lookup "NAME_KEY").map (List.map Feature.text) =
      some ["zed"] := by decide +kernel
  have hgroups : ((groupsOf (Scoring.normalize "NAME") (valuesOf "NAME" ownKeyRecord)).map
      fun g => buildFeature "NAME_KEY" "NAME" g.1 [g.1] none).map Feature.text = ["alice"] := by decide +kernel
  rw [h, Option.map_some, hgroups] at hown
  simp at hown

end LocalEngine

end EntityGateway
