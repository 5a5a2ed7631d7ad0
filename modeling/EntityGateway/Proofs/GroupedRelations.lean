import EntityGateway.Proofs.FeatureGroups
import EntityGateway.Proofs.MirroredWhy

/-!
# Disclosed relations grouped by domain

`groupRelations` folds the relations disclosed in a match into one view per domain, kept in
ascending domain order: the first relation of a domain opens its view, and each later one
combines its direction into the view's and adds its roles and key unless already listed. The
fold is an update of an ascending association list (`keyed_insertRelation`), so its result is
read through lookups, and each lookup is the view of the domain's relations taken together
(`viewOf`): the direction of their kinds, and their distinct roles and keys, first seen first.

* `ofKinds_concat`: the direction of relations of given kinds, both ways when one is a link or
  there are both a pointer and an anchor, is what combining the directions one relation at a
  time gives;
* `pushDistinct_eraseDups`: adding a value unless listed keeps the distinct values seen, first
  seen first;
* `lookup_groupRelations`: the grouped views are kept in ascending domain order, and the view of
  a domain is `viewOf` its relations;
* `groupRelations_describes`: one view per domain of the relations, in ascending domain order,
  each `DescribesDomain`: both ways when the domain has a link or both a pointer and an anchor,
  out when all its relations are pointers, in when all are anchors, its roles and keys distinct
  and first seen first; and the directions do not depend on the order of the relations.
-/

namespace EntityGateway

/-! ## Directions of kinds -/

namespace RelationDirection

/-- The direction of relations of the given kinds: both ways when one is a link or there are both
a pointer and an anchor, else out for pointers and in for anchors. -/
def ofKinds (ks : List RelationKind) : RelationDirection :=
  if .link ∈ ks ∨ .pointer ∈ ks ∧ .anchor ∈ ks then .bidirectional
  else if .pointer ∈ ks then .outbound else .inbound

theorem ofKinds_singleton (k : RelationKind) : ofKinds [k] = ofKind k := by
  cases k <;> decide

/-- Combining the direction of one more relation gives the direction of all the kinds. -/
theorem ofKinds_concat {ks : List RelationKind} (hks : ks ≠ []) (k : RelationKind) :
    ofKinds (ks ++ [k]) = (ofKinds ks).combine (ofKind k) := by
  have hsome : .link ∈ ks ∨ .pointer ∈ ks ∨ .anchor ∈ ks := by
    obtain ⟨k₀, hk₀⟩ := List.exists_mem_of_ne_nil ks hks
    cases k₀ <;> simp [hk₀]
  -- the direction reads only which of the three kinds occur
  unfold ofKinds
  by_cases hl : .link ∈ ks <;> by_cases hp : .pointer ∈ ks <;> by_cases ha : .anchor ∈ ks <;>
    cases k <;> simp_all [combine, ofKind]

/-- Relations all of one kind other than a link have the direction of that kind. -/
theorem ofKinds_of_forall_eq {ks : List RelationKind} (hks : ks ≠ []) {k : RelationKind}
    (hall : ∀ k' ∈ ks, k' = k) (hk : k ≠ .link) : ofKinds ks = ofKind k := by
  obtain ⟨k₀, hk₀⟩ := List.exists_mem_of_ne_nil ks hks
  have hmem : k ∈ ks := hall k₀ hk₀ ▸ hk₀
  have hnot : ∀ k', k' ≠ k → k' ∉ ks := fun k' hne hk' => hne (hall k' hk')
  cases k with
  | link => exact absurd rfl hk
  | pointer => simp [ofKinds, hmem, hnot .link (by decide), hnot .anchor (by decide), ofKind]
  | anchor => simp [ofKinds, hmem, hnot .link (by decide), hnot .pointer (by decide), ofKind]

end RelationDirection

/-! ## The view of a domain -/

namespace RelationshipView

/-- A list with a value added unless absent or listed holds the distinct values seen, first seen
first. -/
theorem pushDistinct_eraseDups (xs : List String) (o : Option String) :
    pushDistinct xs.eraseDups o = (xs ++ o.toList).eraseDups := by
  cases o with
  | none => simp [pushDistinct]
  | some x =>
    rw [Option.toList_some, LocalEngine.eraseDups_append_singleton]
    simp [pushDistinct, List.mem_eraseDups]

/-- The view a domain opens with, before its first relation is added. -/
def opening (r : DisclosedRelation) : RelationshipView := ⟨r.domain, RelationDirection.ofKind r.kind, [], [], []⟩

/-- A view under its domain. -/
def keyed (v : RelationshipView) : String × RelationshipView := (v.domain, v)

end RelationshipView

/-- The relations of one domain, in order. -/
def relationsIn (d : String) (rs : List DisclosedRelation) : List DisclosedRelation :=
  rs.filter (·.domain = d)

/-- The view of the relations of domain `d` taken together: the direction of their kinds, and
their distinct roles and keys, first seen first. -/
def viewOf (rs : List DisclosedRelation) (d : String) : RelationshipView :=
  ⟨d, RelationDirection.ofKinds ((relationsIn d rs).map (·.kind)),
    ((relationsIn d rs).filterMap (·.role1)).eraseDups, ((relationsIn d rs).filterMap (·.role2)).eraseDups,
    ((relationsIn d rs).filterMap (·.key)).eraseDups⟩

theorem relationsIn_concat (d : String) (rs : List DisclosedRelation) (r : DisclosedRelation) :
    relationsIn d (rs ++ [r]) = relationsIn d rs ++ if r.domain = d then [r] else [] := by
  by_cases h : r.domain = d <;> simp [relationsIn, List.filter_append, h]

theorem relationsIn_eq_nil_iff {d : String} {rs : List DisclosedRelation} :
    relationsIn d rs = [] ↔ ¬∃ r ∈ rs, r.domain = d := by
  simp [relationsIn, List.filter_eq_nil_iff]

theorem kinds_relationsIn_ne_nil {d : String} {rs : List DisclosedRelation} (h : ∃ r ∈ rs, r.domain = d) :
    (relationsIn d rs).map (·.kind) ≠ [] := by
  simpa [List.map_eq_nil_iff, relationsIn_eq_nil_iff] using h

/-- One more relation of a domain with relations adds to the domain's view. -/
theorem viewOf_concat_of_exists {rs : List DisclosedRelation} {r : DisclosedRelation}
    (h : ∃ r' ∈ rs, r'.domain = r.domain) : viewOf (rs ++ [r]) r.domain = (viewOf rs r.domain).add r := by
  simp only [viewOf, relationsIn_concat, if_pos, RelationshipView.add, List.map_append, List.map_singleton,
    RelationDirection.ofKinds_concat (kinds_relationsIn_ne_nil h), List.filterMap_append, RelationshipView.pushDistinct_eraseDups,
    filterMap_cons_eq_toList_append, List.filterMap_nil, List.append_nil]

/-- The first relation of a domain opens the domain's view. -/
theorem viewOf_concat_of_not_exists {rs : List DisclosedRelation} {r : DisclosedRelation}
    (h : ¬∃ r' ∈ rs, r'.domain = r.domain) : viewOf (rs ++ [r]) r.domain = RelationshipView.ofRelation r := by
  -- a first value is added to an empty list
  have hfirst : ∀ o : Option String, RelationshipView.pushDistinct [] o = o.toList.eraseDups := fun o => by
    simpa using RelationshipView.pushDistinct_eraseDups [] o
  rw [viewOf, relationsIn_concat, relationsIn_eq_nil_iff.2 h, if_pos rfl, List.nil_append]
  simp only [RelationshipView.ofRelation, RelationshipView.add, List.map_singleton,
    RelationDirection.ofKinds_singleton, RelationDirection.combine, if_pos, filterMap_cons_eq_toList_append,
    List.filterMap_nil, List.append_nil, hfirst]

/-- A relation of another domain leaves a domain's view as it was. -/
theorem viewOf_concat_of_ne {rs : List DisclosedRelation} {r : DisclosedRelation} {d : String}
    (hd : r.domain ≠ d) : viewOf (rs ++ [r]) d = viewOf rs d := by
  simp [viewOf, relationsIn_concat, hd]

/-! ## Grouping as an ascending update -/

/-- Adding a relation to the views updates its domain's entry of the views kept by domain, opening
one for a new domain. -/
theorem keyed_insertRelation (r : DisclosedRelation) (vs : List RelationshipView) :
    (insertRelation r vs).map RelationshipView.keyed =
      updateAscending r.domain (RelationshipView.opening r) (·.add r) (vs.map RelationshipView.keyed) := by
  induction vs with
  | nil => rfl
  | cons v vs ih =>
    rw [List.map_cons, RelationshipView.keyed, updateAscending_cons]
    unfold insertRelation
    by_cases h₁ : r.domain < v.domain
    · rw [if_pos h₁, if_pos h₁]
      rfl
    · rw [if_neg h₁, if_neg h₁]
      by_cases h₂ : r.domain = v.domain
      · rw [if_pos h₂, if_pos h₂]
        rfl
      · rw [if_neg h₂, if_neg h₂, List.map_cons, ih]
        rfl

theorem groupRelations_concat (rs : List DisclosedRelation) (r : DisclosedRelation) :
    groupRelations (rs ++ [r]) = insertRelation r (groupRelations rs) := by
  simp [groupRelations, List.foldl_append]

/-- The grouped views are kept in ascending domain order, and the view of each domain with
relations is the view of its relations taken together. -/
theorem lookup_groupRelations (rs : List DisclosedRelation) :
    KeysAscend ((groupRelations rs).map RelationshipView.keyed) ∧
      ∀ d, ((groupRelations rs).map RelationshipView.keyed).lookup d =
        if ∃ r ∈ rs, r.domain = d then some (viewOf rs d) else none := by
  induction rs using List.reverseRecOn with
  | nil => simp [groupRelations]
  | append_singleton rs r ih =>
    obtain ⟨hasc, hlookup⟩ := ih
    rw [groupRelations_concat, keyed_insertRelation]
    refine ⟨keysAscend_updateAscending _ _ _ hasc, fun d => ?_⟩
    by_cases hd : r.domain = d
    · -- the relation's own domain: opened, or added to
      subst hd
      have hmem : ∃ r' ∈ rs ++ [r], r'.domain = r.domain :=
        ⟨r, List.mem_append_right _ (List.mem_singleton_self r), rfl⟩
      rw [lookup_updateAscending_self _ _ _ hasc, if_pos hmem, hlookup]
      by_cases h : ∃ r' ∈ rs, r'.domain = r.domain
      · rw [if_pos h, Option.getD_some, viewOf_concat_of_exists h]
      · rw [if_neg h, Option.getD_none, viewOf_concat_of_not_exists h]
        rfl
    · -- another domain: its relations and its view are as before
      have hex : (∃ r' ∈ rs ++ [r], r'.domain = d) ↔ ∃ r' ∈ rs, r'.domain = d := by
        simp [hd]
      rw [lookup_updateAscending_of_ne _ _ (Ne.symm hd), hlookup, viewOf_concat_of_ne hd]
      exact if_congr hex.symm rfl rfl

/-! ## What the grouped views say -/

/-- What the view `v` says of the relations `rs` of its domain: its direction is both ways when
one of them is a link or there are both a pointer and an anchor, out when all are pointers and in
when all are anchors; its roles of either side and its relationship keys are the distinct ones of
the relations, first seen first. -/
structure DescribesDomain (rs : List DisclosedRelation) (v : RelationshipView) : Prop where
  bidirectional : ((∃ r ∈ rs, r.domain = v.domain ∧ r.kind = .link) ∨
      (∃ r ∈ rs, r.domain = v.domain ∧ r.kind = .pointer) ∧ ∃ r ∈ rs, r.domain = v.domain ∧ r.kind = .anchor) →
    v.direction = .bidirectional
  outbound : (∀ r ∈ rs, r.domain = v.domain → r.kind = .pointer) → v.direction = .outbound
  inbound : (∀ r ∈ rs, r.domain = v.domain → r.kind = .anchor) → v.direction = .inbound
  roles1 : v.roles1 = ((rs.filter (·.domain = v.domain)).filterMap (·.role1)).eraseDups
  roles2 : v.roles2 = ((rs.filter (·.domain = v.domain)).filterMap (·.role2)).eraseDups
  keys : v.keys = ((rs.filter (·.domain = v.domain)).filterMap (·.key)).eraseDups

theorem mem_kinds_relationsIn {rs : List DisclosedRelation} {d : String} {k : RelationKind} :
    k ∈ (relationsIn d rs).map (·.kind) ↔ ∃ r ∈ rs, r.domain = d ∧ r.kind = k := by
  simp [relationsIn, and_assoc]

/-- The view of a domain with relations describes them. -/
theorem describesDomain_viewOf {rs : List DisclosedRelation} {d : String} (h : ∃ r ∈ rs, r.domain = d) :
    DescribesDomain rs (viewOf rs d) := by
  have hne := kinds_relationsIn_ne_nil h
  -- every kind of the domain is `k`
  have hall : ∀ k, (∀ r ∈ rs, r.domain = d → r.kind = k) → ∀ k' ∈ (relationsIn d rs).map (·.kind), k' = k := by
    intro k hk k' hk'
    obtain ⟨r, hr, hrd, rfl⟩ := mem_kinds_relationsIn.1 hk'
    exact hk r hr hrd
  refine ⟨fun hb => ?_, fun ho => ?_, fun hi => ?_, rfl, rfl, rfl⟩
  · simp only [viewOf, RelationDirection.ofKinds, mem_kinds_relationsIn] at hb ⊢
    rw [if_pos hb]
  · exact RelationDirection.ofKinds_of_forall_eq hne (hall .pointer ho) (by decide)
  · exact RelationDirection.ofKinds_of_forall_eq hne (hall .anchor hi) (by decide)

/-- **Disclosed relations group into one view per domain.** The views of a list of relations
have ascending domains, one per domain of the relations; the view of each domain is both ways
when the domain has a link or both a pointer and an anchor, out when all its relations are
pointers and in when all are anchors, and lists the distinct roles of either side and the
distinct relationship keys of its relations, first seen first. In particular the domains and
directions do not depend on the order of the relations. -/
theorem groupRelations_describes (rs : List DisclosedRelation) :
    ((groupRelations rs).map (·.domain)).Pairwise (· < ·) ∧
      (∀ d, d ∈ (groupRelations rs).map (·.domain) ↔ ∃ r ∈ rs, r.domain = d) ∧
      (∀ v ∈ groupRelations rs, DescribesDomain rs v) ∧
      ∀ rs', rs'.Perm rs →
        (groupRelations rs').map (fun v => (v.domain, v.direction)) =
          (groupRelations rs).map fun v => (v.domain, v.direction) := by
  obtain ⟨hasc, hlookup⟩ := lookup_groupRelations rs
  have hkeys : ((groupRelations rs).map RelationshipView.keyed).map Prod.fst = (groupRelations rs).map (·.domain) := by
    simp [Function.comp_def, RelationshipView.keyed]
  -- a view of the list is looked up under its domain
  have hview : ∀ v ∈ groupRelations rs, (∃ r ∈ rs, r.domain = v.domain) ∧ v = viewOf rs v.domain := by
    intro v hv
    have hv' := (lookup_eq_some_iff hasc).2 (List.mem_map_of_mem (f := RelationshipView.keyed) hv)
    rw [hlookup] at hv'
    by_cases h : ∃ r ∈ rs, r.domain = v.domain
    · rw [if_pos h, Option.some.injEq] at hv'
      exact ⟨h, hv'.symm⟩
    · rw [if_neg h] at hv'
      cases hv'
  refine ⟨hkeys ▸ hasc, fun d => ⟨fun hd => ?_, fun hd => ?_⟩, fun v hv => ?_, fun rs' hperm => ?_⟩
  · obtain ⟨v, hv, rfl⟩ := List.mem_map.1 hd
    exact (hview v hv).1
  · have hmem := (lookup_eq_some_iff hasc).1 ((hlookup d).trans (if_pos hd))
    exact hkeys ▸ List.mem_map_of_mem (f := Prod.fst) hmem
  · obtain ⟨h, hv⟩ := hview v hv
    rw [hv]
    exact describesDomain_viewOf h
  · show (groupRelations rs').map RelationshipView.domainDirection =
      (groupRelations rs).map RelationshipView.domainDirection
    rw [map_groupRelations, map_groupRelations, foldl_addDirection_perm hperm]

/-- The relations of the family test: a son's pointer and a father's anchor in one domain. -/
example :
    (groupRelations [⟨"FAMILY", .pointer, some "SON", some "FATHER", none⟩,
      ⟨"FAMILY", .anchor, some "FATHER", some "SON", none⟩]).map (fun v => (v.direction, v.roles1)) =
      [(.bidirectional, ["SON", "FATHER"])] := by
  decide

end EntityGateway
