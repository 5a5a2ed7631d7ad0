import EntityGateway.Engine.Local.Entity

/-!
# Match explanations of the local engine

Two sides are compared by scoring the feature values of the first side against those of the
second. The values of a side are `mergedValues`: for each feature type the distinct values of
its records, first seen first, the feature types ascending (`keysAscend_mergedValues`), so that
they score as an ordered map.

Disclosed relationships pair a disclosure of one side with a disclosure of the other in the same
domain and with the same key: two links make a link, a pointer met by an anchor a pointer, an
anchor met by a pointer an anchor; other pairs disclose nothing. The why-key of a comparison is
the match key of its scores followed by one `+DOMAIN` token per disclosed domain, in domain
order, with the roles of each side when there are any.
-/

namespace EntityGateway

namespace LocalEngine

/-- For each feature type, the distinct values of the records, first seen first. -/
def mergedValues (records : List RecordDocument) : List (String × List String) :=
  records.foldl (fun acc r =>
    r.features.foldl (fun acc (t, values) =>
      updateAscending t [] (fun target =>
        values.foldl (fun target v => if target.contains v then target else target ++ [v]) target) acc) acc) []

/-- Each update of the merge keeps the feature types ascending. -/
theorem keysAscend_mergedValues (records : List RecordDocument) : KeysAscend (mergedValues records) := by
  unfold mergedValues
  refine List.foldlRecOn (motive := KeysAscend) _ _ keysAscend_nil fun acc hacc r _ => ?_
  exact List.foldlRecOn (motive := KeysAscend) _ _ hacc
    fun acc' h' _ _ => keysAscend_updateAscending _ _ _ h'

/-- Values as inbound values of a comparison, none of them an organization. -/
def asInbound (values : List (String × List String)) (ascending : KeysAscend values) :
    AscendingMap String (List Scoring.InboundValue) :=
  ⟨values.map fun (t, vs) => (t, vs.map fun v => { value := v }), keysAscend_map_values _ ascending⟩

/-- The key of a record. -/
def recordKey (r : RecordDocument) : RecordKey := ⟨r.dataSource, r.recordId⟩

/-- The relation kind of a pair of disclosures, if they make one. -/
def pairKind : DisclosureKind → DisclosureKind → Option RelationKind
  | .link, .link => some .link
  | .pointer, .anchor => some .pointer
  | .anchor, .pointer => some .anchor
  | _, _ => none

/-- The relation two disclosures of the same domain and key make, if any. -/
def pairDisclosures (d1 d2 : Disclosure) : Option DisclosedRelation :=
  if d1.domain = d2.domain ∧ d1.key = d2.key then
    (pairKind d1.kind d2.kind).map fun k => ⟨d1.domain, k, d1.role, d2.role, some d1.key⟩
  else none

/-- The disclosed relations between two sides. -/
def disclosedRelations (side1 side2 : List RecordDocument) : List DisclosedRelation :=
  let ds1 := side1.flatMap (·.disclosures)
  let ds2 := side2.flatMap (·.disclosures)
  ds1.flatMap fun d1 => ds2.filterMap (pairDisclosures d1)

/-- A list with a value appended unless absent or already there. -/
def pushRole (xs : List String) : Option String → List String
  | some r => if xs.contains r then xs else xs ++ [r]
  | none => xs

/-- The why-key of a comparison: the match key, then one token per disclosed domain. -/
def whyKeyOf (scores : ScoreMap) (relations : List DisclosedRelation) : String :=
  let domains := relations.foldl (fun acc r =>
    updateAscending r.domain ([], []) (fun (r1, r2) => (pushRole r1 r.role1, pushRole r2 r.role2)) acc) []
  Scoring.matchKey scores ++ String.join (domains.map fun (d, r1, r2) =>
    "+" ++ d ++ (if r1.isEmpty && r2.isEmpty then "" else "(" ++ ",".intercalate r1 ++ ":" ++ ",".intercalate r2 ++ ")"))

end LocalEngine

end EntityGateway
