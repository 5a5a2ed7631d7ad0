import EntityGateway.Engine.Scripted
import EntityGateway.Proofs.WiderSearch

/-!
# Searches filtered by bucket

A search asks the engine for candidates and keeps, in the engine's order, each candidate that
matches and whose bucket the filter names (an empty filter names every bucket), showing it with
its entity projected, its bucket, level, key and scores, and its best name score.

The projection stops the whole search when a kept candidate's entity has neither records nor
record summaries, which an engine never answers: that breaks the engine's contract
(`bareEntity_stops_search`). Over payloads that keep the contract:

* `bestNameScore_eq`: the best name score is the highest full-name or organization-name score
  among the name scores, and absent when there is none;
* `searchResult_of_listed` and `searchResult_of_not_listed`: one candidate's result, by whether
  the search lists it (`SearchCandidate.Listed`);
* `filterMapM_forall₂`: a `filterMapM` whose steps answer keeps the elements that pass, one
  answer for each, in order;
* `searchResult_filter` and `filterMapM_filter`: the results under a filter are the results
  without one whose bucket the filter names;
* `search_lists_matching_candidates`: a search answers the candidates it lists, in the engine's
  order, each with its result (`ShowsCandidate`), and with a filter it answers the results of the
  search without one whose bucket the filter names.
-/

namespace EntityGateway

/-! ## The best name score -/

/-- The greatest of the values present. -/
theorem maxPresent_eq (xs : List (Option Int)) : maxPresent xs = (xs.filterMap id).max? := by
  induction xs with
  | nil => rfl
  | cons x xs ih =>
    cases x with
    | none => simpa [maxPresent] using ih
    | some x =>
      have hcons : (some x :: xs).filterMap id = x :: xs.filterMap id := rfl
      rw [maxPresent, ih, hcons, List.max?_cons]
      cases (xs.filterMap id).max? <;> rfl

/-- The best name score is the highest full-name or organization-name score among the name
scores, absent when no name score carries one. -/
theorem bestNameScore_eq (m : ScoreMap) :
    bestNameScore m =
      (((m.lookup "NAME").getD []).flatMap fun s => s.fullNameScore.toList ++ s.orgNameScore.toList).max? := by
  unfold bestNameScore
  cases m.lookup "NAME" with
  | none => rfl
  | some ss =>
    dsimp only
    rw [maxPresent_eq, List.filterMap_flatMap, Option.getD_some]
    congr 1
    refine List.flatMap_congr fun s _ => ?_
    cases s.fullNameScore <;> cases s.orgNameScore <;> rfl

/-! ## One candidate -/

namespace SearchCandidate

/-- The search lists the candidate: it matches, and when the filter names buckets, its bucket is
one of them. -/
def Listed (F : List MatchBucket) (x : SearchCandidate) : Prop :=
  x.info.level ≠ .noMatch ∧ (F ≠ [] → ∃ b ∈ F, MatchBucket.ofLevel x.info.level = some b)

instance (F : List MatchBucket) : DecidablePred (Listed F) :=
  fun _ => inferInstanceAs (Decidable (_ ∧ _))

/-- The candidate's entity keeps the engine's contract: it has records or record summaries. -/
def Shown (x : SearchCandidate) : Prop :=
  x.entity.entity.records ≠ [] ∨ x.entity.entity.summaries ≠ []

instance : DecidablePred Shown := fun _ => inferInstanceAs (Decidable (_ ∨ _))

end SearchCandidate

/-- `r` shows the candidate `x`: its entity projected, its bucket, level, key and scores, and its
best name score, the highest full-name or organization-name score among its name scores, absent
when there is none. -/
structure ShowsCandidate (o : RenderOptions) (x : SearchCandidate) (r : SearchResult) : Prop where
  entity : project o x.entity = .ok r.entity
  bucket : MatchBucket.ofLevel x.info.level = some r.bucket
  level : r.level = x.info.level
  matchKey : r.matchKey = x.info.key
  scores : r.scores = projectScores x.info.scores
  bestNameScore : r.bestNameScore =
    (((x.info.scores.lookup "NAME").getD []).flatMap fun s => s.fullNameScore.toList ++ s.orgNameScore.toList).max?

section Candidate

variable {o : RenderOptions} {F : List MatchBucket} {x : SearchCandidate}

/-- A matching candidate is listed unless the filter names buckets and not its own. -/
theorem listed_iff_of_ofLevel {b : MatchBucket} (hb : MatchBucket.ofLevel x.info.level = some b) :
    x.Listed F ↔ ¬(!F.isEmpty && !F.contains b) = true := by
  have hl : x.info.level ≠ .noMatch := fun h => by
    rw [h] at hb
    cases hb
  cases F with
  | nil => simp [SearchCandidate.Listed, hl]
  | cons f F => simp [SearchCandidate.Listed, hl, hb, or_iff_not_imp_left]

/-- A candidate the search does not list has no result. -/
theorem searchResult_of_not_listed (h : ¬x.Listed F) : searchResult o F x = .ok none := by
  unfold searchResult
  split
  · rfl
  · next b hb =>
    rw [if_pos (not_not.1 (mt (listed_iff_of_ofLevel hb).2 h))]

/-- A listed candidate whose entity keeps the contract is shown. -/
theorem searchResult_of_listed (h : x.Listed F) (hx : x.Shown) :
    ∃ r, searchResult o F x = .ok (some r) ∧ ShowsCandidate o x r := by
  unfold searchResult
  split
  · next hb => exact absurd (MatchBucket.ofLevel_eq_none_iff.1 hb) h.1
  · next b hb =>
    rw [if_neg ((listed_iff_of_ofLevel hb).1 h), project_eq_ok hx]
    exact ⟨_, rfl, ⟨project_eq_ok hx, hb, rfl, rfl, rfl, bestNameScore_eq _⟩⟩

end Candidate

/-! ## All candidates -/

/-- A `filterMapM` whose steps answer nothing for the elements that fail `P` and something
related by `R` for those that pass answers the elements that pass, one answer for each, in
order. -/
theorem filterMapM_forall₂ {ε α β : Type} {f : α → Except ε (Option β)} {P : α → Prop}
    [DecidablePred P] {R : α → β → Prop} :
    ∀ {xs : List α}, (∀ x ∈ xs, ¬P x → f x = .ok none) → (∀ x ∈ xs, P x → ∃ y, f x = .ok (some y) ∧ R x y) →
      ∃ ys, xs.filterMapM f = .ok ys ∧ List.Forall₂ R (xs.filter fun x => P x) ys
  | [], _, _ => ⟨[], rfl, by simp⟩
  | x :: xs, hnone, hsome => by
    obtain ⟨ys, hys, hR⟩ := filterMapM_forall₂ (fun y hy => hnone y (List.mem_cons_of_mem x hy))
      (fun y hy => hsome y (List.mem_cons_of_mem x hy))
    by_cases hx : P x
    · obtain ⟨y, hy, hxy⟩ := hsome x List.mem_cons_self hx
      refine ⟨y :: ys, ?_, ?_⟩
      · simp only [List.filterMapM_cons, hy, hys]
        rfl
      · rw [List.filter_cons_of_pos (by simpa using hx)]
        exact List.Forall₂.cons hxy hR
    · refine ⟨ys, ?_, ?_⟩
      · simp only [List.filterMapM_cons, hnone x List.mem_cons_self hx]
        exact hys
      · rw [List.filter_cons_of_neg (by simpa using hx)]
        exact hR

/-- A `filterMapM` whose step answers what another's does, kept only when it passes `p`, answers
what the other answers, kept only when it passes `p`. -/
theorem filterMapM_filter {ε α β : Type} {f g : α → Except ε (Option β)} {p : β → Bool}
    (hfg : ∀ x y?, g x = .ok y? → f x = .ok (y?.filter p)) :
    ∀ {xs : List α} {ys : List β}, xs.filterMapM g = .ok ys → xs.filterMapM f = .ok (ys.filter p)
  | [], _, h => by
    cases h
    rfl
  | x :: xs, ys, h => by
    rw [List.filterMapM_cons, except_bind_eq_ok] at h
    obtain ⟨y?, hy?, h⟩ := h
    rw [List.filterMapM_cons, hfg x y? hy?]
    cases y? with
    | none => exact filterMapM_filter hfg h
    | some y =>
      obtain ⟨rest, hrest, hys⟩ := except_bind_eq_ok.1 h
      cases hys
      by_cases hp : p y = true
      · simp only [Option.filter_some, hp, if_true, List.filter_cons_of_pos hp]
        rw [except_bind_eq_ok.2 ⟨_, rfl, by rw [filterMapM_filter hfg hrest]; rfl⟩]
      · simp only [Option.filter_some, hp, if_false, Bool.false_eq_true, List.filter_cons_of_neg hp]
        exact filterMapM_filter hfg hrest

/-- Under a filter that names buckets, a candidate has the result it has without a filter, kept
when the filter names its bucket. -/
theorem searchResult_filter {o : RenderOptions} {F : List MatchBucket} (hF : F ≠ []) {x : SearchCandidate}
    {r? : Option SearchResult} (h : searchResult o [] x = .ok r?) :
    searchResult o F x = .ok (r?.filter fun r => decide (r.bucket ∈ F)) := by
  unfold searchResult at h ⊢
  split
  · next hb =>
    rw [hb] at h
    cases h
    rfl
  · next b hb =>
    rw [hb] at h
    simp only [List.isEmpty_nil, Bool.not_true, Bool.false_and, Bool.false_eq_true, if_false,
      except_bind_eq_ok] at h
    obtain ⟨v, hv, hr⟩ := h
    cases hr
    have hne : F.isEmpty = false := List.isEmpty_eq_false_iff.2 hF
    by_cases hmem : b ∈ F
    · simp [hne, hmem, hv, Option.filter_some]
    · simp [hne, hmem, Option.filter_some]

/-! ## The search -/

namespace Service

variable {σ : Type} {e : Engine σ} {c : SearchCriteria} {F : List MatchBucket} {o : RenderOptions}
  {st st₁ : σ} {reply : Reply SearchData} {d : SearchData}

/-- A search with criteria whose engine call answered a payload answers the results of the
payload's candidates, from the state the call left. -/
theorem exec_search_of_reply (hc : c.isEmpty = false)
    (hcall : (call (e.search c.engineValue o.engineFlags)).exec st = (.ok reply, st₁))
    (hread : reply.read "search" = .ok d) :
    (search e c F o).exec st =
      ((d.candidates.filterMapM (searchResult o F)).map fun results => (⟨⟨results⟩, reply.raw⟩ : Answer SearchAnswer),
        st₁) := by
  unfold search
  simp only [hc, Bool.false_eq_true, if_false]
  rw [exec_bind, hcall]
  dsimp only
  rw [exec_bind, exec_lift, hread]
  dsimp only
  rw [exec_bind, exec_lift]
  cases d.candidates.filterMapM (searchResult o F) <;> rfl

/-- **A search lists the matching candidates of its filter.** When the engine answers non-empty
criteria with a readable payload whose listed candidates keep the engine's contract, the search
answers, from the state the engine call left, the candidates that match and whose bucket the
filter names (every bucket when it names none), in the engine's order, each shown with its
entity, bucket, level, key, scores and best name score. With a filter, it answers what the same
search without one answers, less the results whose bucket the filter does not name. -/
theorem search_lists_matching_candidates (hc : c.isEmpty = false)
    (hcall : (call (e.search c.engineValue o.engineFlags)).exec st = (.ok reply, st₁))
    (hread : reply.read "search" = .ok d)
    (hcontract : ∀ x ∈ d.candidates, x.Listed F → x.Shown) :
    (∃ results, (search e c F o).exec st = (.ok ⟨⟨results⟩, reply.raw⟩, st₁) ∧
        List.Forall₂ (ShowsCandidate o) (d.candidates.filter fun x => x.Listed F) results) ∧
      (F ≠ [] → ∀ a st', (search e c [] o).exec st = (.ok a, st') →
        (search e c F o).exec st = (.ok ⟨⟨a.data.results.filter fun r => r.bucket ∈ F⟩, a.raw⟩, st')) := by
  refine ⟨?_, fun hF a st' hall => ?_⟩
  · obtain ⟨results, hres, hshow⟩ := filterMapM_forall₂ (R := ShowsCandidate o)
      (fun x _ hx => searchResult_of_not_listed (o := o) hx)
      (fun x hx hl => searchResult_of_listed hl (hcontract x hx hl))
    refine ⟨results, ?_, hshow⟩
    rw [exec_search_of_reply hc hcall hread, hres]
    rfl
  · -- both searches read the same payload; the one without a filter answered every result
    rw [exec_search_of_reply (F := []) hc hcall hread] at hall
    rw [exec_search_of_reply hc hcall hread]
    cases hrun : d.candidates.filterMapM (searchResult o []) with
    | error err =>
      rw [hrun] at hall
      cases hall
    | ok all =>
      rw [hrun] at hall
      obtain ⟨ha, rfl⟩ := Prod.mk.inj hall
      cases ha
      rw [filterMapM_filter (fun x r? h => searchResult_filter hF h) hrun]
      rfl

end Service

/-! ## Candidates with and without records -/

/-- A search payload of one resolved candidate, entity 7, with a record summary. -/
def summaryCandidatePayload : Json :=
  Json.obj [("RESOLVED_ENTITIES", .array [Json.obj [
    ("ENTITY", Json.obj [("RESOLVED_ENTITY", Json.obj [("ENTITY_ID", Json.int 7),
      ("RECORD_SUMMARY", .array [Json.obj [("DATA_SOURCE", .string "TEST"), ("RECORD_COUNT", Json.nat 1)]])])]),
    ("MATCH_INFO", Json.obj [("MATCH_LEVEL", Json.nat 1), ("MATCH_LEVEL_CODE", .string "RESOLVED")])]])]

/-- What that payload reads as. -/
def summaryCandidateData : SearchData :=
  ⟨[⟨⟨1, .resolved, "", []⟩, ⟨{ entityId := 7, summaries := [⟨"TEST", 1, none⟩] }, []⟩⟩]⟩

/-- A scripted engine answering every search with that payload. -/
def summaryCandidateScript : ScriptSpec := { dataSources := ["TEST"], search := some summaryCandidatePayload }

/-- Criteria searching one value of one attribute. -/
def oneValueCriteria : SearchCriteria := ⟨[("A", ["b"])]⟩

/-- The resolved candidate with a record summary is listed by a search filtered to matches. -/
theorem summaryCandidate_listed :
    ∃ reply st₁, oneValueCriteria.isEmpty = false ∧
      (Service.call ((scriptedEngine summaryCandidateScript).search oneValueCriteria.engineValue
        ({} : RenderOptions).engineFlags)).exec (ScriptState.initial summaryCandidateScript) = (.ok reply, st₁) ∧
      reply.read "search" = .ok summaryCandidateData ∧
      (∀ x ∈ summaryCandidateData.candidates, x.Listed [.match] → x.Shown) ∧
      (∃ results, (Service.search (scriptedEngine summaryCandidateScript) oneValueCriteria [.match] {}).exec
          (ScriptState.initial summaryCandidateScript) = (.ok ⟨⟨results⟩, reply.raw⟩, st₁) ∧
        List.Forall₂ (ShowsCandidate {}) (summaryCandidateData.candidates.filter fun x => x.Listed [.match])
          results) ∧
      ([MatchBucket.match] ≠ [] → ∀ a st', (Service.search (scriptedEngine summaryCandidateScript) oneValueCriteria []
          {}).exec (ScriptState.initial summaryCandidateScript) = (.ok a, st') →
        (Service.search (scriptedEngine summaryCandidateScript) oneValueCriteria [.match] {}).exec
          (ScriptState.initial summaryCandidateScript) =
          (.ok ⟨⟨a.data.results.filter fun r => r.bucket ∈ [MatchBucket.match]⟩, a.raw⟩, st')) := by
  have hcontract : ∀ x ∈ summaryCandidateData.candidates, x.Listed [.match] → x.Shown := by
    decide
  exact ⟨_, _, rfl, rfl, rfl, hcontract, Service.search_lists_matching_candidates rfl rfl rfl hcontract⟩

/-- A search payload of one resolved candidate, entity 7, with neither records nor record
summaries. -/
def bareCandidatePayload : Json :=
  Json.obj [("RESOLVED_ENTITIES", .array [Json.obj [
    ("ENTITY", Json.obj [("RESOLVED_ENTITY", Json.obj [("ENTITY_ID", Json.int 7)])]),
    ("MATCH_INFO", Json.obj [("MATCH_LEVEL", Json.nat 1), ("MATCH_LEVEL_CODE", .string "RESOLVED")])]])]

/-- A scripted engine answering every search with that payload. -/
def bareCandidateScript : ScriptSpec := { dataSources := ["TEST"], search := some bareCandidatePayload }

/-- The payload reads as one resolved candidate, so the search lists it, but the search answers
no results: projecting an entity without records or record summaries stops it with the contract
violation of entity 7. -/
theorem bareEntity_stops_search :
    (∃ d, (SearchData.decode bareCandidatePayload) = .ok d ∧ (d.candidates.filter fun x => x.Listed []).length = 1) ∧
      ((Service.search (scriptedEngine bareCandidateScript) oneValueCriteria [] {}).exec
        (ScriptState.initial bareCandidateScript)).1 = .error (.contractViolation 7) := by
  refine ⟨⟨_, rfl, ?_⟩, rfl⟩
  decide +kernel

end EntityGateway
