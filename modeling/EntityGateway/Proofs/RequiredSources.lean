import EntityGateway.Proofs.ShortestRoute

/-!
# Shortest paths through a required data source

With data sources `R` required, `shortestPath` runs up to three searches and answers the first
that finds a path: the search for a path with an intermediate entity from one of `R`, blocking
the avoided entities other than the two ends; unless avoided entities are forbidden, the same
search blocking none; and last the search with no source required, which
`shortestPath_fewest_edges` describes.

* `search_carriesSource`: a search for `R` answers only paths with an intermediate entity from
  one of `R`. Its queue entries carry a mark for having passed such an entity, and the mark is
  sound (`MetEntry`) along every run of the loop (`searchLoop_invariant`).
* `shortestPath_requiredSources` puts the three searches together.

The search for `R` keeps, of all the paths that reach an entity with the same mark, only the
first. That path can leave no simple way on, so the search may find nothing while a route with
a source exists (`sevenNodes_tiers`); the answer is then the one without sources.
-/

namespace EntityGateway

namespace EntityGraph

variable {g : EntityGraph} {source target : Int}

/-- Some entity of `p` other than its ends `a` and `b` is from one of the data sources `R`. -/
def CarriesSource (g : EntityGraph) (a b : Int) (R : List String) (p : List Int) : Prop :=
  ∃ x ∈ p, x ≠ a ∧ x ≠ b ∧ g.hasAnySource x R = true

instance (g : EntityGraph) (a b : Int) (R : List String) (p : List Int) :
    Decidable (g.CarriesSource a b R p) :=
  inferInstanceAs (Decidable (∃ x ∈ p, x ≠ a ∧ x ≠ b ∧ g.hasAnySource x R = true))

theorem carriesSource_reverse {a b : Int} {R : List String} {p : List Int} :
    g.CarriesSource a b R p.reverse ↔ g.CarriesSource a b R p := by
  simp [CarriesSource]

/-! ## Marked queue entries -/

/-- A queue entry of a search from `source` for the sources `R`: a queued path whose mark, when
set, stands for an entity of the path, neither `source` nor the target, from one of `R`. -/
def MetEntry (g : EntityGraph) (source : Int) (s : Search) (R : List String)
    (e : List Int × Bool) : Prop :=
  Queued g source s e.1 ∧ (e.2 = true → g.CarriesSource source s.target R e.1)

theorem metEntry_start (s : Search) (R : List String) : MetEntry g source s R ([source], false) :=
  ⟨queued_start s, by simp⟩

section Extend

variable {s : Search} {R : List String} (hreq : s.required = some R)
include hreq

/-- One extension step keeps the mark sound: a set mark was set before, so the path still has
that entity, or the new entity is from one of `R`, and it is not the source, which is on the
path it extends. -/
theorem metEntry_cons {current n : Int} {rest : List Int} {satisfied met : Bool}
    (he : MetEntry g source s R (current :: rest, satisfied)) (hn : n ∈ g.neighbors current)
    (hfresh : n ∉ current :: rest) (hfree : n ∉ s.blocked)
    (hlen : (current :: rest).length ≤ s.maxDegrees)
    (hmet : met = true → satisfied = true ∨
      n ≠ s.target ∧ ∃ r, s.required = some r ∧ g.hasAnySource n r = true) :
    MetEntry g source s R (n :: current :: rest, met) := by
  refine ⟨queued_cons he.1 hn hfresh hfree hlen, fun hset => ?_⟩
  rcases hmet hset with hsat | ⟨htarget, r, hr, hsrc⟩
  · obtain ⟨x, hx, hxs, hxt, hxsrc⟩ := he.2 hsat
    exact ⟨x, List.mem_cons_of_mem n hx, hxs, hxt, hxsrc⟩
  · rw [hreq, Option.some.injEq] at hr
    subst hr
    have hsource : source ∈ current :: rest := List.mem_of_getLast? he.1.last
    refine ⟨n, List.mem_cons_self, ?_, htarget, hsrc⟩
    rintro rfl
    exact hfresh hsource

/-- Extending a marked entry within the bound by the neighbours of its newest entity queues
marked entries. -/
theorem extend_metEntry {current : Int} {rest : List Int} {satisfied : Bool}
    (he : MetEntry g source s R (current :: rest, satisfied))
    (hlen : (current :: rest).length ≤ s.maxDegrees) (visited : List (Int × Bool)) :
    ∀ e ∈ (g.extend s (current :: rest) satisfied (g.neighbors current) visited []).2,
      MetEntry g source s R e :=
  extend_invariant (MetEntry g source s R) (by simp) fun _ hn hfree hfresh _ hmet =>
    metEntry_cons hreq he hn hfresh hfree hlen hmet

/-- A search for the sources `R` answers only paths with an intermediate entity from one of
them. -/
theorem search_carriesSource {p : List Int} (h : g.search source s = some p) :
    g.CarriesSource source s.target R p := by
  obtain ⟨e, he, -, hmet, rfl⟩ := searchLoop_invariant (MetEntry g source s R)
    (fun _ _ _ visited he hlen => extend_metEntry hreq he hlen visited)
    (by simpa using metEntry_start s R) h
  have hset : e.2 = true := by simpa [hreq] using hmet
  exact carriesSource_reverse.2 (he.2 hset)

end Extend

/-! ## The three searches -/

variable {c : PathConstraints}

/-- With data sources required, `shortestPath` answers the search for them that blocks the
avoided entities other than the two, else, unless those are forbidden, the search for them that
blocks none, else what it answers with no source required. -/
theorem shortestPath_eq_viaSources (hs : g.contains source = true)
    (ht : g.contains target = true) (hne : source ≠ target) (hreq : c.requiredSources ≠ []) :
    g.shortestPath source target c =
      ((g.search source ⟨target, c.maxDegrees, c.avoid.filter fun id => id != source && id != target,
          some c.requiredSources⟩).or
        (if c.forbidAvoided then none
          else g.search source ⟨target, c.maxDegrees, [], some c.requiredSources⟩)).or
      (g.shortestPath source target { c with requiredSources := [] }) := by
  have hempty : c.requiredSources.isEmpty = false := List.isEmpty_eq_false_iff.2 hreq
  rw [@shortestPath_eq_or g source target { c with requiredSources := [] } hs ht hne rfl]
  simp only [shortestPath, hs, ht, hne, hempty, Bool.not_true, Bool.or_self, Bool.false_eq_true,
    if_false]
  -- each tier answers or passes on to the next
  cases g.search source ⟨target, c.maxDegrees, c.avoid.filter fun id => id != source && id != target,
      some c.requiredSources⟩ <;>
    cases c.forbidAvoided <;>
    cases g.search source ⟨target, c.maxDegrees, [], some c.requiredSources⟩ <;>
    cases g.search source ⟨target, c.maxDegrees, c.avoid.filter fun id => id != source && id != target,
      none⟩ <;> rfl

/-- **Shortest paths through a required source.** Between two distinct nodes, with data sources
`R` required, let `A` be the avoided entities other than the two. The answer is that of the
search for a path through one of `R` that passes no entity of `A`, else, unless avoided entities
are forbidden, that of the search for a path through one of `R`, else the answer with no source
required. Each of the first two answers is a route within the bound, through no entity it
blocks, with an intermediate entity from one of `R`. -/
theorem shortestPath_requiredSources (hs : g.contains source = true)
    (ht : g.contains target = true) (hne : source ≠ target) (hreq : c.requiredSources ≠ []) :
    let A := c.avoid.filter fun id => id != source && id != target
    let viaSources := fun blocked : List Int =>
      g.search source ⟨target, c.maxDegrees, blocked, some c.requiredSources⟩
    g.shortestPath source target c =
      ((viaSources A).or (if c.forbidAvoided then none else viaSources [])).or
        (g.shortestPath source target { c with requiredSources := [] }) ∧
    ∀ blocked ∈ [A, []], ∀ p, viaSources blocked = some p →
      g.IsRoute source target c.maxDegrees blocked p ∧
        g.CarriesSource source target c.requiredSources p := by
  intro A viaSources
  refine ⟨shortestPath_eq_viaSources hs ht hne hreq, fun blocked hblocked p hp => ?_⟩
  obtain ⟨hpath, hlen, hfree⟩ := search_sound hp
  -- neither end is blocked: `A` leaves them out
  have hends : source ∉ blocked := by
    rcases List.mem_pair.1 hblocked with rfl | rfl <;> simp [A]
  refine ⟨⟨hpath, hlen, fun x hx hxb => ?_⟩, search_carriesSource rfl hp⟩
  by_cases hxs : x = source
  · exact hends (hxs ▸ hxb)
  · exact hfree x hx hxs hxb

/-- The entities `0 … 6`, with `2` and `4` from the data source `S`, and the relationships
`0 - 1 - 6`, the triangle `1 - 2 - 3` and `0 - 4 - 5 - 3`. -/
def sevenNodes : EntityGraph :=
  [(0, 1), (1, 6), (1, 2), (2, 3), (3, 1), (0, 4), (4, 5), (5, 3)].foldl
    (fun g e => g.addRelationship e.1 e.2) ((({} : EntityGraph).addEntity 2 ["S"]).addEntity 4 ["S"])

/-- From `0` to `6` in five edges through `S`: the route `0 - 4 - 5 - 3 - 1 - 6` passes `4`, but
the search reaches `3` with its mark set first by `0 - 1 - 2 - 3`, from where `1` is taken,
so both searches for `S` answer nothing and the answer is `0 - 1 - 6`, which passes no
entity of `S`. -/
theorem sevenNodes_tiers :
    sevenNodes.contains 0 = true ∧ sevenNodes.contains 6 = true ∧ (0 : Int) ≠ 6 ∧
      (["S"] : List String) ≠ [] ∧
      (sevenNodes.shortestPath 0 6 ⟨5, [], false, ["S"]⟩ =
        ((sevenNodes.search 0 ⟨6, 5, [], some ["S"]⟩).or (if false then none
          else sevenNodes.search 0 ⟨6, 5, [], some ["S"]⟩)).or
          (sevenNodes.shortestPath 0 6 ⟨5, [], false, []⟩) ∧
        ∀ blocked ∈ [([] : List Int), []], ∀ p,
          sevenNodes.search 0 ⟨6, 5, blocked, some ["S"]⟩ = some p →
            sevenNodes.IsRoute 0 6 5 blocked p ∧ sevenNodes.CarriesSource 0 6 ["S"] p) ∧
      sevenNodes.shortestPath 0 6 ⟨5, [], false, ["S"]⟩ = some [0, 1, 6] ∧
      ¬sevenNodes.CarriesSource 0 6 ["S"] [0, 1, 6] ∧
      sevenNodes.IsRoute 0 6 5 [] [0, 4, 5, 3, 1, 6] ∧
      sevenNodes.CarriesSource 0 6 ["S"] [0, 4, 5, 3, 1, 6] :=
  ⟨by decide, by decide, by decide, by decide,
    @shortestPath_requiredSources sevenNodes 0 6 ⟨5, [], false, ["S"]⟩ (by decide) (by decide)
      (by decide) (by decide),
    by decide, by decide,
    ⟨⟨rfl, rfl, by decide, by decide⟩, by decide, by decide⟩, by decide⟩

end EntityGraph

end EntityGateway
