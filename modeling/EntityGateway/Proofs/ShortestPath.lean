import EntityGateway.Graph
import Mathlib.Data.List.Chain
import Mathlib.Data.List.Nodup

/-!
# Soundness of the shortest-path search

Every path `EntityGraph.shortestPath` answers is a simple path of the graph between the two
entities, within the degree bound, and avoids the avoided entities when they are forbidden.

The search keeps whole paths on its queue, newest entity first. `EntityGraph.Queued` is what
every queued path satisfies: it starts at the source, steps from neighbour to neighbour,
repeats no entity, passes no blocked entity and has at most one edge past the bound. One
extension step keeps it (`queued_cons`, `extend_queued`), so every run of the loop does
(`searchLoop_queued`), and a path the loop answers is a queued path read backwards
(`search_sound`). The four searches of `shortestPath` differ only in what they block, and the
ones that may pass avoided entities run only when they are not forbidden
(`shortestPath_search`).

* `shortestPath_isSimplePath`, `shortestPath_length_le`, `shortestPath_avoids` and
  `shortestPath_self` are the facts of an answer one by one;
* `shortestPath_sound` gathers them.
-/

namespace EntityGateway

namespace EntityGraph

variable {g : EntityGraph} {source target : Int}

/-- `p` is a simple path of `g` from `a` to `b`: each entity is followed by one of its
neighbours and no entity occurs twice. -/
structure IsSimplePath (g : EntityGraph) (a b : Int) (p : List Int) : Prop where
  head : p.head? = some a
  last : p.getLast? = some b
  chain : p.IsChain fun x y => y ∈ g.neighbors x
  nodup : p.Nodup

theorem isSimplePath_singleton (a : Int) : g.IsSimplePath a a [a] :=
  ⟨rfl, rfl, .singleton a, List.nodup_singleton a⟩

/-! ## Queued paths -/

/-- A path as the search from `source` queues it, newest entity first: it ends at `source`,
each entity is a neighbour of the one before it, no entity occurs twice, none but `source`
is blocked, and it has at most one edge past the bound. -/
structure Queued (g : EntityGraph) (source : Int) (s : Search) (path : List Int) : Prop where
  last : path.getLast? = some source
  chain : path.IsChain fun x y => x ∈ g.neighbors y
  nodup : path.Nodup
  unblocked : ∀ x ∈ path, x ≠ source → x ∉ s.blocked
  length_le : path.length ≤ s.maxDegrees + 1

theorem queued_start (s : Search) : Queued g source s [source] where
  last := rfl
  chain := .singleton source
  nodup := List.nodup_singleton source
  unblocked := by simp
  length_le := by simp

/-- One extension step: a neighbour of the newest entity, neither on the path nor blocked,
extends a queued path within the bound to a queued path. -/
theorem queued_cons {s : Search} {current n : Int} {rest : List Int}
    (hq : Queued g source s (current :: rest)) (hn : n ∈ g.neighbors current)
    (hfresh : n ∉ current :: rest) (hfree : n ∉ s.blocked)
    (hlen : (current :: rest).length ≤ s.maxDegrees) :
    Queued g source s (n :: current :: rest) where
  last := by rw [List.getLast?_cons_cons]; exact hq.last
  chain := hq.chain.cons_cons hn
  nodup := List.nodup_cons.2 ⟨hfresh, hq.nodup⟩
  unblocked := by
    intro x hx hxs
    rcases List.mem_cons.1 hx with rfl | hx
    · exact hfree
    · exact hq.unblocked x hx hxs
  length_le := by simp only [List.length_cons] at hlen ⊢; omega

/-- A property of queue entries holds of everything an extension queues when it holds of what was
queued before and of each entry the extension can add: the path one new unblocked entity longer,
marked only when the path was or the new entity, not the target, has a required source. -/
theorem extend_invariant {s : Search} {path : List Int} {satisfied : Bool}
    (Inv : List Int × Bool → Prop) :
    ∀ {ns : List Int} {visited : List (Int × Bool)} {queued : List (List Int × Bool)},
    (∀ e ∈ queued, Inv e) →
    (∀ n ∈ ns, n ∉ s.blocked → n ∉ path → ∀ met : Bool,
      (met = true → satisfied = true ∨
        n ≠ s.target ∧ ∃ r, s.required = some r ∧ g.hasAnySource n r = true) →
      Inv (n :: path, met)) →
    ∀ e ∈ (g.extend s path satisfied ns visited queued).2, Inv e
  | [], _, _, hqueued, _ => by simpa [extend] using hqueued
  | n :: ns, visited, queued, hqueued, hstep => by
    have hrest := fun m (hm : m ∈ ns) => hstep m (List.mem_cons_of_mem n hm)
    simp only [extend]
    split_ifs with hkeep hvisited
    · exact extend_invariant Inv hqueued hrest
    · exact extend_invariant Inv hqueued hrest
    · simp only [Bool.or_eq_true, List.contains_iff_mem, not_or] at hkeep
      refine extend_invariant Inv ?_ hrest
      intro e he
      rcases List.mem_append.1 he with he | he
      · exact hqueued e he
      · rw [List.mem_singleton.1 he]
        refine hstep n List.mem_cons_self hkeep.1 hkeep.2 _ ?_
        -- the new mark, read off the search's required sources
        cases s.required <;> simp

/-- Every path `extend` queues is a queued path, when the path it extends is one within the
bound and the candidates are neighbours of its newest entity. -/
theorem extend_queued {s : Search} {current : Int} {rest : List Int} {satisfied : Bool}
    (hq : Queued g source s (current :: rest)) (hlen : (current :: rest).length ≤ s.maxDegrees)
    {ns : List Int} (hns : ∀ n ∈ ns, n ∈ g.neighbors current)
    {visited : List (Int × Bool)} {queued : List (List Int × Bool)}
    (hqueued : ∀ e ∈ queued, Queued g source s e.1) :
    ∀ e ∈ (g.extend s (current :: rest) satisfied ns visited queued).2, Queued g source s e.1 :=
  extend_invariant (fun e => Queued g source s e.1) hqueued fun n hn hfree hfresh _ _ =>
    queued_cons hq (hns n hn) hfresh hfree hlen

/-- A property of queue entries that every extension of an entry within the bound keeps holds of
the entry whose path the loop answers: an entry at the target that meets the requirement. -/
theorem searchLoop_invariant {s : Search} (Inv : List Int × Bool → Prop)
    (hstep : ∀ current tail satisfied visited, Inv (current :: tail, satisfied) →
      (current :: tail).length ≤ s.maxDegrees →
      ∀ e ∈ (g.extend s (current :: tail) satisfied (g.neighbors current) visited []).2, Inv e) :
    ∀ {fuel : Nat} {visited : List (Int × Bool)} {queue : List (List Int × Bool)} {p : List Int},
      (∀ e ∈ queue, Inv e) → g.searchLoop s fuel visited queue = some p →
      ∃ e, Inv e ∧ e.1.head? = some s.target ∧ (s.required.isNone || e.2) = true ∧ p = e.1.reverse := by
  intro fuel
  induction fuel with
  | zero =>
    intro visited queue p _ h
    simp [searchLoop] at h
  | succ fuel ih =>
    intro visited queue p hqueue h
    rcases queue with _ | ⟨⟨path, satisfied⟩, rest⟩
    · simp [searchLoop] at h
    have hrest : ∀ e ∈ rest, Inv e := fun e he => hqueue e (List.mem_cons_of_mem _ he)
    have hpath : Inv (path, satisfied) := hqueue _ List.mem_cons_self
    rcases path with _ | ⟨current, tail⟩
    · exact ih hrest h
    simp only [searchLoop] at h
    split at h
    · rename_i htarget
      split at h
      · rename_i hmet
        exact ⟨(current :: tail, satisfied), hpath, by simp [htarget], hmet, (Option.some.inj h).symm⟩
      · exact ih hrest h
    · split at h
      · exact ih hrest h
      · refine ih ?_ h
        intro e he
        rcases List.mem_append.1 he with he | he
        · exact hrest e he
        · exact hstep current tail satisfied visited hpath (by omega) e he

/-- A run of the search loop over queued paths answers a queued path ending at the target,
read backwards. -/
theorem searchLoop_queued {s : Search} {fuel : Nat} {visited : List (Int × Bool)}
    {queue : List (List Int × Bool)} {p : List Int}
    (hqueue : ∀ e ∈ queue, Queued g source s e.1) (h : g.searchLoop s fuel visited queue = some p) :
    ∃ path, Queued g source s path ∧ path.head? = some s.target ∧ p = path.reverse := by
  obtain ⟨e, hq, hhead, -, rfl⟩ := searchLoop_invariant (fun e => Queued g source s e.1)
    (fun _ _ _ _ hq hlen => extend_queued hq hlen (fun _ hn => hn) (by simp)) hqueue h
  exact ⟨e.1, hq, hhead, rfl⟩

/-! ## Answers of one search -/

/-- A path one search answers is a simple path from the source to the target within the
bound, through no blocked entity but the source. -/
theorem search_sound {s : Search} {p : List Int} (h : g.search source s = some p) :
    g.IsSimplePath source s.target p ∧ p.length ≤ s.maxDegrees + 1 ∧
      ∀ x ∈ p, x ≠ source → x ∉ s.blocked := by
  obtain ⟨path, hq, hhead, rfl⟩ :=
    searchLoop_queued (by simpa using @queued_start g source s) h
  refine ⟨⟨?_, ?_, ?_, ?_⟩, ?_, ?_⟩
  · rw [List.head?_reverse]; exact hq.last
  · rw [List.getLast?_reverse]; exact hhead
  · exact List.isChain_reverse.2 hq.chain
  · exact List.nodup_reverse.2 hq.nodup
  · simpa using hq.length_le
  · intro x hx
    exact hq.unblocked x (List.mem_reverse.1 hx)

/-! ## Answers of the constrained search -/

variable {c : PathConstraints} {p : List Int}

/-- An entity path to itself is the entity alone. -/
theorem shortestPath_self (h : g.shortestPath source source c = some p) : p = [source] := by
  unfold shortestPath at h
  split at h
  · cases h
  · simpa using h.symm

/-- A path between two distinct entities is the answer of one of the searches, and of one that
blocks the avoided entities other than the endpoints when those are forbidden. -/
theorem shortestPath_search (h : g.shortestPath source target c = some p) (hne : source ≠ target) :
    ∃ blocked required, g.search source ⟨target, c.maxDegrees, blocked, required⟩ = some p ∧
      (c.forbidAvoided = true → blocked = c.avoid.filter fun id => id != source && id != target) := by
  unfold shortestPath at h
  split at h
  · cases h
  · simp only at h
    split at h
    · -- a search asking for the required sources answered
      rename_i q hws
      cases h
      split at hws
      · cases hws
      · split at hws
        · rename_i q' hfirst
          exact ⟨_, _, hfirst.trans hws, fun _ => rfl⟩
        · split at hws
          · cases hws
          · rename_i hforbid
            exact ⟨_, _, hws, fun h => absurd h hforbid⟩
    · split at h
      · rename_i q hthird
        exact ⟨_, _, hthird.trans h, fun _ => rfl⟩
      · split at h
        · cases h
        · rename_i hforbid
          exact ⟨_, _, h, fun h => absurd h hforbid⟩

/-- Every answer is a simple path between the two entities. -/
theorem shortestPath_isSimplePath (h : g.shortestPath source target c = some p) :
    g.IsSimplePath source target p := by
  by_cases hne : source = target
  · subst hne
    rw [shortestPath_self h]
    exact isSimplePath_singleton source
  · obtain ⟨blocked, required, hs, -⟩ := shortestPath_search h hne
    exact (search_sound hs).1

/-- Every answer has at most `maxDegrees` edges. -/
theorem shortestPath_length_le (h : g.shortestPath source target c = some p) :
    p.length ≤ c.maxDegrees + 1 := by
  by_cases hne : source = target
  · subst hne
    simp [shortestPath_self h]
  · obtain ⟨blocked, required, hs, -⟩ := shortestPath_search h hne
    exact (search_sound hs).2.1

/-- When avoided entities are forbidden, an answer passes none of them but its endpoints. -/
theorem shortestPath_avoids (h : g.shortestPath source target c = some p)
    (hforbid : c.forbidAvoided = true) : ∀ x ∈ p, x ≠ source → x ≠ target → x ∉ c.avoid := by
  intro x hx hxs hxt hxa
  by_cases hne : source = target
  · subst hne
    rw [shortestPath_self h] at hx
    exact hxs (List.mem_singleton.1 hx)
  · obtain ⟨blocked, required, hs, hblocked⟩ := shortestPath_search h hne
    apply (search_sound hs).2.2 x hx hxs
    rw [hblocked hforbid]
    simp [hxa, hxs, hxt]

/-- **Soundness of shortest paths.** An answer is a simple path between the two entities with
at most `maxDegrees` edges (the entity alone when the two are one), and passes no forbidden
entity but its endpoints. -/
theorem shortestPath_sound (h : g.shortestPath source target c = some p) :
    g.IsSimplePath source target p ∧ p.length ≤ c.maxDegrees + 1 ∧
      (source = target → p = [source]) ∧
      (c.forbidAvoided = true → ∀ x ∈ p, x ≠ source → x ≠ target → x ∉ c.avoid) := by
  refine ⟨shortestPath_isSimplePath h, shortestPath_length_le h, ?_, shortestPath_avoids h⟩
  rintro rfl
  exact shortestPath_self h

/-- The entities `1 - 2 - 3 - 6`, with a second route `1 - 7 - 3`. -/
def twoRoutes : EntityGraph :=
  ((((({} : EntityGraph).addRelationship 1 2).addRelationship 2 3).addRelationship 3 6).addRelationship
    1 7).addRelationship 7 3

/-- Forbidding `2` sends the path from `1` to `3` through `7`. -/
theorem twoRoutes_forbidding_two :
    twoRoutes.shortestPath 1 3 ⟨3, [2], true, []⟩ = some [1, 7, 3] ∧
      (twoRoutes.IsSimplePath 1 3 [1, 7, 3] ∧ ([1, 7, 3] : List Int).length ≤ 3 + 1 ∧
        ((1 : Int) = 3 → ([1, 7, 3] : List Int) = [1]) ∧
        (true = true → ∀ x ∈ ([1, 7, 3] : List Int), x ≠ 1 → x ≠ 3 → x ∉ ([2] : List Int))) :=
  have h : twoRoutes.shortestPath 1 3 ⟨3, [2], true, []⟩ = some [1, 7, 3] := by decide
  ⟨h, shortestPath_sound h⟩

end EntityGraph

end EntityGateway
