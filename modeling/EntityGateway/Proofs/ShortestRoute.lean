import EntityGateway.Proofs.ShortestPath
import Mathlib.Data.Int.Order.Basic

/-!
# Shortest paths are shortest

`EntityGraph.shortestPath`, asked for no data source, answers a path of fewest edges: among
the routes within the bound that pass no avoided entity when there is one; otherwise nothing
when avoided entities are forbidden, and else a path of fewest edges among all routes within
the bound, or nothing when there is none.

The search behind it is breadth-first over whole paths, a state marked visited when it is
first queued, and a path at the bound not extended. `EntityGraph.Reach` says which entities
such a search can reach and in how many edges: a walk that leaves only entities other than the
target, within the bound, to neighbours that are not blocked. `EntityGraph.Frontier` is what
the loop keeps: every queued path is a shortest walk to its newest entity, the queue holds
paths of one length and then of the next, an entity whose path has left the queue has its
neighbours visited, and the target is visited only while its path is queued. From it,

* `Frontier.reach_visited`: every entity reachable in fewer edges than the queue's paths have
  is visited already;
* `Frontier.skip` and `Frontier.expand`: taking a path off the queue, and extending it, keep
  the frontier;
* `searchLoop_settled`: the loop never runs out of fuel over a graph whose neighbours are
  nodes, answers a path no longer than any walk to the target, and answers nothing only when
  there is no walk to it;
* `search_shortestAnswer`: one search answers a shortest route, or nothing when there is no
  route;
* `shortestPath_fewest_edges`: the preference order of `shortestPath` over the searches.
-/

namespace EntityGateway

namespace EntityGraph

/-! ## Graphs as they are built -/

/-- The graphs that `addEntity` and `addRelationship` build from the empty graph. -/
inductive Built : EntityGraph → Prop
  | empty : Built {}
  | addEntity {g : EntityGraph} (e : Int) (dataSources : List String) :
      Built g → Built (g.addEntity e dataSources)
  | addRelationship {g : EntityGraph} (a b : Int) : Built g → Built (g.addRelationship a b)

/-- The entities that are nodes of a graph. -/
def nodes (g : EntityGraph) : List Int := g.adjacency.map Prod.fst

/-- Every neighbour a graph lists is itself a node. -/
def Closed (g : EntityGraph) : Prop := ∀ e ∈ g.adjacency, ∀ b ∈ e.2, b ∈ g.nodes

theorem mem_insertAscending {α : Type} [Ord α] {x y : α} {l : List α} (h : x ∈ insertAscending y l) :
    x = y ∨ x ∈ l := by
  induction l with
  | nil => simpa [insertAscending] using h
  | cons z rest ih =>
    simp only [insertAscending] at h
    cases hc : compare y z <;> simp only [hc, List.mem_cons] at h
    · rcases h with h | h <;> simp [h]
    · exact .inr (by simpa using h)
    · rcases h with h | h
      · simp [h]
      · rcases ih h with h | h <;> simp [h]

/-- Every entry of an update is an entry of the list, the new entry, or a changed one. -/
theorem forall_mem_updateAscending {κ β : Type} [Ord κ] {k : κ} {init : β} {f : β → β}
    (P : κ × β → Prop) {l : List (κ × β)} (hl : ∀ e ∈ l, P e) (hinit : P (k, f init))
    (hf : ∀ e ∈ l, P (e.1, f e.2)) : ∀ e ∈ updateAscending k init f l, P e := by
  induction l with
  | nil => simpa [updateAscending] using hinit
  | cons e rest ih =>
    obtain ⟨k', v⟩ := e
    have hrest : ∀ e ∈ rest, P e := fun e he => hl e (by simp [he])
    have hfrest : ∀ e ∈ rest, P (e.1, f e.2) := fun e he => hf e (by simp [he])
    simp only [updateAscending]
    cases compare k k' <;> simp only [List.mem_cons, forall_eq_or_imp]
    · exact ⟨hinit, hl _ (by simp), hrest⟩
    · exact ⟨hf (k', v) (by simp), hrest⟩
    · exact ⟨hl _ (by simp), ih hrest hfrest⟩

theorem nodes_subset_updateAscending {k x : Int} {init : List Int} {f : List Int → List Int}
    {l : List (Int × List Int)} (hx : x ∈ l.map Prod.fst ∨ x = k) :
    x ∈ (updateAscending k init f l).map Prod.fst := by
  induction l with
  | nil => simpa [updateAscending] using hx
  | cons e rest ih =>
    obtain ⟨k', v⟩ := e
    simp only [updateAscending]
    cases hc : compare k k'
    · rcases hx with hx | rfl <;> simp_all
    · have : k = k' := compare_eq_iff_eq.1 hc
      subst this
      rcases hx with hx | rfl <;> simp_all
    · simp only [List.map_cons, List.mem_cons] at hx ⊢
      rcases hx with (rfl | hx) | rfl
      · exact .inl rfl
      · exact .inr (ih (.inl hx))
      · exact .inr (ih (.inr rfl))

theorem closed_empty : Closed {} := by simp [Closed]

theorem closed_addEntity {g : EntityGraph} (hg : g.Closed) (e : Int) (ds : List String) :
    (g.addEntity e ds).Closed := by
  intro x hx
  simp only [addEntity] at hx
  refine forall_mem_updateAscending (fun x => ∀ b ∈ x.2, b ∈ (g.addEntity e ds).nodes)
    ?_ (by simp) ?_ x hx
  all_goals
    intro y hy b hb
    exact nodes_subset_updateAscending (.inl (hg y hy b hb))

theorem closed_addRelationship {g : EntityGraph} (hg : g.Closed) (a b : Int) :
    (g.addRelationship a b).Closed := by
  unfold addRelationship
  split
  · exact hg
  · -- the nodes after both updates: the old ones, `a` and `b`
    have hnode : ∀ x, x ∈ g.nodes ∨ x = a ∨ x = b →
        x ∈ (updateAscending b [] (insertAscending a)
          (updateAscending a [] (insertAscending b) g.adjacency)).map Prod.fst := by
      rintro x (hx | rfl | rfl)
      · exact nodes_subset_updateAscending (.inl (nodes_subset_updateAscending (.inl hx)))
      · exact nodes_subset_updateAscending (.inl (nodes_subset_updateAscending (.inr rfl)))
      · exact nodes_subset_updateAscending (.inr rfl)
    have hfirst : ∀ y ∈ updateAscending a [] (insertAscending b) g.adjacency,
        ∀ c ∈ y.2, c ∈ g.nodes ∨ c = a ∨ c = b := by
      refine forall_mem_updateAscending _ (fun y hy c hc => .inl (hg y hy c hc)) ?_ ?_
      · intro c hc
        simp [insertAscending] at hc
        exact .inr (.inr hc)
      · intro y hy c hc
        rcases mem_insertAscending hc with rfl | hc
        · exact .inr (.inr rfl)
        · exact .inl (hg y hy c hc)
    intro y hy c hc
    refine hnode c ?_
    refine forall_mem_updateAscending (fun y => ∀ c ∈ y.2, c ∈ g.nodes ∨ c = a ∨ c = b)
      hfirst ?_ ?_ y hy c hc
    · intro c hc
      simp [insertAscending] at hc
      exact .inr (.inl hc)
    · intro y hy c hc
      rcases mem_insertAscending hc with rfl | hc
      · exact .inr (.inl rfl)
      · exact hfirst y hy c hc

/-- A graph built by adding entities and relationships lists only nodes as neighbours. -/
theorem Built.closed {g : EntityGraph} (h : g.Built) : g.Closed := by
  induction h with
  | empty => exact closed_empty
  | addEntity e ds _ ih => exact closed_addEntity ih e ds
  | addRelationship a b _ ih => exact closed_addRelationship ih a b

theorem mem_of_lookup_eq_some {l : List (Int × List Int)} {a : Int} {ns : List Int}
    (h : l.lookup a = some ns) : (a, ns) ∈ l := by
  induction l with
  | nil => simp at h
  | cons e rest ih =>
    obtain ⟨k, v⟩ := e
    by_cases hk : a = k
    · subst hk
      simp only [List.lookup_cons, beq_self_eq_true, Option.some.injEq] at h
      simp [h]
    · simp only [List.lookup_cons, beq_eq_false_iff_ne.2 hk] at h
      exact List.mem_cons_of_mem _ (ih h)

/-- In a closed graph a neighbour is a node. -/
theorem Closed.mem_nodes {g : EntityGraph} (hg : g.Closed) {a b : Int} (hb : b ∈ g.neighbors a) :
    b ∈ g.nodes := by
  unfold neighbors at hb
  cases h : g.adjacency.lookup a with
  | none => simp [h] at hb
  | some ns =>
    rw [h, Option.getD_some] at hb
    exact hg _ (mem_of_lookup_eq_some h) b hb

theorem contains_iff_mem_nodes {g : EntityGraph} {a : Int} : g.contains a = true ↔ a ∈ g.nodes := by
  unfold contains nodes
  induction g.adjacency with
  | nil => simp
  | cons e rest ih =>
    obtain ⟨k, v⟩ := e
    by_cases hk : a = k
    · subst hk
      simp
    · simp [List.lookup_cons, beq_eq_false_iff_ne.2 hk, ih, hk]

/-! ## Routes and the walks of a search -/

/-- `q` is a route from `a` to `b`: a simple path of at most `bound` edges through no entity of
`blocked`. -/
structure IsRoute (g : EntityGraph) (a b : Int) (bound : Nat) (blocked : List Int) (q : List Int) :
    Prop where
  path : g.IsSimplePath a b q
  length_le : q.length ≤ bound + 1
  unblocked : ∀ x ∈ q, x ∉ blocked

/-- `p` is a route with no more entities than any other. -/
def IsShortestRoute (g : EntityGraph) (a b : Int) (bound : Nat) (blocked : List Int) (p : List Int) :
    Prop :=
  g.IsRoute a b bound blocked p ∧ ∀ q, g.IsRoute a b bound blocked q → p.length ≤ q.length

/-- What a search for a route should answer: a shortest route, or nothing when there is none. -/
def ShortestAnswer (g : EntityGraph) (a b : Int) (bound : Nat) (blocked : List Int) :
    Option (List Int) → Prop
  | some p => g.IsShortestRoute a b bound blocked p
  | none => ∀ q, ¬g.IsRoute a b bound blocked q

/-- The entities a search from `source` can reach, and in how many edges: it leaves only
entities other than its target, only within its bound, and only to neighbours that are not
blocked. -/
inductive Reach (g : EntityGraph) (source : Int) (s : Search) : Int → Nat → Prop
  | start : Reach g source s source 0
  | step {u v : Int} {k : Nat} : Reach g source s u k → u ≠ s.target → k + 1 ≤ s.maxDegrees →
      v ∈ g.neighbors u → v ∉ s.blocked → Reach g source s v (k + 1)

variable {g : EntityGraph} {source : Int} {s : Search}

/-- A path kept newest entity first, from `source`, whose older entities are not the target,
is a walk the search can make. -/
theorem reach_of_chain (hsource : source ∉ s.blocked) :
    ∀ (v : Int) (rest : List Int), (v :: rest).getLast? = some source →
      (v :: rest).IsChain (fun x y => x ∈ g.neighbors y) → (∀ x ∈ rest, x ≠ s.target) →
      (∀ x ∈ v :: rest, x ∉ s.blocked) → rest.length ≤ s.maxDegrees →
      g.Reach source s v rest.length
  | v, [], hlast, _, _, _, _ => by
    simp only [List.getLast?_singleton, Option.some.injEq] at hlast
    subst hlast
    exact .start
  | v, u :: rest, hlast, hchain, htarget, hfree, hlen => by
    rw [List.getLast?_cons_cons] at hlast
    obtain ⟨hvu, hchain⟩ := List.isChain_cons_cons.1 hchain
    have hu : g.Reach source s u rest.length :=
      reach_of_chain hsource u rest hlast hchain (fun x hx => htarget x (by simp [hx]))
        (fun x hx => hfree x (by simp [hx])) (by simp at hlen; omega)
    exact .step hu (htarget u (by simp)) (by simpa using hlen) hvu (hfree v (by simp))

/-- The search can walk every route to its target, in as many edges as the route has. -/
theorem reach_of_isRoute (hsource : source ∉ s.blocked) {q : List Int}
    (hq : g.IsRoute source s.target s.maxDegrees s.blocked q) :
    g.Reach source s s.target (q.length - 1) := by
  obtain ⟨⟨hhead, hlast, hchain, hnodup⟩, hlen, hfree⟩ := hq
  -- the route read backwards starts at the target, which occurs nowhere else
  obtain ⟨rest, hrev⟩ : ∃ rest, q.reverse = s.target :: rest := by
    rw [← List.head?_reverse] at hlast
    cases h : q.reverse with
    | nil => simp [h] at hlast
    | cons x rest => simp_all
  have hnodup' : (s.target :: rest).Nodup := hrev ▸ List.nodup_reverse.2 hnodup
  have hlen' : q.length = rest.length + 1 := by
    rw [← List.length_reverse, hrev, List.length_cons]
  rw [hlen', Nat.add_sub_cancel]
  refine reach_of_chain hsource s.target rest ?_ ?_ ?_ ?_ (by omega)
  · rw [← hrev, List.getLast?_reverse]
    exact hhead
  · rw [← hrev]
    exact List.isChain_reverse.2 hchain
  · intro x hx hxt
    subst hxt
    exact (List.nodup_cons.1 hnodup').1 hx
  · intro x hx
    exact hfree x (List.mem_reverse.1 (hrev ▸ hx))

/-! ## One extension step -/

section Extend

variable (hreq : s.required = none) {path : List Int}
include hreq

/-- Without required sources, an extension marks nothing as met. -/
theorem extend_cons_unmet (n : Int) (ns : List Int) (visited : List (Int × Bool))
    (queued : List (List Int × Bool)) :
    g.extend s path false (n :: ns) visited queued =
      if n ∈ s.blocked ∨ n ∈ path then g.extend s path false ns visited queued
      else if (n, false) ∈ visited then g.extend s path false ns visited queued
      else g.extend s path false ns ((n, false) :: visited) (queued ++ [(n :: path, false)]) := by
  simp [extend, hreq]

/-- What each state an extension adds keeps holds of the whole extension. -/
theorem extend_induction (P : List (Int × Bool) → List (List Int × Bool) → Prop) :
    ∀ {ns : List Int} {visited : List (Int × Bool)} {queued : List (List Int × Bool)},
    P visited queued →
    (∀ n ∈ ns, ∀ V Q, P V Q → n ∉ s.blocked → n ∉ path → (n, false) ∉ V →
      P ((n, false) :: V) (Q ++ [(n :: path, false)])) →
    P (g.extend s path false ns visited queued).1 (g.extend s path false ns visited queued).2
  | [], _, _, h0, _ => h0
  | n :: ns, visited, queued, h0, hstep => by
    have hrest : ∀ m ∈ ns, ∀ V Q, P V Q → m ∉ s.blocked → m ∉ path → (m, false) ∉ V →
        P ((m, false) :: V) (Q ++ [(m :: path, false)]) := fun m hm => hstep m (by simp [hm])
    rw [extend_cons_unmet hreq]
    split_ifs with hkeep hvisited
    · exact extend_induction P h0 hrest
    · exact extend_induction P h0 hrest
    · simp only [not_or] at hkeep
      exact extend_induction P (hstep n (by simp) _ _ h0 hkeep.1 hkeep.2 hvisited) hrest

theorem visited_subset_extend {ns : List Int} {visited : List (Int × Bool)}
    {queued : List (List Int × Bool)} {x : Int × Bool} (hx : x ∈ visited) :
    x ∈ (g.extend s path false ns visited queued).1 :=
  extend_induction hreq (fun V _ => x ∈ V) hx fun _ _ _ _ hV _ _ _ => List.mem_cons_of_mem _ hV

/-- Every new entry of an extension goes to a new state, unblocked and unvisited before. -/
theorem mem_extend_queued {ns : List Int} {visited : List (Int × Bool)} {e : List Int × Bool}
    (he : e ∈ (g.extend s path false ns visited []).2) :
    ∃ n ∈ ns, e = (n :: path, false) ∧ n ∉ s.blocked ∧ (n, false) ∉ visited ∧
      (n, false) ∈ (g.extend s path false ns visited []).1 := by
  refine extend_induction hreq (fun V Q => (∀ x ∈ visited, x ∈ V) ∧ ∀ e ∈ Q,
    ∃ n ∈ ns, e = (n :: path, false) ∧ n ∉ s.blocked ∧ (n, false) ∉ visited ∧ (n, false) ∈ V)
    ⟨fun _ hx => hx, by simp⟩ ?_ |>.2 e he
  rintro n hn V Q ⟨hsub, hQ⟩ hfree - hnew
  refine ⟨fun x hx => List.mem_cons_of_mem _ (hsub x hx), fun e he => ?_⟩
  rcases List.mem_append.1 he with he | he
  · obtain ⟨m, hm, rfl, hmfree, hmold, hmV⟩ := hQ e he
    exact ⟨m, hm, rfl, hmfree, hmold, List.mem_cons_of_mem _ hmV⟩
  · rw [List.mem_singleton.1 he]
    exact ⟨n, hn, rfl, hfree, fun h => hnew (hsub _ h), List.mem_cons_self⟩

/-- A state an extension marks visited is the newest entity of one of its entries. -/
theorem extend_visited_new {ns : List Int} {visited : List (Int × Bool)}
    {queued : List (List Int × Bool)} {x : Int × Bool}
    (hx : x ∈ (g.extend s path false ns visited queued).1) :
    x ∈ visited ∨ (x.1 :: path, x.2) ∈ (g.extend s path false ns visited queued).2 := by
  refine extend_induction hreq (fun V Q => ∀ x ∈ V, x ∈ visited ∨ (x.1 :: path, x.2) ∈ Q)
    (fun x hx => .inl hx) ?_ x hx
  intro n _ V Q hV _ _ _ x hx
  rcases List.mem_cons.1 hx with rfl | hx
  · exact .inr (by simp)
  · rcases hV x hx with h | h
    · exact .inl h
    · exact .inr (List.mem_append_left _ h)

/-- An extension queues as many entries as it adds states. -/
theorem extend_length {ns : List Int} {visited : List (Int × Bool)}
    {queued : List (List Int × Bool)} :
    (g.extend s path false ns visited queued).1.length + queued.length =
      visited.length + (g.extend s path false ns visited queued).2.length :=
  extend_induction hreq (fun V Q => V.length + queued.length = visited.length + Q.length)
    rfl fun _ _ _ _ hV _ _ _ => by simp only [List.length_cons, List.length_append, List.length_nil] at hV ⊢; omega

theorem extend_nodup {ns : List Int} {visited : List (Int × Bool)}
    {queued : List (List Int × Bool)} (h : visited.Nodup) :
    (g.extend s path false ns visited queued).1.Nodup :=
  extend_induction hreq (fun V _ => V.Nodup) h
    fun _ _ _ _ hV _ _ hnew => List.nodup_cons.2 ⟨hnew, hV⟩

/-- After an extension, every candidate neither blocked nor on the path is visited. -/
theorem mem_extend_visited : ∀ {ns : List Int} {visited : List (Int × Bool)}
    {queued : List (List Int × Bool)} {n : Int}, n ∈ ns → n ∉ s.blocked → n ∉ path →
    (n, false) ∈ (g.extend s path false ns visited queued).1
  | m :: ns, visited, queued, n, hn, hfree, hoff => by
    rw [extend_cons_unmet hreq]
    rcases List.mem_cons.1 hn with rfl | hn
    · rw [if_neg (by simp [hfree, hoff])]
      split_ifs with hvisited
      · exact visited_subset_extend hreq hvisited
      · exact visited_subset_extend hreq List.mem_cons_self
    · split_ifs
      all_goals exact mem_extend_visited hn hfree hoff

end Extend

/-! ## The frontier of the search loop -/

/-- What the search loop keeps of its visited states and its queue, for a search that asks for
no data source. -/
structure Frontier (g : EntityGraph) (source : Int) (s : Search) (visited : List (Int × Bool))
    (queue : List (List Int × Bool)) : Prop where
  queued : ∀ e ∈ queue, Queued g source s e.1
  unmet : ∀ e ∈ queue, e.2 = false
  on_visited : ∀ e ∈ queue, ∀ x ∈ e.1, (x, false) ∈ visited
  /-- A queued path is a shortest walk to its newest entity. -/
  shortest : ∀ e ∈ queue, ∀ v k, e.1.head? = some v → g.Reach source s v k → e.1.length ≤ k + 1
  /-- The queue holds paths of one length, then paths one entity longer. -/
  ascending : (queue.map fun e => e.1.length).Pairwise (· ≤ ·)
  spread : ∀ a ∈ queue, ∀ b ∈ queue, b.1.length ≤ a.1.length + 1
  source_visited : (source, false) ∈ visited
  /-- An entity whose path has left the queue, and that the search extends, has its neighbours
  visited. -/
  closed : ∀ u k, (u, false) ∈ visited → (∀ e ∈ queue, e.1.head? ≠ some u) → u ≠ s.target →
    g.Reach source s u k → k + 1 ≤ s.maxDegrees → ∀ v ∈ g.neighbors u, v ∉ s.blocked →
    (v, false) ∈ visited
  target_queued : (s.target, false) ∈ visited → ∃ e ∈ queue, e.1.head? = some s.target
  nodup : visited.Nodup
  nodes : ∀ x ∈ visited, x.2 = false ∧ x.1 ∈ g.nodes

namespace Frontier

variable {visited : List (Int × Bool)} {queue : List (List Int × Bool)}

/-- The search starts with the source alone. -/
theorem start (hs : source ∈ g.nodes) : Frontier g source s [(source, false)] [([source], false)] where
  queued := by simpa using queued_start s
  unmet := by simp
  on_visited := by simp
  shortest := by simp
  ascending := by simp
  spread := by simp
  source_visited := by simp
  closed := by
    intro u k hu hhead
    simp only [List.mem_singleton, Prod.mk.injEq, and_true] at hu
    subst hu
    exact absurd rfl (hhead _ List.mem_cons_self)
  target_queued := by
    intro ht
    simp only [List.mem_singleton, Prod.mk.injEq, and_true] at ht
    exact ⟨_, List.mem_cons_self, by simp [ht]⟩
  nodup := List.nodup_singleton _
  nodes := by simpa using hs

/-- There are no more visited states than nodes. -/
theorem length_le (hf : Frontier g source s visited queue) : visited.length ≤ g.nodes.length := by
  have hsub : visited ⊆ g.nodes.map (·, false) := by
    intro x hx
    obtain ⟨hfalse, hnode⟩ := hf.nodes x hx
    exact List.mem_map.2 ⟨x.1, hnode, by rw [← hfalse]⟩
  simpa using hf.nodup.length_le_of_subset hsub

/-- Every entity the search reaches in fewer edges than every queued path has is visited. -/
theorem reach_visited (hf : Frontier g source s visited queue) {v : Int} {k : Nat}
    (hv : g.Reach source s v k) (hk : ∀ e ∈ queue, k < e.1.length) : (v, false) ∈ visited := by
  induction hv with
  | start => exact hf.source_visited
  | @step u w k hu hne hbound hw hfree ih =>
    -- the entity before is visited, and its path has left the queue since it is shorter
    have hu_visited : (u, false) ∈ visited := ih fun e he => by have := hk e he; omega
    refine hf.closed u k hu_visited ?_ hne hu hbound w hw hfree
    intro e he hhead
    have := hf.shortest e he u k hhead hu
    have := hk e he
    omega

/-- A path over the bound leaves the queue without being extended. -/
theorem skip {path : List Int} {sat : Bool} {rest : List (List Int × Bool)}
    (hf : Frontier g source s visited ((path, sat) :: rest)) (htarget : path.head? ≠ some s.target)
    (hlong : s.maxDegrees < path.length) : Frontier g source s visited rest where
  queued e he := hf.queued e (List.mem_cons_of_mem _ he)
  unmet e he := hf.unmet e (List.mem_cons_of_mem _ he)
  on_visited e he := hf.on_visited e (List.mem_cons_of_mem _ he)
  shortest e he := hf.shortest e (List.mem_cons_of_mem _ he)
  ascending := by
    have h := hf.ascending
    rw [List.map_cons, List.pairwise_cons] at h
    exact h.2
  spread a ha b hb := hf.spread a (List.mem_cons_of_mem _ ha) b (List.mem_cons_of_mem _ hb)
  source_visited := hf.source_visited
  closed u k hu hhead hne hreach hbound := by
    -- the path that left is too long to be a shortest walk to an entity the search extends
    refine hf.closed u k hu ?_ hne hreach hbound
    intro e he hhead'
    rcases List.mem_cons.1 he with rfl | he
    · have : path.length ≤ k + 1 := hf.shortest _ List.mem_cons_self u k hhead' hreach
      omega
    · exact hhead e he hhead'
  target_queued ht := by
    obtain ⟨e, he, hhead⟩ := hf.target_queued ht
    rcases List.mem_cons.1 he with rfl | he
    · exact absurd hhead htarget
    · exact ⟨e, he, hhead⟩
  nodup := hf.nodup
  nodes := hf.nodes

/-- Extending the front path by its neighbours keeps the frontier: each new path is one entity
longer than the front, and no walk reaches its newest entity in fewer edges, or that entity
would have been visited already. -/
theorem expand (hreq : s.required = none) (hg : g.Closed) {u : Int} {tail : List Int} {sat : Bool}
    {rest : List (List Int × Bool)} (hf : Frontier g source s visited ((u :: tail, sat) :: rest))
    (ht : u ≠ s.target) (hlen : (u :: tail).length ≤ s.maxDegrees) :
    Frontier g source s (g.extend s (u :: tail) sat (g.neighbors u) visited []).1
      (rest ++ (g.extend s (u :: tail) sat (g.neighbors u) visited []).2) := by
  obtain rfl : sat = false := hf.unmet _ List.mem_cons_self
  set r := g.extend s (u :: tail) false (g.neighbors u) visited [] with hr
  have hsub : ∀ x ∈ visited, x ∈ r.1 := fun x hx => visited_subset_extend hreq hx
  have hnew : ∀ e ∈ r.2, ∃ n ∈ g.neighbors u, e = (n :: u :: tail, false) ∧ n ∉ s.blocked ∧
      (n, false) ∉ visited ∧ (n, false) ∈ r.1 := fun e he => mem_extend_queued hreq he
  have hfront : ∀ e ∈ rest, (u :: tail).length ≤ e.1.length := by
    have h := hf.ascending
    rw [List.map_cons, List.pairwise_cons] at h
    exact fun e he => h.1 _ (List.mem_map_of_mem he)
  have hnear : ∀ e ∈ rest, e.1.length ≤ (u :: tail).length + 1 :=
    fun e he => hf.spread _ List.mem_cons_self e (List.mem_cons_of_mem _ he)
  have hnew_length : ∀ e ∈ r.2, e.1.length = (u :: tail).length + 1 := by
    intro e he
    obtain ⟨n, -, rfl, -⟩ := hnew e he
    rfl
  constructor
  · intro e he
    rcases List.mem_append.1 he with he | he
    · exact hf.queued e (List.mem_cons_of_mem _ he)
    · exact extend_queued (hf.queued _ List.mem_cons_self) hlen (fun n hn => hn) (by simp) e he
  · intro e he
    rcases List.mem_append.1 he with he | he
    · exact hf.unmet e (List.mem_cons_of_mem _ he)
    · obtain ⟨n, -, rfl, -⟩ := hnew e he
      rfl
  · intro e he x hx
    rcases List.mem_append.1 he with he | he
    · exact hsub _ (hf.on_visited e (List.mem_cons_of_mem _ he) x hx)
    · obtain ⟨n, -, rfl, -, -, hn⟩ := hnew e he
      rcases List.mem_cons.1 hx with rfl | hx
      · exact hn
      · exact hsub _ (hf.on_visited _ List.mem_cons_self x hx)
  · intro e he v k hhead hv
    rcases List.mem_append.1 he with he | he
    · exact hf.shortest e (List.mem_cons_of_mem _ he) v k hhead hv
    · obtain ⟨n, -, rfl, -, hold, -⟩ := hnew e he
      simp only [List.head?_cons, Option.some.injEq] at hhead
      subst hhead
      -- a walk to the new entity in fewer edges than the front has would have visited it
      by_contra hshort
      refine hold (hf.reach_visited hv fun e he => ?_)
      rcases List.mem_cons.1 he with rfl | he
      · simp only [List.length_cons] at hshort ⊢
        omega
      · have := hfront e he
        simp only [List.length_cons] at hshort this ⊢
        omega
  · rw [List.map_append, List.pairwise_append]
    refine ⟨?_, ?_, ?_⟩
    · have h := hf.ascending
      rw [List.map_cons, List.pairwise_cons] at h
      exact h.2
    · have hrep : r.2.map (fun e => e.1.length) = List.replicate r.2.length ((u :: tail).length + 1) :=
        List.eq_replicate_iff.2 ⟨by simp, fun b hb => by
          obtain ⟨e, he, rfl⟩ := List.mem_map.1 hb
          exact hnew_length e he⟩
      rw [hrep, List.pairwise_replicate]
      exact .inr le_rfl
    · intro a ha b hb
      obtain ⟨e, he, rfl⟩ := List.mem_map.1 ha
      obtain ⟨e', he', rfl⟩ := List.mem_map.1 hb
      rw [hnew_length e' he']
      exact hnear e he
  · intro a ha b hb
    rcases List.mem_append.1 ha with ha | ha <;> rcases List.mem_append.1 hb with hb | hb
    · exact hf.spread a (List.mem_cons_of_mem _ ha) b (List.mem_cons_of_mem _ hb)
    · rw [hnew_length b hb]
      have := hfront a ha
      omega
    · rw [hnew_length a ha]
      have := hnear b hb
      omega
    · rw [hnew_length a ha, hnew_length b hb]
      omega
  · exact hsub _ hf.source_visited
  · intro w k hw hhead hne hreach hbound v hv hfree
    by_cases hwu : w = u
    · -- the entity just extended: its neighbours are on its path or were just visited
      subst hwu
      by_cases hon : v ∈ w :: tail
      · exact hsub _ (hf.on_visited _ List.mem_cons_self v hon)
      · exact mem_extend_visited hreq hv hfree hon
    · -- any other entity: visited before, and its path left the queue before
      rcases extend_visited_new hreq hw with hw | hw
      · refine hsub _ (hf.closed w k hw ?_ hne hreach hbound v hv hfree)
        intro e he hhead'
        rcases List.mem_cons.1 he with rfl | he
        · simp only [List.head?_cons, Option.some.injEq] at hhead'
          exact hwu hhead'.symm
        · exact hhead e (List.mem_append_left _ he) hhead'
      · exact absurd rfl (hhead _ (List.mem_append_right _ hw))
  · intro htv
    rcases extend_visited_new hreq htv with htv | htv
    · obtain ⟨e, he, hhead⟩ := hf.target_queued htv
      rcases List.mem_cons.1 he with rfl | he
      · simp only [List.head?_cons, Option.some.injEq] at hhead
        exact absurd hhead ht
      · exact ⟨e, List.mem_append_left _ he, hhead⟩
    · exact ⟨_, List.mem_append_right _ htv, rfl⟩
  · exact extend_nodup hreq hf.nodup
  · intro x hx
    rcases extend_visited_new hreq hx with hx | hx
    · exact hf.nodes x hx
    · obtain ⟨n, hn, he, -⟩ := hnew _ hx
      simp only [Prod.mk.injEq, List.cons.injEq] at he
      rw [he.1.1, he.2]
      exact ⟨rfl, hg.mem_nodes hn⟩

end Frontier

/-! ## Runs of the search -/

/-- What an answer should say of the search's target: an answered path has at most one entity
more than any walk to the target has edges, and no answer means there is no walk to it. -/
def Settled (g : EntityGraph) (source : Int) (s : Search) : Option (List Int) → Prop
  | some p => ∀ k, g.Reach source s s.target k → p.length ≤ k + 1
  | none => ∀ k, ¬g.Reach source s s.target k

/-- **The search loop settles its target.** From a frontier, with more fuel than queued paths and
unvisited nodes together, the loop answers the path of a shortest walk to the target, or
nothing when the target cannot be reached. The fuel holds since each turn takes one path off the
queue and queues one path per state it marks visited. -/
theorem searchLoop_settled (hreq : s.required = none) (hg : g.Closed) :
    ∀ (fuel : Nat) {visited : List (Int × Bool)} {queue : List (List Int × Bool)},
    Frontier g source s visited queue → queue.length + g.nodes.length < fuel + visited.length →
    g.Settled source s (g.searchLoop s fuel visited queue)
  | 0, _, _, hf, hfuel => by
    have := hf.length_le
    omega
  | fuel + 1, visited, [], hf, _ => by
    -- the queue ran out: the target was never visited, though every reachable entity was
    intro k hk
    obtain ⟨e, he, -⟩ := hf.target_queued (hf.reach_visited hk (by simp))
    simp at he
  | fuel + 1, visited, ([], sat) :: rest, hf, _ =>
    absurd (hf.queued _ List.mem_cons_self).last (by simp)
  | fuel + 1, visited, (u :: tail, sat) :: rest, hf, hfuel => by
    obtain rfl : sat = false := hf.unmet _ List.mem_cons_self
    simp only [searchLoop]
    have hlen : rest.length + g.nodes.length < fuel + visited.length := by
      simp only [List.length_cons] at hfuel
      omega
    by_cases ht : u = s.target
    · -- the target's path is answered: a shortest walk to it
      rw [if_pos ht, if_pos (by simp [hreq])]
      intro k hk
      have := hf.shortest _ List.mem_cons_self s.target k (by simp [ht]) hk
      simpa using this
    rw [if_neg ht]
    by_cases hlong : (u :: tail).length > s.maxDegrees
    · rw [if_pos hlong]
      exact searchLoop_settled hreq hg fuel (hf.skip (by simpa using ht) hlong) hlen
    · -- the front path is extended by its neighbours
      rw [if_neg hlong]
      refine searchLoop_settled hreq hg fuel (hf.expand hreq hg ht (by omega)) ?_
      have hgrow : (g.extend s (u :: tail) false (g.neighbors u) visited []).1.length + 0 =
          visited.length + (g.extend s (u :: tail) false (g.neighbors u) visited []).2.length :=
        extend_length hreq
      simp only [List.length_append] at hgrow ⊢
      omega

/-- A search over a closed graph from one of its nodes settles its target. -/
theorem search_settled (hreq : s.required = none) (hg : g.Closed) (hs : source ∈ g.nodes) :
    g.Settled source s (g.search source s) :=
  searchLoop_settled hreq hg _ (Frontier.start hs) <| by
    simp only [List.length_singleton, nodes, size, List.length_map]
    omega

/-- **A search answers a shortest route.** Over a closed graph, from a node that it does not
block, a search for no data source answers a route of fewest edges within its bound through
no blocked entity, and nothing only when there is no such route. -/
theorem search_shortestAnswer (hg : g.Closed) (hs : source ∈ g.nodes) {target : Int} {bound : Nat}
    {blocked : List Int} (hsource : source ∉ blocked) :
    g.ShortestAnswer source target bound blocked (g.search source ⟨target, bound, blocked, none⟩) := by
  have hset : g.Settled source ⟨target, bound, blocked, none⟩
      (g.search source ⟨target, bound, blocked, none⟩) := search_settled rfl hg hs
  cases h : g.search source ⟨target, bound, blocked, none⟩ with
  | none =>
    rw [h] at hset
    intro q hq
    exact hset _ (reach_of_isRoute hsource hq)
  | some p =>
    rw [h] at hset
    obtain ⟨hpath, hlen, hfree⟩ := search_sound h
    -- the answer is a route, and the walk along any route is no shorter
    have hroute : g.IsRoute source target bound blocked p := by
      refine ⟨hpath, hlen, fun x hx hxb => ?_⟩
      by_cases hxs : x = source
      · exact hsource (hxs ▸ hxb)
      · exact hfree x hx hxs hxb
    refine ⟨hroute, fun q hq => ?_⟩
    have hwalk := hset _ (reach_of_isRoute hsource hq)
    have hq_pos : 0 < q.length := List.length_pos_iff.2 fun hnil => by
      simpa [hnil] using hq.path.head
    omega

/-- With no data source required, `shortestPath` answers the search that blocks the avoided
entities other than the two, or else, unless they are forbidden, the search that blocks none. -/
theorem shortestPath_eq_or {g : EntityGraph} {source target : Int} {c : PathConstraints}
    (hs : g.contains source = true) (ht : g.contains target = true) (hne : source ≠ target)
    (hreq : c.requiredSources = []) :
    g.shortestPath source target c =
      (g.search source ⟨target, c.maxDegrees, c.avoid.filter fun id => id != source && id != target,
        none⟩).or (if c.forbidAvoided then none else g.search source ⟨target, c.maxDegrees, [], none⟩) := by
  simp only [shortestPath, hs, ht, hne, hreq, Bool.not_true, Bool.or_self, Bool.false_eq_true,
    if_false, List.isEmpty_nil, if_true]
  cases g.search source ⟨target, c.maxDegrees, c.avoid.filter fun id => id != source && id != target,
    none⟩ <;> rfl

/-- **Shortest paths are shortest.** Over a graph built by adding entities and relationships,
between two distinct nodes and with no data source required, let `A` be the avoided entities
other than the two. When some route within the bound passes no entity of `A`, the answer is such
a route of fewest edges. When none does, there is no answer if avoided entities are forbidden,
and otherwise the answer is a route of fewest edges within the bound, or nothing when there is
no route within the bound. -/
theorem shortestPath_fewest_edges {g : EntityGraph} (hg : g.Built) {source target : Int}
    (hne : source ≠ target) (hs : g.contains source = true) (ht : g.contains target = true)
    {c : PathConstraints} (hreq : c.requiredSources = []) :
    let A := c.avoid.filter fun id => id != source && id != target
    ((∃ q, g.IsRoute source target c.maxDegrees A q) →
      ∃ p, g.shortestPath source target c = some p ∧ g.IsShortestRoute source target c.maxDegrees A p) ∧
    ((¬∃ q, g.IsRoute source target c.maxDegrees A q) →
      (c.forbidAvoided = true → g.shortestPath source target c = none) ∧
      (c.forbidAvoided = false →
        g.ShortestAnswer source target c.maxDegrees [] (g.shortestPath source target c))) := by
  intro A
  have hsn : source ∈ g.nodes := contains_iff_mem_nodes.1 hs
  have hfirst : g.ShortestAnswer source target c.maxDegrees A
      (g.search source ⟨target, c.maxDegrees, A, none⟩) :=
    search_shortestAnswer hg.closed hsn (by simp [A])
  have hsecond : g.ShortestAnswer source target c.maxDegrees []
      (g.search source ⟨target, c.maxDegrees, [], none⟩) :=
    search_shortestAnswer hg.closed hsn List.not_mem_nil
  have hsp := shortestPath_eq_or hs ht hne hreq
  cases h : g.search source ⟨target, c.maxDegrees, A, none⟩ with
  | some p =>
    rw [h] at hfirst
    exact ⟨fun _ => ⟨p, by rw [hsp, h, Option.some_or], hfirst⟩, fun hnone => absurd ⟨p, hfirst.1⟩ hnone⟩
  | none =>
    rw [h] at hfirst
    refine ⟨fun ⟨q, hq⟩ => absurd hq (hfirst q), fun _ => ⟨fun hforbid => ?_, fun hallow => ?_⟩⟩
    · rw [hsp, h]
      simp [hforbid]
    · rw [hsp, h]
      simpa [hallow] using hsecond

/-- Avoiding `2` and `7` between `1` and `3` leaves no route, so the route through `2` is
answered; forbidding them leaves nothing. -/
theorem twoRoutes_avoiding_both :
    twoRoutes.Built ∧ (1 : Int) ≠ 3 ∧ twoRoutes.contains 1 = true ∧ twoRoutes.contains 3 = true ∧
      ([] : List String) = [] ∧
      (let A := ([2, 7] : List Int).filter fun id => id != 1 && id != 3
      ((∃ q, twoRoutes.IsRoute 1 3 3 A q) →
        ∃ p, twoRoutes.shortestPath 1 3 ⟨3, [2, 7], false, []⟩ = some p ∧
          twoRoutes.IsShortestRoute 1 3 3 A p) ∧
      ((¬∃ q, twoRoutes.IsRoute 1 3 3 A q) →
        (false = true → twoRoutes.shortestPath 1 3 ⟨3, [2, 7], false, []⟩ = none) ∧
        (false = false →
          twoRoutes.ShortestAnswer 1 3 3 [] (twoRoutes.shortestPath 1 3 ⟨3, [2, 7], false, []⟩)))) :=
  have hbuilt : twoRoutes.Built :=
    .addRelationship 7 3 (.addRelationship 1 7 (.addRelationship 3 6 (.addRelationship 2 3
      (.addRelationship 1 2 .empty))))
  ⟨hbuilt, by decide, by decide, by decide, rfl,
    @shortestPath_fewest_edges twoRoutes hbuilt 1 3 (by decide) (by decide) (by decide)
      ⟨3, [2, 7], false, []⟩ rfl⟩

end EntityGraph

end EntityGateway
