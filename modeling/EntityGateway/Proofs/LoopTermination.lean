import EntityGateway.Proofs.BuildOut

/-!
# The breadth-first loops end

Both searches of the entity graph take one entry off a queue per turn, and queue an entry only
for a state they mark visited at that moment, one never visited before. So the queue and the
states not yet visited shrink together by at least one at every turn, and a loop ends within as
many turns as that measure starts at: twice the number of nodes, and one for the entry of the
source, for a path search (each node with and without a required source met); the seeds and the
nodes for a build-out.

`EndsWithin turn k st` says that a loop ends within `k` turns from `st`, where `turn` says what
one turn does: nothing when the queue is empty, else answer or go on from a new state.

* `EndsWithin.of_measure`: a measure that every turn needs and every turn lowers bounds the
  turns; `EndsWithin.run_eq`: a loop on fuel that ends within `k` turns answers with any fuel
  from `k` on what it answers with `k`;
* `searchStep` and `buildOutStep` are one turn of each loop, and `searchLoop_succ` and
  `buildOutLoop_succ` unfold the loops into those turns;
* `extend_eq`: extending a path queues one path per fresh state it marks visited, and
  `searchStep_next` says what a turn of a path search that goes on does;
* `searchPending_lt` and `buildOutPending_lt`: every turn lowers the measure;
* `breadthFirst_loops_end`: over a graph built by adding entities and relationships, both
  loops end within their bounds, so their fuel is never used up.
-/

namespace EntityGateway

/-! ## Loops that take one entry off a queue per turn -/

/-- A loop ends within `k` turns from `st`: `turn st` is `none` when the queue is empty, and else
what the turn does with the front entry, answer (`inl`) or go on from a new state (`inr`). -/
inductive EndsWithin {σ β : Type} (turn : σ → Option (β ⊕ σ)) : Nat → σ → Prop
  /-- The queue is empty: the loop ends without another turn. -/
  | empty {k : Nat} {st : σ} : turn st = none → EndsWithin turn k st
  /-- The front entry is answered. -/
  | answer {k : Nat} {st : σ} {b : β} : turn st = some (.inl b) → EndsWithin turn (k + 1) st
  /-- The front entry leaves the queue and the loop goes on. -/
  | next {k : Nat} {st st' : σ} : turn st = some (.inr st') → EndsWithin turn k st' →
      EndsWithin turn (k + 1) st

namespace EndsWithin

variable {σ β : Type} {turn : σ → Option (β ⊕ σ)}

theorem mono {k k' : Nat} {st : σ} (h : EndsWithin turn k st) (hk : k ≤ k') : EndsWithin turn k' st := by
  induction h generalizing k' with
  | empty hst => exact .empty hst
  | answer hst =>
    obtain ⟨j, rfl⟩ : ∃ j, k' = j + 1 := ⟨k' - 1, by omega⟩
    exact .answer hst
  | next hst _ ih =>
    obtain ⟨j, rfl⟩ : ∃ j, k' = j + 1 := ⟨k' - 1, by omega⟩
    exact .next hst (ih (by omega))

/-- A measure that is positive while there is a turn to take, and that every turn going on
lowers, bounds the turns of the loop. -/
theorem of_measure (μ : σ → Nat) (hpos : ∀ st t, turn st = some t → 0 < μ st)
    (hlt : ∀ st st', turn st = some (.inr st') → μ st' < μ st) (st : σ) :
    EndsWithin turn (μ st) st := by
  induction hμ : μ st using Nat.strong_induction_on generalizing st with
  | _ n ih =>
    cases hst : turn st with
    | none => exact .empty hst
    | some t =>
      obtain ⟨k, rfl⟩ : ∃ k, n = k + 1 := ⟨n - 1, by have := hpos st t hst; omega⟩
      cases t with
      | inl b => exact .answer hst
      | inr st' =>
        have hk : μ st' ≤ k := by have := hlt st st' hst; omega
        exact .next hst ((ih (μ st') (by omega) st' rfl).mono hk)

/-- A loop on fuel whose turns are `turn` answers, once it ends within `k` turns, with any fuel
from `k` on what it answers with `k`: the fuel is never used up. -/
theorem run_eq {γ : Type} (run : Nat → σ → γ) (stop : σ → γ) (answer : β → γ)
    (hstop : ∀ fuel st, turn st = none → run fuel st = stop st)
    (hanswer : ∀ fuel st b, turn st = some (.inl b) → run (fuel + 1) st = answer b)
    (hnext : ∀ fuel st st', turn st = some (.inr st') → run (fuel + 1) st = run fuel st')
    {k : Nat} {st : σ} (h : EndsWithin turn k st) : ∀ fuel, k ≤ fuel → run fuel st = run k st := by
  induction h with
  | empty hst => exact fun fuel _ => by rw [hstop fuel _ hst, hstop _ _ hst]
  | @answer k st b hst =>
    intro fuel hfuel
    obtain ⟨j, rfl⟩ : ∃ j, fuel = j + 1 := ⟨fuel - 1, by omega⟩
    rw [hanswer j st b hst, hanswer k st b hst]
  | @next k st st' hst _ ih =>
    intro fuel hfuel
    obtain ⟨j, rfl⟩ : ∃ j, fuel = j + 1 := ⟨fuel - 1, by omega⟩
    rw [hnext j st st' hst, hnext k st st' hst, ih j (by omega)]

end EndsWithin

namespace EntityGraph

variable {g : EntityGraph}

/-! ## One turn of a path search -/

/-- One turn of the search loop: the front path leaves the queue; it is answered when it has
reached the target and met the requirement, and otherwise the search goes on, with the path's
extensions queued when it is neither at the target nor at the bound. -/
def searchStep (g : EntityGraph) (s : Search) :
    List (Int × Bool) × List (List Int × Bool) →
      Option (List Int ⊕ (List (Int × Bool) × List (List Int × Bool)))
  | (_, []) => none
  | (visited, ([], _) :: rest) => some (.inr (visited, rest))
  | (visited, (current :: tail, satisfied) :: rest) =>
    if current = s.target then
      if s.required.isNone || satisfied then some (.inl (current :: tail).reverse)
      else some (.inr (visited, rest))
    else if (current :: tail).length > s.maxDegrees then some (.inr (visited, rest))
    else
      let (visited, queued) := g.extend s (current :: tail) satisfied (g.neighbors current) visited []
      some (.inr (visited, rest ++ queued))

/-- The search loop takes turns until its queue is empty or it answers. -/
theorem searchLoop_succ (s : Search) (fuel : Nat) (visited : List (Int × Bool))
    (queue : List (List Int × Bool)) :
    g.searchLoop s (fuel + 1) visited queue =
      (g.searchStep s (visited, queue)).elim none
        (Sum.elim some fun st => g.searchLoop s fuel st.1 st.2) := by
  rcases queue with _ | ⟨⟨_ | ⟨current, tail⟩, satisfied⟩, rest⟩
  · rfl
  · rfl
  · simp only [searchLoop, searchStep]
    split_ifs <;> rfl

theorem searchStep_eq_none_iff {s : Search} {st : List (Int × Bool) × List (List Int × Bool)} :
    g.searchStep s st = none ↔ st.2 = [] := by
  rcases st with ⟨visited, _ | ⟨⟨_ | ⟨current, tail⟩, satisfied⟩, rest⟩⟩
  · simp [searchStep]
  · simp [searchStep]
  · simp only [searchStep]
    split_ifs <;> simp

theorem searchLoop_nil (s : Search) (fuel : Nat) (visited : List (Int × Bool)) :
    g.searchLoop s fuel visited [] = none := by
  cases fuel <;> rfl

/-- An extension queues, after what was queued, one path for each state it marks visited: distinct
states of the candidates, none visited before. -/
theorem extend_eq (s : Search) (path : List Int) (satisfied : Bool) :
    ∀ (ns : List Int) (visited : List (Int × Bool)) (queued : List (List Int × Bool)),
      ∃ fresh : List (Int × Bool), g.extend s path satisfied ns visited queued =
        (fresh.reverse ++ visited, queued ++ fresh.map fun x => (x.1 :: path, x.2)) ∧
        fresh.Nodup ∧ ∀ x ∈ fresh, x.1 ∈ ns ∧ x ∉ visited
  | [], visited, queued => ⟨[], by simp [extend], List.nodup_nil, by simp⟩
  | n :: ns, visited, queued => by
    -- a candidate passed over leaves the fresh states of the rest as they are
    have hskip : ∃ fresh : List (Int × Bool), g.extend s path satisfied ns visited queued =
        (fresh.reverse ++ visited, queued ++ fresh.map fun x => (x.1 :: path, x.2)) ∧
        fresh.Nodup ∧ ∀ x ∈ fresh, x.1 ∈ n :: ns ∧ x ∉ visited := by
      obtain ⟨fresh, heq, hnodup, hmem⟩ := extend_eq s path satisfied ns visited queued
      exact ⟨fresh, heq, hnodup, fun x hx => ⟨List.mem_cons_of_mem _ (hmem x hx).1, (hmem x hx).2⟩⟩
    -- a new state is marked and queued before those of the rest
    have hnew : ∀ met : Bool, (n, met) ∉ visited → ∃ fresh : List (Int × Bool),
        g.extend s path satisfied ns ((n, met) :: visited) (queued ++ [(n :: path, met)]) =
          (fresh.reverse ++ visited, queued ++ fresh.map fun x => (x.1 :: path, x.2)) ∧
          fresh.Nodup ∧ ∀ x ∈ fresh, x.1 ∈ n :: ns ∧ x ∉ visited := by
      intro met hmet
      obtain ⟨fresh, heq, hnodup, hmem⟩ :=
        extend_eq s path satisfied ns ((n, met) :: visited) (queued ++ [(n :: path, met)])
      refine ⟨(n, met) :: fresh, by simp [heq], ?_, ?_⟩
      · exact List.nodup_cons.2 ⟨fun h => (hmem _ h).2 List.mem_cons_self, hnodup⟩
      · rintro x (_ | ⟨_, hx⟩)
        · exact ⟨List.mem_cons_self, hmet⟩
        · exact ⟨List.mem_cons_of_mem _ (hmem x hx).1, fun h => (hmem x hx).2 (List.mem_cons_of_mem _ h)⟩
    simp only [extend]
    split_ifs with hkeep hvisited
    · exact hskip
    · exact hskip
    · exact hnew _ (by simpa using hvisited)

/-- A turn of the search that goes on drops the front path, or queues its extensions after the
rest of the queue. -/
theorem searchStep_inr {s : Search} {visited : List (Int × Bool)} {e : List Int × Bool}
    {rest : List (List Int × Bool)} {st' : List (Int × Bool) × List (List Int × Bool)}
    (h : g.searchStep s (visited, e :: rest) = some (.inr st')) :
    st' = (visited, rest) ∨ ∃ current tail, e.1 = current :: tail ∧
      st' = ((g.extend s e.1 e.2 (g.neighbors current) visited []).1,
        rest ++ (g.extend s e.1 e.2 (g.neighbors current) visited []).2) := by
  obtain ⟨_ | ⟨current, tail⟩, satisfied⟩ := e
  · simp only [searchStep, Option.some.injEq, Sum.inr.injEq] at h
    exact .inl h.symm
  simp only [searchStep] at h
  -- the answer does not go on; the two drops and the extension do
  split_ifs at h <;> simp only [Option.some.injEq, Sum.inr.injEq, reduceCtorEq] at h
  · exact .inl h.symm
  · exact .inl h.symm
  · exact .inr ⟨current, tail, rfl, h.symm⟩

/-- What a turn of the search that goes on does: the front entry leaves the queue, and the states
marked visited are fresh states of neighbours, one for each path queued. -/
theorem searchStep_next {s : Search} {st st' : List (Int × Bool) × List (List Int × Bool)}
    (h : g.searchStep s st = some (.inr st')) :
    ∃ (e : List Int × Bool) (rest : List (List Int × Bool)) (fresh : List (Int × Bool)),
      st.2 = e :: rest ∧ st'.1 = fresh.reverse ++ st.1 ∧
      st'.2 = rest ++ fresh.map (fun x => (x.1 :: e.1, x.2)) ∧ fresh.Nodup ∧
      ∀ x ∈ fresh, (∃ u, x.1 ∈ g.neighbors u) ∧ x ∉ st.1 := by
  rcases st with ⟨visited, _ | ⟨e, rest⟩⟩
  · simp [searchStep] at h
  rcases searchStep_inr h with rfl | ⟨current, tail, -, rfl⟩
  · -- a dropped path marks nothing
    exact ⟨e, rest, [], rfl, by simp, by simp, List.nodup_nil, by simp⟩
  · obtain ⟨fresh, heq, hnodup, hmem⟩ := @extend_eq g s e.1 e.2 (g.neighbors current) visited []
    rw [heq]
    exact ⟨e, rest, fresh, rfl, rfl, by simp, hnodup, fun x hx => ⟨⟨current, (hmem x hx).1⟩, (hmem x hx).2⟩⟩

/-! ## Path searches end -/

/-- The states of a path search: each node, with and without a required source met. -/
def states (g : EntityGraph) : List (Int × Bool) := g.nodes.map (·, false) ++ g.nodes.map (·, true)

theorem mem_states {x : Int × Bool} (h : x.1 ∈ g.nodes) : x ∈ g.states := by
  obtain ⟨a, _ | _⟩ := x <;> simp_all [states]

theorem length_states : g.states.length = 2 * g.size := by
  simp only [states, List.length_append, List.length_map, nodes, size]
  omega

/-- What is left to do in a path search: the queued paths and the states not yet visited. -/
def searchPending (g : EntityGraph) (st : List (Int × Bool) × List (List Int × Bool)) : Nat :=
  st.2.length + (g.states.filter fun x => x ∉ st.1).length

/-- Every turn of a search over a graph whose neighbours are nodes lowers what is left to do:
the front path leaves the queue, and each path queued marks a fresh state visited. -/
theorem searchPending_lt (hg : g.Closed) {s : Search} {st st' : List (Int × Bool) × List (List Int × Bool)}
    (h : g.searchStep s st = some (.inr st')) : g.searchPending st' < g.searchPending st := by
  obtain ⟨e, rest, fresh, hq, hv, hq', hnodup, hfresh⟩ := searchStep_next h
  have hcount : fresh.length + (g.states.filter fun x => x ∉ st'.1).length ≤
      (g.states.filter fun x => x ∉ st.1).length := length_filter_not_mem_le hnodup
    (fun x hx => by
      obtain ⟨⟨u, hu⟩, hnew⟩ := hfresh x hx
      exact ⟨mem_states (hg.mem_nodes hu), hnew⟩)
    (by simp [hv])
  simp only [searchPending, hq, hq', List.length_append, List.length_map, List.length_cons]
  omega

theorem searchPending_pos {s : Search} {st : List (Int × Bool) × List (List Int × Bool)}
    {t : List Int ⊕ (List (Int × Bool) × List (List Int × Bool))} (h : g.searchStep s st = some t) :
    0 < g.searchPending st := by
  have hne : st.2 ≠ [] := fun hnil => by simp [searchStep_eq_none_iff.2 hnil] at h
  have := List.length_pos_iff.2 hne
  simp only [searchPending]
  omega

/-- A path search over a graph whose neighbours are nodes takes at most twice the number of
nodes, and one, entries off its queue. -/
theorem search_endsWithin (hg : g.Closed) (source : Int) (s : Search) :
    EndsWithin (g.searchStep s) (2 * g.size + 1) ([(source, false)], [([source], false)]) := by
  have hstart : g.searchPending ([(source, false)], [([source], false)]) ≤ 2 * g.size + 1 := by
    have := List.length_filter_le (fun x => decide (x ∉ [(source, false)])) g.states
    simp only [searchPending, List.length_singleton, length_states] at this ⊢
    omega
  exact (EndsWithin.of_measure g.searchPending (fun _ _ h => searchPending_pos h)
    (fun _ _ h => searchPending_lt hg h) _).mono hstart

/-! ## Build-outs end -/

/-- One turn of the build-out loop: the front entry leaves the queue, and below the bound the
undiscovered neighbours of its entity are discovered and queued one level deeper. A build-out
answers nothing before its queue is empty. -/
def buildOutStep (g : EntityGraph) (hops : Nat) :
    List Int × List Int × List (Int × Nat) → Option (Empty ⊕ (List Int × List Int × List (Int × Nat)))
  | (_, _, []) => none
  | (visited, found, (current, depth) :: rest) =>
    if depth ≥ hops then some (.inr (visited, found, rest))
    else
      let (visited, found, queued) := discover depth (g.neighbors current) visited found []
      some (.inr (visited, found, rest ++ queued))

/-- The build-out loop takes turns until its queue is empty. -/
theorem buildOutLoop_succ (hops fuel : Nat) (visited found : List Int) (queue : List (Int × Nat)) :
    g.buildOutLoop hops (fuel + 1) visited found queue =
      (g.buildOutStep hops (visited, found, queue)).elim found
        (Sum.elim Empty.elim fun st => g.buildOutLoop hops fuel st.1 st.2.1 st.2.2) := by
  rcases queue with _ | ⟨⟨current, depth⟩, rest⟩
  · rfl
  · simp only [buildOutLoop, buildOutStep]
    split_ifs <;> rfl

theorem buildOutLoop_nil (hops fuel : Nat) (visited found : List Int) :
    g.buildOutLoop hops fuel visited found [] = found := by
  cases fuel <;> rfl

theorem buildOutStep_eq_none_iff {hops : Nat} {st : List Int × List Int × List (Int × Nat)} :
    g.buildOutStep hops st = none ↔ st.2.2 = [] := by
  rcases st with ⟨visited, found, _ | ⟨⟨current, depth⟩, rest⟩⟩
  · simp [buildOutStep]
  · simp only [buildOutStep]
    split_ifs <;> simp

/-- What is left to do in a build-out: the queued entries and the nodes not yet visited. -/
def buildOutPending (g : EntityGraph) (st : List Int × List Int × List (Int × Nat)) : Nat :=
  g.pending st.1 st.2.2

/-- Every turn of a build-out over a graph whose neighbours are nodes lowers what is left to do. -/
theorem buildOutPending_lt (hg : g.Closed) {hops : Nat} {st st' : List Int × List Int × List (Int × Nat)}
    (h : g.buildOutStep hops st = some (.inr st')) : g.buildOutPending st' < g.buildOutPending st := by
  rcases st with ⟨visited, found, _ | ⟨⟨current, depth⟩, rest⟩⟩
  · simp [buildOutStep] at h
  simp only [buildOutStep] at h
  split_ifs at h
  · -- at the bound: the entry leaves without its neighbours
    simp only [Option.some.injEq, Sum.inr.injEq] at h
    subst h
    simp [buildOutPending, pending]
  · obtain ⟨fresh, heq, hnodup, hfresh⟩ := discover_eq depth (g.neighbors current) visited found []
    rw [heq] at h
    simp only [Option.some.injEq, Sum.inr.injEq, List.nil_append] at h
    subst h
    exact pending_lt_expand hg hnodup hfresh

theorem buildOutPending_pos {hops : Nat} {st : List Int × List Int × List (Int × Nat)}
    {t : Empty ⊕ (List Int × List Int × List (Int × Nat))} (h : g.buildOutStep hops st = some t) :
    0 < g.buildOutPending st := by
  have hne : st.2.2 ≠ [] := fun hnil => by simp [buildOutStep_eq_none_iff.2 hnil] at h
  have := List.length_pos_iff.2 hne
  simp only [buildOutPending, pending]
  omega

/-- A build-out over a graph whose neighbours are nodes takes at most as many entries off its
queue as there are seeds and nodes. -/
theorem buildOut_endsWithin (hg : g.Closed) (seeds : List Int) (hops : Nat) :
    EndsWithin (g.buildOutStep hops) (seeds.length + g.size) (seeds, [], seeds.map (·, 0)) := by
  have hstart : g.buildOutPending (seeds, [], seeds.map (·, 0)) ≤ seeds.length + g.size := by
    have := List.length_filter_le (fun x => decide (x ∉ seeds)) g.nodes
    simp only [buildOutPending, pending, List.length_map, nodes, size] at this ⊢
    omega
  exact (EndsWithin.of_measure g.buildOutPending (fun _ _ h => buildOutPending_pos h)
    (fun _ _ h => buildOutPending_lt hg h) _).mono hstart

/-! ## Both loops -/

/-- **The breadth-first loops end.** Over a graph built by adding entities and relationships, a
path search takes at most twice the number of nodes, and one, entries off its queue, and a
build-out at most as many as there are seeds and nodes. So neither runs out of the fuel it is
given: with any more fuel each answers what it answers. -/
theorem breadthFirst_loops_end (hg : g.Built) :
    (∀ (source : Int) (s : Search),
      EndsWithin (g.searchStep s) (2 * g.size + 1) ([(source, false)], [([source], false)]) ∧
      ∀ fuel, 2 * g.size + 1 ≤ fuel →
        g.searchLoop s fuel [(source, false)] [([source], false)] = g.search source s) ∧
    (∀ (seeds : List Int) (hops : Nat),
      EndsWithin (g.buildOutStep hops) (seeds.length + g.size) (seeds, [], seeds.map (·, 0)) ∧
      ∀ fuel, seeds.length + g.size ≤ fuel →
        g.buildOutLoop hops fuel seeds [] (seeds.map (·, 0)) = g.buildOut seeds hops) := by
  refine ⟨fun source s => ⟨search_endsWithin hg.closed source s, fun fuel hfuel => ?_⟩,
    fun seeds hops => ⟨buildOut_endsWithin hg.closed seeds hops, fun fuel hfuel => ?_⟩⟩
  · -- the loop on fuel is the turns of `searchStep`
    have hrun := (search_endsWithin hg.closed source s).run_eq (fun fuel st => g.searchLoop s fuel st.1 st.2)
      (fun _ => none) some
      (fun fuel st hst => by rw [searchStep_eq_none_iff.1 hst, searchLoop_nil])
      (fun fuel st p hst => by rw [searchLoop_succ, hst]; rfl)
      (fun fuel st st' hst => by rw [searchLoop_succ, hst]; rfl)
    exact hrun fuel hfuel
  · have hrun := (buildOut_endsWithin hg.closed seeds hops).run_eq
      (fun fuel st => g.buildOutLoop hops fuel st.1 st.2.1 st.2.2) (fun st => st.2.1) Empty.elim
      (fun fuel st hst => by rw [buildOutStep_eq_none_iff.1 hst, buildOutLoop_nil])
      (fun fuel st b _ => b.elim)
      (fun fuel st st' hst => by rw [buildOutLoop_succ, hst]; rfl)
    -- `buildOut` runs on one turn more than it needs
    exact (hrun fuel hfuel).trans (hrun _ (Nat.le_succ _)).symm

/-- The chain `1 - 2 - 3 - 4` is built by adding relationships, so its searches and build-outs end
within their bounds. -/
theorem fourChain_loops_end :
    fourChain.Built ∧
      ((∀ (source : Int) (s : Search),
        EndsWithin (fourChain.searchStep s) (2 * fourChain.size + 1) ([(source, false)], [([source], false)]) ∧
        ∀ fuel, 2 * fourChain.size + 1 ≤ fuel →
          fourChain.searchLoop s fuel [(source, false)] [([source], false)] = fourChain.search source s) ∧
      (∀ (seeds : List Int) (hops : Nat),
        EndsWithin (fourChain.buildOutStep hops) (seeds.length + fourChain.size) (seeds, [], seeds.map (·, 0)) ∧
        ∀ fuel, seeds.length + fourChain.size ≤ fuel →
          fourChain.buildOutLoop hops fuel seeds [] (seeds.map (·, 0)) = fourChain.buildOut seeds hops)) :=
  have hg : fourChain.Built := .addRelationship _ _ (.addRelationship _ _ (.addRelationship _ _ .empty))
  ⟨hg, breadthFirst_loops_end hg⟩

end EntityGraph

end EntityGateway
