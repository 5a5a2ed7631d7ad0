import EntityGateway.Proofs.ShortestRoute

/-!
# Build-out is breadth-first

`EntityGraph.buildOut seeds hops` lists, without repeats and without the seeds, exactly the
entities at distance `1` to `hops` from the seeds, nearer entities first
(`buildOut_breadthFirst`). Distance is counted along neighbours: `EntityGraph.Within` says that
a walk of at most `k` edges leads from a seed to an entity, and `EntityGraph.AtDistance` that
`k` is the fewest.

The loop takes entities off a queue of (entity, depth) entries and queues the undiscovered
neighbours of an entity below the bound one level deeper. `EntityGraph.Discovery` is what it
keeps: every queued entity is at the distance it was queued with, the queue holds one depth
and then the next, the discoveries so far are ordered by distance, and an entity that has left
the queue below the bound has its neighbours visited. From it,

* `Discovery.visited_of_within`: every entity no farther than every queued depth is visited;
* `Discovery.skip` and `Discovery.expand`: taking an entry off the queue, and queueing the new
  neighbours of its entity, keep the invariant, and a new neighbour is at the depth it gets
  because a nearer one would have been visited already;
* `pending_lt_expand`: over a graph whose neighbours are nodes, the queue and the undiscovered nodes
  together shrink at every entry, so the fuel of `buildOut` never runs out;
* `isBuildOut_loop`: the loop ends on a discovery list with every property of a build-out.
-/

namespace EntityGateway

namespace EntityGraph

/-! ## Distance from a set of seeds -/

/-- Some walk of at most `k` edges leads from a seed to `v`, each entity followed by one of its
neighbours. -/
inductive Within (g : EntityGraph) (seeds : List Int) : Nat → Int → Prop
  | seed {k : Nat} {v : Int} : v ∈ seeds → Within g seeds k v
  | step {k : Nat} {u v : Int} : Within g seeds k u → v ∈ g.neighbors u → Within g seeds (k + 1) v

/-- `v` is at distance `d` from the seeds: within `d` edges and not within fewer. -/
def AtDistance (g : EntityGraph) (seeds : List Int) (d : Nat) (v : Int) : Prop :=
  g.Within seeds d v ∧ ∀ j < d, ¬g.Within seeds j v

/-- `a` is no farther from the seeds than `b`. -/
def Nearer (g : EntityGraph) (seeds : List Int) (a b : Int) : Prop :=
  ∀ k, g.Within seeds k b → g.Within seeds k a

/-- What a build-out of `hops` answers: distinct entities, none of them a seed, exactly those at
distance `1` to `hops` from the seeds, in order of distance. -/
structure IsBuildOut (g : EntityGraph) (seeds : List Int) (hops : Nat) (found : List Int) : Prop where
  nodup : found.Nodup
  not_seed : ∀ v ∈ found, v ∉ seeds
  mem_iff : ∀ v, v ∈ found ↔ ∃ d, 1 ≤ d ∧ d ≤ hops ∧ g.AtDistance seeds d v
  ordered : found.Pairwise fun a b => ∀ da db, g.AtDistance seeds da a → g.AtDistance seeds db b → da ≤ db

variable {g : EntityGraph} {seeds : List Int}

theorem Within.mono {j k : Nat} {v : Int} (h : g.Within seeds j v) (hjk : j ≤ k) : g.Within seeds k v := by
  induction h generalizing k with
  | seed hv => exact .seed hv
  | @step j u v _ hv ih =>
    obtain ⟨k, rfl⟩ : ∃ k', k = k' + 1 := ⟨k - 1, by omega⟩
    exact .step (ih (by omega)) hv

theorem mem_of_within_zero {v : Int} (h : g.Within seeds 0 v) : v ∈ seeds := by
  cases h with
  | seed hv => exact hv

theorem AtDistance.le {d k : Nat} {v : Int} (hd : g.AtDistance seeds d v) (hk : g.Within seeds k v) : d ≤ k :=
  Nat.le_of_not_lt fun hlt => hd.2 k hlt hk

/-- An entity within `k` edges is at some distance of at most `k`. -/
theorem exists_atDistance {k : Nat} {v : Int} (h : g.Within seeds k v) : ∃ d ≤ k, g.AtDistance seeds d v := by
  induction k with
  | zero => exact ⟨0, le_refl 0, h, fun j hj => absurd hj (Nat.not_lt_zero j)⟩
  | succ k ih =>
    by_cases hk : g.Within seeds k v
    · obtain ⟨d, hd, hdist⟩ := ih hk
      exact ⟨d, by omega, hdist⟩
    · exact ⟨k + 1, le_refl _, h, fun j hj hj' => hk (hj'.mono (by omega))⟩

/-- The entities at distance `1` to `hops` are those within `hops` edges that are not seeds. -/
theorem exists_atDistance_iff {hops : Nat} {v : Int} :
    (∃ d, 1 ≤ d ∧ d ≤ hops ∧ g.AtDistance seeds d v) ↔ v ∉ seeds ∧ g.Within seeds hops v := by
  constructor
  · rintro ⟨d, hd1, hdh, hdist⟩
    exact ⟨fun hv => hdist.2 0 hd1 (.seed hv), hdist.1.mono hdh⟩
  · rintro ⟨hv, hw⟩
    obtain ⟨d, hdh, hdist⟩ := exists_atDistance hw
    -- a seed is at distance `0`, so this entity is farther
    have hd1 : 1 ≤ d := Nat.pos_of_ne_zero fun hd0 => hv (mem_of_within_zero (hd0 ▸ hdist.1))
    exact ⟨d, hd1, hdh, hdist⟩

theorem AtDistance.le_of_nearer {a b : Int} (hab : g.Nearer seeds a b) {da db : Nat}
    (ha : g.AtDistance seeds da a) (hb : g.AtDistance seeds db b) : da ≤ db :=
  ha.le (hab db hb.1)

/-! ## Discovering the neighbours of one entity -/

/-- `discover` queues, one level deeper, the entities of `ns` not yet visited, each once, and
marks them visited and discovered. -/
theorem discover_eq (depth : Nat) : ∀ (ns visited found : List Int) (queued : List (Int × Nat)),
    ∃ fresh : List Int, discover depth ns visited found queued =
      (fresh.reverse ++ visited, found ++ fresh, queued ++ fresh.map (·, depth + 1)) ∧
      fresh.Nodup ∧ ∀ v, v ∈ fresh ↔ v ∈ ns ∧ v ∉ visited
  | [], visited, found, queued => ⟨[], by simp [discover], List.nodup_nil, by simp⟩
  | n :: ns, visited, found, queued => by
    by_cases hn : n ∈ visited
    · obtain ⟨fresh, heq, hnodup, hmem⟩ := discover_eq depth ns visited found queued
      refine ⟨fresh, by simp [discover, hn, heq], hnodup, fun v => ?_⟩
      rw [hmem, List.mem_cons]
      constructor
      · exact fun ⟨hv, hvis⟩ => ⟨.inr hv, hvis⟩
      · rintro ⟨rfl | hv, hvis⟩
        · exact absurd hn hvis
        · exact ⟨hv, hvis⟩
    · obtain ⟨fresh, heq, hnodup, hmem⟩ :=
        discover_eq depth ns (n :: visited) (found ++ [n]) (queued ++ [(n, depth + 1)])
      have hnfresh : n ∉ fresh := fun h => ((hmem n).1 h).2 List.mem_cons_self
      refine ⟨n :: fresh, by simp [discover, hn, heq], List.nodup_cons.2 ⟨hnfresh, hnodup⟩, fun v => ?_⟩
      rw [List.mem_cons, hmem, List.mem_cons, List.mem_cons]
      constructor
      · rintro (rfl | ⟨hv, hvis⟩)
        · exact ⟨.inl rfl, hn⟩
        · exact ⟨.inr hv, fun h => hvis (.inr h)⟩
      · rintro ⟨rfl | hv, hvis⟩
        · exact .inl rfl
        · by_cases hvn : v = n
          · exact .inl hvn
          · exact .inr ⟨hv, fun h => h.elim hvn hvis⟩

/-! ## What the loop keeps -/

/-- A queue of depths that ascend and stay within one level of each other keeps both when its
front, at depth `d`, is taken and entries one level deeper are appended. -/
theorem levels_push {u : Int} {d : Nat} {rest : List (Int × Nat)} (ws : List Int)
    (hasc : (((u, d) :: rest).map (·.2)).Pairwise (· ≤ ·))
    (hspread : ∀ a ∈ (u, d) :: rest, ∀ b ∈ (u, d) :: rest, b.2 ≤ a.2 + 1) :
    ((rest ++ ws.map (·, d + 1)).map (·.2)).Pairwise (· ≤ ·) ∧
      ∀ a ∈ rest ++ ws.map (·, d + 1), ∀ b ∈ rest ++ ws.map (·, d + 1), b.2 ≤ a.2 + 1 := by
  rw [List.map_cons, List.pairwise_cons] at hasc
  -- what stays queued is at depth `d` or `d + 1`, what is appended at `d + 1`
  have hrest : ∀ e ∈ rest, d ≤ e.2 ∧ e.2 ≤ d + 1 := fun e he =>
    ⟨hasc.1 e.2 (List.mem_map_of_mem he), hspread _ List.mem_cons_self e (List.mem_cons_of_mem _ he)⟩
  have hdepth : ∀ e ∈ rest ++ ws.map (·, d + 1), e ∈ rest ∨ e.2 = d + 1 := by
    intro e he
    rcases List.mem_append.1 he with he | he
    · exact .inl he
    · obtain ⟨w, -, rfl⟩ := List.mem_map.1 he
      exact .inr rfl
  refine ⟨?_, fun a ha b hb => ?_⟩
  · rw [List.map_append, List.pairwise_append, List.map_map]
    refine ⟨hasc.2, List.pairwise_map.2 (List.pairwise_of_forall fun _ _ => le_refl _), ?_⟩
    intro a ha b hb
    obtain ⟨e, he, rfl⟩ := List.mem_map.1 ha
    obtain ⟨w, -, rfl⟩ := List.mem_map.1 hb
    exact (hrest e he).2
  · rcases hdepth a ha with ha | ha <;> rcases hdepth b hb with hb | hb
    · exact hspread a (List.mem_cons_of_mem _ ha) b (List.mem_cons_of_mem _ hb)
    · have := (hrest a ha).1
      omega
    · have := (hrest b hb).2
      omega
    · omega

/-- What the build-out loop keeps of its visited entities, its discoveries and its queue. -/
structure Discovery (g : EntityGraph) (seeds : List Int) (hops : Nat) (visited found : List Int)
    (queue : List (Int × Nat)) : Prop where
  /-- A queued entity is visited, and queued at its distance. -/
  queued_visited : ∀ e ∈ queue, e.1 ∈ visited
  queued_distance : ∀ e ∈ queue, g.AtDistance seeds e.2 e.1
  /-- The queue holds entities of one depth, then of the next. -/
  ascending : (queue.map (·.2)).Pairwise (· ≤ ·)
  spread : ∀ a ∈ queue, ∀ b ∈ queue, b.2 ≤ a.2 + 1
  /-- The visited entities are the seeds and the discoveries. -/
  visited_iff : ∀ v, v ∈ visited ↔ v ∈ seeds ∨ v ∈ found
  nodup : found.Nodup
  not_seed : ∀ v ∈ found, v ∉ seeds
  within : ∀ v ∈ found, g.Within seeds hops v
  /-- Discoveries come nearer first, none farther than one edge past a queued depth. -/
  ordered : found.Pairwise (g.Nearer seeds)
  near_queue : ∀ v ∈ found, ∀ e ∈ queue, g.Within seeds (e.2 + 1) v
  /-- An entity that has left the queue, closer than `hops`, has its neighbours visited. -/
  closed : ∀ u ∈ visited, (∀ e ∈ queue, e.1 ≠ u) → ∀ k, g.Within seeds k u → k < hops →
    ∀ w ∈ g.neighbors u, w ∈ visited

namespace Discovery

variable {hops : Nat} {visited found : List Int} {queue : List (Int × Nat)}

/-- The loop starts from the seeds, visited and queued at depth `0`. -/
theorem start : Discovery g seeds hops seeds [] (seeds.map (·, 0)) where
  queued_visited := by simp
  queued_distance := by
    simp only [List.mem_map, forall_exists_index, and_imp]
    rintro _ v hv rfl
    exact ⟨.seed hv, fun j hj => absurd hj (Nat.not_lt_zero j)⟩
  ascending := by simp [List.pairwise_map, List.pairwise_of_forall]
  spread := by simp
  visited_iff := by simp
  nodup := List.nodup_nil
  not_seed := by simp
  within := by simp
  ordered := List.Pairwise.nil
  near_queue := by simp
  closed := by
    intro u hu hout
    exact absurd rfl (hout (u, 0) (List.mem_map.2 ⟨u, hu, rfl⟩))

/-- Every entity within `m` edges is visited, when no queued depth is below `m` and `m` is within
the bound: a walk to it passes entities that have all left the queue. -/
theorem visited_of_within (hd : Discovery g seeds hops visited found queue) {m : Nat}
    (hq : ∀ e ∈ queue, m ≤ e.2) (hm : m ≤ hops) :
    ∀ {k : Nat} {v : Int}, g.Within seeds k v → k ≤ m → v ∈ visited := by
  intro k v hv
  induction hv with
  | seed hv => exact fun _ => (hd.visited_iff _).2 (.inl hv)
  | @step k u w hu hw ih =>
    intro hk
    have hu_visited : u ∈ visited := ih (by omega)
    -- the entity before is nearer than every queued depth, so it has left the queue
    have hout : ∀ e ∈ queue, e.1 ≠ u := by
      rintro e he rfl
      have := (hd.queued_distance e he).le hu
      have := hq e he
      omega
    exact hd.closed u hu_visited hout k hu (by omega) w hw

/-- An entry at or past the bound leaves the queue without its neighbours. -/
theorem skip {u : Int} {d : Nat} {rest : List (Int × Nat)}
    (hd : Discovery g seeds hops visited found ((u, d) :: rest)) (hdeep : hops ≤ d) :
    Discovery g seeds hops visited found rest where
  queued_visited e he := hd.queued_visited e (List.mem_cons_of_mem _ he)
  queued_distance e he := hd.queued_distance e (List.mem_cons_of_mem _ he)
  ascending := by
    have h := hd.ascending
    rw [List.map_cons, List.pairwise_cons] at h
    exact h.2
  spread a ha b hb := hd.spread a (List.mem_cons_of_mem _ ha) b (List.mem_cons_of_mem _ hb)
  visited_iff := hd.visited_iff
  nodup := hd.nodup
  not_seed := hd.not_seed
  within := hd.within
  ordered := hd.ordered
  near_queue v hv e he := hd.near_queue v hv e (List.mem_cons_of_mem _ he)
  closed w hw hout k hk hlt := by
    refine hd.closed w hw ?_ k hk hlt
    rintro e he rfl
    rcases List.mem_cons.1 he with rfl | he
    · -- the entity that left is at its depth, which is not below the bound
      have := (hd.queued_distance _ List.mem_cons_self).le hk
      omega
    · exact hout e he rfl

/-- Queueing the new neighbours of the front entity, below the bound, one level deeper keeps the
invariant. -/
theorem expand {u : Int} {d : Nat} {rest : List (Int × Nat)}
    (hd : Discovery g seeds hops visited found ((u, d) :: rest)) (hlt : d < hops) {fresh : List Int}
    (hnodup : fresh.Nodup) (hfresh : ∀ v, v ∈ fresh ↔ v ∈ g.neighbors u ∧ v ∉ visited) :
    Discovery g seeds hops (fresh.reverse ++ visited) (found ++ fresh) (rest ++ fresh.map (·, d + 1)) := by
  have hu : g.AtDistance seeds d u := hd.queued_distance _ List.mem_cons_self
  have hmin : ∀ e ∈ (u, d) :: rest, d ≤ e.2 := by
    have h := hd.ascending
    rw [List.map_cons, List.pairwise_cons] at h
    rintro e he
    rcases List.mem_cons.1 he with rfl | he
    · exact le_refl _
    · exact h.1 e.2 (List.mem_map_of_mem he)
  have hrest : ∀ e ∈ rest, d ≤ e.2 ∧ e.2 ≤ d + 1 := fun e he =>
    ⟨hmin e (List.mem_cons_of_mem _ he), hd.spread _ List.mem_cons_self e (List.mem_cons_of_mem _ he)⟩
  -- a new neighbour is one edge past the front, and no nearer: it would have been visited
  have hnew : ∀ w ∈ fresh, g.AtDistance seeds (d + 1) w := by
    intro w hw
    obtain ⟨hnb, hvis⟩ := (hfresh w).1 hw
    refine ⟨.step hu.1 hnb, fun j hj hwj => hvis ?_⟩
    exact hd.visited_of_within hmin hlt.le (hwj.mono (by omega)) (le_refl d)
  have hfound : ∀ v ∈ found, g.Within seeds (d + 1) v := fun v hv =>
    hd.near_queue v hv _ List.mem_cons_self
  have hvisited : ∀ v, v ∈ fresh.reverse ++ visited ↔ v ∈ fresh ∨ v ∈ visited := by simp
  have hqueue : ∀ e ∈ rest ++ fresh.map (·, d + 1), (e ∈ rest) ∨ (e.1 ∈ fresh ∧ e.2 = d + 1) := by
    intro e he
    rcases List.mem_append.1 he with he | he
    · exact .inl he
    · obtain ⟨w, hw, rfl⟩ := List.mem_map.1 he
      exact .inr ⟨hw, rfl⟩
  refine
    { queued_visited := ?_, queued_distance := ?_, ascending := ?_, spread := ?_, visited_iff := ?_,
      nodup := ?_, not_seed := ?_, within := ?_, ordered := ?_, near_queue := ?_, closed := ?_ }
  · intro e he
    rcases hqueue e he with he | ⟨hw, -⟩
    · exact (hvisited _).2 (.inr (hd.queued_visited e (List.mem_cons_of_mem _ he)))
    · exact (hvisited _).2 (.inl hw)
  · intro e he
    rcases hqueue e he with he | ⟨hw, hde⟩
    · exact hd.queued_distance e (List.mem_cons_of_mem _ he)
    · rw [hde]
      exact hnew _ hw
  · exact (levels_push fresh hd.ascending hd.spread).1
  · exact (levels_push fresh hd.ascending hd.spread).2
  · intro v
    rw [hvisited, hd.visited_iff, List.mem_append]
    tauto
  · refine hd.nodup.append hnodup fun v hv hw => ?_
    exact ((hfresh v).1 hw).2 ((hd.visited_iff v).2 (.inr hv))
  · intro v hv
    rcases List.mem_append.1 hv with hv | hv
    · exact hd.not_seed v hv
    · exact fun hs => ((hfresh v).1 hv).2 ((hd.visited_iff v).2 (.inl hs))
  · intro v hv
    rcases List.mem_append.1 hv with hv | hv
    · exact hd.within v hv
    · exact (hnew v hv).1.mono hlt
  · refine List.pairwise_append.2 ⟨hd.ordered, ?_, ?_⟩
    · -- two new neighbours are both one edge past the front
      refine List.pairwise_of_forall_mem_list fun a ha b hb k hk => ?_
      exact (hnew a ha).1.mono ((hnew b hb).le hk)
    · intro a ha b hb k hk
      exact (hfound a ha).mono ((hnew b hb).le hk)
  · intro v hv e he
    have hv' : g.Within seeds (d + 1) v := by
      rcases List.mem_append.1 hv with hv | hv
      · exact hfound v hv
      · exact (hnew v hv).1
    rcases hqueue e he with he | ⟨-, hde⟩
    · exact hv'.mono (by have := (hrest e he).1; omega)
    · exact hv'.mono (by omega)
  · intro w hw hout k hk hklt x hx
    rw [hvisited] at hw ⊢
    by_cases hwu : w = u
    · -- the front entity has all its neighbours visited now
      subst hwu
      by_cases hxv : x ∈ visited
      · exact .inr hxv
      · exact .inl ((hfresh x).2 ⟨hx, hxv⟩)
    · -- any other entity that left the queue had left it before
      have hwv : w ∈ visited := by
        rcases hw with hw | hw
        · exact absurd rfl (hout (w, d + 1) (List.mem_append_right _ (List.mem_map.2 ⟨w, hw, rfl⟩)))
        · exact hw
      refine .inr (hd.closed w hwv ?_ k hk hklt x hx)
      rintro e he rfl
      rcases List.mem_cons.1 he with rfl | he
      · exact hwu rfl
      · exact hout e (List.mem_append_left _ he) rfl

/-- With the queue empty the discoveries are a build-out. -/
theorem isBuildOut (hd : Discovery g seeds hops visited found []) : IsBuildOut g seeds hops found where
  nodup := hd.nodup
  not_seed := hd.not_seed
  mem_iff v := by
    rw [exists_atDistance_iff]
    constructor
    · exact fun hv => ⟨hd.not_seed v hv, hd.within v hv⟩
    · rintro ⟨hs, hw⟩
      have hvis := hd.visited_of_within (m := hops) (by simp) (le_refl hops) hw (le_refl hops)
      exact ((hd.visited_iff v).1 hvis).resolve_left hs
  ordered := hd.ordered.imp fun hab _ _ ha hb => ha.le_of_nearer hab hb

end Discovery

/-! ## Runs of the loop -/

/-- What is left to do: the queued entries and the nodes not yet visited. -/
def pending (g : EntityGraph) (visited : List Int) (queue : List (Int × Nat)) : Nat :=
  queue.length + (g.nodes.filter fun x => x ∉ visited).length

/-- Marking visited distinct members of `U` not visited before takes as many members of `U` off
those not yet visited. -/
theorem length_filter_not_mem_le {α : Type} [BEq α] [LawfulBEq α] {U visited visited' fresh : List α}
    (hnodup : fresh.Nodup) (hfresh : ∀ x ∈ fresh, x ∈ U ∧ x ∉ visited)
    (hvisited : ∀ x, x ∈ visited' ↔ x ∈ fresh ∨ x ∈ visited) :
    fresh.length + (U.filter fun x => x ∉ visited').length ≤ (U.filter fun x => x ∉ visited).length := by
  have hsplit : (U.filter fun x => x ∉ visited).length =
      (U.filter fun x => x ∈ fresh ∧ x ∉ visited).length + (U.filter fun x => x ∉ visited').length := by
    rw [List.length_eq_length_filter_add (fun x => decide (x ∈ fresh)), List.filter_filter,
      List.filter_filter]
    congr 2 <;> refine List.filter_congr fun x _ => ?_ <;> simp [hvisited, Bool.and_comm]
  -- the fresh members are distinct members of `U` that were not visited
  have hle : fresh.length ≤ (U.filter fun x => x ∈ fresh ∧ x ∉ visited).length :=
    hnodup.length_le_of_subset fun x hx => by simpa [hx] using hfresh x hx
  omega

/-- Queueing the new neighbours of an entity, in a graph whose neighbours are nodes, takes as
many nodes off the undiscovered ones as it puts on the queue, while the front entry leaves it. -/
theorem pending_lt_expand (hg : g.Closed) {u : Int} {visited fresh : List Int} {rest : List (Int × Nat)}
    {d : Nat} (hnodup : fresh.Nodup) (hfresh : ∀ v, v ∈ fresh ↔ v ∈ g.neighbors u ∧ v ∉ visited) :
    g.pending (fresh.reverse ++ visited) (rest ++ fresh.map (·, d + 1)) < g.pending visited ((u, d) :: rest) := by
  -- the new neighbours are distinct undiscovered nodes
  have hcount : fresh.length + (g.nodes.filter fun x => x ∉ fresh.reverse ++ visited).length ≤
      (g.nodes.filter fun x => x ∉ visited).length :=
    length_filter_not_mem_le hnodup
      (fun w hw => ⟨hg.mem_nodes ((hfresh w).1 hw).1, ((hfresh w).1 hw).2⟩) (by simp)
  simp only [pending, List.length_append, List.length_map, List.length_cons]
  omega

/-- Every run of the loop with enough fuel, from a state that keeps the invariant, ends on a
build-out. -/
theorem isBuildOut_loop (hg : g.Closed) {hops : Nat} :
    ∀ (fuel : Nat) {visited found : List Int} {queue : List (Int × Nat)},
      Discovery g seeds hops visited found queue → g.pending visited queue < fuel →
      IsBuildOut g seeds hops (g.buildOutLoop hops fuel visited found queue)
  | 0, _, _, _, _, hfuel => absurd hfuel (Nat.not_lt_zero _)
  | fuel + 1, visited, found, queue, hd, hfuel => by
    rcases queue with _ | ⟨⟨u, d⟩, rest⟩
    · exact hd.isBuildOut
    by_cases hdeep : hops ≤ d
    · rw [buildOutLoop, if_pos hdeep]
      refine isBuildOut_loop hg fuel (hd.skip hdeep) ?_
      simp only [pending, List.length_cons] at hfuel ⊢
      omega
    · obtain ⟨fresh, heq, hnodup, hfresh⟩ := discover_eq d (g.neighbors u) visited found []
      rw [buildOutLoop, if_neg hdeep, heq, List.nil_append]
      refine isBuildOut_loop hg fuel (hd.expand (by omega) hnodup hfresh) ?_
      exact (pending_lt_expand hg hnodup hfresh).trans_le (by omega)

/-- **Build-out is breadth-first.** Over a graph built by adding entities and relationships,
`buildOut seeds hops` lists each entity at distance `1` to `hops` from the seeds exactly once,
no seed, and nearer entities before farther ones. -/
theorem buildOut_breadthFirst (hg : g.Built) (seeds : List Int) (hops : Nat) :
    IsBuildOut g seeds hops (g.buildOut seeds hops) := by
  refine isBuildOut_loop hg.closed _ Discovery.start ?_
  have hnodes : (g.nodes.filter fun x => x ∉ seeds).length ≤ g.size := by
    simpa [nodes, size] using List.length_filter_le (fun x => decide (x ∉ seeds)) g.nodes
  simp only [pending, List.length_map]
  omega

/-- The chain `1 - 2 - 3 - 4`. -/
def fourChain : EntityGraph := ((({} : EntityGraph).addRelationship 1 2).addRelationship 2 3).addRelationship 3 4

/-- From `1`, two hops reach `2` and then `3`. -/
theorem fourChain_buildOut :
    fourChain.Built ∧ fourChain.buildOut [1] 2 = [2, 3] ∧ fourChain.IsBuildOut [1] 2 (fourChain.buildOut [1] 2) :=
  have hg : fourChain.Built := .addRelationship _ _ (.addRelationship _ _ (.addRelationship _ _ .empty))
  ⟨hg, by decide, buildOut_breadthFirst hg [1] 2⟩

end EntityGraph

end EntityGateway
