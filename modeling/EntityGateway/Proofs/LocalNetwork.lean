import EntityGateway.Engine.Local
import EntityGateway.Proofs.Distinct
import EntityGateway.Proofs.PathAnswers
import EntityGateway.Proofs.Projection
import EntityGateway.Proofs.ShortestPath

/-!
# Networks over the local engine

Over the local engine, the gateway's network answer is the engine's: the gateway keeps every
path the engine found, and its own ordering and cut of the entities agree with the engine's.
Both list the requested entities, then those on the paths, then more (the build-out for the
engine, the engine's entities for the gateway), each once, and cut the list to the same budget.

* `appendDistinct_take` is the prefix argument: appending to `O` the first `B` entities of a
  list that extends `O`, then cutting to `B`, gives the first `B` entities of that list.
* `LocalEngine.networkData_ok` says what the engine answers: the shortest path of each pair of
  requested entities, and the entities of `networkEntities`, cut to the budget.
* `findNetwork_local` is the agreement: an answered network request over the local engine lists
  exactly the first entities of `networkEntities` up to the budget, projected from the
  engine's payload, with the engine's paths.
-/

namespace EntityGateway

/-- The gateway's appending of new entities is `appendDistinct`. -/
theorem appendNew_eq_appendDistinct : appendNew = appendDistinct := rfl

/-! ## The local engine's networks -/

/-- The entities of a network over `g`, each once in the order first met: the requested ones,
those on the shortest path (within `maxDegrees`) of each pair of them, then those within
`buildOut` relationships of them. -/
def networkEntities (g : EntityGraph) (requested : List Int) (maxDegrees buildOut : Nat) : List Int :=
  (requested ++ (orderedPairs requested).flatMap (fun p => (g.shortestPath p.1 p.2 { maxDegrees }).getD []) ++
    g.buildOut requested buildOut).eraseDups

/-- The requested entities, then those on the shortest path (within `maxDegrees`) of each pair
of them, each once. -/
def pathOrder (g : EntityGraph) (requested : List Int) (maxDegrees : Nat) : List Int :=
  appendNew requested ((orderedPairs requested).flatMap fun p => (g.shortestPath p.1 p.2 { maxDegrees }).getD [])

/-- Without repeated requested entities, appending the build-out to `pathOrder` lists
`networkEntities`. -/
theorem appendNew_pathOrder {g : EntityGraph} {requested : List Int} (hr : requested.Nodup)
    (maxDegrees buildOut : Nat) :
    appendNew (pathOrder g requested maxDegrees) (g.buildOut requested buildOut) =
      networkEntities g requested maxDegrees buildOut := by
  rw [pathOrder, appendNew_eq_appendDistinct, ← appendDistinct_append, appendDistinct_eq_eraseDups hr,
    networkEntities, List.append_assoc]

namespace LocalEngine

theorem pushUnique_eq_appendDistinct : pushUnique = appendDistinct := rfl

theorem pairs_eq_orderedPairs (l : List Int) : pairs l = orderedPairs l := by
  induction l with
  | nil => rfl
  | cons a rest ih => rw [pairs, orderedPairs, ih]

/-- The data of an entity is the data of that entity. -/
theorem entityData_entityId {st : LocalEngine} {id : Int} {flags : EngineFlags} {d : EntityData}
    (h : st.entityData id flags = .ok d) : d.entity.entityId = id := by
  unfold entityData at h
  obtain ⟨records, -, h⟩ := except_bind_eq_ok.1 h
  simp only at h
  -- with or without related entities, the entity is the one built for `id`
  split at h <;>
  · obtain ⟨related, -, h⟩ := except_bind_eq_ok.1 h
    cases h
    rfl

/-- What the local engine answers to a network request: the shortest path of each pair of
requested entities, in request order, and the entities of `pathOrder` followed by the
build-out, cut to the budget, saying whether the cut dropped any. -/
theorem networkData_ok {st : LocalEngine} {r : NetworkRequest} {flags : EngineFlags} {d : NetworkData}
    (h : st.networkData r flags = .ok d) :
    d.paths = (orderedPairs r.entityIds).map (fun p =>
        (⟨p.1, p.2, (st.repo.graph.shortestPath p.1 p.2 { maxDegrees := r.maxDegrees }).getD []⟩ : EntityPath)) ∧
      d.entities.map (·.entity.entityId) =
        (appendNew (pathOrder st.repo.graph r.entityIds r.maxDegrees)
          (st.repo.graph.buildOut r.entityIds r.buildOut)).take (max r.maxEntities r.entityIds.length) ∧
      d.limitReached = decide (max r.maxEntities r.entityIds.length <
        (appendNew (pathOrder st.repo.graph r.entityIds r.maxDegrees)
          (st.repo.graph.buildOut r.entityIds r.buildOut)).length) := by
  unfold networkData at h
  obtain ⟨-, -, h⟩ := except_bind_eq_ok.1 h
  simp only at h
  obtain ⟨ents, hents, h⟩ := except_bind_eq_ok.1 h
  cases h
  -- the engine's ordering, as appends of new entities
  have hordered : pushUnique (((pairs r.entityIds).map fun p => (⟨p.1, p.2,
        (st.repo.graph.shortestPath p.1 p.2 { maxDegrees := r.maxDegrees }).getD []⟩ : EntityPath)).foldl
          (fun acc p => pushUnique acc p.entities) r.entityIds) (st.repo.graph.buildOut r.entityIds r.buildOut) =
      appendNew (pathOrder st.repo.graph r.entityIds r.maxDegrees) (st.repo.graph.buildOut r.entityIds r.buildOut) := by
    simp only [pushUnique_eq_appendDistinct, appendNew_eq_appendDistinct, List.foldl_map, foldl_appendDistinct,
      pairs_eq_orderedPairs, pathOrder]
  refine ⟨by rw [pairs_eq_orderedPairs], ?_, ?_⟩
  · rw [map_key_of_mapM_eq_ok (fun _ _ hd => entityData_entityId hd) hents, List.map_id', hordered]
  · rw [hordered]

/-- A call of the local engine reads the state and leaves it. -/
theorem exec_call_answer {α : Type} (f : LocalEngine → Except EngineFailure α) (st : LocalEngine) :
    (Service.call (answer f)).exec st = ((f st).mapError GatewayError.ofFailure, st) := by
  have hrun : (answer f).run.run st = (f st, st) := rfl
  simp only [Service.exec, Service.call, ExceptT.run_mk, StateT.run_bind, hrun]
  cases f st <;> rfl

end LocalEngine

/-! ## The engine's paths, as the gateway checks them -/

/-- A pair and its swap are never both pairs of a list without repeats. -/
theorem swap_not_mem_orderedPairs {l : List Int} (hl : l.Nodup) {x y : Int}
    (h : (x, y) ∈ orderedPairs l) : (y, x) ∉ orderedPairs l := by
  intro hswap
  obtain ⟨i, j, hij, hi, hj⟩ := mem_orderedPairs.1 h
  obtain ⟨i', j', hij', hi', hj'⟩ := mem_orderedPairs.1 hswap
  -- `x` sits at `i` and at `j'`, `y` at `j` and at `i'`
  have hx : i = j' := (List.getElem?_inj (List.getElem?_eq_some_iff.1 hi).1 hl).1 (hi.trans hj'.symm)
  have hy : j = i' := (List.getElem?_inj (List.getElem?_eq_some_iff.1 hj).1 hl).1 (hj.trans hi'.symm)
  omega

/-- Among paths listed by their endpoints, the one between `x` and `y` is found as listed when
the pair is listed and its swap is not. -/
theorem PathView.select_map {ps : List (Int × Int)} (f : Int × Int → List Int) {x y : Int}
    (h : (x, y) ∈ ps) (hswap : (y, x) ∉ ps) :
    PathView.select (ps.map fun p => ⟨p.1, p.2, f p⟩) x y = ⟨x, y, f (x, y)⟩ := by
  induction ps with
  | nil => cases h
  | cons p ps ih =>
    obtain ⟨a, b⟩ := p
    by_cases hab : a = x ∧ b = y
    · obtain ⟨rfl, rfl⟩ := hab
      simp [PathView.select]
    · -- the first pair is neither the pair nor its swap: the search goes on
      have hba : ¬(a = y ∧ b = x) := by
        rintro ⟨rfl, rfl⟩
        exact hswap (List.mem_cons_self ..)
      have h' : (x, y) ∈ ps := by
        rcases List.mem_cons.1 h with h | h
        · exact absurd ⟨(Prod.mk.inj h).1.symm, (Prod.mk.inj h).2.symm⟩ hab
        · exact h
      rw [← ih h' fun hmem => hswap (List.mem_cons_of_mem _ hmem)]
      simp [PathView.select, hab, hba]

/-- A shortest path, or none, fits its degree bound. -/
theorem fits_shortestPath (g : EntityGraph) (x y : Int) (maxDegrees : Nat) :
    (⟨x, y, (g.shortestPath x y { maxDegrees }).getD []⟩ : PathView).fits maxDegrees [] = true := by
  rw [PathView.fits_iff]
  cases hp : g.shortestPath x y { maxDegrees } with
  | none => exact .inl rfl
  | some p =>
    have hsimple := EntityGraph.shortestPath_isSimplePath hp
    exact .inr ⟨⟨hsimple.head, hsimple.last, hsimple.nodup, EntityGraph.shortestPath_length_le hp⟩,
      fun _ _ => List.not_mem_nil⟩

/-- The gateway keeps every shortest path the local engine lists for the pairs of requested
entities. -/
theorem checked_shortestPaths (g : EntityGraph) {requested : List Int} (hr : requested.Nodup)
    (maxDegrees : Nat) :
    (orderedPairs requested).map (fun (a, b) => (PathView.select ((orderedPairs requested).map fun p =>
        (⟨p.1, p.2, (g.shortestPath p.1 p.2 { maxDegrees }).getD []⟩ : EntityPath)) a b).checked maxDegrees []) =
      (orderedPairs requested).map fun p =>
        (⟨p.1, p.2, (g.shortestPath p.1 p.2 { maxDegrees }).getD []⟩ : PathView) := by
  refine List.map_congr_left fun xy hxy => ?_
  obtain ⟨x, y⟩ := xy
  have hselect := PathView.select_map (fun p => (g.shortestPath p.1 p.2 { maxDegrees }).getD []) hxy
    (swap_not_mem_orderedPairs hr hxy)
  simp only [hselect]
  exact PathView.checked_of_fits (fits_shortestPath g x y maxDegrees)

/-- The requested entities come first among the entities of their network. -/
theorem prefix_networkEntities (g : EntityGraph) {requested : List Int} (hr : requested.Nodup)
    (maxDegrees buildOut : Nat) : requested <+: networkEntities g requested maxDegrees buildOut := by
  rw [← appendNew_pathOrder hr, appendNew_eq_appendDistinct]
  obtain ⟨zs, hzs⟩ := appendDistinct_eq_append (pathOrder g requested maxDegrees) (g.buildOut requested buildOut)
  obtain ⟨ys, hys⟩ := appendDistinct_eq_append requested
    ((orderedPairs requested).flatMap fun p => (g.shortestPath p.1 p.2 { maxDegrees }).getD [])
  rw [hzs, pathOrder, appendNew_eq_appendDistinct, hys, List.append_assoc]
  exact List.prefix_append _ _

/-! ## Gathering the entities of a network -/

namespace Service

variable {σ : Type}

/-- The entity data of an entity listed once among `provided` is found there. -/
theorem find?_entityId {provided : List EntityData} (hp : (provided.map (·.entity.entityId)).Nodup)
    {d : EntityData} (hd : d ∈ provided) :
    provided.find? (fun x => decide (x.entity.entityId = d.entity.entityId)) = some d := by
  cases hfind : provided.find? (fun x => decide (x.entity.entityId = d.entity.entityId)) with
  | none =>
    have := List.find?_eq_none.1 hfind d hd
    simp at this
  | some x =>
    have hx := List.mem_of_find?_eq_some hfind
    have hkey : x.entity.entityId = d.entity.entityId := by simpa using List.find?_some hfind
    rw [List.inj_on_of_nodup_map hp hx hd hkey]

/-- Gathering the entities of provided data, each entity provided once, answers that data
without asking the engine. -/
theorem gather_provided (e : Engine σ) {provided : List EntityData}
    (hp : (provided.map (·.entity.entityId)).Nodup) (flags : EngineFlags) (st : σ) :
    ∀ ds : List EntityData, (∀ d ∈ ds, d ∈ provided) →
      (gather e provided (ds.map (·.entity.entityId)) flags).exec st = (.ok ds, st) := by
  intro ds
  induction ds with
  | nil => exact fun _ => rfl
  | cons d ds ih =>
    intro hds
    have hfind := find?_entityId hp (hds d (List.mem_cons_self ..))
    have hrest := ih fun d' hd' => hds d' (List.mem_cons_of_mem _ hd')
    unfold gather at hrest ⊢
    rw [List.map_cons, List.mapM_cons, exec_bind]
    simp only [hfind, exec_pure]
    rw [exec_bind, hrest]
    rfl

/-! ## Calls of the local engine -/

theorem localEngine_findNetwork (r : NetworkRequest) (flags : EngineFlags) :
    localEngine.findNetwork r flags =
      LocalEngine.answer fun e => (e.networkData r flags).map (Reply.ofData NetworkData.toJson) :=
  rfl

/-- A network search of the local engine that answered read the engine's network data, and
left the state as it was. -/
theorem exec_call_findNetwork {r : NetworkRequest} {flags : EngineFlags} {st st' : LocalEngine}
    {reply : Reply NetworkData} (h : (call (localEngine.findNetwork r flags)).exec st = (.ok reply, st')) :
    st' = st ∧ ∃ d, st.networkData r flags = .ok d ∧ reply = Reply.ofData NetworkData.toJson d := by
  rw [localEngine_findNetwork, LocalEngine.exec_call_answer] at h
  obtain ⟨hreply, rfl⟩ := Prod.mk.inj h
  refine ⟨rfl, ?_⟩
  cases hd : st.networkData r flags with
  | error f =>
    rw [hd] at hreply
    cases hreply
  | ok d =>
    rw [hd] at hreply
    cases hreply
    exact ⟨d, rfl, rfl⟩

/-- A call of the local engine that only reads its state leaves it. -/
theorem keeps_call_answer {α : Type} (f : LocalEngine → Except EngineFailure α) :
    Keeps (call (LocalEngine.answer f)) := fun st => by
  rw [LocalEngine.exec_call_answer]

theorem resolve_local_keeps (i : EntityIdentifier) : Keeps (resolve localEngine i) := by
  cases i with
  | entity id => exact Keeps.pure id
  | record ds rid => exact keeps_call_answer _

theorem resolveAll_local_keeps (ids : Identifiers) : Keeps (resolveAll localEngine ids) :=
  Keeps.foldlM (fun _ i => Keeps.bind (resolve_local_keeps i) fun _ => Keeps.pure _) ids.items []

theorem ensureKnownSources_local_keeps (sources : List String) (what : String) :
    Keeps (ensureKnownSources localEngine sources what) := by
  unfold ensureKnownSources
  split
  · exact Keeps.pure ()
  · refine Keeps.bind (Keeps.call fun _ => rfl) fun known => ?_
    split
    · exact Keeps.lift _
    · exact Keeps.pure ()

/-- Checking and resolving a network query over the local engine leaves the engine as it was. -/
theorem resolveNetworkQuery_local_keeps (q : NetworkQuery) : Keeps (resolveNetworkQuery localEngine q) :=
  Keeps.bind (Keeps.lift _) fun _ => Keeps.bind (ensureKnownSources_local_keeps _ _) fun _ =>
    resolveAll_local_keeps q.entities

/-- **Networks over the local engine.** An answered network request leaves the engine as it
was. Its identifiers resolved, in order and without repeats, to `requested`, and the engine
answered the request with `d`. The answer's paths are the engine's, unchanged, and its entities
are the engine's, projected in order: the first entities of `networkEntities` up to the budget,
the larger of the entity limit and the number requested, so the requested ones all come first.
The limit is reached exactly when the budget cut some entity. -/
theorem findNetwork_local {q : NetworkQuery} {o : RenderOptions} {st st' : LocalEngine}
    {a : Answer NetworkAnswer} (h : (findNetwork localEngine q o).exec st = (.ok a, st')) :
    st' = st ∧ ∃ requested d, (resolveNetworkQuery localEngine q).exec st = (.ok requested, st) ∧
      requested.Nodup ∧
      st.networkData ⟨requested, q.maxDegrees, q.buildOut, q.maxEntities⟩ o.engineFlags = .ok d ∧
      a.data.paths = d.paths.map (fun p => ⟨p.start, p.finish, p.entities⟩) ∧
      d.entities.mapM (project o) = .ok a.data.entities ∧
      a.data.entities.map (·.entity.entityId) =
        (networkEntities st.repo.graph requested q.maxDegrees q.buildOut).take
          (max q.maxEntities requested.length) ∧
      requested <+: a.data.entities.map (·.entity.entityId) ∧
      (a.data.limitReached = true ↔ max q.maxEntities requested.length <
        (networkEntities st.repo.graph requested q.maxDegrees q.buildOut).length) := by
  rw [findNetwork, bind_ok_iff] at h
  obtain ⟨requested, st₁, hres, h⟩ := h
  have hst₁ : st = st₁ := by
    have := resolveNetworkQuery_local_keeps q st
    rw [hres] at this
    exact this.symm
  subst hst₁
  have hr : requested.Nodup := (resolveNetworkQuery_nodup q).of_ok hres List.Nodup
  -- the engine's answer
  obtain ⟨reply, st₂, hcall, h⟩ := bind_ok_iff.1 h
  obtain ⟨hst₂, d, hd, rfl⟩ := exec_call_findNetwork hcall
  subst st₂
  obtain ⟨payload, st₃, hread, h⟩ := bind_ok_iff.1 h
  obtain ⟨hpayload, rfl⟩ := Prod.mk.inj hread
  cases hpayload
  -- what the engine answered
  obtain ⟨hpaths, hents, hlimit⟩ := LocalEngine.networkData_ok hd
  dsimp only at hpaths hents hlimit
  have hP : (pathOrder st.repo.graph requested q.maxDegrees).Nodup := nodup_appendDistinct hr
  have hviews : (orderedPairs requested).map (fun (a, b) =>
      (PathView.select d.paths a b).checked q.maxDegrees []) = (orderedPairs requested).map fun p =>
        (⟨p.1, p.2, (st.repo.graph.shortestPath p.1 p.2 { maxDegrees := q.maxDegrees }).getD []⟩ : PathView) := by
    rw [hpaths]
    exact checked_shortestPaths st.repo.graph hr q.maxDegrees
  have hfold : ((orderedPairs requested).map fun p => (⟨p.1, p.2,
      (st.repo.graph.shortestPath p.1 p.2 { maxDegrees := q.maxDegrees }).getD []⟩ : PathView)).foldl
        (fun acc p => appendNew acc p.entityIds) requested = pathOrder st.repo.graph requested q.maxDegrees := by
    rw [List.foldl_map, appendNew_eq_appendDistinct, foldl_appendDistinct]
    rfl
  -- the prefix argument: the gateway wants exactly the entities the engine gave
  have hwanted : (appendNew (pathOrder st.repo.graph requested q.maxDegrees)
      (d.entities.map (·.entity.entityId))).take (max q.maxEntities requested.length) =
        d.entities.map (·.entity.entityId) := by
    rw [hents, appendNew_eq_appendDistinct, take_appendDistinct_take hP]
  have hkeys : (d.entities.map (·.entity.entityId)).Nodup := by
    rw [hents]
    exact (nodup_appendDistinct hP).sublist (List.take_sublist _ _)
  obtain ⟨entities, st₄, hgather, h⟩ := bind_ok_iff.1 h
  rw [hviews, hfold, hwanted, gather_provided localEngine hkeys o.engineFlags st d.entities fun _ hd => hd] at hgather
  obtain ⟨hentities, rfl⟩ := Prod.mk.inj hgather
  cases hentities
  obtain ⟨views, st₅, hproj, h⟩ := bind_ok_iff.1 h
  obtain ⟨hviews', rfl⟩ := Prod.mk.inj hproj
  obtain ⟨ha, rfl⟩ := Prod.mk.inj h
  cases ha
  -- the answer's entities are the engine's, projected
  have hids : views.map (·.entity.entityId) =
      (networkEntities st.repo.graph requested q.maxDegrees q.buildOut).take (max q.maxEntities requested.length) := by
    rw [map_key_of_mapM_eq_ok (fun _ _ hv => project_entityId hv) hviews', hents, appendNew_pathOrder hr]
  refine ⟨rfl, requested, d, hres, hr, hd, ?_, hviews', hids, ?_, ?_⟩
  · dsimp only
    rw [hviews, hpaths, List.map_map]
    rfl
  · dsimp only
    rw [hids, List.prefix_take_iff]
    exact ⟨prefix_networkEntities st.repo.graph hr q.maxDegrees q.buildOut, le_max_right _ _⟩
  · -- a cut by the gateway is a cut by the engine
    dsimp only
    rw [hviews, hfold, hents, hlimit, ← appendNew_pathOrder hr, Bool.or_eq_true, decide_eq_true_eq,
      decide_eq_true_eq, appendNew_eq_appendDistinct]
    exact ⟨fun h => h.elim id (lt_length_of_lt_length_appendDistinct_take hP), Or.inl⟩

/-- Entities `1` and `2`, one record each, related to each other. -/
def pairEngine : LocalEngine where
  repo := { entities := [1, 2]
            records := [⟨1, { dataSource := "A", recordId := "1" }⟩, ⟨2, { dataSource := "A", recordId := "2" }⟩]
            relationships := [{ entityId := 1, relatedId := 2, level := .possiblyRelated },
              { entityId := 2, relatedId := 1, level := .possiblyRelated }] }
  configId := 0
  settings := ⟨.null, ["A"], [], []⟩

/-- The network of `1` and `2`. -/
def pairQuery : NetworkQuery := { entities := ⟨[.entity 1, .entity 2]⟩ }

/-- The network of `1` and `2` over `pairEngine` is answered, as the engine answers it. -/
theorem pairEngine_network :
    ∃ a, (findNetwork localEngine pairQuery {}).exec pairEngine = (.ok a, pairEngine) ∧
      (pairEngine = pairEngine ∧ ∃ requested d,
        (resolveNetworkQuery localEngine pairQuery).exec pairEngine = (.ok requested, pairEngine) ∧
        requested.Nodup ∧
        pairEngine.networkData ⟨requested, pairQuery.maxDegrees, pairQuery.buildOut, pairQuery.maxEntities⟩
          ({} : RenderOptions).engineFlags = .ok d ∧
        a.data.paths = d.paths.map (fun p => ⟨p.start, p.finish, p.entities⟩) ∧
        d.entities.mapM (project {}) = .ok a.data.entities ∧
        a.data.entities.map (·.entity.entityId) =
          (networkEntities pairEngine.repo.graph requested pairQuery.maxDegrees pairQuery.buildOut).take
            (max pairQuery.maxEntities requested.length) ∧
        requested <+: a.data.entities.map (·.entity.entityId) ∧
        (a.data.limitReached = true ↔ max pairQuery.maxEntities requested.length <
          (networkEntities pairEngine.repo.graph requested pairQuery.maxDegrees pairQuery.buildOut).length)) := by
  obtain ⟨a, ha⟩ : ∃ a, (findNetwork localEngine pairQuery {}).exec pairEngine = (.ok a, pairEngine) :=
    ⟨_, rfl⟩
  exact ⟨a, ha, findNetwork_local ha⟩

end Service

end EntityGateway
