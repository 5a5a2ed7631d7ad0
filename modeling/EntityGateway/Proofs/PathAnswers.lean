import EntityGateway.Service.Network
import EntityGateway.Proofs.Distinct
import EntityGateway.Proofs.ServiceRun
import Mathlib.Data.List.Nodup
import Mathlib.Data.Nat.Choose.Basic

/-!
# The paths the gateway answers

Whatever the engine answers, a path the gateway passes on fits the request: it is empty, or it
runs from its start to its finish through distinct entities over at most `maxDegrees` edges
and passes no forbidden entity. The engine may answer paths for other pairs, reversed paths,
long or repeating ones or ones through forbidden entities; `PathView.select` and
`PathView.checked` leave only what fits.

* `PathView.fits_iff` says what `PathView.fits` checks, and `PathView.checked_fits` that a
  checked path fits, whatever `select` found.
* `findPath_ok` takes an answered path request apart: the resolution stage answered the
  endpoints and the avoided entities, the path is checked against the request, and no endpoint
  is forbidden. `findPath_forbidden_endpoint` is the refusal of a forbidden endpoint, which
  comes before the engine's path search.
* `findNetwork_ok`: the paths of an answered network request are the checked engine paths of
  the pairs of resolved entities, which `resolveAll` lists without repeats.
* `answered_paths_fit` gathers these.
-/

namespace EntityGateway

namespace PathView

/-- A path that runs from its start to its finish through distinct entities over at most
`maxDegrees` edges. -/
structure Runs (p : PathView) (maxDegrees : Nat) : Prop where
  head : p.entityIds.head? = some p.start
  last : p.entityIds.getLast? = some p.finish
  nodup : p.entityIds.Nodup
  length_le : p.entityIds.length ≤ maxDegrees + 1

theorem distinct_iff_nodup (l : List Int) : distinct l = true ↔ l.Nodup := by
  induction l with
  | nil => simp [distinct]
  | cons x xs ih => simp [distinct, ih]

/-- What `fits` checks: an empty path fits, and any other must run from its start to its
finish through distinct entities within the bound and pass nothing forbidden. -/
theorem fits_iff {p : PathView} {maxDegrees : Nat} {forbidden : List Int} :
    p.fits maxDegrees forbidden = true ↔
      p.entityIds = [] ∨ (p.Runs maxDegrees ∧ ∀ x ∈ p.entityIds, x ∉ forbidden) := by
  obtain ⟨start, finish, ids⟩ := p
  cases ids with
  | nil => simp [fits]
  | cons x xs =>
    have hlast : (x :: xs).getLast? = some ((x :: xs).getLast (List.cons_ne_nil x xs)) :=
      List.getLast?_eq_some_getLast _
    simp only [fits, List.head?_cons, hlast, distinct_iff_nodup, Bool.and_eq_true, decide_eq_true_eq,
      Bool.not_eq_true', List.any_eq_false, List.contains_iff_mem]
    constructor
    · rintro ⟨⟨⟨⟨rfl, rfl⟩, hlen⟩, hnodup⟩, hfree⟩
      refine .inr ⟨⟨rfl, hlast, hnodup, ?_⟩, ?_⟩
      · simp only [List.length_cons] at hlen ⊢
        omega
      · intro y hy hyf
        exact hfree y hy hyf
    · rintro (h | ⟨⟨hhead, hlast', hnodup, hlen⟩, hfree⟩)
      · cases h
      · simp only [List.head?_cons, Option.some.injEq] at hhead
        rw [hlast, Option.some.injEq] at hlast'
        refine ⟨⟨⟨⟨hhead, hlast'⟩, ?_⟩, hnodup⟩, fun y hy hyf => hfree y hy (by simpa using hyf)⟩
        simp only [List.length_cons] at hlen ⊢
        omega

@[simp] theorem select_start (paths : List EntityPath) (start finish : Int) :
    (select paths start finish).start = start := rfl

@[simp] theorem select_finish (paths : List EntityPath) (start finish : Int) :
    (select paths start finish).finish = finish := rfl

@[simp] theorem checked_start (p : PathView) (maxDegrees : Nat) (forbidden : List Int) :
    (p.checked maxDegrees forbidden).start = p.start := by
  unfold checked
  split <;> rfl

@[simp] theorem checked_finish (p : PathView) (maxDegrees : Nat) (forbidden : List Int) :
    (p.checked maxDegrees forbidden).finish = p.finish := by
  unfold checked
  split <;> rfl

/-- A checked path fits the request it was checked against. -/
theorem checked_fits (p : PathView) (maxDegrees : Nat) (forbidden : List Int) :
    (p.checked maxDegrees forbidden).fits maxDegrees forbidden = true := by
  unfold checked
  split
  · assumption
  · simp [fits]

/-- A path that already fits is left as it is. -/
theorem checked_of_fits {p : PathView} {maxDegrees : Nat} {forbidden : List Int}
    (h : p.fits maxDegrees forbidden = true) : p.checked maxDegrees forbidden = p := by
  simp [checked, h]

/-- A path that fits is empty or runs within the bound. -/
theorem runs_of_fits {p : PathView} {maxDegrees : Nat} {forbidden : List Int}
    (h : p.fits maxDegrees forbidden = true) : p.entityIds = [] ∨ p.Runs maxDegrees :=
  (fits_iff.1 h).imp_right And.left

/-- A path that fits passes no forbidden entity. -/
theorem not_mem_of_fits {p : PathView} {maxDegrees : Nat} {forbidden : List Int}
    (h : p.fits maxDegrees forbidden = true) : ∀ x ∈ p.entityIds, x ∉ forbidden := by
  rcases fits_iff.1 h with hnil | ⟨-, hfree⟩
  · simp [hnil]
  · exact hfree

end PathView

/-! ## Pairs of requested entities -/

/-- The pairs are the entities at two positions, the first before the second. -/
theorem mem_orderedPairs {l : List Int} {x y : Int} :
    (x, y) ∈ orderedPairs l ↔ ∃ i j : Nat, i < j ∧ l[i]? = some x ∧ l[j]? = some y := by
  induction l with
  | nil => simp [orderedPairs]
  | cons a rest ih =>
    simp only [orderedPairs, List.mem_append, List.mem_map, Prod.mk.injEq, ih]
    constructor
    · rintro (⟨z, hz, rfl, rfl⟩ | ⟨i, j, hij, hi, hj⟩)
      · obtain ⟨j, hj⟩ := List.mem_iff_getElem?.1 hz
        exact ⟨0, j + 1, by omega, rfl, hj⟩
      · exact ⟨i + 1, j + 1, by omega, hi, hj⟩
    · rintro ⟨i, j, hij, hi, hj⟩
      obtain ⟨j, rfl⟩ : ∃ j' : Nat, j = j' + 1 := ⟨j - 1, by omega⟩
      cases i with
      | zero =>
        simp only [List.getElem?_cons_zero, Option.some.injEq] at hi
        exact .inl ⟨y, List.mem_of_getElem? hj, hi, rfl⟩
      | succ i => exact .inr ⟨i, j, by omega, hi, hj⟩

/-- There are `n.choose 2` pairs of `n` entities. -/
theorem length_orderedPairs (l : List Int) : (orderedPairs l).length = l.length.choose 2 := by
  induction l with
  | nil => rfl
  | cons a rest ih =>
    rw [orderedPairs, List.length_append, List.length_map, ih, List.length_cons,
      Nat.choose_succ_succ, Nat.choose_one_right]

/-! ## Answers of path and network requests -/

/-- An endpoint check passes exactly when neither endpoint is forbidden. -/
theorem ensureAllowedEndpoints_eq_ok {source target : Int} {forbidden : List Int} :
    ensureAllowedEndpoints source target forbidden = .ok () ↔ source ∉ forbidden ∧ target ∉ forbidden := by
  unfold ensureAllowedEndpoints
  split
  · rename_i id hfound
    -- the endpoint found is one of the two, and forbidden
    have hforbidden : id ∈ forbidden := List.contains_iff_mem.1 (List.find?_some hfound)
    have hend : id = source ∨ id = target := by simpa using List.mem_of_find?_eq_some hfound
    simp only [reduceCtorEq, false_iff, not_and, not_not]
    rcases hend with rfl | rfl
    · exact fun h => absurd hforbidden h
    · exact fun _ => hforbidden
  · rename_i hnone
    simpa [List.find?_eq_none] using hnone

/-- An endpoint check fails, as an invalid request, when an endpoint is forbidden. -/
theorem ensureAllowedEndpoints_eq_error {source target : Int} {forbidden : List Int}
    (h : source ∈ forbidden ∨ target ∈ forbidden) :
    ∃ msg, ensureAllowedEndpoints source target forbidden = .error (.invalid msg) := by
  unfold ensureAllowedEndpoints
  split
  · exact ⟨_, rfl⟩
  · rename_i hnone
    simp only [List.find?_eq_none, List.mem_cons, List.not_mem_nil, or_false,
      List.contains_iff_mem, forall_eq_or_imp, forall_eq] at hnone
    rcases h with h | h
    · exact absurd h hnone.1
    · exact absurd h hnone.2

namespace Service

variable {σ : Type} {e : Engine σ}

/-- Resolving a set of identifiers lists each entity once. -/
theorem resolveAll_nodup (ids : Identifiers) : Answers (resolveAll e ids) List.Nodup := by
  refine Answers.foldlM (fun acc i hacc => ?_) ids.items [] List.nodup_nil
  refine Answers.bind Answers.true fun id _ => Answers.pure ?_
  -- one step appends the entity when it is new
  show (appendDistinct acc [id]).Nodup
  exact nodup_appendDistinct hacc

/-- The entities of a network query resolve without repeats. -/
theorem resolveNetworkQuery_nodup (q : NetworkQuery) : Answers (resolveNetworkQuery e q) List.Nodup :=
  Answers.bind Answers.true fun _ _ => Answers.bind Answers.true fun _ _ => resolveAll_nodup q.entities

/-- An answered path request: the stage of checks and resolution answered the endpoints of the
path and the avoided entities; the path is the entity alone when the endpoints are one, and it
fits the request, whose forbidden entities are the avoided ones when they are forbidden. -/
theorem findPath_ok {q : PathQuery} {o : RenderOptions} {st st' : σ} {a : Answer PathAnswer}
    (h : (findPath e q o).exec st = (.ok a, st')) :
    ∃ avoid st₁, (resolvePathQuery e q).exec st =
        (.ok (a.data.path.start, a.data.path.finish, avoid), st₁) ∧
      (a.data.path.start = a.data.path.finish → a.data.path.entityIds = [a.data.path.start]) ∧
      a.data.path.fits q.maxDegrees (if q.forbidAvoided && !avoid.isEmpty then avoid else []) = true := by
  obtain ⟨⟨source, target, avoid⟩, st₁, hres, h⟩ := bind_ok_iff.1 h
  obtain ⟨rfl, rfl, hself, hfits⟩ := Answers.of_ok h (fun b : Answer PathAnswer =>
    b.data.path.start = source ∧ b.data.path.finish = target ∧
      (source = target → b.data.path.entityIds = [source]) ∧
      b.data.path.fits q.maxDegrees (if q.forbidAvoided && !avoid.isEmpty then avoid else []) = true) (by
    simp only
    generalize (if (q.forbidAvoided && !avoid.isEmpty) = true then avoid else []) = forbidden
    refine Answers.bind (Answers.lift fun u (hu : ensureAllowedEndpoints source target forbidden = .ok u) => hu)
      fun u hallowed => ?_
    obtain ⟨hs, -⟩ := ensureAllowedEndpoints_eq_ok.1 hallowed
    refine Answers.ite (fun hst => ?_) (fun hst => ?_)
    · -- the entity alone
      refine Answers.bind Answers.true fun _ _ => Answers.bind Answers.true fun _ _ =>
        Answers.bind Answers.true fun _ _ => Answers.pure ⟨rfl, rfl, fun _ => rfl, ?_⟩
      subst hst
      refine PathView.fits_iff.2 (.inr ⟨⟨rfl, rfl, List.nodup_singleton _, by simp⟩, ?_⟩)
      simpa using hs
    · -- the engine's path, checked
      exact Answers.bind Answers.true fun _ _ => Answers.bind Answers.true fun _ _ =>
        Answers.bind Answers.true fun _ _ => Answers.bind Answers.true fun _ _ =>
          Answers.pure ⟨PathView.checked_start _ _ _, PathView.checked_finish _ _ _,
            fun h => absurd h hst, PathView.checked_fits _ _ _⟩)
  exact ⟨avoid, st₁, hres, hself, hfits⟩

/-- A path request whose resolved endpoint is forbidden is refused as invalid, in the state its
resolution left, whatever the engine's path search would answer. -/
theorem findPath_forbidden_endpoint {q : PathQuery} {o : RenderOptions} {st st₁ : σ}
    {source target : Int} {avoid : List Int}
    (hres : (resolvePathQuery e q).exec st = (.ok (source, target, avoid), st₁))
    (hforbid : q.forbidAvoided = true) (hend : source ∈ avoid ∨ target ∈ avoid)
    (search : PathRequest → EngineFlags → EngineCall σ (Reply PathData)) :
    ∃ msg, (findPath { e with findPath := search } q o).exec st = (.error (.invalid msg), st₁) := by
  -- the resolution stage does not ask for paths
  have hres' : (resolvePathQuery { e with findPath := search } q).exec st =
      (.ok (source, target, avoid), st₁) := hres
  have hnonempty : avoid.isEmpty = false := by
    rcases hend with h | h <;> exact List.isEmpty_eq_false_iff.2 (List.ne_nil_of_mem h)
  obtain ⟨msg, hmsg⟩ := ensureAllowedEndpoints_eq_error hend
  refine ⟨msg, ?_⟩
  rw [findPath, exec_bind, hres']
  simp [hforbid, hnonempty, hmsg, exec_bind]

/-- An answered network request: the stage of checks and resolution answered the requested
entities, and the paths are the engine's paths between each pair of them, checked against the
degree bound. -/
theorem findNetwork_ok {q : NetworkQuery} {o : RenderOptions} {st st' : σ} {a : Answer NetworkAnswer}
    (h : (findNetwork e q o).exec st = (.ok a, st')) :
    ∃ requested st₁, (resolveNetworkQuery e q).exec st = (.ok requested, st₁) ∧
      ∃ paths : List EntityPath, a.data.paths = (orderedPairs requested).map
        fun (x, y) => (PathView.select paths x y).checked q.maxDegrees [] := by
  obtain ⟨requested, st₁, hres, h⟩ := bind_ok_iff.1 h
  refine ⟨requested, st₁, hres, Answers.of_ok h (fun b : Answer NetworkAnswer =>
    ∃ paths : List EntityPath, b.data.paths = (orderedPairs requested).map
      fun (x, y) => (PathView.select paths x y).checked q.maxDegrees []) ?_⟩
  simp only
  exact Answers.bind Answers.true fun _ _ => Answers.bind Answers.true fun payload _ =>
    Answers.bind Answers.true fun _ _ => Answers.bind Answers.true fun _ _ =>
      Answers.pure ⟨payload.paths, rfl⟩

/-- **Answered paths fit their requests**, whatever the engine answers. A path answer runs
between the resolved endpoints; it is empty or runs from its start to its finish through
distinct entities over at most `maxDegrees` edges, passes no avoided entity when they are
forbidden, and is the entity alone when the endpoints are one. A forbidden endpoint is refused
as invalid before the engine's path search, whatever that search would answer. A network
answer has one path for each pair of its distinct resolved entities, in request order, and
each path fits. -/
theorem answered_paths_fit (e : Engine σ) (o : RenderOptions) :
    (∀ (q : PathQuery) st a st', (findPath e q o).exec st = (.ok a, st') →
      ∃ avoid st₁, (resolvePathQuery e q).exec st =
          (.ok (a.data.path.start, a.data.path.finish, avoid), st₁) ∧
        (a.data.path.entityIds = [] ∨ a.data.path.Runs q.maxDegrees) ∧
        (q.forbidAvoided = true → ∀ x ∈ a.data.path.entityIds, x ∉ avoid) ∧
        (a.data.path.start = a.data.path.finish → a.data.path.entityIds = [a.data.path.start])) ∧
    (∀ (q : PathQuery) st source target avoid st₁,
      (resolvePathQuery e q).exec st = (.ok (source, target, avoid), st₁) →
      q.forbidAvoided = true → source ∈ avoid ∨ target ∈ avoid →
      ∀ search, ∃ msg, (findPath { e with findPath := search } q o).exec st = (.error (.invalid msg), st₁)) ∧
    (∀ (q : NetworkQuery) st a st', (findNetwork e q o).exec st = (.ok a, st') →
      ∃ requested st₁, (resolveNetworkQuery e q).exec st = (.ok requested, st₁) ∧ requested.Nodup ∧
        a.data.paths.map (fun p => (p.start, p.finish)) = orderedPairs requested ∧
        (∀ x y, (x, y) ∈ a.data.paths.map (fun p => (p.start, p.finish)) ↔
          ∃ i j : Nat, i < j ∧ requested[i]? = some x ∧ requested[j]? = some y) ∧
        a.data.paths.length = requested.length.choose 2 ∧
        ∀ p ∈ a.data.paths, p.entityIds = [] ∨ p.Runs q.maxDegrees) := by
  refine ⟨fun q st a st' h => ?_, fun q st _ _ _ _ hres hforbid hend search =>
    findPath_forbidden_endpoint hres hforbid hend search, fun q st a st' h => ?_⟩
  · obtain ⟨avoid, st₁, hres, hself, hfits⟩ := findPath_ok h
    refine ⟨avoid, st₁, hres, PathView.runs_of_fits hfits, fun hforbid x hx hxa => ?_, hself⟩
    -- an avoided entity on the path makes the avoided entities forbidden
    have hnonempty : avoid.isEmpty = false := List.isEmpty_eq_false_iff.2 (List.ne_nil_of_mem hxa)
    have := PathView.not_mem_of_fits hfits x hx
    simp only [hforbid, hnonempty, Bool.not_false, Bool.and_self, if_true] at this
    exact this hxa
  · obtain ⟨requested, st₁, hres, paths, hpaths⟩ := findNetwork_ok h
    have hends : a.data.paths.map (fun p => (p.start, p.finish)) = orderedPairs requested := by
      rw [hpaths, List.map_map]
      conv_rhs => rw [← List.map_id (orderedPairs requested)]
      refine List.map_congr_left fun xy _ => ?_
      simp
    refine ⟨requested, st₁, hres, (resolveNetworkQuery_nodup q).of_ok hres List.Nodup, hends,
      fun x y => hends ▸ mem_orderedPairs, ?_, ?_⟩
    · rw [hpaths, List.length_map, length_orderedPairs]
    · intro p hp
      rw [hpaths, List.mem_map] at hp
      obtain ⟨xy, -, rfl⟩ := hp
      exact PathView.runs_of_fits (PathView.checked_fits _ _ _)

end Service

end EntityGateway
