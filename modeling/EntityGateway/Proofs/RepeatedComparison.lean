import EntityGateway.Service.Why
import EntityGateway.Proofs.ServiceRun

/-!
# Comparisons repeated while records move

`Service.whyEntities` compares the entities two identifiers name. Records can move between
entities while it runs, so for record identifiers both are resolved again right after the engine
compares, and the comparison is repeated while either has moved, `maxWhyAttempts` times at most.
This module is about what the engine is asked, and in which order, over any engine: its
resolutions may change from one call to the next.

* `Engine.recorded` runs an engine and writes each call it answers to a log kept beside the
  engine's state, as an `EngineEvent`: a record resolution with its outcome, a comparison of two
  entities, or another call, each with its failure if it failed. A recorded call answers as the
  engine does (`exec_call_recordCall`).
* `Service.Traces x y P`: `x` answers and leaves the engine as `y` does, writing only events of
  `P`, and a failure it writes is the last thing it writes and ends the run. It is proved step by
  step, as `Service.Answers` is, and holds of every step of `whyEntities` run over the recorded
  engine against the same step over the engine itself (`whyEntities_traces`).
* `Round` is what one comparison asks and how it ends (`compareOnce_round`), `Attempts` the
  rounds of `compareEntities` (`compareEntities_attempts`), and `WhyRun` the whole of
  `whyEntities` (`whyEntities_run`); the facts about the log are lemmas on these relations.
* `whyEntities_asks`, with `AsksSafely`: the engine compares at most `maxWhyAttempts` times,
  never an entity with itself, and exactly once for two entity ids; a failure of the engine is
  the last thing it is asked and ends the comparison with that failure; and an answer reports the
  entities last compared, which, for two records that stopped moving before the attempts ran
  out, are the entities the records resolved to right after that comparison.
-/

namespace EntityGateway

/-! ## Recorded engines -/

/-- A call an engine answered, as seen from outside the engine. -/
inductive EngineEvent where
  /-- A record resolved, to an entity or to a failure. -/
  | resolved (dataSource recordId : String) (answer : Except EngineFailure Int)
  /-- Two entities compared, with the failure of the comparison if it failed. -/
  | compared (a b : Int) (failure : Option EngineFailure)
  /-- Any other call, with its failure if it failed. -/
  | other (failure : Option EngineFailure)

/-- The failure of an outcome, if it failed. -/
def failureOf {α : Type} : Except EngineFailure α → Option EngineFailure
  | .ok _ => none
  | .error f => some f

@[simp] theorem mapError_ok {ε ε' α : Type} (f : ε → ε') (a : α) :
    (Except.ok a : Except ε α).mapError f = .ok a := rfl

namespace EngineEvent

/-- The failure an event reports. -/
def failure : EngineEvent → Option EngineFailure
  | .resolved _ _ r => failureOf r
  | .compared _ _ f => f
  | .other f => f

/-- The entities an event compares. -/
def comparison? : EngineEvent → Option (Int × Int)
  | .compared a b _ => some (a, b)
  | _ => none

/-- An event that neither resolves a record nor compares entities. -/
def isOther : EngineEvent → Bool
  | .other _ => true
  | _ => false

end EngineEvent

/-- The comparisons of a log, in order. -/
def comparisons (evs : List EngineEvent) : List (Int × Int) := evs.filterMap EngineEvent.comparison?

@[simp] theorem comparisons_nil : comparisons [] = [] := rfl

@[simp] theorem comparisons_append (evs evs' : List EngineEvent) :
    comparisons (evs ++ evs') = comparisons evs ++ comparisons evs' :=
  List.filterMap_append

@[simp] theorem comparisons_cons_compared (a b : Int) (f : Option EngineFailure) (evs : List EngineEvent) :
    comparisons (.compared a b f :: evs) = (a, b) :: comparisons evs := rfl

/-- A log of other calls compares nothing. -/
theorem comparisons_eq_nil_of_isOther {evs : List EngineEvent} (h : ∀ ev ∈ evs, ev.isOther) :
    comparisons evs = [] := by
  induction evs with
  | nil => rfl
  | cons ev evs ih =>
    have hev := h ev List.mem_cons_self
    cases ev with
    | other f => exact ih fun ev' hev' => h ev' (List.mem_cons_of_mem _ hev')
    | resolved => cases hev
    | compared => cases hev

variable {σ α β : Type}

/-- An engine call that also writes the event of its outcome to a log kept beside the state. -/
def recordCall (event : Except EngineFailure α → EngineEvent) (c : EngineCall σ α) :
    EngineCall (σ × List EngineEvent) α :=
  ExceptT.mk fun s => ((c.run.run s.1).1, (c.run.run s.1).2, s.2 ++ [event (c.run.run s.1).1])

theorem run_recordCall (event : Except EngineFailure α → EngineEvent) (c : EngineCall σ α)
    (s : σ × List EngineEvent) :
    (recordCall event c).run.run s = ((c.run.run s.1).1, (c.run.run s.1).2, s.2 ++ [event (c.run.run s.1).1]) :=
  rfl

/-- The event of a call that is neither a resolution nor a comparison. -/
def otherEvent (r : Except EngineFailure α) : EngineEvent := .other (failureOf r)

/-- An engine that writes every call it answers to a log. -/
def Engine.recorded (e : Engine σ) : Engine (σ × List EngineEvent) where
  resolveRecord ds rid := recordCall (.resolved ds rid) (e.resolveRecord ds rid)
  entityByRecord ds rid flags := recordCall otherEvent (e.entityByRecord ds rid flags)
  entityById id flags := recordCall otherEvent (e.entityById id flags)
  record ds rid := recordCall otherEvent (e.record ds rid)
  findPath r flags := recordCall otherEvent (e.findPath r flags)
  findNetwork r flags := recordCall otherEvent (e.findNetwork r flags)
  search c flags := recordCall otherEvent (e.search c flags)
  whyEntity id flags := recordCall otherEvent (e.whyEntity id flags)
  whyEntities a b flags := recordCall (fun r => .compared a b (failureOf r)) (e.whyEntities a b flags)
  whyRecords ds₁ rid₁ ds₂ rid₂ flags := recordCall otherEvent (e.whyRecords ds₁ rid₁ ds₂ rid₂ flags)
  exportConfig := recordCall otherEvent e.exportConfig
  activeConfigId := recordCall otherEvent e.activeConfigId
  defaultConfigId := recordCall otherEvent e.defaultConfigId
  activateConfig id := recordCall otherEvent (e.activateConfig id)

/-- The data sources of a recorded engine are one recorded call. -/
theorem recorded_dataSources (e : Engine σ) :
    e.recorded.dataSources = recordCall otherEvent e.dataSources := by
  apply ExceptT.ext
  apply StateT.ext
  intro s
  simp only [Engine.dataSources, Engine.recorded, ExceptT.run_bind, StateT.run_bind, run_recordCall]
  rcases e.exportConfig.run.run s.1 with ⟨_ | d, st⟩ <;> rfl

/-- A log in which an event reporting a failure is the last event, and `r`, the end of the run,
is that failure. -/
def FailsLast (evs : List EngineEvent) (r : Except GatewayError α) : Prop :=
  ∀ ev ∈ evs, ∀ f, ev.failure = some f → evs.getLast? = some ev ∧ r = .error (.ofFailure f)

namespace Service

/-- An engine call answers what the engine answers, its failure made a gateway error, and leaves
the engine where the call left it. -/
theorem exec_call (c : EngineCall σ α) (st : σ) :
    (call c).exec st = ((c.run.run st).1.mapError GatewayError.ofFailure, (c.run.run st).2) := by
  simp only [exec, call, ExceptT.run_mk, StateT.run_bind]
  rcases c.run.run st with ⟨_ | a, st₁⟩ <;> rfl

theorem exec_call_recordCall (event : Except EngineFailure α → EngineEvent) (c : EngineCall σ α)
    (st : σ) (log : List EngineEvent) :
    (call (recordCall event c)).exec (st, log) =
      (((call c).exec st).1, ((call c).exec st).2, log ++ [event (c.run.run st).1]) := by
  rw [exec_call, exec_call]
  rfl

/-! ## Runs over a recorded engine -/

/-- `x`, over an engine that records its calls, answers and leaves the engine as `y` does,
writing only events of `P`; a failure it writes is the last thing it writes and ends the run. -/
def Traces (x : Service (σ × List EngineEvent) α) (y : Service σ α) (P : EngineEvent → Prop) : Prop :=
  ∀ st log, ∃ evs, x.exec (st, log) = ((y.exec st).1, (y.exec st).2, log ++ evs) ∧
    (∀ ev ∈ evs, P ev) ∧ FailsLast evs (y.exec st).1

namespace Traces

variable {x : Service (σ × List EngineEvent) α} {y : Service σ α} {P : EngineEvent → Prop}

theorem mono {Q : EngineEvent → Prop} (h : Traces x y P) (hPQ : ∀ ev, P ev → Q ev) : Traces x y Q := by
  intro st log
  obtain ⟨evs, hrun, hP, hlast⟩ := h st log
  exact ⟨evs, hrun, fun ev hev => hPQ ev (hP ev hev), hlast⟩

theorem pure (a : α) :
    Traces (Pure.pure a : Service (σ × List EngineEvent) α) (Pure.pure a : Service σ α) P :=
  fun st log => ⟨[], by simp, by simp, by simp [FailsLast]⟩

theorem lift (r : Except GatewayError α) :
    Traces (Service.lift r : Service (σ × List EngineEvent) α) (Service.lift r : Service σ α) P :=
  fun st log => ⟨[], by simp, by simp, by simp [FailsLast]⟩

/-- A call of the recorded engine writes the event of its outcome. -/
theorem recordCall {event : Except EngineFailure α → EngineEvent} {c : EngineCall σ α}
    (hP : ∀ r, P (event r)) (hfail : ∀ r, (event r).failure = failureOf r) :
    Traces (call (recordCall event c)) (call c) P := by
  intro st log
  refine ⟨[event (c.run.run st).1], exec_call_recordCall event c st log, by simpa using hP _, ?_⟩
  intro ev hev f hf
  rw [List.mem_singleton] at hev
  subst hev
  refine ⟨rfl, ?_⟩
  rw [hfail] at hf
  rw [exec_call]
  cases hr : (c.run.run st).1 with
  | error f' =>
    rw [hr, failureOf, Option.some.injEq] at hf
    rw [hf]
    rfl
  | ok a =>
    rw [hr, failureOf] at hf
    cases hf

/-- A sequence writes what its first step writes, then, when that step answered, what the rest
writes; a failure of the first step ends the run before the rest writes anything. -/
theorem bind {f : α → Service (σ × List EngineEvent) β} {g : α → Service σ β}
    (hx : Traces x y P) (hf : ∀ a, Traces (f a) (g a) P) : Traces (x >>= f) (y >>= g) P := by
  intro st log
  obtain ⟨evs₁, hrun₁, hP₁, hlast₁⟩ := hx st log
  rw [exec_bind, exec_bind, hrun₁]
  rcases hy : y.exec st with ⟨_ | a, st₁⟩
  · refine ⟨evs₁, rfl, hP₁, fun ev hev f hf => ?_⟩
    obtain ⟨hlast, hr⟩ := hlast₁ ev hev f hf
    rw [hy, Except.error.injEq] at hr
    exact ⟨hlast, by rw [hr]⟩
  · obtain ⟨evs₂, hrun₂, hP₂, hlast₂⟩ := hf a st₁ (log ++ evs₁)
    refine ⟨evs₁ ++ evs₂, by simpa [hy] using hrun₂, ?_, ?_⟩
    · intro ev hev
      rcases List.mem_append.1 hev with hev | hev
      · exact hP₁ ev hev
      · exact hP₂ ev hev
    · intro ev hev f hf
      rcases List.mem_append.1 hev with hev | hev
      -- the first step answered, so it wrote no failure
      · have := (hlast₁ ev hev f hf).2
        simp [hy] at this
      · obtain ⟨hlast, hr⟩ := hlast₂ ev hev f hf
        exact ⟨by rw [List.getLast?_append, hlast]; rfl, hr⟩

theorem ite {c : Prop} [Decidable c] {x' : Service (σ × List EngineEvent) α} {y' : Service σ α}
    (h : c → Traces x y P) (h' : ¬c → Traces x' y' P) :
    Traces (if c then x else x') (if c then y else y') P := by
  by_cases hc : c
  · simpa only [if_pos hc] using h hc
  · simpa only [if_neg hc] using h' hc

theorem mapM {γ : Type} {f : γ → Service (σ × List EngineEvent) α} {g : γ → Service σ α}
    (hf : ∀ c, Traces (f c) (g c) P) : ∀ l : List γ, Traces (l.mapM f) (l.mapM g) P := by
  intro l
  induction l with
  | nil => exact pure []
  | cons c l ih =>
    simp only [List.mapM_cons]
    exact bind (hf c) fun b => bind ih fun bs => pure (b :: bs)

end Traces

/-! ## Comparing entities over a recorded engine -/

theorem resolve_traces (e : Engine σ) (i : EntityIdentifier) {P : EngineEvent → Prop}
    (hP : ∀ ds rid r, P (.resolved ds rid r)) : Traces (resolve e.recorded i) (resolve e i) P := by
  cases i with
  | entity id => exact Traces.pure id
  | record ds rid => exact Traces.recordCall (hP ds rid) fun _ => rfl

theorem ensureKnownSources_traces (e : Engine σ) (sources : List String) (what : String) :
    Traces (ensureKnownSources e.recorded sources what) (ensureKnownSources e sources what)
      fun ev => ev.isOther := by
  cases sources with
  | nil => exact Traces.pure ()
  | cons s rest =>
    simp only [ensureKnownSources, recorded_dataSources]
    refine Traces.bind (Traces.recordCall (fun _ => rfl) fun _ => rfl) fun known => ?_
    cases (s :: rest).find? (!known.contains ·) with
    | some s' => exact Traces.lift _
    | none => exact Traces.pure ()

theorem gather_traces (e : Engine σ) (provided : List EntityData) (wanted : List Int) (flags : EngineFlags) :
    Traces (gather e.recorded provided wanted flags) (gather e provided wanted flags) fun ev => ev.isOther := by
  refine Traces.mapM (fun id => ?_) wanted
  cases provided.find? (·.entity.entityId = id) with
  | some d => exact Traces.pure d
  | none => exact Traces.bind (Traces.recordCall (fun _ => rfl) fun _ => rfl) fun r => Traces.lift _

theorem whyAnswer_traces (e : Engine σ) (payload : WhyData) (ids : List Int) (o : RenderOptions) (raw : Json) :
    Traces (whyAnswer e.recorded payload ids o raw) (whyAnswer e payload ids o raw) fun ev => ev.isOther :=
  Traces.bind (gather_traces e _ _ _) fun _ => Traces.bind (Traces.lift _) fun _ => Traces.pure _

theorem call_whyEntities_traces (e : Engine σ) (a b : Int) (flags : EngineFlags) {P : EngineEvent → Prop}
    (hP : ∀ f, P (.compared a b f)) :
    Traces (call (e.recorded.whyEntities a b flags)) (call (e.whyEntities a b flags)) P :=
  Traces.recordCall (fun r => hP (failureOf r)) fun _ => rfl

theorem compareOnce_traces (e : Engine σ) (first second : EntityIdentifier) (byRecord : Bool) (flags : EngineFlags) :
    Traces (compareOnce e.recorded first second byRecord flags) (compareOnce e first second byRecord flags)
      fun _ => True := by
  simp only [compareOnce]
  refine Traces.bind (resolve_traces e first fun _ _ _ => trivial) fun a => ?_
  refine Traces.bind (resolve_traces e second fun _ _ _ => trivial) fun b => ?_
  refine Traces.ite (fun _ => Traces.bind (Traces.lift _) fun _ => ?_) fun _ => ?_
  all_goals
    refine Traces.bind (call_whyEntities_traces e _ _ flags fun _ => trivial) fun reply => ?_
    refine Traces.ite (fun _ => Traces.pure _) fun _ => ?_
    refine Traces.bind (resolve_traces e first fun _ _ _ => trivial) fun a' => ?_
    refine Traces.ite (fun _ => Traces.bind (Traces.pure _) fun _ => Traces.pure _) fun _ => ?_
    exact Traces.bind (resolve_traces e second fun _ _ _ => trivial) fun b' =>
      Traces.bind (Traces.pure _) fun _ => Traces.pure _

theorem compareEntities_traces (e : Engine σ) (first second : EntityIdentifier) (byRecord : Bool)
    (flags : EngineFlags) : ∀ n, Traces (compareEntities e.recorded first second byRecord flags n)
      (compareEntities e first second byRecord flags n) fun _ => True
  | 0 => Traces.bind (compareOnce_traces e first second byRecord flags) fun _ => Traces.pure _
  | n + 1 => by
    refine Traces.bind (compareOnce_traces e first second byRecord flags) fun x => ?_
    obtain ⟨a, b, reply, moved⟩ := x
    exact Traces.ite (fun _ => compareEntities_traces e first second byRecord flags n) fun _ => Traces.pure _

theorem whyEntities_traces (e : Engine σ) (first second : EntityIdentifier) (o : RenderOptions) :
    Traces (whyEntities e.recorded first second o) (whyEntities e first second o) fun _ => True := by
  simp only [whyEntities]
  refine Traces.bind (Traces.lift _) fun _ => ?_
  refine Traces.bind ((ensureKnownSources_traces e _ _).mono fun _ _ => trivial) fun _ => ?_
  refine Traces.bind (compareEntities_traces e _ _ _ _ _) fun x => ?_
  obtain ⟨a, b, reply⟩ := x
  refine Traces.bind (Traces.lift _) fun payload => Traces.bind (Traces.lift _) fun r => ?_
  exact Traces.ite (fun _ => Traces.bind (Traces.lift _) fun _ => (whyAnswer_traces e _ _ _ _).mono fun _ _ => trivial)
    fun _ => (whyAnswer_traces e _ _ _ _).mono fun _ _ => trivial

end Service

/-! ## The rounds of a comparison -/

/-- What resolving an identifier asks, and its outcome: an entity id names its entity and asks
nothing; a record is resolved by the engine. -/
inductive Resolves : EntityIdentifier → List EngineEvent → Except EngineFailure Int → Prop
  | entity (id : Int) : Resolves (.entity id) [] (.ok id)
  | record (ds rid : String) (r : Except EngineFailure Int) : Resolves (.record ds rid) [.resolved ds rid r] r

namespace Resolves

variable {i : EntityIdentifier} {evs : List EngineEvent} {r : Except EngineFailure Int}

theorem comparisons_eq_nil (h : Resolves i evs r) : comparisons evs = [] := by
  cases h <;> rfl

theorem of_entity {id : Int} (h : Resolves (.entity id) evs r) : evs = [] ∧ r = .ok id := by
  cases h
  exact ⟨rfl, rfl⟩

theorem of_record {ds rid : String} (h : Resolves (.record ds rid) evs r) : evs = [.resolved ds rid r] := by
  cases h
  rfl

end Resolves

/-- What re-resolving two identifiers after comparing entities `a` and `b` asks, and whether
either has moved: only for record identifiers, the second not asked about once the first has
moved. -/
inductive Recheck (first second : EntityIdentifier) (byRecord : Bool) (a b : Int) :
    List EngineEvent → Except GatewayError Bool → Prop
  | byEntity : byRecord = false → Recheck first second byRecord a b [] (.ok false)
  | firstFails {evs f} : byRecord = true → Resolves first evs (.error f) →
      Recheck first second byRecord a b evs (.error (.ofFailure f))
  | firstMoved {evs a'} : byRecord = true → Resolves first evs (.ok a') → a' ≠ a →
      Recheck first second byRecord a b evs (.ok true)
  | secondFails {evs₁ evs₂ f} : byRecord = true → Resolves first evs₁ (.ok a) → Resolves second evs₂ (.error f) →
      Recheck first second byRecord a b (evs₁ ++ evs₂) (.error (.ofFailure f))
  | secondChecked {evs₁ evs₂ b' moved} : byRecord = true → Resolves first evs₁ (.ok a) →
      Resolves second evs₂ (.ok b') → moved = decide (b' ≠ b) →
      Recheck first second byRecord a b (evs₁ ++ evs₂) (.ok moved)

namespace Recheck

variable {first second : EntityIdentifier} {byRecord : Bool} {a b : Int} {evs : List EngineEvent}
  {r : Except GatewayError Bool}

theorem comparisons_eq_nil (h : Recheck first second byRecord a b evs r) : comparisons evs = [] := by
  cases h with
  | byEntity => rfl
  | firstFails _ h₁ | firstMoved _ h₁ _ => exact h₁.comparisons_eq_nil
  | secondFails _ h₁ h₂ | secondChecked _ h₁ h₂ _ => simp [h₁.comparisons_eq_nil, h₂.comparisons_eq_nil]

theorem of_byEntity (h : Recheck first second false a b evs r) : r = .ok false := by
  cases h <;> simp_all

/-- Two records found where they were: both resolved again, to the entities compared. -/
theorem of_settled {ds₁ rid₁ ds₂ rid₂ : String} (h : Recheck first second true a b evs (.ok false))
    (h₁ : first = .record ds₁ rid₁) (h₂ : second = .record ds₂ rid₂) :
    evs = [.resolved ds₁ rid₁ (.ok a), .resolved ds₂ rid₂ (.ok b)] := by
  subst h₁ h₂
  cases h with
  | byEntity h => cases h
  | secondChecked _ hr₁ hr₂ hb =>
    -- the second record resolved where it was: `b' ≠ b` decided false
    obtain rfl := Decidable.of_not_not (of_decide_eq_false hb.symm)
    rw [hr₁.of_record, hr₂.of_record]
    rfl
end Recheck

/-- What one comparison of the entities of two identifiers asks, and how it ends. -/
inductive Round (first second : EntityIdentifier) (byRecord : Bool) :
    List EngineEvent → Except GatewayError (Int × Int × Reply WhyData × Bool) → Prop
  | firstFails {evs f} : Resolves first evs (.error f) → Round first second byRecord evs (.error (.ofFailure f))
  | secondFails {evs₁ evs₂ a f} : Resolves first evs₁ (.ok a) → Resolves second evs₂ (.error f) →
      Round first second byRecord (evs₁ ++ evs₂) (.error (.ofFailure f))
  | itself {evs₁ evs₂ a} : Resolves first evs₁ (.ok a) → Resolves second evs₂ (.ok a) →
      Round first second byRecord (evs₁ ++ evs₂)
        (.error (.invalid ("cannot compare entity " ++ toString a ++ " with itself")))
  | compareFails {evs₁ evs₂ a b f} : Resolves first evs₁ (.ok a) → Resolves second evs₂ (.ok b) → a ≠ b →
      Round first second byRecord (evs₁ ++ evs₂ ++ [.compared a b (some f)]) (.error (.ofFailure f))
  | recheckFails {evs₁ evs₂ evs₃ a b err} : Resolves first evs₁ (.ok a) → Resolves second evs₂ (.ok b) → a ≠ b →
      Recheck first second byRecord a b evs₃ (.error err) →
      Round first second byRecord (evs₁ ++ evs₂ ++ .compared a b none :: evs₃) (.error err)
  | compared {evs₁ evs₂ evs₃ a b moved} (reply : Reply WhyData) : Resolves first evs₁ (.ok a) →
      Resolves second evs₂ (.ok b) → a ≠ b → Recheck first second byRecord a b evs₃ (.ok moved) →
      Round first second byRecord (evs₁ ++ evs₂ ++ .compared a b none :: evs₃) (.ok (a, b, reply, moved))

namespace Round

variable {first second : EntityIdentifier} {byRecord : Bool} {evs : List EngineEvent}

/-- A round compares two different entities, once, or compares nothing. -/
theorem comparisons_eq {r : Except GatewayError (Int × Int × Reply WhyData × Bool)}
    (h : Round first second byRecord evs r) :
    comparisons evs = [] ∨ ∃ a b, a ≠ b ∧ comparisons evs = [(a, b)] := by
  cases h with
  | firstFails h₁ => exact .inl h₁.comparisons_eq_nil
  | secondFails h₁ h₂ | itself h₁ h₂ => exact .inl (by simp [h₁.comparisons_eq_nil, h₂.comparisons_eq_nil])
  | compareFails h₁ h₂ hab => exact .inr ⟨_, _, hab, by simp [h₁.comparisons_eq_nil, h₂.comparisons_eq_nil]⟩
  | recheckFails h₁ h₂ hab h₃ | compared _ h₁ h₂ hab h₃ =>
    exact .inr ⟨_, _, hab, by simp [h₁.comparisons_eq_nil, h₂.comparisons_eq_nil, h₃.comparisons_eq_nil]⟩

/-- A round compares at most once, never an entity with itself. -/
theorem comparisons_bounded {r : Except GatewayError (Int × Int × Reply WhyData × Bool)}
    (h : Round first second byRecord evs r) :
    (comparisons evs).length ≤ 1 ∧ ∀ p ∈ comparisons evs, p.1 ≠ p.2 := by
  rcases h.comparisons_eq with h' | ⟨a, b, hab, h'⟩
  · simp [h']
  · simp [h', hab]

/-- A round that answered compared the entities it answers with. -/
theorem comparisons_of_ok {a b : Int} {reply : Reply WhyData} {moved : Bool}
    (h : Round first second byRecord evs (.ok (a, b, reply, moved))) : comparisons evs = [(a, b)] := by
  cases h with
  | compared _ h₁ h₂ _ h₃ => simp [h₁.comparisons_eq_nil, h₂.comparisons_eq_nil, h₃.comparisons_eq_nil]

/-- Entity ids never move. -/
theorem not_moved {a b : Int} {reply : Reply WhyData} {moved : Bool}
    (h : Round first second false evs (.ok (a, b, reply, moved))) : moved = false := by
  cases h with
  | compared _ _ _ _ h₃ => cases h₃.of_byEntity; rfl

/-- A round over two records that found neither moved ends with the comparison and the two
resolutions that found them where they were. -/
theorem of_settled {a b : Int} {reply : Reply WhyData} {ds₁ rid₁ ds₂ rid₂ : String}
    (h : Round first second true evs (.ok (a, b, reply, false)))
    (h₁ : first = .record ds₁ rid₁) (h₂ : second = .record ds₂ rid₂) :
    ∃ pre, evs = pre ++ [.compared a b none, .resolved ds₁ rid₁ (.ok a), .resolved ds₂ rid₂ (.ok b)] := by
  cases h with
  | compared _ _ _ _ h₃ =>
    rw [h₃.of_settled h₁ h₂]
    exact ⟨_, rfl⟩

/-- Two entity ids: one entity is refused before the engine compares anything; two different
ones are compared once. -/
theorem of_entities {a b : Int} {r : Except GatewayError (Int × Int × Reply WhyData × Bool)}
    (h : Round (.entity a) (.entity b) byRecord evs r) :
    (a = b → evs = [] ∧ r = .error (.invalid ("cannot compare entity " ++ toString a ++ " with itself"))) ∧
      (a ≠ b → comparisons evs = [(a, b)]) := by
  cases h with
  | firstFails h₁ => cases h₁.of_entity.2
  | secondFails h₁ h₂ => cases h₂.of_entity.2
  | itself h₁ h₂ =>
    obtain ⟨rfl, ⟨⟩⟩ := h₁.of_entity
    obtain ⟨rfl, ⟨⟩⟩ := h₂.of_entity
    exact ⟨fun _ => ⟨rfl, rfl⟩, fun hab => absurd rfl hab⟩
  | compareFails h₁ h₂ hab =>
    obtain ⟨rfl, ⟨⟩⟩ := h₁.of_entity
    obtain ⟨rfl, ⟨⟩⟩ := h₂.of_entity
    exact ⟨fun h => absurd h hab, fun _ => rfl⟩
  | recheckFails h₁ h₂ hab h₃ | compared _ h₁ h₂ hab h₃ =>
    obtain ⟨rfl, ⟨⟩⟩ := h₁.of_entity
    obtain ⟨rfl, ⟨⟩⟩ := h₂.of_entity
    exact ⟨fun h => absurd h hab, fun _ => by simp [h₃.comparisons_eq_nil]⟩

end Round

namespace Service

theorem exec_resolve_recorded (e : Engine σ) (i : EntityIdentifier) (st : σ) (log : List EngineEvent) :
    ∃ evs r st', (resolve e.recorded i).exec (st, log) = (r.mapError GatewayError.ofFailure, st', log ++ evs) ∧
      Resolves i evs r := by
  cases i with
  | entity id => exact ⟨[], .ok id, st, by simp [resolve], .entity id⟩
  | record ds rid =>
    refine ⟨_, _, ((e.resolveRecord ds rid).run.run st).2, ?_, .record ds rid ((e.resolveRecord ds rid).run.run st).1⟩
    exact (exec_call_recordCall (.resolved ds rid) (e.resolveRecord ds rid) st log).trans (by rw [exec_call])

theorem exec_call_whyEntities_recorded (e : Engine σ) (a b : Int) (flags : EngineFlags) (st : σ)
    (log : List EngineEvent) : ∃ r st', (call (e.recorded.whyEntities a b flags)).exec (st, log) =
      (r.mapError GatewayError.ofFailure, st', log ++ [.compared a b (failureOf r)]) :=
  ⟨_, _, (exec_call_recordCall (fun r => .compared a b (failureOf r)) (e.whyEntities a b flags) st log).trans
    (by rw [exec_call])⟩

theorem compareOnce_round (e : Engine σ) (first second : EntityIdentifier) (byRecord : Bool) (flags : EngineFlags)
    (st : σ) (log : List EngineEvent) :
    ∃ evs, ((compareOnce e.recorded first second byRecord flags).exec (st, log)).2.2 = log ++ evs ∧
      Round first second byRecord evs ((compareOnce e.recorded first second byRecord flags).exec (st, log)).1 := by
  simp only [compareOnce]
  rw [exec_bind]
  obtain ⟨evs₁, r₁, st₁, h₁, hr₁⟩ := exec_resolve_recorded e first st log
  rw [h₁]
  cases r₁ with
  | error f => exact ⟨evs₁, rfl, .firstFails hr₁⟩
  | ok a =>
  dsimp only [mapError_ok]
  rw [exec_bind]
  obtain ⟨evs₂, r₂, st₂, h₂, hr₂⟩ := exec_resolve_recorded e second st₁ (log ++ evs₁)
  rw [h₂]
  cases r₂ with
  | error f => exact ⟨evs₁ ++ evs₂, List.append_assoc _ _ _, .secondFails hr₁ hr₂⟩
  | ok b =>
  dsimp only [mapError_ok]
  -- an entity is never compared with itself
  by_cases hab : a = b
  · subst hab
    rw [if_pos rfl, exec_bind, exec_lift]
    exact ⟨evs₁ ++ evs₂, List.append_assoc _ _ _, .itself hr₁ hr₂⟩
  rw [if_neg hab, exec_bind]
  obtain ⟨r₃, st₃, h₃⟩ := exec_call_whyEntities_recorded e a b flags st₂ (log ++ evs₁ ++ evs₂)
  rw [h₃]
  cases r₃ with
  | error f => exact ⟨evs₁ ++ evs₂ ++ [.compared a b (some f)], by simp only [List.append_assoc]; rfl,
      .compareFails hr₁ hr₂ hab⟩
  | ok reply =>
  dsimp only [mapError_ok, failureOf]
  -- entity ids are not resolved again; records are, the second only while the first stays put
  cases byRecord with
  | false => exact ⟨evs₁ ++ evs₂ ++ [.compared a b none], by simp only [List.append_assoc]; rfl,
      .compared reply hr₁ hr₂ hab (.byEntity rfl)⟩
  | true =>
  rw [if_neg (by decide), exec_bind]
  obtain ⟨evs₄, r₄, st₄, h₄, hr₄⟩ :=
    exec_resolve_recorded e first st₃ (log ++ evs₁ ++ evs₂ ++ [.compared a b none])
  rw [h₄]
  cases r₄ with
  | error f => exact ⟨evs₁ ++ evs₂ ++ .compared a b none :: evs₄, by simp only [List.append_assoc]; rfl,
      .recheckFails hr₁ hr₂ hab (.firstFails rfl hr₄)⟩
  | ok a' =>
  dsimp only [mapError_ok]
  by_cases ha' : a' = a
  · rw [if_neg (fun h => h ha'), exec_bind]
    obtain ⟨evs₅, r₅, st₅, h₅, hr₅⟩ :=
      exec_resolve_recorded e second st₄ (log ++ evs₁ ++ evs₂ ++ [.compared a b none] ++ evs₄)
    rw [h₅]
    cases r₅ with
    | error f => exact ⟨evs₁ ++ evs₂ ++ .compared a b none :: (evs₄ ++ evs₅),
        by simp only [List.append_assoc]; rfl, .recheckFails hr₁ hr₂ hab (.secondFails rfl (ha' ▸ hr₄) hr₅)⟩
    | ok b' =>
    dsimp only [mapError_ok]
    rw [exec_bind]
    exact ⟨evs₁ ++ evs₂ ++ .compared a b none :: (evs₄ ++ evs₅), by simp only [List.append_assoc]; rfl,
      .compared reply hr₁ hr₂ hab (.secondChecked rfl (ha' ▸ hr₄) hr₅ rfl)⟩
  · rw [if_pos ha', exec_bind]
    exact ⟨evs₁ ++ evs₂ ++ .compared a b none :: evs₄, by simp only [List.append_assoc]; rfl,
      .compared reply hr₁ hr₂ hab (.firstMoved rfl hr₄ ha')⟩

end Service

/-! ## The attempts of a comparison -/

/-- What `compareEntities` asks with `n` more comparisons allowed, and how it ends: rounds that
found a record moved, then a round that failed, found nothing moved, or was the last allowed. -/
inductive Attempts (first second : EntityIdentifier) (byRecord : Bool) :
    Nat → List EngineEvent → Except GatewayError (Int × Int × Reply WhyData) → Prop
  | failed {n evs err} : Round first second byRecord evs (.error err) →
      Attempts first second byRecord n evs (.error err)
  | settled {n evs a b reply} : Round first second byRecord evs (.ok (a, b, reply, false)) →
      Attempts first second byRecord n evs (.ok (a, b, reply))
  | exhausted {evs a b reply} : Round first second byRecord evs (.ok (a, b, reply, true)) →
      Attempts first second byRecord 0 evs (.ok (a, b, reply))
  | moved {n evs₁ evs₂ a b reply r} : Round first second byRecord evs₁ (.ok (a, b, reply, true)) →
      Attempts first second byRecord n evs₂ r → Attempts first second byRecord (n + 1) (evs₁ ++ evs₂) r

namespace Attempts

variable {first second : EntityIdentifier} {byRecord : Bool} {n : Nat} {evs : List EngineEvent}
  {r : Except GatewayError (Int × Int × Reply WhyData)}

/-- With `n` more comparisons allowed, at most `n + 1` are made, none of an entity with itself. -/
theorem comparisons_bounded (h : Attempts first second byRecord n evs r) :
    (comparisons evs).length ≤ n + 1 ∧ ∀ p ∈ comparisons evs, p.1 ≠ p.2 := by
  induction h with
  | failed h | settled h | exhausted h =>
    obtain ⟨hlen, hne⟩ := h.comparisons_bounded
    exact ⟨by omega, hne⟩
  | moved h₁ _ ih =>
    obtain ⟨hlen₁, hne₁⟩ := h₁.comparisons_bounded
    obtain ⟨hlen, hne⟩ := ih
    rw [comparisons_append]
    refine ⟨by rw [List.length_append]; omega, fun p hp => ?_⟩
    rcases List.mem_append.1 hp with hp | hp
    · exact hne₁ p hp
    · exact hne p hp

/-- An answer comes from the last comparison. -/
theorem last_comparison (h : Attempts first second byRecord n evs r) :
    ∀ a b reply, r = .ok (a, b, reply) → (comparisons evs).getLast? = some (a, b) := by
  induction h with
  | failed h => intro a b reply h'; cases h'
  | settled h | exhausted h =>
    intro a b reply h'
    cases h'
    rw [h.comparisons_of_ok]
    rfl
  | moved _ _ ih =>
    intro a b reply h'
    rw [comparisons_append, List.getLast?_append, ih a b reply h']
    rfl

/-- Two records that stopped moving before the comparisons ran out: the last comparison is
followed by the two resolutions that found the records at the entities compared. -/
theorem of_settled {ds₁ rid₁ ds₂ rid₂ : String} (h : Attempts first second true n evs r)
    (h₁ : first = .record ds₁ rid₁) (h₂ : second = .record ds₂ rid₂) :
    ∀ a b reply, r = .ok (a, b, reply) → (comparisons evs).length < n + 1 →
      ∃ pre, evs = pre ++ [.compared a b none, .resolved ds₁ rid₁ (.ok a), .resolved ds₂ rid₂ (.ok b)] := by
  induction h with
  | failed _ => intro a b reply h'; cases h'
  | settled h =>
    intro a b reply h' _
    cases h'
    exact h.of_settled h₁ h₂
  | exhausted h =>
    -- the last comparison allowed was made
    intro a b reply h' hlen
    rw [h.comparisons_of_ok] at hlen
    simp at hlen
  | moved h₃ _ ih =>
    intro a b reply h' hlen
    rw [comparisons_append, h₃.comparisons_of_ok, List.length_append] at hlen
    obtain ⟨pre, rfl⟩ := ih a b reply h' (by simp at hlen; omega)
    exact ⟨_ ++ pre, by rw [List.append_assoc]⟩

/-- Two entity ids are compared once, or refused as one entity. -/
theorem of_entities {a b : Int} (h : Attempts (.entity a) (.entity b) false n evs r) :
    (a = b → evs = [] ∧ r = .error (.invalid ("cannot compare entity " ++ toString a ++ " with itself"))) ∧
      (a ≠ b → comparisons evs = [(a, b)]) := by
  cases h with
  | failed h =>
    refine ⟨fun hab => ?_, h.of_entities.2⟩
    obtain ⟨hevs, ⟨⟩⟩ := h.of_entities.1 hab
    exact ⟨hevs, rfl⟩
  | settled h =>
    refine ⟨fun hab => ?_, h.of_entities.2⟩
    cases (h.of_entities.1 hab).2
  | exhausted h | moved h _ => cases h.not_moved

end Attempts

namespace Service

theorem compareEntities_attempts (e : Engine σ) (first second : EntityIdentifier) (byRecord : Bool)
    (flags : EngineFlags) : ∀ n st log, ∃ evs,
      ((compareEntities e.recorded first second byRecord flags n).exec (st, log)).2.2 = log ++ evs ∧
      Attempts first second byRecord n evs ((compareEntities e.recorded first second byRecord flags n).exec (st, log)).1
  | 0, st, log => by
    rw [compareEntities, exec_bind]
    obtain ⟨evs, hlog, hround⟩ := compareOnce_round e first second byRecord flags st log
    rcases hrun : (compareOnce e.recorded first second byRecord flags).exec (st, log) with
      ⟨_ | ⟨a, b, reply, _ | _⟩, st₁⟩ <;> rw [hrun] at hlog hround
    · exact ⟨evs, hlog, .failed hround⟩
    · exact ⟨evs, hlog, .settled hround⟩
    · exact ⟨evs, hlog, .exhausted hround⟩
  | n + 1, st, log => by
    rw [compareEntities, exec_bind]
    obtain ⟨evs, hlog, hround⟩ := compareOnce_round e first second byRecord flags st log
    rcases hrun : (compareOnce e.recorded first second byRecord flags).exec (st, log) with
      ⟨_ | ⟨a, b, reply, moved⟩, st₁, log₁⟩ <;> rw [hrun] at hlog hround
    · exact ⟨evs, hlog, .failed hround⟩
    cases moved with
    | false => exact ⟨evs, hlog, .settled hround⟩
    | true =>
      obtain ⟨evs', hlog', hrest⟩ := compareEntities_attempts e first second byRecord flags n st₁ log₁
      refine ⟨evs ++ evs', ?_, .moved hround hrest⟩
      rw [← List.append_assoc, ← hlog]
      exact hlog'

end Service

/-! ## The whole comparison -/

/-- What comparing the entities of two identifiers asks, and how it ends: the checks of the
identifiers, which ask the engine only for its data sources, then the attempts, then the
gathering of the entities compared. -/
inductive WhyRun (first second : EntityIdentifier) :
    List EngineEvent → Except GatewayError (Answer WhyAnswer) → Prop
  /-- The identifiers are of two kinds, or name a data source the engine does not know. -/
  | refused {evs err} : (∀ ev ∈ evs, ev.isOther) →
      (first.kind = second.kind → first.dataSource?.toList ++ second.dataSource?.toList ≠ []) →
      WhyRun first second evs (.error err)
  /-- The attempts failed. -/
  | failed {evs₀ evs₁ err} : (∀ ev ∈ evs₀, ev.isOther) →
      (first.dataSource?.toList ++ second.dataSource?.toList = [] → evs₀ = []) →
      Attempts first second (first.kind == .record) (maxWhyAttempts - 1) evs₁ (.error err) →
      WhyRun first second (evs₀ ++ evs₁) (.error err)
  /-- The attempts compared `a` and `b`, and an answer reports them. -/
  | compared {evs₀ evs₁ evs₂ a b reply r} : (∀ ev ∈ evs₀, ev.isOther) →
      (first.dataSource?.toList ++ second.dataSource?.toList = [] → evs₀ = []) →
      Attempts first second (first.kind == .record) (maxWhyAttempts - 1) evs₁ (.ok (a, b, reply)) →
      (∀ ev ∈ evs₂, ev.isOther) →
      (∀ ans, r = .ok ans →
        ans.data.results.map (fun v => (v.perspective.entityId, v.other.map (·.entityId))) = [(a, some b)]) →
      WhyRun first second (evs₀ ++ evs₁ ++ evs₂) r

namespace Service

theorem singleResult_eq_ok {payload : WhyData} {r : WhyResult} (h : singleResult payload = .ok r) :
    payload.results = [r] := by
  unfold singleResult at h
  split at h
  · cases h
    assumption
  · cases h

/-- The results of a why answer are those of its payload. -/
theorem whyAnswer_results {τ : Type} (e : Engine τ) (payload : WhyData) (ids : List Int) (o : RenderOptions)
    (raw : Json) : Answers (whyAnswer e payload ids o raw) fun ans =>
      ans.data.results = payload.results.map WhyResultView.ofResult :=
  Answers.bind Answers.true fun _ _ => Answers.bind Answers.true fun _ _ => Answers.pure rfl

theorem whyEntities_run (e : Engine σ) (first second : EntityIdentifier) (o : RenderOptions) (st : σ)
    (log : List EngineEvent) : ∃ evs, ((whyEntities e.recorded first second o).exec (st, log)).2.2 = log ++ evs ∧
      WhyRun first second evs ((whyEntities e.recorded first second o).exec (st, log)).1 := by
  simp only [whyEntities]
  rw [exec_bind, exec_lift]
  cases hkind : ensureSameKind first second "compared entities" with
  | error err =>
    refine ⟨[], by simp, .refused (by simp) fun h => ?_⟩
    simp [ensureSameKind, h] at hkind
  | ok u =>
  dsimp only
  rw [exec_bind]
  obtain ⟨evs₀, h₀, hq₀, -⟩ := ensureKnownSources_traces e (first.dataSource?.toList ++ second.dataSource?.toList)
    "entity identifier" st log
  have hnil : first.dataSource?.toList ++ second.dataSource?.toList = [] → evs₀ = [] := by
    intro hsrc
    have hlog := congrArg (·.2.2) h₀
    rw [hsrc] at hlog
    simpa [ensureKnownSources] using hlog
  rw [h₀]
  rcases hsrc : (ensureKnownSources e (first.dataSource?.toList ++ second.dataSource?.toList)
    "entity identifier").exec st with ⟨_ | u', st₁⟩
  · -- a data source is unknown, so there was one to check
    refine ⟨evs₀, rfl, .refused hq₀ fun _ hsrcs => ?_⟩
    rw [hsrcs] at hsrc
    cases hsrc
  dsimp only
  rw [exec_bind]
  obtain ⟨evs₁, h₁, hatt⟩ := compareEntities_attempts e first second (first.kind == .record) o.engineFlags
    (maxWhyAttempts - 1) st₁ (log ++ evs₀)
  rcases hcmp : (compareEntities e.recorded first second (first.kind == .record) o.engineFlags
    (maxWhyAttempts - 1)).exec (st₁, log ++ evs₀) with ⟨_ | ⟨a, b, reply⟩, st₂, log₂⟩ <;> rw [hcmp] at h₁ hatt
  · exact ⟨evs₀ ++ evs₁, by rw [← List.append_assoc]; exact h₁, .failed hq₀ hnil hatt⟩
  -- from here on the engine is asked only for the entities compared
  obtain rfl : log₂ = log ++ evs₀ ++ evs₁ := h₁
  have herr : ∀ err, ∃ evs, log ++ evs₀ ++ evs₁ = log ++ evs ∧ WhyRun first second evs (.error err) :=
    fun err => ⟨evs₀ ++ evs₁ ++ [], by simp, .compared hq₀ hnil hatt (by simp) fun _ h => by cases h⟩
  dsimp only
  rw [exec_bind, exec_lift]
  cases hread : Reply.read "why" reply with
  | error err => exact herr err
  | ok payload =>
  dsimp only
  rw [exec_bind, exec_lift]
  cases hsingle : singleResult payload with
  | error err => exact herr err
  | ok res =>
  dsimp only
  by_cases hchk : res.entityId ≠ a ∨ res.otherId ≠ some b
  · rw [if_pos hchk, exec_bind, exec_lift]
    exact herr _
  rw [if_neg hchk]
  obtain ⟨evs₂, h₂, hq₂, -⟩ := whyAnswer_traces e payload [a, b] o reply.raw st₂ (log ++ evs₀ ++ evs₁)
  rw [h₂]
  refine ⟨evs₀ ++ evs₁ ++ evs₂, by simp, .compared hq₀ hnil hatt hq₂ fun ans hans => ?_⟩
  have hres := whyAnswer_results e payload [a, b] o reply.raw st₂ ans _ (Prod.ext hans rfl)
  simp only [not_or, ne_eq, Decidable.not_not] at hchk
  simp [hres, singleResult_eq_ok hsingle, WhyResultView.ofResult, hchk]

end Service

/-- What comparing the entities of `first` and `second` asked the engine, `evs`, and how it ended,
`r`. -/
structure AsksSafely (first second : EntityIdentifier) (evs : List EngineEvent)
    (r : Except GatewayError (Answer WhyAnswer)) : Prop where
  /-- The engine compares at most `maxWhyAttempts` times, -/
  bounded : (comparisons evs).length ≤ maxWhyAttempts
  /-- never an entity with itself. -/
  distinct : ∀ p ∈ comparisons evs, p.1 ≠ p.2
  /-- A failure of the engine is the last thing it is asked, and ends the comparison. -/
  failsLast : FailsLast evs r
  /-- An entity id compared with itself is refused before the engine compares anything, -/
  sameEntity : ∀ a, first = .entity a → second = .entity a →
    comparisons evs = [] ∧ r = .error (.invalid ("cannot compare entity " ++ toString a ++ " with itself"))
  /-- and two different entity ids are compared once. -/
  twoEntities : ∀ a b, first = .entity a → second = .entity b → a ≠ b → comparisons evs = [(a, b)]
  /-- An answer reports the entities last compared. Two records that stopped moving before the
  attempts ran out resolved to those entities right after that comparison, and then the engine
  was asked only for the entities' data. -/
  answer : ∀ ans, r = .ok ans → ∃ a b, (comparisons evs).getLast? = some (a, b) ∧
    ans.data.results.map (fun v => (v.perspective.entityId, v.other.map (·.entityId))) = [(a, some b)] ∧
    ((comparisons evs).length < maxWhyAttempts → ∀ ds₁ rid₁ ds₂ rid₂,
      first = .record ds₁ rid₁ → second = .record ds₂ rid₂ →
      ∃ pre post, evs = pre ++ [.compared a b none, .resolved ds₁ rid₁ (.ok a), .resolved ds₂ rid₂ (.ok b)] ++ post ∧
        ∀ ev ∈ post, ev.isOther)

namespace WhyRun

variable {first second : EntityIdentifier} {evs : List EngineEvent} {r : Except GatewayError (Answer WhyAnswer)}

theorem asksSafely (h : WhyRun first second evs r) (hlast : FailsLast evs r) : AsksSafely first second evs r := by
  cases h with
  | refused hq hchk =>
    -- the checks of two entity ids never fail
    have hnot : ∀ a b, first = .entity a → second = .entity b → False := by
      rintro a b rfl rfl
      exact hchk rfl rfl
    refine ⟨by simp [comparisons_eq_nil_of_isOther hq], by simp [comparisons_eq_nil_of_isOther hq], hlast,
      fun a h₁ h₂ => (hnot a a h₁ h₂).elim, fun a b h₁ h₂ _ => (hnot a b h₁ h₂).elim, fun _ h => by cases h⟩
  | @failed evs₀ evs₁ _ hq₀ hnil hatt =>
    have hcmp : comparisons (evs₀ ++ evs₁) = comparisons evs₁ := by
      rw [comparisons_append, comparisons_eq_nil_of_isOther hq₀, List.nil_append]
    obtain ⟨hlen, hne⟩ := hatt.comparisons_bounded
    refine ⟨by rw [hcmp]; exact hlen, by rw [hcmp]; exact hne, hlast, ?_, ?_, fun _ h => by cases h⟩
    · rintro a rfl rfl
      obtain ⟨rfl, ⟨⟩⟩ := hatt.of_entities.1 rfl
      exact ⟨by rw [hcmp]; rfl, rfl⟩
    · rintro a b rfl rfl hab
      rw [hcmp]
      exact hatt.of_entities.2 hab
  | @compared evs₀ evs₁ evs₂ _ _ _ _ hq₀ hnil hatt hq₂ hans =>
    have hcmp : comparisons (evs₀ ++ evs₁ ++ evs₂) = comparisons evs₁ := by
      rw [comparisons_append, comparisons_append, comparisons_eq_nil_of_isOther hq₀,
        comparisons_eq_nil_of_isOther hq₂, List.nil_append, List.append_nil]
    obtain ⟨hlen, hne⟩ := hatt.comparisons_bounded
    refine ⟨by rw [hcmp]; exact hlen, by rw [hcmp]; exact hne, hlast, ?_, ?_, ?_⟩
    · rintro a rfl rfl
      cases (hatt.of_entities.1 rfl).2
    · rintro a b rfl rfl hab
      rw [hcmp]
      exact hatt.of_entities.2 hab
    · intro ans hans'
      refine ⟨_, _, by rw [hcmp]; exact hatt.last_comparison _ _ _ rfl, hans ans hans', ?_⟩
      rintro hlt ds₁ rid₁ ds₂ rid₂ rfl rfl
      rw [hcmp] at hlt
      obtain ⟨pre, rfl⟩ := hatt.of_settled rfl rfl _ _ _ rfl hlt
      exact ⟨evs₀ ++ pre, evs₂, by simp, hq₂⟩

end WhyRun

namespace Service

theorem whyEntities_asks (e : Engine σ) (first second : EntityIdentifier) (o : RenderOptions) (st : σ) :
    ∃ evs, (whyEntities e.recorded first second o).exec (st, []) =
        (((whyEntities e first second o).exec st).1, ((whyEntities e first second o).exec st).2, evs) ∧
      AsksSafely first second evs ((whyEntities e first second o).exec st).1 := by
  obtain ⟨evs, hrun, -, hlast⟩ := whyEntities_traces e first second o st []
  obtain ⟨evs', hlog, hwhy⟩ := whyEntities_run e first second o st []
  rw [hrun] at hlog hwhy
  obtain rfl : evs = evs' := by simpa using hlog
  exact ⟨evs, by simpa using hrun, hwhy.asksSafely hlast⟩

end Service

end EntityGateway
