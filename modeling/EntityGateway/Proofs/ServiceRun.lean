import EntityGateway.Engine.Basic

/-!
# Running services

A service runs from an engine state to an answer, or a gateway error, and a final state:
`Service.exec`. A sequence runs its first step and then the rest from the step's state, a
failure ending the run (`exec_bind`); a sequence that answered had every step answer
(`bind_ok_iff`), which is how the proofs about services take a run apart step by step.

`Service.Answers x P` says that every answer of `x`, from any state, satisfies `P`. It is the
postcondition of a service that fails or answers, and is proved step by step by the rules
`Answers.bind`, `Answers.pure`, `Answers.lift` and `Answers.ite`, without following the
states of the run; `Answers.foldlM` is the rule of a loop, from what each step keeps.
`Service.Keeps x` says that `x` leaves the state as it found it, with the same rules.

The checks and projections that need no engine are `Except` values; `except_bind_eq_ok` takes
them apart, and `map_key_of_mapM_eq_ok` says what a `mapM` over them keeps of each element.
-/

namespace EntityGateway

/-! ## Steps that need no engine -/

theorem except_bind_eq_ok {ε α β : Type} {x : Except ε α} {f : α → Except ε β} {b : β} :
    x >>= f = .ok b ↔ ∃ a, x = .ok a ∧ f a = .ok b := by
  cases x <;> simp [bind, Except.bind]

/-- A list answered by `mapM` lists, under `key`, what the list it was built from lists under
`k`, when each step keeps the key. -/
theorem map_key_of_mapM_eq_ok {ε α β γ : Type} {f : α → Except ε β} {key : β → γ} {k : α → γ}
    (hf : ∀ a b, f a = .ok b → key b = k a) :
    ∀ {xs : List α} {ys : List β}, xs.mapM f = .ok ys → ys.map key = xs.map k := by
  intro xs
  induction xs with
  | nil =>
    intro ys h
    cases h
    rfl
  | cons x xs ih =>
    intro ys h
    simp only [List.mapM_cons, except_bind_eq_ok] at h
    obtain ⟨b, hb, bs, hbs, h⟩ := h
    cases h
    simp [hf x b hb, ih hbs]

/-- Every element of a list answered by `mapM` is an answer of its step. -/
theorem forall_mem_of_mapM_eq_ok {ε α β : Type} {f : α → Except ε β} {P : β → Prop}
    (hf : ∀ a b, f a = .ok b → P b) :
    ∀ {xs : List α} {ys : List β}, xs.mapM f = .ok ys → ∀ y ∈ ys, P y := by
  intro xs
  induction xs with
  | nil =>
    intro ys h
    cases h
    simp
  | cons x xs ih =>
    intro ys h
    simp only [List.mapM_cons, except_bind_eq_ok] at h
    obtain ⟨b, hb, bs, hbs, h⟩ := h
    cases h
    simpa [hf x b hb] using ih hbs

/-- A `mapM` answers exactly when each of its steps does. -/
theorem exists_mapM_eq_ok_iff {ε α β : Type} {f : α → Except ε β} {xs : List α} :
    (∃ ys, xs.mapM f = .ok ys) ↔ ∀ x ∈ xs, ∃ y, f x = .ok y := by
  induction xs with
  | nil => simp [pure, Except.pure]
  | cons x xs ih =>
    simp only [List.mapM_cons, except_bind_eq_ok, List.forall_mem_cons, ← ih]
    constructor
    · rintro ⟨_, b, hb, bs, hbs, -⟩
      exact ⟨⟨b, hb⟩, bs, hbs⟩
    · rintro ⟨⟨b, hb⟩, bs, hbs⟩
      exact ⟨b :: bs, b, hb, bs, hbs, rfl⟩

/-- Two `mapM` runs whose steps answer together, with answers alike under `p` and `q`: when the
first answers, so does the second, with a list alike under the two maps. -/
theorem mapM_eq_ok_of_step {ε α β γ δ : Type} {f : α → Except ε β} {g : α → Except ε γ}
    {p : β → δ} {q : γ → δ} (hfg : ∀ a b, f a = .ok b → ∃ c, g a = .ok c ∧ p b = q c) :
    ∀ {xs : List α} {ys : List β}, xs.mapM f = .ok ys → ∃ zs, xs.mapM g = .ok zs ∧ ys.map p = zs.map q := by
  intro xs
  induction xs with
  | nil =>
    intro ys h
    cases h
    exact ⟨[], rfl, rfl⟩
  | cons x xs ih =>
    intro ys h
    simp only [List.mapM_cons, except_bind_eq_ok] at h
    obtain ⟨b, hb, bs, hbs, h⟩ := h
    cases h
    obtain ⟨c, hc, hbc⟩ := hfg x b hb
    obtain ⟨cs, hcs, hmap⟩ := ih hbs
    refine ⟨c :: cs, ?_, by simp [hbc, hmap]⟩
    simp [List.mapM_cons, hc, hcs, bind, Except.bind, pure, Except.pure]

namespace Service

variable {σ α β : Type}

/-- The answer, or the error, of a service run from a state, and the state it leaves. -/
def exec (x : Service σ α) (st : σ) : Except GatewayError α × σ := x.run.run st

theorem exec_bind (x : Service σ α) (f : α → Service σ β) (st : σ) :
    (x >>= f).exec st = match x.exec st with
      | (.ok a, st₁) => (f a).exec st₁
      | (.error e, st₁) => (.error e, st₁) := by
  simp only [exec, ExceptT.run_bind, StateT.run_bind]
  rcases x.run.run st with ⟨_ | a, st₁⟩ <;> rfl

/-- A sequence answered exactly when its first step answered and the rest answered from the
state that step left. -/
theorem bind_ok_iff {x : Service σ α} {f : α → Service σ β} {st st' : σ} {b : β} :
    (x >>= f).exec st = (.ok b, st') ↔
      ∃ a st₁, x.exec st = (.ok a, st₁) ∧ (f a).exec st₁ = (.ok b, st') := by
  rw [exec_bind]
  rcases x.exec st with ⟨_ | a, st₁⟩
  · simp
  · constructor
    · intro h
      exact ⟨a, st₁, rfl, h⟩
    · rintro ⟨a', st₂, hx, h⟩
      cases hx
      exact h

@[simp] theorem exec_pure (a : α) (st : σ) : (pure a : Service σ α).exec st = (.ok a, st) := rfl

@[simp] theorem exec_lift (r : Except GatewayError α) (st : σ) :
    (lift r : Service σ α).exec st = (r, st) := rfl

/-! ## Postconditions of answers -/

/-- Every answer of `x`, from any state, satisfies `P`. -/
def Answers (x : Service σ α) (P : α → Prop) : Prop :=
  ∀ st a st', x.exec st = (.ok a, st') → P a

namespace Answers

variable {x : Service σ α} {P : α → Prop}

/-- An answer of a service satisfies every postcondition of the service. -/
theorem of_ok {st st' : σ} {a : α} (hx : x.exec st = (.ok a, st')) (P : α → Prop)
    (h : Answers x P) : P a :=
  h st a st' hx

/-- Every service answers something. -/
theorem true : Answers x fun _ => True := fun _ _ _ _ => trivial

/-- The rest of a sequence runs on an answer of its first step. -/
theorem bind {f : α → Service σ β} {Q : β → Prop} (hx : Answers x P)
    (hf : ∀ a, P a → Answers (f a) Q) : Answers (x >>= f) Q := by
  intro st b st' hrun
  obtain ⟨a, st₁, ha, hfa⟩ := bind_ok_iff.1 hrun
  exact hf a (hx st a st₁ ha) st₁ b st' hfa

theorem pure {a : α} (h : P a) : Answers (Pure.pure a : Service σ α) P := by
  intro st b st' hrun
  simp only [exec_pure, Prod.mk.injEq, Except.ok.injEq] at hrun
  exact hrun.1 ▸ h

theorem lift {r : Except GatewayError α} (h : ∀ a, r = .ok a → P a) :
    Answers (Service.lift r : Service σ α) P := by
  intro st a st' hrun
  simp only [exec_lift, Prod.mk.injEq] at hrun
  exact h a hrun.1

theorem ite {c : Prop} [Decidable c] {y : Service σ α} (hx : c → Answers x P) (hy : ¬c → Answers y P) :
    Answers (if c then x else y) P := by
  split
  · exact hx ‹c›
  · exact hy ‹¬c›

/-- A fold whose every step keeps `P` of the accumulator answers an accumulator with `P`. -/
theorem foldlM {γ : Type} {f : α → γ → Service σ α} (hf : ∀ acc c, P acc → Answers (f acc c) P) :
    ∀ (l : List γ) (acc : α), P acc → Answers (l.foldlM f acc) P := by
  intro l
  induction l with
  | nil => exact fun acc hacc => pure hacc
  | cons c l ih =>
    intro acc hacc
    rw [List.foldlM_cons]
    exact bind (hf acc c hacc) ih

end Answers

/-! ## Services that keep the state -/

/-- `x` leaves the state as it found it, whatever it answers. -/
def Keeps (x : Service σ α) : Prop := ∀ st, (x.exec st).2 = st

namespace Keeps

variable {x : Service σ α}

theorem bind {f : α → Service σ β} (hx : Keeps x) (hf : ∀ a, Keeps (f a)) : Keeps (x >>= f) := by
  intro st
  rw [exec_bind]
  rcases hxst : x.exec st with ⟨_ | a, st₁⟩
  · simpa [hxst] using hx st
  · have h₁ : st₁ = st := by simpa [hxst] using hx st
    simpa [h₁] using hf a st

theorem pure (a : α) : Keeps (Pure.pure a : Service σ α) := fun _ => rfl

theorem lift (r : Except GatewayError α) : Keeps (Service.lift r : Service σ α) := fun _ => rfl

/-- An engine call keeps the state when the engine does. -/
theorem call {c : EngineCall σ α} (hc : ∀ st, (c.run.run st).2 = st) : Keeps (Service.call c) := by
  intro st
  have hcst := hc st
  simp only [exec, Service.call, ExceptT.run_mk, StateT.run_bind]
  rcases hrun : c.run.run st with ⟨_ | a, st₁⟩ <;>
  · rw [hrun] at hcst
    exact hcst

/-- A fold of steps that keep the state keeps it. -/
theorem foldlM {γ : Type} {f : α → γ → Service σ α} (hf : ∀ acc c, Keeps (f acc c)) :
    ∀ (l : List γ) (acc : α), Keeps (l.foldlM f acc) := by
  intro l
  induction l with
  | nil => exact fun acc => pure acc
  | cons c l ih =>
    intro acc
    rw [List.foldlM_cons]
    exact bind (hf acc c) ih

end Keeps

end Service

end EntityGateway
