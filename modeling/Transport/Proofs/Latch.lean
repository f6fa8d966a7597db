import Transport.Engine.Stepper
/-!
# The failure latch and the step budget

A stepper refuses a step, before it touches anything, in two cases: an earlier step failed
(the stepper is disabled), or the step budget is spent. A step that runs and fails leaves
its slots half updated, so the failure disables the stepper, unless it stops the program
instead (a device abort, a buffer too large for memory). A step that succeeds is counted.

* `Stepper.step_spec`: the four ways a call of `step` ends; a failure in the kernels, the
  initialization or the harvest disables the stepper (`Stepper.step_failure_disables`), and a
  refusal for the budget changes nothing (`Stepper.step_budget_refusal`).
* `Stepper.Latched`: the counted steps stay within the budget, and a disabled stepper still
  has budget left, so a stepper is never refused for its budget once it is disabled.
* `Stepper.Calls`: a sequence of calls of `step`, each with its own watchers and with any
  outcome. `Stepper.Calls.latched` carries the invariant along it and counts the steps taken
  as the calls that succeeded; `Stepper.Calls.of_disabled` says that nothing changes any
  more once the stepper is disabled.
* `stepper_latch_and_budget`: the latch and the budget over every sequence of calls from an
  unstepped stepper.
-/
namespace Transport

namespace Stepper

theorem new_unstepped {c : RunConfig} {s : Stepper} (h : Stepper.new c = .ok s) :
    s.steps = 0 ∧ s.disabled = false := by
  unfold Stepper.new at h
  split at h
  · cases h
  · split at h
    · cases h
    · split at h
      · cases h
      · cases h
        exact ⟨rfl, rfl⟩

theorem loadPrimaries_counters {s s' : Stepper} {ps : List Primary}
    (h : s.loadPrimaries ps = .ok s') :
    s'.steps = s.steps ∧ s'.maxSteps = s.maxSteps ∧ s'.disabled = s.disabled := by
  unfold loadPrimaries at h
  split at h
  · cases h
    exact ⟨rfl, rfl, rfl⟩
  · cases h

theorem transport_error {p : Setup} {acts : List Action} {st : CoreState} {e : StepError}
    (h : (transport p acts st).2.2 = .error e) : ∃ se, e = .ofSweep se := by
  revert h
  unfold transport
  split
  · intro h
    exact ⟨_, (Except.error.inj h).symm⟩
  · dsimp only
    split
    · intro h
      exact ⟨_, (Except.error.inj h).symm⟩
    · intro h
      cases h

theorem execute_error {s : Stepper} {w : Watchers} {e : StepError}
    (h : (s.execute w).2.2 = .error e) :
    (∃ k, e = .kernel k) ∨ (∃ i, e = .init i) ∨ e.halts = true := by
  revert h
  unfold execute
  dsimp only
  generalize htr : transport s.setup s.pipeline.actions s.state = tr
  obtain ⟨acts, st, e' | ⟨n, active⟩⟩ := tr
  · intro h
    obtain rfl : e' = e := Except.error.inj h
    obtain ⟨se, rfl⟩ := transport_error (by rw [htr])
    cases se with
    | failed k => exact .inl ⟨k, rfl⟩
    | aborted f => exact .inr (.inr rfl)
  · dsimp only
    split
    · intro h
      obtain rfl := Except.error.inj h
      exact .inr (.inr rfl)
    · split
      · intro h
        obtain rfl := Except.error.inj h
        exact .inr (.inl ⟨_, rfl⟩)
      · intro h
        cases h

theorem execute_counters (s : Stepper) (w : Watchers) :
    (s.execute w).1.steps = s.steps ∧ (s.execute w).1.maxSteps = s.maxSteps ∧
      (s.execute w).1.disabled = s.disabled := by
  unfold execute
  dsimp only
  generalize transport s.setup s.pipeline.actions s.state = tr
  obtain ⟨acts, st, moved⟩ := tr
  dsimp only
  split
  · exact ⟨rfl, rfl, rfl⟩
  · split
    · exact ⟨rfl, rfl, rfl⟩
    · split
      · exact ⟨rfl, rfl, rfl⟩
      · exact ⟨rfl, rfl, rfl⟩

theorem step_of_disabled {s : Stepper} (w : Watchers) (h : s.disabled = true) :
    s.step w = (s, w, .error .disabled) := by
  simp [step, h]

theorem step_of_budget {s : Stepper} (w : Watchers) (hen : s.disabled = false)
    (h : s.maxSteps ≤ s.steps) : s.step w = (s, w, .error .budgetExhausted) := by
  simp [step, hen, h]

theorem step_spec (s : Stepper) (w : Watchers) :
    (s.disabled = true ∧ s.step w = (s, w, .error .disabled)) ∨
    (s.disabled = false ∧ s.maxSteps ≤ s.steps ∧ s.step w = (s, w, .error .budgetExhausted)) ∨
    (s.disabled = false ∧ s.steps < s.maxSteps ∧ (s.step w).2.2.isOk = true ∧
      (s.step w).1.steps = s.steps + 1 ∧ (s.step w).1.maxSteps = s.maxSteps ∧
      (s.step w).1.disabled = false) ∨
    (s.disabled = false ∧ s.steps < s.maxSteps ∧ ∃ e, (s.step w).2.2 = .error e ∧
      (s.step w).1.steps = s.steps ∧ (s.step w).1.maxSteps = s.maxSteps ∧
      ((((∃ k, e = .kernel k) ∨ ∃ i, e = .init i) ∧ (s.step w).1.disabled = true) ∨
        (e.halts = true ∧ (s.step w).1.disabled = false))) := by
  by_cases hdis : s.disabled = true
  · exact .inl ⟨hdis, step_of_disabled w hdis⟩
  have hen : s.disabled = false := by simpa using hdis
  by_cases hbudget : s.maxSteps ≤ s.steps
  · exact .inr (.inl ⟨hen, hbudget, step_of_budget w hen hbudget⟩)
  have hlt : s.steps < s.maxSteps := by omega
  right; right
  unfold step
  rw [if_neg hdis, if_neg (by simpa using hbudget)]
  obtain ⟨hsteps, hmax, hdis'⟩ := execute_counters s w
  have herr := @execute_error s w
  generalize s.execute w = r at hsteps hmax hdis' herr ⊢
  obtain ⟨s1, w1, e | c⟩ := r
  · dsimp only at hsteps hmax hdis' herr ⊢
    right
    refine ⟨hen, hlt, e, rfl, ?_⟩
    rcases herr rfl with hk | hi | hhalt
    · have hnot : e.halts = false := by obtain ⟨k, rfl⟩ := hk; rfl
      rw [hnot, if_neg Bool.false_ne_true]
      exact ⟨hsteps, hmax, .inl ⟨.inl hk, rfl⟩⟩
    · have hnot : e.halts = false := by obtain ⟨i, rfl⟩ := hi; rfl
      rw [hnot, if_neg Bool.false_ne_true]
      exact ⟨hsteps, hmax, .inl ⟨.inr hi, rfl⟩⟩
    · rw [hhalt, if_pos rfl]
      exact ⟨hsteps, hmax, .inr ⟨rfl, hdis'.trans hen⟩⟩
  · dsimp only at hsteps hmax hdis' ⊢
    left
    exact ⟨hen, hlt, rfl, by rw [hsteps], hmax, hdis'.trans hen⟩

theorem step_failure_disables {s s' : Stepper} {w w' : Watchers} {e : StepError}
    (hs : s.step w = (s', w', .error e)) (hfail : (∃ k, e = .kernel k) ∨ ∃ i, e = .init i) :
    s'.disabled = true := by
  -- neither refusal is such a failure, and such a failure does not stop the program
  have hhalt : e.halts = false := by rcases hfail with ⟨k, rfl⟩ | ⟨i, rfl⟩ <;> rfl
  rcases step_spec s w with ⟨-, h⟩ | ⟨-, -, h⟩ | ⟨-, -, hok, -⟩ | ⟨-, -, e', he', -, -, hdis⟩
  · rw [h] at hs
    cases hs
    rcases hfail with ⟨k, hk⟩ | ⟨i, hi⟩
    · cases hk
    · cases hi
  · rw [h] at hs
    cases hs
    rcases hfail with ⟨k, hk⟩ | ⟨i, hi⟩
    · cases hk
    · cases hi
  · rw [hs] at hok
    cases hok
  · rw [hs] at he' hdis
    cases he'
    rcases hdis with ⟨-, hd⟩ | ⟨hh, -⟩
    · exact hd
    · rw [hhalt] at hh
      cases hh

theorem step_budget_refusal {s s' : Stepper} {w w' : Watchers}
    (hs : s.step w = (s', w', .error .budgetExhausted)) : s' = s ∧ s'.disabled = false := by
  rcases step_spec s w with ⟨-, h⟩ | ⟨hen, -, h⟩ | ⟨-, -, hok, -⟩ | ⟨-, -, e, he, -, -, hdis⟩
  · rw [h] at hs
    cases hs
  · rw [h] at hs
    cases hs
    exact ⟨rfl, hen⟩
  · rw [hs] at hok
    cases hok
  · rw [hs] at he hdis
    cases he
    rcases hdis with ⟨⟨k, hk⟩ | ⟨i, hi⟩, -⟩ | ⟨hh, -⟩
    · cases hk
    · cases hi
    · cases hh

/-! ## The latch over a sequence of calls -/

/-- The counted steps stay within the budget, and a disabled stepper still has budget left:
a step is refused for the budget only when it is taken with the budget spent, which a
failed step never does. -/
structure Latched (s : Stepper) : Prop where
  within : s.steps ≤ s.maxSteps
  budget_left : s.disabled = true → s.steps < s.maxSteps

/-- Every call keeps the invariant and the budget, and counts a step exactly when it
succeeds. -/
theorem Latched.step {s : Stepper} (h : s.Latched) (w : Watchers) :
    (s.step w).1.Latched ∧ (s.step w).1.maxSteps = s.maxSteps ∧
      (s.step w).1.steps = s.steps + if (s.step w).2.2.isOk then 1 else 0 := by
  rcases step_spec s w with ⟨-, hs⟩ | ⟨-, -, hs⟩ | ⟨-, hlt, hok, hsteps, hmax, hdis⟩ |
    ⟨-, hlt, e, he, hsteps, hmax, hdis⟩
  · rw [hs]
    exact ⟨h, rfl, by simp [Except.isOk, Except.toBool]⟩
  · rw [hs]
    exact ⟨h, rfl, by simp [Except.isOk, Except.toBool]⟩
  · refine ⟨⟨by omega, fun hd => by simp [hdis] at hd⟩, hmax, by simp [hok, hsteps]⟩
  · have hne : (s.step w).2.2.isOk = false := by simp [he, Except.isOk, Except.toBool]
    refine ⟨⟨by omega, fun _ => by omega⟩, hmax, by simp [hne, hsteps]⟩

/-- A sequence of calls of `step` from `s₀`, each with its own watchers and any outcome: the
stepper it reaches and the results of the calls, in order. -/
inductive Calls (s₀ : Stepper) : Stepper → List (Except StepError Counters) → Prop
  | start : Calls s₀ s₀ []
  | step {s s' : Stepper} {w w' : Watchers} {r : Except StepError Counters}
      {rs : List (Except StepError Counters)} :
      Calls s₀ s rs → s.step w = (s', w', r) → Calls s₀ s' (rs ++ [r])

theorem Calls.latched {s₀ s : Stepper} {rs : List (Except StepError Counters)}
    (h₀ : s₀.Latched) (h : Calls s₀ s rs) :
    s.Latched ∧ s.maxSteps = s₀.maxSteps ∧ s.steps = s₀.steps + (rs.filter (·.isOk)).length := by
  induction h with
  | start => exact ⟨h₀, rfl, by simp⟩
  | @step s s' w w' r rs _ hs ih =>
    obtain ⟨hinv, hmax, hsteps⟩ := ih
    obtain ⟨hinv', hmax', hsteps'⟩ := hinv.step w
    rw [hs] at hinv' hmax' hsteps'
    refine ⟨hinv', hmax'.trans hmax, ?_⟩
    rw [hsteps', hsteps, List.filter_append, List.length_append, Nat.add_assoc]
    cases hr : r.isOk <;> simp [hr]

theorem Calls.of_disabled {s s' : Stepper} {rs : List (Except StepError Counters)}
    (hdis : s.disabled = true) (h : Calls s s' rs) :
    s' = s ∧ ∀ r ∈ rs, r = .error .disabled := by
  induction h with
  | start => exact ⟨rfl, nofun⟩
  | @step s₁ s₂ w w' r rs _ hs ih =>
    obtain ⟨rfl, hrs⟩ := ih
    rw [step_of_disabled w hdis] at hs
    simp only [Prod.mk.injEq] at hs
    obtain ⟨rfl, -, rfl⟩ := hs
    refine ⟨rfl, fun r' hr' => ?_⟩
    rcases List.mem_append.1 hr' with hr' | hr'
    · exact hrs r' hr'
    · exact List.eq_of_mem_singleton hr'

end Stepper

/-- **Failure latch and step budget.** Along any sequence of calls of `step` from a stepper
that has taken no step and is enabled, whatever watchers each call is given and whatever
it returns, the stepper reached has taken no more steps than its budget, as many as the
calls that succeeded. A call made there while disabled is refused as disabled, and one made
with the budget spent as out of budget, and both leave the stepper and the watchers as they
were. A call failing in its kernels or its initialization or harvest disables the stepper,
after which every call is refused as disabled and nothing changes again; a call refused for
the budget leaves the stepper enabled. -/
theorem stepper_latch_and_budget {s₀ s : Stepper} {rs : List (Except StepError Counters)}
    (hsteps : s₀.steps = 0) (henabled : s₀.disabled = false) (hcalls : Stepper.Calls s₀ s rs) :
    s.steps ≤ s.maxSteps ∧ s.steps = (rs.filter (·.isOk)).length ∧
    (∀ w, s.disabled = true → s.step w = (s, w, .error .disabled)) ∧
    (∀ w, s.steps = s.maxSteps → s.step w = (s, w, .error .budgetExhausted)) ∧
    (∀ w s' w' e, s.step w = (s', w', .error e) → ((∃ k, e = .kernel k) ∨ ∃ i, e = .init i) →
      s'.disabled = true ∧
      ∀ s'' rs', Stepper.Calls s' s'' rs' → s'' = s' ∧ ∀ r ∈ rs', r = .error .disabled) ∧
    (∀ w s' w', s.step w = (s', w', .error .budgetExhausted) → s' = s ∧ s'.disabled = false) := by
  have h₀ : s₀.Latched := ⟨by omega, fun hd => by simp [henabled] at hd⟩
  obtain ⟨hinv, -, hcount⟩ := Stepper.Calls.latched h₀ hcalls
  refine ⟨hinv.within, by rw [hcount, hsteps, Nat.zero_add],
    fun w hd => Stepper.step_of_disabled w hd, fun w hmax => ?_, ?_, ?_⟩
  · -- with the budget spent the stepper cannot be disabled
    have hen : s.disabled = false := by
      cases hd : s.disabled
      · rfl
      · have := hinv.budget_left hd
        omega
    exact Stepper.step_of_budget w hen (by omega)
  · intro w s' w' e hs hfail
    have hd := Stepper.step_failure_disables hs hfail
    exact ⟨hd, fun s'' rs' hc => Stepper.Calls.of_disabled hd hc⟩
  · intro w s' w' hs
    exact Stepper.step_budget_refusal hs

theorem Except.exists_eq_ok_of_isOk {ε α : Type} {r : Except ε α} (h : r.isOk = true) :
    ∃ a, r = .ok a := by
  cases r with
  | ok a => exact ⟨a, rfl⟩
  | error e => simp [Except.isOk, Except.toBool] at h

theorem Stepper.step_eq_of_result {s : Stepper} {w : Watchers} {r : Except StepError Counters}
    (h : (s.step w).2.2 = r) : s.step w = ((s.step w).1, (s.step w).2.1, r) := h ▸ rfl

/-- A one-slot stepper with two primaries queued, the second with no direction. The first
call starts the first primary, which leaves the world in its step; the second call fails to
start the other, and the stepper latches; the third call is refused. -/
theorem stepper_latches_on_a_primary_with_no_direction :
    let moving : Primary := { (default : Primary) with energy := 1.0, direction := ⟨1.0, 0.0, 0.0⟩ }
    let lost : Primary := { (default : Primary) with energy := 1.0 }
    let s₀ : Stepper :=
      { setup := default, pipeline := ⟨standardActions⟩,
        state := ⟨#[Slot.vacant], Arena.new 1,
          { InitBuffer.new 1 2 with initializers := #[lost.toInitializer, moving.toInitializer] }⟩,
        threads := none, maxSteps := 5, steps := 0, disabled := false, lastLabels := ⟨[], []⟩ }
    ∃ (s : Stepper) (c : Counters) (k : KernelError),
      s₀.steps = 0 ∧ s₀.disabled = false ∧
      Stepper.Calls s₀ s [.ok c, .error (.kernel k), .error .disabled] ∧
      c.killed = 1 ∧ k.first.label = "initialize-tracks" ∧ s.disabled = true ∧
      let rs : List (Except StepError Counters) := [.ok c, .error (.kernel k), .error .disabled]
      s.steps ≤ s.maxSteps ∧ s.steps = (rs.filter (·.isOk)).length ∧
      (∀ w, s.disabled = true → s.step w = (s, w, .error .disabled)) ∧
      (∀ w, s.steps = s.maxSteps → s.step w = (s, w, .error .budgetExhausted)) ∧
      (∀ w s' w' e, s.step w = (s', w', .error e) → ((∃ k, e = .kernel k) ∨ ∃ i, e = .init i) →
        s'.disabled = true ∧
        ∀ s'' rs', Stepper.Calls s' s'' rs' → s'' = s' ∧ ∀ r ∈ rs', r = .error .disabled) ∧
      (∀ w s' w', s.step w = (s', w', .error .budgetExhausted) → s' = s ∧ s'.disabled = false) := by
  intro moving lost s₀
  let s₁ := (s₀.step default).1
  let s₂ := (s₁.step default).1
  obtain ⟨c, hc⟩ := Except.exists_eq_ok_of_isOk
    (show (s₀.step default).2.2.isOk = true by decide +kernel)
  obtain ⟨k, hk⟩ : ∃ k, (s₁.step default).2.2 = .error (.kernel k) := by
    have hfail : (match (s₁.step default).2.2 with
        | .error (.kernel _) => true
        | _ => false) = true := by decide +kernel
    split at hfail
    · rename_i k hk
      exact ⟨k, hk⟩
    · cases hfail
  have hdisabled : s₂.disabled = true := by decide +kernel
  have hcalls : Stepper.Calls s₀ s₂ [.ok c, .error (.kernel k), .error .disabled] :=
    .step (.step (.step .start (Stepper.step_eq_of_result hc)) (Stepper.step_eq_of_result hk))
      (Stepper.step_of_disabled default hdisabled)
  have hc₁ : c.killed = 1 := by
    have h : (s₀.step default).2.2.toOption.map (·.killed) = some 1 := by decide +kernel
    simpa [hc, Except.toOption] using h
  have hk₁ : k.first.label = "initialize-tracks" := by
    have h : (match (s₁.step default).2.2 with
        | .error (.kernel k) => k.first.label
        | _ => "") = "initialize-tracks" := by decide +kernel
    rwa [hk] at h
  exact ⟨s₂, c, k, rfl, rfl, hcalls, hc₁, hk₁, hdisabled,
    stepper_latch_and_budget rfl rfl hcalls⟩

end Transport
