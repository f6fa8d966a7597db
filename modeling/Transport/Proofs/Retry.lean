import Transport.Proofs.Coverage
/-!
# Retrying a failed interaction

A model that cannot store its secondaries returns a `failed` outcome, and the post-step
marks the track to retry. This module follows such a track through the next step: the
initialization leaves its slot alone, the reset keeps its step limit, the along-step counts
the step and records a zero step without sampling or moving it, and of the models only the
one its step limit names runs, once, on the track as the along-step left it.

* `initializeTracks_occupied`: a successful initialization leaves an occupied slot as it
  was.
* `Slot.startStep_retry`, `alongStep_retry`: the reset and the along-step of a track that
  retries.
* `launchFrom_passes`, `launchFrom_runs`: the model sweeps leave a slot alone unless its
  step limit names their model, and then run that model on it once.
* `failed_interaction_is_retried`: the whole of the next step, in every run from a
  consistent stepper.
-/
namespace Transport

/-! ## Before the models -/

section Initialization

variable {g : Geometry} {seed : UInt64} {space : Space} {dispatch : Dispatch} {st : CoreState}
  {n j : Nat} {sl : Slot}

/-- A successful initialization leaves an occupied slot as it was: the pairs take only
vacant slots. -/
theorem initializeTracks_occupied (hinv : VacancyInv st)
    (hok : (initializeTracks g seed space dispatch st).2 = .ok n)
    (hsl : st.slots[j]? = some sl) (ht : sl.track.isSome = true) :
    (initializeTracks g seed space dispatch st).1.slots[j]? = some sl := by
  -- the pairs take their slots off the vacancy stack, which holds no occupied slot
  have hpair : st.init.popPairs.1.any (·.1 == j) = false := by
    rw [Bool.eq_false_iff]
    intro hany
    obtain ⟨q, hq, hqj⟩ := List.any_eq_true.1 hany
    have hmem : j ∈ st.init.popPairs.1.map (·.1) :=
      List.mem_map.2 ⟨q, hq, by simpa using hqj⟩
    rw [InitBuffer.popPairs_threads, List.mem_reverse] at hmem
    have hvac := (hinv.mem_iff j).1 (List.mem_of_mem_drop hmem)
    rw [hsl, Option.map_some, Option.some.injEq] at hvac
    rw [hvac] at ht
    cases ht
  have hasg := assignmentOf_isSome st.slots.size st.init.popPairs.1 j
  rw [hpair, Bool.and_false] at hasg
  have hnone : (assignmentOf st.slots.size st.init.popPairs.1).getD j none = none :=
    Option.not_isSome_iff_eq_none.1 (by rw [hasg]; decide)
  rcases initializeTracks_ok_cases hok with heq | ⟨hsweep, heq⟩ <;> rw [heq]
  · exact hsl
  · obtain ⟨a, -, hvisit⟩ := sweep_ok_visits _ _ _ _ _ hsweep
      (show ({ st with init := st.init.popPairs.2 } : CoreState).slots[j]? = some sl from hsl)
    rw [hvisit]
    unfold initKernel
    rw [hnone]

end Initialization

theorem startStep_slot (space : Space) (dispatch : Dispatch) {st : CoreState} {j : Nat}
    {sl : Slot} (hsl : st.slots[j]? = some sl) :
    (startStep space dispatch st).1.slots[j]? = some sl.startStep := by
  obtain ⟨a, -, h⟩ := sweep_ok_visits "pre-step" (fun _ s arena => (s.startStep, arena, none))
    space dispatch st (sweep_never_fails _ _ _ _ _ fun _ _ _ => rfl) hsl
  exact h

/-- The reset of an alive track that retries clears its deposition and outcome, and keeps
everything else, its step limit included. -/
theorem Slot.startStep_retry {s : Slot} (halive : s.isAlive = true) (hre : s.retry = true) :
    s.startStep = { s with deposition := 0.0, interaction := none } := by
  obtain ⟨ht, hst⟩ := Slot.isAlive_iff.1 halive
  have hnone : s.track.isNone = false := by
    rw [Option.isNone_eq_false_iff]
    exact ht
  unfold Slot.startStep
  simp [hnone, hst, hre]

theorem alongStepSweep_slot {p : Setup} {st : CoreState} (hok : (alongStepSweep p st).2 = none)
    {j : Nat} {sl : Slot} (hsl : st.slots[j]? = some sl) :
    (alongStep p sl).2 = none ∧ (alongStepSweep p st).1.slots[j]? = some (alongStep p sl).1 := by
  obtain ⟨a, hnone, h⟩ := sweep_ok_visits _ _ _ _ _ hok hsl
  exact ⟨hnone, h⟩

/-- The along-step of an alive track that retries, when it passes its checks, counts the
step, clears the flag and records a zero step: nothing is sampled and the track does not
move. -/
theorem alongStep_retry {p : Setup} {s : Slot} (halive : s.isAlive = true)
    (hre : s.retry = true) (hok : (alongStep p s).2 = none) :
    alongStep p s =
      ({ s with numSteps := s.numSteps + 1, retry := false, limit := { s.limit with step := 0.0 } },
        none) := by
  rcases alongStep_spec p s with ⟨hdead, -⟩ | ⟨e, -, -, h⟩ | ⟨-, -, h⟩ | ⟨-, hre', -⟩ |
    ⟨-, hre', -⟩
  · rw [halive] at hdead
    cases hdead
  · rw [h] at hok
    cases hok
  · exact h
  all_goals
    rw [hre] at hre'
    cases hre'

/-! ## The models -/

section Models

variable {p : Setup} {id : Nat} {m : Model} {i : Nat} {s : Slot} {a : Arena Secondary}

theorem modelKernel_ok_applies (halive : s.isAlive = true)
    (hact : s.limit.action = some (.interact id)) (h : (modelKernel p id m i s a).2.2 = none) :
    p.physics.applies id s.particle s.energy = true := by
  by_contra hno
  rw [Bool.not_eq_true] at hno
  unfold modelKernel at h
  simp [halive, hact, hno] at h

theorem modelKernel_ok_interact (halive : s.isAlive = true)
    (hact : s.limit.action = some (.interact id)) (h : (modelKernel p id m i s a).2.2 = none) :
    ∃ o, (m.interact s a).2.2 = .ok o ∧
      (modelKernel p id m i s a).1 = { (m.interact s a).1 with interaction := some o } := by
  have happ := modelKernel_ok_applies halive hact h
  rw [modelKernel_run p id m i a halive hact happ] at h ⊢
  rcases hr : m.interact s a with ⟨s', a', e | o⟩
  · rw [hr] at h
    cases h
  · exact ⟨o, rfl, rfl⟩

variable {j : Nat} {sl : Slot}

/-- The model sweeps from id `id` on leave alone a slot whose step limit names none of
their models. -/
theorem launchFrom_passes :
    ∀ {id : Nat} {ms : List Model} {st : CoreState}, (launchFrom p id ms st).2 = none →
      st.slots[j]? = some sl → (∀ k, id ≤ k → sl.limit.action ≠ some (.interact k)) →
      (launchFrom p id ms st).1.slots[j]? = some sl
  | _, [], _, _, hsl, _ => hsl
  | id, m :: ms, st, hok, hsl, hnot => by
    obtain ⟨st', hs, heq⟩ := launchFrom_cons_ok hok
    rw [heq] at hok ⊢
    obtain ⟨a, -, hslot⟩ := sweep_ok_visits m.label (modelKernel p id m) p.space p.dispatch st
      (by rw [hs]) hsl
    rw [hs, modelKernel_skip p id m j a (.inr (hnot id (Nat.le_refl id)))] at hslot
    exact launchFrom_passes hok hslot fun k hk => hnot k (by omega)

/-- The model sweeps from id `id` on run the model that limited an alive slot's step once,
on the slot as it came, and keep its outcome; the other sweeps leave the slot alone. -/
theorem launchFrom_runs :
    ∀ {id : Nat} {ms : List Model} {st : CoreState} {i : Nat} {mdl : Model},
      (launchFrom p id ms st).2 = none → st.slots[j]? = some sl → sl.isAlive = true →
      sl.limit.action = some (.interact (id + i)) → ms[i]? = some mdl →
      ∃ a o, (mdl.interact sl a).2.2 = .ok o ∧
        (launchFrom p id ms st).1.slots[j]? =
          some { (mdl.interact sl a).1 with interaction := some o }
  | _, [], _, _, _, _, _, _, _, hm => nomatch hm
  | id, m :: ms, st, i, mdl, hok, hsl, halive, hact, hm => by
    obtain ⟨st', hs, heq⟩ := launchFrom_cons_ok hok
    rw [heq] at hok ⊢
    obtain ⟨a, hnone, hslot⟩ := sweep_ok_visits m.label (modelKernel p id m) p.space p.dispatch st
      (by rw [hs]) hsl
    rw [hs] at hslot
    cases i with
    | zero =>
      -- this sweep is the slot's model: it runs, and the later sweeps pass the slot, whose
      -- limit still names this model
      obtain rfl : m = mdl := by simpa using hm
      rw [Nat.add_zero] at hact
      obtain ⟨o, hr, hk⟩ := modelKernel_ok_interact halive hact hnone
      rw [hk] at hslot
      refine ⟨a, o, hr, launchFrom_passes hok hslot fun k hk => ?_⟩
      dsimp only
      rw [Model.interact_limit, hact]
      simp only [ne_eq, Option.some.injEq, LimitAction.interact.injEq]
      omega
    | succ i =>
      rw [modelKernel_skip p id m j a (.inr (by rw [hact]; simp))] at hslot
      exact launchFrom_runs (i := i) hok hslot halive (by rw [hact]; congr 2; omega)
        (by simpa using hm)

end Models

/-! ## The step after a failed interaction -/

/-- **A failed interaction is retried.** In a run from a consistent stepper, let a slot end
a step alive with a failed outcome. The post-step marked it to retry, and its step limit
names a model `m`. In the next step, when it succeeds, the initialization leaves the slot
alone and the reset keeps its step limit. The along-step then counts the step, clears the
flag and records a zero step, with the position, direction, energy, volume, time, mean
free paths and stream unchanged. Of the models only `m` runs on the slot, once, on exactly
that state, and its outcome is kept: no distance is sampled and no other model is picked. -/
theorem failed_interaction_is_retried {s₀ s s' : Stepper}
    {issued : List (Nat × Nat × Initializer)} {cs : List Counters} {w w' : Watchers}
    {c : Counters} {j : Nat} {sl : Slot} {o : Interaction}
    (h₀ : s₀.Consistent) (hrun : Stepper.Run s₀ s issued cs)
    (hsl : s.state.slots[j]? = some sl) (halive : sl.isAlive = true)
    (hint : sl.interaction = some o) (hfailed : o.outcome = .failed)
    (hstep : s.step w = (s', w', .ok c)) :
    let reset : Slot := { sl with deposition := 0.0, interaction := none }
    let moved : Slot :=
      { reset with
        numSteps := sl.numSteps + 1, retry := false, limit := { sl.limit with step := 0.0 } }
    ∃ m mdl, sl.retry = true ∧ sl.limit.action = some (.interact m) ∧
      s.setup.physics.models[m]? = some mdl ∧
      (startStep s.setup.space s.setup.dispatch (initializeTracks s.setup.geometry
        s.setup.seed s.setup.space s.setup.dispatch s.state).1).1.slots[j]? = some reset ∧
      (s.state.moved s.setup).slots[j]? = some moved ∧
      ∃ a o', (mdl.interact moved a).2.2 = .ok o' ∧
        (s.state.launched s.setup).slots[j]? =
          some { (mdl.interact moved a).1 with interaction := some o' } := by
  intro reset moved
  have hs := Stepper.Run.consistent h₀ hrun
  obtain ⟨-, -, acts, n, active, st2, wm, k, st3, htr, -⟩ := Stepper.step_ok_eq hstep
  rw [hs.actions] at htr
  obtain ⟨hinit, halong, hmodels, -⟩ := transport_standard htr
  have hmem := Array.mem_of_getElem? hsl
  have hre : sl.retry = true := (hs.rearmed sl hmem).marked halive o hint hfailed
  obtain ⟨⟨m, hact⟩, hcov⟩ := (hs.rearmed sl hmem).covered halive hre
  obtain ⟨mdl, hmdl⟩ := hs.registered.exists_model sl.particle sl.energy (hcov m hact)
  have hreset : (startStep s.setup.space s.setup.dispatch (initializeTracks s.setup.geometry
      s.setup.seed s.setup.space s.setup.dispatch s.state).1).1.slots[j]? = some reset := by
    rw [startStep_slot _ _ (initializeTracks_occupied hs.vacancies hinit hsl
      (Slot.isAlive_iff.1 halive).1), Slot.startStep_retry halive hre]
  obtain ⟨hnone, hmoved⟩ := alongStepSweep_slot halong hreset
  rw [alongStep_retry (s := reset) halive hre hnone] at hmoved
  obtain ⟨a, o', hok, hlaunched⟩ := launchFrom_runs (i := m) hmodels hmoved halive
    (by rw [Nat.zero_add]; exact hact) (by rw [Array.getElem?_toList]; exact hmdl)
  exact ⟨m, mdl, hre, hact, hmdl, hreset, hmoved, a, o', hok, hlaunched⟩

/-- One alive track whose absorption failed, in a stepper that meets the run invariant: the
next step retries the absorption. -/
theorem failed_absorption_is_retried :
    let sl : Slot :=
      { Slot.vacant with
        energy := 1.0
        dir := ⟨1.0, 0.0, 0.0⟩
        volume := some 0
        retry := true
        track := some 0
        status := .alive
        limit := ⟨0.5, some (.interact 0)⟩
        interaction := some Interaction.failed }
    let s : Stepper :=
      { setup := { (default : Setup) with
          physics := PhysicsParams.ofModels [.absorption "absorption" ⟨[0], 0.0, 10.0⟩ 1.0] }
        pipeline := ⟨standardActions⟩
        state := ⟨#[sl], Arena.new 1, { InitBuffer.new 0 1 with nextTrack := 1 }⟩
        threads := none
        maxSteps := 2
        steps := 0
        disabled := false
        lastLabels := ⟨[], []⟩ }
    ∃ c, s.Consistent ∧ Stepper.Run s s [] [] ∧ s.state.slots[0]? = some sl ∧
      sl.isAlive = true ∧ sl.interaction = some Interaction.failed ∧
      Interaction.failed.outcome = .failed ∧
      s.step default = ((s.step default).1, (s.step default).2.1, .ok c) ∧
      let reset : Slot := { sl with deposition := 0.0, interaction := none }
      let moved : Slot :=
        { reset with numSteps := sl.numSteps + 1, retry := false, limit := { sl.limit with step := 0.0 } }
      ∃ m mdl, sl.retry = true ∧ sl.limit.action = some (.interact m) ∧
        s.setup.physics.models[m]? = some mdl ∧
        (startStep s.setup.space s.setup.dispatch (initializeTracks s.setup.geometry
          s.setup.seed s.setup.space s.setup.dispatch s.state).1).1.slots[0]? = some reset ∧
        (s.state.moved s.setup).slots[0]? = some moved ∧
        ∃ a o', (mdl.interact moved a).2.2 = .ok o' ∧
          (s.state.launched s.setup).slots[0]? =
            some { (mdl.interact moved a).1 with interaction := some o' } := by
  intro sl s
  have hcons : s.Consistent := by
    refine ⟨rfl, PhysicsParams.registered_ofModels _, ⟨by decide, fun i => ?_⟩, ?_, ?_⟩
    · cases i <;> simp [s, sl, InitBuffer.new]
    · intro x hx
      simp [s] at hx
      subst hx
      intro _
      exact ⟨rfl, by decide +kernel, rfl, by decide, by decide⟩
    · intro x hx
      simp [s] at hx
      subst hx
      refine ⟨fun _ _ _ _ => rfl, fun _ _ => ⟨⟨0, rfl⟩, fun m hm => ?_⟩⟩
      obtain rfl : 0 = m := by simpa [sl] using hm
      decide
  have hok : (s.step default).2.2.isOk = true := by decide +kernel
  obtain ⟨c, hc⟩ : ∃ c, (s.step default).2.2 = .ok c := by
    cases h : (s.step default).2.2 with
    | ok c => exact ⟨c, rfl⟩
    | error e =>
      rw [h] at hok
      cases hok
  have hstep : s.step default = ((s.step default).1, (s.step default).2.1, .ok c) := by
    rw [← hc]
  exact ⟨c, hcons, .start, rfl, rfl, rfl, rfl, hstep,
    failed_interaction_is_retried hcons .start rfl rfl rfl rfl hstep⟩

end Transport
