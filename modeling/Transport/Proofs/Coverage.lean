import Transport.Proofs.Bookkeeping
import Transport.Proofs.LiveTracks
import Transport.Proofs.Selection
/-!
# Every interaction in its model's range

A model's kernel checks a slot against the model's registered range before it runs the
model, and reports `noApplicableModel` when the check fails. In a run with the standard
actions the check never fails: the along-step limits a step by an interaction only with
the model `selectModel` picks at the energy the track keeps, and a track that retries an
interaction keeps its energy and the limit of the interaction it retries.

* `Slot.Covered`: the model a slot's limit names covers the slot.
* `Slot.Rearmed`, between steps: an alive track whose interaction failed is marked to retry
  it, and one marked to retry carries the limit of an interaction with a model that covers
  it. `Slot.Armed`, from the along-step to the post-step: an alive track is not marked, is
  covered, and holds an outcome only of the model its limit names.
* One lemma per stage (`initializeTracks_rearmed`, `startStep_rearmed`,
  `alongStepSweep_armed`, `launchFrom_armed`, `processSweep_rearmed`, `cleanup_rearmed`),
  gathered in the run invariant `Stepper.Consistent` (`Stepper.Consistent.step`,
  `Stepper.Run.consistent`).
* `modelKernel_run`: on an alive slot whose step it limited, in its range, a model's kernel
  runs the model, so it fails only with the model's own error.
* `selected_models_apply`: the whole statement, over every run from a fresh load.
-/
namespace Transport

/-- The model a slot's limit names, if any, covers the slot's particle and energy. -/
def Slot.Covered (p : PhysicsParams) (s : Slot) : Prop :=
  ∀ m, s.limit.action = some (.interact m) → p.applies m s.particle s.energy = true

/-- Between steps: an alive track whose interaction failed is marked to retry it, and an
alive track marked to retry carries the limit of an interaction with a model that covers
it. -/
structure Slot.Rearmed (p : PhysicsParams) (s : Slot) : Prop where
  marked : s.isAlive = true → ∀ o, s.interaction = some o → o.outcome = .failed → s.retry = true
  covered : s.isAlive = true → s.retry = true →
    (∃ m, s.limit.action = some (.interact m)) ∧ s.Covered p

/-- From the along-step to the post-step: an alive track is not marked to retry, is
covered, and holds an outcome only where its limit names a model. -/
def Slot.Armed (p : PhysicsParams) (s : Slot) : Prop :=
  s.isAlive = true → s.retry = false ∧ s.Covered p ∧
    (s.interaction.isSome = true → ∃ m, s.limit.action = some (.interact m))

/-! ## The models' kernels -/

section Kernel

variable (p : Setup) (id : Nat) (m : Model) (i : Nat) (a : Arena Secondary)

theorem Model.interact_error (s : Slot) {e : TrackError} (h : (m.interact s a).2.2 = .error e) :
    ∃ label reason, e = .model label reason := by
  cases m <;> simp only [Model.interact] at h <;> (repeat' split at h) <;>
    first | exact ⟨_, _, (Except.error.inj h).symm⟩ | cases h

theorem modelKernel_skip {s : Slot}
    (h : s.isAlive = false ∨ s.limit.action ≠ some (.interact id)) :
    modelKernel p id m i s a = (s, a, none) := by
  unfold modelKernel
  rw [if_pos]
  rcases h with h | h
  · simp [h]
  · simp [h]

/-- On an alive slot whose step it limited, in its range, a model's kernel runs the model:
the slot takes the outcome, or the kernel fails with the model's error. -/
theorem modelKernel_run {s : Slot} (halive : s.isAlive = true)
    (hact : s.limit.action = some (.interact id))
    (happ : p.physics.applies id s.particle s.energy = true) :
    modelKernel p id m i s a =
      match m.interact s a with
      | (s', a', .ok o) => ({ s' with interaction := some o }, a', none)
      | (s', a', .error e) => (s', a', some e) := by
  unfold modelKernel
  rw [if_neg (by simp [halive, hact]), if_neg (by simp [happ])]
  rcases m.interact s a with ⟨s', a', _ | _⟩ <;> rfl

theorem modelKernel_interaction (s : Slot) :
    (modelKernel p id m i s a).1.interaction = s.interaction ∨
      s.limit.action = some (.interact id) := by
  by_cases hact : s.limit.action = some (.interact id)
  · exact .inr hact
  · rw [modelKernel_skip p id m i a (.inr hact)]
    exact .inl rfl

theorem modelKernel_applicable {s : Slot} (halive : s.isAlive = true)
    (hact : s.limit.action = some (.interact id))
    (happ : p.physics.applies id s.particle s.energy = true) (x : Nat) (y : Float) :
    (modelKernel p id m i s a).2.2 ≠ some (.noApplicableModel x y) := by
  rw [modelKernel_run p id m i a halive hact happ]
  rcases hr : m.interact s a with ⟨s', a', e | o⟩
  · obtain ⟨label, reason, rfl⟩ := Model.interact_error m a s (by rw [hr])
    simp
  · simp

end Kernel

/-! ## The stages of a step -/

variable {p : PhysicsParams}

theorem initKernel_rearmed {g : Geometry} {base : Random.Stream}
    {asg : Array (Option (Nat × Initializer))} {i : Nat} {s : Slot} {a : Arena Secondary}
    (hs : s.Rearmed p) : (initKernel g base asg i s a).1.Rearmed p := by
  unfold initKernel
  split
  · exact hs
  · -- a slot just filled holds a track that is not alive yet
    split <;> exact ⟨fun h => by simp [Slot.isAlive, Slot.fill] at h,
      fun h => by simp [Slot.isAlive, Slot.fill] at h⟩

theorem initializeTracks_rearmed {g : Geometry} {seed : UInt64} {space : Space}
    {dispatch : Dispatch} {st : CoreState} {n : Nat}
    (hok : (initializeTracks g seed space dispatch st).2 = .ok n) (h : ∀ s ∈ st.slots, s.Rearmed p) :
    ∀ s ∈ (initializeTracks g seed space dispatch st).1.slots, s.Rearmed p := by
  rcases initializeTracks_ok_cases hok with heq | ⟨hsweep, heq⟩ <;> rw [heq]
  · exact h
  · exact sweep_ok_preserves _ _ _ _ _ hsweep (fun _ _ _ hs _ => initKernel_rearmed hs) h

/-- The reset keeps a filled slot rearmed: a track it turns alive was just filled and
retries nothing, and a track that retries keeps its limit. -/
theorem Slot.Filled.startStep_rearmed {c : CutoffTable} {s : Slot} (hf : s.Filled c)
    (hs : s.Rearmed p) : s.startStep.Rearmed p := by
  unfold Slot.startStep
  split
  · exact hs
  · rename_i hsome
    have ht : s.track.isSome = true := Option.isSome_iff_ne_none.2 (by simpa using hsome)
    refine ⟨fun _ o ho => by simp at ho, fun _ hre => ?_⟩
    simp only at hre
    rcases hf ht with ⟨ha, -⟩ | ⟨-, hr, -, -⟩
    · simpa [Slot.Covered, hre, ha] using hs.covered (Slot.isAlive_iff.2 ⟨ht, ha⟩) hre
    · rw [hr] at hre
      cases hre

theorem startStep_rearmed (space : Space) (dispatch : Dispatch) {c : CutoffTable}
    {st : CoreState} (h : ∀ s ∈ st.slots, s.Filled c ∧ s.Rearmed p) :
    ∀ s ∈ (startStep space dispatch st).1.slots, s.Rearmed p :=
  sweep_ok_forall _ _ _ _ _ (fun _ _ => rfl) (sweep_never_fails _ _ _ _ _ fun _ _ _ => rfl)
    (fun _ _ hs _ => hs.1.startStep_rearmed hs.2) h

theorem alongStep_armed {p : Setup} {s : Slot} (hs : s.Rearmed p.physics)
    (hnone : s.isAlive = true → s.interaction = none) (hok : (alongStep p s).2 = none) :
    (alongStep p s).1.Armed p.physics := by
  rcases alongStep_spec p s with ⟨hdead, h⟩ | ⟨e, -, -, h⟩ | ⟨halive, hre, h⟩ |
    ⟨-, -, n, r, l, h⟩ | ⟨halive, hre, n, r, nv, hit, xs, mfp, dedx, step, cause, h⟩ <;>
    rw [h] at hok ⊢
  · intro ha
    rw [hdead] at ha
    cases ha
  · cases hok
  · intro _
    obtain ⟨⟨m, hm⟩, hcov⟩ := hs.covered halive hre
    exact ⟨rfl, hcov, fun _ => ⟨m, hm⟩⟩
  · intro ha
    simp [Slot.kill, Slot.isAlive] at ha
  · intro _
    obtain ⟨hretry, hsel⟩ := Slot.finishStep_limit p _ hit xs mfp dedx step cause
    obtain ⟨hkept, hparticle, -, -⟩ := Slot.finishStep_spec p _ hit xs mfp dedx step cause
    refine ⟨hretry.trans hre, fun m hm => ?_, fun hi => ?_⟩
    · obtain ⟨u, hu⟩ := hsel m hm
      rw [hparticle]
      exact (p.physics.selectModel_some _ _ hu).2
    · -- the step keeps the slot's outcome, and there is none
      have hint := congrArg Prod.snd (Slot.holding_of_kept hkept)
      simp only [Slot.holding] at hint
      rw [hint, hnone halive] at hi
      cases hi

theorem alongStepSweep_armed {p : Setup} {st : CoreState} (hok : (alongStepSweep p st).2 = none)
    (h : ∀ s ∈ st.slots, s.Rearmed p.physics ∧ (s.isAlive = true → s.interaction = none)) :
    ∀ s ∈ (alongStepSweep p st).1.slots, s.Armed p.physics :=
  sweep_ok_forall _ _ _ _ _ (fun _ _ => rfl) hok (fun _ _ hs hv => alongStep_armed hs.1 hs.2 hv) h

theorem modelKernel_armed {p : Setup} {id : Nat} {m : Model} {i : Nat} {s : Slot}
    {a : Arena Secondary} (hs : s.Armed p.physics) : (modelKernel p id m i s a).1.Armed p.physics := by
  have hint := modelKernel_interaction p id m i a s
  obtain ⟨rng, o, hk⟩ := modelKernel_eq p id m i s a
  rw [hk] at hint ⊢
  intro ha
  obtain ⟨hre, hcov, hlim⟩ := hs ha
  refine ⟨hre, hcov, fun hi => ?_⟩
  rcases hint with h | h
  · exact hlim (h ▸ hi)
  · exact ⟨id, h⟩

theorem launchFrom_armed {p : Setup} :
    ∀ {id : Nat} {ms : List Model} {st : CoreState}, (∀ s ∈ st.slots, s.Armed p.physics) →
      (launchFrom p id ms st).2 = none → ∀ s ∈ (launchFrom p id ms st).1.slots, s.Armed p.physics
  | _, [], _, h, _ => h
  | id, m :: ms, st, h, hok => by
    obtain ⟨st', hs, heq⟩ := launchFrom_cons_ok hok
    rw [heq] at hok ⊢
    have hsweep := sweep_ok_preserves m.label (modelKernel p id m) p.space p.dispatch st
      (P := fun s => s.Armed p.physics) (by rw [hs]) (fun _ _ _ hs _ => modelKernel_armed hs) h
    rw [hs] at hsweep
    exact launchFrom_armed hsweep hok

theorem applyOutcome_failed {s : Slot} {o : Interaction} (h : o.outcome = .failed) :
    applyOutcome s o = .ok { s with retry := true } := by
  unfold applyOutcome
  rw [h]

theorem processInteraction_rearmed {p : Setup} {s : Slot} {a : Arena Secondary}
    (hs : s.Armed p.physics) (hok : (processInteraction p s a).2 = none) :
    (processInteraction p s a).1.Rearmed p.physics := by
  rcases processInteraction_spec p s a with ⟨hnone, h⟩ | ⟨e, h⟩ |
    ⟨o, u, halive, ho, hu, ⟨-, h⟩ | ⟨-, h⟩⟩ <;> rw [h] at hok ⊢
  · -- left alone: an alive track holds no outcome, and is not marked
    refine ⟨fun ha o' ho' _ => ?_, fun ha hre => ?_⟩
    · rcases hnone with hd | hn
      · rw [hd] at ha
        cases ha
      · rw [hn] at ho'
        cases ho'
    · rw [(hs ha).1] at hre
      cases hre
  · cases hok
  · refine ⟨fun ha => ?_, fun ha => ?_⟩ <;> simp [Slot.kill, Slot.isAlive] at ha
  · obtain ⟨hre, hcov, hlim⟩ := hs halive
    have hu_int : u.interaction = some o := by
      rw [← ho]
      exact congrArg Prod.snd (Slot.holding_of_kept (applyOutcome_kept hu))
    refine ⟨fun _ o' ho' hf => ?_, fun ha hr => ?_⟩
    · simp only at ho'
      rw [hu_int, Option.some.injEq] at ho'
      subst ho'
      rw [applyOutcome_failed hf, Except.ok.injEq] at hu
      rw [← hu]
    · -- only a failed outcome marks the track; it keeps the limit, particle and energy
      simp only at hr ha ⊢
      rcases applyOutcome_ok hu with rfl | ⟨-, -, rfl⟩ | rfl | rfl
      · rw [hre] at hr
        cases hr
      · rw [hre] at hr
        cases hr
      · simp [Slot.kill, Slot.isAlive] at ha
      · exact ⟨hlim (by rw [ho]; rfl), hcov⟩

theorem processSweep_rearmed {p : Setup} {st : CoreState} (hok : (processSweep p st).2 = none)
    (h : ∀ s ∈ st.slots, s.Armed p.physics) :
    ∀ s ∈ (processSweep p st).1.slots, s.Rearmed p.physics :=
  sweep_ok_forall _ _ _ _ _ (fun _ _ => rfl) hok (fun _ _ hs hv => processInteraction_rearmed hs hv) h

theorem cleanup_rearmed {st : CoreState} (h : ∀ s ∈ st.slots, s.Rearmed p) :
    ∀ s ∈ (cleanup st).1.slots, s.Rearmed p := by
  intro s hs
  obtain ⟨j, hj⟩ := Array.mem_iff_getElem?.1 hs
  rw [cleanup_slots] at hj
  obtain ⟨s₀, hs₀, rfl⟩ := Option.map_eq_some_iff.1 hj
  split
  · -- a vacated slot holds no track
    exact ⟨fun ha => by simp [Slot.vacate, Slot.isAlive] at ha,
      fun ha => by simp [Slot.vacate, Slot.isAlive] at ha⟩
  · exact h s₀ (Array.mem_of_getElem? hs₀)

/-! ## A run -/

/-- What every state of a run keeps between steps, with the standard actions and models
registered with their own ranges: the vacancy stack lists the empty slots, and every slot
is live and rearmed. -/
structure Stepper.Consistent (s : Stepper) : Prop where
  actions : s.pipeline.actions = standardActions
  registered : s.setup.physics.Registered
  vacancies : VacancyInv s.state
  live : ∀ sl ∈ s.state.slots, sl.Live s.setup.cutoffs
  rearmed : ∀ sl ∈ s.state.slots, sl.Rearmed s.setup.physics

theorem Stepper.Consistent.moved_armed {s : Stepper} (hs : s.Consistent) {n : Nat}
    (hinit : (initializeTracks s.setup.geometry s.setup.seed s.setup.space s.setup.dispatch
      s.state).2 = .ok n)
    (halong : (alongStepSweep s.setup (startStep s.setup.space s.setup.dispatch
      (initializeTracks s.setup.geometry s.setup.seed s.setup.space s.setup.dispatch
        s.state).1).1).2 = none) :
    ∀ sl ∈ (s.state.moved s.setup).slots, sl.Armed s.setup.physics := by
  have hfilled := initializeTracks_filled hinit hs.live
  have hinit' := initializeTracks_rearmed hinit hs.rearmed
  have hreset := startStep_rearmed s.setup.space s.setup.dispatch
    fun sl hsl => ⟨hfilled sl hsl, hinit' sl hsl⟩
  refine alongStepSweep_armed halong fun sl hsl => ⟨hreset sl hsl, fun ha => ?_⟩
  exact startStep_no_outcome _ _ _ sl hsl (Slot.isAlive_iff.1 ha).1

theorem Stepper.Consistent.step {s s' : Stepper} {w w' : Watchers} {c : Counters}
    (hs : s.Consistent) (h : s.step w = (s', w', .ok c)) : s'.Consistent := by
  obtain ⟨-, -, acts, n, active, st2, wm, k, st3, htr, -, hext, hstate, -⟩ := Stepper.step_ok_eq h
  obtain ⟨hlive, hsetup, hacts⟩ := Stepper.step_live hs.actions hs.live h
  rw [hs.actions] at htr
  obtain ⟨hinit, halong, hmodels, hpost, rfl, rfl⟩ := transport_standard htr
  have hlaunched := launchFrom_armed (hs.moved_armed hinit halong) hmodels
  have hstaged := processSweep_rearmed hpost hlaunched
  obtain ⟨rfl, -⟩ := extendFromSecondaries_ok hext
  refine ⟨hacts, hsetup ▸ hs.registered, (Stepper.step_balanced hs.vacancies h).1,
    hsetup ▸ hlive, ?_⟩
  rw [hstate, hsetup]
  exact cleanup_rearmed hstaged

theorem Stepper.Run.consistent {s₀ s : Stepper} {issued : List (Nat × Nat × Initializer)}
    {cs : List Counters} (h₀ : s₀.Consistent) (hrun : Stepper.Run s₀ s issued cs) :
    s.Consistent := by
  induction hrun with
  | start => exact h₀
  | step _ hs ih => exact ih.step hs

theorem Stepper.loadPrimaries_consistent {n ic ac : Nat} {ps : List Primary} {s₀ s₁ : Stepper}
    (hstd : s₀.pipeline.actions = standardActions) (hreg : s₀.setup.physics.Registered)
    (hfresh : CoreState.new n ic ac = some s₀.state) (hload : s₀.loadPrimaries ps = .ok s₁) :
    s₁.Consistent := by
  obtain ⟨hlive, hsetup, hpipe⟩ := Stepper.loadPrimaries_live hfresh hload
  obtain ⟨hvacant, -, -⟩ := CoreState.new_unissued hfresh
  have hinv := (vacancyInv_new hfresh).1
  unfold Stepper.loadPrimaries at hload
  split at hload
  · rename_i init hext
    cases hload
    unfold InitBuffer.extendFromPrimaries at hext
    dsimp only at hext
    split at hext
    · cases hext
    · cases hext
      refine ⟨hstd, hreg, hinv.congr rfl fun _ => rfl, hlive, fun sl hsl => ?_⟩
      obtain ⟨i, hi⟩ := Array.mem_iff_getElem?.1 hsl
      have hdead : sl.isAlive = false := by simp [Slot.isAlive, hvacant i sl hi]
      exact ⟨fun ha => absurd ha (by simp [hdead]), fun ha => absurd ha (by simp [hdead])⟩
  · cases hload

/-! ## Selected models apply, over a run -/

/-- **A selected model always applies.** For every physics, a model is picked exactly when
the total cross section is positive, and the model picked has a positive cross section and
covers the track. Take a run from a consistent stepper, as every fresh stepper with the
standard actions and models registered with their own ranges is once primaries are loaded.
Once the next step's initialization and along-step succeed, every alive slot handed to the
models whose step is limited by an interaction with model `m` is in `m`'s range, retried
interactions included. On such a slot a model's kernel never fails for want of an
applicable model, and the pair model's threshold test does not fire; a slot that is not
alive is left alone by every model. -/
theorem selected_models_apply {s₀ s : Stepper} {issued : List (Nat × Nat × Initializer)}
    {cs : List Counters} (h₀ : s₀.Consistent) (hrun : Stepper.Run s₀ s issued cs) :
    (∀ (q : PhysicsParams) (particle : Nat) (energy u : Float),
      ((q.selectModel particle energy u).isSome = true ↔ 0.0 < q.totalXs particle energy) ∧
      ∀ m, q.selectModel particle energy u = some m →
        0.0 < q.modelXs m particle energy ∧ q.applies m particle energy = true) ∧
    (∀ k, (initializeTracks s.setup.geometry s.setup.seed s.setup.space s.setup.dispatch
        s.state).2 = .ok k →
      (alongStepSweep s.setup (startStep s.setup.space s.setup.dispatch
        (initializeTracks s.setup.geometry s.setup.seed s.setup.space s.setup.dispatch
          s.state).1).1).2 = none →
      ∀ sl ∈ (s.state.moved s.setup).slots, sl.isAlive = true → ∀ m,
        sl.limit.action = some (.interact m) →
        s.setup.physics.applies m sl.particle sl.energy = true) ∧
    (∀ (id : Nat) (mdl : Model) (i : Nat) (sl : Slot) (a : Arena Secondary),
      sl.isAlive = true → sl.limit.action = some (.interact id) →
      s.setup.physics.applies id sl.particle sl.energy = true →
      (∀ x y, (modelKernel s.setup id mdl i sl a).2.2 ≠ some (.noApplicableModel x y)) ∧
      ∀ g el po xs, s.setup.physics.models[id]? = some (.pair g el po xs) →
        ¬ (sl.energy - 2.0 * electronMass < 0.0)) ∧
    (∀ (id : Nat) (mdl : Model) (i : Nat) (sl : Slot) (a : Arena Secondary),
      sl.isAlive = false → modelKernel s.setup id mdl i sl a = (sl, a, none)) ∧
    (∀ (n ic ac : Nat) (ps : List Primary) (t₀ t₁ : Stepper),
      t₀.pipeline.actions = standardActions → t₀.setup.physics.Registered →
      CoreState.new n ic ac = some t₀.state → t₀.loadPrimaries ps = .ok t₁ → t₁.Consistent) := by
  have hs := Stepper.Run.consistent h₀ hrun
  refine ⟨fun q particle energy u => ⟨q.selectModel_isSome_iff particle energy u,
      fun m hm => q.selectModel_some particle energy hm⟩,
    fun k hinit halong sl hsl ha m hm => ((hs.moved_armed hinit halong) sl hsl ha).2.1 m hm,
    fun id mdl i sl a ha hact happ => ⟨modelKernel_applicable s.setup id mdl i a ha hact happ,
      fun g el po xs hm => hs.registered.pair_above_threshold sl.particle sl.energy hm happ⟩,
    fun id mdl i sl a hdead => modelKernel_skip s.setup id mdl i a (.inl hdead),
    fun _ _ _ _ _ _ hstd hreg hfresh hload =>
      Stepper.loadPrimaries_consistent hstd hreg hfresh hload⟩

/-- One alive track retrying an emission of two children into an arena of one cell. Its
retry is refused again, so after the step it is still marked to retry with its limit at the
emitter, and the next step hands it to the emitter, whose range covers it. -/
theorem selected_models_apply_to_a_refused_emission :
    let sl : Slot :=
      { Slot.vacant with
        energy := 1.0
        dir := ⟨1.0, 0.0, 0.0⟩
        volume := some 0
        retry := true
        track := some 0
        status := .alive
        limit := ⟨0.5, some (.interact 0)⟩
        interaction := some Interaction.failed }
    let s₀ : Stepper :=
      { setup := { (default : Setup) with physics := PhysicsParams.ofModels [.emit 0 1 2 1.0] }
        pipeline := ⟨standardActions⟩
        state := ⟨#[sl], Arena.new 1, { InitBuffer.new 0 1 with nextTrack := 1 }⟩
        threads := none
        maxSteps := 3
        steps := 0
        disabled := false
        lastLabels := ⟨[], []⟩ }
    ∃ (s : Stepper) (c : Counters), s₀.Consistent ∧ Stepper.Run s₀ s [] [c] ∧
      c.failedInteractions = 1 ∧
      (s.state.moved s.setup).slots.toList.map (fun t => (t.isAlive, t.limit.action)) =
        [(true, some (.interact 0))] ∧
      (∀ (q : PhysicsParams) (particle : Nat) (energy u : Float),
        ((q.selectModel particle energy u).isSome = true ↔ 0.0 < q.totalXs particle energy) ∧
        ∀ m, q.selectModel particle energy u = some m →
          0.0 < q.modelXs m particle energy ∧ q.applies m particle energy = true) ∧
      (∀ k, (initializeTracks s.setup.geometry s.setup.seed s.setup.space s.setup.dispatch
          s.state).2 = .ok k →
        (alongStepSweep s.setup (startStep s.setup.space s.setup.dispatch
          (initializeTracks s.setup.geometry s.setup.seed s.setup.space s.setup.dispatch
            s.state).1).1).2 = none →
        ∀ sl ∈ (s.state.moved s.setup).slots, sl.isAlive = true → ∀ m,
          sl.limit.action = some (.interact m) →
          s.setup.physics.applies m sl.particle sl.energy = true) ∧
      (∀ (id : Nat) (mdl : Model) (i : Nat) (sl : Slot) (a : Arena Secondary),
        sl.isAlive = true → sl.limit.action = some (.interact id) →
        s.setup.physics.applies id sl.particle sl.energy = true →
        (∀ x y, (modelKernel s.setup id mdl i sl a).2.2 ≠ some (.noApplicableModel x y)) ∧
        ∀ g el po xs, s.setup.physics.models[id]? = some (.pair g el po xs) →
          ¬ (sl.energy - 2.0 * electronMass < 0.0)) ∧
      (∀ (id : Nat) (mdl : Model) (i : Nat) (sl : Slot) (a : Arena Secondary),
        sl.isAlive = false → modelKernel s.setup id mdl i sl a = (sl, a, none)) ∧
      (∀ (n ic ac : Nat) (ps : List Primary) (t₀ t₁ : Stepper),
        t₀.pipeline.actions = standardActions → t₀.setup.physics.Registered →
        CoreState.new n ic ac = some t₀.state → t₀.loadPrimaries ps = .ok t₁ → t₁.Consistent) := by
  intro sl s₀
  have hcons : s₀.Consistent := by
    refine ⟨rfl, PhysicsParams.registered_ofModels _, ⟨by decide, fun i => ?_⟩, ?_, ?_⟩
    · cases i <;> simp [s₀, sl, InitBuffer.new]
    · intro x hx
      simp [s₀] at hx
      subst hx
      intro _
      exact ⟨rfl, by decide +kernel, rfl, by decide, by decide⟩
    · intro x hx
      simp [s₀] at hx
      subst hx
      refine ⟨fun _ _ _ _ => rfl, fun _ _ => ⟨⟨0, rfl⟩, fun m hm => ?_⟩⟩
      obtain rfl : 0 = m := by simpa [sl] using hm
      decide
  obtain ⟨c, hc⟩ := Except.exists_eq_ok_of_isOk
    (show (s₀.step default).2.2.isOk = true by decide +kernel)
  have hrun : Stepper.Run s₀ (s₀.step default).1 ([] ++ s₀.state.init.popPairs.1) ([] ++ [c]) :=
    .step .start (Stepper.step_eq_of_result hc)
  have hfailed : c.failedInteractions = 1 := by
    have h : (s₀.step default).2.2.toOption.map Counters.failedInteractions = some 1 := by
      decide +kernel
    simpa [hc, Except.toOption] using h
  have hmoved : (((s₀.step default).1.state.moved (s₀.step default).1.setup).slots.toList.map
      fun t => (t.isAlive, t.limit.action)) = [(true, some (.interact 0))] := by
    decide +kernel
  exact ⟨_, c, hcons, hrun, hfailed, hmoved, selected_models_apply hcons hrun⟩

end Transport
