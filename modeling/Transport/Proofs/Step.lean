import Transport.Proofs.Occupancy
import Transport.Engine.Stepper
import Transport.Proofs.Latch
/-!
# The stages of a step

A step runs its stages in a fixed order, and any of them may fail. The lemmas here take a
successful step apart (`Stepper.step_ok_eq`): its stages succeeded (`Stepper.transport_ok`),
every watcher saw the mid-step, the harvest fitted, and its counts are read off the states
in between. Of the stages, only the initialization and cleanup change which slots hold a
track: the stages of actions fill and vacate nothing whatever they do, and change no
track's parent or event (`lineageFrame_runStage`), a successful initialization did what it
does on the host (`initializeTracks_ok_host`) and started as many tracks as it could pair
(`initializeTracks_ok_count`), and cleanup removes from the live tracks exactly those it
reclaims (`cleanup_numAlive`).
-/
namespace Transport

/-! ## The stages of a step -/

/-- The actions of a stage fill and vacate nothing, and change no track's parent or event,
whether they succeed or not. -/
theorem lineageFrame_runStage (p : Setup) (stage : Stage) :
    ∀ (acts : List Action) (st : CoreState), LineageFrame st (runStage p stage acts st).2.1
  | [], st => LineageFrame.refl st
  | a :: rest, st => by
    unfold runStage
    split
    · exact lineageFrame_runStage p stage rest st
    · have ha := lineageFrame_execute p a st
      split
      · rename_i a' st' e h
        rw [h] at ha
        exact ha
      · rename_i a' st' h
        rw [h] at ha
        exact ha.trans (lineageFrame_runStage p stage rest st')

theorem Stepper.transport_lineage {p : Setup} {acts acts' : List Action} {st st' : CoreState}
    {n active : Nat} (h : Stepper.transport p acts st = (acts', st', .ok (n, active))) :
    (initializeTracks p.geometry p.seed p.space p.dispatch st).2 = .ok n ∧
      active = (initializeTracks p.geometry p.seed p.space p.dispatch st).1.countOccupied ∧
      LineageFrame (initializeTracks p.geometry p.seed p.space p.dispatch st).1 st' := by
  unfold Stepper.transport at h
  split at h
  · cases h
  · rename_i st1 n' hinit
    rw [hinit]
    generalize hss : startStep p.space p.dispatch st1 = r0 at h
    obtain ⟨st2, e0⟩ := r0
    have h2 : LineageFrame st1 st2 := by
      simpa [hss] using lineageFrame_startStep p.space p.dispatch st1
    dsimp only at h
    generalize hpre : runStage p .preStep acts st2 = r1 at h
    obtain ⟨acts3, st3, _ | e1⟩ := r1
    · have h3 : LineageFrame st2 st3 := by
        simpa [hpre] using lineageFrame_runStage p .preStep acts st2
      dsimp only at h
      generalize halong : runStage p .alongStep acts3 st3 = r2 at h
      obtain ⟨acts4, st4, _ | e2⟩ := r2
      · have h4 : LineageFrame st3 st4 := by
          simpa [halong] using lineageFrame_runStage p .alongStep acts3 st3
        dsimp only at h
        generalize hmodels : launchModels p st4 = r3 at h
        obtain ⟨st5, _ | e3⟩ := r3
        · have h5 : LineageFrame st4 st5 := by
            simpa [hmodels] using lineageFrame_launchModels p st4
          dsimp only at h
          generalize hpost : runStage p .postStep acts4 st5 = r4 at h
          obtain ⟨acts6, st6, _ | e4⟩ := r4
          · have h6 : LineageFrame st5 st6 := by
              simpa [hpost] using lineageFrame_runStage p .postStep acts4 st5
            simp only [Prod.mk.injEq, Except.ok.injEq] at h
            obtain ⟨-, rfl, rfl, rfl⟩ := h
            exact ⟨rfl, rfl, h2.trans (h3.trans (h4.trans (h5.trans h6)))⟩
          · simp at h
        · simp at h
      · simp at h
    · simp at h

theorem Stepper.transport_ok {p : Setup} {acts acts' : List Action} {st st' : CoreState}
    {n active : Nat} (h : Stepper.transport p acts st = (acts', st', .ok (n, active))) :
    (initializeTracks p.geometry p.seed p.space p.dispatch st).2 = .ok n ∧
      active = (initializeTracks p.geometry p.seed p.space p.dispatch st).1.countOccupied ∧
      PopulationFrame (initializeTracks p.geometry p.seed p.space p.dispatch st).1 st' :=
  let ⟨hinit, hactive, hframe⟩ := Stepper.transport_lineage h
  ⟨hinit, hactive, hframe.population⟩

/-! ## Starting tracks -/

section Initialization

variable {g : Geometry} {seed : UInt64} {space : Space} {dispatch : Dispatch} {st : CoreState}
  {n : Nat}

/-- An initialization that succeeds on the device did what it does on the host. -/
theorem initializeTracks_ok_host (h : (initializeTracks g seed space dispatch st).2 = .ok n) :
    (initializeTracks g seed space dispatch st).1 =
      (initializeTracks g seed .host dispatch st).1 := by
  rw [initializeTracks_snd] at h
  rw [initializeTracks_fst, initializeTracks_fst]
  split
  · rfl
  · rename_i hne
    rw [if_neg hne] at h
    split at h
    · cases h
    · rename_i hs
      rw [sweep_ok_host _ _ _ _ _ hs]

/-- A successful initialization starts as many tracks as there are vacancies and pending
initializers to pair. -/
theorem initializeTracks_ok_count (h : (initializeTracks g seed space dispatch st).2 = .ok n) :
    n = min st.init.vacancies.size st.init.initializers.size := by
  rw [initializeTracks_snd] at h
  rw [← InitBuffer.popPairs_length]
  split at h
  · rename_i hempty
    cases h
    simp [List.isEmpty_iff.1 hempty]
  · split at h
    · cases h
    · cases h
      rfl

theorem initializeTracks_size :
    (initializeTracks g seed space dispatch st).1.slots.size = st.slots.size := by
  rw [initializeTracks_fst]
  split
  · rfl
  · rw [sweep_size]

theorem initializeTracks_numAlive (hv : st.init.vacancies.size ≤ st.slots.size)
    (h : (initializeTracks g seed space dispatch st).2 = .ok n) :
    (initializeTracks g seed space dispatch st).1.numAlive = st.numAlive + n := by
  have hn := initializeTracks_ok_count h
  have hvac : (initializeTracks g seed space dispatch st).1.init.vacancies.size =
      st.init.vacancies.size - n := by
    rw [initializeTracks_init, hn]
    simp [InitBuffer.popPairs]
  simp only [CoreState.numAlive, CoreState.capacity, initializeTracks_size, hvac]
  omega

theorem initializeTracks_numInitializers
    (h : (initializeTracks g seed space dispatch st).2 = .ok n) :
    (initializeTracks g seed space dispatch st).1.numInitializers = st.numInitializers - n := by
  simp only [CoreState.numInitializers, initializeTracks_init,
    InitBuffer.popPairs_initializers_size, initializeTracks_ok_count h]

theorem initializeTracks_ok_counts (hinv : VacancyInv st)
    (h : (initializeTracks g seed space dispatch st).2 = .ok n) :
    VacancyInv (initializeTracks g seed space dispatch st).1 ∧
      (initializeTracks g seed space dispatch st).1.slots.size = st.slots.size ∧
      n = min (st.slots.size - st.numAlive) st.numInitializers ∧
      (initializeTracks g seed space dispatch st).1.countOccupied = st.numAlive + n ∧
      (initializeTracks g seed space dispatch st).1.numInitializers = st.numInitializers - n := by
  have hinv' := initializeTracks_ok_host h ▸ hinv.initializeTracks _ _ _
  have hn := initializeTracks_ok_count h
  have hvac := hinv.vacancies_le
  refine ⟨hinv', initializeTracks_size, ?_, ?_, initializeTracks_numInitializers h⟩
  · simp only [CoreState.numAlive, CoreState.capacity, CoreState.numInitializers]
    omega
  · rw [← hinv'.numAlive_eq, initializeTracks_numAlive hvac h]

end Initialization

/-! ## Queuing the survivors -/

theorem extendFromSecondaries_ok_counts {cutoffs : CutoffTable} {st st' : CoreState} {k : Nat}
    (h : extendFromSecondaries cutoffs st = .ok (k, st')) :
    st'.slots = st.slots ∧ st'.init.vacancies = st.init.vacancies ∧
      st'.numInitializers = st.numInitializers + k := by
  obtain ⟨rfl, rfl⟩ := extendFromSecondaries_ok h
  simp [CoreState.numInitializers]

/-! ## Reclaiming slots -/

/-- Cleanup removes the tracks it reclaims from the live ones, and keeps the pending
initializers. -/
theorem cleanup_numAlive (st : CoreState) :
    (cleanup st).1.numAlive = st.numAlive - (cleanup st).2 := by
  have hv := congrArg List.length (cleanup_vacancies st)
  simp only [Array.length_toList, List.length_append] at hv
  simp only [CoreState.numAlive, CoreState.capacity, cleanup_size, hv, cleanup_count]
  omega

theorem cleanup_numInitializers (st : CoreState) :
    (cleanup st).1.numInitializers = st.numInitializers := by
  simp only [CoreState.numInitializers, cleanup_initializers]

/-! ## A successful step -/

/-- A successful step, taken apart: the stepper was enabled and within budget, its stages
succeeded, every watcher saw the mid-step, the harvest fitted, and the counts are read off
the states in between. -/
theorem Stepper.step_ok_eq {s s' : Stepper} {w w' : Watchers} {c : Counters}
    (h : s.step w = (s', w', .ok c)) :
    s.disabled = false ∧ s.steps < s.maxSteps ∧
    ∃ acts n active st2 wm k st3,
      Stepper.transport s.setup s.pipeline.actions s.state = (acts, st2, .ok (n, active)) ∧
      w.midStep s.setup st2 = (wm, true) ∧
      extendFromSecondaries s.setup.cutoffs st2 = .ok (k, st3) ∧
      s'.state = (cleanup st3).1 ∧ s'.steps = s.steps + 1 ∧ s'.maxSteps = s.maxSteps ∧
      s'.disabled = false ∧ w' = wm.endStep (cleanup st3).1 ∧
      c = { step := s.steps, active, initialized := n, alive := (cleanup st3).1.numAlive,
            pending := (cleanup st3).1.numInitializers, secondaries := st2.secondaries.size,
            promoted := k, killed := (cleanup st3).2,
            failedInteractions := Stepper.failedInteractions st2,
            arenaExhausted := st2.secondaries.isExhausted } := by
  unfold Stepper.step at h
  split at h
  · cases h
  rename_i hdis
  split at h
  · cases h
  rename_i hbudget
  split at h
  · rename_i s1 w1 c1 hexec
    simp only [Prod.mk.injEq, Except.ok.injEq] at h
    obtain ⟨rfl, rfl, rfl⟩ := h
    refine ⟨by simpa using hdis, by omega, ?_⟩
    rw [Stepper.execute] at hexec
    generalize htr : Stepper.transport s.setup s.pipeline.actions s.state = tr at hexec
    obtain ⟨acts, st2, _ | ⟨n, active⟩⟩ := tr
    · cases hexec
    · dsimp only at hexec
      split at hexec
      · cases hexec
      · rename_i wm hmid
        split at hexec
        · cases hexec
        · rename_i k st3 hext
          simp only [Prod.mk.injEq, Except.ok.injEq] at hexec
          obtain ⟨rfl, rfl, rfl⟩ := hexec
          exact ⟨acts, n, active, st2, wm, k, st3, rfl, hmid, hext, rfl, rfl, rfl,
            by simpa using hdis, rfl, rfl⟩
  · cases h

end Transport
