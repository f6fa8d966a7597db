import Transport.Proofs.Lineage
import Transport.Proofs.Secondaries
/-!
# The kinematics of live tracks

A step moves a track only after checking it: the initialization checks a new track's
energy, direction and position, the along-step checks energy, direction and volume again
before it moves the track, and the post-step checks the energy and direction an
interaction gives it. Between the checks, each stage that changes a track either stops it
or leaves it in a state the next stage accepts.

Each stage of a step with the standard actions is described by what it guarantees of every
occupied slot (`Slot.Live` between steps, then `Slot.Filled`, `Slot.Ready` and
`Slot.Settled`), and one lemma per stage carries the slots from one description to the next.
Between steps, every occupied slot holds an alive track. Its direction passes `isUnit`, it
has a volume, and its energy is taken as spent by neither stopping test (`Slot.Moving`).

The tests compare floats, and the energy that passes them need not be finite: a step whose
length overflows the energy loss leaves a track alive with an infinite energy, and the next
along-step fails on it with `invalidEnergy`. What the tests do exclude is the along-step
failing on an occupied slot for its direction or its volume
(`checkKinematics_fails_on_energy`).
-/
namespace Transport

section Predicates

variable (c : CutoffTable)

/-- A track the along-step can move: a direction that passes `isUnit`, a volume, and an
energy that neither stopping test takes as spent, not `≤ 0` and not below the tracking
cutoff of its particle. -/
structure Slot.Moving (s : Slot) : Prop where
  unit : s.dir.isUnit = true
  located : s.volume.isSome = true
  not_spent : ¬ s.energy ≤ 0.0
  not_below : ¬ s.energy < (c.get s.particle).tracking

/-- Between steps: an occupied slot holds an alive track that can move. -/
def Slot.Live (s : Slot) : Prop :=
  s.track.isSome → s.status = .alive ∧ s.Moving c

/-- After the initialization: an occupied slot is live, or holds a track just filled, with
nothing to retry, a unit direction and a volume. -/
def Slot.Filled (s : Slot) : Prop :=
  s.track.isSome → (s.status = .alive ∧ s.Moving c) ∨
    (s.status = .initializing ∧ s.retry = false ∧ s.dir.isUnit = true ∧ s.volume.isSome = true)

/-- After the reset of a step: an occupied slot is alive with a unit direction and a volume,
and can move as it is if it retries its interaction. -/
def Slot.Ready (s : Slot) : Prop :=
  s.track.isSome → s.status = .alive ∧ s.dir.isUnit = true ∧ s.volume.isSome = true ∧
    (s.retry = true → s.Moving c)

/-- From the along-step to cleanup: an occupied slot is stopped, or alive and can move. -/
def Slot.Settled (s : Slot) : Prop :=
  s.track.isSome → s.status = .killed ∨ (s.status = .alive ∧ s.Moving c)

end Predicates

/-- What the models leave alone of a slot: its track, status, particle, energy, direction
and volume. -/
def Slot.motion (s : Slot) : Option Nat × Status × Nat × Float × Vec3 × Option Nat :=
  (s.track, s.status, s.particle, s.energy, s.dir, s.volume)

variable {c : CutoffTable}

theorem Slot.Moving.congr {s t : Slot} (hm : s.Moving c) (hdir : t.dir = s.dir)
    (hvol : t.volume = s.volume) (henergy : t.energy = s.energy) (hparticle : t.particle = s.particle) :
    t.Moving c where
  unit := hdir ▸ hm.unit
  located := hvol ▸ hm.located
  not_spent := henergy ▸ hm.not_spent
  not_below := by
    rw [henergy, hparticle]
    exact hm.not_below

theorem Slot.isAlive_iff {s : Slot} : s.isAlive = true ↔ s.track.isSome = true ∧ s.status = .alive := by
  unfold Slot.isAlive
  rw [Bool.and_eq_true, beq_iff_eq]

theorem Slot.Settled.of_motion {s t : Slot} (hs : s.Settled c) (h : t.motion = s.motion) :
    t.Settled c := by
  simp only [Slot.motion, Prod.mk.injEq] at h
  obtain ⟨htrack, hstatus, hparticle, henergy, hdir, hvolume⟩ := h
  intro ht
  rcases hs (htrack ▸ ht) with hk | ⟨ha, hm⟩
  · exact .inl (hstatus ▸ hk)
  · exact .inr ⟨hstatus ▸ ha, hm.congr hdir hvolume henergy hparticle⟩

/-! ## Filling slots -/

theorem initialCheck_ok {g : Geometry} {x : Initializer} {v : Nat} (h : initialCheck g x = .ok v) :
    (x.energy.isFinite && x.energy ≥ 0.0) = true ∧ x.direction.isUnit = true ∧
      g.locate x.position = some v := by
  unfold initialCheck at h
  split at h
  · cases h
  · rename_i henergy
    split at h
    · cases h
    · rename_i hdir
      split at h
      · cases h
      · split at h
        · rename_i w hw
          cases h
          simp only [Bool.not_eq_true', Bool.not_eq_false] at henergy hdir
          exact ⟨henergy, by simpa using hdir, hw⟩
        · cases h

theorem initKernel_filled {g : Geometry} {base : Random.Stream}
    {asg : Array (Option (Nat × Initializer))} {i : Nat} {s : Slot} {a : Arena Secondary}
    (hs : s.Live c) (hok : (initKernel g base asg i s a).2.2 = none) :
    (initKernel g base asg i s a).1.Filled c := by
  unfold initKernel at hok ⊢
  split
  · exact fun ht => .inl (hs ht)
  · rename_i track x hx
    rw [hx] at hok
    split
    · rename_i v hv
      obtain ⟨-, hdir, -⟩ := initialCheck_ok hv
      exact fun _ => .inr ⟨rfl, rfl, hdir, rfl⟩
    · rename_i e he
      simp only [he] at hok
      cases hok

theorem initializeTracks_host_checked {g : Geometry} {seed : UInt64} {dispatch : Dispatch}
    {st : CoreState} {i : Nat} {sl : Slot}
    (hok : (sweep "initialize-tracks" .host dispatch
      (initKernel g (Random.Stream.ofSeed seed) (assignmentOf st.slots.size st.init.popPairs.1))
      { st with init := st.init.popPairs.2 }).2 = none)
    (hsl : (sweep "initialize-tracks" .host dispatch
      (initKernel g (Random.Stream.ofSeed seed) (assignmentOf st.slots.size st.init.popPairs.1))
      { st with init := st.init.popPairs.2 }).1.slots[i]? = some sl)
    (hi : i ∈ st.init.popPairs.1.map (·.1)) :
    (sl.energy.isFinite && sl.energy ≥ 0.0) = true ∧ sl.dir.isUnit = true ∧
      sl.volume.isSome = true ∧ sl.volume = g.locate sl.pos := by
  obtain ⟨-, hslots, hfail⟩ :=
    sweep_host_fixed _ _ _ _ (fun i s => initKernel_arena g _ _ i s _) hok
  rw [hslots i] at hsl
  obtain ⟨s₀, hs₀, rfl⟩ := Option.map_eq_some_iff.1 hsl
  have hlt : i < st.slots.size := (Array.getElem?_eq_some_iff.1 hs₀).1
  have hany : st.init.popPairs.1.any (·.1 == i) = true := by
    rw [List.any_eq_true]
    obtain ⟨q, hq, rfl⟩ := List.mem_map.1 hi
    exact ⟨q, hq, by simp⟩
  have hasg := assignmentOf_isSome st.slots.size st.init.popPairs.1 i
  rw [decide_eq_true hlt, Bool.true_and, hany] at hasg
  obtain ⟨⟨track, x⟩, hq⟩ := Option.isSome_iff_exists.1 hasg
  have hvisit := hfail i s₀ hs₀
  unfold initKernel at hvisit ⊢
  simp only [hq] at hvisit ⊢
  split at hvisit
  · rename_i v hv
    obtain ⟨henergy, hdir, hloc⟩ := initialCheck_ok hv
    simp only
    exact ⟨henergy, hdir, rfl, hloc.symm⟩
  · cases hvisit

theorem initializeTracks_checked {g : Geometry} {seed : UInt64} {space : Space}
    {dispatch : Dispatch} {st : CoreState} {n i : Nat} {sl : Slot}
    (hok : (initializeTracks g seed space dispatch st).2 = .ok n)
    (hsl : (initializeTracks g seed space dispatch st).1.slots[i]? = some sl)
    (hi : i ∈ st.init.popPairs.1.map (·.1)) :
    (sl.energy.isFinite && sl.energy ≥ 0.0) = true ∧ sl.dir.isUnit = true ∧
      sl.volume.isSome = true ∧ sl.volume = g.locate sl.pos := by
  have hne : st.init.popPairs.1.isEmpty = false := by
    obtain ⟨q, hq, -⟩ := List.mem_map.1 hi
    exact List.isEmpty_eq_false_iff_exists_mem.2 ⟨q, hq⟩
  rw [initializeTracks_snd, hne, if_neg Bool.false_ne_true] at hok
  rw [initializeTracks_fst, hne, if_neg Bool.false_ne_true] at hsl
  split at hok
  · cases hok
  · rename_i hsweep
    have hhost := sweep_ok_host _ _ _ _ _ hsweep
    rw [hhost] at hsl hsweep
    exact initializeTracks_host_checked hsweep hsl hi

theorem initializeTracks_filled {g : Geometry} {seed : UInt64} {space : Space}
    {dispatch : Dispatch} {st : CoreState} {n : Nat}
    (hok : (initializeTracks g seed space dispatch st).2 = .ok n) (hlive : ∀ s ∈ st.slots, s.Live c) :
    ∀ s ∈ (initializeTracks g seed space dispatch st).1.slots, s.Filled c := by
  rcases initializeTracks_ok_cases hok with heq | ⟨hsweep, heq⟩ <;> rw [heq]
  · exact fun s hs ht => .inl (hlive s hs ht)
  · exact sweep_ok_forall _ _ _ _ _ (fun i s => initKernel_arena g _ _ i s _) hsweep
      (fun _ _ hs hv => initKernel_filled hs hv) hlive

/-! ## The reset -/

theorem Slot.startStep_dir_volume (s : Slot) :
    s.startStep.dir = s.dir ∧ s.startStep.volume = s.volume := by
  unfold Slot.startStep
  split <;> exact ⟨rfl, rfl⟩

theorem Slot.Filled.startStep {s : Slot} (hs : s.Filled c) : s.startStep.Ready c := by
  unfold Slot.startStep
  split
  · rename_i hnone
    intro ht
    rw [Option.isNone_iff_eq_none] at hnone
    rw [hnone] at ht
    cases ht
  · rename_i hsome
    intro _
    have ht : s.track.isSome = true := Option.isSome_iff_ne_none.2 (by simpa using hsome)
    rcases hs ht with ⟨ha, hm⟩ | ⟨hi, hr, hu, hv⟩
    · simp only [ha]
      exact ⟨rfl, hm.unit, hm.located, fun _ => hm.congr rfl rfl rfl rfl⟩
    · simp only [hi, hr]
      exact ⟨rfl, hu, hv, nofun⟩

theorem startStep_ready {space : Space} {dispatch : Dispatch} {st : CoreState}
    (h : ∀ s ∈ st.slots, s.Filled c) : ∀ s ∈ (startStep space dispatch st).1.slots, s.Ready c :=
  sweep_ok_forall _ _ _ _ _ (fun _ _ => rfl) (sweep_never_fails _ _ _ _ _ fun _ _ _ => rfl)
    (fun _ _ hs _ => hs.startStep) h

/-! ## The along-step -/

theorem Slot.finishStep_settled (p : Setup) {s : Slot} (hit : BoundaryHit)
    (xs mfp dedx step : Float) (cause : StepCause) (halive : s.status = .alive)
    (hunit : s.dir.isUnit = true) (hvol : s.volume.isSome = true) :
    (s.finishStep p hit xs mfp dedx step cause).Settled p.cutoffs := by
  obtain ⟨-, hparticle, hdir, hst⟩ := Slot.finishStep_spec p s hit xs mfp dedx step cause
  intro _
  rcases hst with hk | ⟨hsame, hv, hpass⟩
  · exact .inl hk
  · obtain ⟨hspent, hbelow⟩ := hpass halive
    refine .inr ⟨hsame.trans halive, ⟨hdir ▸ hunit, ?_, hspent, by rwa [hparticle]⟩⟩
    rcases hv with hv | hv
    · exact hv ▸ hvol
    · exact hv

theorem alongStep_settled {p : Setup} {s : Slot} (hs : s.Ready p.cutoffs)
    (hok : (alongStep p s).2 = none) : (alongStep p s).1.Settled p.cutoffs := by
  rcases alongStep_spec p s with ⟨hdead, h⟩ | ⟨e, -, -, h⟩ | ⟨-, hre, h⟩ |
    ⟨-, -, n, r, l, h⟩ | ⟨halive, -, n, r, nv, hit, xs, mfp, dedx, step, cause, h⟩ <;>
    rw [h] at hok ⊢
  · -- a ready slot with a track is alive
    intro ht
    obtain ⟨ha, -⟩ := hs ht
    rw [Slot.isAlive_iff.2 ⟨ht, ha⟩] at hdead
    cases hdead
  · cases hok
  · intro ht
    obtain ⟨ha, -, -, hretry⟩ := hs ht
    exact .inr ⟨ha, (hretry hre).congr rfl rfl rfl rfl⟩
  · intro _
    exact .inl rfl
  · obtain ⟨ha, hunit, hvol, -⟩ := hs (Slot.isAlive_iff.1 halive).1
    exact Slot.finishStep_settled p _ _ _ _ _ _ ha hunit hvol

theorem alongStepSweep_settled {p : Setup} {st : CoreState} (hok : (alongStepSweep p st).2 = none)
    (h : ∀ s ∈ st.slots, s.Ready p.cutoffs) :
    ∀ s ∈ (alongStepSweep p st).1.slots, s.Settled p.cutoffs :=
  sweep_ok_forall _ _ _ _ _ (fun _ _ => rfl) hok (fun _ _ hs hv => alongStep_settled hs hv) h

theorem alongStep_fails {p : Setup} {s : Slot} {e : TrackError} (h : (alongStep p s).2 = some e) :
    s.checkKinematics = .error e := by
  rcases alongStep_spec p s with ⟨-, h'⟩ | ⟨e', -, he, h'⟩ | ⟨-, -, h'⟩ |
    ⟨-, -, n, r, l, h'⟩ | ⟨-, -, n, r, nv, hit, xs, mfp, dedx, step, cause, h'⟩ <;>
    rw [h'] at h <;> cases h
  exact he

/-- The checks of a slot with a unit direction and a volume fail only on its energy. -/
theorem checkKinematics_fails_on_energy {s : Slot} {e : TrackError}
    (hunit : s.dir.isUnit = true) (hvol : s.volume.isSome = true)
    (h : s.checkKinematics = .error e) : ∃ v, e = .invalidEnergy v := by
  unfold Slot.checkKinematics at h
  split at h
  · cases h
    exact ⟨_, rfl⟩
  · split at h
    · rename_i hdir
      simp [hunit] at hdir
    · split at h
      · cases h
      · rename_i hnone
        simp [hnone] at hvol

/-! ## The models and the post-step -/

theorem launchModels_settled {p : Setup} {st : CoreState} (h : ∀ s ∈ st.slots, s.Settled c) :
    ∀ s ∈ (launchModels p st).1.slots, s.Settled c := by
  have hmotion : ∀ id m i s a, (modelKernel p id m i s a).1.motion = s.motion := by
    intro id m i s a
    obtain ⟨rng, o, hk⟩ := modelKernel_eq p id m i s a
    rw [hk]
    rfl
  obtain ⟨-, hslots⟩ := launchFrom_keeps p Slot.motion hmotion 0 p.physics.models.toList st
  intro s hs
  obtain ⟨j, hj⟩ := Array.mem_iff_getElem?.1 hs
  have hsj := hslots j
  rw [launchModels] at hj
  rw [hj, Option.map_some] at hsj
  obtain ⟨s₀, hs₀, hm⟩ := Option.map_eq_some_iff.1 hsj.symm
  exact (h s₀ (Array.mem_of_getElem? hs₀)).of_motion hm.symm

theorem applyOutcome_moving {s s' : Slot} {o : Interaction} (h : applyOutcome s o = .ok s')
    (hunit : s.dir.isUnit = true) :
    s'.track = s.track ∧ s'.particle = s.particle ∧ s'.volume = s.volume ∧
      s'.dir.isUnit = true ∧ (s'.status = .killed ∨ s'.status = s.status) := by
  rcases applyOutcome_ok h with rfl | ⟨-, hdir, rfl⟩ | rfl | rfl
  · exact ⟨rfl, rfl, rfl, hunit, .inr rfl⟩
  · exact ⟨rfl, rfl, rfl, hdir, .inr rfl⟩
  · exact ⟨rfl, rfl, rfl, hunit, .inl rfl⟩
  · exact ⟨rfl, rfl, rfl, hunit, .inr rfl⟩

theorem processInteraction_settled {p : Setup} {s : Slot} {a : Arena Secondary}
    (hs : s.Settled p.cutoffs) (hok : (processInteraction p s a).2 = none) :
    (processInteraction p s a).1.Settled p.cutoffs := by
  rcases processInteraction_spec p s a with ⟨-, h⟩ | ⟨e, h⟩ |
    ⟨o, u, halive, -, hu, ⟨-, h⟩ | ⟨hspent, h⟩⟩ <;> rw [h] at hok ⊢
  · exact hs
  · cases hok
  · intro _
    exact .inl rfl
  · -- a track the test does not stop is one the outcome left alive and able to move
    obtain ⟨ht, ha⟩ := Slot.isAlive_iff.1 halive
    have hm : s.Moving p.cutoffs := by
      rcases hs ht with hk | ⟨-, hm⟩
      · rw [ha] at hk
        cases hk
      · exact hm
    obtain ⟨htrack, hparticle, hvolume, hunit, hst⟩ := applyOutcome_moving hu hm.unit
    intro _
    rcases hst with hk | hsame
    · exact .inl hk
    · have halive1 : u.isAlive = true := Slot.isAlive_iff.2 ⟨htrack ▸ ht, hsame.trans ha⟩
      rw [halive1, Bool.true_and] at hspent
      obtain ⟨hspent, hbelow⟩ := spent_eq_false.1 hspent
      exact .inr ⟨hsame.trans ha, ⟨hunit, hvolume ▸ hm.located, hspent, hbelow⟩⟩

theorem processSweep_settled {p : Setup} {st : CoreState} (hok : (processSweep p st).2 = none)
    (h : ∀ s ∈ st.slots, s.Settled p.cutoffs) :
    ∀ s ∈ (processSweep p st).1.slots, s.Settled p.cutoffs :=
  sweep_ok_forall _ _ _ _ _ (fun _ _ => rfl) hok (fun _ _ hs hv => processInteraction_settled hs hv) h

/-! ## Cleanup -/

theorem cleanup_live {st : CoreState} (h : ∀ s ∈ st.slots, s.Settled c) :
    ∀ s ∈ (cleanup st).1.slots, s.Live c := by
  intro s hs
  obtain ⟨j, hj⟩ := Array.mem_iff_getElem?.1 hs
  rw [cleanup_slots] at hj
  obtain ⟨s₀, hs₀, rfl⟩ := Option.map_eq_some_iff.1 hj
  intro ht
  by_cases hr : s₀.reclaimable
  · simp [hr, Slot.vacate] at ht
  · simp only [hr, Bool.false_eq_true, if_false] at ht ⊢
    rcases h s₀ (Array.mem_of_getElem? hs₀) ht with hk | hlive
    · simp [Slot.reclaimable, ht, hk] at hr
    · exact hlive

/-! ## A step and a run -/

theorem Stepper.step_ok_setup {s s' : Stepper} {w w' : Watchers} {c : Counters}
    (h : s.step w = (s', w', .ok c)) :
    s'.setup = s.setup ∧
      s'.pipeline.actions = (Stepper.transport s.setup s.pipeline.actions s.state).1 := by
  unfold Stepper.step at h
  split at h
  · cases h
  split at h
  · cases h
  split at h
  · rename_i s1 w1 c1 hexec
    simp only [Prod.mk.injEq] at h
    obtain ⟨rfl, -, -⟩ := h
    unfold Stepper.execute at hexec
    generalize htr : Stepper.transport s.setup s.pipeline.actions s.state = tr at hexec
    obtain ⟨acts, st2, moved⟩ := tr
    dsimp only at hexec
    split at hexec
    · cases hexec
    · split at hexec
      · cases hexec
      · split at hexec
        · cases hexec
        · simp only [Prod.mk.injEq] at hexec
          obtain ⟨rfl, -, -⟩ := hexec
          exact ⟨rfl, by rw [← htr]⟩
  · cases h

theorem Stepper.step_live {s s' : Stepper} {w w' : Watchers} {c : Counters}
    (hstd : s.pipeline.actions = standardActions)
    (hlive : ∀ sl ∈ s.state.slots, sl.Live s.setup.cutoffs) (h : s.step w = (s', w', .ok c)) :
    (∀ sl ∈ s'.state.slots, sl.Live s.setup.cutoffs) ∧ s'.setup = s.setup ∧
      s'.pipeline.actions = standardActions := by
  obtain ⟨-, -, acts, n, active, st2, wm, k, st3, htr, -, hext, hstate, -⟩ := Stepper.step_ok_eq h
  obtain ⟨hsetup, hacts⟩ := Stepper.step_ok_setup h
  rw [hstd] at htr hacts
  obtain ⟨hinit, halong, hmodels, hpost, rfl, rfl⟩ := transport_standard htr
  refine ⟨?_, hsetup, by rw [hacts, htr]⟩
  have h1 := initializeTracks_filled hinit hlive
  have h3 := alongStepSweep_settled halong (startStep_ready h1)
  have h4 : ∀ sl ∈ (s.state.launched s.setup).slots, sl.Settled s.setup.cutoffs :=
    launchModels_settled h3
  have h5 := processSweep_settled hpost h4
  obtain ⟨rfl, -⟩ := extendFromSecondaries_ok hext
  rw [hstate]
  exact cleanup_live h5

theorem Stepper.loadPrimaries_live {n ic ac : Nat} {ps : List Primary} {s₀ s₁ : Stepper}
    (hfresh : CoreState.new n ic ac = some s₀.state) (hload : s₀.loadPrimaries ps = .ok s₁) :
    (∀ sl ∈ s₁.state.slots, sl.Live s₁.setup.cutoffs) ∧ s₁.setup = s₀.setup ∧
      s₁.pipeline = s₀.pipeline := by
  obtain ⟨hvacant, -, -⟩ := CoreState.new_unissued hfresh
  unfold Stepper.loadPrimaries at hload
  split at hload
  · cases hload
    refine ⟨fun sl hsl ht => ?_, rfl, rfl⟩
    obtain ⟨i, hi⟩ := Array.mem_iff_getElem?.1 hsl
    rw [hvacant i sl hi] at ht
    cases ht
  · cases hload

theorem Stepper.Run.live {s₀ s : Stepper} {issued : List (Nat × Nat × Initializer)}
    {cs : List Counters} (hstd : s₀.pipeline.actions = standardActions)
    (h₀ : ∀ sl ∈ s₀.state.slots, sl.Live s₀.setup.cutoffs) (hrun : Stepper.Run s₀ s issued cs) :
    (∀ sl ∈ s.state.slots, sl.Live s.setup.cutoffs) ∧ s.pipeline.actions = standardActions := by
  induction hrun with
  | start => exact ⟨h₀, hstd⟩
  | step _ hs ih =>
    obtain ⟨hlive, hsetup, hacts⟩ := Stepper.step_live ih.2 ih.1 hs
    rw [← hsetup] at hlive
    exact ⟨hlive, hacts⟩

/-- **Kinematics of live tracks.** In a run of successful steps with the standard actions,
after one load of primaries into a fresh state: every occupied slot holds an alive track
whose direction passes `isUnit`, which has a volume, and whose energy is neither `≤ 0` nor
below its tracking cutoff; the next along-step of such a slot can fail only on its energy,
never on its direction or its volume; and every slot that a successful initialization fills
holds a finite, non-negative energy, a direction that passes `isUnit` and the volume the
geometry locates its position in. -/
theorem live_tracks_keep_valid_kinematics {n ic ac : Nat} {ps : List Primary}
    {s₀ s₁ s : Stepper} {issued : List (Nat × Nat × Initializer)} {cs : List Counters}
    (hstd : s₀.pipeline.actions = standardActions)
    (hfresh : CoreState.new n ic ac = some s₀.state) (hload : s₀.loadPrimaries ps = .ok s₁)
    (hrun : Stepper.Run s₁ s issued cs) :
    (∀ sl ∈ s.state.slots, sl.track.isSome →
      sl.status = .alive ∧ sl.dir.isUnit = true ∧ sl.volume.isSome = true ∧
      ¬ sl.energy ≤ 0.0 ∧ ¬ sl.energy < (s.setup.cutoffs.get sl.particle).tracking) ∧
    (∀ sl ∈ s.state.slots, sl.track.isSome → ∀ e,
      (alongStep s.setup sl.startStep).2 = some e → ∃ v, e = .invalidEnergy v) ∧
    (∀ (g : Geometry) (seed : UInt64) (space : Space) (dispatch : Dispatch) (st : CoreState)
      (k i : Nat) (sl : Slot), (initializeTracks g seed space dispatch st).2 = .ok k →
      (initializeTracks g seed space dispatch st).1.slots[i]? = some sl →
      i ∈ st.init.popPairs.1.map (·.1) →
      (sl.energy.isFinite && sl.energy ≥ 0.0) = true ∧ sl.dir.isUnit = true ∧
        sl.volume.isSome = true ∧ sl.volume = g.locate sl.pos) := by
  obtain ⟨h₁, -, hpipe⟩ := Stepper.loadPrimaries_live hfresh hload
  obtain ⟨hlive, -⟩ := Stepper.Run.live (hpipe ▸ hstd) h₁ hrun
  refine ⟨fun sl hsl ht => ?_, fun sl hsl ht e he => ?_,
    fun _ _ _ _ _ _ _ _ hok hsl hi => initializeTracks_checked hok hsl hi⟩
  · obtain ⟨ha, hm⟩ := hlive sl hsl ht
    exact ⟨ha, hm.unit, hm.located, hm.not_spent, hm.not_below⟩
  · -- the reset keeps what the checks look at but the energy
    obtain ⟨-, hm⟩ := hlive sl hsl ht
    obtain ⟨hdir, hvol⟩ := Slot.startStep_dir_volume sl
    exact checkKinematics_fails_on_energy (hdir ▸ hm.unit) (hvol ▸ hm.located) (alongStep_fails he)

/-- Two tracks in slabs cut at `-10`, `1` and `10`, losing one MeV per cm, with steps of at most
`0.75` and a tracking cutoff of 8 MeV. Over three steps the first track crosses into the
second slab and lives on; the second, going the other way, falls below the cutoff in the
second step and its slot is reclaimed. -/
theorem live_tracks_keep_valid_kinematics_in_slabs :
    let s₀ : Stepper :=
      { setup := { (default : Setup) with
          geometry := .slabs #[-10.0, 1.0, 10.0],
          physics := { PhysicsParams.empty with energyLoss := [(0, 1.0)], maxStep := some 0.75 },
          cutoffs := CutoffTable.empty.set 0 ⟨8.0, 0.0⟩ },
        pipeline := ⟨standardActions⟩,
        state := ⟨#[Slot.vacant, Slot.vacant], Arena.new 1, InitBuffer.new 2 2⟩, threads := none,
        maxSteps := 3, steps := 0, disabled := false, lastLabels := ⟨[], []⟩ }
    let ps : List Primary :=
      [{ (default : Primary) with energy := 10.0, direction := ⟨1.0, 0.0, 0.0⟩ },
       { (default : Primary) with energy := 9.0, direction := ⟨-1.0, 0.0, 0.0⟩ }]
    ∃ (s₁ s : Stepper) (issued : List (Nat × Nat × Initializer)) (cs : List Counters),
      s₀.pipeline.actions = standardActions ∧
      CoreState.new 2 2 1 = some s₀.state ∧ s₀.loadPrimaries ps = .ok s₁ ∧
      Stepper.Run s₁ s issued cs ∧
      cs.map (·.killed) = [0, 1, 0] ∧
      s.state.slots.toList.map (fun sl => (sl.track, sl.volume)) = [(some 0, some 1), (none, some 0)] ∧
      (∀ sl ∈ s.state.slots, sl.track.isSome →
        sl.status = .alive ∧ sl.dir.isUnit = true ∧ sl.volume.isSome = true ∧
        ¬ sl.energy ≤ 0.0 ∧ ¬ sl.energy < (s.setup.cutoffs.get sl.particle).tracking) ∧
      (∀ sl ∈ s.state.slots, sl.track.isSome → ∀ e,
        (alongStep s.setup sl.startStep).2 = some e → ∃ v, e = .invalidEnergy v) ∧
      (∀ (g : Geometry) (seed : UInt64) (space : Space) (dispatch : Dispatch) (st : CoreState)
        (k i : Nat) (sl : Slot), (initializeTracks g seed space dispatch st).2 = .ok k →
        (initializeTracks g seed space dispatch st).1.slots[i]? = some sl →
        i ∈ st.init.popPairs.1.map (·.1) →
        (sl.energy.isFinite && sl.energy ≥ 0.0) = true ∧ sl.dir.isUnit = true ∧
          sl.volume.isSome = true ∧ sl.volume = g.locate sl.pos) := by
  intro s₀ ps
  have hstd : s₀.pipeline.actions = standardActions := rfl
  have hfresh : CoreState.new 2 2 1 = some s₀.state := rfl
  obtain ⟨s₁, hload⟩ := Except.exists_eq_ok_of_isOk
    (show (s₀.loadPrimaries ps).isOk = true by decide +kernel)
  have hs₁ : s₁ = (s₀.loadPrimaries ps).toOption.getD default := by rw [hload]; rfl
  let s₂ := (s₁.step default).1
  let s₃ := (s₂.step default).1
  obtain ⟨c₁, hc₁⟩ := Except.exists_eq_ok_of_isOk
    (show (s₁.step default).2.2.isOk = true by rw [hs₁]; decide +kernel)
  obtain ⟨c₂, hc₂⟩ := Except.exists_eq_ok_of_isOk
    (show (s₂.step default).2.2.isOk = true by simp only [s₂]; rw [hs₁]; decide +kernel)
  obtain ⟨c₃, hc₃⟩ := Except.exists_eq_ok_of_isOk
    (show (s₃.step default).2.2.isOk = true by simp only [s₃, s₂]; rw [hs₁]; decide +kernel)
  have hrun : Stepper.Run s₁ (s₃.step default).1
      ([] ++ s₁.state.init.popPairs.1 ++ s₂.state.init.popPairs.1 ++ s₃.state.init.popPairs.1)
      ([] ++ [c₁] ++ [c₂] ++ [c₃]) :=
    .step (.step (.step .start (Stepper.step_eq_of_result hc₁)) (Stepper.step_eq_of_result hc₂))
      (Stepper.step_eq_of_result hc₃)
  have hkilled : ([] ++ [c₁] ++ [c₂] ++ [c₃]).map Counters.killed = [0, 1, 0] := by
    have h : [(s₁.step default).2.2, (s₂.step default).2.2, (s₃.step default).2.2].map
        (fun r => r.toOption.map Counters.killed) = [some 0, some 1, some 0] := by
      simp only [s₃, s₂]
      rw [hs₁]
      decide +kernel
    simpa [hc₁, hc₂, hc₃, Except.toOption] using h
  have hslots : (s₃.step default).1.state.slots.toList.map (fun sl => (sl.track, sl.volume)) =
      [(some 0, some 1), (none, some 0)] := by
    simp only [s₃, s₂]
    rw [hs₁]
    decide +kernel
  exact ⟨s₁, _, _, _, hstd, hfresh, hload, hrun, hkilled, hslots,
    live_tracks_keep_valid_kinematics hstd hfresh hload hrun⟩

end Transport
