import Transport.Proofs.Arithmetic
import Transport.Proofs.Kernels
/-!
# What an along-step does to a track's clock and energy

An along-step of an alive track that passes its checks takes the shortest of the candidate
lengths (`limitStep`) and ends it in `Slot.finishStep`: the clock advances by `step / v`,
the track loses `min (dE/dx · step) E` (all of `E` at the end of its range), deposits the
loss, and keeps the rest `E - loss`; a track stopped by the cutoff deposits that rest too. A
retried interaction takes a zero step, and a step that nothing limits leaves the world.

All of this is double arithmetic, so the energy is not conserved exactly: the rest is the
difference `E - loss` rounded, and `rest + loss` need not be `E` again
(`alongStep_split_is_rounded`). What holds is the order of the quantities, from the
monotonicity of rounding:

* `limitStep_nonneg`: from a mean-free-path count, an energy and a maximum step none below
  zero, a step is never below zero.
* `Slot.finishStep_energy`, `Slot.finishStep_splits`: the end of a step, for the clock, the
  energy and the volume, and the order facts that follow for a step at least zero.
* `alongStep_splits_energy`: under validated physics, an along-step of an alive track with
  a mean-free-path count not below zero either fails its checks and changes nothing, or takes
  a step at least zero, does not turn its clock back, and splits its energy `E` into a loss in
  `[0, E]`, deposited, and the rounded rest `E - loss` in `[0, E]`, kept, or deposited as well
  when the track stops (`Slot.SplitsEnergy`); a track that leaves the world stops and keeps
  its rest (`Slot.KeepsRest`).
-/
namespace Transport

/-! ## The inputs of a step -/

theorem Slot.checkKinematics_ok {s : Slot} {v : Nat} (h : s.checkKinematics = .ok v) :
    s.energy.isFinite = true ∧ 0.0 ≤ s.energy ∧ s.volume = some v := by
  unfold Slot.checkKinematics at h
  split at h
  · cases h
  · rename_i henergy
    have henergy : s.energy.isFinite = true ∧ 0.0 ≤ s.energy := by simpa using henergy
    split at h
    · cases h
    · split at h
      · rename_i w hw
        cases h
        exact ⟨henergy.1, henergy.2, hw⟩
      · cases h

theorem PhysicsParams.validate_ok {p : PhysicsParams} (h : p.validate = .ok ()) :
    (∀ step, p.maxStep = some step → 0.0 < step) ∧
      PhysicsParams.validate.lossCheck p = .ok () := by
  unfold PhysicsParams.validate at h
  split at h
  · cases h
  · split at h
    · cases h
    · split at h
      · rename_i step hstep
        split at h
        · cases h
        · rename_i hpos
          refine ⟨fun step' h' => ?_, h⟩
          rw [hstep, Option.some.injEq] at h'
          subst h'
          simpa using hpos
      · rename_i hnone
        refine ⟨fun step' h' => ?_, h⟩
        rw [hnone] at h'
        cases h'

theorem PhysicsParams.stoppingPower_nonneg {p : PhysicsParams} (h : p.validate = .ok ())
    (particle : Nat) : 0.0 ≤ p.stoppingPower particle := by
  have hloss := (PhysicsParams.validate_ok h).2
  unfold PhysicsParams.validate.lossCheck at hloss
  split at hloss
  · cases hloss
  · rename_i hnone
    unfold PhysicsParams.stoppingPower
    split
    · rename_i q v hfound
      have hmem := List.mem_of_find?_eq_some hfound
      have hok := List.find?_eq_none.1 hnone _ hmem
      simp only [Bool.not_eq_true', Bool.not_eq_false, Bool.and_eq_true,
        decide_eq_true_eq] at hok
      exact hok.2
    · decide

theorem PhysicsParams.maxStepLength_pos {p : PhysicsParams} (h : p.validate = .ok ()) :
    0.0 < p.maxStepLength := by
  unfold PhysicsParams.maxStepLength
  cases hmax : p.maxStep with
  | none => decide
  | some step => exact (PhysicsParams.validate_ok h).1 step hmax

/-! ## The step length -/

theorem propose_nonneg {c : Float × StepCause} {d : Float} (hc : 0.0 ≤ c.1) (hd : ¬ d < 0.0)
    (cause : StepCause) : 0.0 ≤ (propose c d cause).1 := by
  unfold propose
  split
  · rename_i hlt
    exact Float.zero_le_of_not_lt (Float.isNaN_of_le (Float.le_of_lt hlt)).1 hd
  · exact hc

/-- The step is at least zero when the mean free paths, the energy and the maximum step are
not below zero: the boundary distance is clamped at zero, and each other candidate is a
quotient by a positive rate or the maximum step. -/
theorem limitStep_nonneg (boundary xs mfp dedx energy maxStep : Float) (hmfp : ¬ mfp < 0.0)
    (henergy : ¬ energy < 0.0) (hmax : ¬ maxStep < 0.0) :
    0.0 ≤ (limitStep boundary xs mfp dedx energy maxStep).1 := by
  unfold limitStep
  extract_lets c0 c1 c2
  have h0 : 0.0 ≤ c0.1 := by
    rcases maxNum_zero_cases boundary with h | h
    · show 0.0 ≤ maxNum boundary 0.0
      rw [h]
      decide
    · exact Float.le_of_lt h
  have h1 : 0.0 ≤ c1.1 := by
    simp only [c1]
    split
    · exact propose_nonneg h0 (Float.div_not_lt_zero hmfp ‹_›) _
    · exact h0
  have h2 : 0.0 ≤ c2.1 := by
    simp only [c2]
    split
    · exact propose_nonneg h1 (Float.div_not_lt_zero henergy ‹_›) _
    · exact h1
  exact propose_nonneg h2 hmax _

/-! ## The end of a step -/

/-- The end of a step, for the clock, the energy and the volume. The clock advances by
`step / v` when the speed `v` is positive. The track loses `loss`, all of its energy at the end
of its range and otherwise `min (dE/dx · step) E`, deposits it and keeps the rest; stopped by
the cutoff, it deposits the rest as well and keeps nothing. It leaves the world only by
crossing into no volume, which stops it. -/
theorem Slot.finishStep_energy (p : Setup) (s : Slot) (hit : BoundaryHit)
    (xs mfp dedx step : Float) (cause : StepCause) :
    let t := s.finishStep p hit xs mfp dedx step cause
    let v := speed s.energy (p.particles.mass s.particle)
    let loss := if cause = .range then s.energy else minNum (dedx * step) s.energy
    let rest := if cause = .range then 0.0 else s.energy - loss
    t.time = (if v > 0.0 then s.time + step / v else s.time) ∧ t.limit.step = step ∧
      ((t.energy = rest ∧ t.deposition = s.deposition + loss ∧
          (t.volume = none → s.volume = none ∨ t.status = .killed)) ∨
        (t.status = .killed ∧ t.energy = 0.0 ∧ t.deposition = s.deposition + loss + rest ∧
          (t.volume = none → s.volume = none))) := by
  intro t v' loss' rest'
  have hloss : loss' = if (cause == .range) = true then s.energy
      else minNum (dedx * step) s.energy := by
    simp only [loss', beq_iff_eq]
  have hrest : rest' = if (cause == .range) = true then 0.0 else s.energy - loss' := by
    simp only [rest', beq_iff_eq]
  simp only [t]
  unfold Slot.finishStep
  extract_lets energy v s1 loss remaining s2 s3 s4
  have h4 : s4.time = s1.time ∧ s4.deposition = s.deposition + loss ∧
      (s4.volume = none → s.volume = none ∨ s4.status = .killed) := by
    simp only [s4]
    split
    · split
      · exact ⟨rfl, rfl, fun _ => .inr rfl⟩
      · rename_i hnext
        exact ⟨rfl, rfl, fun hnone => absurd (Option.isNone_iff_eq_none.2 hnone) hnext⟩
    · exact ⟨rfl, rfl, .inl⟩
  have hL : loss = loss' := by rw [hloss]
  have hR : remaining = rest' := by rw [hrest, ← hL]
  split
  rename_i s5 r5 h5
  -- the cutoff test: it stops only a track still alive, so not one that left at a boundary
  have h5' : (s5.time = s1.time ∧ s5.status = .killed ∧
        s5.deposition = s.deposition + loss + remaining ∧ r5 = 0.0 ∧
        (s5.volume = none → s.volume = none)) ∨ (s5 = s4 ∧ r5 = remaining) := by
    split at h5
    · rename_i htest
      obtain ⟨rfl, rfl⟩ := Prod.mk.inj h5
      have halive : s4.status = .alive := by
        simp only [Bool.and_eq_true, beq_iff_eq] at htest
        exact htest.1
      refine .inl ⟨h4.1, rfl, by simp only [Slot.kill, h4.2.1], rfl, fun hv => ?_⟩
      rcases h4.2.2 hv with hs | hk
      · exact hs
      · rw [halive] at hk
        cases hk
    · obtain ⟨rfl, rfl⟩ := Prod.mk.inj h5
      exact .inr ⟨rfl, rfl⟩
  split
  rename_i s6 action h6
  have h6' : ∃ n r, s6 = { s5 with numMfp := n, rng := r } := by
    split at h6
    · exact ⟨_, _, (Prod.mk.inj h6).1.symm⟩
    · exact ⟨_, _, (Prod.mk.inj h6).1.symm⟩
    · exact ⟨_, _, (Prod.mk.inj h6).1.symm⟩
    · split at h6
      extract_lets s7 at h6
      split at h6 <;> exact ⟨_, _, (Prod.mk.inj h6).1.symm⟩
  obtain ⟨n, r, rfl⟩ := h6'
  rcases h5' with ⟨htime, hkilled, hdep, hr5, hvol⟩ | ⟨rfl, rfl⟩
  · exact ⟨htime, rfl, .inr ⟨hkilled, hr5, by rw [hdep, hL, hR], hvol⟩⟩
  · exact ⟨h4.1, rfl, .inl ⟨hR, by rw [h4.2.1, hL], h4.2.2⟩⟩

/-! ## The along-step -/

theorem Slot.meanFreePaths_numSteps (s : Slot) (n : Nat) :
    ({ s with numSteps := n } : Slot).meanFreePaths =
      (s.meanFreePaths.1, { s.meanFreePaths.2 with numSteps := n }) := by
  unfold Slot.meanFreePaths
  split <;> rename_i h <;> simp at h <;> simp [h]

theorem alongStep_moves (p : Setup) (s : Slot) {v : Nat} (halive : s.isAlive = true)
    (hcheck : s.checkKinematics = .ok v) (hretry : s.retry = false) :
    let hit := p.geometry.findBoundary s.pos s.dir v
    let xs := p.physics.totalXs s.particle s.energy
    let dedx := p.physics.stoppingPower s.particle
    let lim := limitStep hit.distance xs s.meanFreePaths.1 dedx s.energy
      p.physics.maxStepLength
    let s' := { s.meanFreePaths.2 with numSteps := s.numSteps + 1, nextVolume := hit.nextVolume }
    alongStep p s = if !lim.1.isFinite then
        ({ s' with limit := ⟨lim.1, some .boundary⟩, volume := none, nextVolume := none }.kill,
          none)
      else (s'.finishStep p hit xs s.meanFreePaths.1 dedx lim.1 lim.2, none) := by
  obtain ⟨r, hr⟩ : ∃ r, s.meanFreePaths.2 = { s with rng := r } :=
    ⟨_, Slot.meanFreePaths_slot s⟩
  unfold alongStep
  rw [if_neg (by simp [halive])]
  simp only [hcheck]
  rw [if_neg (by simp [hretry]), Slot.meanFreePaths_numSteps]
  simp only [hr]

/-! ## The energy split -/

/-- A track keeps what it did not deposit: its energy and deposition are unchanged, or it
deposited a loss between zero and its energy `E` and keeps the rounded rest `E - loss`. -/
inductive Slot.KeepsRest (s t : Slot) : Prop where
  | unchanged (henergy : t.energy = s.energy) (hdep : t.deposition = s.deposition)
  | rest (loss : Float) (hlo : 0.0 ≤ loss) (hhi : loss ≤ s.energy)
      (henergy : t.energy = s.energy - loss) (hdep : t.deposition = s.deposition + loss)

/-- How a step splits a track's energy `E`: the track keeps what it did not deposit, or it
stops, deposits a loss between zero and `E` and then the rounded rest `E - loss`, and keeps
nothing. -/
inductive Slot.SplitsEnergy (s t : Slot) : Prop where
  | keeps (h : s.KeepsRest t)
  | spends (loss : Float) (hlo : 0.0 ≤ loss) (hhi : loss ≤ s.energy)
      (hkilled : t.status = .killed) (henergy : t.energy = 0.0)
      (hdep : t.deposition = s.deposition + loss + (s.energy - loss))

theorem stepLoss_bounds {energy dedx step : Float} (hfin : energy.isFinite = true)
    (henergy : 0.0 ≤ energy) (hdedx : 0.0 ≤ dedx) (hstep : 0.0 ≤ step) (cause : StepCause) :
    let loss := if cause = .range then energy else minNum (dedx * step) energy
    (0.0 ≤ loss ∧ loss ≤ energy) ∧
      (if cause = .range then 0.0 else energy - loss) = energy - loss := by
  intro loss
  by_cases hrange : cause = .range
  · simp only [loss, hrange, if_true]
    exact ⟨⟨henergy, Float.le_refl_of_not_isNaN (Float.isNaN_of_le henergy).2⟩,
      (Float.sub_self_of_isFinite hfin).symm⟩
  · simp only [loss, hrange, if_false]
    exact ⟨minNum_bounds (Float.mul_not_lt_zero (Float.not_lt_zero_of_le hdedx)
      (Float.not_lt_zero_of_le hstep)) henergy, trivial⟩

theorem Slot.KeepsRest.of_same {s s' t : Slot} (he : s'.energy = s.energy)
    (hd : s'.deposition = s.deposition) : s'.KeepsRest t → s.KeepsRest t
  | .unchanged h1 h2 => .unchanged (h1.trans he) (h2.trans hd)
  | .rest loss hlo hhi h1 h2 => .rest loss hlo (he ▸ hhi) (he ▸ h1) (hd ▸ h2)

theorem Slot.SplitsEnergy.of_same {s s' t : Slot} (he : s'.energy = s.energy)
    (hd : s'.deposition = s.deposition) : s'.SplitsEnergy t → s.SplitsEnergy t
  | .keeps h => .keeps (h.of_same he hd)
  | .spends loss hlo hhi hk h1 h2 =>
    .spends loss hlo (he ▸ hhi) hk h1 (by rw [← hd, ← he]; exact h2)

/-- A step of length at least zero, at a stopping power at least zero, of a track with a
finite energy at least zero and inside a volume: the clock does not go back, the energy stays
between zero and what it was and is split by `Slot.SplitsEnergy`, and a track that leaves the
world is stopped and keeps its rest. -/
theorem Slot.finishStep_splits (p : Setup) (s : Slot) (hit : BoundaryHit)
    (xs mfp dedx step : Float) (cause : StepCause) (hfin : s.energy.isFinite = true)
    (hE : 0.0 ≤ s.energy) (hdedx : 0.0 ≤ dedx) (hstep : 0.0 ≤ step)
    (hvol : s.volume ≠ none) :
    let t := s.finishStep p hit xs mfp dedx step cause
    ¬ t.time < s.time ∧ 0.0 ≤ t.energy ∧ t.energy ≤ s.energy ∧ s.SplitsEnergy t ∧
      (t.volume = none → t.status = .killed ∧ s.KeepsRest t) := by
  intro t
  obtain ⟨htime, -, hcase⟩ := Slot.finishStep_energy p s hit xs mfp dedx step cause
  obtain ⟨⟨hlo, hhi⟩, hrest⟩ := stepLoss_bounds hfin hE hdedx hstep cause
  generalize (if cause = .range then s.energy else minNum (dedx * step) s.energy) = loss
    at hlo hhi hrest hcase
  have hclock : ¬ t.time < s.time := by
    rw [htime]
    split
    · exact Float.add_not_lt_self (Float.div_not_lt_zero (Float.not_lt_zero_of_le hstep) ‹_›)
    · exact Float.lt_irrefl _
  obtain ⟨hlow, hhigh⟩ := Float.sub_bounds hfin hlo hhi
  rcases hcase with ⟨henergy, hdep, hleft⟩ | ⟨hkilled, henergy, hdep, hleft⟩
  · -- the track keeps the rest, and it can only leave the world by being stopped
    rw [hrest] at henergy
    have hkeeps : s.KeepsRest t := .rest loss hlo hhi henergy hdep
    refine ⟨hclock, henergy ▸ hlow, henergy ▸ hhigh, .keeps hkeeps, fun hnone => ?_⟩
    rcases hleft hnone with hs | hk
    · exact absurd hs hvol
    · exact ⟨hk, hkeeps⟩
  · -- stopped by the cutoff, the track deposits its rest as well
    rw [hrest] at hdep
    refine ⟨hclock, by rw [henergy]; decide, by rw [henergy]; exact hE,
      .spends loss hlo hhi hkilled henergy hdep, fun hnone => absurd (hleft hnone) hvol⟩

/-- An electron losing energy at one unit per unit length, in an infinite world whose one
model acts on photons only, with steps capped at `L = 70386.39622800535`. -/
def cappedSetup : Setup :=
  { (default : Setup) with
    particles := ParticleTable.standard
    physics := { PhysicsParams.ofModels [.absorption "absorb" ⟨[0], 0.0, infinity⟩ 1.0] with
      energyLoss := [(1, 1.0)], maxStep := some 70386.39622800535 } }

/-- An alive electron of energy `E = 692440.5521374996`, with one mean free path left. -/
def cappedElectron : Slot :=
  { Slot.vacant with
    track := some 0, status := .alive, particle := 1, energy := 692440.5521374996,
    dir := ⟨1.0, 0.0, 0.0⟩, volume := some 0, numMfp := some 1.0 }

/-- The split is rounded. The electron takes the capped step `L`, deposits `L` and keeps
`fl(E - L)`; adding back what it deposited does not give `E`, and neither does `E` less what
it kept give the deposit. -/
theorem alongStep_split_is_rounded :
    cappedSetup.physics.validate = .ok () ∧ cappedElectron.isAlive = true ∧
      cappedElectron.numMfp = some 1.0 ∧ (alongStep cappedSetup cappedElectron).2 = none ∧
      ((alongStep cappedSetup cappedElectron).1.energy +
          ((alongStep cappedSetup cappedElectron).1.deposition - cappedElectron.deposition) ==
        cappedElectron.energy) = false ∧
      (cappedElectron.energy - (alongStep cappedSetup cappedElectron).1.energy ==
        (alongStep cappedSetup cappedElectron).1.deposition - cappedElectron.deposition) =
        false :=
  ⟨rfl, rfl, rfl, by decide +kernel, by decide +kernel, by decide +kernel⟩

/-- An along-step under validated physics, of an alive track whose mean free paths left (the
stored count, or a fresh sample) are not below zero. It fails its checks and changes nothing,
or it takes a step of length at least zero, does not turn the track's clock back, and leaves
the track an energy between zero and the one it had, split from it by `Slot.SplitsEnergy`: a
loss between zero and the energy `E` is deposited, and the rounded rest `E - loss` is kept,
or deposited too when the track stops. A track that leaves the world stops and keeps what it
did not deposit. -/
theorem alongStep_splits_energy (p : Setup) (s : Slot) (hvalid : p.physics.validate = .ok ())
    (halive : s.isAlive = true) (hmfp : ¬ s.meanFreePaths.1 < 0.0) :
    (∃ e, (alongStep p s).2 = some e ∧ (alongStep p s).1 = s) ∨
    ((alongStep p s).2 = none ∧ 0.0 ≤ (alongStep p s).1.limit.step ∧
      ¬ (alongStep p s).1.time < s.time ∧
      0.0 ≤ (alongStep p s).1.energy ∧ (alongStep p s).1.energy ≤ s.energy ∧
      s.SplitsEnergy (alongStep p s).1 ∧
      ((alongStep p s).1.volume = none →
        (alongStep p s).1.status = .killed ∧ s.KeepsRest (alongStep p s).1)) := by
  cases hcheck : s.checkKinematics with
  | error e =>
    left
    refine ⟨e, ?_, ?_⟩ <;> simp [alongStep, halive, hcheck]
  | ok v =>
    right
    obtain ⟨hfin, hE, hvol⟩ := Slot.checkKinematics_ok hcheck
    have hEE : s.energy ≤ s.energy := Float.le_refl_of_not_isNaN (Float.isNaN_of_le hE).2
    cases hre : s.retry with
    | true =>
      have hmove : (alongStep p s).1 = { s with
            numSteps := s.numSteps + 1, retry := false, limit := ⟨0.0, s.limit.action⟩ } ∧
          (alongStep p s).2 = none := by
        unfold alongStep
        simp [halive, hcheck, hre]
      rw [hmove.1, hmove.2]
      refine ⟨rfl, Float.le_refl_of_not_isNaN rfl, Float.lt_irrefl _, hE, hEE,
        .keeps (.unchanged rfl rfl), fun hnone => ?_⟩
      simp only [hvol] at hnone
      cases hnone
    | false =>
      have hmove := alongStep_moves p s halive hcheck hre
      extract_lets hit xs dedx lim sampled s' at hmove
      rw [hmove]
      obtain ⟨r, hr⟩ : ∃ r, s.meanFreePaths.2 = { s with rng := r } :=
        ⟨_, Slot.meanFreePaths_slot s⟩
      have he : s'.energy = s.energy := by simp only [s', sampled, hr]
      have hd : s'.deposition = s.deposition := by simp only [s', sampled, hr]
      have ht : s'.time = s.time := by simp only [s', sampled, hr]
      have hstep : 0.0 ≤ lim.1 := limitStep_nonneg _ _ _ _ _ _ hmfp (Float.not_lt_zero_of_le hE)
        (Float.not_lt_zero_of_le (Float.le_of_lt (PhysicsParams.maxStepLength_pos hvalid)))
      by_cases hinf : (!lim.1.isFinite) = true
      · -- a step that nothing limits leaves the world with all of the track's energy
        rw [if_pos hinf]
        refine ⟨rfl, hstep, ?_, ?_, ?_, .keeps (.unchanged he hd),
          fun _ => ⟨rfl, .unchanged he hd⟩⟩
        · show ¬ s'.time < s.time
          rw [ht]
          exact Float.lt_irrefl _
        · show 0.0 ≤ s'.energy
          rw [he]
          exact hE
        · show s'.energy ≤ s.energy
          rw [he]
          exact hEE
      · rw [if_neg hinf]
        have hvol' : s'.volume ≠ none := by simp only [s', sampled, hr, hvol, ne_eq, reduceCtorEq,
          not_false_eq_true]
        obtain ⟨hclock, hlow, hhigh, hsplit, hleft⟩ := Slot.finishStep_splits p s' hit xs
          s.meanFreePaths.1 dedx lim.1 lim.2 (he ▸ hfin) (he ▸ hE)
          (PhysicsParams.stoppingPower_nonneg hvalid _) hstep hvol'
        rw [ht] at hclock
        rw [he] at hhigh
        exact ⟨rfl, hstep, hclock, hlow, hhigh, hsplit.of_same he hd,
          fun hnone => ⟨(hleft hnone).1, (hleft hnone).2.of_same he hd⟩⟩

theorem cappedElectron_splits_energy :
    cappedSetup.physics.validate = .ok () ∧ cappedElectron.isAlive = true ∧
      ¬ cappedElectron.meanFreePaths.1 < 0.0 ∧
      cappedElectron.SplitsEnergy (alongStep cappedSetup cappedElectron).1 := by
  have hmfp : ¬ cappedElectron.meanFreePaths.1 < 0.0 := by decide +kernel
  refine ⟨rfl, rfl, hmfp, ?_⟩
  rcases alongStep_splits_energy cappedSetup cappedElectron rfl rfl hmfp with
    ⟨e, he, -⟩ | ⟨-, -, -, -, -, hsplit, -⟩
  · have hnone : (alongStep cappedSetup cappedElectron).2 = none := by decide +kernel
    rw [hnone] at he
    cases he
  · exact hsplit

end Transport
