import Transport.Track.Population
import Transport.Physics.Launch
import Transport.Pipeline
/-!
# What the per-slot kernels leave alone

Every kernel of a step changes the slot it is given, but which track a slot holds is
decided only where tracks are started and reclaimed: `initializeTracks` fills slots, and
`cleanup` vacates them. The kernels in between (the pre-step reset, the along-step, the
models, the processing of outcomes and the test actions) keep the slot's track with its
parent and event (`Slot.lineage`), and the along-step and the processing of outcomes keep
its outcome too (`Slot.holding`; both together are `Slot.kept`).

A model's interaction is narrower still: of the slot it only advances the random stream
(`Model.interact_slot`); what it decides goes into the outcome and the arena.

The along-step, the end of a step and the processing of outcomes are each described once,
branch by branch (`alongStep_spec`, `Slot.finishStep_spec`, `processInteraction_spec`,
`applyOutcome_ok`); what is proved of them here and later is read off these descriptions.
-/
namespace Transport

/-! ## Filling a slot -/

/-- Who a slot's track is: its id, its parent and its event. -/
def Slot.lineage (s : Slot) : Option Nat × Option Nat × Nat := (s.track, s.parent, s.event)

theorem initKernel_lineage (g : Geometry) (base : Random.Stream)
    (asg : Array (Option (Nat × Initializer))) (i : Nat) (s : Slot) (a : Arena Secondary) :
    (initKernel g base asg i s a).1.lineage =
      (asg.getD i none).elim s.lineage (fun q => (some q.1, q.2.parent, q.2.event)) := by
  unfold initKernel
  split
  · rename_i h
    simp [h]
  · rename_i h
    split <;> simp [h, Slot.fill, Slot.lineage]

theorem initKernel_track (g : Geometry) (base : Random.Stream)
    (asg : Array (Option (Nat × Initializer))) (i : Nat) (s : Slot) (a : Arena Secondary) :
    (initKernel g base asg i s a).1.track = (asg.getD i none).elim s.track (fun p => some p.1) := by
  rw [show (initKernel g base asg i s a).1.track = _ from
    congrArg Prod.fst (initKernel_lineage g base asg i s a)]
  cases asg.getD i none <;> rfl

/-! ## The kernels of a step -/

/-- What a slot holds for the rest of a step: its track and the outcome of its interaction. -/
def Slot.holding (s : Slot) : Option Nat × Option Interaction := (s.track, s.interaction)

/-- What the along-step and the processing of outcomes keep of a slot: what it holds, its
parent and its event. -/
def Slot.kept (s : Slot) : (Option Nat × Option Interaction) × Option Nat × Nat :=
  (s.holding, s.parent, s.event)

theorem Slot.holding_of_kept {s t : Slot} (h : t.kept = s.kept) : t.holding = s.holding :=
  congrArg Prod.fst h

theorem Slot.lineage_of_kept {s t : Slot} (h : t.kept = s.kept) : t.lineage = s.lineage := by
  simp only [Slot.kept, Slot.holding, Prod.mk.injEq] at h
  simp only [Slot.lineage, h]

@[simp] theorem Slot.startStep_lineage (s : Slot) : s.startStep.lineage = s.lineage := by
  unfold Slot.startStep
  split <;> rfl

@[simp] theorem Slot.startStep_track (s : Slot) : s.startStep.track = s.track :=
  congrArg Prod.fst s.startStep_lineage

@[simp] theorem Slot.kill_kept (s : Slot) : s.kill.kept = s.kept := rfl

theorem spent_eq_false {e cut : Float} :
    (decide (e ≤ 0.0) || decide (e < cut)) = false ↔ ¬ e ≤ 0.0 ∧ ¬ e < cut := by
  simp

/-- The end of a step keeps what a slot holds, its lineage, its particle and its direction.
A track it does not stop keeps its status and a volume, the one it had or the one it
crossed into, and if it was alive, the energy it is left with passes both stopping
tests. -/
theorem Slot.finishStep_spec (p : Setup) (s : Slot) (hit : BoundaryHit)
    (xs mfp dedx step : Float) (cause : StepCause) :
    (s.finishStep p hit xs mfp dedx step cause).kept = s.kept ∧
      (s.finishStep p hit xs mfp dedx step cause).particle = s.particle ∧
      (s.finishStep p hit xs mfp dedx step cause).dir = s.dir ∧
      ((s.finishStep p hit xs mfp dedx step cause).status = .killed ∨
        (s.finishStep p hit xs mfp dedx step cause).status = s.status ∧
        ((s.finishStep p hit xs mfp dedx step cause).volume = s.volume ∨
          (s.finishStep p hit xs mfp dedx step cause).volume.isSome = true) ∧
        (s.status = .alive →
          ¬ (s.finishStep p hit xs mfp dedx step cause).energy ≤ 0.0 ∧
          ¬ (s.finishStep p hit xs mfp dedx step cause).energy <
            (p.cutoffs.get s.particle).tracking)) := by
  unfold Slot.finishStep
  -- the intermediate slots are kept as local definitions: unfolding them all at once
  -- duplicates the slot record at every use
  extract_lets energy v s1 loss remaining s2 s3 s4
  have h4 : s4.kept = s.kept ∧ s4.particle = s.particle ∧ s4.dir = s.dir ∧
      (s4.status = .killed ∨
        s4.status = s.status ∧ (s4.volume = s.volume ∨ s4.volume.isSome = true)) := by
    simp only [s4]
    split
    · split
      · exact ⟨rfl, rfl, rfl, .inl rfl⟩
      · rename_i hnext
        exact ⟨rfl, rfl, rfl,
          .inr ⟨rfl, .inr (Option.isSome_iff_ne_none.2 (by simpa using hnext))⟩⟩
    · exact ⟨rfl, rfl, rfl, .inr ⟨rfl, .inl rfl⟩⟩
  split
  rename_i s5 r5 h5
  have h5' : s5.kept = s.kept ∧ s5.particle = s.particle ∧ s5.dir = s.dir ∧
      (s5.status = .killed ∨
        s5.status = s.status ∧ (s5.volume = s.volume ∨ s5.volume.isSome = true) ∧
        (s.status = .alive → ¬ r5 ≤ 0.0 ∧ ¬ r5 < (p.cutoffs.get s.particle).tracking)) := by
    obtain ⟨hkept, hparticle, hdir, hst⟩ := h4
    split at h5
    · obtain ⟨rfl, rfl⟩ := Prod.mk.inj h5
      exact ⟨hkept, hparticle, hdir, .inl rfl⟩
    · rename_i htest
      obtain ⟨rfl, rfl⟩ := Prod.mk.inj h5
      refine ⟨hkept, hparticle, hdir, ?_⟩
      rcases hst with hk | ⟨hsame, hv⟩
      · exact .inl hk
      · refine .inr ⟨hsame, hv, fun ha => ?_⟩
        rw [hsame, ha, hparticle] at htest
        simp only [beq_self_eq_true, Bool.true_and, Bool.not_eq_true] at htest
        exact spent_eq_false.1 htest
  split
  rename_i s6 action h6
  have h6' : ∃ n r, s6 = { s5 with numMfp := n, rng := r } := by
    split at h6
    · exact ⟨_, _, (Prod.mk.inj h6).1.symm⟩
    · exact ⟨_, _, (Prod.mk.inj h6).1.symm⟩
    · exact ⟨_, _, (Prod.mk.inj h6).1.symm⟩
    · split at h6
      extract_lets s7 at h6
      split at h6 <;> exact ⟨_, _, (Prod.mk.inj h6).1.symm⟩
  obtain ⟨n, r, rfl⟩ := h6'
  exact h5'

theorem Slot.finishStep_kept (p : Setup) (s : Slot) (hit : BoundaryHit)
    (xs mfp dedx step : Float) (cause : StepCause) :
    (s.finishStep p hit xs mfp dedx step cause).kept = s.kept :=
  (Slot.finishStep_spec p s hit xs mfp dedx step cause).1

theorem Slot.finishStep_limit (p : Setup) (s : Slot) (hit : BoundaryHit)
    (xs mfp dedx step : Float) (cause : StepCause) :
    (s.finishStep p hit xs mfp dedx step cause).retry = s.retry ∧
      ∀ m, (s.finishStep p hit xs mfp dedx step cause).limit.action = some (.interact m) →
        ∃ u, p.physics.selectModel s.particle
          (s.finishStep p hit xs mfp dedx step cause).energy u = some m := by
  unfold Slot.finishStep
  extract_lets energy v s1 loss remaining s2 s3 s4
  have h4 : s4.retry = s.retry ∧ s4.particle = s.particle := by
    simp only [s4]
    split
    · split <;> exact ⟨rfl, rfl⟩
    · exact ⟨rfl, rfl⟩
  split
  rename_i s5 r5 h5
  have h5' : s5.retry = s.retry ∧ s5.particle = s.particle := by
    split at h5 <;> obtain ⟨rfl, rfl⟩ := Prod.mk.inj h5 <;> exact h4
  split
  rename_i s6 action h6
  split at h6
  · obtain ⟨rfl, rfl⟩ := Prod.mk.inj h6
    exact ⟨h5'.1, fun m hm => by cases hm⟩
  · obtain ⟨rfl, rfl⟩ := Prod.mk.inj h6
    exact ⟨h5'.1, fun m hm => by cases hm⟩
  · obtain ⟨rfl, rfl⟩ := Prod.mk.inj h6
    exact ⟨h5'.1, fun m hm => by cases hm⟩
  · split at h6
    rename_i u rng hdraw
    extract_lets s7 at h6
    split at h6
    · rename_i m' hsel
      obtain ⟨rfl, rfl⟩ := Prod.mk.inj h6
      refine ⟨h5'.1, fun m hm => ⟨u, ?_⟩⟩
      split at hm
      · cases hm
        rw [← h5'.2]
        exact hsel
      · cases hm
    · obtain ⟨rfl, rfl⟩ := Prod.mk.inj h6
      exact ⟨h5'.1, fun m hm => by cases hm⟩

theorem Slot.meanFreePaths_slot (s : Slot) :
    s.meanFreePaths.2 = { s with rng := s.meanFreePaths.2.rng } := by
  unfold Slot.meanFreePaths
  split <;> rfl

/-- The along-step, branch by branch. A slot without an alive track is left alone, and a
failed check is reported with the slot unchanged. Otherwise the step is counted. A retried
interaction keeps the track where it is, with its limit and a zero step, and draws nothing;
any other step samples the mean free paths, and then a step that is not finite stops the
track outside every volume, and any other ends in `Slot.finishStep`. -/
theorem alongStep_spec (p : Setup) (s : Slot) :
    (s.isAlive = false ∧ alongStep p s = (s, none)) ∨
    (∃ e, s.isAlive = true ∧ s.checkKinematics = .error e ∧ alongStep p s = (s, some e)) ∨
    (s.isAlive = true ∧ s.retry = true ∧ alongStep p s =
      ({ s with numSteps := s.numSteps + 1, retry := false, limit := { s.limit with step := 0.0 } },
        none)) ∨
    (s.isAlive = true ∧ s.retry = false ∧ ∃ n r l, alongStep p s =
      ({ s with numSteps := n, rng := r, limit := l, volume := none, nextVolume := none }.kill,
        none)) ∨
    (s.isAlive = true ∧ s.retry = false ∧ ∃ n r nv hit xs mfp dedx step cause, alongStep p s =
      ({ s with numSteps := n, rng := r, nextVolume := nv }.finishStep p hit xs mfp dedx step cause,
        none)) := by
  unfold alongStep
  split
  · rename_i hdead
    exact .inl ⟨by simpa using hdead, rfl⟩
  · rename_i halive
    have halive : s.isAlive = true := by simpa using halive
    split
    · rename_i e he
      exact .inr (.inl ⟨e, halive, he, rfl⟩)
    · extract_lets s1
      split
      · rename_i hre
        exact .inr (.inr (.inl ⟨halive, hre, rfl⟩))
      · rename_i hre
        have hre : s.retry = false := by simpa using hre
        split
        rename_i mfp s2 h2
        have hs2 : s2 = { s1 with rng := s2.rng } := by
          rw [show s2 = s1.meanFreePaths.2 by rw [h2]]
          exact Slot.meanFreePaths_slot s1
        rw [hs2]
        extract_lets hit s3 dedx
        split
        split
        · exact .inr (.inr (.inr (.inl ⟨halive, hre, _, _, _, rfl⟩)))
        · exact .inr (.inr (.inr (.inr ⟨halive, hre, _, _, _, _, _, _, _, _, _, rfl⟩)))

theorem alongStep_kept (p : Setup) (s : Slot) : (alongStep p s).1.kept = s.kept := by
  rcases alongStep_spec p s with ⟨-, h⟩ | ⟨e, -, -, h⟩ | ⟨-, -, h⟩ | ⟨-, -, n, r, l, h⟩ |
    ⟨-, -, n, r, nv, hit, xs, mfp, dedx, step, cause, h⟩
  · rw [h]
  · rw [h]
  · rw [h]
    rfl
  · rw [h]
    rfl
  · rw [h, Slot.finishStep_kept]
    rfl

theorem alongStep_holding (p : Setup) (s : Slot) : (alongStep p s).1.holding = s.holding :=
  Slot.holding_of_kept (alongStep_kept p s)

theorem alongStep_track (p : Setup) (s : Slot) : (alongStep p s).1.track = s.track :=
  congrArg Prod.fst (alongStep_holding p s)

/-- The slots an outcome can give: the same slot, a new energy and direction that pass the
checks, absorption with no energy left, or a retry. -/
theorem applyOutcome_ok {s s' : Slot} {o : Interaction} (h : applyOutcome s o = .ok s') :
    s' = s ∨
    ((o.energy.isFinite && o.energy ≥ 0.0) = true ∧ o.direction.isUnit = true ∧
      s' = { s with energy := o.energy, dir := o.direction }) ∨
    s' = { s with energy := 0.0 }.kill ∨ s' = { s with retry := true } := by
  unfold applyOutcome at h
  split at h
  · cases h
    exact .inl rfl
  · split at h
    · cases h
    · rename_i henergy
      split at h
      · cases h
      · rename_i hdir
        cases h
        exact .inr (.inl ⟨by simpa using henergy, by simpa using hdir, rfl⟩)
  · cases h
    exact .inr (.inr (.inl rfl))
  · cases h
    exact .inr (.inr (.inr rfl))

theorem applyOutcome_kept {s s' : Slot} {o : Interaction} (h : applyOutcome s o = .ok s') :
    s'.kept = s.kept := by
  rcases applyOutcome_ok h with rfl | ⟨-, -, rfl⟩ | rfl | rfl <;> rfl

/-- The post-step, branch by branch. A slot without an alive track or without an outcome is
left alone, and a failure is reported with the slot unchanged. Otherwise the outcome is
applied (`u`) and the slot gains the outcome's deposit with that of the secondaries below
their production cutoff; a track the stopping test then takes as spent is stopped, and
deposits the energy it has left too. -/
theorem processInteraction_spec (p : Setup) (s : Slot) (a : Arena Secondary) :
    ((s.isAlive = false ∨ s.interaction = none) ∧ processInteraction p s a = (s, none)) ∨
    (∃ e, processInteraction p s a = (s, some e)) ∨
    (∃ o u, s.isAlive = true ∧ s.interaction = some o ∧ applyOutcome s o = .ok u ∧
      let deposit := o.deposition + sumFrom (((a.get o.secondaries).filter fun x =>
        x.energy < (p.cutoffs.get x.particle).production).map (·.energy))
      ((u.isAlive && (u.energy ≤ 0.0 || u.energy < (p.cutoffs.get u.particle).tracking)) = true ∧
        processInteraction p s a =
          ({ { u with energy := 0.0 }.kill with deposition := u.deposition + (deposit + u.energy) },
            none) ∨
      (u.isAlive && (u.energy ≤ 0.0 || u.energy < (p.cutoffs.get u.particle).tracking)) = false ∧
        processInteraction p s a = ({ u with deposition := u.deposition + deposit }, none))) := by
  unfold processInteraction
  split
  · rename_i hdead
    exact .inl ⟨.inl (by simpa using hdead), rfl⟩
  · rename_i halive
    have halive : s.isAlive = true := by simpa using halive
    split
    · rename_i hnone
      exact .inl ⟨.inr hnone, rfl⟩
    · rename_i o ho
      split
      · exact .inr (.inl ⟨_, rfl⟩)
      · extract_lets below deposit
        split
        · exact .inr (.inl ⟨_, rfl⟩)
        · rename_i u hu
          refine .inr (.inr ⟨o, u, halive, ho, hu, ?_⟩)
          by_cases hspent : (u.isAlive &&
              (u.energy ≤ 0.0 || u.energy < (p.cutoffs.get u.particle).tracking)) = true
          · refine .inl ⟨hspent, ?_⟩
            rw [if_pos hspent]
            rfl
          · refine .inr ⟨by simpa using hspent, ?_⟩
            rw [if_neg hspent]

theorem processInteraction_kept (p : Setup) (s : Slot) (a : Arena Secondary) :
    (processInteraction p s a).1.kept = s.kept := by
  rcases processInteraction_spec p s a with ⟨-, h⟩ | ⟨e, h⟩ |
    ⟨o, u, -, -, hu, ⟨-, h⟩ | ⟨-, h⟩⟩ <;> rw [h]
  · rw [← applyOutcome_kept hu]
    rfl
  · rw [← applyOutcome_kept hu]
    rfl

theorem processInteraction_holding (p : Setup) (s : Slot) (a : Arena Secondary) :
    (processInteraction p s a).1.holding = s.holding :=
  Slot.holding_of_kept (processInteraction_kept p s a)

theorem processInteraction_track (p : Setup) (s : Slot) (a : Arena Secondary) :
    (processInteraction p s a).1.track = s.track :=
  congrArg Prod.fst (processInteraction_holding p s a)

/-- A model's interaction changes nothing of the slot but its random stream. -/
theorem Model.interact_slot (m : Model) (s : Slot) (a : Arena Secondary) :
    (m.interact s a).1 = { s with rng := (m.interact s a).1.rng } := by
  cases m <;> simp only [Model.interact] <;> (repeat' split) <;> rfl

theorem Model.interact_limit (m : Model) (s : Slot) (a : Arena Secondary) :
    (m.interact s a).1.limit = s.limit := by
  rw [Model.interact_slot]

theorem modelKernel_eq (p : Setup) (id : Nat) (m : Model) (i : Nat) (s : Slot)
    (a : Arena Secondary) :
    ∃ rng interaction, (modelKernel p id m i s a).1 = { s with rng, interaction } := by
  unfold modelKernel
  split
  · exact ⟨s.rng, s.interaction, rfl⟩
  · split
    · exact ⟨s.rng, s.interaction, rfl⟩
    · split
      rename_i s' a' r h
      have hs : s' = { s with rng := s'.rng } := by
        rw [show s' = (m.interact s a).1 by rw [h]]
        exact Model.interact_slot m s a
      split
      · exact ⟨s'.rng, _, by rw [hs]⟩
      · exact ⟨s'.rng, s.interaction, hs⟩

theorem modelKernel_lineage (p : Setup) (id : Nat) (m : Model) (i : Nat) (s : Slot)
    (a : Arena Secondary) : (modelKernel p id m i s a).1.lineage = s.lineage := by
  obtain ⟨rng, o, h⟩ := modelKernel_eq p id m i s a
  rw [h]
  rfl

theorem modelKernel_track (p : Setup) (id : Nat) (m : Model) (i : Nat) (s : Slot)
    (a : Arena Secondary) : (modelKernel p id m i s a).1.track = s.track :=
  congrArg Prod.fst (modelKernel_lineage p id m i s a)

@[simp] theorem Action.forceSlot_lineage (model : Nat) (s : Slot) :
    (Action.forceSlot model s).lineage = s.lineage := by
  unfold Action.forceSlot
  split <;> rfl

@[simp] theorem Action.forceSlot_track (model : Nat) (s : Slot) :
    (Action.forceSlot model s).track = s.track :=
  congrArg Prod.fst (Action.forceSlot_lineage model s)

end Transport
