import Transport.Proofs.EnergyLedger
import Transport.Proofs.StepEnergy
import Transport.Proofs.Retry
import Transport.Proofs.Pairing
import Transport.Proofs.Buffer
/-!
# The engine keeps its books

`Books.step` over `Scalar.double` is what a step of the engine does to the energy it holds. A
step with the standard actions that succeeds from a clear arena, with models that all follow
the books (`Model.keepsEnergy`), is a step of its books: the books of the state and energy map
before it, stepped with the round read off the step (`Round.ofStep`), are the books of the
state and energy map after it (`Stepper.step_books`).

The proof follows the stages of the step, one slot at a time:

* admission: the filled slots take the top initializers (`initializeTracks_books`);
* the along-step of a slot is `Cell.move` (`alongStep_books`);
* the model sweeps leave each slot launched once, by the model its step ended in, or
  untouched (`LaunchTrace`, `launchModels_trace`), and what that model did is `Cell.draw`
  (`Slot.launch_draw`);
* the post-step is `Cell.settle` (`processInteraction_settle`);
* so each slot's turn gives its tally (`Stepper.turn_at`, `Stepper.tallies_eq`), and the
  energy map, the harvest and cleanup read the tallies (`EnergyMap.fill_books`,
  `Stepper.tally_promoted`, `cleanup_books`).
-/
namespace Transport

namespace Arena

variable {α : Type} {a b c : Arena α} {vs ws : List α}

theorem Extends.trans (h₁ : Extends a b vs) (h₂ : Extends b c ws) : Extends a c (vs ++ ws) where
  wellFormed := h₂.wellFormed
  capacity_eq := h₂.capacity_eq.trans h₁.capacity_eq
  cursor_le := Nat.le_trans h₁.cursor_le h₂.cursor_le
  cell_below j hj :=
    (h₂.cell_below j (Nat.lt_of_lt_of_le hj h₁.cursor_le)).trans (h₁.cell_below j hj)
  written_eq := by rw [h₂.written_eq, h₁.written_eq, List.append_assoc]

end Arena

/-! ## The along-step -/

theorem Slot.finishStep_fields (p : Setup) (s : Slot) (hit : BoundaryHit)
    (xs mfp dedx step : Float) (cause : StepCause) :
    let t := s.finishStep p hit xs mfp dedx step cause
    let loss := if cause == .range then s.energy else minNum (dedx * step) s.energy
    let rest := if cause == .range then 0.0 else s.energy - loss
    let status := if cause == .boundary && hit.nextVolume.isNone then Status.killed else s.status
    let cut := status == .alive && (rest ≤ 0.0 || rest < (p.cutoffs.get s.particle).tracking)
    t.track = s.track ∧ t.particle = s.particle ∧
      t.status = (if cut then .killed else status) ∧ t.energy = (if cut then 0.0 else rest) ∧
      t.deposition = (if cut then s.deposition + loss + rest else s.deposition + loss) ∧
      t.limit.step = step ∧ (t.limit.action == some .range) = (cause == .range) ∧
      t.volume = (if cause == .boundary then hit.nextVolume else s.volume) := by
  intro t loss' rest' status' cut'
  simp only [t]
  unfold Slot.finishStep
  extract_lets energy v s1 loss remaining s2 s3 s4
  -- the slot before the cutoff test: the loss deposited, and stopped when it leaves the world
  have h4 : s4.track = s.track ∧ s4.particle = s.particle ∧ s4.status = status' ∧
      s4.deposition = s.deposition + loss ∧
      s4.volume = (if cause == .boundary then hit.nextVolume else s.volume) := by
    simp only [s4, status']
    split
    · rename_i hb
      split
      · rename_i hn
        simp [Slot.kill, hb, hn, s3, s2, s1]
      · rename_i hn
        simp [hb, hn, s3, s2, s1]
    · rename_i hb
      simp [hb, s2, s1]
  obtain ⟨htrack, hparticle, hstatus, hdep, hvol⟩ := h4
  have hL : loss = loss' := rfl
  have hR : remaining = rest' := rfl
  split
  rename_i s5 r5 h5
  -- the cutoff test
  have h5' : s5.track = s.track ∧ s5.particle = s.particle ∧
      s5.status = (if cut' then .killed else status') ∧ r5 = (if cut' then 0.0 else rest') ∧
      s5.deposition = (if cut' then s.deposition + loss' + rest' else s.deposition + loss') ∧
      s5.volume = (if cause == .boundary then hit.nextVolume else s.volume) := by
    have hcut : (s4.status == .alive && (remaining ≤ 0.0 || remaining <
        (p.cutoffs.get s4.particle).tracking)) = cut' := by
      rw [hstatus, hparticle, hR]
    split at h5
    · rename_i htest
      obtain ⟨rfl, rfl⟩ := Prod.mk.inj h5
      rw [hcut] at htest
      simp only [htest, if_true, Slot.kill]
      exact ⟨htrack, hparticle, trivial, trivial, by rw [hdep, hR], hvol⟩
    · rename_i htest
      obtain ⟨rfl, rfl⟩ := Prod.mk.inj h5
      rw [hcut] at htest
      simp only [htest, Bool.false_eq_true, if_false]
      exact ⟨htrack, hparticle, hstatus, hR, hdep, hvol⟩
  obtain ⟨htrack5, hparticle5, hstatus5, hr5, hdep5, hvol5⟩ := h5'
  split
  rename_i s6 action h6
  -- the interaction draw changes the stream and the mean free paths only
  have h6' : (∃ n r, s6 = { s5 with numMfp := n, rng := r }) ∧
      (action == .range) = (cause == .range) := by
    split at h6
    · exact ⟨⟨_, _, (Prod.mk.inj h6).1.symm⟩, by rw [← (Prod.mk.inj h6).2]; rfl⟩
    · exact ⟨⟨_, _, (Prod.mk.inj h6).1.symm⟩, by rw [← (Prod.mk.inj h6).2]; rfl⟩
    · exact ⟨⟨_, _, (Prod.mk.inj h6).1.symm⟩, by rw [← (Prod.mk.inj h6).2]; rfl⟩
    · split at h6
      extract_lets s7 at h6
      split at h6
      · refine ⟨⟨_, _, (Prod.mk.inj h6).1.symm⟩, ?_⟩
        rw [← (Prod.mk.inj h6).2]
        split <;> rfl
      · exact ⟨⟨_, _, (Prod.mk.inj h6).1.symm⟩, by rw [← (Prod.mk.inj h6).2]; rfl⟩
  obtain ⟨⟨n, r, rfl⟩, haction⟩ := h6'
  refine ⟨htrack5, hparticle5, hstatus5, hr5, hdep5, rfl, ?_, hvol5⟩
  simpa using haction

theorem alongStep_books (p : Setup) (S : Slot) (hok : (alongStep p S).2 = none)
    (hdep : S.track.isSome → S.deposition = 0.0) :
    Cell.move Scalar.double (Rates.ofSetup p) (Motion.ofSlots S (alongStep p S).1) (Cell.ofSlot S) =
      (Cell.ofSlot (alongStep p S).1, if S.track.isSome then (alongStep p S).1.deposition else 0.0) := by
  by_cases halive : S.isAlive = true
  swap
  · -- a slot without an alive track is left alone
    have hstay : alongStep p S = (S, none) := by simp [alongStep, halive]
    rw [hstay]
    simp only [Motion.ofSlots, Cell.move, Cell.isAlive_ofSlot, halive]
    split <;> simp_all [Scalar.double]
  cases hcheck : S.checkKinematics with
  | error e => simp [alongStep, halive, hcheck] at hok
  | ok v =>
    have hvol := (Slot.checkKinematics_ok hcheck).2.2
    have hheld : S.track.isSome = true := by simp_all [Slot.isAlive]
    have hst : S.status = .alive := by simp_all [Slot.isAlive]
    cases hre : S.retry with
    | true =>
      have hstay : alongStep p S =
          ({ S with numSteps := S.numSteps + 1, retry := false, limit := { S.limit with step := 0.0 } },
            none) := by
        simp [alongStep, halive, hcheck, hre]
      rw [hstay]
      simp [Motion.ofSlots, Cell.move, halive, hre, Cell.ofSlot, hdep hheld, Scalar.double]
    | false =>
      have hmove := alongStep_moves p S halive hcheck hre
      extract_lets hit xs dedx lim src s' at hmove
      obtain ⟨r, hr⟩ : ∃ r, S.meanFreePaths.2 = { S with rng := r } :=
        ⟨_, Slot.meanFreePaths_slot S⟩
      rw [hmove]
      split
      · rename_i hinf
        simp [Motion.ofSlots, Cell.move, halive, hre, hinf, Cell.ofSlot, s', src, hr, Slot.kill, hdep hheld,
          Scalar.double, Cell.isAlive, hst, Option.isSome_iff_ne_none.1 hheld]
      · rename_i hfin
        obtain ⟨htrack, hpart, hstatus, henergy, hdepo, hstep, hrange, hvolume⟩ :=
          Slot.finishStep_fields p s' hit xs S.meanFreePaths.1 dedx lim.1 lim.2
        generalize Slot.finishStep p s' hit xs S.meanFreePaths.1 dedx lim.1 lim.2 = t at *
        have hs' : s'.track = S.track ∧ s'.particle = S.particle ∧ s'.energy = S.energy ∧
            s'.status = S.status ∧ s'.deposition = 0.0 ∧ s'.volume = some v := by
          simp [s', src, hr, hdep hheld, hvol]
        obtain ⟨h1, h2, h3, h4, h5, h6⟩ := hs'
        -- the track leaves the world when a boundary limited its step and nothing lies past it
        have hexits : t.volume.isNone = (lim.2 == .boundary && hit.nextVolume.isNone) := by
          rw [hvolume, h6]
          cases lim.2 <;> simp
        have hmotion : Motion.ofSlots S t =
            .travel lim.1 (lim.2 == .range) (lim.2 == .boundary && hit.nextVolume.isNone) := by
          simp only [Motion.ofSlots, halive, hre, hstep, hrange, hexits]
          simp at hfin
          simp [hfin]
        rw [hmotion]
        simp only [h1, h2, h3, h4, h5] at htrack hpart hstatus henergy hdepo
        simp only [Cell.move, Cell.ofSlot, Cell.isAlive, hheld, hst, htrack, hpart, hstatus, henergy,
          hdepo, Cell.spent, Rates.ofSetup, Scalar.double, dedx]
        split_ifs <;> simp_all

/-! ## The models -/

/-- Whether the model sweeps have reached slot `j`, holding `T`, when model `k` sweeps before
slot `m`: `T` is alive and its step ended in an earlier model, or in model `k` at an earlier
slot. -/
def Slot.Reached (T : Slot) (k m j : Nat) : Prop :=
  ∃ id, T.isAlive = true ∧ T.limit.action = some (.interact id) ∧ (id < k ∨ id = k ∧ j < m)

/-- The model its step ended in ran once on slot `T`, against an arena that `a` extends, and
left it as `L` with its outcome. -/
def Slot.Launched (p : Setup) (T L : Slot) (a : Arena Secondary) : Prop :=
  ∃ id m b T' b' o, T.limit.action = some (.interact id) ∧ p.physics.model? id = some m ∧
    b.WellFormed ∧ m.interact T b = (T', b', .ok o) ∧ L = { T' with interaction := some o } ∧
    o.secondaries.Within b'.cursor ∧ ∃ vs, b'.Extends a vs

section Launch

variable {p : Setup} {M : Array Slot} {k m j : Nat} {T L : Slot}

theorem Slot.reached_succ :
    T.Reached k (m + 1) j ↔
      T.Reached k m j ∨ j = m ∧ T.isAlive = true ∧ T.limit.action = some (.interact k) := by
  constructor
  · rintro ⟨id, halive, hact, hlt | ⟨rfl, hj⟩⟩
    · exact .inl ⟨id, halive, hact, .inl hlt⟩
    · rcases Nat.lt_succ_iff_lt_or_eq.1 hj with hj | rfl
      · exact .inl ⟨id, halive, hact, .inr ⟨rfl, hj⟩⟩
      · exact .inr ⟨rfl, halive, hact⟩
  · rintro (⟨id, halive, hact, hlt | ⟨rfl, hj⟩⟩ | ⟨rfl, halive, hact⟩)
    · exact ⟨id, halive, hact, .inl hlt⟩
    · exact ⟨id, halive, hact, .inr ⟨rfl, Nat.lt_succ_of_lt hj⟩⟩
    · exact ⟨k, halive, hact, .inr ⟨rfl, Nat.lt_succ_self j⟩⟩

/-- Model `k` visiting slot `m` reaches no other slot. -/
theorem Slot.reached_succ_of_ne (hj : j ≠ m) : T.Reached k (m + 1) j ↔ T.Reached k m j := by
  rw [Slot.reached_succ]
  constructor
  · rintro (hr | ⟨rfl, -⟩)
    · exact hr
    · exact absurd rfl hj
  · exact .inl

/-- Model `k` reaches no slot whose step did not end in it. -/
theorem Slot.reached_succ_of_passes
    (hpass : ¬ (T.isAlive = true ∧ T.limit.action = some (.interact k))) :
    T.Reached k (m + 1) j ↔ T.Reached k m j := by
  rw [Slot.reached_succ]
  constructor
  · rintro (hr | ⟨-, hrun⟩)
    · exact hr
    · exact absurd hrun hpass
  · exact .inl

theorem Slot.reached_next (hj : j < m) : T.Reached k m j ↔ T.Reached (k + 1) 0 j := by
  constructor
  · rintro ⟨id, halive, hact, hlt | ⟨rfl, -⟩⟩
    · exact ⟨id, halive, hact, .inl (Nat.lt_succ_of_lt hlt)⟩
    · exact ⟨id, halive, hact, .inl (Nat.lt_succ_self id)⟩
  · rintro ⟨id, halive, hact, hlt | ⟨-, hj0⟩⟩
    · rcases Nat.lt_succ_iff_lt_or_eq.1 hlt with hlt | rfl
      · exact ⟨id, halive, hact, .inl hlt⟩
      · exact ⟨id, halive, hact, .inr ⟨rfl, hj⟩⟩
    · exact absurd hj0 (Nat.not_lt_zero j)

variable {a a' : Arena Secondary}

theorem Slot.Launched.extend {vs : List Secondary} (h : T.Launched p L a) (hx : a.Extends a' vs) :
    T.Launched p L a' := by
  obtain ⟨id, mdl, b, T', b', o, hact, hm, hb, hi, hL, hw, ws, hws⟩ := h
  exact ⟨id, mdl, b, T', b', o, hact, hm, hb, hi, hL, hw, ws ++ vs, hws.trans hx⟩

/-- A launched slot is the slot as its model found it, with another stream and an outcome. -/
theorem Slot.Launched.eq (h : T.Launched p L a) :
    ∃ rng o, L = { T with rng, interaction := some o } := by
  obtain ⟨id, mdl, b, T', b', o, -, -, -, hi, rfl, -⟩ := h
  have hs : T' = { T with rng := T'.rng } := by simpa [hi] using Model.interact_slot mdl T b
  exact ⟨T'.rng, o, by rw [hs]⟩

/-- While the models sweep the slots `M`: each slot the sweeps have reached holds what its
model made of it, and every other slot is as it was. -/
structure LaunchTrace (p : Setup) (M : Array Slot) (k m : Nat) (slots : Array Slot)
    (a : Arena Secondary) : Prop where
  wellFormed : a.WellFormed
  slot : ∀ (j : Nat) (T : Slot), M[j]? = some T → ∃ L, slots[j]? = some L ∧
    (T.Reached k m j ∧ T.Launched p L a ∨ ¬ T.Reached k m j ∧ L = T)

variable {slots : Array Slot} {mdl : Model}

theorem LaunchTrace.visit (hmodel : p.physics.model? k = some mdl)
    (h : LaunchTrace p M k m slots a) (hm : m < M.size)
    (hok : (modelKernel p k mdl m (slots.getD m default) a).2.2 = none) :
    LaunchTrace p M k (m + 1) (slots.set! m (modelKernel p k mdl m (slots.getD m default) a).1)
      (modelKernel p k mdl m (slots.getD m default) a).2.1 := by
  obtain ⟨T, hM⟩ : ∃ T, M[m]? = some T := ⟨M[m], Array.getElem?_eq_getElem hm⟩
  obtain ⟨L, hL, hcase⟩ := h.slot m T hM
  have hget : slots.getD m default = L := by simp [Array.getD_eq_getD_getElem?, hL]
  have hms : m < slots.size := (Array.getElem?_eq_some_iff.1 hL).1
  rw [hget] at hok ⊢
  by_cases hrun : T.isAlive = true ∧ T.limit.action = some (.interact k)
  · -- model `k` runs on the slot, which no sweep has reached before
    have hnot : ¬ T.Reached k m m := by
      rintro ⟨id, -, hact, hlt⟩
      rw [hrun.2, Option.some.injEq, LimitAction.interact.injEq] at hact
      omega
    obtain rfl : L = T := by
      rcases hcase with ⟨hr, -⟩ | ⟨-, hLT⟩
      · exact absurd hr hnot
      · exact hLT
    have happ := modelKernel_ok_applies hrun.1 hrun.2 hok
    rw [modelKernel_run p k mdl m a hrun.1 hrun.2 happ] at hok ⊢
    rcases hr : mdl.interact L a with ⟨T', a', _ | o⟩
    · rw [hr] at hok
      cases hok
    · obtain ⟨hx, hw⟩ := Model.interact_extends mdl L h.wellFormed hr
      refine ⟨hx.wellFormed, fun j U hU => ?_⟩
      by_cases hj : j = m
      · subst hj
        rw [hM, Option.some.injEq] at hU
        subst hU
        refine ⟨{ T' with interaction := some o }, by simp [Array.set!_eq_setIfInBounds, hms], ?_⟩
        exact .inl ⟨⟨k, hrun.1, hrun.2, .inr ⟨rfl, Nat.lt_succ_self j⟩⟩,
          k, mdl, a, T', a', o, hrun.2, hmodel, h.wellFormed, hr, rfl, hw, [],
          Arena.Extends.refl hx.wellFormed⟩
      · obtain ⟨L', hL', hc⟩ := h.slot j U hU
        refine ⟨L', by simp [Array.set!_eq_setIfInBounds, Ne.symm hj, hL'],
          ?_⟩
        -- the other slots keep what they held, their reach unchanged
        rw [Slot.reached_succ_of_ne hj]
        rcases hc with ⟨hr', hl⟩ | ⟨hr', rfl⟩
        · exact .inl ⟨hr', hl.extend hx⟩
        · exact .inr ⟨hr', rfl⟩
  · -- model `k` passes the slot by
    have hskip : L.isAlive = false ∨ L.limit.action ≠ some (.interact k) := by
      have hsame : L.isAlive = T.isAlive ∧ L.limit = T.limit := by
        rcases hcase with ⟨-, hl⟩ | ⟨-, rfl⟩
        · obtain ⟨rng, o, rfl⟩ := hl.eq
          exact ⟨rfl, rfl⟩
        · exact ⟨rfl, rfl⟩
      rw [hsame.1, hsame.2]
      by_cases halive : T.isAlive = true
      · exact .inr fun hact => hrun ⟨halive, hact⟩
      · exact .inl (Bool.eq_false_iff.2 halive)
    rw [modelKernel_skip p k mdl m a hskip]
    have hset : slots.set! m L = slots := by
      obtain ⟨hlt, hLe⟩ := Array.getElem?_eq_some_iff.1 hL
      rw [← hLe]
      simp [Array.set!_eq_setIfInBounds, Array.setIfInBounds, hlt]
    rw [hset]
    refine ⟨h.wellFormed, fun j U hU => ?_⟩
    obtain ⟨L', hL', hc⟩ := h.slot j U hU
    refine ⟨L', hL', ?_⟩
    by_cases hj : j = m
    · obtain rfl := hj
      obtain rfl : T = U := Option.some.inj (hM.symm.trans hU)
      rw [Slot.reached_succ_of_passes hrun]
      exact hc
    · rw [Slot.reached_succ_of_ne hj]
      exact hc

theorem LaunchTrace.next (h : LaunchTrace p M k M.size slots a) :
    LaunchTrace p M (k + 1) 0 slots a := by
  refine ⟨h.wellFormed, fun j T hT => ?_⟩
  obtain ⟨L, hL, hc⟩ := h.slot j T hT
  rw [← Slot.reached_next (Array.getElem?_eq_some_iff.1 hT).1]
  exact ⟨L, hL, hc⟩

theorem LaunchTrace.sweep (hmodel : p.physics.model? k = some mdl) {st : CoreState}
    (hsize : st.slots.size = M.size) (h : LaunchTrace p M k 0 st.slots st.secondaries)
    (hok : (sweep mdl.label p.space p.dispatch (modelKernel p k mdl) st).2 = none) :
    LaunchTrace p M (k + 1) 0 (sweep mdl.label p.space p.dispatch (modelKernel p k mdl) st).1.slots
      (sweep mdl.label p.space p.dispatch (modelKernel p k mdl) st).1.secondaries := by
  have hhost := sweep_ok_host _ _ _ _ _ hok
  rw [hhost] at hok ⊢
  have hinv := sweep_host_inv mdl.label (modelKernel p k mdl) p.dispatch st
    (fun m slots a => LaunchTrace p M k m slots a)
    (fun m slots a hm hP _ _ hk => hP.visit hmodel (hsize ▸ hm) hk) h hok
  rw [hsize] at hinv
  exact hinv.next

/-- The model sweeps from id `k` on carry the trace from one model to the next. -/
theorem LaunchTrace.launchFrom :
    ∀ (k : Nat) (ms : List Model) (st : CoreState),
      (∀ i (hi : i < ms.length), p.physics.model? (k + i) = some ms[i]) →
      st.slots.size = M.size → LaunchTrace p M k 0 st.slots st.secondaries →
      (launchFrom p k ms st).2 = none →
      LaunchTrace p M (k + ms.length) 0 (launchFrom p k ms st).1.slots
        (launchFrom p k ms st).1.secondaries
  | k, [], st, _, _, h, _ => h
  | k, mdl :: ms, st, hms, hsize, h, hok => by
    obtain ⟨st', hsw, heq⟩ := launchFrom_cons_ok hok
    rw [heq] at hok ⊢
    have hmodel : p.physics.model? k = some mdl := by
      have h0 := hms 0 (Nat.zero_lt_succ _)
      rwa [List.getElem_cons_zero, Nat.add_zero] at h0
    have h' := LaunchTrace.sweep hmodel hsize h (by rw [hsw])
    rw [hsw] at h'
    have hsize' : st'.slots.size = M.size := by
      rw [← hsize, ← sweep_size mdl.label (modelKernel p k mdl) p.space p.dispatch st, hsw]
    have hrest := LaunchTrace.launchFrom (k + 1) ms st'
      (fun i hi => by
        have hi' := hms (i + 1) (Nat.succ_lt_succ hi)
        rwa [List.getElem_cons_succ, ← Nat.add_assoc, Nat.add_right_comm] at hi')
      hsize' h' hok
    rwa [List.length_cons, Nat.add_comm ms.length, ← Nat.add_assoc]

/-- Run from a well-formed arena, the models leave each slot that an alive track holds, whose
step ended in one of them, as that model made it, and every other slot as it was. -/
theorem launchModels_trace {st : CoreState} (hwf : st.secondaries.WellFormed)
    (hok : (launchModels p st).2 = none) :
    LaunchTrace p st.slots p.physics.models.size 0 (launchModels p st).1.slots
      (launchModels p st).1.secondaries := by
  have h0 : LaunchTrace p st.slots 0 0 st.slots st.secondaries := by
    refine ⟨hwf, fun j T hT => ⟨T, hT, .inr ⟨?_, rfl⟩⟩⟩
    rintro ⟨id, -, -, hlt | ⟨-, hj⟩⟩
    · exact Nat.not_lt_zero id hlt
    · exact Nat.not_lt_zero j hj
  have h := LaunchTrace.launchFrom 0 p.physics.models.toList st
    (fun i hi => by simp [PhysicsParams.model?]) rfl h0 hok
  rwa [Nat.zero_add, Array.length_toList] at h

end Launch

section Draw

variable {p : Setup} {T T' : Slot} {b b' A : Arena Secondary} {o : Interaction} {vs : List Secondary}

/-- The books draw what the model the step ended in did: absorption and kill take the
energy into the deposition, isotropic scattering keeps it, and a pair conversion above
threshold passes it to the pair less `2 mₑ`, or fails when the arena had no room; the
secondaries are read from any arena that extends the one the model wrote. -/
theorem Model.interact_draw {id : Nat} {mdl : Model} (hkeep : mdl.keepsEnergy = true)
    (hm : p.physics.model? id = some mdl) (hact : T.limit.action = some (.interact id))
    (halive : T.isAlive = true) (hb : b.WellFormed) (hi : mdl.interact T b = (T', b', .ok o))
    (hx : b'.Extends A vs) :
    (Cell.ofSlot T).draw Scalar.double (Rates.ofSetup p)
        (Draw.ofSlots p.physics T { T' with interaction := some o }) =
      some (some (Yield.ofInteraction A o),
        if Slot.converted p.physics { T' with interaction := some o } then 1 else 0) := by
  have hT' : T' = { T with rng := T'.rng } := by simpa [hi] using Model.interact_slot mdl T b
  cases mdl with
  | absorption label range xs =>
    simp only [Model.interact, Prod.mk.injEq, Except.ok.injEq] at hi
    obtain ⟨rfl, rfl, rfl⟩ := hi
    simp [Draw.ofSlots, hact, hm, Cell.draw, halive, Slot.converted, Yield.ofInteraction,
      Interaction.absorbed, Scalar.double]
  | kill label range xs =>
    simp only [Model.interact, Prod.mk.injEq, Except.ok.injEq] at hi
    obtain ⟨rfl, rfl, rfl⟩ := hi
    simp [Draw.ofSlots, hact, hm, Cell.draw, halive, Slot.converted, Yield.ofInteraction,
      Interaction.absorbed, Scalar.double]
  | isotropic label range xs =>
    simp only [Model.interact, Prod.mk.injEq, Except.ok.injEq] at hi
    obtain ⟨rfl, rfl, rfl⟩ := hi
    simp [Draw.ofSlots, hact, hm, Cell.draw, halive, Slot.converted, Yield.ofInteraction,
      Interaction.scattered, Scalar.double]
  | pair gamma electron positron xs =>
    dsimp only [Model.interact] at hi
    split at hi
    · -- below threshold the model refuses the track
      simp at hi
    · rename_i hthr
      split at hi
      · -- no room for the pair: the conversion fails
        rename_i e a1 halloc
        simp only [Prod.mk.injEq, Except.ok.injEq] at hi
        obtain ⟨rfl, rfl, rfl⟩ := hi
        simp [Draw.ofSlots, hact, hm, Cell.draw, halive, Slot.converted, Yield.ofInteraction,
          Interaction.failed, Scalar.double, Rates.ofSetup, hthr]
      · rename_i span a1 halloc
        split at hi
        · rename_i hwr
          simp only [Prod.mk.injEq, Except.ok.injEq] at hi
          obtain ⟨rfl, rfl, rfl⟩ := hi
          -- the pair is read back from the span it was written in
          have hget : A.get span =
              [⟨electron, T.rng.uniform.1 * (T.energy - 2.0 * electronMass), T.dir⟩,
               ⟨positron, (1.0 - T.rng.uniform.1) * (T.energy - 2.0 * electronMass), T.dir⟩] := by
            obtain ⟨-, hg, hw⟩ := @Arena.allocate_writeAll _ _ _ _
              [⟨electron, T.rng.uniform.1 * (T.energy - 2.0 * electronMass), T.dir⟩,
                ⟨positron, (1.0 - T.rng.uniform.1) * (T.energy - 2.0 * electronMass), T.dir⟩]
              _ hb halloc (Prod.ext rfl hwr)
            rw [hx.get_within hw, hg]
          simp [Draw.ofSlots, hact, hm, Cell.draw, halive, Slot.converted, Yield.ofInteraction,
            Interaction.absorbed, Scalar.double, Rates.ofSetup, hthr, hget]
          exact halive
        · simp at hi
  | emit | faulty | fixed => simp [Model.keepsEnergy] at hkeep

/-- The books draw what the models did to a slot: the outcome of the model its step ended
in, read from the arena after the models, or nothing for a slot no model ran on. -/
theorem Slot.launch_draw {n : Nat} (hkeep : ∀ mdl ∈ p.physics.models, mdl.keepsEnergy = true)
    (hnone : T.isAlive = true → T.interaction = none)
    (hcase : T.Reached n 0 j ∧ T.Launched p L A ∨ ¬ T.Reached n 0 j ∧ L = T)
    (hn : n = p.physics.models.size) :
    (Cell.ofSlot T).draw Scalar.double (Rates.ofSetup p) (Draw.ofSlots p.physics T L) =
      some (if T.isAlive then L.interaction.map (Yield.ofInteraction A) else none,
        if L.converted p.physics then 1 else 0) ∧
      Cell.ofSlot L = Cell.ofSlot T ∧ L.deposition = T.deposition := by
  rcases hcase with ⟨⟨id', halive, -, -⟩, id, mdl, b, T', b', o, hact, hm, hb, hi, rfl, -, vs, hx⟩ |
    ⟨hnot, hLT⟩
  · have hT' : T' = { T with rng := T'.rng } := by simpa [hi] using Model.interact_slot mdl T b
    refine ⟨?_, by rw [hT']; rfl, by rw [hT']⟩
    rw [Model.interact_draw (hkeep mdl (Array.mem_of_getElem? hm)) hm hact halive hb hi hx, halive]
    rfl
  · rw [hLT]
    refine ⟨?_, rfl, rfl⟩
    by_cases halive : T.isAlive = true
    · -- an alive track no model ran on: its step ended in none of them
      have hpass : ∀ id, T.limit.action = some (.interact id) → p.physics.model? id = none := by
        intro id hact
        apply Array.getElem?_eq_none
        rw [← hn]
        exact Nat.le_of_not_lt fun hlt => hnot ⟨id, halive, hact, .inl hlt⟩
      have hdraw : Draw.ofSlots p.physics T T = .none := by
        unfold Draw.ofSlots
        split
        · rename_i id hact
          rw [hpass id hact]
        · rfl
      have hconv : T.converted p.physics = false := by
        unfold Slot.converted
        split
        · rename_i id hact
          simp [hpass id hact]
        · simp
      simp [hdraw, Cell.draw, halive, hnone halive, hconv]
    · have hdead : T.isAlive = false := Bool.eq_false_iff.2 halive
      simp [Cell.draw, hdead, Slot.converted]

end Draw

/-! ## The post-step -/

section Settle

variable {p : Setup} {L P u : Slot} {o : Interaction} {A : Arena Secondary}

/-- Taking an outcome in the books is taking it in the slot. -/
theorem applyOutcome_cell (h : applyOutcome L o = .ok u) (A : Arena Secondary) :
    Cell.ofSlot u = (Cell.ofSlot L).take Scalar.double (Yield.ofInteraction A o) ∧
      u.deposition = L.deposition := by
  unfold applyOutcome at h
  split at h
  · rename_i hout
    cases h
    simp [Cell.take, Yield.ofInteraction, hout]
  · rename_i hout
    split at h
    · cases h
    · split at h
      · cases h
      · cases h
        simp [Cell.take, Yield.ofInteraction, hout, Cell.ofSlot]
  · rename_i hout
    cases h
    simp [Cell.take, Yield.ofInteraction, hout, Cell.ofSlot, Slot.kill, Scalar.double]
  · rename_i hout
    cases h
    simp [Cell.take, Yield.ofInteraction, hout, Cell.ofSlot]

/-- The books' post-step is the engine's: the outcome taken, the local deposit with the
secondaries below their production cutoff, and a spent track stopped. -/
theorem processInteraction_settle (hP : processInteraction p L A = (P, none)) :
    (Cell.ofSlot L).settle Scalar.double (Rates.ofSetup p)
        (if L.track.isSome then L.deposition else 0.0)
        (if L.isAlive then L.interaction.map (Yield.ofInteraction A) else none) =
      (Cell.ofSlot P, if P.track.isSome then P.deposition else 0.0) := by
  rcases processInteraction_spec p L A with ⟨hcase, h⟩ | ⟨e, h⟩ | ⟨o, u, halive, hint, hu, hcut⟩
  · rw [h, Prod.mk.injEq] at hP
    obtain ⟨rfl, -⟩ := hP
    rcases hcase with hdead | hnone
    · simp [Cell.settle, hdead]
    · simp [Cell.settle, hnone]
  · rw [h] at hP
    cases hP
  · obtain ⟨hcell, hdep⟩ := applyOutcome_cell hu A
    have ht : L.track.isSome = true := (Slot.isAlive_iff.1 halive).1
    have htu : u.track = L.track := congrArg Prod.fst (Slot.holding_of_kept (applyOutcome_kept hu))
    simp only [Cell.settle, Cell.isAlive_ofSlot, halive, hint, ht, if_true, Option.map_some,
      Bool.not_true, Bool.false_eq_true, if_false]
    rw [← hcell]
    -- the secondaries below their cutoff, read as the engine reads them
    have hbelow : Scalar.double.sum ((((Yield.ofInteraction A o).secondaries.filter fun x =>
        Scalar.double.lt x.2 ((Rates.ofSetup p).production x.1))).map (·.2)) =
        sumFrom (((A.get o.secondaries).filter fun x =>
          x.energy < (p.cutoffs.get x.particle).production).map (·.energy)) := by
      simp [Scalar.sum, sumFrom, Yield.ofInteraction, List.filter_map, Scalar.double,
        Rates.ofSetup, Function.comp_def]
    rw [hbelow]
    rcases hcut with ⟨hspent, h⟩ | ⟨hspent, h⟩ <;> rw [h, Prod.mk.injEq] at hP <;>
      obtain ⟨rfl, -⟩ := hP
    · rw [if_pos (by simpa [Cell.spent, Scalar.double, Rates.ofSetup] using hspent)]
      simp [Cell.ofSlot, Slot.kill, Scalar.double, Yield.ofInteraction, hdep, htu, ht]
    · rw [if_neg (by simpa [Cell.spent, Scalar.double, Rates.ofSetup] using hspent)]
      simp [Cell.ofSlot, Scalar.double, Yield.ofInteraction, hdep, htu, ht]

end Settle

/-! ## One slot's step -/

section Turn

variable {p : Setup} {S T L P : Slot} {A : Arena Secondary} {y : Option (Yield Float)} {n : Nat}

/-- A slot's step in the books is its step in the engine: the along-step, the model, the
post-step. -/
theorem Cell.turn_ofSlot (bin : Bin) (hS : S.track.isSome = true → S.deposition = 0.0)
    (hT : alongStep p S = (T, none))
    (hdraw : (Cell.ofSlot T).draw Scalar.double (Rates.ofSetup p) (Draw.ofSlots p.physics T L) =
      some (y, n))
    (hy : y = if T.isAlive then L.interaction.map (Yield.ofInteraction A) else none)
    (hcell : Cell.ofSlot L = Cell.ofSlot T) (hdep : L.deposition = T.deposition)
    (hP : processInteraction p L A = (P, none)) :
    (Cell.ofSlot S).turn Scalar.double (Rates.ofSetup p)
        ⟨Motion.ofSlots S T, Draw.ofSlots p.physics T L, bin⟩ =
      ⟨Cell.ofSlot P, if P.track.isSome then P.deposition else 0.0, y, n, bin, false⟩ := by
  have hsettle := processInteraction_settle hP
  have hheld : L.track.isSome = T.track.isSome := congrArg Cell.held hcell
  have halive : L.isAlive = T.isAlive := congrArg Cell.isAlive hcell
  rw [hcell, hheld, hdep, halive, ← hy] at hsettle
  have hmove := alongStep_books p S (by rw [hT]) hS
  have htrack : T.track = S.track := by
    have h := alongStep_track p S
    rwa [hT] at h
  rw [hT] at hmove
  simp only [Cell.turn, hmove, hdraw]
  rw [← htrack]
  exact congrArg (fun r => (⟨r.1, r.2, y, n, bin, false⟩ : Tally Float)) hsettle

/-- The books queue what the harvest queues from the slot: its outcome's secondaries at or
above their production cutoff. -/
theorem Tally.promoted_ofSlot {d : Float} {b : Bin} {r : Bool}
    (hy : y = if T.isAlive then L.interaction.map (Yield.ofInteraction A) else none)
    (hhold : P.holding = L.holding)
    (hquiet : L.track.isSome = true → T.isAlive = false → L.interaction = none) :
    Tally.promoted Scalar.double (Rates.ofSetup p) ⟨Cell.ofSlot P, d, y, n, b, r⟩ =
      (P.promoted p.cutoffs A).map fun x => (x.particle, x.energy) := by
  simp only [Slot.holding, Prod.mk.injEq] at hhold
  obtain ⟨htrack, hint⟩ := hhold
  unfold Tally.promoted Slot.promoted
  cases ht : P.track with
  | none => simp [ht]
  | some id =>
    have hL : L.track.isSome = true := by rw [← htrack, ht]; rfl
    cases halive : T.isAlive with
    | false =>
      simp [ht, hy, halive, hint, hquiet hL halive]
    | true =>
      cases ho : L.interaction with
      | none => simp [ht, hy, halive, hint, ho]
      | some o =>
        simp [ht, hy, halive, hint, ho, Yield.ofInteraction, List.filter_map, Function.comp_def,
          Scalar.double, Rates.ofSetup]

end Turn

/-! ## The histogram -/

section Histogram

variable {h h₀ : Histogram}

/-- The bins of a value depend only on the edges and the number of bins. -/
theorem Histogram.bin_congr (he : h.edges = h₀.edges) (hs : h.values.size = h₀.values.size)
    (x : Float) : h.bin x = h₀.bin x := by
  unfold Histogram.bin Histogram.numBins
  rw [he, hs]

/-- A fill adds the weight where `Bin.of` puts its value, and keeps the binning. -/
theorem Histogram.fill_books (he : h.edges = h₀.edges) (hs : h.values.size = h₀.values.size)
    (x w : Float) :
    (h.fill x w).edges = h₀.edges ∧ (h.fill x w).values.size = h₀.values.size ∧
      ((h.fill x w).values.toList, (h.fill x w).underflow, (h.fill x w).overflow) =
        (Bin.of h₀ x).add Scalar.double w (h.values.toList, h.underflow, h.overflow) := by
  unfold Histogram.fill Bin.of
  rw [Histogram.bin_congr he hs]
  cases h₀.bin x with
  | some i => simp [he, hs, Bin.add, Scalar.double]
  | none =>
    by_cases hx : x < h₀.edges[0]?.getD 0.0
    · simp [he, hs, hx, Bin.add, Scalar.double]
    · simp [he, hs, hx, Bin.add, Scalar.double]

/-- The energy map fills the slots' positive depositions as the books fill their tallies,
each at the bin of its slot's position. -/
theorem EnergyMap.fill_books (h₀ : Histogram) (ss : List Slot) (ts : List (Tally Float))
    (hrel : List.Forall₂ (fun s t => t.cell.held = s.track.isSome ∧
      t.deposit = (if s.track.isSome then s.deposition else 0.0) ∧
      t.bin = Bin.of h₀ s.pos.x) ss ts) :
    ∀ h : Histogram, h.edges = h₀.edges → h.values.size = h₀.values.size →
      ∃ h', ss.foldl (fun h s =>
          if s.track.isSome && s.deposition > 0.0 then h.fill s.pos.x s.deposition else h) h = h' ∧
        h'.edges = h₀.edges ∧ h'.values.size = h₀.values.size ∧
        (h'.values.toList, h'.underflow, h'.overflow) =
          ts.foldl (Tally.fill Scalar.double) (h.values.toList, h.underflow, h.overflow) := by
  induction hrel with
  | nil => exact fun h he hs => ⟨h, rfl, he, hs, rfl⟩
  | @cons s t ss ts hst hrest ih =>
    intro h he hs
    obtain ⟨hheld, hdep, hbin⟩ := hst
    simp only [List.foldl_cons]
    by_cases hfill : (s.track.isSome && s.deposition > 0.0) = true
    · -- a held slot with a positive deposition: filled at its bin
      obtain ⟨hheld', hpos⟩ := Bool.and_eq_true _ _ ▸ hfill
      obtain ⟨he', hs', hbooks⟩ := Histogram.fill_books he hs s.pos.x s.deposition
      have hdep' : t.deposit = s.deposition := by rw [hdep, if_pos hheld']
      have ht : (t.cell.held && Scalar.double.lt Scalar.double.zero t.deposit) = true := by
        rw [hheld, hheld', hdep']
        simpa [Scalar.double] using hpos
      rw [if_pos hfill, Tally.fill, if_pos ht, hbin, hdep', ← hbooks]
      exact ih _ he' hs'
    · -- otherwise neither side fills anything
      have ht : (t.cell.held && Scalar.double.lt Scalar.double.zero t.deposit) = false := by
        by_cases hheld' : s.track.isSome = true
        · have hpos : ¬ s.deposition > 0.0 := by simpa [hheld'] using hfill
          rw [hheld, hheld', hdep, if_pos hheld']
          simpa [Scalar.double] using hpos
        · rw [hheld, Bool.eq_false_iff.2 hheld', Bool.false_and]
      rw [if_neg hfill, Tally.fill, if_neg (by rw [ht]; decide)]
      exact ih h he hs

end Histogram

/-! ## Admission -/

section Admission

variable {g : Geometry} {seed : UInt64} {space : Space} {dispatch : Dispatch} {st : CoreState}
  {n : Nat}

/-- Starting the paired tracks one after the other fills their slots in the books. -/
theorem startPairs_books (g : Geometry) (seed : UInt64) :
    ∀ (pairs : List (Nat × Nat × Initializer)) (slots : Array Slot),
      (startPairs g seed pairs slots).toList.map Cell.ofSlot =
        (pairs.map fun q => (q.1, (q.2.2.particle, q.2.2.energy))).foldl
          (fun cs e => cs.set e.1 (Cell.enter e.2)) (slots.toList.map Cell.ofSlot)
  | [], _ => rfl
  | q :: qs, slots => by
    have hstart : ∀ s, Cell.ofSlot (Slot.start g seed q.2.1 q.2.2 s) =
        Cell.enter (q.2.2.particle, q.2.2.energy) := fun _ => rfl
    have hset : (slots.modify q.1 (Slot.start g seed q.2.1 q.2.2)).toList.map Cell.ofSlot =
        (slots.toList.map Cell.ofSlot).set q.1 (Cell.enter (q.2.2.particle, q.2.2.energy)) := by
      apply List.ext_getElem
      · simp
      · intro i _ _
        simp only [List.getElem_map, Array.toList_modify, List.getElem_modify, List.getElem_set]
        split <;> simp [hstart]
    rw [List.map_cons, List.foldl_cons, ← hset, ← startPairs_books g seed qs]
    rfl

/-- The books admit the top initializers into the slots the initialization fills: a
successful initialization takes the books of the state to the books of the state it leaves. -/
theorem initializeTracks_books (hinv : VacancyInv st)
    (hok : (initializeTracks g seed space dispatch st).2 = .ok n) (h : Histogram) :
    (Books.view st h).seat Scalar.double (st.init.popPairs.1.map (·.1)) =
      some (Books.view (initializeTracks g seed space dispatch st).1 h) := by
  have hst : (initializeTracks g seed space dispatch st).1 =
      { st with slots := startPairs g seed st.init.popPairs.1 st.slots,
                init := st.init.popPairs.2 } := by
    rw [initializeTracks_ok_host hok, initializeTracks_host_eq g seed dispatch hinv.nodup,
      sequentialInit_eq]
  -- the filled slots take the popped initializers, the top one first
  have hent : (st.init.popPairs.1.map (·.1)).zip (Books.view st h).pending.reverse =
      st.init.popPairs.1.map fun q => (q.1, (q.2.2.particle, q.2.2.energy)) := by
    have horder := st.init.popPairs_pop_order
    simp only [Books.view, ← List.map_reverse, horder, List.map_append, List.map_map]
    rw [← List.append_nil (st.init.popPairs.1.map (·.1)),
      List.zip_append (by simp), List.zip_nil_left, List.append_nil, List.zip_map']
    rfl
  -- the filled slots are vacancies, so empty in the books
  have hvac : ∀ i ∈ st.init.popPairs.1.map (·.1), i ∈ st.init.vacancies.toList := by
    intro i hi
    rw [InitBuffer.popPairs_threads, List.mem_reverse] at hi
    exact List.mem_of_mem_drop hi
  have hfree : ∀ i ∈ st.init.popPairs.1.map (·.1),
      (Books.view st h).cells[i]?.map (·.held) = some false := by
    intro i hi
    have hnone := (hinv.mem_iff i).1 (hvac i hi)
    rcases hs : st.slots[i]? with _ | sl
    · simp [hs] at hnone
    · simp only [hs, Option.map_some, Option.some.injEq] at hnone
      simp [Books.view, hs, hnone]
  -- every popped initializer started a track, so none has an energy below zero
  have hstart := (initializeTracks_isOk_iff g seed dispatch space hinv.nodup).1
    (by rw [hok]; rfl)
  have hall : ((st.init.popPairs.1.map fun q => (q.1, (q.2.2.particle, q.2.2.energy))).all
      fun e => Scalar.double.le Scalar.double.zero e.2.2) = true := by
    rw [List.all_eq_true]
    intro e he
    obtain ⟨q, hq, rfl⟩ := List.mem_map.1 he
    obtain ⟨-, hge, -⟩ := hstart q hq (hinv.lt_size (hvac q.1 (List.mem_map_of_mem hq)))
    simpa [Scalar.double] using hge
  unfold Books.seat
  rw [hent, if_pos ⟨st.init.popPairs_threads_nodup hinv.nodup, hfree, hall⟩, hst]
  simp only [Books.view, startPairs_books, Option.some.injEq]
  -- the rest of the stack stays pending
  rw [InitBuffer.popPairs_rest, ← List.map_take]
  simp

/-- Loading primaries loads them in the books. -/
theorem Stepper.loadPrimaries_books {s s' : Stepper} {ps : List Primary}
    (hload : s.loadPrimaries ps = .ok s') (h : Histogram) :
    Books.view s'.state h =
      (Books.view s.state h).load (ps.map fun x => (x.particle, x.energy)) := by
  unfold Stepper.loadPrimaries at hload
  split at hload
  · rename_i init hinit
    cases hload
    unfold InitBuffer.extendFromPrimaries at hinit
    dsimp only at hinit
    split at hinit
    · cases hinit
    · cases hinit
      simp [Books.view, Books.load, Primary.toInitializer, List.map_reverse]
  · cases hload

end Admission

/-! ## The step, slot by slot -/

section Stages

variable {p : Setup} {st : CoreState} {n i : Nat}

theorem Slot.startStep_reset (s : Slot) (h : s.startStep.track.isSome = true) :
    s.startStep.deposition = 0.0 ∧ s.startStep.interaction = none := by
  unfold Slot.startStep at h ⊢
  split
  · rename_i hnone
    simp [Option.isNone_iff_eq_none.1 hnone] at h
  · exact ⟨rfl, rfl⟩

theorem processSweep_slot {L : Slot} {j : Nat} (hok : (processSweep p st).2 = none)
    (hL : st.slots[j]? = some L) :
    processInteraction p L st.secondaries = ((processSweep p st).1.slots.getD j default, none) := by
  have hhost := sweep_ok_host _ _ _ _ _ hok
  unfold processSweep at hhost hok ⊢
  rw [hhost] at hok ⊢
  obtain ⟨-, hslots, hnone⟩ := sweep_host_fixed _ _ _ _ (fun _ _ => rfl) hok
  have hP := hslots j
  rw [hL, Option.map_some] at hP
  have hn := hnone j L hL
  simp only [Array.getD_eq_getD_getElem?, hP, Option.getD_some]
  exact Prod.ext rfl hn

/-- Slot `i` through the stages of a step with the standard actions that succeeds from a
clear arena: the reset slot `S` moves to `T`, the models make `L` of it, and the post-step
`P`. -/
theorem CoreState.slot_stages (hclear : st.secondaries.Clear)
    (halong : (alongStepSweep p (st.started p)).2 = none)
    (hmodels : (launchModels p (st.moved p)).2 = none)
    (hproc : (processSweep p (st.launched p)).2 = none) (hi : i < st.slots.size) :
    let S := (st.started p).slots.getD i default
    let T := (st.moved p).slots.getD i default
    let L := (st.launched p).slots.getD i default
    let P := (st.staged p).slots.getD i default
    (S.track.isSome = true → S.deposition = 0.0 ∧ S.interaction = none) ∧
      alongStep p S = (T, none) ∧
      (T.Reached p.physics.models.size 0 i ∧ T.Launched p L (st.launched p).secondaries ∨
        ¬ T.Reached p.physics.models.size 0 i ∧ L = T) ∧
      processInteraction p L (st.launched p).secondaries = (P, none) := by
  intro S T L P
  obtain ⟨X, hX⟩ : ∃ X, (initializeTracks p.geometry p.seed p.space p.dispatch st).1.slots[i]? =
      some X := ⟨_, Array.getElem?_eq_getElem (by rw [initializeTracks_size]; exact hi)⟩
  have hS : (st.started p).slots[i]? = some X.startStep := startStep_slot _ _ hX
  have hSX : S = X.startStep := by simp [S, Array.getD_eq_getD_getElem?, hS]
  obtain ⟨hnone, hT⟩ := alongStepSweep_slot halong hS
  have hTX : T = (alongStep p X.startStep).1 := by
    simp [T, CoreState.moved_eq, Array.getD_eq_getD_getElem?, hT]
  have hwf : (st.moved p).secondaries.WellFormed := by
    rw [CoreState.moved_secondaries]
    exact hclear.toWellFormed
  obtain ⟨L', hL', hcase⟩ := (launchModels_trace hwf hmodels).slot i T
    (by rw [CoreState.moved_eq, hTX]; exact hT)
  have hLL : L = L' := by simp [L, CoreState.launched, Array.getD_eq_getD_getElem?, hL']
  refine ⟨fun hs => ?_, ?_, ?_, ?_⟩
  · rw [hSX] at hs ⊢
    exact X.startStep_reset hs
  · rw [hSX, hTX]
    exact Prod.ext rfl hnone
  · rw [hLL]
    exact hcase
  · rw [hLL]
    exact processSweep_slot hproc hL'

theorem Cell.ofSlot_startStep (s : Slot) : Cell.ofSlot s.startStep = (Cell.ofSlot s).begin := by
  unfold Slot.startStep Cell.begin
  cases ht : s.track with
  | none => simp [ht]
  | some t => simp [ht, Cell.ofSlot]

/-- The books begin the step where the engine's reset does. -/
theorem startStep_books (space : Space) (dispatch : Dispatch) (st : CoreState) :
    (st.slots.toList.map Cell.ofSlot).map Cell.begin =
      (startStep space dispatch st).1.slots.toList.map Cell.ofSlot := by
  apply List.ext_getElem
  · simp [startStep]
  · intro j h₁ h₂
    have hj : j < st.slots.size := by simpa using h₁
    have hs := startStep_slot space dispatch (Array.getElem?_eq_getElem hj)
    rw [Array.getElem?_eq_some_iff] at hs
    obtain ⟨hj', hs⟩ := hs
    simp [hs, Cell.ofSlot_startStep]

/-- From the start of the along-step on, the stages keep the initializer buffer and each
slot's lineage. -/
theorem CoreState.staged_frame (p : Setup) (st : CoreState) :
    LineageFrame (st.started p) (st.staged p) :=
  (lineageFrame_alongStepSweep p _).trans
    ((lineageFrame_launchModels p _).trans (lineageFrame_processSweep p _))

theorem CoreState.started_size (p : Setup) (st : CoreState) :
    (st.started p).slots.size = st.slots.size := by
  rw [CoreState.started, startStep, sweep_size, initializeTracks_size]

theorem CoreState.staged_size (p : Setup) (st : CoreState) :
    (st.staged p).slots.size = st.slots.size :=
  (st.staged_frame p).population.size_eq.trans (st.started_size p)

theorem CoreState.launched_size (p : Setup) (st : CoreState) :
    (st.launched p).slots.size = st.slots.size :=
  ((lineageFrame_alongStepSweep p _).trans
    (lineageFrame_launchModels p _)).population.size_eq.trans (st.started_size p)

theorem CoreState.staged_init (p : Setup) (st : CoreState) :
    (st.staged p).init = st.init.popPairs.2 := by
  rw [(st.staged_frame p).init, CoreState.started, startStep, sweep_init, initializeTracks_init]

theorem CoreState.staged_secondaries (p : Setup) (st : CoreState) :
    (st.staged p).secondaries = (st.launched p).secondaries :=
  sweep_secondaries _ _ _ _ _ fun _ _ _ => rfl

/-- A list built slot by slot reads the slots in order. -/
theorem Array.range_map_getD {β : Type} (a : Array Slot) (f : Slot → β) :
    (List.range a.size).map (fun i => f (a.getD i default)) = a.toList.map f := by
  apply List.ext_getElem
  · simp
  · intro j h₁ h₂
    have hj : j < a.size := by simpa using h₂
    simp [Array.getD_eq_getD_getElem?, Array.getElem?_eq_getElem hj]

end Stages

section Tallies

variable {s : Stepper} {h : Histogram} {i : Nat}

/-- Slot `i`'s tally in the books of a step of `s`, read off the states the step passes
through: its slot after the post-step, its deposition, the outcome of its model, its pair
conversion and its bin. -/
def Stepper.tally (s : Stepper) (h : Histogram) (i : Nat) : Tally Float :=
  let p := s.setup
  let T := (s.state.moved p).slots.getD i default
  let L := (s.state.launched p).slots.getD i default
  let P := (s.state.staged p).slots.getD i default
  ⟨Cell.ofSlot P, if P.track.isSome then P.deposition else 0.0,
    if T.isAlive then L.interaction.map (Yield.ofInteraction (s.state.launched p).secondaries)
    else none,
    if L.converted p.physics then 1 else 0, Bin.of h P.pos.x, false⟩

/-- A held track holds no outcome after an along-step from a reset slot. -/
theorem alongStep_quiet {p : Setup} {S T : Slot}
    (hS : S.track.isSome = true → S.deposition = 0.0 ∧ S.interaction = none)
    (hT : alongStep p S = (T, none)) (ht : T.track.isSome = true) : T.interaction = none := by
  have hhold := alongStep_holding p S
  rw [hT] at hhold
  simp only [Slot.holding, Prod.mk.injEq] at hhold
  rw [hhold.2]
  exact (hS (hhold.1 ▸ ht)).2

variable (hclear : s.state.secondaries.Clear)
  (halong : (alongStepSweep s.setup (s.state.started s.setup)).2 = none)
  (hmodels : (launchModels s.setup (s.state.moved s.setup)).2 = none)
  (hproc : (processSweep s.setup (s.state.launched s.setup)).2 = none)

include hclear halong hmodels hproc

/-- Each slot's turn in the books of a step gives its tally. -/
theorem Stepper.turn_at (hkeep : ∀ m ∈ s.setup.physics.models, m.keepsEnergy = true)
    (hi : i < s.state.slots.size) :
    (Cell.ofSlot ((s.state.started s.setup).slots.getD i default)).turn Scalar.double
        (Rates.ofSetup s.setup) ((Round.ofStep s h).turns i) = s.tally h i := by
  obtain ⟨hS, hT, hcase, hP⟩ := CoreState.slot_stages hclear halong hmodels hproc hi
  obtain ⟨hdraw, hcell, hdep⟩ := Slot.launch_draw (A := (s.state.launched s.setup).secondaries)
    hkeep (fun halive => alongStep_quiet hS hT (Slot.isAlive_iff.1 halive).1) hcase rfl
  exact Cell.turn_ofSlot _ (fun h => (hS h).1) hT hdraw rfl hcell hdep hP

/-- A slot the books queue secondaries from holds an outcome its along-step left alive. -/
theorem Stepper.promoted_at (hi : i < s.state.slots.size) :
    Tally.promoted Scalar.double (Rates.ofSetup s.setup) (s.tally h i) =
      (((s.state.staged s.setup).slots.getD i default).promoted s.setup.cutoffs
        (s.state.launched s.setup).secondaries).map fun x => (x.particle, x.energy) := by
  obtain ⟨hS, hT, hcase, hP⟩ := CoreState.slot_stages hclear halong hmodels hproc hi
  have hhold := Slot.holding_of_kept (processInteraction_kept s.setup
    ((s.state.launched s.setup).slots.getD i default) (s.state.launched s.setup).secondaries)
  rw [hP] at hhold
  refine Tally.promoted_ofSlot rfl hhold fun hL hdead => ?_
  rcases hcase with ⟨⟨id, halive, -⟩, -⟩ | ⟨-, hLT⟩
  · rw [halive] at hdead
    cases hdead
  · rw [hLT] at hL ⊢
    exact alongStep_quiet hS hT hL

/-- The tallies of a step's books are the slots' tallies, in slot order. -/
theorem Stepper.tallies_eq (hkeep : ∀ m ∈ s.setup.physics.models, m.keepsEnergy = true) :
    Books.tallies Scalar.double (Rates.ofSetup s.setup) (Round.ofStep s h)
        (Books.view (initializeTracks s.setup.geometry s.setup.seed s.setup.space
          s.setup.dispatch s.state).1 h) =
      (List.range s.state.slots.size).map (s.tally h) := by
  have hcells : (Books.view (initializeTracks s.setup.geometry s.setup.seed s.setup.space
      s.setup.dispatch s.state).1 h).cells.map Cell.begin =
        (s.state.started s.setup).slots.toList.map Cell.ofSlot :=
    startStep_books _ _ _
  unfold Books.tallies
  rw [hcells]
  apply List.ext_getElem
  · simp [CoreState.started_size]
  · intro j h₁ h₂
    have hj : j < s.state.slots.size := by simpa using h₂
    rw [List.getElem_mapIdx, List.getElem_map, List.getElem_map, List.getElem_range,
      Array.getElem_toList, Array.getElem_eq_getD default]
    exact Stepper.turn_at hclear halong hmodels hproc hkeep hj

/-- The books queue what the harvest of the staged slots queues. -/
theorem Stepper.tally_promoted :
    ((List.range s.state.slots.size).map (s.tally h)).flatMap
        (Tally.promoted Scalar.double (Rates.ofSetup s.setup)) =
      ((s.state.staged s.setup).harvest s.setup.cutoffs).map fun x => (x.particle, x.energy) := by
  have hslot : ∀ i ∈ List.range s.state.slots.size,
      Tally.promoted Scalar.double (Rates.ofSetup s.setup) (s.tally h i) =
        (((s.state.staged s.setup).slots.getD i default).promoted s.setup.cutoffs
          (s.state.launched s.setup).secondaries).map fun x => (x.particle, x.energy) :=
    fun i hi => Stepper.promoted_at hclear halong hmodels hproc (List.mem_range.1 hi)
  rw [List.flatMap_map, List.flatMap_congr hslot, CoreState.harvest,
    CoreState.staged_secondaries, List.map_flatMap, List.flatMap_def, List.flatMap_def,
    ← CoreState.staged_size s.setup, Array.range_map_getD (s.state.staged s.setup).slots
      fun t => (t.promoted s.setup.cutoffs (s.state.launched s.setup).secondaries).map
        fun x => (x.particle, x.energy)]

end Tallies

/-! ## The books after the step -/

section After

variable {s : Stepper} {h : Histogram}

theorem Cell.ofSlot_cleanup (s : Slot) :
    Cell.ofSlot (if s.reclaimable then s.vacate else s) = (Cell.ofSlot s).reclaim := by
  unfold Cell.reclaim Slot.reclaimable
  by_cases hr : (s.track.isSome && s.status == .killed) = true
  · simp [hr, Slot.vacate, Cell.ofSlot]
  · simp [hr]

/-- Cleanup reclaims the slots the books reclaim. -/
theorem cleanup_books (st : CoreState) :
    (cleanup st).1.slots.toList.map Cell.ofSlot = (st.slots.toList.map Cell.ofSlot).map Cell.reclaim := by
  apply List.ext_getElem
  · simp [cleanup_size]
  · intro j h₁ h₂
    have hj := cleanup_slots st j
    rw [Array.getElem?_eq_getElem (by simpa using h₁),
      Array.getElem?_eq_getElem (by simpa using h₂), Option.map_some, Option.some.injEq] at hj
    simp [hj, Cell.ofSlot_cleanup]

theorem Stepper.tally_cells :
    ((List.range s.state.slots.size).map (s.tally h)).map (·.cell) =
      (s.state.staged s.setup).slots.toList.map Cell.ofSlot := by
  rw [List.map_map, ← CoreState.staged_size s.setup, ← Array.range_map_getD]
  rfl

/-- The energy the books find in the reclaimed slots is what the staged slots hold when cleanup
reclaims them. -/
theorem Stepper.tally_escaped :
    ((List.range s.state.slots.size).map (s.tally h)).map (Tally.escaped Scalar.double) =
      (s.state.staged s.setup).slots.toList.map fun t => if t.reclaimable then t.energy else 0.0 := by
  rw [List.map_map, ← CoreState.staged_size s.setup, ← Array.range_map_getD]
  rfl

/-- The books count one pair conversion per slot the models converted. -/
theorem Stepper.tally_pairs :
    (((List.range s.state.slots.size).map (s.tally h)).map (·.pairs)).sum =
      ((s.state.launched s.setup).slots.toList.filter (Slot.converted s.setup.physics)).length := by
  rw [List.map_map, ← CoreState.launched_size s.setup]
  have hpairs := Array.range_map_getD (s.state.launched s.setup).slots
    fun L => if L.converted s.setup.physics then 1 else 0
  rw [show (·.pairs) ∘ s.tally h = fun i =>
    if ((s.state.launched s.setup).slots.getD i default).converted s.setup.physics then 1 else 0
    from rfl, hpairs]
  simp [List.sum_map_ite]

/-- The books fill each slot's tally where the energy map fills the staged slot. -/
theorem Stepper.tally_fill :
    List.Forall₂ (fun s t => t.cell.held = s.track.isSome ∧
      t.deposit = (if s.track.isSome then s.deposition else 0.0) ∧ t.bin = Bin.of h s.pos.x)
      (s.state.staged s.setup).slots.toList ((List.range s.state.slots.size).map (s.tally h)) := by
  rw [List.forall₂_iff_get]
  refine ⟨by simp [CoreState.staged_size], fun j h₁ _ => ?_⟩
  have hj : j < (s.state.staged s.setup).slots.size := by simpa using h₁
  simp [Stepper.tally, Array.getD_eq_getD_getElem?, Array.getElem?_eq_getElem hj]

theorem DiagnosticSet.midStep_energy (d : DiagnosticSet) (p : Setup) (st : CoreState) :
    (d.midStep p st).1.energy = d.energy.midStep st := by
  unfold DiagnosticSet.midStep
  dsimp only
  split <;> rfl

theorem Watchers.midStep_standard_fst (w : Watchers) (p : Setup) (st : CoreState) :
    (w.midStep p st).1.standard = (w.standard.midStep p st).1 := by
  unfold Watchers.midStep
  rcases w.standard.midStep p st with ⟨d, _ | _⟩
  · rfl
  · rcases w.extra with _ | o
    · rfl
    · rcases o.midStep p st with ⟨o', b⟩
      rfl

/-- The energy map of the watchers after a mid-step has filled the state's depositions. -/
theorem Watchers.midStep_energy {w wm : Watchers} {p : Setup} {st : CoreState} {b : Bool}
    (h : w.midStep p st = (wm, b)) : wm.standard.energy = w.standard.energy.midStep st := by
  have hw : (w.midStep p st).1 = wm := by rw [h]
  rw [← hw, Watchers.midStep_standard_fst, DiagnosticSet.midStep_energy]

end After

/-! ## The step -/

/-- A step of the engine with the standard actions that succeeds from a clear arena is a step of
its books over doubles, with the round read off the step: from the books of the state and the
energy map before it, the books' step gives the books of the state and the energy map after it,
the energy the slots cleanup reclaims still held, and one pair conversion per slot the models
converted. -/
theorem Stepper.step_books {s s' : Stepper} {w w' : Watchers} {c : Counters}
    (hstd : s.pipeline.actions = standardActions) (hclear : s.state.secondaries.Clear)
    (hinv : VacancyInv s.state) (hkeep : ∀ m ∈ s.setup.physics.models, m.keepsEnergy = true)
    (hstep : s.step w = (s', w', .ok c)) :
    (Books.view s.state w.standard.energy.histogram).step Scalar.double (Rates.ofSetup s.setup)
        (Round.ofStep s w.standard.energy.histogram) =
      some (Books.view s'.state w'.standard.energy.histogram,
        Scalar.double.sum ((s.state.staged s.setup).slots.toList.map fun t =>
          if t.reclaimable then t.energy else 0.0),
        ((s.state.launched s.setup).slots.toList.filter (Slot.converted s.setup.physics)).length) := by
  obtain ⟨-, -, acts, n, active, st2, wm, k, st3, htr, hmid, hext, hs', -, -, -, hw', -⟩ :=
    Stepper.step_ok_eq hstep
  rw [hstd] at htr
  obtain ⟨hinit, halong, hmodels, hproc, rfl, -⟩ := transport_standard htr
  obtain ⟨rfl, -⟩ := extendFromSecondaries_ok hext
  have hseat : (Books.view s.state w.standard.energy.histogram).seat Scalar.double
      (Round.ofStep s w.standard.energy.histogram).filled = _ :=
    initializeTracks_books hinv hinit w.standard.energy.histogram
  -- the energy map after the step is the one the mid-step filled
  have henergy : w'.standard.energy = w.standard.energy.midStep (s.state.staged s.setup) := by
    have hE := Watchers.midStep_energy hmid
    rw [hw']
    exact hE
  obtain ⟨h', hfold, -, -, hbins⟩ := EnergyMap.fill_books w.standard.energy.histogram _ _
    (Stepper.tally_fill (s := s)) _ rfl rfl
  unfold Books.step
  rw [hseat]
  dsimp only
  rw [Stepper.tallies_eq hclear halong hmodels hproc hkeep,
    if_neg (by simp [Stepper.tally]), Stepper.tally_escaped, Stepper.tally_pairs]
  have hh' : w'.standard.energy.histogram = h' := by
    rw [henergy, EnergyMap.midStep, ← Array.foldl_toList]
    exact hfold
  refine congrArg some (Prod.ext ?_ rfl)
  dsimp only [Books.view]
  rw [← hbins, hs', hh']
  simp only [Books.mk.injEq, and_true]
  refine ⟨?_, ?_⟩
  · -- the slots: cleanup reclaims the staged slots
    rw [cleanup_books, ← Stepper.tally_cells (h := w.standard.energy.histogram)]
    simp only [List.map_map]
    rfl
  · -- the pending initializers: the rest of the stack, then the harvest
    rw [Stepper.tally_promoted hclear halong hmodels hproc]
    simp [CoreState.staged_init]

end Transport
