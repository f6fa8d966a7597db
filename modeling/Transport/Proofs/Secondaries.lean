import Transport.Proofs.Arena
import Transport.Proofs.Step
/-!
# Where the secondaries of a step go

The models write the secondaries of a step into the step arena, each model into a span it
reserved for one slot, and name that span in the slot's outcome. The post-step deposits in
the slot those below their production cutoff, and the harvest queues an initializer for
each of the others; at the end of the step the arena is cleared.

* `Ledger`: the arena holds exactly the secondaries named by the outcomes of the slots,
  each once. A model's sweep keeps it because each slot is given an outcome at most once
  in a step, by the one model its step ended in, and a reservation lands past every span
  named so far (`LaunchInv`).
* `step_accounts_for_secondaries`: in a step with the standard actions, every secondary
  written is named by exactly one slot; it is deposited in that slot or queued with the
  slot's data, and not both; and the arena is clear again for the next step.

The two halves read the secondaries through different predicates on the slot (an alive
track for the post-step, any track for the harvest) and with complementary comparisons
against the cutoff. A production cutoff that is not a number is below, above and equal to
no energy, so such a secondary is neither deposited nor queued.
-/
namespace Transport

/-! ## The secondaries of a slot -/

namespace Slot

variable (s : Slot) (cutoffs : CutoffTable) (arena : Arena Secondary)

/-- The secondaries named by the outcome of a slot that holds a track. -/
def emitted : List Secondary :=
  match s.interaction, s.track with
  | some o, some _ => arena.get o.secondaries
  | _, _ => []

/-- The emitted secondaries below their production cutoff, which the post-step deposits. -/
def deposited : List Secondary :=
  (s.emitted arena).filter fun x => x.energy < (cutoffs.get x.particle).production

/-- The emitted secondaries at or above their production cutoff, which the harvest queues. -/
def survivors : List Secondary :=
  (s.emitted arena).filter fun x => x.energy ≥ (cutoffs.get x.particle).production

/-- The initializer of a secondary that the slot emitted: the secondary's particle, energy
and direction, at the slot's position, time and event, with the slot's track as parent. -/
def spawn (x : Secondary) : Initializer :=
  ⟨x.particle, x.energy, s.pos, x.direction, s.time, s.track, s.event⟩

/-- What the post-step deposits in a slot for its outcome, before what the track leaves
when it stops: the outcome's local deposition and the secondaries below their cutoff. -/
def localDeposit : Float :=
  match s.interaction with
  | some o => o.deposition + sumFrom ((s.deposited cutoffs arena).map (·.energy))
  | none => 0.0

theorem emitted_of_holding {t : Slot} (h : t.holding = s.holding) :
    t.emitted arena = s.emitted arena := by
  simp only [holding, Prod.mk.injEq] at h
  simp only [emitted, h.1, h.2]

theorem localDeposit_of_holding {t : Slot} (h : t.holding = s.holding) :
    t.localDeposit cutoffs arena = s.localDeposit cutoffs arena := by
  have he := emitted_of_holding s arena h
  simp only [holding, Prod.mk.injEq] at h
  simp only [localDeposit, deposited, he, h.2]

theorem promoted_eq : s.promoted cutoffs arena = (s.survivors cutoffs arena).map s.spawn := by
  unfold promoted survivors emitted spawn
  split <;> simp_all

end Slot

theorem flatMap_set_perm {α β : Type} (f : α → List β) (x : α) :
    ∀ (l : List α) (m : Nat) (y : α), l[m]? = some y → f y = [] →
      ((l.set m x).flatMap f).Perm (l.flatMap f ++ f x)
  | [], _, _, h, _ => by simp at h
  | z :: l, 0, y, h, hy => by
    simp only [List.getElem?_cons_zero, Option.some.injEq] at h
    subst h
    simp only [List.set_cons_zero, List.flatMap_cons, hy, List.nil_append]
    exact List.perm_append_comm
  | z :: l, m + 1, y, h, hy => by
    simp only [List.getElem?_cons_succ] at h
    simp only [List.set_cons_succ, List.flatMap_cons, List.append_assoc]
    exact (flatMap_set_perm f x l m y h hy).append_left (f z)

/-! ## The ledger of the arena -/

/-- The arena holds exactly the secondaries named by the outcomes of the slots, each once,
in cells below its cursor. -/
structure Ledger (slots : Array Slot) (a : Arena Secondary) : Prop where
  wellFormed : a.WellFormed
  within : ∀ s ∈ slots, ∀ o, s.track.isSome → s.interaction = some o →
    o.secondaries.Within a.cursor
  perm : a.written.Perm (slots.toList.flatMap (·.emitted a))

theorem Ledger.of_clear {slots : Array Slot} {a : Arena Secondary} (ha : a.Clear)
    (hs : ∀ s ∈ slots, s.track.isSome → s.interaction = none) : Ledger slots a where
  wellFormed := ha.toWellFormed
  within s hs' o ht ho := by simp [hs s hs' ht] at ho
  perm := by
    have hnil : slots.toList.flatMap (·.emitted a) = [] := by
      simp only [List.flatMap_eq_nil_iff]
      intro s _
      unfold Slot.emitted
      split
      · exact ha.get_eq _
      · rfl
    rw [ha.written_eq, hnil]

/-! ## What a model writes -/

theorem extends_of_empty {a : Arena Secondary} (hw : a.WellFormed) :
    a.Extends a (a.get Span.empty) ∧ Span.empty.Within a.cursor := by
  rw [Arena.get_empty]
  exact ⟨Arena.Extends.refl hw, Span.empty_within _⟩

theorem reserve_refused {a a' : Arena Secondary} {n : Nat} {e : ArenaError} (hw : a.WellFormed)
    (h : a.allocate n = (.error e, a')) :
    a.Extends a' (a'.get Span.empty) ∧ Span.empty.Within a'.cursor := by
  rw [Arena.get_empty]
  exact ⟨Arena.allocate_error hw h, Span.empty_within _⟩

theorem reserve_filled {a a' a'' : Arena Secondary} {n : Nat} {span : Span}
    {vs : List Secondary} (hw : a.WellFormed) (h : a.allocate n = (.ok span, a'))
    (hn : vs.length = n) (hwr : a'.writeAll span vs = (a'', .ok ())) :
    a.Extends a'' (a''.get span) ∧ span.Within a''.cursor := by
  subst hn
  obtain ⟨hx, hget, hwithin⟩ := Arena.allocate_writeAll hw h hwr
  rw [hget]
  exact ⟨hx, hwithin⟩

theorem Model.interact_extends (m : Model) (s : Slot) {a a' : Arena Secondary} {s' : Slot}
    {o : Interaction} (hw : a.WellFormed) (h : m.interact s a = (s', a', .ok o)) :
    a.Extends a' (a'.get o.secondaries) ∧ o.secondaries.Within a'.cursor := by
  cases m with
  | absorption | kill | isotropic =>
    simp only [Model.interact, Prod.mk.injEq, Except.ok.injEq] at h
    obtain ⟨-, rfl, rfl⟩ := h
    exact extends_of_empty hw
  | faulty xs rule =>
    simp only [Model.interact] at h
    split at h
    · split at h
      · simp at h
      · simp only [Prod.mk.injEq, Except.ok.injEq] at h
        obtain ⟨-, rfl, rfl⟩ := h
        exact extends_of_empty hw
    · simp only [Prod.mk.injEq, Except.ok.injEq] at h
      obtain ⟨-, rfl, rfl⟩ := h
      exact extends_of_empty hw
  | fixed label range xs script =>
    simp only [Model.interact] at h
    split at h
    · simp at h
    · simp only [Prod.mk.injEq, Except.ok.injEq] at h
      obtain ⟨-, rfl, rfl⟩ := h
      exact extends_of_empty hw
  | pair gamma electron positron xs =>
    dsimp only [Model.interact] at h
    split at h
    · simp at h
    · split at h
      · rename_i e a1 halloc
        simp only [Prod.mk.injEq, Except.ok.injEq] at h
        obtain ⟨-, rfl, rfl⟩ := h
        exact reserve_refused hw halloc
      · rename_i span a1 halloc
        split at h
        · rename_i hok
          simp only [Prod.mk.injEq, Except.ok.injEq] at h
          obtain ⟨-, rfl, rfl⟩ := h
          exact reserve_filled hw halloc rfl (Prod.ext rfl hok)
        · simp at h
  | emit parent child count xs =>
    dsimp only [Model.interact] at h
    split at h
    · rename_i e a1 halloc
      simp only [Prod.mk.injEq, Except.ok.injEq] at h
      obtain ⟨-, rfl, rfl⟩ := h
      exact reserve_refused hw halloc
    · rename_i span a1 halloc
      split at h
      · rename_i hok
        simp only [Prod.mk.injEq, Except.ok.injEq] at h
        obtain ⟨-, rfl, rfl⟩ := h
        exact reserve_filled hw halloc List.length_replicate (Prod.ext rfl hok)
      · simp at h

/-! ## The models' sweeps -/

theorem Slot.emitted_extends {s : Slot} {a b : Arena Secondary} {vs : List Secondary}
    (hx : a.Extends b vs)
    (hs : ∀ o, s.track.isSome → s.interaction = some o → o.secondaries.Within a.cursor) :
    s.emitted b = s.emitted a := by
  unfold Slot.emitted
  split
  · rename_i o t ho ht
    exact hx.get_within (hs o (by simp [ht]) ho)
  · rfl

/-- The ledger while model `k` sweeps, before slot `m`: each outcome held by a track is that
of an alive track whose step ended in an earlier model, or in model `k` at a slot already
visited. -/
structure LaunchInv (k m : Nat) (slots : Array Slot) (a : Arena Secondary) : Prop where
  ledger : Ledger slots a
  order : ∀ (j : Nat) (s : Slot), slots[j]? = some s → s.track.isSome → s.interaction.isSome →
    s.isAlive ∧ ∃ k', s.limit.action = some (.interact k') ∧ (k' < k ∨ (k' = k ∧ j < m))

variable {p : Setup} {k m : Nat} {model : Model} {slots : Array Slot} {a : Arena Secondary}

theorem LaunchInv.skip {sl : Slot} (h : LaunchInv k m slots a) (hsl : slots[m]? = some sl) :
    LaunchInv k (m + 1) (slots.set! m sl) a := by
  have hset : slots.set! m sl = slots := by
    rw [Array.getElem?_eq_some_iff] at hsl
    obtain ⟨hm, rfl⟩ := hsl
    simp [Array.set!_eq_setIfInBounds, Array.setIfInBounds, hm]
  rw [hset]
  refine ⟨h.ledger, fun j s hs ht hi => ?_⟩
  obtain ⟨halive, k', hk', hlt⟩ := h.order j s hs ht hi
  exact ⟨halive, k', hk', by omega⟩

theorem LaunchInv.visit {sl : Slot} (h : LaunchInv k m slots a) (hsl : slots[m]? = some sl)
    (hok : (modelKernel p k model m sl a).2.2 = none) :
    LaunchInv k (m + 1) (slots.set! m (modelKernel p k model m sl a).1)
      (modelKernel p k model m sl a).2.1 := by
  by_cases hsel : (!sl.isAlive || sl.limit.action != some (.interact k)) = true
  · simp only [modelKernel, hsel, if_true]
    exact h.skip hsl
  have hsel' := hsel
  simp only [Bool.or_eq_true, Bool.not_eq_true', bne_iff_ne, ne_eq, not_or, Bool.not_eq_false,
    Decidable.not_not] at hsel'
  obtain ⟨halive, hlimit⟩ := hsel'
  by_cases happ : (!p.physics.applies k sl.particle sl.energy) = true
  · simp [modelKernel, hsel, happ] at hok
  simp only [modelKernel, hsel, happ, Bool.false_eq_true, if_false] at hok ⊢
  generalize hr : model.interact sl a = r at hok ⊢
  obtain ⟨s1, a1, result⟩ := r
  cases result with
  | error e => simp at hok
  | ok o =>
    show LaunchInv k (m + 1) (slots.set! m { s1 with interaction := some o }) a1
    have htrack : sl.track.isSome := by
      simp only [Slot.isAlive, Bool.and_eq_true] at halive
      exact halive.1
    -- the slot has no outcome yet: it would be an earlier model's, or model `k`'s at a slot
    -- already visited, and the slot's step ended in model `k`
    have hnone : sl.interaction = none := by
      cases hi : sl.interaction with
      | none => rfl
      | some o' =>
        obtain ⟨-, k', hk', hlt⟩ := h.order m sl hsl htrack (by simp [hi])
        rw [hlimit, Option.some.injEq, LimitAction.interact.injEq] at hk'
        omega
    have hs1 : s1 = { sl with rng := s1.rng } := by
      have hslot := Model.interact_slot model sl a
      rw [hr] at hslot
      exact hslot
    obtain ⟨hx, hwithin⟩ := Model.interact_extends model sl h.ledger.wellFormed hr
    have hsl' : slots.toList[m]? = some sl := by simpa using hsl
    have hcongr : slots.toList.flatMap (·.emitted a1) = slots.toList.flatMap (·.emitted a) :=
      List.flatMap_congr fun y hy =>
        Slot.emitted_extends hx fun o' ht ho => h.ledger.within y (by simpa using hy) o' ht ho
    have hnew : ({ s1 with interaction := some o } : Slot).emitted a1 = a1.get o.secondaries := by
      rw [hs1]
      simp only [Slot.emitted]
      rw [Option.isSome_iff_exists] at htrack
      obtain ⟨t, ht⟩ := htrack
      simp [ht]
    refine ⟨⟨hx.wellFormed, fun y hy o' hyt hyo => ?_, ?_⟩, fun j y hy hyt hyi => ?_⟩
    · rw [Array.set!_eq_setIfInBounds] at hy
      rcases Array.mem_or_eq_of_mem_setIfInBounds hy with hy | rfl
      · exact (h.ledger.within y hy o' hyt hyo).mono hx.cursor_le
      · simp only [Option.some.injEq] at hyo
        subst hyo
        exact hwithin
    · rw [Array.set!_eq_setIfInBounds, Array.toList_setIfInBounds, hx.written_eq]
      have hset := (flatMap_set_perm (·.emitted a1) { s1 with interaction := some o }
        slots.toList m sl hsl' (by simp [Slot.emitted, hnone])).symm
      rw [hcongr, hnew] at hset
      exact (h.ledger.perm.append_right _).trans hset
    · rw [Array.set!_eq_setIfInBounds, Array.getElem?_setIfInBounds] at hy
      by_cases hj : m = j
      · subst hj
        have hm : m < slots.size := (Array.getElem?_eq_some_iff.1 hsl).1
        simp only [if_true, hm, Option.some.injEq] at hy
        subst hy
        rw [hs1]
        exact ⟨halive, k, hlimit, Or.inr ⟨rfl, Nat.lt_succ_self m⟩⟩
      · rw [if_neg hj] at hy
        obtain ⟨halive', k', hk', hlt⟩ := h.order j y hy hyt hyi
        exact ⟨halive', k', hk', by omega⟩

theorem LaunchInv.next {n : Nat} (h : LaunchInv k n slots a) : LaunchInv (k + 1) 0 slots a := by
  refine ⟨h.ledger, fun j s hs ht hi => ?_⟩
  obtain ⟨halive, k', hk', hlt⟩ := h.order j s hs ht hi
  exact ⟨halive, k', hk', by omega⟩

theorem LaunchInv.sweep {st : CoreState} (h : LaunchInv k 0 st.slots st.secondaries)
    (hok : (sweep model.label p.space p.dispatch (modelKernel p k model) st).2 = none) :
    LaunchInv (k + 1) 0 (sweep model.label p.space p.dispatch (modelKernel p k model) st).1.slots
      (sweep model.label p.space p.dispatch (modelKernel p k model) st).1.secondaries := by
  have hhost := sweep_ok_host _ _ _ _ _ hok
  rw [hhost] at hok ⊢
  have hinv := sweep_host_inv model.label (modelKernel p k model) p.dispatch st
    (fun m slots a => LaunchInv k m slots a)
    (fun m slots a _ hP hsize _ hk => by
      have hm : m < slots.size := by
        rw [hsize]
        assumption
      have hsl : slots[m]? = some (slots.getD m default) := by
        simp [Array.getD_eq_getD_getElem?, hm]
      exact hP.visit hsl hk) h hok
  exact hinv.next

theorem LaunchInv.launchFrom :
    ∀ (k : Nat) (ms : List Model) (st : CoreState), LaunchInv k 0 st.slots st.secondaries →
      (launchFrom p k ms st).2 = none →
      LaunchInv (k + ms.length) 0 (launchFrom p k ms st).1.slots
        (launchFrom p k ms st).1.secondaries
  | k, [], st, h, _ => h
  | k, model :: ms, st, h, hok => by
    obtain ⟨st', hsw, heq⟩ := launchFrom_cons_ok hok
    rw [heq] at hok ⊢
    have h' := LaunchInv.sweep h (by rw [hsw])
    rw [hsw] at h'
    have hrest := LaunchInv.launchFrom (k + 1) ms st' h' hok
    rwa [List.length_cons, Nat.add_comm ms.length, ← Nat.add_assoc]

/-! ## Slots that keep what they hold -/

/-- Each slot of `b` holds what the slot of `a` at its index holds. -/
def SameHolding (a b : Array Slot) : Prop := ∀ j : Nat, b[j]?.map (·.holding) = a[j]?.map (·.holding)

theorem SameHolding.exists_mem {a b : Array Slot} (h : SameHolding a b) {y : Slot} (hy : y ∈ b) :
    ∃ x ∈ a, x.holding = y.holding := by
  obtain ⟨j, hj⟩ := Array.mem_iff_getElem?.1 hy
  have hmap := h j
  rw [hj] at hmap
  obtain ⟨x, hx, hxy⟩ := Option.map_eq_some_iff.1 hmap.symm
  exact ⟨x, Array.mem_of_getElem? hx, hxy⟩

theorem flatMap_emitted_of_holding (arena : Arena Secondary) :
    ∀ {l₁ l₂ : List Slot}, l₁.map (·.holding) = l₂.map (·.holding) →
      l₁.flatMap (·.emitted arena) = l₂.flatMap (·.emitted arena)
  | [], [], _ => rfl
  | [], _ :: _, h => by simp at h
  | _ :: _, [], h => by simp at h
  | x :: l₁, y :: l₂, h => by
    simp only [List.map_cons, List.cons.injEq] at h
    simp only [List.flatMap_cons, Slot.emitted_of_holding y arena h.1,
      flatMap_emitted_of_holding arena h.2]

theorem SameHolding.flatMap_emitted {a b : Array Slot} (h : SameHolding a b) (arena : Arena Secondary) :
    b.toList.flatMap (·.emitted arena) = a.toList.flatMap (·.emitted arena) := by
  have hmap : b.toList.map (·.holding) = a.toList.map (·.holding) := by
    apply List.ext_getElem?
    intro j
    simpa using h j
  exact flatMap_emitted_of_holding arena hmap

theorem Ledger.of_sameHolding {a b : Array Slot} {arena : Arena Secondary} (h : Ledger a arena)
    (hs : SameHolding a b) : Ledger b arena where
  wellFormed := h.wellFormed
  within y hy o ht ho := by
    obtain ⟨x, hx, hxy⟩ := hs.exists_mem hy
    simp only [Slot.holding, Prod.mk.injEq] at hxy
    exact h.within x hx o (hxy.1 ▸ ht) (hxy.2 ▸ ho)
  perm := by
    rw [hs.flatMap_emitted]
    exact h.perm

/-! ## The post-step -/

theorem applyOutcome_deposition {s s' : Slot} {o : Interaction} (h : applyOutcome s o = .ok s') :
    s'.deposition = s.deposition := by
  rcases applyOutcome_ok h with rfl | ⟨-, -, rfl⟩ | rfl | rfl <;> rfl

theorem processInteraction_deposition {p : Setup} {sl : Slot} {a : Arena Secondary}
    {o : Interaction} (halive : sl.isAlive) (ho : sl.interaction = some o)
    (hok : (processInteraction p sl a).2 = none) :
    (processInteraction p sl a).1.deposition = sl.deposition + sl.localDeposit p.cutoffs a ∨
      ∃ u, applyOutcome sl o = .ok u ∧ (processInteraction p sl a).1.deposition =
        sl.deposition + (sl.localDeposit p.cutoffs a + u.energy) := by
  have htrack : sl.track.isSome := by
    simp only [Slot.isAlive, Bool.and_eq_true] at halive
    exact halive.1
  obtain ⟨t, ht⟩ := Option.isSome_iff_exists.1 htrack
  -- the post-step reads the secondaries below their cutoff through the slot's own outcome
  have hlocal : sl.localDeposit p.cutoffs a = o.deposition + sumFrom
      (((a.get o.secondaries).filter fun x =>
        x.energy < (p.cutoffs.get x.particle).production).map (·.energy)) := by
    simp [Slot.localDeposit, Slot.deposited, Slot.emitted, ho, ht]
  rcases processInteraction_spec p sl a with ⟨hdead | hnone, -⟩ | ⟨e, h⟩ |
    ⟨o', u, -, ho', hu, ⟨-, h⟩ | ⟨-, h⟩⟩
  · simp [halive] at hdead
  · simp [ho] at hnone
  · simp [h] at hok
  · obtain rfl : o' = o := Option.some.inj (ho'.symm.trans ho)
    right
    exact ⟨u, hu, by simp [h, hlocal, Slot.kill, applyOutcome_deposition hu]⟩
  · obtain rfl : o' = o := Option.some.inj (ho'.symm.trans ho)
    left
    simp [h, hlocal, applyOutcome_deposition hu]

/-! ## A step with the standard actions -/

namespace CoreState

variable (p : Setup) (st : CoreState)

/-- The state a step with the standard actions hands to the models: its slots filled,
reset for the step, and moved along. -/
def moved : CoreState :=
  (alongStepSweep p
    (startStep p.space p.dispatch (initializeTracks p.geometry p.seed p.space p.dispatch st).1).1).1

/-- The state after the models, which the post-step reads. -/
def launched : CoreState := (launchModels p (st.moved p)).1

/-- The state after the post-step, which the harvest reads. -/
def staged : CoreState := (processSweep p (st.launched p)).1

end CoreState

theorem runStage_preStep_standard (p : Setup) (st : CoreState) :
    runStage p .preStep standardActions st = (standardActions, st, none) := rfl

theorem runStage_alongStep_standard (p : Setup) (st : CoreState) :
    runStage p .alongStep standardActions st =
      (standardActions, (alongStepSweep p st).1, (alongStepSweep p st).2) := by
  simp only [standardActions, runStage, Action.stage, Action.execute]
  rcases alongStepSweep p st with ⟨st', _ | e⟩ <;> rfl

theorem runStage_postStep_standard (p : Setup) (st : CoreState) :
    runStage p .postStep standardActions st =
      (standardActions, (processSweep p st).1, (processSweep p st).2) := by
  simp only [standardActions, runStage, Action.stage, Action.execute]
  rcases processSweep p st with ⟨st', _ | e⟩ <;> rfl

/-! ## The stages before the models -/

theorem initKernel_arena (g : Geometry) (base : Random.Stream)
    (asg : Array (Option (Nat × Initializer))) (i : Nat) (s : Slot) (a : Arena Secondary) :
    (initKernel g base asg i s a).2.1 = a := by
  unfold initKernel
  split
  · rfl
  · split <;> rfl

theorem initializeTracks_secondaries (g : Geometry) (seed : UInt64) (space : Space)
    (dispatch : Dispatch) (st : CoreState) :
    (initializeTracks g seed space dispatch st).1.secondaries = st.secondaries := by
  rw [initializeTracks_fst]
  split
  · rfl
  · rw [sweep_secondaries _ _ _ _ _ (initKernel_arena g _ _)]

theorem startStep_no_outcome (space : Space) (dispatch : Dispatch) (st : CoreState) :
    ∀ sl ∈ (startStep space dispatch st).1.slots, sl.track.isSome → sl.interaction = none := by
  intro sl hsl ht
  unfold startStep at hsl
  rw [sweep_ok_host _ _ _ _ _ (sweep_never_fails _ _ _ _ _ fun _ _ _ => rfl)] at hsl
  obtain ⟨j, hj⟩ := Array.mem_iff_getElem?.1 hsl
  have hf := sweep_host_field "pre-step" (fun _ s arena => (s.startStep, arena, none)) dispatch st
    Slot.holding (fun _ hd => (hd.1, if hd.1.isNone then hd.2 else none))
    (fun _ s _ => by
      unfold Slot.startStep Slot.holding
      split <;> simp_all) j
  rw [hj, Option.map_some] at hf
  obtain ⟨x, -, hx⟩ := Option.map_eq_some_iff.1 hf.symm
  simp only [Function.comp, Slot.holding, Prod.mk.injEq] at hx
  obtain ⟨htrack, hint⟩ := hx
  have hsome : x.track.isNone = false := by
    rw [htrack, Option.isNone_eq_false_iff]
    exact ht
  rw [← hint]
  simp [hsome]

theorem CoreState.moved_secondaries (p : Setup) (st : CoreState) :
    (st.moved p).secondaries = st.secondaries := by
  rw [CoreState.moved, alongStepSweep, sweep_secondaries _ _ _ _ _ fun _ _ _ => rfl, startStep,
    sweep_secondaries _ _ _ _ _ fun _ _ _ => rfl, initializeTracks_secondaries]

theorem launchInv_moved {p : Setup} {st : CoreState} (hclear : st.secondaries.Clear) :
    LaunchInv 0 0 (st.moved p).slots (st.moved p).secondaries := by
  have harena := st.moved_secondaries p
  have hsame : SameHolding (startStep p.space p.dispatch
      (initializeTracks p.geometry p.seed p.space p.dispatch st).1).1.slots (st.moved p).slots :=
    sweep_keeps _ _ _ _ _ Slot.holding fun _ s _ => alongStep_holding p s
  have hnone : ∀ sl ∈ (st.moved p).slots, sl.track.isSome → sl.interaction = none := by
    intro sl hsl ht
    obtain ⟨x, hx, hxy⟩ := hsame.exists_mem hsl
    simp only [Slot.holding, Prod.mk.injEq] at hxy
    rw [← hxy.2]
    exact startStep_no_outcome _ _ _ x hx (hxy.1 ▸ ht)
  refine ⟨Ledger.of_clear (harena ▸ hclear) hnone, fun j sl hsl ht hi => ?_⟩
  rw [hnone sl (Array.mem_of_getElem? hsl) ht] at hi
  cases hi

theorem transport_standard {p : Setup} {st mid : CoreState} {acts : List Action} {n active : Nat}
    (h : Stepper.transport p standardActions st = (acts, mid, .ok (n, active))) :
    (initializeTracks p.geometry p.seed p.space p.dispatch st).2 = .ok n ∧
      (alongStepSweep p (startStep p.space p.dispatch
        (initializeTracks p.geometry p.seed p.space p.dispatch st).1).1).2 = none ∧
      (launchModels p (st.moved p)).2 = none ∧ (processSweep p (st.launched p)).2 = none ∧
      mid = st.staged p ∧ acts = standardActions := by
  unfold Stepper.transport at h
  split at h
  · cases h
  · rename_i st1 n' hinit
    simp only [runStage_preStep_standard, runStage_alongStep_standard] at h
    have h1 : (initializeTracks p.geometry p.seed p.space p.dispatch st).1 = st1 := by rw [hinit]
    generalize hA : alongStepSweep p (startStep p.space p.dispatch st1).1 = rA at h
    obtain ⟨st3, _ | e⟩ := rA
    · dsimp only at h
      generalize hL : launchModels p st3 = rL at h
      obtain ⟨st4, _ | e⟩ := rL
      · dsimp only at h
        rw [runStage_postStep_standard] at h
        generalize hP : processSweep p st4 = rP at h
        obtain ⟨st5, _ | e⟩ := rP
        · simp only [Prod.mk.injEq, Except.ok.injEq] at h
          obtain ⟨rfl, rfl, rfl, -⟩ := h
          have hmoved : st.moved p = st3 := by rw [CoreState.moved, h1, hA]
          have hlaunched : st.launched p = st4 := by rw [CoreState.launched, hmoved, hL]
          refine ⟨by rw [hinit], by rw [h1, hA], by rw [hmoved, hL], by rw [hlaunched, hP], ?_, rfl⟩
          rw [CoreState.staged, hlaunched, hP]
        · simp at h
      · simp at h
    · simp at h

/-! ## Every secondary of a step, once -/

/-- In a step with the standard actions that succeeds from a clear arena: every secondary
the models wrote is named by exactly one slot's outcome; a slot that names any was alive
for the post-step, which added to its deposition the outcome's local deposit, with the
energy of the secondaries below their production cutoff; the harvest queued one
initializer for each of the others, at the slot's position, time and event, with the slot's
track as parent; and the arena is clear for the next step. Where the energy of each
secondary compares with its cutoff one way or the other, each is deposited or queued, and
not both. -/
theorem step_accounts_for_secondaries {s s' : Stepper} {w w' : Watchers} {c : Counters}
    (hstd : s.pipeline.actions = standardActions) (hclear : s.state.secondaries.Clear)
    (hstep : s.step w = (s', w', .ok c))
    (hcmp : ∀ x ∈ (s.state.staged s.setup).secondaries.written,
      x.energy < (s.setup.cutoffs.get x.particle).production ↔
        ¬ x.energy ≥ (s.setup.cutoffs.get x.particle).production) :
    let p := s.setup
    let launched := s.state.launched p
    let mid := s.state.staged p
    mid.secondaries.written.Perm (mid.slots.toList.flatMap (·.emitted mid.secondaries)) ∧
    (∀ sl ∈ mid.slots.toList, (sl.emitted mid.secondaries).Perm
      (sl.deposited p.cutoffs mid.secondaries ++ sl.survivors p.cutoffs mid.secondaries)) ∧
    (∀ (i : Nat) (sl : Slot) (o : Interaction), launched.slots[i]? = some sl →
      sl.track.isSome → sl.interaction = some o →
      sl.isAlive ∧ ∃ t, mid.slots[i]? = some t ∧ t.holding = sl.holding ∧
        (t.deposition = sl.deposition + t.localDeposit p.cutoffs mid.secondaries ∨
          ∃ u, applyOutcome sl o = .ok u ∧
            t.deposition = sl.deposition + (t.localDeposit p.cutoffs mid.secondaries + u.energy))) ∧
    s'.state.init.initializers = mid.init.initializers ++
      (mid.slots.toList.flatMap fun sl =>
        (sl.survivors p.cutoffs mid.secondaries).map sl.spawn).toArray ∧
    s'.state.secondaries.Clear := by
  intro p launched mid
  obtain ⟨-, -, acts, n, active, st2, -, k, st3, htr, -, hext, hs', -⟩ := Stepper.step_ok_eq hstep
  rw [hstd] at htr
  obtain ⟨-, -, hL, hP, rfl, -⟩ := transport_standard htr
  have hlaunch := LaunchInv.launchFrom 0 p.physics.models.toList _ (launchInv_moved hclear) hL
  have hmidArena : mid.secondaries = launched.secondaries :=
    sweep_secondaries _ _ _ _ _ fun _ _ _ => rfl
  have hsame : SameHolding launched.slots mid.slots :=
    sweep_keeps _ _ _ _ _ Slot.holding fun _ s a => processInteraction_holding p s a
  have hledger : Ledger mid.slots mid.secondaries := hmidArena ▸ hlaunch.ledger.of_sameHolding hsame
  have hemitted : ∀ sl ∈ mid.slots.toList, ∀ x ∈ sl.emitted mid.secondaries,
      x ∈ mid.secondaries.written := fun sl hsl x hx =>
    hledger.perm.symm.subset (List.mem_flatMap.2 ⟨sl, hsl, hx⟩)
  refine ⟨hledger.perm, fun sl hsl => ?_, fun i sl o hsl ht ho => ?_, ?_, ?_⟩
  · -- the two filters are complementary on every secondary that compares with its cutoff
    have hsurv : sl.survivors p.cutoffs mid.secondaries = (sl.emitted mid.secondaries).filter
        fun x => !decide (x.energy < (p.cutoffs.get x.particle).production) := by
      unfold Slot.survivors
      apply List.filter_congr
      intro x hx
      have := hcmp x (hemitted sl hsl x hx)
      by_cases hlt : x.energy < (p.cutoffs.get x.particle).production
      · simp only [hlt, decide_true, Bool.not_true, decide_eq_false_iff_not]
        exact this.1 hlt
      · simp [hlt, show x.energy ≥ (p.cutoffs.get x.particle).production from
          Classical.byContradiction fun hge => hlt (this.2 hge)]
    rw [Slot.deposited, hsurv]
    exact (List.filter_append_perm _ _).symm
  · have halive := (hlaunch.order i sl hsl ht (by simp [ho])).1
    unfold processSweep at hP
    have hhost := sweep_ok_host _ _ _ _ _ hP
    rw [hhost] at hP
    obtain ⟨-, hslots, hfail⟩ := sweep_host_fixed _ _ _ _ (fun _ _ => by rfl) hP
    have hmid : mid.slots[i]? = some (processInteraction p sl launched.secondaries).1 := by
      show (processSweep p launched).1.slots[i]? = _
      rw [processSweep, hhost, hslots i, hsl]
      rfl
    refine ⟨halive, _, hmid, processInteraction_holding p sl _, ?_⟩
    rw [Slot.localDeposit_of_holding sl _ _ (processInteraction_holding p sl _), hmidArena]
    exact processInteraction_deposition halive ho (hfail i sl hsl)
  · obtain ⟨hst3, -⟩ := extendFromSecondaries_ok hext
    rw [hs', cleanup_initializers, hst3]
    simp only [CoreState.harvest, Slot.promoted_eq]
    rfl
  · -- cleanup clears the arena the harvest left as it was
    obtain ⟨hst3, -⟩ := extendFromSecondaries_ok hext
    have hcl : (cleanup st3).1.secondaries = st3.secondaries.clear := rfl
    rw [hs', hcl, hst3]
    exact hledger.wellFormed.clear

/-- Two tracks retry emissions into a clear arena: the first of two children of particle 1,
whose production cutoff is above them, the second of one child of particle 2, which has a
zero cutoff. The step writes three secondaries, deposits the first two on their slot and
queues the third as the one new initializer. -/
theorem step_deposits_and_queues_emitted_secondaries :
    let emitter (track model : Nat) (energy : Float) : Slot :=
      { Slot.vacant with
        energy := energy
        dir := ⟨1.0, 0.0, 0.0⟩
        volume := some 0
        retry := true
        track := some track
        status := .alive
        limit := ⟨0.5, some (.interact model)⟩
        interaction := some Interaction.failed }
    let s : Stepper :=
      { setup := { (default : Setup) with
          physics := PhysicsParams.ofModels [.emit 0 1 2 1.0, .emit 0 2 1 1.0]
          cutoffs := (CutoffTable.empty.set 1 ⟨0.0, 100.0⟩).set 2 ⟨0.0, 0.0⟩ }
        pipeline := ⟨standardActions⟩
        state := ⟨#[emitter 0 0 1.0, emitter 1 1 2.0], Arena.new 4,
          { InitBuffer.new 4 4 with nextTrack := 2 }⟩
        threads := none
        maxSteps := 2
        steps := 0
        disabled := false
        lastLabels := ⟨[], []⟩ }
    ∃ s' w' c, s.step default = (s', w', .ok c) ∧ c.secondaries = 3 ∧ c.promoted = 1 ∧
    let p := s.setup
    let launched := s.state.launched p
    let mid := s.state.staged p
    mid.slots.toList.map (fun sl => ((sl.deposited p.cutoffs mid.secondaries).length,
      (sl.survivors p.cutoffs mid.secondaries).length)) = [(2, 0), (0, 1)] ∧
    s'.state.init.initializers.toList.map (fun i => (i.particle, i.parent)) = [(2, some 1)] ∧
    mid.secondaries.written.Perm (mid.slots.toList.flatMap (·.emitted mid.secondaries)) ∧
    (∀ sl ∈ mid.slots.toList, (sl.emitted mid.secondaries).Perm
      (sl.deposited p.cutoffs mid.secondaries ++ sl.survivors p.cutoffs mid.secondaries)) ∧
    (∀ (i : Nat) (sl : Slot) (o : Interaction), launched.slots[i]? = some sl →
      sl.track.isSome → sl.interaction = some o →
      sl.isAlive ∧ ∃ t, mid.slots[i]? = some t ∧ t.holding = sl.holding ∧
        (t.deposition = sl.deposition + t.localDeposit p.cutoffs mid.secondaries ∨
          ∃ u, applyOutcome sl o = .ok u ∧
            t.deposition = sl.deposition + (t.localDeposit p.cutoffs mid.secondaries + u.energy))) ∧
    s'.state.init.initializers = mid.init.initializers ++
      (mid.slots.toList.flatMap fun sl =>
        (sl.survivors p.cutoffs mid.secondaries).map sl.spawn).toArray ∧
    s'.state.secondaries.Clear := by
  intro emitter s
  have hclear : s.state.secondaries.Clear := Arena.new_clear (by decide)
  obtain ⟨c, hc⟩ := Except.exists_eq_ok_of_isOk
    (show (s.step default).2.2.isOk = true by decide +kernel)
  have hstep := Stepper.step_eq_of_result hc
  have hcounts : (s.step default).2.2.toOption.map (fun c => (c.secondaries, c.promoted)) =
      some (3, 1) := by
    decide +kernel
  simp only [hc, Except.toOption, Option.map_some, Option.some.injEq, Prod.mk.injEq] at hcounts
  -- every written secondary is a number, so the two comparisons with its cutoff are opposite
  have hcmp : ∀ x ∈ (s.state.staged s.setup).secondaries.written,
      x.energy < (s.setup.cutoffs.get x.particle).production ↔
        ¬ x.energy ≥ (s.setup.cutoffs.get x.particle).production := by
    decide +kernel
  refine ⟨_, _, c, hstep, hcounts.1, hcounts.2, by decide +kernel, by decide +kernel,
    step_accounts_for_secondaries rfl hclear hstep hcmp⟩

end Transport
