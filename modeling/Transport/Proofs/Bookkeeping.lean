import Mathlib
import Transport.Proofs.Step
import Transport.Engine.Run
/-!
# The books of a run

A run reports its steps three times over: in the counts of each step, in the state between
steps, and in the diagnostics. This module shows that the three agree for every run that
finishes, whatever its configuration, actions, models and observer.

* `Stepper.step_balanced`: a successful step keeps the occupancy invariant, and its counts
  balance against the alive and pending counts before it (`Counters.Balanced`): the
  initialization takes as many vacant slots as there are pending initializers, and only
  cleanup vacates a slot, so the active count is the alive count plus the tracks started,
  and the killed tracks are exactly the ones that leave.
* `Stepper.step_diagnostics`: the alive counts gain the step's alive count, and the step
  counts count each killed track once (`StepCounts.midStep_spec`, over keyed rows that
  `bump` keeps one per name).
* `RunBooks` gathers these as the invariant of the run loop; `RunBooks.step` is its step
  lemma and `RunBooks.loop` carries it through the loop, whose fuel never runs out before
  the budget does.
* `run_keeps_books` states the books of a finished run from a fresh transporter
  (`Transporter.Fresh`, what `Transporter.new` builds by `Transporter.new_fresh`).
-/
namespace Transport

/-! ## The counts of a step -/

/-- The balance of one step's counts against the alive and pending counts before it, in a
run of `slots` slots: the initialization fills as many vacant slots as there are pending
initializers, the tracks it starts join the alive ones, the killed ones leave, and the
pending initializers lose the started tracks and gain the promoted secondaries. -/
structure Counters.Balanced (slots alive pending : Nat) (c : Counters) : Prop where
  initialized_eq : c.initialized = min (slots - alive) pending
  active_eq : c.active = alive + c.initialized
  alive_eq : c.alive = c.active - c.killed
  pending_eq : c.pending = pending - c.initialized + c.promoted

/-- A successful step keeps the occupancy invariant and the slot count, and its counts
balance against the state's counts before it and are the state's counts after it. -/
theorem Stepper.step_balanced {s s' : Stepper} {w w' : Watchers} {c : Counters}
    (hinv : VacancyInv s.state) (h : s.step w = (s', w', .ok c)) :
    VacancyInv s'.state ∧ s'.state.slots.size = s.state.slots.size ∧
      c.Balanced s.state.slots.size s.state.numAlive s.state.numInitializers ∧
      c.alive = s'.state.numAlive ∧ c.pending = s'.state.numInitializers := by
  obtain ⟨-, -, acts, n, active, st2, wm, k, st3, htr, -, hext, hstate, -, -, -, -, rfl⟩ :=
    Stepper.step_ok_eq h
  obtain ⟨hinit, hactive, hframe⟩ := Stepper.transport_ok htr
  obtain ⟨hinv1, hsize1, hn, hocc1, hpending1⟩ := initializeTracks_ok_counts hinv hinit
  obtain ⟨hslots3, hvac3, hpending3⟩ := extendFromSecondaries_ok_counts hext
  have hinv3 : VacancyInv st3 := (hframe.vacancyInv hinv1).congr hvac3 (by simp [hslots3])
  have halive3 : st3.numAlive = st2.numAlive := by
    simp only [CoreState.numAlive, CoreState.capacity, hslots3, hvac3]
  refine ⟨hstate ▸ hinv3.cleanup, ?_, ⟨hn, hactive.trans hocc1, ?_, ?_⟩, by rw [hstate],
    by rw [hstate]⟩
  · rw [hstate, cleanup_size, hslots3, hframe.size_eq, hsize1]
  · rw [cleanup_numAlive, halive3, hframe.numAlive_eq, hinv1.numAlive_eq, hactive]
  · rw [cleanup_numInitializers, hpending3, hframe.numInitializers_eq, hpending1]

/-! ## Keyed tables -/

section Bump

variable {α : Type} (key : String) (init : α) (f : α → α)

theorem bump_map_of_not_mem (table : List (String × α)) (h : key ∉ table.map (·.1)) :
    (table.map fun (k, v) => if k == key then (k, f v) else (k, v)) = table := by
  induction table with
  | nil => rfl
  | cons e rest ih =>
    obtain ⟨k, v⟩ := e
    simp only [List.map_cons, List.mem_cons, not_or] at h
    have hk : (k == key) = false := by simpa using Ne.symm h.1
    rw [List.map_cons, ih h.2]
    simp only [hk, Bool.false_eq_true, if_false]

theorem bump_names (table : List (String × α)) (h : (table.map (·.1)).Nodup) :
    ((bump table key init f).map (·.1)).Nodup := by
  unfold bump
  split
  · simpa [List.map_map, Function.comp_def, apply_ite] using h
  · rename_i hnew
    simp only [List.map_append, List.map_cons, List.map_nil]
    refine List.nodup_append.2 ⟨h, List.nodup_singleton _, ?_⟩
    simp only [List.mem_singleton]
    rintro _ hk _ rfl rfl
    simp only [List.any_eq_true, beq_iff_eq, not_exists, not_and] at hnew
    obtain ⟨e, he, rfl⟩ := List.mem_map.1 hk
    exact hnew e he rfl

theorem bump_forall (P : α → Prop) (table : List (String × α)) (h : ∀ e ∈ table, P e.2)
    (hinit : P init) (hf : ∀ v, P v → P (f v)) : ∀ e ∈ bump table key init f, P e.2 := by
  unfold bump
  split
  · simp only [List.mem_map, forall_exists_index, and_imp]
    rintro _ ⟨k, v⟩ he rfl
    split
    · exact hf v (h _ he)
    · exact h _ he
  · simp only [List.mem_append, List.mem_singleton]
    rintro e (he | rfl)
    · exact h e he
    · exact hf init hinit

theorem bump_sum (g : α → Nat) (P : α → Prop) (table : List (String × α))
    (hnd : (table.map (·.1)).Nodup) (hP : ∀ e ∈ table, P e.2) (hinit : P init) (hzero : g init = 0)
    (hf : ∀ v, P v → g (f v) = g v + 1) :
    ((bump table key init f).map fun e => g e.2).sum = (table.map fun e => g e.2).sum + 1 := by
  unfold bump
  split
  · rename_i hold
    clear hinit hzero
    induction table with
    | nil => simp at hold
    | cons e rest ih =>
      obtain ⟨k, v⟩ := e
      simp only [List.map_cons, List.nodup_cons] at hnd
      simp only [List.mem_cons, forall_eq_or_imp] at hP
      simp only [List.map_cons, List.sum_cons]
      by_cases hk : k = key
      · subst hk
        rw [bump_map_of_not_mem k f rest hnd.1]
        simp [hf v hP.1]
        omega
      · have hold' : rest.any (·.1 == key) = true := by
          simpa [hk] using hold
        have hkey : (k == key) = false := by simpa using hk
        simp only [hkey, Bool.false_eq_true, if_false]
        rw [ih hnd.2 hP.2 hold']
        omega
  · simp [hf init hinit, hzero]

end Bump

/-! ## The step counts -/

theorem sum_modify_succ :
    ∀ (l : List Nat) (i : Nat), i < l.length → (l.modify i (· + 1)).sum = l.sum + 1
  | [], _, h => absurd h (Nat.not_lt_zero _)
  | x :: l, 0, _ => by simp; omega
  | x :: l, i + 1, h => by
    simp only [List.length_cons, Nat.add_lt_add_iff_right] at h
    simp [sum_modify_succ l i h]
    omega

theorem foldlM_count {α β : Type} {f : β → α → Option β} (W : β → Prop) (m : β → Nat)
    (q : α → Bool)
    (hf : ∀ b a b', W b → f b a = some b' → W b' ∧ m b' = m b + if q a then 1 else 0) :
    ∀ (l : List α) {b b' : β}, W b → l.foldlM f b = some b' →
      W b' ∧ m b' = m b + (l.filter q).length
  | [], b, b', hw, h => by
    cases h
    exact ⟨hw, rfl⟩
  | a :: l, b, b', hw, h => by
    rw [List.foldlM_cons] at h
    obtain ⟨b1, h1, h2⟩ := Option.bind_eq_some_iff.1 h
    obtain ⟨hw1, hm1⟩ := hf b a b1 hw h1
    obtain ⟨hw', hm'⟩ := foldlM_count W m q hf l hw1 h2
    refine ⟨hw', ?_⟩
    rw [hm', hm1, List.filter_cons]
    split
    · simp only [List.length_cons]
      omega
    · simp only [Nat.add_zero]

theorem Slot.reclaimable_eq_not (s : Slot) :
    s.reclaimable = !(s.track.isNone || s.status != .killed) := by
  unfold Slot.reclaimable
  cases s.track <;> cases s.status <;> rfl

namespace StepCounts

/-- One row of `bins` counts per particle name, with at least one bin. -/
structure WellFormed (d : StepCounts) : Prop where
  bins_pos : 0 < d.bins
  names_nodup : (d.counts.map (·.1)).Nodup
  size_eq : ∀ e ∈ d.counts, e.2.size = d.bins

/-- The stopped tracks counted, over every row and bin. -/
def total (d : StepCounts) : Nat := (d.counts.map fun e => e.2.toList.sum).sum

theorem new_wellFormed (bins : Nat) : (StepCounts.new bins).WellFormed where
  bins_pos := by
    simp only [StepCounts.new]
    omega
  names_nodup := List.nodup_nil
  size_eq := by simp [StepCounts.new]

@[simp] theorem total_new (bins : Nat) : (StepCounts.new bins).total = 0 := rfl

theorem midStep_spec {d d' : StepCounts} {p : Setup} {st : CoreState} (hwf : d.WellFormed)
    (h : d.midStep p st = some d') :
    d'.WellFormed ∧ d'.total = d.total + (st.slots.toList.filter Slot.reclaimable).length := by
  unfold StepCounts.midStep at h
  rw [← Array.foldlM_toList] at h
  refine foldlM_count WellFormed total Slot.reclaimable (fun d s d1 hwf h1 => ?_) _ hwf h
  split at h1
  · rename_i hskip
    cases h1
    have hr : s.reclaimable = false := by
      rw [Slot.reclaimable_eq_not, hskip]
      rfl
    exact ⟨hwf, by simp [hr]⟩
  · rename_i hcount
    have hr : s.reclaimable = true := by
      rw [Slot.reclaimable_eq_not]
      simpa [Option.isSome_iff_ne_none] using hcount
    dsimp only at h1
    split at h1
    · cases h1
    · cases h1
      have hbin : min s.numSteps (d.bins - 1) < d.bins := by
        have := hwf.bins_pos
        omega
      have hrow : ∀ v : Array Nat, v.size = d.bins →
          (v.modify (min s.numSteps (d.bins - 1)) (· + 1)).toList.sum = v.toList.sum + 1 := by
        intro v hv
        rw [Array.toList_modify]
        exact sum_modify_succ _ _ (by simpa [hv] using hbin)
      refine ⟨⟨hwf.bins_pos, ?_, ?_⟩, ?_⟩
      · dsimp only
        exact bump_names _ _ _ _ hwf.names_nodup
      · dsimp only
        exact bump_forall _ _ _ (fun v : Array Nat => v.size = d.bins) _ hwf.size_eq (by simp)
          (fun v hv => by simpa using hv)
      · simp only [total, hr, if_true]
        exact bump_sum _ _ _ (fun a : Array Nat => a.toList.sum)
          (fun v : Array Nat => v.size = d.bins) _ hwf.names_nodup hwf.size_eq (by simp) (by simp)
          hrow

end StepCounts

/-! ## The diagnostics of a step -/

theorem Watchers.midStep_standard {w wm : Watchers} {p : Setup} {st : CoreState}
    (h : w.midStep p st = (wm, true)) :
    w.standard.steps.midStep p st = some wm.standard.steps ∧
      wm.standard.tracks = w.standard.tracks := by
  unfold Watchers.midStep at h
  split at h
  · simp at h
  · rename_i standard hstd
    have hwm : wm.standard = standard := by
      split at h <;> (simp only [Prod.mk.injEq] at h; rw [← h.1])
    unfold DiagnosticSet.midStep at hstd
    dsimp only at hstd
    split at hstd
    · rename_i steps hs
      simp only [Prod.mk.injEq] at hstd
      rw [hwm, ← hstd.1]
      exact ⟨hs, rfl⟩
    · simp at hstd

theorem CoreState.reclaimed_length (st : CoreState) :
    st.reclaimed.length = (st.slots.toList.filter Slot.reclaimable).length := by
  rw [← length_filter_range_getElem?]
  simp [CoreState.reclaimed]

/-- A successful step appends its alive count to the alive counts, and counts each track it
kills once in the step counts. -/
theorem Stepper.step_diagnostics {s s' : Stepper} {w w' : Watchers} {c : Counters}
    (hwf : w.standard.steps.WellFormed) (h : s.step w = (s', w', .ok c)) :
    w'.standard.tracks.alive = w.standard.tracks.alive ++ [c.alive] ∧
      w'.standard.steps.WellFormed ∧
      w'.standard.steps.total = w.standard.steps.total + c.killed := by
  obtain ⟨-, -, acts, n, active, st2, wm, k, st3, -, hmid, hext, -, -, -, -, rfl, rfl⟩ :=
    Stepper.step_ok_eq h
  obtain ⟨hsteps, htracks⟩ := Watchers.midStep_standard hmid
  obtain ⟨hwf', htotal⟩ := StepCounts.midStep_spec hwf hsteps
  obtain ⟨hst3, -⟩ := extendFromSecondaries_ok hext
  refine ⟨by simp [Watchers.endStep, DiagnosticSet.endStep, TrackCounts.endStep, htracks], hwf', ?_⟩
  have hkilled : (cleanup st3).2 = (st2.slots.toList.filter Slot.reclaimable).length := by
    rw [cleanup_count, CoreState.reclaimed_length, hst3]
  simp only [Watchers.endStep, DiagnosticSet.endStep]
  rw [htotal, hkilled]

/-! ## The books of a run -/

namespace Counters

/-- The alive and pending counts before step `k` of a run of `primaries` primaries whose
steps counted `cs`: none alive and every primary pending before the first step, and the
counts of the step before after it. -/
def before (primaries : Nat) (cs : List Counters) (k : Nat) : Nat × Nat :=
  ((cs.take k).getLast?.map fun c => (c.alive, c.pending)).getD (0, primaries)

variable {n : Nat} {cs : List Counters} {c : Counters} {k : Nat}

@[simp] theorem before_zero : before n cs 0 = (0, n) := by simp [before]

theorem before_append_of_le (hk : k ≤ cs.length) : before n (cs ++ [c]) k = before n cs k := by
  simp [before, List.take_append_of_le_length hk]

@[simp] theorem before_append_length :
    before n (cs ++ [c]) (cs.length + 1) = (c.alive, c.pending) := by
  simp [before, List.take_of_length_le]

end Counters

/-- What the books of a run of `primaries` primaries over `slots` slots hold between steps,
with `done` the counts of the steps so far: the occupancy invariant, one step counted per
step taken within the budget, each step's counts balanced against the counts before it, the
state's counts those of the last step, and the diagnostics one alive count per step and one
stopped track per kill. -/
structure RunBooks (slots primaries : Nat) (s : Stepper) (w : Watchers) (done : List Counters) :
    Prop where
  vacancies : VacancyInv s.state
  size_eq : s.state.slots.size = slots
  enabled : s.disabled = false
  steps_eq : s.steps = done.length
  steps_le : s.steps ≤ s.maxSteps
  step_eq : ∀ k (hk : k < done.length), done[k].step = k
  balanced : ∀ k (hk : k < done.length),
    done[k].Balanced slots (Counters.before primaries done k).1 (Counters.before primaries done k).2
  counts_eq : (s.state.numAlive, s.state.numInitializers) =
    Counters.before primaries done done.length
  alivePerStep : w.standard.tracks.alive = done.map (·.alive)
  stepCounts : w.standard.steps.WellFormed
  killed : w.standard.steps.total = (done.map (·.killed)).sum

/-- A successful step keeps the books, with its counts appended. -/
theorem RunBooks.step {slots n : Nat} {s s' : Stepper} {w w' : Watchers} {done : List Counters}
    {c : Counters} (hb : RunBooks slots n s w done) (h : s.step w = (s', w', .ok c)) :
    RunBooks slots n s' w' (done ++ [c]) ∧ s'.maxSteps = s.maxSteps := by
  obtain ⟨-, hlt, acts, m, active, st2, wm, k, st3, -, -, -, -, hsteps, hmax, hdis, -, hc⟩ :=
    Stepper.step_ok_eq h
  obtain ⟨hinv', hsize', hbal, halive, hpending⟩ := Stepper.step_balanced hb.vacancies h
  obtain ⟨htracks, hwf', htotal⟩ := Stepper.step_diagnostics hb.stepCounts h
  have hcstep : c.step = done.length := by rw [hc, hb.steps_eq]
  have hprev := hb.counts_eq
  refine ⟨⟨hinv', hsize'.trans hb.size_eq, hdis, ?_, ?_, fun j hj => ?_, fun j hj => ?_, ?_, ?_,
    hwf',
    ?_⟩, hmax⟩
  · rw [hsteps, hb.steps_eq, List.length_append, List.length_singleton]
  · rw [hsteps, hmax]
    omega
  · rw [List.length_append, List.length_singleton] at hj
    rcases Nat.lt_succ_iff_lt_or_eq.1 hj with hj | rfl
    · rw [List.getElem_append_left hj]
      exact hb.step_eq j hj
    · rw [List.getElem_concat_length rfl]
      exact hcstep
  · rw [List.length_append, List.length_singleton] at hj
    rw [Counters.before_append_of_le (by omega)]
    rcases Nat.lt_succ_iff_lt_or_eq.1 hj with hj | rfl
    · rw [List.getElem_append_left hj]
      exact hb.balanced j hj
    · rw [List.getElem_concat_length rfl, ← hprev, ← hb.size_eq]
      exact hbal
  · rw [List.length_append, List.length_singleton, Counters.before_append_length, halive, hpending]
  · rw [htracks, hb.alivePerStep, List.map_append, List.map_singleton]
  · rw [htotal, hb.killed, List.map_append, List.sum_append, List.map_singleton, List.sum_singleton]

/-- The run loop keeps the books, and ends drained exactly when no track is alive and no
initializer pending, and otherwise out of budget, having taken every step the budget allows
and reporting what is left. The fuel is never what stops it: it exceeds the steps left. -/
theorem RunBooks.loop {slots n : Nat} : ∀ (fuel : Nat) {s s' : Stepper} {w w' : Watchers}
    {done cs : List Counters} {term : Termination}, RunBooks slots n s w done →
    s.maxSteps - s.steps < fuel →
    Transporter.loop fuel s w done.reverse = (s', w', .ok (term, cs)) →
    RunBooks slots n s' w' cs ∧ s'.maxSteps = s.maxSteps ∧
      (term = .drained ↔ s'.state.numAlive = 0 ∧ s'.state.numInitializers = 0) ∧
      ∀ alive pending, term = .budgetExhausted alive pending →
        s'.steps = s'.maxSteps ∧ alive = s'.state.numAlive ∧ pending = s'.state.numInitializers
  | 0, _, _, _, _, _, _, _, _, hfuel, _ => absurd hfuel (Nat.not_lt_zero _)
  | fuel + 1, s, s', w, w', done, cs, term, hb, hfuel, h => by
    rw [Transporter.loop] at h
    split at h
    · rename_i hdrained
      simp only [Prod.mk.injEq, Except.ok.injEq, List.reverse_reverse] at h
      obtain ⟨rfl, rfl, rfl, rfl⟩ := h
      simp only [Bool.and_eq_true, decide_eq_true_eq] at hdrained
      exact ⟨hb, rfl, by simp [hdrained], fun _ _ h => by cases h⟩
    · rename_i hwork
      split at h
      · rename_i hbudget
        simp only [Prod.mk.injEq, Except.ok.injEq, List.reverse_reverse] at h
        obtain ⟨rfl, rfl, rfl, rfl⟩ := h
        simp only [Bool.and_eq_true, decide_eq_true_eq] at hwork
        have hle := hb.steps_le
        refine ⟨hb, rfl, ⟨fun h => (by cases h), fun h => absurd h hwork⟩, ?_⟩
        rintro alive pending ⟨⟩
        exact ⟨by omega, rfl, rfl⟩
      · rename_i hbudget
        split at h
        · rename_i s1 w1 c hstep
          obtain ⟨hb1, hmax1⟩ := hb.step hstep
          -- the loop keeps the counts newest first
          rw [show c :: done.reverse = (done ++ [c]).reverse by simp] at h
          have hsteps1 : s1.steps = s.steps + 1 := by
            rw [hb1.steps_eq, hb.steps_eq, List.length_append, List.length_singleton]
          obtain ⟨hb', hmax', hend⟩ := RunBooks.loop fuel hb1 (by omega) h
          exact ⟨hb', hmax'.trans hmax1, hend⟩
        · cases h

/-! ## A run from its start -/

/-- A transporter as `Transporter.new` builds it for a configuration: the state freshly made
for the configuration's capacities, no step taken, the configuration's step budget, and
diagnostics that have seen nothing. -/
structure Transporter.Fresh (c : RunConfig) (t : Transporter) : Prop where
  state_eq :
    CoreState.new c.input.trackSlots c.input.initializerCapacity c.input.secondaryCapacity =
    some t.stepper.state
  steps_eq : t.stepper.steps = 0
  enabled : t.stepper.disabled = false
  maxSteps_eq : t.stepper.maxSteps = c.input.maxSteps
  alive_eq : t.diagnostics.tracks.alive = []
  stepCounts_eq : t.diagnostics.steps = StepCounts.new c.input.stepHistogramBins

theorem Transporter.new_fresh {c : RunConfig} {t : Transporter} (h : Transporter.new c = .ok t) :
    t.Fresh c := by
  unfold Transporter.new at h
  split at h
  · cases h
  · rename_i d hd
    obtain ⟨e, -, rfl⟩ := Option.map_eq_some_iff.1 hd
    cases hs : Stepper.new c with
    | error e => simp [hs, Except.map] at h
    | ok s =>
      simp only [hs, Except.map, Except.ok.injEq] at h
      subst h
      unfold Stepper.new at hs
      split at hs
      · cases hs
      · split at hs
        · cases hs
        · split at hs
          · cases hs
          · rename_i st hst
            cases hs
            exact ⟨hst, rfl, rfl, rfl, rfl, rfl⟩

theorem CoreState.new_init {n ic ac : Nat} {st : CoreState} (h : CoreState.new n ic ac = some st) :
    st.init = InitBuffer.new n ic := by
  unfold CoreState.new at h
  split at h
  · cases h
    rfl
  · cases h

theorem RunBooks.start {c : RunConfig} {t : Transporter} {ps : List Primary} {s : Stepper}
    (ht : t.Fresh c) (h : t.stepper.loadPrimaries ps = .ok s) (observer : Option Observer) :
    RunBooks c.input.trackSlots ps.length s ⟨t.diagnostics, observer⟩ [] ∧
      s.maxSteps = c.input.maxSteps := by
  obtain ⟨hinv, hsize⟩ := vacancyInv_new ht.state_eq
  have hinit := CoreState.new_init ht.state_eq
  unfold Stepper.loadPrimaries at h
  split at h
  · rename_i init hext
    cases h
    unfold InitBuffer.extendFromPrimaries at hext
    dsimp only at hext
    split at hext
    · cases hext
    · cases hext
      refine ⟨⟨hinv.congr rfl (fun _ => rfl), hsize, ht.enabled, by simp [ht.steps_eq],
        by simp [ht.steps_eq], nofun, nofun, ?_, by simp [ht.alive_eq], ?_, ?_⟩, ht.maxSteps_eq⟩
      · simp [CoreState.numAlive, CoreState.capacity, CoreState.numInitializers, hsize, hinit,
          InitBuffer.new]
      · rw [ht.stepCounts_eq]
        exact StepCounts.new_wellFormed _
      · simp [ht.stepCounts_eq]
  · cases h

/-- **Run bookkeeping.** A run from a fresh transporter that finishes, with or without an
observer, reports one set of counts per step taken, numbered from zero, within the step
budget, and the alive count of each step as its diagnostics recorded it. Each step's counts
balance against those before it: the initialization fills as many of the free slots as
there are pending initializers, and the killed and promoted tracks leave and join the
alive and pending ones. The step counts record every killed track once. The run ends
drained exactly when the final counts are zero, and otherwise out of budget after the last
step the budget allows, reporting the final counts. -/
theorem run_keeps_books {c : RunConfig} {t : Transporter} {primaries : List Primary}
    {observer : Option Observer} {r : RunResult} (ht : t.Fresh c)
    (hr : (t.runWith primaries observer).2.2 = .ok r) :
    let before := Counters.before r.primaries r.counters
    r.primaries = primaries.length ∧ r.steps = r.counters.length ∧ r.steps ≤ c.input.maxSteps ∧
      r.alivePerStep = r.counters.map (·.alive) ∧
      (∀ k (hk : k < r.counters.length), r.counters[k].step = k ∧
        r.counters[k].Balanced c.input.trackSlots (before k).1 (before k).2) ∧
      (r.stepsAtDeath.map fun e => e.2.toList.sum).sum = (r.counters.map (·.killed)).sum ∧
      (r.termination = .drained ↔ before r.counters.length = (0, 0)) ∧
      ∀ alive pending, r.termination = .budgetExhausted alive pending →
        r.steps = c.input.maxSteps ∧ (alive, pending) = before r.counters.length := by
  intro before
  unfold Transporter.runWith at hr
  split at hr
  · cases hr
  · rename_i s hload
    obtain ⟨hb0, hmax0⟩ := RunBooks.start ht hload observer
    generalize hl : Transporter.loop (s.maxSteps - s.steps + 1) s ⟨t.diagnostics, observer⟩ [] = res
      at hr
    obtain ⟨s', w', _ | ⟨term, cs⟩⟩ := res
    · cases hr
    · simp only [Except.ok.injEq] at hr
      subst hr
      obtain ⟨hb, hmax, hdrained, hbudget⟩ := RunBooks.loop _ hb0 (by omega) hl
      have hcounts := hb.counts_eq
      refine ⟨rfl, hb.steps_eq, ?_, hb.alivePerStep,
        fun k hk => ⟨hb.step_eq k hk, hb.balanced k hk⟩,
        hb.killed, ?_, ?_⟩
      · rw [← hmax0, ← hmax]
        exact hb.steps_le
      · show term = .drained ↔ Counters.before primaries.length cs cs.length = (0, 0)
        rw [hdrained, ← hcounts, Prod.mk.injEq]
      · intro alive pending hterm
        obtain ⟨hsteps, halive, hpending⟩ := hbudget alive pending hterm
        refine ⟨hsteps.trans (hmax.trans hmax0), ?_⟩
        show (alive, pending) = Counters.before primaries.length cs cs.length
        rw [← hcounts, halive, hpending]

/-- Two slots, three primaries and an emitter that every track is sent to: each track
gives one child of its own kind and stops. Each step starts two tracks, kills them and
queues their two children, so three initializers are always pending, and the run stops at
its budget of three steps. -/
theorem run_keeps_books_of_an_emitting_chain :
    let c : RunConfig :=
      { input := { RunInput.standard with
          trackSlots := 2, initializerCapacity := 4, secondaryCapacity := 2, maxSteps := 3,
          stepHistogramBins := 4 },
        geometry := default, particles := default,
        physics := PhysicsParams.ofModels [.emit 0 0 1 1.0], cutoffs := default,
        actions := [.forceInteract 0, .processInteractions] }
    let primary : Primary := { (default : Primary) with energy := 1.0, direction := ⟨1.0, 0.0, 0.0⟩ }
    let primaries := [primary, primary, primary]
    ∃ t r, Transporter.new c = .ok t ∧ (t.runWith primaries none).2.2 = .ok r ∧
      r.termination = .budgetExhausted 0 3 ∧ r.counters.map (·.killed) = [2, 2, 2] ∧
      r.counters.map (·.promoted) = [2, 2, 2] ∧
      let before := Counters.before r.primaries r.counters
      r.primaries = primaries.length ∧ r.steps = r.counters.length ∧ r.steps ≤ c.input.maxSteps ∧
        r.alivePerStep = r.counters.map (·.alive) ∧
        (∀ k (hk : k < r.counters.length), r.counters[k].step = k ∧
          r.counters[k].Balanced c.input.trackSlots (before k).1 (before k).2) ∧
        (r.stepsAtDeath.map fun e => e.2.toList.sum).sum = (r.counters.map (·.killed)).sum ∧
        (r.termination = .drained ↔ before r.counters.length = (0, 0)) ∧
        ∀ alive pending, r.termination = .budgetExhausted alive pending →
          r.steps = c.input.maxSteps ∧ (alive, pending) = before r.counters.length := by
  intro c primary primaries
  obtain ⟨t, ht⟩ := Except.exists_eq_ok_of_isOk
    (show (Transporter.new c).isOk = true by decide +kernel)
  have hrun : (match (t.runWith primaries none).2.2 with
      | .ok r => match r.termination with
        | .budgetExhausted a p => (a, p, r.counters.map (·.killed), r.counters.map (·.promoted))
        | .drained => (0, 0, [], [])
      | .error _ => (0, 0, [], [])) = (0, 3, [2, 2, 2], [2, 2, 2]) := by
    rw [show t = (Transporter.new c).toOption.getD default by rw [ht]; rfl]
    decide +kernel
  split at hrun
  · rename_i r hr
    split at hrun
    · rename_i a q hterm
      simp only [Prod.mk.injEq] at hrun
      obtain ⟨rfl, rfl, hkilled, hpromoted⟩ := hrun
      exact ⟨t, r, ht, hr, hterm, hkilled, hpromoted, run_keeps_books (Transporter.new_fresh ht) hr⟩
    · simp at hrun
  · simp at hrun

end Transport
