import Mathlib
import Transport.Proofs.Step
/-!
# Track ids and lineage

Track ids are issued in bulk: each initialization pairs the top vacancies with the top
pending initializers and gives the `k`-th pair the id `nextTrack + k`
(`InitBuffer.popPairs_ids`). A track's parent and event are set once, when its slot is
filled, and kept by every kernel until cleanup vacates the slot (`LineageFrame`); a
secondary is queued with the id of the slot that emitted it as its parent, and with that
slot's event (`Slot.mem_promoted`).

`Stepper.Run` records, beside the steppers of a run, the (slot, track id, initializer)
triples its initializations issued. `LineageInv` ties that record to the state of record:
the ids issued are `0, 1, …` up to the next one to issue, every occupied slot holds a track
issued to it with that track's parent and event, every parent was issued before its child
and in the same event, and the primaries issued, followed by those still pending read from
the top of the stack, are the source's in order. `LineageInv.step` is its step lemma and
`LineageInv.run` carries it through a run; `run_track_ids_and_lineage` states it for a run
that starts from a fresh state with one load of primaries.
-/
namespace Transport

/-! ## Filling slots -/

theorem assignment_fold_mem (pairs : List (Nat × Nat × Initializer))
    (a : Array (Option (Nat × Initializer))) (t : Nat) (q : Nat × Initializer)
    (h : (pairs.foldl (fun a (thread, track, x) => a.set! thread (some (track, x))) a).getD t none =
      some q) :
    a.getD t none = some q ∨ (t, q) ∈ pairs := by
  induction pairs generalizing a with
  | nil => exact .inl h
  | cons p pairs ih =>
    obtain ⟨thread, track, x⟩ := p
    rcases ih _ h with hset | hrest
    · dsimp only at hset
      simp only [Array.set!_eq_setIfInBounds, Array.getD_eq_getD_getElem?,
        Array.getElem?_setIfInBounds] at hset
      split at hset
      · rename_i hthread
        subst hthread
        split at hset
        · have hq : (track, x) = q := by simpa using hset
          exact .inr (hq ▸ List.mem_cons_self)
        · simp at hset
      · exact .inl (by simpa [Array.getD_eq_getD_getElem?] using hset)
    · exact .inr (List.mem_cons_of_mem _ hrest)

theorem assignmentOf_mem {n : Nat} {pairs : List (Nat × Nat × Initializer)} {t : Nat}
    {q : Nat × Initializer} (h : (assignmentOf n pairs).getD t none = some q) : (t, q) ∈ pairs := by
  rcases assignment_fold_mem pairs _ t q h with h | h
  · by_cases ht : t < n <;> simp [ht, Array.getD_eq_getD_getElem?] at h
  · exact h

theorem initializeTracks_lineage {g : Geometry} {seed : UInt64} {dispatch : Dispatch}
    {st : CoreState} {i : Nat} {sl' : Slot}
    (h : (initializeTracks g seed .host dispatch st).1.slots[i]? = some sl') :
    ∃ sl, st.slots[i]? = some sl ∧ (sl'.lineage = sl.lineage ∨
      ∃ t x, (i, t, x) ∈ st.init.popPairs.1 ∧ sl'.lineage = (some t, x.parent, x.event)) := by
  rw [initializeTracks_fst] at h
  split at h
  · exact ⟨sl', h, .inl rfl⟩
  · have hf := sweep_host_field "initialize-tracks"
      (initKernel g (Random.Stream.ofSeed seed) (assignmentOf st.slots.size st.init.popPairs.1))
      dispatch { st with init := st.init.popPairs.2 } Slot.lineage
      (fun j l => ((assignmentOf st.slots.size st.init.popPairs.1).getD j none).elim l
        (fun q => (some q.1, q.2.parent, q.2.event))) (initKernel_lineage g _ _) i
    rw [h] at hf
    rcases hs : st.slots[i]? with _ | sl
    · simp [hs] at hf
    · refine ⟨sl, rfl, ?_⟩
      simp only [hs, Option.map_some, Function.comp_apply, Option.some.injEq] at hf
      rcases ha : (assignmentOf st.slots.size st.init.popPairs.1).getD i none with _ | ⟨t, x⟩
      · exact .inl (by simpa [ha] using hf)
      · exact .inr ⟨t, x, assignmentOf_mem ha, by simpa [ha] using hf⟩

/-! ## Queuing secondaries -/

/-- A promoted secondary has the promoting slot's track as its parent, and its event. -/
theorem Slot.mem_promoted {s : Slot} {cutoffs : CutoffTable} {arena : Arena Secondary}
    {x : Initializer} (h : x ∈ s.promoted cutoffs arena) :
    ∃ t, s.track = some t ∧ x.parent = some t ∧ x.event = s.event := by
  unfold Slot.promoted at h
  split at h
  · rename_i o t _ ht
    obtain ⟨y, -, rfl⟩ := List.mem_map.1 h
    exact ⟨t, ht, rfl, rfl⟩
  · simp at h

@[simp] theorem cleanup_nextTrack (st : CoreState) :
    (cleanup st).1.init.nextTrack = st.init.nextTrack := by
  rw [cleanup_eq]

theorem CoreState.new_unissued {n ic ac : Nat} {st : CoreState}
    (h : CoreState.new n ic ac = some st) :
    (∀ (i : Nat) (sl : Slot), st.slots[i]? = some sl → sl.track = none) ∧ st.init.initializers = #[] ∧
      st.init.nextTrack = 0 := by
  unfold CoreState.new at h
  split at h
  · cases h
    refine ⟨fun i sl hs => ?_, rfl, rfl⟩
    obtain ⟨hi, hsl⟩ := Array.getElem?_eq_some_iff.1 hs
    rw [← hsl, Array.getElem_replicate]
    rfl
  · cases h

/-! ## The invariant -/

/-- What the state of record owes the (slot, track id, initializer) triples issued so far,
in a run whose source gave the primaries `ps`. -/
structure LineageInv (ps : List Primary) (issued : List (Nat × Nat × Initializer))
    (st : CoreState) : Prop where
  /-- The ids issued are `0, 1, …`, up to the next one to issue. -/
  ids_eq : issued.map (·.2.1) = List.range st.init.nextTrack
  /-- An occupied slot holds a track issued to it, with that track's parent and event. -/
  slot_issued : ∀ (i : Nat) (sl : Slot) (t : Nat), st.slots[i]? = some sl → sl.track = some t →
    ∃ x, (i, t, x) ∈ issued ∧ sl.parent = x.parent ∧ sl.event = x.event
  /-- An issued track's parent was issued before it, in the same event. -/
  parent_issued : ∀ (i t : Nat) (x : Initializer) (p : Nat), (i, t, x) ∈ issued →
    x.parent = some p →
    p < t ∧ ∃ j y, (j, p, y) ∈ issued ∧ y.event = x.event
  /-- A pending initializer's parent was issued, in the same event. -/
  pending_parent : ∀ x ∈ st.init.initializers.toList, ∀ p, x.parent = some p →
    ∃ j y, (j, p, y) ∈ issued ∧ y.event = x.event
  /-- The primaries issued, then those pending read from the top of the stack, are the
  source's, in order. -/
  primaries_eq : (issued.map (·.2.2)).filter (·.parent.isNone) ++
    st.init.initializers.toList.reverse.filter (·.parent.isNone) = ps.map Primary.toInitializer

variable {ps : List Primary} {issued : List (Nat × Nat × Initializer)} {st st' : CoreState}

namespace LineageInv

theorem nextTrack_eq (h : LineageInv ps issued st) : st.init.nextTrack = issued.length := by
  simpa using (congrArg List.length h.ids_eq).symm

theorem lt_nextTrack (h : LineageInv ps issued st) {i t : Nat} {x : Initializer}
    (hx : (i, t, x) ∈ issued) : t < st.init.nextTrack := by
  have ht : t ∈ issued.map (·.2.1) := List.mem_map.2 ⟨_, hx, rfl⟩
  rw [h.ids_eq] at ht
  exact List.mem_range.1 ht

theorem issued_unique (h : LineageInv ps issued st) {i j t : Nat} {x y : Initializer}
    (hx : (i, t, x) ∈ issued) (hy : (j, t, y) ∈ issued) : i = j ∧ x = y := by
  have hnd : (issued.map (·.2.1)).Nodup := by
    rw [h.ids_eq]
    exact List.nodup_range
  simpa using List.inj_on_of_nodup_map hnd hx hy rfl

theorem slots_distinct (h : LineageInv ps issued st) {i j t : Nat} {si sj : Slot}
    (hi : st.slots[i]? = some si) (hj : st.slots[j]? = some sj)
    (hti : si.track = some t) (htj : sj.track = some t) : i = j := by
  obtain ⟨x, hx, -⟩ := h.slot_issued i si t hi hti
  obtain ⟨y, hy, -⟩ := h.slot_issued j sj t hj htj
  exact (h.issued_unique hx hy).1

theorem congr (h : LineageInv ps issued st)
    (hinit : st'.init.initializers = st.init.initializers)
    (hnext : st'.init.nextTrack = st.init.nextTrack)
    (hslot : ∀ (i : Nat) (sl' : Slot), st'.slots[i]? = some sl' → sl'.track = none ∨
      ∃ sl, st.slots[i]? = some sl ∧ sl'.lineage = sl.lineage) :
    LineageInv ps issued st' where
  ids_eq := by rw [hnext]; exact h.ids_eq
  slot_issued i sl' t hs ht := by
    rcases hslot i sl' hs with hn | ⟨sl, hsl, hl⟩
    · rw [hn] at ht
      cases ht
    · simp only [Slot.lineage, Prod.mk.injEq] at hl
      rw [hl.1] at ht
      rw [hl.2.1, hl.2.2]
      exact h.slot_issued i sl t hsl ht
  parent_issued := h.parent_issued
  pending_parent := by rw [hinit]; exact h.pending_parent
  primaries_eq := by rw [hinit]; exact h.primaries_eq

theorem frame (h : LineageInv ps issued st) (hf : LineageFrame st st') :
    LineageInv ps issued st' :=
  h.congr (by rw [hf.init]) (by rw [hf.init]) fun i sl' hs => by
    have hl := hf.lineage i
    rw [hs] at hl
    rcases hsl : st.slots[i]? with _ | sl
    · rw [hsl] at hl
      cases hl
    · rw [hsl] at hl
      exact .inr ⟨sl, rfl, Option.some.inj hl⟩

theorem cleanup (h : LineageInv ps issued st) : LineageInv ps issued (cleanup st).1 :=
  h.congr (cleanup_initializers st) (cleanup_nextTrack st) fun i sl' hs => by
    rw [cleanup_slots] at hs
    rcases hsl : st.slots[i]? with _ | sl
    · rw [hsl] at hs
      cases hs
    · rw [hsl, Option.map_some, Option.some.injEq] at hs
      subst hs
      by_cases hr : sl.reclaimable
      · exact .inl (by simp [hr, Slot.vacate])
      · exact .inr ⟨sl, rfl, by simp [hr]⟩

theorem harvest {cutoffs : CutoffTable} {k : Nat} (h : LineageInv ps issued st)
    (hext : extendFromSecondaries cutoffs st = .ok (k, st')) : LineageInv ps issued st' := by
  obtain ⟨rfl, -⟩ := extendFromSecondaries_ok hext
  have hnew : ∀ x ∈ st.harvest cutoffs, ∃ t i y,
      x.parent = some t ∧ (i, t, y) ∈ issued ∧ y.event = x.event := by
    intro x hx
    obtain ⟨s, hs, hxs⟩ := List.mem_flatMap.1 hx
    obtain ⟨t, ht, hp, he⟩ := Slot.mem_promoted hxs
    obtain ⟨i, hi⟩ := Array.mem_iff_getElem?.1 (Array.mem_toList_iff.1 hs)
    obtain ⟨y, hy, -, hey⟩ := h.slot_issued i s t hi ht
    exact ⟨t, i, y, hp, hy, by rw [he, hey]⟩
  refine ⟨h.ids_eq, h.slot_issued, h.parent_issued, fun x hx p hp => ?_, ?_⟩
  · simp only [Array.toList_append, List.mem_append] at hx
    rcases hx with hx | hx
    · exact h.pending_parent x hx p hp
    · obtain ⟨t, i, y, ht, hy, hey⟩ := hnew x hx
      rw [hp, Option.some.injEq] at ht
      subst ht
      exact ⟨i, y, hy, hey⟩
  · have hnone : (st.harvest cutoffs).reverse.filter (·.parent.isNone) = [] := by
      rw [List.filter_eq_nil_iff]
      intro x hx
      obtain ⟨t, -, -, ht, -⟩ := hnew x (List.mem_reverse.1 hx)
      simp [ht]
    simp only [Array.toList_append, List.reverse_append, List.filter_append, hnone,
      List.nil_append]
    exact h.primaries_eq

variable (g : Geometry) (seed : UInt64) (dispatch : Dispatch)

theorem initializeTracks (h : LineageInv ps issued st) :
    LineageInv ps (issued ++ st.init.popPairs.1)
      (Transport.initializeTracks g seed .host dispatch st).1 := by
  have hpop := st.init.popPairs_pop_order
  have hpending : ∀ x ∈ st.init.popPairs.1.map (·.2.2), x ∈ st.init.initializers.toList := by
    intro x hx
    rw [← List.mem_reverse, hpop]
    exact List.mem_append_left _ hx
  have hrest : ∀ x ∈ st.init.popPairs.2.initializers.toList, x ∈ st.init.initializers.toList := by
    intro x hx
    rw [← List.mem_reverse, hpop]
    exact List.mem_append_right _ (List.mem_reverse.2 hx)
  -- the new ids come after every id issued before
  have hnewid : ∀ i t x, (i, t, x) ∈ st.init.popPairs.1 → st.init.nextTrack ≤ t := by
    intro i t x hx
    have ht : t ∈ st.init.popPairs.1.map (·.2.1) := List.mem_map.2 ⟨_, hx, rfl⟩
    rw [InitBuffer.popPairs_ids, List.mem_range'_1] at ht
    exact ht.1
  constructor
  · rw [initializeTracks_init, List.map_append, h.ids_eq, InitBuffer.popPairs_ids,
      InitBuffer.popPairs_nextTrack, List.range_eq_range', List.range_eq_range']
    have hr := @List.range'_append_1 0 st.init.nextTrack
      (min st.init.vacancies.size st.init.initializers.size)
    rwa [Nat.zero_add] at hr
  · intro i sl' t hs ht
    obtain ⟨sl, hsl, hl | ⟨t', x, hx, hl⟩⟩ := initializeTracks_lineage hs
    · simp only [Slot.lineage, Prod.mk.injEq] at hl
      rw [hl.1] at ht
      obtain ⟨x, hx, hp, he⟩ := h.slot_issued i sl t hsl ht
      exact ⟨x, List.mem_append_left _ hx, hl.2.1.trans hp, hl.2.2.trans he⟩
    · simp only [Slot.lineage, Prod.mk.injEq] at hl
      rw [hl.1, Option.some.injEq] at ht
      subst ht
      exact ⟨x, List.mem_append_right _ hx, hl.2.1, hl.2.2⟩
  · intro i t x p hx hp
    rcases List.mem_append.1 hx with hx | hx
    · obtain ⟨hlt, j, y, hy, he⟩ := h.parent_issued i t x p hx hp
      exact ⟨hlt, j, y, List.mem_append_left _ hy, he⟩
    · obtain ⟨j, y, hy, he⟩ :=
        h.pending_parent x (hpending x (List.mem_map.2 ⟨_, hx, rfl⟩)) p hp
      exact ⟨(h.lt_nextTrack hy).trans_le (hnewid i t x hx), j, y, List.mem_append_left _ hy, he⟩
  · intro x hx p hp
    rw [initializeTracks_init] at hx
    obtain ⟨j, y, hy, he⟩ := h.pending_parent x (hrest x hx) p hp
    exact ⟨j, y, List.mem_append_left _ hy, he⟩
  · rw [initializeTracks_init, List.map_append, List.filter_append, List.append_assoc,
      ← List.filter_append, ← hpop]
    exact h.primaries_eq

theorem step {s s' : Stepper} {w w' : Watchers} {c : Counters}
    (h : LineageInv ps issued s.state) (hs : s.step w = (s', w', .ok c)) :
    LineageInv ps (issued ++ s.state.init.popPairs.1) s'.state ∧
      c.initialized = s.state.init.popPairs.1.length := by
  obtain ⟨-, -, acts, n, active, st2, wm, k, st3, htr, -, hext, hstate, -, -, -, -, hc⟩ :=
    Stepper.step_ok_eq hs
  obtain ⟨hinit, -, hframe⟩ := Stepper.transport_lineage htr
  have h1 := h.initializeTracks s.setup.geometry s.setup.seed s.setup.dispatch
  rw [← initializeTracks_ok_host hinit] at h1
  refine ⟨hstate ▸ ((h1.frame hframe).harvest hext).cleanup, ?_⟩
  rw [hc, InitBuffer.popPairs_length]
  exact initializeTracks_ok_count hinit

end LineageInv

/-! ## Runs -/

/-- The successful steps of a run from `s₀`: the stepper they reach, the (slot, track id,
initializer) triples their initializations issued, in order, and the counts of each
step. -/
inductive Stepper.Run (s₀ : Stepper) :
    Stepper → List (Nat × Nat × Initializer) → List Counters → Prop
  | start : Stepper.Run s₀ s₀ [] []
  | step {s s' : Stepper} {w w' : Watchers} {c : Counters}
      {issued : List (Nat × Nat × Initializer)} {cs : List Counters} :
      Stepper.Run s₀ s issued cs → s.step w = (s', w', .ok c) →
      Stepper.Run s₀ s' (issued ++ s.state.init.popPairs.1) (cs ++ [c])

/-- A run keeps the invariant, and its steps counted every track it issued. -/
theorem LineageInv.run {s₀ s : Stepper} {cs : List Counters} (h₀ : LineageInv ps [] s₀.state)
    (hrun : Stepper.Run s₀ s issued cs) :
    LineageInv ps issued s.state ∧ issued.length = (cs.map (·.initialized)).sum := by
  induction hrun with
  | start => exact ⟨h₀, rfl⟩
  | step _ hs ih =>
    obtain ⟨h', hc⟩ := ih.1.step hs
    refine ⟨h', ?_⟩
    rw [List.length_append, ih.2, List.map_append, List.sum_append, List.map_singleton,
      List.sum_singleton, hc]

theorem lineageInv_load {n ic ac : Nat} {s₀ s₁ : Stepper}
    (hfresh : CoreState.new n ic ac = some s₀.state) (hload : s₀.loadPrimaries ps = .ok s₁) :
    LineageInv ps [] s₁.state := by
  obtain ⟨hvacant, hempty, hnext⟩ := CoreState.new_unissued hfresh
  unfold Stepper.loadPrimaries at hload
  split at hload
  · rename_i init hext
    cases hload
    unfold InitBuffer.extendFromPrimaries at hext
    dsimp only at hext
    split at hext
    · cases hext
    · cases hext
      have hprim : ∀ x ∈ ps.map Primary.toInitializer, x.parent = none := by
        intro x hx
        obtain ⟨q, -, rfl⟩ := List.mem_map.1 hx
        rfl
      refine ⟨by simp [hnext], fun i sl t hs ht => ?_, fun _ _ _ _ hx => (by simp at hx),
        fun x hx p hp => ?_, ?_⟩
      · rw [hvacant i sl hs] at ht
        cases ht
      · simp only [hempty, Array.toList_append, List.nil_append, List.mem_map,
          List.mem_reverse] at hx
        obtain ⟨q, -, rfl⟩ := hx
        cases hp
      · simp only [hempty, List.map_nil, List.filter_nil, List.nil_append, Array.toList_append,
          List.map_reverse, List.reverse_reverse]
        exact List.filter_eq_self.2 fun x hx => by simp [hprim x hx]
  · cases hload

/-- **Track identity and lineage.** In a run of successful steps after one load of
primaries into a fresh state, the ids issued are `0, 1, …` up to the next one to issue,
each once, and the steps' initialized counts add up to them. Each occupied slot holds an id
below the next one, issued to that slot, with that track's parent and event, and no two
occupied slots hold one id. An issued track's parent was issued before it, in the same
event. The primaries issued, in the order of their ids, are the first primaries of the
source in source order. -/
theorem run_track_ids_and_lineage {n ic ac : Nat} {s₀ s₁ s : Stepper} {cs : List Counters}
    (hfresh : CoreState.new n ic ac = some s₀.state) (hload : s₀.loadPrimaries ps = .ok s₁)
    (hrun : Stepper.Run s₁ s issued cs) :
    issued.map (·.2.1) = List.range s.state.init.nextTrack ∧
    s.state.init.nextTrack = (cs.map (·.initialized)).sum ∧
    (∀ (i : Nat) (sl : Slot) (t : Nat), s.state.slots[i]? = some sl → sl.track = some t →
      t < s.state.init.nextTrack ∧
      ∃ x, (i, t, x) ∈ issued ∧ sl.parent = x.parent ∧ sl.event = x.event) ∧
    (∀ (i j : Nat) (si sj : Slot) (t : Nat), s.state.slots[i]? = some si →
      s.state.slots[j]? = some sj → si.track = some t → sj.track = some t → i = j) ∧
    (∀ (i t : Nat) (x : Initializer) (p : Nat), (i, t, x) ∈ issued → x.parent = some p →
      p < t ∧ ∃ j y, (j, p, y) ∈ issued ∧ y.event = x.event) ∧
    (issued.map (·.2.2)).filter (·.parent.isNone) <+: ps.map Primary.toInitializer := by
  obtain ⟨h, hlen⟩ := (lineageInv_load hfresh hload).run hrun
  refine ⟨h.ids_eq, h.nextTrack_eq.trans hlen, fun i sl t hs ht => ?_,
    fun i j si sj t hi hj hti htj => h.slots_distinct hi hj hti htj, h.parent_issued,
    ⟨_, h.primaries_eq⟩⟩
  obtain ⟨x, hx, hrest⟩ := h.slot_issued i sl t hs ht
  exact ⟨h.lt_nextTrack hx, x, hx, hrest⟩

/-- Two slots, two primaries of two events, and an emitter that every track is sent to: each
track gives one child of its kind and stops. The first step starts the primaries as tracks
0 and 1; the second starts their children as tracks 2 and 3, each with its parent's event. -/
theorem run_track_ids_and_lineage_of_an_emitting_chain :
    let s₀ : Stepper :=
      { setup := { (default : Setup) with physics := PhysicsParams.ofModels [.emit 0 0 1 1.0] },
        pipeline := ⟨[.forceInteract 0, .processInteractions]⟩,
        state := ⟨#[Slot.vacant, Slot.vacant], Arena.new 2, InitBuffer.new 2 4⟩, threads := none,
        maxSteps := 2, steps := 0, disabled := false, lastLabels := ⟨[], []⟩ }
    let ps : List Primary :=
      [{ (default : Primary) with energy := 1.0, direction := ⟨1.0, 0.0, 0.0⟩ },
       { (default : Primary) with energy := 2.0, direction := ⟨0.0, 1.0, 0.0⟩, event := 1 }]
    ∃ (s₁ s : Stepper) (issued : List (Nat × Nat × Initializer)) (cs : List Counters),
      CoreState.new 2 4 2 = some s₀.state ∧ s₀.loadPrimaries ps = .ok s₁ ∧
      Stepper.Run s₁ s issued cs ∧
      issued.map (fun e : Nat × Nat × Initializer => (e.2.1, e.2.2.parent, e.2.2.event)) =
        [(0, none, 0), (1, none, 1), (2, some 1, 1), (3, some 0, 0)] ∧
      issued.map (·.2.1) = List.range s.state.init.nextTrack ∧
      s.state.init.nextTrack = (cs.map (·.initialized)).sum ∧
      (∀ (i : Nat) (sl : Slot) (t : Nat), s.state.slots[i]? = some sl → sl.track = some t →
        t < s.state.init.nextTrack ∧
        ∃ x, (i, t, x) ∈ issued ∧ sl.parent = x.parent ∧ sl.event = x.event) ∧
      (∀ (i j : Nat) (si sj : Slot) (t : Nat), s.state.slots[i]? = some si →
        s.state.slots[j]? = some sj → si.track = some t → sj.track = some t → i = j) ∧
      (∀ (i t : Nat) (x : Initializer) (p : Nat), (i, t, x) ∈ issued → x.parent = some p →
        p < t ∧ ∃ j y, (j, p, y) ∈ issued ∧ y.event = x.event) ∧
      (issued.map (·.2.2)).filter (·.parent.isNone) <+: ps.map Primary.toInitializer := by
  intro s₀ ps
  have hfresh : CoreState.new 2 4 2 = some s₀.state := rfl
  have hok : (s₀.loadPrimaries ps).isOk = true := by decide +kernel
  obtain ⟨s₁, hload⟩ := Except.exists_eq_ok_of_isOk hok
  have hs₁ : s₁ = (s₀.loadPrimaries ps).toOption.getD default := by rw [hload]; rfl
  let s₂ := (s₁.step default).1
  obtain ⟨c₁, hc₁⟩ := Except.exists_eq_ok_of_isOk
    (show (s₁.step default).2.2.isOk = true by rw [hs₁]; decide +kernel)
  obtain ⟨c₂, hc₂⟩ := Except.exists_eq_ok_of_isOk
    (show (s₂.step default).2.2.isOk = true by simp only [s₂]; rw [hs₁]; decide +kernel)
  have hrun : Stepper.Run s₁ (s₂.step default).1
      ([] ++ s₁.state.init.popPairs.1 ++ s₂.state.init.popPairs.1) ([] ++ [c₁] ++ [c₂]) :=
    .step (.step .start (Stepper.step_eq_of_result hc₁)) (Stepper.step_eq_of_result hc₂)
  have hissued : ([] ++ s₁.state.init.popPairs.1 ++ s₂.state.init.popPairs.1).map
      (fun e : Nat × Nat × Initializer => (e.2.1, e.2.2.parent, e.2.2.event)) =
        [(0, none, 0), (1, none, 1), (2, some 1, 1), (3, some 0, 0)] := by
    simp only [s₂]
    rw [hs₁]
    decide +kernel
  exact ⟨s₁, _, _, _, hfresh, hload, hrun, hissued, run_track_ids_and_lineage hfresh hload hrun⟩

end Transport
