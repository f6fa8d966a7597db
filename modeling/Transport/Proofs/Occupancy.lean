import Transport.Proofs.Sweep
import Transport.Proofs.Kernels
/-!
# The vacancy stack and the occupied slots

A slot's occupancy is recorded twice: in the slot itself, which holds a track exactly when
its `track` is set, and in the vacancy stack of the initializer buffer. The two agree in
every state the host can reach (`VacancyInv`): the stack lists each slot without a track
exactly once, and nothing else. So the number of live tracks can be read from either side
(`VacancyInv.numAlive_eq`).

Three operations keep them in step, and every other one leaves both sides alone
(`PopulationFrame`):

* `initializeTracks` pops the top vacancies before any slot is written, and on the host
  its sweep fills every popped slot, even one whose checks fail;
* `cleanup` pushes exactly the slots it vacates, in slot order;
* the sweeps between them never change which track a slot holds, nor its parent and
  event (`LineageFrame`).

`VacancyInv.run` carries the invariant over every sequence of host operations, and
`vacancies_exactly_empty_slots` states it from a freshly built state, whether the
operations succeed or fail.
-/
namespace Transport

/-! ## The invariant -/

/-- The vacancy stack lists, each once, exactly the slots that hold no track. -/
structure VacancyInv (st : CoreState) : Prop where
  nodup : st.init.vacancies.toList.Nodup
  mem_iff : ∀ i, i ∈ st.init.vacancies.toList ↔ st.slots[i]?.map (·.track) = some none

variable {st st' : CoreState}

theorem VacancyInv.lt_size (h : VacancyInv st) {i : Nat} (hi : i ∈ st.init.vacancies.toList) :
    i < st.slots.size := by
  have hv := (h.mem_iff i).1 hi
  rcases hs : st.slots[i]? with _ | s
  · simp [hs] at hv
  · exact (Array.getElem?_eq_some_iff.1 hs).1

theorem VacancyInv.congr (h : VacancyInv st) (hv : st'.init.vacancies = st.init.vacancies)
    (ht : ∀ i : Nat, st'.slots[i]?.map (·.track) = st.slots[i]?.map (·.track)) :
    VacancyInv st' where
  nodup := hv ▸ h.nodup
  mem_iff i := by rw [hv, ht i]; exact h.mem_iff i

theorem vacancyInv_new {n ic ac : Nat} (h : CoreState.new n ic ac = some st) :
    VacancyInv st ∧ st.slots.size = n := by
  unfold CoreState.new at h
  split at h
  · cases h
    refine ⟨⟨?_, fun i => ?_⟩, by simp⟩
    · have hrev : (List.range n).reverse.Nodup :=
        List.pairwise_reverse.2 (List.nodup_range.imp Ne.symm)
      simpa [InitBuffer.new] using hrev
    · simp only [InitBuffer.new, List.toList_toArray, List.mem_reverse, List.mem_range,
        Array.getElem?_replicate]
      by_cases hi : i < n <;> simp [hi, Slot.vacant]
  · cases h

/-! ## Counting -/

theorem length_filter_range_getElem? {α : Type} (l : List α) (p : α → Bool) :
    ((List.range l.length).filter fun i => l[i]?.any p).length = (l.filter p).length := by
  induction l with
  | nil => rfl
  | cons x l ih =>
    rw [List.length_cons, List.range_succ_eq_map, List.filter_cons, List.filter_map,
      List.filter_cons]
    have hshift : ((fun i => (x :: l)[i]?.any p) ∘ Nat.succ) = fun i => l[i]?.any p := by
      funext i
      simp
    rw [hshift]
    by_cases hx : p x <;> simp [hx, ih]

theorem VacancyInv.size_vacancies (h : VacancyInv st) :
    st.init.vacancies.size = (st.slots.toList.filter (·.track.isNone)).length := by
  have hperm : st.init.vacancies.toList.Perm
      ((List.range st.slots.toList.length).filter fun i =>
        st.slots.toList[i]?.any (·.track.isNone)) := by
    rw [List.perm_ext_iff_of_nodup h.nodup (List.nodup_range.filter _)]
    intro i
    rw [h.mem_iff i, List.mem_filter, List.mem_range]
    rcases hs : st.slots[i]? with _ | s
    · simp [hs]
    · obtain ⟨hi, hsi⟩ := Array.getElem?_eq_some_iff.1 hs
      simp [hi, hsi]
  rw [← Array.length_toList, hperm.length_eq, length_filter_range_getElem?]

theorem VacancyInv.vacancies_le (h : VacancyInv st) : st.init.vacancies.size ≤ st.slots.size := by
  rw [h.size_vacancies, ← Array.length_toList]
  exact List.length_filter_le _ _

/-- The slots less the vacancies are the slots that hold a track. -/
theorem VacancyInv.numAlive_eq (h : VacancyInv st) : st.numAlive = st.countOccupied := by
  have hsplit := List.length_eq_countP_add_countP (fun s : Slot => s.track.isSome)
    (l := st.slots.toList)
  have hnone : (fun a : Slot => decide ¬a.track.isSome = true) = fun a => a.track.isNone := by
    funext a
    cases a.track <;> rfl
  rw [hnone, List.countP_eq_length_filter, List.countP_eq_length_filter,
    ← h.size_vacancies] at hsplit
  have hsize : st.slots.size = st.slots.toList.length := Array.length_toList.symm
  simp only [CoreState.numAlive, CoreState.countOccupied, CoreState.capacity]
  omega

/-! ## Steps that fill and vacate nothing -/

/-- `st'` has the initializer buffer and every slot's track of `st`. -/
structure PopulationFrame (st st' : CoreState) : Prop where
  init : st'.init = st.init
  track : ∀ i : Nat, st'.slots[i]?.map (·.track) = st.slots[i]?.map (·.track)

theorem PopulationFrame.refl (st : CoreState) : PopulationFrame st st :=
  ⟨rfl, fun _ => rfl⟩

theorem PopulationFrame.trans {st'' : CoreState} (h₁ : PopulationFrame st st')
    (h₂ : PopulationFrame st' st'') : PopulationFrame st st'' :=
  ⟨h₂.init.trans h₁.init, fun i => (h₂.track i).trans (h₁.track i)⟩

theorem PopulationFrame.vacancyInv (hf : PopulationFrame st st') (h : VacancyInv st) :
    VacancyInv st' :=
  h.congr (by rw [hf.init]) hf.track

theorem PopulationFrame.size_eq (hf : PopulationFrame st st') : st'.slots.size = st.slots.size :=
  size_eq_of_map_getElem? _ hf.track

theorem PopulationFrame.numAlive_eq (hf : PopulationFrame st st') : st'.numAlive = st.numAlive := by
  simp only [CoreState.numAlive, CoreState.capacity, hf.size_eq, hf.init]

theorem PopulationFrame.numInitializers_eq (hf : PopulationFrame st st') :
    st'.numInitializers = st.numInitializers := by
  simp only [CoreState.numInitializers, hf.init]

/-- `st'` has the initializer buffer of `st`, and each slot keeps the track, parent and
event it has in `st`. -/
structure LineageFrame (st st' : CoreState) : Prop where
  init : st'.init = st.init
  lineage : ∀ i : Nat, st'.slots[i]?.map (·.lineage) = st.slots[i]?.map (·.lineage)

theorem LineageFrame.refl (st : CoreState) : LineageFrame st st :=
  ⟨rfl, fun _ => rfl⟩

theorem LineageFrame.trans {st'' : CoreState} (h₁ : LineageFrame st st')
    (h₂ : LineageFrame st' st'') : LineageFrame st st'' :=
  ⟨h₂.init.trans h₁.init, fun i => (h₂.lineage i).trans (h₁.lineage i)⟩

theorem LineageFrame.population (h : LineageFrame st st') : PopulationFrame st st' where
  init := h.init
  track i := by
    have := congrArg (Option.map Prod.fst) (h.lineage i)
    rw [Option.map_map, Option.map_map] at this
    exact this

theorem lineageFrame_sweep (label : String) (space : Space) (dispatch : Dispatch)
    (kernel : Kernel) (hk : ∀ i s a, (kernel i s a).1.lineage = s.lineage) (st : CoreState) :
    LineageFrame st (sweep label space dispatch kernel st).1 :=
  ⟨sweep_init label kernel space dispatch st,
    sweep_keeps label kernel space dispatch st _ hk⟩

theorem lineageFrame_startStep (space : Space) (dispatch : Dispatch) (st : CoreState) :
    LineageFrame st (startStep space dispatch st).1 :=
  lineageFrame_sweep _ _ _ _ (fun _ s _ => Slot.startStep_lineage s) st

theorem lineageFrame_alongStepSweep (p : Setup) (st : CoreState) :
    LineageFrame st (alongStepSweep p st).1 :=
  lineageFrame_sweep _ _ _ _ (fun _ s _ => Slot.lineage_of_kept (alongStep_kept p s)) st

theorem lineageFrame_processSweep (p : Setup) (st : CoreState) :
    LineageFrame st (processSweep p st).1 :=
  lineageFrame_sweep _ _ _ _ (fun _ s a => Slot.lineage_of_kept (processInteraction_kept p s a)) st

theorem launchFrom_keeps {β : Type} (p : Setup) (f : Slot → β)
    (hk : ∀ id m i s a, f (modelKernel p id m i s a).1 = f s) :
    ∀ (id : Nat) (ms : List Model) (st : CoreState),
      (launchFrom p id ms st).1.init = st.init ∧
        ∀ j : Nat, (launchFrom p id ms st).1.slots[j]?.map f = st.slots[j]?.map f
  | _, [], st => ⟨rfl, fun _ => rfl⟩
  | id, m :: ms, st => by
    have hinit := sweep_init m.label (modelKernel p id m) p.space p.dispatch st
    have hslots := sweep_keeps m.label (modelKernel p id m) p.space p.dispatch st f (hk id m)
    unfold launchFrom
    split
    · rename_i st' e h
      rw [h] at hinit hslots
      exact ⟨hinit, hslots⟩
    · rename_i st' h
      rw [h] at hinit hslots
      obtain ⟨hinit', hslots'⟩ := launchFrom_keeps p f hk (id + 1) ms st'
      exact ⟨hinit'.trans hinit, fun j => (hslots' j).trans (hslots j)⟩

theorem launchFrom_cons_ok {p : Setup} {id : Nat} {m : Model} {ms : List Model}
    {st : CoreState} (hok : (launchFrom p id (m :: ms) st).2 = none) :
    ∃ st', sweep m.label p.space p.dispatch (modelKernel p id m) st = (st', none) ∧
      launchFrom p id (m :: ms) st = launchFrom p (id + 1) ms st' := by
  unfold launchFrom at hok
  split at hok
  · cases hok
  · rename_i st' hs
    refine ⟨st', hs, ?_⟩
    rw [launchFrom.eq_2, hs]

theorem lineageFrame_launchFrom (p : Setup) (id : Nat) (ms : List Model) (st : CoreState) :
    LineageFrame st (launchFrom p id ms st).1 :=
  ⟨(launchFrom_keeps p _ (modelKernel_lineage p) id ms st).1,
    (launchFrom_keeps p _ (modelKernel_lineage p) id ms st).2⟩

theorem lineageFrame_launchModels (p : Setup) (st : CoreState) :
    LineageFrame st (launchModels p st).1 :=
  lineageFrame_launchFrom p 0 _ st

theorem lineageFrame_execute (p : Setup) (a : Action) (st : CoreState) :
    LineageFrame st (a.execute p st).2.1 := by
  cases a with
  | alongStep => exact lineageFrame_alongStepSweep p st
  | processInteractions => exact lineageFrame_processSweep p st
  | noop => exact LineageFrame.refl st
  | counting => exact LineageFrame.refl st
  | forceInteract m =>
    exact lineageFrame_sweep _ _ _ _ (fun _ s _ => Action.forceSlot_lineage m s) st
  | failing stage after n =>
    simp only [Action.execute]
    split
    · exact LineageFrame.refl st
    · refine lineageFrame_sweep _ _ _ _ (fun _ s _ => ?_) st
      split <;> rfl

/-! ## Filling slots -/

namespace InitBuffer

variable (b : InitBuffer)

@[simp] theorem popPairs_length :
    b.popPairs.1.length = min b.vacancies.size b.initializers.size := by
  simp [popPairs]

theorem popPairs_vacancies :
    b.popPairs.2.vacancies.toList =
      b.vacancies.toList.take (b.vacancies.size - min b.vacancies.size b.initializers.size) := by
  simp [popPairs]

@[simp] theorem popPairs_initializers_size :
    b.popPairs.2.initializers.size = b.initializers.size - min b.vacancies.size b.initializers.size := by
  simp [popPairs]

theorem map_range_getD_top {α : Type} (a : Array α) (d : α) {n : Nat} (hn : n ≤ a.size) :
    (List.range n).map (fun i => a.getD (a.size - 1 - i) d) =
      (a.toList.drop (a.size - n)).reverse := by
  apply List.ext_getElem
  · simp
    omega
  · intro i h1 _
    have hi : i < n := by simpa using h1
    simp only [List.getElem_map, List.getElem_range, List.getElem_reverse, List.getElem_drop,
      Array.getElem_toList, Array.getD_eq_getD_getElem?]
    rw [Array.getElem?_eq_getElem (by omega), Option.getD_some]
    congr 1
    simp only [List.length_drop, Array.length_toList]
    omega

theorem popPairs_threads :
    b.popPairs.1.map (·.1) =
      (b.vacancies.toList.drop (b.vacancies.size - min b.vacancies.size b.initializers.size)).reverse := by
  simp only [popPairs, List.map_map, Function.comp_def]
  exact map_range_getD_top _ _ (Nat.min_le_left _ _)

theorem popPairs_initializers :
    b.popPairs.1.map (·.2.2) =
      (b.initializers.toList.drop
        (b.initializers.size - min b.vacancies.size b.initializers.size)).reverse := by
  simp only [popPairs, List.map_map, Function.comp_def]
  exact map_range_getD_top _ _ (Nat.min_le_right _ _)

theorem popPairs_ids :
    b.popPairs.1.map (·.2.1) =
      List.range' b.nextTrack (min b.vacancies.size b.initializers.size) := by
  apply List.ext_getElem
  · simp
  · intro i _ _
    simp [popPairs]

theorem popPairs_rest :
    b.popPairs.2.initializers.toList =
      b.initializers.toList.take (b.initializers.size - min b.vacancies.size b.initializers.size) := by
  simp [popPairs]

@[simp] theorem popPairs_nextTrack :
    b.popPairs.2.nextTrack = b.nextTrack + min b.vacancies.size b.initializers.size := rfl

theorem popPairs_pop_order :
    b.initializers.toList.reverse =
      b.popPairs.1.map (·.2.2) ++ b.popPairs.2.initializers.toList.reverse := by
  rw [popPairs_initializers, popPairs_rest, ← List.reverse_append, List.take_append_drop]

end InitBuffer

theorem assignment_fold_isSome (pairs : List (Nat × Nat × Initializer))
    (a : Array (Option (Nat × Initializer))) (t : Nat) :
    ((pairs.foldl (fun a (thread, track, x) => a.set! thread (some (track, x))) a).getD t none).isSome =
      ((a.getD t none).isSome || (decide (t < a.size) && pairs.any (·.1 == t))) := by
  induction pairs generalizing a with
  | nil => simp
  | cons p pairs ih =>
    obtain ⟨thread, track, x⟩ := p
    rw [List.foldl_cons, ih]
    simp only [Array.set!_eq_setIfInBounds, Array.getD_eq_getD_getElem?,
      Array.getElem?_setIfInBounds, Array.size_setIfInBounds, List.any_cons]
    by_cases h : thread = t
    · subst h
      by_cases hs : thread < a.size <;> simp [hs]
    · have hne : (thread == t) = false := by simpa using h
      simp [h, hne]

theorem assignmentOf_isSome (n : Nat) (pairs : List (Nat × Nat × Initializer)) (t : Nat) :
    ((assignmentOf n pairs).getD t none).isSome = (decide (t < n) && pairs.any (·.1 == t)) := by
  rw [assignmentOf, assignment_fold_isSome, Array.getD_eq_getD_getElem?, Array.getElem?_replicate]
  by_cases ht : t < n <;> simp [ht]

variable (g : Geometry) (seed : UInt64) (space : Space) (dispatch : Dispatch)

theorem initializeTracks_fst (st : CoreState) :
    (initializeTracks g seed space dispatch st).1 =
      if st.init.popPairs.1.isEmpty then { st with init := st.init.popPairs.2 }
      else (sweep "initialize-tracks" space dispatch
        (initKernel g (Random.Stream.ofSeed seed) (assignmentOf st.slots.size st.init.popPairs.1))
        { st with init := st.init.popPairs.2 }).1 := by
  unfold initializeTracks
  split
  rename_i pairs init h
  simp only [h]
  split
  · rfl
  · split <;> rfl

theorem initializeTracks_snd (st : CoreState) :
    (initializeTracks g seed space dispatch st).2 =
      if st.init.popPairs.1.isEmpty then .ok 0
      else match (sweep "initialize-tracks" space dispatch
        (initKernel g (Random.Stream.ofSeed seed) (assignmentOf st.slots.size st.init.popPairs.1))
        { st with init := st.init.popPairs.2 }).2 with
        | some e => .error e
        | none => .ok st.init.popPairs.1.length := by
  unfold initializeTracks
  split
  rename_i pairs init h
  simp only [h]
  split
  · rfl
  · cases (sweep "initialize-tracks" space dispatch
      (initKernel g (Random.Stream.ofSeed seed) (assignmentOf st.slots.size pairs))
      { st with init := init }).2 <;> rfl

variable {g seed space dispatch} in
theorem initializeTracks_ok_cases {n : Nat}
    (h : (initializeTracks g seed space dispatch st).2 = .ok n) :
    (initializeTracks g seed space dispatch st).1 = { st with init := st.init.popPairs.2 } ∨
      ((sweep "initialize-tracks" space dispatch
          (initKernel g (Random.Stream.ofSeed seed) (assignmentOf st.slots.size st.init.popPairs.1))
          { st with init := st.init.popPairs.2 }).2 = none ∧
        (initializeTracks g seed space dispatch st).1 = (sweep "initialize-tracks" space dispatch
          (initKernel g (Random.Stream.ofSeed seed) (assignmentOf st.slots.size st.init.popPairs.1))
          { st with init := st.init.popPairs.2 }).1) := by
  rw [initializeTracks_snd] at h
  rw [initializeTracks_fst]
  split
  · exact .inl rfl
  · rename_i hne
    rw [if_neg hne] at h
    split at h
    · cases h
    · rename_i hsweep
      exact .inr ⟨hsweep, rfl⟩

@[simp] theorem initializeTracks_init (st : CoreState) :
    (initializeTracks g seed space dispatch st).1.init = st.init.popPairs.2 := by
  rw [initializeTracks_fst]
  split
  · rfl
  · rw [sweep_init]

theorem initializeTracks_vacant (st : CoreState) (i : Nat) :
    (initializeTracks g seed .host dispatch st).1.slots[i]?.map (·.track) = some none ↔
      st.slots[i]?.map (·.track) = some none ∧ i ∉ st.init.popPairs.1.map (·.1) := by
  rw [initializeTracks_fst]
  split
  · rename_i hempty
    simp [List.isEmpty_iff.1 hempty]
  · rw [sweep_host_field _ _ _ _ Slot.track
      (fun j t => ((assignmentOf st.slots.size st.init.popPairs.1).getD j none).elim t
        (fun p => some p.1)) (initKernel_track g _ _)]
    have hasg := assignmentOf_isSome st.slots.size st.init.popPairs.1 i
    have hmem : i ∈ st.init.popPairs.1.map (·.1) ↔ st.init.popPairs.1.any (·.1 == i) = true := by
      simp
    rcases hs : st.slots[i]? with _ | s
    · simp
    · have hi : i < st.slots.size := (Array.getElem?_eq_some_iff.1 hs).1
      simp only [Option.map_some, Function.comp_apply, Option.some.injEq]
      rcases ha : (assignmentOf st.slots.size st.init.popPairs.1).getD i none with _ | q
      · simp only [ha, Option.isSome_none, decide_eq_true hi, Bool.true_and] at hasg
        have hnot : i ∉ st.init.popPairs.1.map (·.1) := by
          rw [hmem, ← hasg]
          simp
        simp [hnot]
      · simp only [ha, Option.isSome_some, decide_eq_true hi, Bool.true_and] at hasg
        have hin : i ∈ st.init.popPairs.1.map (·.1) := by
          rw [hmem, ← hasg]
        simp [hin]

/-- The initialization keeps the invariant: the popped vacancies are exactly the slots it
fills, and the rest of the stack is untouched. -/
theorem VacancyInv.initializeTracks (h : VacancyInv st) :
    VacancyInv (initializeTracks g seed .host dispatch st).1 := by
  have hsplit := List.take_append_drop
    (st.init.vacancies.size - min st.init.vacancies.size st.init.initializers.size)
    st.init.vacancies.toList
  have hnd := h.nodup
  rw [← hsplit, List.nodup_append] at hnd
  obtain ⟨hkeep, -, hdisj⟩ := hnd
  constructor
  · rw [initializeTracks_init, InitBuffer.popPairs_vacancies]
    exact hkeep
  · intro i
    rw [initializeTracks_init, InitBuffer.popPairs_vacancies, initializeTracks_vacant, ← h.mem_iff,
      InitBuffer.popPairs_threads, List.mem_reverse]
    constructor
    · intro hi
      exact ⟨List.mem_of_mem_take hi, fun hd => hdisj i hi i hd rfl⟩
    · rintro ⟨hi, hnot⟩
      rw [← hsplit, List.mem_append] at hi
      exact hi.resolve_right hnot

/-! ## Vacating slots -/

/-- Whether cleanup reclaims a slot: it holds a track that has stopped. -/
def Slot.reclaimable (s : Slot) : Bool := s.track.isSome && s.status == .killed

/-- A reclaimed slot: no track, inactive, no outcome. -/
def Slot.vacate (s : Slot) : Slot := { s with track := none, status := .inactive, interaction := none }

/-- The slots cleanup reclaims, in slot order. -/
def CoreState.reclaimed (st : CoreState) : List Nat :=
  (List.range st.slots.size).filter fun j => st.slots[j]?.any Slot.reclaimable

/-- One slot of cleanup: the slots, the vacancy stack and the count of slots reclaimed. -/
def cleanupStep (acc : Array Slot × Array Nat × Nat) (i : Nat) : Array Slot × Array Nat × Nat :=
  let s := acc.1.getD i default
  if s.reclaimable then (acc.1.set! i s.vacate, acc.2.1.push i, acc.2.2 + 1) else acc

theorem cleanup_eq (st : CoreState) :
    cleanup st =
      let r := (List.range st.slots.size).foldl cleanupStep (st.slots, st.init.vacancies, 0)
      ({ st with slots := r.1, init := { st.init with vacancies := r.2.1 },
                 secondaries := st.secondaries.clear }, r.2.2) := rfl

theorem cleanupFold_spec (slots : Array Slot) (vac : Array Nat) (c k : Nat) :
    let r := (List.range k).foldl cleanupStep (slots, vac, c)
    (∀ j, r.1[j]? = if j < k then slots[j]?.map (fun s => if s.reclaimable then s.vacate else s)
      else slots[j]?) ∧
    r.2.1.toList = vac.toList ++ (List.range k).filter (fun j => slots[j]?.any Slot.reclaimable) ∧
    r.2.2 = c + ((List.range k).filter (fun j => slots[j]?.any Slot.reclaimable)).length := by
  induction k with
  | zero => simp
  | succ k ih =>
    obtain ⟨hs, hv, hc⟩ := ih
    simp only [List.range_succ, List.foldl_append, List.foldl_cons, List.foldl_nil,
      List.filter_append, List.length_append]
    generalize (List.range k).foldl cleanupStep (slots, vac, c) = r at hs hv hc
    obtain ⟨sl, va, n⟩ := r
    simp only at hs hv hc
    have hk : sl[k]? = slots[k]? := by simpa using hs k
    simp only [cleanupStep, Array.getD_eq_getD_getElem?, hk]
    have hdef : (default : Slot).reclaimable = false := rfl
    rcases hsk : slots[k]? with _ | s
    · -- past the last slot: nothing to reclaim
      simp only [Option.getD_none, hdef, Bool.false_eq_true, if_false, Option.any_none,
        List.filter_cons, List.filter_nil, hsk]
      refine ⟨fun j => ?_, by simpa using hv, by simpa using hc⟩
      rw [hs j]
      by_cases hj : j = k
      · subst hj
        simp [hsk]
      · by_cases hjk : j < k
        · simp [hjk, Nat.lt_succ_of_lt hjk]
        · have : ¬ j < k + 1 := by omega
          simp [hjk, this]
    · have hks : k < sl.size := by
        have : sl[k]?.isSome := by simp [hk, hsk]
        simpa using this
      have hsl : ∀ j, (if s.reclaimable then sl.set! k s.vacate else sl)[j]? =
          if j < k + 1 then slots[j]?.map (fun s => if s.reclaimable then s.vacate else s)
          else slots[j]? := by
        intro j
        by_cases hj : j = k
        · subst hj
          have hslj : sl[j]? = some s := hk.trans hsk
          by_cases hr : s.reclaimable
          · simp [hr, hks, hsk]
          · simpa [hr, hsk] using hslj
        · have hlt : (j < k + 1) = (j < k) := by simp; omega
          by_cases hr : s.reclaimable <;>
            simp [hr, hlt, hs j, Array.set!_eq_setIfInBounds, Ne.symm hj]
      simp only [Option.getD_some, List.filter_cons, List.filter_nil, hsk, Option.any_some]
      by_cases hr : s.reclaimable
      · simp only [hr, if_true] at hsl ⊢
        exact ⟨hsl, by simp [hv], by simp [hc]; omega⟩
      · simp only [hr, Bool.false_eq_true, if_false] at hsl ⊢
        exact ⟨hsl, by simp [hv], by simp [hc]⟩

theorem cleanup_slots (st : CoreState) (j : Nat) :
    (cleanup st).1.slots[j]? =
      st.slots[j]?.map (fun s => if s.reclaimable then s.vacate else s) := by
  rw [cleanup_eq]
  simp only [(cleanupFold_spec st.slots st.init.vacancies 0 st.slots.size).1 j]
  split
  · rfl
  · rename_i hj
    have : st.slots[j]? = none := by simp; omega
    simp [this]

theorem cleanup_size (st : CoreState) : (cleanup st).1.slots.size = st.slots.size :=
  size_eq_of_map_getElem? (fun _ => ()) (fun j => by simp [cleanup_slots])

theorem cleanup_vacancies (st : CoreState) :
    (cleanup st).1.init.vacancies.toList = st.init.vacancies.toList ++ st.reclaimed := by
  rw [cleanup_eq]
  exact (cleanupFold_spec st.slots st.init.vacancies 0 st.slots.size).2.1

theorem cleanup_count (st : CoreState) : (cleanup st).2 = st.reclaimed.length := by
  rw [cleanup_eq]
  simpa [CoreState.reclaimed] using (cleanupFold_spec st.slots st.init.vacancies 0 st.slots.size).2.2

@[simp] theorem cleanup_initializers (st : CoreState) :
    (cleanup st).1.init.initializers = st.init.initializers := by
  rw [cleanup_eq]

theorem mem_reclaimed {st : CoreState} {i : Nat} :
    i ∈ st.reclaimed ↔ st.slots[i]?.any Slot.reclaimable := by
  simp only [CoreState.reclaimed, List.mem_filter, List.mem_range, and_iff_right_iff_imp]
  intro hi
  rcases hs : st.slots[i]? with _ | s
  · simp [hs] at hi
  · exact (Array.getElem?_eq_some_iff.1 hs).1

/-- Cleanup keeps the invariant: it pushes exactly the slots it vacates, none of which was
on the stack. -/
theorem VacancyInv.cleanup (h : VacancyInv st) : VacancyInv (cleanup st).1 := by
  constructor
  · rw [cleanup_vacancies, List.nodup_append]
    refine ⟨h.nodup, List.nodup_range.filter _, fun i hi j hj hij => ?_⟩
    subst hij
    have hv := (h.mem_iff i).1 hi
    have hr := mem_reclaimed.1 hj
    rcases hs : st.slots[i]? with _ | s
    · simp [hs] at hv
    · simp [hs] at hv hr
      simp [Slot.reclaimable, hv] at hr
  · intro i
    rw [cleanup_vacancies, List.mem_append, h.mem_iff i, mem_reclaimed, cleanup_slots]
    rcases hs : st.slots[i]? with _ | s
    · simp
    · by_cases hr : s.reclaimable
      · have htr : s.track ≠ none := by
          simp [Slot.reclaimable] at hr
          simpa [Option.isSome_iff_ne_none] using hr.1
        simp [hr, htr, Slot.vacate]
      · simp [hr]

/-! ## Queuing initializers -/

/-- The initializers the harvest would queue: each slot's promoted secondaries, in slot
order. -/
def CoreState.harvest (st : CoreState) (cutoffs : CutoffTable) : List Initializer :=
  st.slots.toList.flatMap fun s => s.promoted cutoffs st.secondaries

theorem extendFromSecondaries_ok {cutoffs : CutoffTable} {n : Nat}
    (h : extendFromSecondaries cutoffs st = .ok (n, st')) :
    st' = { st with init := { st.init with
      initializers := st.init.initializers ++ (st.harvest cutoffs).toArray } } ∧
    n = (st.harvest cutoffs).length := by
  unfold extendFromSecondaries at h
  extract_lets promoted requested at h
  split at h
  · cases h
  · cases h
    exact ⟨rfl, rfl⟩

/-! ## Every sequence of host operations -/

/-- The operations the host performs on the state of record between and within steps, each
with what it is given. -/
inductive HostOp where
  | loadPrimaries (ps : List Primary)
  | initializeTracks (g : Geometry) (seed : UInt64) (dispatch : Dispatch)
  | startStep (space : Space) (dispatch : Dispatch)
  | alongStep (p : Setup)
  | processInteractions (p : Setup)
  | launchModels (p : Setup)
  | harvest (cutoffs : CutoffTable)
  | cleanup

/-- The state after an operation, whether it succeeded or failed; the initialization runs
on the host. -/
def HostOp.apply : HostOp → CoreState → CoreState
  | .loadPrimaries ps, st =>
    match st.init.extendFromPrimaries ps with
    | .ok init => { st with init }
    | .error _ => st
  | .initializeTracks g seed dispatch, st => (Transport.initializeTracks g seed .host dispatch st).1
  | .startStep space dispatch, st => (Transport.startStep space dispatch st).1
  | .alongStep p, st => (alongStepSweep p st).1
  | .processInteractions p, st => (processSweep p st).1
  | .launchModels p, st => (Transport.launchModels p st).1
  | .harvest cutoffs, st =>
    match extendFromSecondaries cutoffs st with
    | .ok (_, st') => st'
    | .error _ => st
  | .cleanup, st => (Transport.cleanup st).1

theorem HostOp.size_apply (op : HostOp) (st : CoreState) :
    (op.apply st).slots.size = st.slots.size := by
  cases op with
  | loadPrimaries ps =>
    simp only [HostOp.apply]
    split <;> rfl
  | initializeTracks g seed dispatch =>
    simp only [HostOp.apply, initializeTracks_fst]
    split
    · rfl
    · rw [sweep_size]
  | startStep space dispatch => exact (lineageFrame_startStep space dispatch st).population.size_eq
  | alongStep p => exact (lineageFrame_alongStepSweep p st).population.size_eq
  | processInteractions p => exact (lineageFrame_processSweep p st).population.size_eq
  | launchModels p => exact (lineageFrame_launchModels p st).population.size_eq
  | harvest cutoffs =>
    simp only [HostOp.apply]
    split
    · rename_i h
      rw [(extendFromSecondaries_ok h).1]
    · rfl
  | cleanup =>
    exact cleanup_size st

theorem VacancyInv.apply (h : VacancyInv st) (op : HostOp) : VacancyInv (op.apply st) := by
  cases op with
  | loadPrimaries ps =>
    simp only [HostOp.apply]
    split
    · rename_i init hinit
      unfold InitBuffer.extendFromPrimaries at hinit
      extract_lets requested at hinit
      split at hinit
      · cases hinit
      · cases hinit
        exact h.congr rfl (fun _ => rfl)
    · exact h
  | initializeTracks g seed dispatch => exact h.initializeTracks g seed dispatch
  | startStep space dispatch => exact (lineageFrame_startStep space dispatch st).population.vacancyInv h
  | alongStep p => exact (lineageFrame_alongStepSweep p st).population.vacancyInv h
  | processInteractions p => exact (lineageFrame_processSweep p st).population.vacancyInv h
  | launchModels p => exact (lineageFrame_launchModels p st).population.vacancyInv h
  | harvest cutoffs =>
    simp only [HostOp.apply]
    split
    · rename_i hh
      rw [(extendFromSecondaries_ok hh).1]
      exact h.congr rfl (fun _ => rfl)
    · exact h
  | cleanup => exact h.cleanup

/-- Along any sequence of host operations the slot count stays and the invariant holds. -/
theorem VacancyInv.run (ops : List HostOp) (h : VacancyInv st) :
    VacancyInv (ops.foldl (fun st op => op.apply st) st) ∧
      (ops.foldl (fun st op => op.apply st) st).slots.size = st.slots.size := by
  induction ops generalizing st with
  | nil => exact ⟨h, rfl⟩
  | cons op ops ih =>
    obtain ⟨hinv, hsize⟩ := ih (h.apply op)
    exact ⟨hinv, hsize.trans (HostOp.size_apply op st)⟩

/-- From a freshly built state, after any sequence of host operations, each of which may
succeed or fail, the vacancy stack holds every slot without a track exactly once and no
other entry, so the slots less the vacancies count the occupied slots. -/
theorem vacancies_exactly_empty_slots {n ic ac : Nat} {st0 : CoreState}
    (h0 : CoreState.new n ic ac = some st0) (ops : List HostOp) :
    let st := ops.foldl (fun st op => op.apply st) st0
    st.init.vacancies.toList.Nodup ∧ (∀ v ∈ st.init.vacancies.toList, v < n) ∧
      (∀ i < n, i ∈ st.init.vacancies.toList ↔ st.slots[i]?.map (·.track) = some none) ∧
      st.numAlive = st.countOccupied := by
  intro st
  obtain ⟨hinv, hsize⟩ := vacancyInv_new h0
  obtain ⟨h, hn⟩ := hinv.run ops
  rw [hsize] at hn
  exact ⟨h.nodup, fun v hv => hn ▸ h.lt_size hv, fun i _ => h.mem_iff i, h.numAlive_eq⟩

/-- Two slots, one primary filled in and then reclaimed. -/
theorem vacancies_after_fill_and_cleanup :
    ∃ st0, CoreState.new 2 2 2 = some st0 ∧
      let st := [HostOp.loadPrimaries [default], .initializeTracks default 0 .onWorker,
        .cleanup].foldl (fun st op => op.apply st) st0
      st.init.vacancies.toList.Nodup ∧ (∀ v ∈ st.init.vacancies.toList, v < 2) ∧
        (∀ i < 2, i ∈ st.init.vacancies.toList ↔ st.slots[i]?.map (·.track) = some none) ∧
        st.numAlive = st.countOccupied :=
  ⟨_, rfl, @vacancies_exactly_empty_slots 2 2 2 _ rfl _⟩

end Transport
