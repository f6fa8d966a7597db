import Transport.Proofs.HostDevice
import Transport.Proofs.Lineage
/-!
# Batch pairing and the sequential pop loop

The initialization pairs vacant slots with pending initializers in one batch: it computes
every (slot, track id, initializer) triple up front (`InitBuffer.popPairs`), truncates both
stacks and advances the id counter, and then one sweep applies a slot-indexed table of the
triples. Read sequentially, the same initialization is a loop that pops the top vacancy and
the top initializer and starts the next track id in that slot, for as long as both stacks
last (`sequentialInit`).

For a vacancy stack without repeats the two agree:

* `InitBuffer.popPairs_cons`: popping `n + 1` pairs is popping the top pair and then `n` more
  from what is left, so the loop starts the pairs' tracks one after the other
  (`sequentialInit_eq`).
* `startPairs_getElem?`, `assignmentOf_getD`: when no slot is named twice, starting the pairs
  one after the other and applying the table both give each slot the track of the one pair
  that names it.
* `initializeTracks_host_eq`: on the host the batch leaves the loop's state, also when a slot
  fails its checks; `initializeTracks_isOk_iff`: on either space it fails exactly when a popped
  initializer that lands in a slot cannot start a track (`Initializer.Startable`).
* `batch_pairing_refines_sequential_loop`: the whole statement.

A vacancy that names no slot of the state pairs with an initializer that is never placed nor
checked; the vacancy stacks the host builds never hold one.
-/
namespace Transport

/-! ## Starting a track -/

/-- Whether a track can start from an initializer: its energy is finite and not negative, its
direction is a unit vector, and its position is finite and inside the geometry. -/
def Initializer.Startable (g : Geometry) (x : Initializer) : Prop :=
  x.energy.isFinite = true ∧ x.energy ≥ 0.0 ∧ x.direction.isUnit = true ∧
    x.position.isFinite = true ∧ (g.locate x.position).isSome = true

theorem initialCheck_isOk_iff (g : Geometry) (x : Initializer) :
    (initialCheck g x).isOk = true ↔ x.Startable g := by
  unfold initialCheck Initializer.Startable
  split
  · rename_i h
    simp only [Bool.not_eq_true', Bool.and_eq_false_iff] at h
    simp only [Except.isOk, Except.toBool, Bool.false_eq_true, false_iff]
    rintro ⟨hfin, hge, -⟩
    rcases h with h | h
    · simp [hfin] at h
    · simp [decide_eq_true hge] at h
  · rename_i henergy
    simp only [Bool.not_eq_true', Bool.not_eq_false, Bool.and_eq_true, decide_eq_true_eq] at henergy
    split
    · rename_i hdir
      simp only [Bool.not_eq_true'] at hdir
      simp [Except.isOk, Except.toBool, hdir]
    · rename_i hdir
      simp only [Bool.not_eq_true', Bool.not_eq_false] at hdir
      split
      · rename_i hpos
        simp only [Bool.not_eq_true'] at hpos
        simp [Except.isOk, Except.toBool, hpos]
      · rename_i hpos
        simp only [Bool.not_eq_true', Bool.not_eq_false] at hpos
        split <;> rename_i hloc <;> simp [Except.isOk, Except.toBool, hloc, henergy, hdir, hpos]

/-- A slot given track `track` from `x`: filled from the initializer, with the stream of the
run's seed and the track id, and placed in the volume the geometry locates when the
initializer can start a track. -/
def Slot.start (g : Geometry) (seed : UInt64) (track : Nat) (x : Initializer) (s : Slot) : Slot :=
  { s.fill track x ((Random.Stream.ofSeed seed).withStream track.toUInt64) with
    volume := (initialCheck g x).toOption }

section Kernel

variable (g : Geometry) (seed : UInt64) (asg : Array (Option (Nat × Initializer))) (i : Nat)
  (s : Slot) (a : Arena Secondary)

theorem initKernel_slot :
    (initKernel g (Random.Stream.ofSeed seed) asg i s a).1 =
      (asg.getD i none).elim s fun q => Slot.start g seed q.1 q.2 s := by
  unfold initKernel
  split
  · rename_i h
    simp [h]
  · rename_i track x h
    simp only [h, Option.elim_some]
    split
    · rename_i v hc
      simp [Slot.start, hc, Except.toOption]
    · rename_i e hc
      simp [Slot.start, hc, Except.toOption]
      rfl

theorem initKernel_ok_iff :
    (initKernel g (Random.Stream.ofSeed seed) asg i s a).2.2 = none ↔
      ∀ q, asg.getD i none = some q → (initialCheck g q.2).isOk = true := by
  unfold initKernel
  split
  · rename_i h
    simp [h]
  · rename_i track x h
    simp only [h, Option.some.injEq, forall_eq']
    split <;> rename_i hc <;> simp [hc, Except.isOk, Except.toBool]

end Kernel

/-! ## Popping pairs one at a time -/

/-- The buffer with its top vacancy and top initializer popped and the next id taken. -/
def InitBuffer.popTop (b : InitBuffer) : InitBuffer :=
  { b with vacancies := b.vacancies.pop, initializers := b.initializers.pop,
           nextTrack := b.nextTrack + 1 }

/-- Popping pairs from stacks that both hold something pops their tops first, with the next
id, and then pops pairs from what is left. -/
theorem InitBuffer.popPairs_cons (b : InitBuffer) {v : Nat} {x : Initializer}
    (hv : b.vacancies.back? = some v) (hx : b.initializers.back? = some x) :
    b.popPairs = ((v, b.nextTrack, x) :: b.popTop.popPairs.1, b.popTop.popPairs.2) := by
  have hvs : 0 < b.vacancies.size := by
    rcases h : b.vacancies.size with _ | n
    · simp [Array.back?_eq_getElem?, h] at hv
    · omega
  have hxs : 0 < b.initializers.size := by
    rcases h : b.initializers.size with _ | n
    · simp [Array.back?_eq_getElem?, h] at hx
    · omega
  rw [Array.back?_eq_getElem?] at hv hx
  have hmin : min b.vacancies.size b.initializers.size =
      min (b.vacancies.size - 1) (b.initializers.size - 1) + 1 := by omega
  simp only [InitBuffer.popPairs, InitBuffer.popTop, Array.size_pop, hmin, List.range_succ_eq_map]
  simp only [List.map_cons, List.map_map, Prod.mk.injEq, List.cons.injEq]
  refine ⟨⟨⟨?_, rfl, ?_⟩, ?_⟩, ?_⟩
  · simp [Array.getD_eq_getD_getElem?, hv]
  · simp [Array.getD_eq_getD_getElem?, hx]
  · apply List.map_congr_left
    intro i hi
    simp only [List.mem_range] at hi
    simp only [Function.comp_apply, Array.getD_eq_getD_getElem?, Array.getElem?_pop,
      Prod.mk.injEq]
    refine ⟨?_, by omega, ?_⟩
    · rw [if_pos (by omega)]; congr 2; omega
    · rw [if_pos (by omega)]; congr 2; omega
  · -- what is left of each stack is what is left of it after its top is popped
    have hpop : ∀ {α : Type} (xs : Array α) (k : Nat), k < xs.size →
        xs.pop.extract 0 k = xs.extract 0 k := fun xs k hk => by
      rw [← Array.extract_eq_pop rfl, Array.extract_extract, Nat.zero_add, Nat.zero_add,
        Nat.min_eq_left (by omega)]
    rw [hpop _ _ (by omega), hpop _ _ (by omega)]
    simp only [InitBuffer.mk.injEq, true_and]
    refine ⟨?_, ?_, by omega⟩
    · congr 1; omega
    · congr 1; omega

theorem InitBuffer.popPairs_of_empty (b : InitBuffer)
    (h : b.vacancies.size = 0 ∨ b.initializers.size = 0) : b.popPairs = ([], b) := by
  have hmin : min b.vacancies.size b.initializers.size = 0 := by omega
  simp [InitBuffer.popPairs, hmin]

theorem InitBuffer.popPairs_zip (b : InitBuffer) :
    b.popPairs.1.map (fun p => (p.1, p.2.2)) =
      b.vacancies.toList.reverse.zip b.initializers.toList.reverse := by
  have hv : (b.vacancies.toList.drop (b.vacancies.size - min b.vacancies.size
      b.initializers.size)).reverse = b.vacancies.toList.reverse.take
        (min b.vacancies.size b.initializers.size) := by
    rw [List.take_reverse, Array.length_toList]
  have hi : (b.initializers.toList.drop (b.initializers.size - min b.vacancies.size
      b.initializers.size)).reverse = b.initializers.toList.reverse.take
        (min b.vacancies.size b.initializers.size) := by
    rw [List.take_reverse, Array.length_toList]
  rw [List.zip_eq_zip_take_min]
  simp only [List.length_reverse, Array.length_toList]
  apply List.zip_of_prod
  · rw [List.map_map]
    exact (b.popPairs_threads).trans hv
  · rw [List.map_map]
    exact (b.popPairs_initializers).trans hi

theorem InitBuffer.popPairs_threads_nodup (b : InitBuffer) (hnd : b.vacancies.toList.Nodup) :
    (b.popPairs.1.map (·.1)).Nodup := by
  rw [InitBuffer.popPairs_threads, List.nodup_reverse]
  exact hnd.sublist (List.drop_sublist _ _)

/-! ## The sequential loop -/

/-- The sequential reading of an initialization: while both stacks are non-empty, pop the top
vacancy and the top initializer and start the next track id in that slot. It returns the state
and the number of tracks started. -/
def sequentialInit (g : Geometry) (seed : UInt64) (st : CoreState) : CoreState × Nat :=
  match hv : st.init.vacancies.back?, st.init.initializers.back? with
  | some v, some x =>
    let rest := sequentialInit g seed
      { st with slots := st.slots.modify v (Slot.start g seed st.init.nextTrack x),
                init := st.init.popTop }
    (rest.1, rest.2 + 1)
  | _, _ => (st, 0)
termination_by st.init.vacancies.size
decreasing_by
  have : 0 < st.init.vacancies.size := by
    rcases h : st.init.vacancies.size with _ | n
    · simp [Array.back?_eq_getElem?, h] at hv
    · omega
  simp only [InitBuffer.popTop, Array.size_pop]
  omega

/-- Starts the track of each pair in the slot it names, one pair after the other. -/
def startPairs (g : Geometry) (seed : UInt64) (pairs : List (Nat × Nat × Initializer))
    (slots : Array Slot) : Array Slot :=
  pairs.foldl (fun slots p => slots.modify p.1 (Slot.start g seed p.2.1 p.2.2)) slots

/-- The loop starts the pairs' tracks one after the other and leaves the buffer popped. -/
theorem sequentialInit_eq (g : Geometry) (seed : UInt64) (st : CoreState) :
    sequentialInit g seed st =
      ({ st with slots := startPairs g seed st.init.popPairs.1 st.slots,
                 init := st.init.popPairs.2 }, st.init.popPairs.1.length) := by
  fun_induction sequentialInit g seed st with
  | case1 st v x hv hx rest ih =>
    simp only [rest, ih, st.init.popPairs_cons hv hx]
    simp [startPairs]
  | case2 st hempty =>
    have hnil : st.init.popPairs = ([], st.init) := by
      apply InitBuffer.popPairs_of_empty
      rcases hv : st.init.vacancies.back? with _ | v
      · exact .inl (by simp_all)
      · rcases hx : st.init.initializers.back? with _ | x
        · exact .inr (by simp_all)
        · exact (hempty v x hv hx).elim
    simp [hnil, startPairs]

/-! ## Pairs that name distinct slots -/

section Distinct

variable {pairs : List (Nat × Nat × Initializer)}

theorem lookup_of_mem (hnd : (pairs.map (·.1)).Nodup) {p : Nat × Nat × Initializer}
    (hp : p ∈ pairs) : pairs.lookup p.1 = some p.2 := by
  induction pairs with
  | nil => simp at hp
  | cons q rest ih =>
    rw [List.map_cons, List.nodup_cons] at hnd
    obtain ⟨k, b⟩ := q
    rcases List.mem_cons.1 hp with rfl | hp
    · simp
    · have hne : (p.1 == k) = false :=
        beq_eq_false_iff_ne.2 fun h => hnd.1 (List.mem_map.2 ⟨p, hp, h⟩)
      simp only [List.lookup_cons, hne]
      exact ih hnd.2 hp

/-- Starting the pairs one after the other gives each slot the track of the pair that names
it, as long as no slot is named twice. -/
theorem startPairs_getElem? (g : Geometry) (seed : UInt64) (hnd : (pairs.map (·.1)).Nodup)
    (slots : Array Slot) (j : Nat) :
    (startPairs g seed pairs slots)[j]? =
      slots[j]?.map fun s => (pairs.lookup j).elim s fun q => Slot.start g seed q.1 q.2 s := by
  induction pairs generalizing slots with
  | nil => simp [startPairs]
  | cons p rest ih =>
    rw [List.map_cons, List.nodup_cons] at hnd
    simp only [startPairs, List.foldl_cons] at ih ⊢
    rw [ih hnd.2, Array.getElem?_modify, List.lookup_cons]
    by_cases hj : p.1 = j
    · -- the slot of the first pair: no later pair names it
      subst hj
      have hrest : rest.lookup p.1 = none := by
        simp only [List.lookup_eq_none_iff, bne_iff_ne, ne_eq]
        exact fun q hq h => hnd.1 (h ▸ List.mem_map_of_mem hq)
      simp [hrest]
      rfl
    · have hne : (j == p.1) = false := by simpa using Ne.symm hj
      rw [if_neg hj]
      simp only [hne]

/-- With no slot named twice, the assignment table gives each slot of the state the pair that
names it. -/
theorem assignmentOf_getD (hnd : (pairs.map (·.1)).Nodup) (n j : Nat) :
    (assignmentOf n pairs).getD j none = if j < n then pairs.lookup j else none := by
  have hsome := assignmentOf_isSome n pairs j
  rcases ha : (assignmentOf n pairs).getD j none with _ | q
  · -- no assignment: the slot is outside the state or no pair names it
    split
    · rename_i hj
      rw [eq_comm, List.lookup_eq_none_iff]
      intro q hq
      rw [bne_iff_ne]
      intro hjq
      have hany : pairs.any (·.1 == j) = true :=
        List.any_eq_true.2 ⟨q, hq, by simp [hjq]⟩
      rw [ha, Option.isSome_none, decide_eq_true hj, Bool.true_and, hany] at hsome
      cases hsome
    · rfl
  · have hmem := assignmentOf_mem ha
    have hj : j < n := by
      rw [ha, Option.isSome_some] at hsome
      have h := hsome.symm
      simp only [Bool.and_eq_true, decide_eq_true_eq] at h
      exact h.1
    rw [if_pos hj, lookup_of_mem hnd hmem]

end Distinct

/-! ## Sweeps that fail -/

section Sweeps

variable (label : String) (kernel : Kernel) (dispatch : Dispatch) (st : CoreState)

theorem sweep_host_ok_iff :
    (sweep label .host dispatch kernel st).2 = none ↔
      ∀ i < st.slots.size, (hostVisit label kernel st i).2.2 = none := by
  rw [sweep_host_eq]
  simp only [Option.map_eq_none_iff]
  rw [show KernelError.ofFailures ((List.range st.slots.size).filterMap
      (hostFailure label kernel st)) = none ↔
        (List.range st.slots.size).filterMap (hostFailure label kernel st) = [] by
      cases (List.range st.slots.size).filterMap (hostFailure label kernel st) <;>
        simp [KernelError.ofFailures], List.filterMap_eq_nil_iff]
  simp [hostFailure]

theorem sweep_device_ok_iff :
    (sweep label .device dispatch kernel st).2 = none ↔
      (sweep label .host dispatch kernel st).2 = none := by
  obtain ⟨herr, -, -⟩ := deviceRange_spec label kernel st st.slots.size 0 st.slots.size false 1
    (dispatch == .fromOutside) (Nat.zero_le _)
  have h0 : hostPrefix label kernel st 0 = (st.slots, st.secondaries, []) := rfl
  rw [h0] at herr
  simp only [Nat.sub_zero, ← List.range_eq_range'] at herr
  rw [sweep_host_ok_iff]
  simp only [sweep, Option.map_eq_none_iff, herr, List.findSome?_eq_none_iff, List.mem_range]
  simp [hostFailure]

end Sweeps

theorem CoreState.eq_of_parts {a b : CoreState} (hs : a.slots = b.slots)
    (ha : a.secondaries = b.secondaries) (hi : a.init = b.init) : a = b := by
  cases a
  cases b
  simp_all

/-! ## The batch against the loop -/

section Batch

variable (g : Geometry) (seed : UInt64) (dispatch : Dispatch) {st : CoreState}

/-- On the host the batch leaves the state the loop leaves, whether a slot fails its checks
or not: the sweep starts every paired track, each in its own slot. -/
theorem initializeTracks_host_eq (hnd : st.init.vacancies.toList.Nodup) :
    (initializeTracks g seed .host dispatch st).1 = (sequentialInit g seed st).1 := by
  have hpairs := st.init.popPairs_threads_nodup hnd
  rw [sequentialInit_eq, initializeTracks_fst]
  split
  · rename_i hempty
    simp [List.isEmpty_iff.1 hempty, startPairs]
  · set kernel := initKernel g (Random.Stream.ofSeed seed)
      (assignmentOf st.slots.size st.init.popPairs.1)
    dsimp only
    refine CoreState.eq_of_parts ?_ (sweep_secondaries _ kernel _ _ _ (initKernel_arena g _ _))
      (sweep_init _ kernel _ _ _)
    apply Array.ext_getElem?
    intro j
    have hf := sweep_host_field "initialize-tracks" kernel dispatch
      { st with init := st.init.popPairs.2 } id
      (fun j s => ((assignmentOf st.slots.size st.init.popPairs.1).getD j none).elim s
        fun q => Slot.start g seed q.1 q.2 s) (initKernel_slot g seed _) j
    simp only [Option.map_id, id_eq, Function.comp_id] at hf
    show _ = (startPairs g seed st.init.popPairs.1 st.slots)[j]?
    rw [hf, startPairs_getElem? g seed hpairs, assignmentOf_getD hpairs]
    rcases hs : st.slots[j]? with _ | s
    · rfl
    · have hj : j < st.slots.size := (Array.getElem?_eq_some_iff.1 hs).1
      simp [hj]

variable (space : Space)

/-- With no vacancy stacked twice, the initialization succeeds exactly when every popped
initializer that lands in a slot can start a track. -/
theorem initializeTracks_isOk_iff (hnd : st.init.vacancies.toList.Nodup) :
    (initializeTracks g seed space dispatch st).2.isOk = true ↔
      ∀ p ∈ st.init.popPairs.1, p.1 < st.slots.size → p.2.2.Startable g := by
  have hpairs := st.init.popPairs_threads_nodup hnd
  rw [initializeTracks_snd]
  split
  · rename_i hempty
    simp [List.isEmpty_iff.1 hempty, Except.isOk, Except.toBool]
  · set kernel := initKernel g (Random.Stream.ofSeed seed)
      (assignmentOf st.slots.size st.init.popPairs.1)
    set st' : CoreState := { st with init := st.init.popPairs.2 }
    have hspace : (sweep "initialize-tracks" space dispatch kernel st').2 = none ↔
        (sweep "initialize-tracks" .host dispatch kernel st').2 = none := by
      cases space
      · rfl
      · exact sweep_device_ok_iff _ _ _ _
    have hvisits : (sweep "initialize-tracks" space dispatch kernel st').2 = none ↔
        ∀ p ∈ st.init.popPairs.1, p.1 < st.slots.size → p.2.2.Startable g := by
      rw [hspace, sweep_host_ok_iff]
      simp only [hostVisit, kernel, initKernel_ok_iff, assignmentOf_getD hpairs,
        initialCheck_isOk_iff]
      constructor
      · intro h p hp hlt
        exact h p.1 hlt p.2 (by rw [if_pos hlt, lookup_of_mem hpairs hp])
      · intro h i hi q hq
        rw [if_pos hi, List.lookup_eq_some_iff] at hq
        obtain ⟨l₁, l₂, hl, -⟩ := hq
        exact h (i, q) (by rw [hl]; simp) hi
    split
    · rename_i e he
      rw [he] at hvisits
      simp only [Except.isOk, Except.toBool, Bool.false_eq_true, false_iff]
      exact fun h => absurd (hvisits.2 h) (by simp)
    · rename_i he
      rw [he] at hvisits
      simp only [Except.isOk, Except.toBool, true_iff]
      exact hvisits.1 rfl

end Batch

/-- Batch pairing refines the sequential pop loop. For a state whose vacancy stack has no
repeats, the loop that pops the top vacancy and the top initializer while both last, and
starts the next track id there, starts as many tracks as the smaller stack holds. The
initialization fails exactly when one of the popped initializers that lands in a slot has an
energy that is not finite or is negative, a direction that is not a unit vector, or a
position that is not finite or that the geometry does not locate. When it succeeds, on
either space, it starts that many tracks and leaves the state the loop leaves; on the host
it leaves the loop's state even when it fails. -/
theorem batch_pairing_refines_sequential_loop (g : Geometry) (seed : UInt64) (space : Space)
    (dispatch : Dispatch) (st : CoreState) (hnd : st.init.vacancies.toList.Nodup) :
    let loop := sequentialInit g seed st
    let batch := initializeTracks g seed space dispatch st
    loop.2 = min st.init.vacancies.size st.init.initializers.size ∧
    (batch.2.isOk = true ↔
      ∀ p ∈ st.init.vacancies.toList.reverse.zip st.init.initializers.toList.reverse,
        p.1 < st.slots.size → p.2.Startable g) ∧
    (∀ n, batch.2 = .ok n → n = loop.2 ∧ batch.1 = loop.1) ∧
    (initializeTracks g seed .host dispatch st).1 = loop.1 := by
  intro loop batch
  have hcount : loop.2 = min st.init.vacancies.size st.init.initializers.size := by
    simp [loop, sequentialInit_eq]
  refine ⟨hcount, ?_, fun n hn => ?_, initializeTracks_host_eq g seed dispatch hnd⟩
  · rw [initializeTracks_isOk_iff g seed dispatch space hnd, ← st.init.popPairs_zip,
      List.forall_mem_map]
  · refine ⟨(initializeTracks_ok_count hn).trans hcount.symm, ?_⟩
    rw [initializeTracks_ok_host hn]
    exact initializeTracks_host_eq g seed dispatch hnd

/-- Two vacant slots and one pending initializer: the batch and the loop agree on either
space. -/
theorem batch_pairing_refines_sequential_loop_on_two_slots :
    let st : CoreState := ⟨#[Slot.vacant, Slot.vacant], Arena.new 2,
      { InitBuffer.new 2 2 with initializers := #[default] }⟩
    st.init.vacancies.toList.Nodup ∧
    let loop := sequentialInit default 0 st
    let batch := initializeTracks default 0 .device .onWorker st
    loop.2 = min st.init.vacancies.size st.init.initializers.size ∧
    (batch.2.isOk = true ↔
      ∀ p ∈ st.init.vacancies.toList.reverse.zip st.init.initializers.toList.reverse,
        p.1 < st.slots.size → p.2.Startable default) ∧
    (∀ n, batch.2 = .ok n → n = loop.2 ∧ batch.1 = loop.1) ∧
    (initializeTracks default 0 .host .onWorker st).1 = loop.1 :=
  ⟨by decide, batch_pairing_refines_sequential_loop default 0 .device .onWorker _ (by decide)⟩

end Transport
