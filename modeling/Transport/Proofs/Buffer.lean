import Transport.Proofs.Secondaries
/-!
# The initializer buffer: its bound and its all-or-nothing pushes

The pending initializers form a stack of fixed capacity. Two operations push onto it and one
pops from it:

* queuing primaries pushes them reversed, so that the first primary is on top;
* the harvest pushes this step's secondaries at or above their production cutoff, slot by
  slot and, within a slot, in arena order, each at the emitting slot's position, time and
  event and with the slot's track as parent;
* the initialization pops from the top as many as it can pair with vacant slots.

Both pushes compare the capacity with everything they would push before they push anything,
so a refused push changes nothing and names the count it would have reached
(`InitBuffer.extendFromPrimaries_spec`, `extendFromSecondaries_spec`).

* `BufferOp`: the three operations, each taken whether it succeeds or fails;
  `BufferOp.bounded` is what one of them keeps and `BufferOp.run_bounded` carries it along
  any sequence.
* `initializer_buffer_all_or_nothing`: the bound along every sequence, and both pushes
  refused exactly on overflow, with the state kept, and otherwise pushing exactly their
  records on top.
-/
namespace Transport

/-! ## The two pushes -/

/-- Queuing primaries refuses them all when they would overflow the buffer, naming the count
they would have reached; otherwise it pushes them reversed on top of the stack and changes
nothing else. -/
theorem InitBuffer.extendFromPrimaries_spec (b : InitBuffer) (ps : List Primary) :
    (b.capacity < b.initializers.size + ps.length ∧
      b.extendFromPrimaries ps =
        .error (.capacityExceeded (b.initializers.size + ps.length) b.capacity)) ∨
    (b.initializers.size + ps.length ≤ b.capacity ∧
      b.extendFromPrimaries ps = .ok { b with initializers :=
        b.initializers ++ (ps.reverse.map Primary.toInitializer).toArray }) := by
  unfold InitBuffer.extendFromPrimaries
  by_cases h : b.initializers.size + ps.length > b.capacity
  · exact .inl ⟨h, if_pos h⟩
  · exact .inr ⟨Nat.le_of_not_gt h, if_neg h⟩

theorem InitBuffer.extendFromPrimaries_pop_order {b b' : InitBuffer} {ps : List Primary}
    (h : b.extendFromPrimaries ps = .ok b') :
    b'.initializers.toList.reverse =
      ps.map Primary.toInitializer ++ b.initializers.toList.reverse := by
  rcases b.extendFromPrimaries_spec ps with ⟨-, herr⟩ | ⟨-, hok⟩
  · rw [herr] at h
    cases h
  · rw [hok] at h
    cases h
    simp [List.map_reverse]

theorem CoreState.harvest_eq (st : CoreState) (cutoffs : CutoffTable) :
    st.harvest cutoffs =
      st.slots.toList.flatMap fun s => (s.survivors cutoffs st.secondaries).map s.spawn := by
  simp only [CoreState.harvest, Slot.promoted_eq]

/-- The harvest refuses the step's surviving secondaries when they would overflow the buffer,
naming the count they would have reached; otherwise it pushes them on top of the stack and
changes nothing else. -/
theorem extendFromSecondaries_spec (cutoffs : CutoffTable) (st : CoreState) :
    (st.init.capacity < st.numInitializers + (st.harvest cutoffs).length ∧
      extendFromSecondaries cutoffs st = .error (.capacityExceeded
        (st.numInitializers + (st.harvest cutoffs).length) st.init.capacity)) ∨
    (st.numInitializers + (st.harvest cutoffs).length ≤ st.init.capacity ∧
      extendFromSecondaries cutoffs st = .ok ((st.harvest cutoffs).length,
        { st with init := { st.init with
          initializers := st.init.initializers ++ (st.harvest cutoffs).toArray } })) := by
  unfold extendFromSecondaries
  by_cases h : st.numInitializers + (st.harvest cutoffs).length > st.init.capacity
  · exact .inl ⟨h, if_pos h⟩
  · exact .inr ⟨Nat.le_of_not_gt h, if_neg h⟩

/-! ## Every sequence of operations on the buffer -/

/-- The operations that change the pending initializers: queuing primaries, starting tracks
(in either space), and queuing the step's surviving secondaries. -/
inductive BufferOp where
  | loadPrimaries (ps : List Primary)
  | initializeTracks (g : Geometry) (seed : UInt64) (space : Space) (dispatch : Dispatch)
  | harvest (cutoffs : CutoffTable)

/-- The state after an operation, whether it succeeded or failed: a refused push keeps the
state, and a failed initialization keeps what its sweep did. -/
def BufferOp.apply : BufferOp → CoreState → CoreState
  | .loadPrimaries ps, st =>
    match st.init.extendFromPrimaries ps with
    | .ok init => { st with init }
    | .error _ => st
  | .initializeTracks g seed space dispatch, st =>
    (Transport.initializeTracks g seed space dispatch st).1
  | .harvest cutoffs, st =>
    match extendFromSecondaries cutoffs st with
    | .ok (_, st') => st'
    | .error _ => st

/-- The state after a sequence of operations. -/
def BufferOp.run (ops : List BufferOp) (st : CoreState) : CoreState :=
  ops.foldl (fun st op => op.apply st) st

theorem BufferOp.apply_loadPrimaries_error {st : CoreState} {ps : List Primary} {e : InitError}
    (h : st.init.extendFromPrimaries ps = .error e) : (BufferOp.loadPrimaries ps).apply st = st := by
  simp only [BufferOp.apply, h]

theorem BufferOp.apply_harvest_error {st : CoreState} {cutoffs : CutoffTable} {e : InitError}
    (h : extendFromSecondaries cutoffs st = .error e) : (BufferOp.harvest cutoffs).apply st = st := by
  simp only [BufferOp.apply, h]

/-- Each operation keeps the capacity and, from a state within it, stays within it: a push
checks the whole of what it pushes, and the initialization only pops. -/
theorem BufferOp.bounded (op : BufferOp) {st : CoreState}
    (h : st.numInitializers ≤ st.init.capacity) :
    (op.apply st).init.capacity = st.init.capacity ∧
      (op.apply st).numInitializers ≤ st.init.capacity := by
  cases op with
  | loadPrimaries ps =>
    rcases st.init.extendFromPrimaries_spec ps with ⟨-, herr⟩ | ⟨hle, hok⟩
    · rw [apply_loadPrimaries_error herr]
      exact ⟨rfl, h⟩
    · simp only [BufferOp.apply, hok, true_and]
      simpa [CoreState.numInitializers] using hle
  | initializeTracks g seed space dispatch =>
    simp only [BufferOp.apply, CoreState.numInitializers, initializeTracks_init,
      InitBuffer.popPairs_initializers_size]
    exact ⟨rfl, Nat.le_trans (Nat.sub_le _ _) h⟩
  | harvest cutoffs =>
    rcases extendFromSecondaries_spec cutoffs st with ⟨-, herr⟩ | ⟨hle, hok⟩
    · rw [apply_harvest_error herr]
      exact ⟨rfl, h⟩
    · simp only [BufferOp.apply, hok, true_and]
      simpa [CoreState.numInitializers] using hle

/-- Along any sequence of operations from a state within its capacity, the capacity stays
and the pending initializers stay within it. -/
theorem BufferOp.run_bounded (ops : List BufferOp) {st : CoreState}
    (h : st.numInitializers ≤ st.init.capacity) :
    (BufferOp.run ops st).init.capacity = st.init.capacity ∧
      (BufferOp.run ops st).numInitializers ≤ st.init.capacity := by
  induction ops generalizing st with
  | nil => exact ⟨rfl, h⟩
  | cons op ops ih =>
    obtain ⟨hcap, hle⟩ := op.bounded h
    obtain ⟨hcap', hle'⟩ := @ih (op.apply st) (hcap ▸ hle)
    exact ⟨hcap'.trans hcap, hcap ▸ hle'⟩

/-- The initializer buffer never holds more than its capacity, and both pushes are all or
nothing. Along every sequence of primaries queued, initializations and harvests, from a state
within its capacity `C`, the pending initializers stay within `C`. Queuing primaries is
refused exactly when the pending ones and the new ones exceed `C`, with their total and `C`
in the error and the state unchanged; otherwise the primaries go on top, reversed so that the
first is on top, and nothing else changes. The harvest is refused exactly when the pending
initializers and the step's secondaries at or above their production cutoff exceed `C`, in
the same way; otherwise exactly those secondaries go on top, in slot order and then arena
order, each at its slot's position, time and event with the slot's track as parent. -/
theorem initializer_buffer_all_or_nothing (st : CoreState) (ps : List Primary)
    (cutoffs : CutoffTable) :
    let C := st.init.capacity
    let n := st.numInitializers
    let promoted :=
      st.slots.toList.flatMap fun s => (s.survivors cutoffs st.secondaries).map s.spawn
    (n ≤ C → ∀ ops : List BufferOp,
      (BufferOp.run ops st).init.capacity = C ∧ (BufferOp.run ops st).numInitializers ≤ C) ∧
    ((C < n + ps.length ∧
        st.init.extendFromPrimaries ps = .error (.capacityExceeded (n + ps.length) C) ∧
        (BufferOp.loadPrimaries ps).apply st = st) ∨
      (n + ps.length ≤ C ∧
        st.init.extendFromPrimaries ps = .ok { st.init with initializers :=
          st.init.initializers ++ (ps.reverse.map Primary.toInitializer).toArray })) ∧
    ((C < n + promoted.length ∧
        extendFromSecondaries cutoffs st = .error (.capacityExceeded (n + promoted.length) C) ∧
        (BufferOp.harvest cutoffs).apply st = st) ∨
      (n + promoted.length ≤ C ∧
        extendFromSecondaries cutoffs st = .ok (promoted.length,
          { st with init := { st.init with
            initializers := st.init.initializers ++ promoted.toArray } }))) := by
  intro C n promoted
  have hpromoted : promoted = st.harvest cutoffs := (CoreState.harvest_eq st cutoffs).symm
  refine ⟨fun h ops => BufferOp.run_bounded ops h, ?_, ?_⟩
  · rcases st.init.extendFromPrimaries_spec ps with ⟨hlt, herr⟩ | ⟨hle, hok⟩
    · exact .inl ⟨hlt, herr, BufferOp.apply_loadPrimaries_error herr⟩
    · exact .inr ⟨hle, hok⟩
  · rw [hpromoted]
    rcases extendFromSecondaries_spec cutoffs st with ⟨hlt, herr⟩ | ⟨hle, hok⟩
    · exact .inl ⟨hlt, herr, BufferOp.apply_harvest_error herr⟩
    · exact .inr ⟨hle, hok⟩

/-- From a freshly built state of one slot and a buffer of two, every sequence of operations
keeps at most two initializers pending, and three primaries are refused. -/
theorem initializer_buffer_all_or_nothing_of_new :
    ∃ st0, CoreState.new 1 2 2 = some st0 ∧ st0.numInitializers ≤ st0.init.capacity ∧
      (∀ ops : List BufferOp, (BufferOp.run ops st0).numInitializers ≤ 2) ∧
      st0.init.extendFromPrimaries [default, default, default] =
        .error (.capacityExceeded 3 2) :=
  ⟨_, rfl, by decide,
    fun ops => ((initializer_buffer_all_or_nothing _ [] default).1 (by decide) ops).2, rfl⟩

end Transport
