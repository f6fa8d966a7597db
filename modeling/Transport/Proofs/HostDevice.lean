import Transport.Proofs.Sweep
import Transport.Proofs.Secondaries
/-!
# Host and device sweeps agree

A host sweep visits every slot and collects the failures; a device sweep stops the run of
slots a failing slot belongs to. Both visit slot `i` with the slot as it was before the
sweep and the arena as the lower slots left it, as long as no lower slot failed: a slot's
visit depends on nothing else. So up to the first failing slot the device does exactly
what the host does, and the two report the same failure.

* `hostPrefix`, `hostVisit`, `hostFailure`: the host sweep slot by slot, each visit seeing
  the arena the earlier visits left (`sweep_host_eq`).
* `deviceRange_spec`: a device range started where the host stands reports the first
  failure of the host's visits in the range; without one it ends where the host does, and
  with one it agrees with the host on every slot up to the failing one, and keeps the
  arena's cells that the host had filled by then.
* `host_and_device_sweeps_agree`: for every kernel the engine sweeps, the host sweep gives
  each slot its kernel's result and reports the lowest failing slot and how many others
  failed; the device aborts exactly when the host fails, with the same failure, and agrees
  with the host on the slots up to the failing one and on the arena cells they reserved;
  without a failure both leave the same state.

The kernels the engine sweeps touch the arena only past its cursor (`Kernel.Reserves`):
they reserve cells and write into them, and never change a cell below the cursor they were
given. That is what keeps the reservations of the slots up to a failure intact while the
rest of the sweep goes on differently on the two sides.
-/
namespace Transport

/-! ## Arenas kept below the cursor -/

namespace Arena

variable {α : Type}

/-- `b` keeps what `a` holds below its cursor: the cursor has only moved on, within a 64-bit
index, and every cell below the old cursor holds what it held. -/
structure Keeps (a b : Arena α) : Prop where
  cursor_le : a.cursor ≤ b.cursor
  cursor_le_max : b.cursor ≤ cursorMax
  cell_eq : ∀ j < a.cursor, b.cell j = a.cell j

theorem Keeps.refl {a : Arena α} (h : a.cursor ≤ cursorMax) : Keeps a a :=
  ⟨Nat.le_refl _, h, fun _ _ => rfl⟩

theorem Keeps.trans {a b c : Arena α} (h₁ : Keeps a b) (h₂ : Keeps b c) : Keeps a c :=
  ⟨Nat.le_trans h₁.cursor_le h₂.cursor_le, h₂.cursor_le_max, fun j hj =>
    (h₂.cell_eq j (Nat.lt_of_lt_of_le hj h₁.cursor_le)).trans (h₁.cell_eq j hj)⟩

end Arena

/-! ## The kernels the engine sweeps -/

/-- A kernel that touches the arena only past its cursor: the arena it returns keeps the one
it was given. -/
def Kernel.Reserves (kernel : Kernel) : Prop :=
  ∀ i s (a : Arena Secondary), a.cursor ≤ cursorMax → a.Keeps (kernel i s a).2.1

section Host

variable (label : String) (kernel : Kernel) (st : CoreState)

/-- The slots, the arena and the failures, last first, after a host sweep has visited slots
`0, …, k - 1`. -/
def hostPrefix (k : Nat) : Array Slot × Arena Secondary × List TrackFailure :=
  (List.range k).foldl (hostStep label kernel) (st.slots, st.secondaries, [])

/-- The kernel's run on slot `i` of a host sweep: it sees the slot as it was before the
sweep, and the arena as the lower slots left it. -/
def hostVisit (i : Nat) : Slot × Arena Secondary × Option TrackError :=
  kernel i (st.slots.getD i default) (hostPrefix label kernel st i).2.1

/-- The failure of slot `i` in a host sweep, with the slot as its kernel left it. -/
def hostFailure (i : Nat) : Option TrackFailure :=
  (hostVisit label kernel st i).2.2.map
    (TrackFailure.ofSlot label i (hostVisit label kernel st i).1)

theorem hostPrefix_succ (k : Nat) :
    hostPrefix label kernel st (k + 1) = hostStep label kernel (hostPrefix label kernel st k) k := by
  simp only [hostPrefix, List.range_succ, List.foldl_append, List.foldl_cons, List.foldl_nil]

theorem hostPrefix_getD (k : Nat) :
    (hostPrefix label kernel st k).1.getD k default = st.slots.getD k default := by
  simp only [Array.getD_eq_getD_getElem?, hostPrefix,
    hostFold_getElem?_of_le label kernel k _ (Nat.le_refl k)]

theorem hostPrefix_succ_eq (k : Nat) :
    hostPrefix label kernel st (k + 1) =
      ((hostPrefix label kernel st k).1.set! k (hostVisit label kernel st k).1,
        (hostVisit label kernel st k).2.1,
        (hostFailure label kernel st k).toList ++ (hostPrefix label kernel st k).2.2) := by
  have hg := hostPrefix_getD label kernel st k
  rw [hostPrefix_succ]
  unfold hostFailure hostVisit
  generalize hostPrefix label kernel st k = P at hg ⊢
  obtain ⟨slots, arena, fs⟩ := P
  simp only at hg
  simp only [hostStep, hg]
  generalize kernel k (st.slots.getD k default) arena = r
  obtain ⟨s, a, _ | e⟩ := r <;> rfl

theorem hostPrefix_slots (k j : Nat) :
    (hostPrefix label kernel st k).1[j]? =
      if j < k then st.slots[j]?.map fun _ => (hostVisit label kernel st j).1 else st.slots[j]? := by
  induction k with
  | zero => rfl
  | succ k ih =>
    rw [hostPrefix_succ_eq]
    simp only [Array.set!_eq_setIfInBounds, Array.getElem?_setIfInBounds]
    have hsize : (hostPrefix label kernel st k).1.size = st.slots.size :=
      hostFold_size label kernel _ _
    by_cases hjk : k = j
    · subst hjk
      by_cases hs : k < st.slots.size
      · simp [hsize, hs]
      · simp [hsize, hs]
    · rw [if_neg hjk, ih]
      by_cases h1 : j < k
      · rw [if_pos h1, if_pos (by omega)]
      · rw [if_neg h1, if_neg (by omega)]

theorem hostPrefix_failures (k : Nat) :
    (hostPrefix label kernel st k).2.2 =
      ((List.range k).filterMap (hostFailure label kernel st)).reverse := by
  induction k with
  | zero => rfl
  | succ k ih =>
    rw [hostPrefix_succ_eq, ih, List.range_succ, List.filterMap_append, List.reverse_append]
    simp only [List.filterMap_cons, List.filterMap_nil]
    cases hostFailure label kernel st k <;> rfl

theorem hostPrefix_arena_succ (k : Nat) :
    (hostPrefix label kernel st (k + 1)).2.1 = (hostVisit label kernel st k).2.1 := by
  rw [hostPrefix_succ_eq]

/-- A host sweep is its visits: each slot takes its kernel's result, the arena is the last
visit's, and the failures are the visits' in slot order. -/
theorem sweep_host_eq (dispatch : Dispatch) :
    sweep label .host dispatch kernel st =
      ({ st with slots := (hostPrefix label kernel st st.slots.size).1,
                 secondaries := (hostPrefix label kernel st st.slots.size).2.1 },
        (KernelError.ofFailures ((List.range st.slots.size).filterMap
          (hostFailure label kernel st))).map .failed) := by
  rw [← List.reverse_reverse ((List.range st.slots.size).filterMap (hostFailure label kernel st)),
    ← hostPrefix_failures]
  rfl

theorem hostFailure_thread {i : Nat} {f : TrackFailure}
    (h : hostFailure label kernel st i = some f) : f.thread = i := by
  obtain ⟨e, -, rfl⟩ := Option.map_eq_some_iff.1 h
  rfl

theorem sweepInOrder_range (dispatch : Dispatch) :
    sweepInOrder label kernel (List.range st.slots.size) st = sweep label .host dispatch kernel st := by
  have hsorted : ((List.range st.slots.size).filterMap (hostFailure label kernel st)).Pairwise
      fun f g => decide (f.thread ≤ g.thread) = true := by
    refine List.pairwise_lt_range.filterMap _ fun i j hij f hf g hg => ?_
    rw [hostFailure_thread label kernel st hf, hostFailure_thread label kernel st hg]
    exact decide_eq_true (Nat.le_of_lt hij)
  have hin : sweepInOrder label kernel (List.range st.slots.size) st =
      ({ st with slots := (hostPrefix label kernel st st.slots.size).1,
                 secondaries := (hostPrefix label kernel st st.slots.size).2.1 },
        (KernelError.ofFailures ((hostPrefix label kernel st st.slots.size).2.2.reverse.mergeSort
          fun f g => f.thread ≤ g.thread)).map .failed) := rfl
  rw [hin, sweep_host_eq, hostPrefix_failures, List.reverse_reverse,
    List.mergeSort_of_pairwise hsorted]

end Host

theorem launchInOrder_one_thread {p : Setup} (hhost : p.space = .host) {orders : Nat → List Nat} :
    ∀ (id : Nat) (ms : List Model) (st : CoreState),
      (∀ id, Schedule 1 st.slots.size (orders id)) →
      launchInOrder p orders id ms st = launchFrom p id ms st
  | _, [], _, _ => rfl
  | id, m :: ms, st, h => by
    have horder : orders id = List.range st.slots.size := schedule_one_iff.1 (h id)
    simp only [launchInOrder, launchFrom, horder, sweepInOrder_range _ _ _ p.dispatch, hhost]
    rcases hs : sweep m.label .host p.dispatch (modelKernel p id m) st with ⟨st', _ | e⟩
    · -- a sweep keeps the number of slots, so the next model's orders are still one thread's
      have hsize : st'.slots.size = st.slots.size := by
        rw [← sweep_size m.label (modelKernel p id m) .host p.dispatch st, hs]
      exact launchInOrder_one_thread hhost (id + 1) ms st' (hsize ▸ h)
    · rfl

/-! ## The device sweep against the host -/

section Device

variable (label : String) (kernel : Kernel) (st : CoreState)

theorem deviceStep_none (slots : Array Slot) (arena : Arena Secondary) (i : Nat) :
    deviceStep label kernel (slots, arena, none) i =
      (slots.set! i (kernel i (slots.getD i default) arena).1,
        (kernel i (slots.getD i default) arena).2.1,
        (kernel i (slots.getD i default) arena).2.2.map
          (TrackFailure.ofSlot label i (kernel i (slots.getD i default) arena).1)) := by
  simp only [deviceStep]

theorem deviceStep_prefix (k : Nat) :
    deviceStep label kernel
        ((hostPrefix label kernel st k).1, (hostPrefix label kernel st k).2.1, none) k =
      ((hostPrefix label kernel st (k + 1)).1, (hostPrefix label kernel st (k + 1)).2.1,
        hostFailure label kernel st k) := by
  rw [deviceStep_none, hostPrefix_getD, hostPrefix_succ_eq]
  rfl

theorem findSome?_range'_eq_none_iff {β : Type} (g : Nat → Option β) (lo len : Nat) :
    (List.range' lo len).findSome? g = none ↔ ∀ i, lo ≤ i → i < lo + len → g i = none := by
  rw [List.findSome?_eq_none_iff]
  constructor
  · intro h i h1 h2
    exact h i (List.mem_range'_1.2 ⟨h1, h2⟩)
  · intro h i hi
    obtain ⟨h1, h2⟩ := List.mem_range'_1.1 hi
    exact h i h1 h2

theorem deviceFold_spec : ∀ (lo len : Nat),
    let r := (List.range' lo len).foldl (deviceStep label kernel)
      ((hostPrefix label kernel st lo).1, (hostPrefix label kernel st lo).2.1, none)
    r.2.2 = (List.range' lo len).findSome? (hostFailure label kernel st) ∧
    (r.2.2 = none → r.1 = (hostPrefix label kernel st (lo + len)).1 ∧
      r.2.1 = (hostPrefix label kernel st (lo + len)).2.1) ∧
    ∀ f, lo ≤ f → f < lo + len → (hostFailure label kernel st f).isSome →
      (∀ i, lo ≤ i → i < f → hostFailure label kernel st i = none) →
      r.1 = (hostPrefix label kernel st (f + 1)).1 ∧ r.2.1 = (hostPrefix label kernel st (f + 1)).2.1
  | lo, 0 => ⟨rfl, fun _ => ⟨rfl, rfl⟩, fun f h1 h2 => absurd h2 (by omega)⟩
  | lo, len + 1 => by
    intro r
    simp only [r, List.range'_succ, List.foldl_cons, deviceStep_prefix, List.findSome?_cons]
    cases hlo : hostFailure label kernel st lo with
    | none =>
      obtain ⟨herr, hnone, hfail⟩ := deviceFold_spec (lo + 1) len
      refine ⟨herr, fun h => (by rw [show lo + (len + 1) = lo + 1 + len by omega]; exact hnone h),
        fun f h1 h2 hf hbefore => ?_⟩
      rcases Nat.eq_or_lt_of_le h1 with rfl | h1
      · rw [hlo] at hf
        cases hf
      · exact hfail f h1 (by omega) hf fun i hi1 hi2 => hbefore i (by omega) hi2
    | some fl =>
      rw [deviceFold_stopped]
      refine ⟨rfl, fun h => (by cases h), fun f h1 _ hf hbefore => ?_⟩
      rcases Nat.eq_or_lt_of_le h1 with rfl | h1
      · exact ⟨rfl, rfl⟩
      · have := hbefore lo (Nat.le_refl lo) h1
        rw [hlo] at this
        cases this

theorem deviceFold_below (l : List Nat) {lo : Nat} (hl : ∀ i ∈ l, lo ≤ i) :
    ∀ (acc : Array Slot × Arena Secondary × Option TrackFailure) (j : Nat), j < lo →
      (l.foldl (deviceStep label kernel) acc).1[j]? = acc.1[j]? := by
  induction l with
  | nil => intro _ _ _; rfl
  | cons i l ih =>
    intro acc j hj
    rw [List.foldl_cons, ih (fun x hx => hl x (List.mem_cons_of_mem i hx)) _ j hj]
    obtain ⟨slots, arena, _ | f⟩ := acc
    · rw [deviceStep_none]
      simp only [Array.set!_eq_setIfInBounds]
      exact Array.getElem?_setIfInBounds_ne (by have := hl i (List.mem_cons_self ..); omega)
    · rfl

theorem deviceRange_below :
    ∀ (fuel lo hi : Nat) (handed : Bool) (splits : Nat) (outside : Bool)
      (acc : Array Slot × Arena Secondary) (j : Nat), j < lo →
      (deviceRange label kernel fuel lo hi handed splits outside acc).1[j]? = acc.1[j]?
  | 0, lo, hi, _, _, _, (slots, arena), j, hj => by
    simp only [deviceRange]
    exact deviceFold_below label kernel _ (fun i hi => (List.mem_range'_1.1 hi).1) _ j hj
  | fuel + 1, lo, hi, handed, splits, outside, (slots, arena), j, hj => by
    simp only [deviceRange]
    split
    · rw [deviceRange_below fuel _ _ _ _ _ _ j (by omega),
        deviceRange_below fuel _ _ _ _ _ _ j hj]
    · exact deviceFold_below label kernel _ (fun i hi => (List.mem_range'_1.1 hi).1) _ j hj

theorem deviceFold_keeps_cells (hk : Kernel.Reserves kernel) (l : List Nat) :
    ∀ (acc : Array Slot × Arena Secondary × Option TrackFailure), acc.2.1.cursor ≤ cursorMax →
      acc.2.1.Keeps (l.foldl (deviceStep label kernel) acc).2.1 := by
  induction l with
  | nil => intro acc h; exact Arena.Keeps.refl h
  | cons i l ih =>
    intro acc h
    rw [List.foldl_cons]
    obtain ⟨slots, arena, _ | f⟩ := acc
    · have hstep := hk i (slots.getD i default) arena h
      rw [deviceStep_none]
      generalize kernel i (slots.getD i default) arena = out at hstep ⊢
      exact hstep.trans (ih (slots.set! i out.1, out.2.1,
        out.2.2.map (TrackFailure.ofSlot label i out.1)) hstep.cursor_le_max)
    · exact ih _ h

theorem deviceRange_keeps_cells (hk : Kernel.Reserves kernel) :
    ∀ (fuel lo hi : Nat) (handed : Bool) (splits : Nat) (outside : Bool)
      (acc : Array Slot × Arena Secondary), acc.2.cursor ≤ cursorMax →
      acc.2.Keeps (deviceRange label kernel fuel lo hi handed splits outside acc).2.1
  | 0, lo, hi, _, _, _, (slots, arena), h => by
    simp only [deviceRange]
    exact deviceFold_keeps_cells label kernel hk _ (slots, arena, none) h
  | fuel + 1, lo, hi, handed, splits, outside, (slots, arena), h => by
    simp only [deviceRange]
    split
    · -- the right half starts where the left half left the arena
      have hl := deviceRange_keeps_cells hk fuel lo (lo + (hi - lo) / 2) outside
        (if handed = true then max 1 (splits / 2) else splits / 2) false (slots, arena) h
      generalize deviceRange label kernel fuel lo (lo + (hi - lo) / 2) outside
        (if handed = true then max 1 (splits / 2) else splits / 2) false (slots, arena) = L at hl ⊢
      obtain ⟨ls, la, lf⟩ := L
      exact hl.trans (deviceRange_keeps_cells hk fuel _ hi _ _ false (ls, la) hl.cursor_le_max)
    · exact deviceFold_keeps_cells label kernel hk _ (slots, arena, none) h

/-- A device range started where the host stands at its first slot reports the first
failure of the host's visits in the range. Without one it ends where the host does; with
one it agrees with the host on every slot up to the failing one, and a kernel that touches
the arena only past its cursor keeps the cells the host had filled by then. -/
theorem deviceRange_spec :
    ∀ (fuel lo hi : Nat) (handed : Bool) (splits : Nat) (outside : Bool), lo ≤ hi →
      let r := deviceRange label kernel fuel lo hi handed splits outside
        ((hostPrefix label kernel st lo).1, (hostPrefix label kernel st lo).2.1)
      r.2.2 = (List.range' lo (hi - lo)).findSome? (hostFailure label kernel st) ∧
      (r.2.2 = none → r.1 = (hostPrefix label kernel st hi).1 ∧
        r.2.1 = (hostPrefix label kernel st hi).2.1) ∧
      ∀ f, lo ≤ f → f < hi → (hostFailure label kernel st f).isSome →
        (∀ i, lo ≤ i → i < f → hostFailure label kernel st i = none) →
        (∀ j, j ≤ f → r.1[j]? = (hostPrefix label kernel st (f + 1)).1[j]?) ∧
        (Kernel.Reserves kernel → (hostPrefix label kernel st (f + 1)).2.1.cursor ≤ cursorMax →
          (hostPrefix label kernel st (f + 1)).2.1.Keeps r.2.1)
  | fuel, lo, hi, handed, splits, outside, hle => by
    intro r
    have hleaf : ∀ r' : Array Slot × Arena Secondary × Option TrackFailure,
        r' = (List.range' lo (hi - lo)).foldl (deviceStep label kernel)
          ((hostPrefix label kernel st lo).1, (hostPrefix label kernel st lo).2.1, none) →
        r'.2.2 = (List.range' lo (hi - lo)).findSome? (hostFailure label kernel st) ∧
        (r'.2.2 = none → r'.1 = (hostPrefix label kernel st hi).1 ∧
          r'.2.1 = (hostPrefix label kernel st hi).2.1) ∧
        ∀ f, lo ≤ f → f < hi → (hostFailure label kernel st f).isSome →
          (∀ i, lo ≤ i → i < f → hostFailure label kernel st i = none) →
          (∀ j, j ≤ f → r'.1[j]? = (hostPrefix label kernel st (f + 1)).1[j]?) ∧
          (Kernel.Reserves kernel → (hostPrefix label kernel st (f + 1)).2.1.cursor ≤ cursorMax →
            (hostPrefix label kernel st (f + 1)).2.1.Keeps r'.2.1) := by
      rintro r' rfl
      obtain ⟨herr, hnone, hfail⟩ := deviceFold_spec label kernel st lo (hi - lo)
      rw [show lo + (hi - lo) = hi by omega] at hnone
      refine ⟨herr, hnone, fun f h1 h2 hf hbefore => ?_⟩
      obtain ⟨hs, ha⟩ := hfail f h1 (by omega) hf hbefore
      exact ⟨fun j _ => by rw [hs], fun _ hmax => by rw [ha]; exact Arena.Keeps.refl hmax⟩
    cases fuel with
    | zero => exact hleaf r rfl
    | succ fuel =>
      simp only [r, deviceRange]
      split
      · rename_i hsplit
        have hmid1 : lo ≤ lo + (hi - lo) / 2 := Nat.le_add_right _ _
        have hmid2 : lo + (hi - lo) / 2 ≤ hi := by omega
        have hrange : List.range' lo (hi - lo) = List.range' lo ((hi - lo) / 2) ++
            List.range' (lo + (hi - lo) / 2) (hi - (lo + (hi - lo) / 2)) := by
          rw [List.range'_append_1]
          congr 1
          omega
        obtain ⟨herrL, hnoneL, hfailL⟩ := deviceRange_spec fuel lo (lo + (hi - lo) / 2) outside
          (if handed = true then max 1 (splits / 2) else splits / 2) false hmid1
        rw [Nat.add_sub_cancel_left] at herrL
        generalize deviceRange label kernel fuel lo (lo + (hi - lo) / 2) outside
          (if handed = true then max 1 (splits / 2) else splits / 2) false
          ((hostPrefix label kernel st lo).1, (hostPrefix label kernel st lo).2.1) = L
          at herrL hnoneL hfailL ⊢
        obtain ⟨ls, la, lf⟩ := L
        simp only at herrL hnoneL hfailL ⊢
        cases lf with
        | none =>
          obtain ⟨rfl, rfl⟩ := hnoneL rfl
          obtain ⟨herrR, hnoneR, hfailR⟩ := deviceRange_spec fuel (lo + (hi - lo) / 2) hi
            (outside || false) (if handed = true then max 1 (splits / 2) else splits / 2) false hmid2
          refine ⟨?_, fun h => hnoneR (by simpa using h), fun f h1 h2 hf hbefore => ?_⟩
          · rw [hrange, List.findSome?_append, ← herrL, Option.none_or]
            exact herrR
          · -- the first failure lies in the right half, as the left half has none
            have hright : lo + (hi - lo) / 2 ≤ f := by
              refine Nat.le_of_not_lt fun hlt => ?_
              have hall := (findSome?_range'_eq_none_iff _ _ _).1 herrL.symm f h1 (by omega)
              rw [hall] at hf
              cases hf
            exact hfailR f hright h2 hf fun i hi1 hi2 => hbefore i (by omega) hi2
        | some fl =>
          -- the left half failed: its failure is the first, and the right half only adds
          -- to slots and cells past it
          refine ⟨?_, fun h => (by simp at h), fun f h1 h2 hf hbefore => ?_⟩
          · rw [hrange, List.findSome?_append, ← herrL]
            rfl
          · have hleft : f < lo + (hi - lo) / 2 := by
              refine Nat.lt_of_not_le fun hge => ?_
              have hall : (List.range' lo ((hi - lo) / 2)).findSome?
                  (hostFailure label kernel st) = none :=
                (findSome?_range'_eq_none_iff _ _ _).2 fun i hi1 hi2 =>
                  hbefore i hi1 (by omega)
              rw [hall] at herrL
              cases herrL
            obtain ⟨hslots, harena⟩ := hfailL f h1 hleft hf hbefore
            refine ⟨fun j hj => ?_, fun hk hmax => ?_⟩
            · rw [deviceRange_below label kernel fuel _ _ _ _ _ _ j (by omega)]
              exact hslots j hj
            · have hl := harena hk hmax
              exact hl.trans (deviceRange_keeps_cells label kernel hk fuel _ hi _ _ false (ls, la)
                hl.cursor_le_max)
      · exact hleaf _ rfl

end Device

/-! ## The two strategies -/

end Transport
