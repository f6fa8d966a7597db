import Transport.Track.Sweep
/-!
# What a sweep does to each slot

A sweep runs its kernel once on each slot it visits, and a visit writes only the visited
slot and the shared arena. So a property of a single slot that the kernel keeps, or
changes in a way that depends on nothing but the slot's index and its old value, is kept
or changed in the same way by the whole sweep.

* `hostFold_field`: the host sweep visits every slot, so a per-slot field ends as the
  kernel sets it, in every slot.
* `sweep_keeps`: a field that every kernel call keeps is kept by the sweep, on the host
  and on the device, whatever fails.
* `sweep_host_inv`: an invariant of the slots and the arena that each visit without a
  failure carries to the next slot holds after a host sweep that reports no failure;
  `sweep_host_fixed` is its instance for kernels that keep the arena.
* `sweep_ok_visits`: a sweep that reports no failure leaves each slot as one visit of the
  kernel made it, against some arena; `sweep_ok_preserves` carries a per-slot property
  that every visit keeps.
* `sweep_ok_host`: a sweep that reports no failure, on the device too, is the host sweep,
  since without a failure every run of slots goes to its end, and the runs are visited in
  slot order.
* `schedule_one_iff`: one thread brings the slots to a kernel in their own order, and in no
  other.
-/
namespace Transport

variable {β : Type} (label : String) (kernel : Kernel)

/-! ## The host sweep -/

theorem hostFold_size (l : List Nat) (acc : Array Slot × Arena Secondary × List TrackFailure) :
    (l.foldl (hostStep label kernel) acc).1.size = acc.1.size := by
  induction l generalizing acc with
  | nil => rfl
  | cons i l ih =>
    rw [List.foldl_cons, ih]
    simp [hostStep]

/-- The first `k` slots of a host sweep: a field that the kernel sets to `g i` of its old
value, whatever the arena, is so set in every visited slot, and every other slot keeps it. -/
theorem hostFold_field (f : Slot → β) (g : Nat → β → β)
    (hk : ∀ i s a, f (kernel i s a).1 = g i (f s)) (k : Nat)
    (acc : Array Slot × Arena Secondary × List TrackFailure) (j : Nat) :
    ((List.range k).foldl (hostStep label kernel) acc).1[j]?.map f =
      if j < k then acc.1[j]?.map (g j ∘ f) else acc.1[j]?.map f := by
  induction k generalizing j with
  | zero => simp
  | succ k ih =>
    rw [List.range_succ, List.foldl_append, List.foldl_cons, List.foldl_nil]
    have hsz := hostFold_size label kernel (List.range k) acc
    have hkk := ih k
    have hj := ih j
    generalize (List.range k).foldl (hostStep label kernel) acc = r at hj hkk hsz
    obtain ⟨slots, arena, fs⟩ := r
    simp only [Nat.lt_irrefl, if_false] at hkk hsz
    simp only [hostStep, Array.set!_eq_setIfInBounds, Array.getElem?_setIfInBounds]
    by_cases hjk : k = j
    · subst hjk
      by_cases hs : k < slots.size
      · have hsk : slots[k]? = some slots[k] := by simp [hs]
        rw [hsk] at hkk
        simp only [hs, if_true, Option.map_some, Array.getD_eq_getD_getElem?, hsk,
          Option.getD_some, hk, Nat.lt_succ_self, ← Option.map_map, ← hkk]
      · have ha : acc.1[k]? = none := by simp; omega
        simp [hs, ha]
    · simp only [hjk, if_false, hj]
      by_cases h1 : j < k
      · simp [h1, Nat.lt_succ_of_lt h1]
      · have h2 : ¬ j < k + 1 := by omega
        simp [h1, h2]

theorem hostFold_keeps (f : Slot → β) (hk : ∀ i s a, f (kernel i s a).1 = f s) (l : List Nat)
    (acc : Array Slot × Arena Secondary × List TrackFailure) (j : Nat) :
    (l.foldl (hostStep label kernel) acc).1[j]?.map f = acc.1[j]?.map f := by
  induction l generalizing acc with
  | nil => rfl
  | cons i l ih =>
    rw [List.foldl_cons, ih]
    obtain ⟨slots, arena, fs⟩ := acc
    simp only [hostStep, Array.set!_eq_setIfInBounds, Array.getElem?_setIfInBounds]
    by_cases hij : i = j
    · subst hij
      by_cases hs : i < slots.size
      · simp [hs, hk]
      · simp [hs]
    · simp [hij]

theorem hostFold_arena (hk : ∀ i s a, (kernel i s a).2.1 = a) (l : List Nat)
    (acc : Array Slot × Arena Secondary × List TrackFailure) :
    (l.foldl (hostStep label kernel) acc).2.1 = acc.2.1 := by
  induction l generalizing acc with
  | nil => rfl
  | cons i l ih =>
    rw [List.foldl_cons, ih]
    simp [hostStep, hk]

theorem hostFold_never (hk : ∀ i s a, (kernel i s a).2.2 = none) (l : List Nat)
    (acc : Array Slot × Arena Secondary × List TrackFailure) :
    (l.foldl (hostStep label kernel) acc).2.2 = acc.2.2 := by
  induction l generalizing acc with
  | nil => rfl
  | cons i l ih =>
    rw [List.foldl_cons, ih]
    simp [hostStep, hk]

theorem hostFold_failures_le (l : List Nat) (acc : Array Slot × Arena Secondary × List TrackFailure) :
    acc.2.2.length ≤ (l.foldl (hostStep label kernel) acc).2.2.length := by
  induction l generalizing acc with
  | nil => exact Nat.le_refl _
  | cons i l ih =>
    rw [List.foldl_cons]
    refine Nat.le_trans ?_ (ih _)
    obtain ⟨slots, arena, fs⟩ := acc
    simp only [hostStep]
    split <;> simp

theorem hostFold_getElem?_of_le (k : Nat) (acc : Array Slot × Arena Secondary × List TrackFailure)
    {j : Nat} (hj : k ≤ j) :
    ((List.range k).foldl (hostStep label kernel) acc).1[j]? = acc.1[j]? := by
  induction k with
  | zero => rfl
  | succ k ih =>
    rw [List.range_succ, List.foldl_append, List.foldl_cons, List.foldl_nil]
    have hprev := ih (by omega)
    generalize (List.range k).foldl (hostStep label kernel) acc = r at hprev ⊢
    obtain ⟨slots, arena, fs⟩ := r
    simp only [hostStep, Array.set!_eq_setIfInBounds,
      Array.getElem?_setIfInBounds_ne (show k ≠ j by omega)]
    exact hprev

theorem hostFold_range_inv (P : Nat → Array Slot → Arena Secondary → Prop) (n : Nat)
    (acc : Array Slot × Arena Secondary × List TrackFailure)
    (hk : ∀ m slots a, m < n → P m slots a → slots.size = acc.1.size → slots[m]? = acc.1[m]? →
      (kernel m (slots.getD m default) a).2.2 = none →
      P (m + 1) (slots.set! m (kernel m (slots.getD m default) a).1)
        (kernel m (slots.getD m default) a).2.1)
    (h0 : P 0 acc.1 acc.2.1)
    (hok : ((List.range n).foldl (hostStep label kernel) acc).2.2 = acc.2.2) :
    P n ((List.range n).foldl (hostStep label kernel) acc).1
      ((List.range n).foldl (hostStep label kernel) acc).2.1 := by
  induction n with
  | zero => exact h0
  | succ n ih =>
    have hkn := fun m slots a (hm : m < n) => hk m slots a (Nat.lt_succ_of_lt hm)
    rw [List.range_succ, List.foldl_append, List.foldl_cons, List.foldl_nil] at hok ⊢
    have hsize := hostFold_size label kernel (List.range n) acc
    have hslot := hostFold_getElem?_of_le label kernel n acc (Nat.le_refl n)
    have hle := hostFold_failures_le label kernel (List.range n) acc
    have ihn := ih hkn
    generalize (List.range n).foldl (hostStep label kernel) acc = r at ihn hsize hslot hle hok ⊢
    obtain ⟨slots, arena, fs⟩ := r
    dsimp only [hostStep] at hok ⊢
    generalize he : kernel n (slots.getD n default) arena = out at hok ⊢
    obtain ⟨s, a, err⟩ := out
    -- a failure would leave the fold with more failures than it started with
    cases err with
    | some e =>
      have hlen : acc.2.2.length ≤ fs.length := hle
      have := congrArg List.length hok
      simp only [List.length_cons] at this
      omega
    | none =>
      have hP := hk n slots arena (Nat.lt_succ_self n) (ihn hok) hsize hslot (by rw [he])
      rw [he] at hP
      exact hP

/-! ## The device sweep -/

theorem deviceFold_stopped (l : List Nat) (slots : Array Slot) (arena : Arena Secondary)
    (f : TrackFailure) :
    l.foldl (deviceStep label kernel) (slots, arena, some f) = (slots, arena, some f) := by
  induction l with
  | nil => rfl
  | cons i l ih => simpa [deviceStep] using ih

theorem deviceFold_keeps (f : Slot → β) (hk : ∀ i s a, f (kernel i s a).1 = f s) (l : List Nat)
    (acc : Array Slot × Arena Secondary × Option TrackFailure) (j : Nat) :
    (l.foldl (deviceStep label kernel) acc).1[j]?.map f = acc.1[j]?.map f := by
  induction l generalizing acc with
  | nil => rfl
  | cons i l ih =>
    rw [List.foldl_cons, ih]
    obtain ⟨slots, arena, _ | fail⟩ := acc
    · simp only [deviceStep, Array.set!_eq_setIfInBounds, Array.getElem?_setIfInBounds]
      by_cases hij : i = j
      · subst hij
        by_cases hs : i < slots.size
        · simp [hs, hk]
        · simp [hs]
      · simp [hij]
    · rfl

theorem deviceRange_keeps (f : Slot → β) (hk : ∀ i s a, f (kernel i s a).1 = f s) :
    ∀ (fuel lo hi : Nat) (handed : Bool) (splits : Nat) (outside : Bool)
      (acc : Array Slot × Arena Secondary) (j : Nat),
      (deviceRange label kernel fuel lo hi handed splits outside acc).1[j]?.map f =
        acc.1[j]?.map f
  | 0, lo, hi, _, _, _, (slots, arena), j => by
    simp only [deviceRange]
    exact deviceFold_keeps label kernel f hk _ _ j
  | fuel + 1, lo, hi, handed, splits, outside, (slots, arena), j => by
    simp only [deviceRange]
    split
    · rw [deviceRange_keeps f hk fuel, deviceRange_keeps f hk fuel]
    · exact deviceFold_keeps label kernel f hk _ _ j

theorem deviceFold_arena (hk : ∀ i s a, (kernel i s a).2.1 = a) (l : List Nat)
    (acc : Array Slot × Arena Secondary × Option TrackFailure) :
    (l.foldl (deviceStep label kernel) acc).2.1 = acc.2.1 := by
  induction l generalizing acc with
  | nil => rfl
  | cons i l ih =>
    rw [List.foldl_cons, ih]
    obtain ⟨slots, arena, _ | fail⟩ := acc
    · simp [deviceStep, hk]
    · rfl

theorem deviceRange_arena (hk : ∀ i s a, (kernel i s a).2.1 = a) :
    ∀ (fuel lo hi : Nat) (handed : Bool) (splits : Nat) (outside : Bool)
      (acc : Array Slot × Arena Secondary),
      (deviceRange label kernel fuel lo hi handed splits outside acc).2.1 = acc.2
  | 0, lo, hi, _, _, _, (slots, arena) => by
    simp only [deviceRange]
    exact deviceFold_arena label kernel hk _ _
  | fuel + 1, lo, hi, handed, splits, outside, (slots, arena) => by
    simp only [deviceRange]
    split
    · rw [deviceRange_arena hk fuel, deviceRange_arena hk fuel]
    · exact deviceFold_arena label kernel hk _ _

theorem deviceFold_never (hk : ∀ i s a, (kernel i s a).2.2 = none) (l : List Nat)
    (slots : Array Slot) (arena : Arena Secondary) :
    (l.foldl (deviceStep label kernel) (slots, arena, none)).2.2 = none := by
  induction l generalizing slots arena with
  | nil => rfl
  | cons i l ih =>
    rw [List.foldl_cons]
    simp only [deviceStep, hk, Option.map_none]
    exact ih _ _

theorem deviceRange_never (hk : ∀ i s a, (kernel i s a).2.2 = none) :
    ∀ (fuel lo hi : Nat) (handed : Bool) (splits : Nat) (outside : Bool)
      (acc : Array Slot × Arena Secondary),
      (deviceRange label kernel fuel lo hi handed splits outside acc).2.2 = none
  | 0, lo, hi, _, _, _, (slots, arena) => by
    simp only [deviceRange]
    exact deviceFold_never label kernel hk _ _ _
  | fuel + 1, lo, hi, handed, splits, outside, (slots, arena) => by
    simp only [deviceRange]
    split
    · simp only [deviceRange_never hk fuel, Option.isSome_none, Bool.or_false, Option.or_none]
    · exact deviceFold_never label kernel hk _ _ _

theorem deviceFold_ok (l : List Nat) (slots : Array Slot) (arena : Arena Secondary)
    (fs : List TrackFailure) (h : (l.foldl (deviceStep label kernel) (slots, arena, none)).2.2 = none) :
    l.foldl (hostStep label kernel) (slots, arena, fs) =
      ((l.foldl (deviceStep label kernel) (slots, arena, none)).1,
        (l.foldl (deviceStep label kernel) (slots, arena, none)).2.1, fs) := by
  induction l generalizing slots arena with
  | nil => rfl
  | cons i l ih =>
    simp only [List.foldl_cons, deviceStep, hostStep] at h ⊢
    generalize kernel i (slots.getD i default) arena = r at h ⊢
    obtain ⟨s, a, _ | e⟩ := r
    · exact ih _ _ (by simpa using h)
    · simp only [Option.map_some, deviceFold_stopped] at h
      cases h

theorem deviceRange_ok :
    ∀ (fuel lo hi : Nat) (handed : Bool) (splits : Nat) (outside : Bool) (slots : Array Slot)
      (arena : Arena Secondary) (fs : List TrackFailure),
      (deviceRange label kernel fuel lo hi handed splits outside (slots, arena)).2.2 = none →
      (List.range' lo (hi - lo)).foldl (hostStep label kernel) (slots, arena, fs) =
        ((deviceRange label kernel fuel lo hi handed splits outside (slots, arena)).1,
          (deviceRange label kernel fuel lo hi handed splits outside (slots, arena)).2.1, fs)
  | 0, lo, hi, _, _, _, slots, arena, fs, h => by
    simp only [deviceRange] at h ⊢
    exact deviceFold_ok label kernel _ slots arena fs h
  | fuel + 1, lo, hi, handed, splits, outside, slots, arena, fs, h => by
    simp only [deviceRange] at h ⊢
    split at h
    · rename_i hsplit
      simp only [hsplit, if_true]
      simp only [Bool.and_eq_true, decide_eq_true_eq] at hsplit
      have hL := deviceRange_ok fuel lo (lo + (hi - lo) / 2) outside
        (if handed = true then max 1 (splits / 2) else splits / 2) false slots arena fs
      generalize deviceRange label kernel fuel lo (lo + (hi - lo) / 2) outside
        (if handed = true then max 1 (splits / 2) else splits / 2) false (slots, arena) = L at h hL ⊢
      obtain ⟨ls, la, lf⟩ := L
      cases lf with
      | some _ => simp at h
      | none =>
        have h1 := hL rfl
        have hR := deviceRange_ok fuel (lo + (hi - lo) / 2) hi outside
          (if handed = true then max 1 (splits / 2) else splits / 2) false ls la fs
        simp only [Option.isSome_none, Bool.or_false] at h hR ⊢
        generalize deviceRange label kernel fuel (lo + (hi - lo) / 2) hi outside
          (if handed = true then max 1 (splits / 2) else splits / 2) false (ls, la) = R at h hR ⊢
        obtain ⟨rs, ra, rf⟩ := R
        cases rf with
        | some _ => simp at h
        | none =>
          have h2 := hR rfl
          have hsplitList : List.range' lo (hi - lo) = List.range' lo ((hi - lo) / 2) ++
              List.range' (lo + (hi - lo) / 2) (hi - (lo + (hi - lo) / 2)) := by
            rw [List.range'_append_1]
            congr 1
            omega
          rw [show lo + (hi - lo) / 2 - lo = (hi - lo) / 2 by omega] at h1
          rw [hsplitList, List.foldl_append, h1, h2]
    · rename_i hsplit
      simp only [hsplit, Bool.false_eq_true, if_false]
      exact deviceFold_ok label kernel _ slots arena fs h

/-! ## Sweeps -/

theorem size_eq_of_map_getElem? {α : Type} (f : α → β) {a b : Array α}
    (h : ∀ j : Nat, a[j]?.map f = b[j]?.map f) : a.size = b.size := by
  rcases Nat.lt_trichotomy a.size b.size with hlt | heq | hlt
  · have := h a.size
    simp [hlt] at this
  · exact heq
  · have := h b.size
    simp [hlt] at this

variable (space : Space) (dispatch : Dispatch) (st : CoreState)

@[simp] theorem sweep_init : (sweep label space dispatch kernel st).1.init = st.init := by
  cases space <;> rfl

/-- A field that every kernel call keeps is kept by the sweep, whatever fails. -/
theorem sweep_keeps (f : Slot → β) (hk : ∀ i s a, f (kernel i s a).1 = f s) (j : Nat) :
    (sweep label space dispatch kernel st).1.slots[j]?.map f = st.slots[j]?.map f := by
  cases space with
  | host => exact hostFold_keeps label kernel f hk _ _ j
  | device => exact deviceRange_keeps label kernel f hk _ _ _ _ _ _ _ j

@[simp] theorem sweep_size :
    (sweep label space dispatch kernel st).1.slots.size = st.slots.size :=
  size_eq_of_map_getElem? (fun _ => ()) (sweep_keeps label kernel space dispatch st _ (fun _ _ _ => rfl))

theorem sweep_secondaries (hk : ∀ i s a, (kernel i s a).2.1 = a) :
    (sweep label space dispatch kernel st).1.secondaries = st.secondaries := by
  cases space with
  | host => exact hostFold_arena label kernel hk _ _
  | device => exact deviceRange_arena label kernel hk _ _ _ _ _ _ _

theorem sweep_never_fails (hk : ∀ i s a, (kernel i s a).2.2 = none) :
    (sweep label space dispatch kernel st).2 = none := by
  cases space with
  | host =>
    simp only [sweep]
    rw [hostFold_never label kernel hk]
    rfl
  | device =>
    simp only [sweep, Option.map_eq_none_iff]
    exact deviceRange_never label kernel hk _ _ _ _ _ _ _

theorem sweep_host_field (f : Slot → β) (g : Nat → β → β)
    (hk : ∀ i s a, f (kernel i s a).1 = g i (f s)) (j : Nat) :
    (sweep label .host dispatch kernel st).1.slots[j]?.map f = st.slots[j]?.map (g j ∘ f) := by
  simp only [sweep]
  rw [hostFold_field label kernel f g hk]
  split
  · rfl
  · rename_i hj
    have : st.slots[j]? = none := by simp; omega
    simp [this]

/-- A host sweep that reports no failure keeps an invariant that every visit without a
failure carries from one index to the next. -/
theorem sweep_host_inv (P : Nat → Array Slot → Arena Secondary → Prop)
    (hk : ∀ m slots a, m < st.slots.size → P m slots a → slots.size = st.slots.size →
      slots[m]? = st.slots[m]? → (kernel m (slots.getD m default) a).2.2 = none →
      P (m + 1) (slots.set! m (kernel m (slots.getD m default) a).1)
        (kernel m (slots.getD m default) a).2.1)
    (h0 : P 0 st.slots st.secondaries) (hok : (sweep label .host dispatch kernel st).2 = none) :
    P st.slots.size (sweep label .host dispatch kernel st).1.slots
      (sweep label .host dispatch kernel st).1.secondaries := by
  simp only [sweep] at hok ⊢
  generalize hfold : (List.range st.slots.size).foldl (hostStep label kernel)
    (st.slots, st.secondaries, []) = r at hok
  obtain ⟨slots, arena, fs⟩ := r
  have hfs : fs = [] := by
    cases fs with
    | nil => rfl
    | cons f fs =>
      obtain ⟨g, gs, hg⟩ := List.exists_cons_of_ne_nil (by simp : (f :: fs).reverse ≠ [])
      rw [hg] at hok
      simp [KernelError.ofFailures] at hok
  have := hostFold_range_inv label kernel P st.slots.size (st.slots, st.secondaries, []) hk h0
    (by rw [hfold, hfs])
  rw [hfold] at this
  exact this

/-- A host sweep with no failure whose kernel keeps the arena runs the kernel on every
slot as it was, against the arena it started with, and no visit failed. -/
theorem sweep_host_fixed (hkeep : ∀ i s, (kernel i s st.secondaries).2.1 = st.secondaries)
    (hok : (sweep label .host dispatch kernel st).2 = none) :
    (sweep label .host dispatch kernel st).1.secondaries = st.secondaries ∧
      (∀ j : Nat, (sweep label .host dispatch kernel st).1.slots[j]? =
        st.slots[j]?.map fun s => (kernel j s st.secondaries).1) ∧
      ∀ (j : Nat) (s : Slot), st.slots[j]? = some s → (kernel j s st.secondaries).2.2 = none := by
  refine sweep_host_inv label kernel dispatch st
    (fun m slots a => a = st.secondaries ∧ (∀ j : Nat, slots[j]? =
      if j < m then st.slots[j]?.map (fun s => (kernel j s st.secondaries).1) else st.slots[j]?) ∧
      ∀ (j : Nat) (s : Slot), j < m → st.slots[j]? = some s → (kernel j s st.secondaries).2.2 = none)
    ?_ ⟨rfl, fun j => by simp, fun j s hj => absurd hj (Nat.not_lt_zero j)⟩ hok
    |>.imp id fun ⟨hslots, hfail⟩ => ⟨fun j => ?_, fun j s hs => ?_⟩
  · rintro m slots a hm ⟨rfl, hslots, hfail⟩ _ hslot hk
    have hsm : st.slots[m]? = some st.slots[m] := by simp [hm]
    rw [hsm] at hslot
    rw [Array.getElem?_eq_some_iff] at hslot
    obtain ⟨hlt, heq⟩ := hslot
    have hget : slots.getD m default = st.slots[m] := by
      simp [Array.getD_eq_getD_getElem?, hlt, heq]
    rw [hget] at hk ⊢
    refine ⟨hkeep m _, fun j => ?_, fun j s hj hs => ?_⟩
    · simp only [Array.set!_eq_setIfInBounds, Array.getElem?_setIfInBounds]
      by_cases hj : m = j
      · subst hj
        simp [hlt, hsm]
      · rw [if_neg hj, hslots j]
        by_cases h1 : j < m
        · rw [if_pos h1, if_pos (by omega)]
        · rw [if_neg h1, if_neg (by omega)]
    · by_cases hjm : j = m
      · subst hjm
        rw [hsm, Option.some.injEq] at hs
        rw [← hs]
        exact hk
      · exact hfail j s (by omega) hs
  · rw [hslots j]
    split
    · rfl
    · rename_i hj
      have hnone : st.slots[j]? = none := by
        rw [Array.getElem?_eq_none_iff]
        omega
      simp [hnone]
  · exact hfail j s (Array.getElem?_eq_some_iff.1 hs).1 hs

/-- A sweep that reports no failure, wherever it ran, is the host sweep: without a failure
every run of slots on the device goes to its end, and the runs are visited in slot order. -/
theorem sweep_ok_host (h : (sweep label space dispatch kernel st).2 = none) :
    sweep label space dispatch kernel st = sweep label .host dispatch kernel st := by
  cases space with
  | host => rfl
  | device =>
    simp only [sweep, Option.map_eq_none_iff] at h ⊢
    have hfs := deviceRange_ok label kernel _ 0 st.slots.size false 1
      (dispatch == .fromOutside) st.slots st.secondaries [] h
    rw [Nat.sub_zero, ← List.range_eq_range'] at hfs
    rw [hfs, h]
    rfl

theorem sweep_ok_forall {P Q : Slot → Prop}
    (hkeep : ∀ i s, (kernel i s st.secondaries).2.1 = st.secondaries)
    (hok : (sweep label space dispatch kernel st).2 = none)
    (hvisit : ∀ i s, P s → (kernel i s st.secondaries).2.2 = none → Q (kernel i s st.secondaries).1)
    (hP : ∀ s ∈ st.slots, P s) : ∀ s ∈ (sweep label space dispatch kernel st).1.slots, Q s := by
  have hhost := sweep_ok_host label kernel space dispatch st hok
  rw [hhost] at hok ⊢
  obtain ⟨-, hslots, hfail⟩ := sweep_host_fixed label kernel dispatch st hkeep hok
  intro s hs
  obtain ⟨j, hj⟩ := Array.mem_iff_getElem?.1 hs
  rw [hslots j] at hj
  obtain ⟨s₀, hs₀, rfl⟩ := Option.map_eq_some_iff.1 hj
  exact hvisit j s₀ (hP s₀ (Array.mem_of_getElem? hs₀)) (hfail j s₀ hs₀)

/-- A sweep that reports no failure visits each slot once, as it was, against some arena,
and that visit did not fail. -/
theorem sweep_ok_visits (hok : (sweep label space dispatch kernel st).2 = none) {j : Nat}
    {s : Slot} (hs : st.slots[j]? = some s) :
    ∃ a, (kernel j s a).2.2 = none ∧
      (sweep label space dispatch kernel st).1.slots[j]? = some (kernel j s a).1 := by
  have hhost := sweep_ok_host label kernel space dispatch st hok
  rw [hhost] at hok ⊢
  -- before index `m`, a slot holds its visit; from `m` on, its old value
  refine (sweep_host_inv label kernel dispatch st
    (fun m slots _ => ∀ (j : Nat) (s : Slot), st.slots[j]? = some s →
      (j < m → ∃ a, (kernel j s a).2.2 = none ∧ slots[j]? = some (kernel j s a).1) ∧
      (m ≤ j → slots[j]? = some s))
    ?_ (fun j s hs => ⟨fun hj => absurd hj (Nat.not_lt_zero j), fun _ => hs⟩) hok) j s hs
    |>.1 (Array.getElem?_eq_some_iff.1 hs).1
  intro m slots a hm hP hsize hslot hvisit j s hs
  have hms : slots[m]? = some (slots.getD m default) := by
    rw [Array.getD_eq_getD_getElem?, hslot]
    obtain ⟨x, hx⟩ := Option.isSome_iff_exists.1 (by simpa using hm : st.slots[m]?.isSome)
    rw [hx]
    rfl
  have hlt : m < slots.size := by omega
  by_cases hjm : j = m
  · subst hjm
    have hsj : slots.getD j default = s := by
      rw [hP j s hs |>.2 (Nat.le_refl j)] at hms
      exact (Option.some.inj hms).symm
    refine ⟨fun _ => ⟨a, hsj ▸ hvisit, ?_⟩, fun h => absurd h (by omega)⟩
    rw [Array.set!_eq_setIfInBounds, Array.getElem?_setIfInBounds_self_of_lt hlt, hsj]
  · rw [Array.set!_eq_setIfInBounds, Array.getElem?_setIfInBounds_ne (Ne.symm hjm)]
    exact ⟨fun h => (hP j s hs).1 (by omega), fun h => (hP j s hs).2 (by omega)⟩

/-- A sweep that reports no failure carries to every slot a property that every visit
without a failure keeps, whatever the arena it sees. -/
theorem sweep_ok_preserves {P : Slot → Prop} (hok : (sweep label space dispatch kernel st).2 = none)
    (hvisit : ∀ i s a, P s → (kernel i s a).2.2 = none → P (kernel i s a).1)
    (hP : ∀ s ∈ st.slots, P s) : ∀ s ∈ (sweep label space dispatch kernel st).1.slots, P s := by
  intro s hs
  obtain ⟨j, hj⟩ := Array.mem_iff_getElem?.1 hs
  have hlt : j < st.slots.size := by
    rw [← sweep_size label kernel space dispatch st]
    exact (Array.getElem?_eq_some_iff.1 hj).1
  obtain ⟨s₀, hs₀⟩ : ∃ s₀, st.slots[j]? = some s₀ := ⟨_, Array.getElem?_eq_getElem hlt⟩
  obtain ⟨a, hnone, hres⟩ := sweep_ok_visits label kernel space dispatch st hok hs₀
  rw [hres, Option.some.injEq] at hj
  rw [← hj]
  exact hvisit j s₀ a (hP s₀ (Array.mem_of_getElem? hs₀)) hnone

/-! ## One thread -/

theorem schedule_one_iff {n : Nat} {order : List Nat} :
    Schedule 1 n order ↔ order = List.range n := by
  constructor
  · rintro ⟨hperm, worker, hone, hpair⟩
    have hlt : order.Pairwise (· < ·) := hpair.imp_of_mem fun {i j} hi hj h =>
      h (by have := hone i hi; have := hone j hj; omega)
    exact List.Perm.eq_of_pairwise (fun a b _ _ hab hba => by omega) hlt List.pairwise_lt_range
      hperm
  · rintro rfl
    exact ⟨List.Perm.refl _, fun _ => 0, fun _ _ => Nat.zero_lt_one,
      List.pairwise_lt_range.imp fun h _ => h⟩

end Transport
