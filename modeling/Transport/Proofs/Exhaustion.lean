import Mathlib
import Transport.Proofs.Pairing
import Transport.Proofs.Retry
import Transport.Proofs.HostDevice
/-!
# Arena exhaustion within a launch: the failed interactions are a suffix

The models run one sweep each, in registration order, and on one thread each sweep visits
the slots in order. Of the models only the pair model and the emitter reserve cells of the
step arena: two for the electron and positron, and the emitter's `count` for its children. Their
reservations therefore reach the arena in (model, slot) order, and the arena hands out cells
from one cursor that every request for cells moves on, granted or refused. A refusal pushes
the cursor past the capacity, and there it stays until the arena is cleared, so a request
after a refused one is refused too, even when it would fit in what is left.

* `Arena.grant`: what a reservation gets once those before it have asked for a number of
  cells; `Arena.Counted` is an arena whose cursor has counted them, and
  `Arena.Counted.allocate` says that the arena's answer is the grant.
* `Model.interact_counted`: the pair and the emitter store the outcome of their grant.
* `reservations`: the reservations of a launch in (model, slot) order, and `cellsBefore`, the
  cells asked for before one of them.
* `launchFrom_counted`: every sweep, and so the launch, gives each reservation's slot the
  outcome of its grant and leaves a cursor that has counted every reservation.
* `reservations_fail_a_suffix`: from the clear arena each step starts with, a reservation is
  refused exactly when the cells asked for up to and including it exceed the capacity, its
  slot's interaction then fails, and the failed slots are a suffix, in (model, slot) order,
  of those that asked for cells.

That order is the one thread's. On several threads the reservations reach the arena in the
order the threads bring the slots to the kernels (`launchInOrder`), and
`two_threads_fail_an_earlier_slot` shows a later slot taking the last cell while an earlier
one fails.
-/
namespace Transport

/-! ## Reservations counted from the start of the arena -/

namespace Arena

/-- What a reservation of `n` cells gets from an arena of `C` cells once the reservations
before it have asked for `before` cells in all: no cells when it asks for none, the next `n`
when they fit, and a refusal otherwise. -/
def grant (C before n : Nat) : Except ArenaError Span :=
  if n = 0 then .ok Span.empty
  else if before + n ≤ C then .ok ⟨before, n⟩
  else .error (.exhausted n C)

variable {α : Type} {C before : Nat} {a : Arena α}

/-- An arena of `C` cells, at most the largest 64-bit index, whose cursor has counted
reservations of `before` cells, saturating at that index. -/
structure Counted (C before : Nat) (a : Arena α) : Prop where
  capacity_eq : a.capacity = C
  capacity_le : C ≤ cursorMax
  cursor_eq : a.cursor = min before cursorMax

theorem Clear.counted (h : a.Clear) : a.Counted a.capacity 0 :=
  ⟨rfl, h.capacity_le, by rw [h.cursor_eq, Nat.zero_min]⟩

theorem Counted.allocate (h : a.Counted C before) (n : Nat) :
    (a.allocate n).1 = grant C before n ∧ (a.allocate n).2.Counted C (before + n) := by
  have hC := h.capacity_le
  have hcur := h.cursor_eq
  have hcap := h.capacity_eq
  rw [allocate_eq, grant]
  by_cases hn : n = 0
  · subst hn
    rw [if_pos rfl, if_pos rfl]
    exact ⟨rfl, h⟩
  · rw [if_neg hn, if_neg hn]
    -- a saturated cursor is past the capacity, and so is the count it stands for
    have hmove : ({ a with cursor := min (a.cursor + n) cursorMax } : Arena α).Counted C
        (before + n) := ⟨hcap, hC, by simp only; omega⟩
    by_cases hfit : before + n ≤ C
    · have hstart : a.cursor = before := by omega
      rw [if_pos (by omega), if_pos hfit, hstart]
      exact ⟨rfl, hstart ▸ hmove⟩
    · rw [if_neg (by omega), if_neg hfit]
      exact ⟨by rw [hcap], hmove⟩

theorem writeFrom_counted (span : Span) :
    ∀ (i : Nat) (vs : List α) (a : Arena α), a.Counted C before →
      (a.writeFrom span i vs).1.Counted C before
  | _, [], _, h => h
  | i, v :: vs, a, h => by
    simp only [writeFrom]
    split
    · rename_i b hw
      obtain rfl := write_ok hw
      exact writeFrom_counted span (i + 1) vs _ ⟨h.capacity_eq, h.capacity_le, h.cursor_eq⟩
    · exact h

end Arena

/-! ## The two models that reserve -/

/-- The cells a model reserves at each interaction: the pair's electron and positron, and the
emitter's `count` children. The other models reserve none. -/
def Model.reservation : Model → Option Nat
  | .pair .. => some 2
  | .emit _ _ count _ => some count
  | _ => none

/-- The outcome of an interaction that reserved cells: the track is absorbed and names the
span it was granted, or, refused, the interaction failed. -/
def Interaction.ofGrant : Except ArenaError Span → Interaction
  | .ok span => { Interaction.absorbed 0.0 with secondaries := span }
  | .error _ => Interaction.failed

theorem Interaction.ofGrant_failed_iff {C before n : Nat} :
    (Interaction.ofGrant (Arena.grant C before n)).outcome = .failed ↔
      0 < n ∧ C < before + n := by
  unfold Arena.grant
  by_cases hn : n = 0
  · simp [hn, Interaction.ofGrant, Interaction.absorbed]
  · by_cases hfit : before + n ≤ C
    · simp [hn, hfit, Interaction.ofGrant, Interaction.absorbed]
    · simp [hn, hfit, Interaction.ofGrant, Interaction.failed]
      omega

theorem Model.interact_arena (m : Model) (s : Slot) (a : Arena Secondary)
    (hm : m.reservation = none) : (m.interact s a).2.1 = a := by
  cases m <;> simp only [Model.reservation, reduceCtorEq] at hm <;> simp only [Model.interact] <;>
    (repeat' split) <;> rfl

theorem Arena.Counted.refused {α : Type} {C before n : Nat} {a a1 : Arena α} {e : ArenaError}
    (ha : a.Counted C before) (h : a.allocate n = (.error e, a1)) :
    a1.Counted C (before + n) ∧
      Interaction.failed = Interaction.ofGrant (Arena.grant C before n) := by
  obtain ⟨hgrant, hcount⟩ := ha.allocate n
  rw [h] at hgrant hcount
  exact ⟨hcount, by rw [← hgrant]; rfl⟩

theorem Arena.Counted.granted {α : Type} {C before n : Nat} {a a1 : Arena α} {span : Span}
    (ha : a.Counted C before) (h : a.allocate n = (.ok span, a1)) (vs : List α) :
    (a1.writeAll span vs).1.Counted C (before + n) ∧
      { Interaction.absorbed 0.0 with secondaries := span } =
        Interaction.ofGrant (Arena.grant C before n) := by
  obtain ⟨hgrant, hcount⟩ := ha.allocate n
  rw [h] at hgrant hcount
  exact ⟨Arena.writeFrom_counted span 0 vs a1 hcount, by rw [← hgrant]; rfl⟩

/-- A model's interaction from a counted arena that gives an outcome leaves the cursor
counting the model's reservation; the pair and the emitter give the outcome of their grant. -/
theorem Model.interact_counted (m : Model) (s : Slot) {C before : Nat}
    {a a' : Arena Secondary} {s' : Slot} {o : Interaction} (ha : a.Counted C before)
    (h : m.interact s a = (s', a', .ok o)) :
    a'.Counted C (before + m.reservation.getD 0) ∧
      ∀ n, m.reservation = some n → o = Interaction.ofGrant (Arena.grant C before n) := by
  cases hm : m.reservation with
  | none =>
    have hkeep := Model.interact_arena m s a hm
    rw [h] at hkeep
    subst hkeep
    exact ⟨ha, fun n hn => nomatch hn⟩
  | some k =>
    cases m with
    | absorption | kill | isotropic | faulty | fixed => nomatch hm
    | pair gamma electron positron xs =>
      simp only [Model.reservation, Option.some.injEq] at hm
      subst hm
      dsimp only [Model.interact] at h
      split at h
      · simp at h
      · split at h
        · rename_i e a1 halloc
          simp only [Prod.mk.injEq, Except.ok.injEq] at h
          obtain ⟨-, rfl, rfl⟩ := h
          obtain ⟨hc, ho⟩ := ha.refused halloc
          exact ⟨hc, fun n hn => by cases hn; exact ho⟩
        · rename_i span a1 halloc
          split at h
          · simp only [Prod.mk.injEq, Except.ok.injEq] at h
            obtain ⟨-, rfl, rfl⟩ := h
            obtain ⟨hc, ho⟩ := ha.granted halloc _
            exact ⟨hc, fun n hn => by cases hn; exact ho⟩
          · simp at h
    | emit parent child count xs =>
      simp only [Model.reservation, Option.some.injEq] at hm
      subst hm
      dsimp only [Model.interact] at h
      split at h
      · rename_i e a1 halloc
        simp only [Prod.mk.injEq, Except.ok.injEq] at h
        obtain ⟨-, rfl, rfl⟩ := h
        obtain ⟨hc, ho⟩ := ha.refused halloc
        exact ⟨hc, fun n hn => by cases hn; exact ho⟩
      · rename_i span a1 halloc
        split at h
        · simp only [Prod.mk.injEq, Except.ok.injEq] at h
          obtain ⟨-, rfl, rfl⟩ := h
          obtain ⟨hc, ho⟩ := ha.granted halloc _
          exact ⟨hc, fun n hn => by cases hn; exact ho⟩
        · simp at h

/-! ## A model's sweep -/

/-- Whether the track in a slot meets model `id` in a launch: it is alive and its step ended
in the model. -/
def Slot.endsIn (s : Slot) (id : Nat) : Bool :=
  s.isAlive && decide (s.limit.action = some (.interact id))

/-- The slots whose track meets model `id`, in slot order. -/
def endingIn (slots : Array Slot) (id : Nat) : List Nat :=
  (List.range slots.size).filter fun j => (slots.getD j default).endsIn id

section Sweep

variable {p : Setup} {id : Nat} {m : Model} {C S : Nat}

theorem modelKernel_endsIn (i : Nat) (s : Slot) (a : Arena Secondary) :
    (modelKernel p id m i s a).1.endsIn = s.endsIn := by
  obtain ⟨rng, o, h⟩ := modelKernel_eq p id m i s a
  rw [h]
  rfl

theorem modelKernel_counted {i : Nat} {s : Slot} {a : Arena Secondary} {before : Nat}
    (ha : a.Counted C before) (hok : (modelKernel p id m i s a).2.2 = none) :
    (modelKernel p id m i s a).2.1.Counted C
        (before + if s.endsIn id then m.reservation.getD 0 else 0) ∧
      (s.endsIn id = true → ∀ n, m.reservation = some n →
        (modelKernel p id m i s a).1.interaction =
          some (Interaction.ofGrant (Arena.grant C before n))) := by
  by_cases hsel : s.endsIn id = true
  · have ⟨halive, hact⟩ : s.isAlive = true ∧ s.limit.action = some (.interact id) := by
      simpa [Slot.endsIn] using hsel
    have happ := modelKernel_ok_applies halive hact hok
    rw [modelKernel_run p id m i a halive hact happ] at hok ⊢
    rcases hr : m.interact s a with ⟨s', a', e | o⟩
    · rw [hr] at hok
      cases hok
    · obtain ⟨hc, ho⟩ := Model.interact_counted m s ha hr
      refine ⟨by simpa [hsel] using hc, fun _ n hn => ?_⟩
      rw [ho n hn]
  · have hskip : s.isAlive = false ∨ s.limit.action ≠ some (.interact id) := by
      simp only [Slot.endsIn, Bool.and_eq_true, decide_eq_true_eq, not_and_or,
        Bool.not_eq_true] at hsel
      exact hsel
    rw [modelKernel_skip p id m i a hskip, if_neg hsel, Nat.add_zero]
    exact ⟨ha, fun h => absurd h hsel⟩

theorem hostPrefix_counted {st : CoreState}
    (hvisits : ∀ i < st.slots.size, (hostVisit m.label (modelKernel p id m) st i).2.2 = none)
    (h0 : st.secondaries.Counted C S) :
    ∀ k ≤ st.slots.size, (hostPrefix m.label (modelKernel p id m) st k).2.1.Counted C
      (S + m.reservation.getD 0 *
        (List.range k).countP fun j => (st.slots.getD j default).endsIn id)
  | 0, _ => by simpa [hostPrefix] using h0
  | k + 1, hk => by
    obtain ⟨hc, -⟩ :=
      modelKernel_counted (hostPrefix_counted hvisits h0 k (by omega)) (hvisits k hk)
    rw [hostPrefix_arena_succ, hostVisit, List.range_succ, List.countP_append, Nat.mul_add,
      ← Nat.add_assoc]
    cases hsel : (st.slots.getD k default).endsIn id <;> simpa [hsel] using hc

theorem sweep_counted {st : CoreState} (h0 : st.secondaries.Counted C S)
    (hok : (sweep m.label p.space p.dispatch (modelKernel p id m) st).2 = none) :
    (sweep m.label p.space p.dispatch (modelKernel p id m) st).1.secondaries.Counted C
        (S + m.reservation.getD 0 * (endingIn st.slots id).length) ∧
      ∀ j ∈ endingIn st.slots id, ∀ n, m.reservation = some n →
        ∃ s, (sweep m.label p.space p.dispatch (modelKernel p id m) st).1.slots[j]? = some s ∧
          s.endsIn id = true ∧ s.interaction = some (Interaction.ofGrant (Arena.grant C
            (S + n * (List.range j).countP fun j => (st.slots.getD j default).endsIn id) n)) := by
  have hhost := sweep_ok_host _ _ _ _ _ hok
  rw [hhost] at hok ⊢
  have hvisits := (sweep_host_ok_iff _ _ _ _).1 hok
  rw [sweep_host_eq]
  refine ⟨?_, fun j hj n hn => ?_⟩
  · rw [endingIn, ← List.countP_eq_length_filter]
    exact hostPrefix_counted hvisits h0 st.slots.size (Nat.le_refl _)
  · rw [endingIn, List.mem_filter, List.mem_range] at hj
    obtain ⟨hjlt, hsel⟩ := hj
    have hjs : st.slots[j]? = some (st.slots.getD j default) := by
      simp [Array.getD_eq_getD_getElem?, hjlt]
    refine ⟨(hostVisit m.label (modelKernel p id m) st j).1, ?_, ?_, ?_⟩
    · rw [hostPrefix_slots, if_pos hjlt, hjs]
      rfl
    · rw [hostVisit, modelKernel_endsIn]
      exact hsel
    · have hint := (modelKernel_counted (hostPrefix_counted hvisits h0 j hjlt.le)
        (hvisits j hjlt)).2 hsel n hn
      rw [hn, Option.getD_some] at hint
      exact hint

end Sweep

/-! ## The reservations of a launch -/

/-- The reservations of model `id`'s sweep when the model reserves: one for each slot that
meets the model, in slot order. Each is the model's id, the slot and the cells asked for. -/
def modelReservations (slots : Array Slot) (id : Nat) (m : Model) : List (Nat × Nat × Nat) :=
  match m.reservation with
  | some n => (endingIn slots id).map fun j => (id, j, n)
  | none => []

/-- The reservations of a launch of the models `ms`, numbered from `id`, in the order they
reach the arena: model by model, and within a model's sweep slot by slot. -/
def reservations (slots : Array Slot) : Nat → List Model → List (Nat × Nat × Nat)
  | _, [] => []
  | id, m :: ms => modelReservations slots id m ++ reservations slots (id + 1) ms

/-- The cells asked for by the reservations of `rs` that reach the arena before model `id`'s
for slot `j`: those of earlier models, and those of model `id` for earlier slots. -/
def cellsBefore (rs : List (Nat × Nat × Nat)) (id j : Nat) : Nat :=
  ((rs.filter fun r => r.1 < id ∨ r.1 = id ∧ r.2.1 < j).map fun r => r.2.2).sum

theorem mem_modelReservations {slots : Array Slot} {id : Nat} {m : Model} {r : Nat × Nat × Nat} :
    r ∈ modelReservations slots id m ↔
      ∃ n j, m.reservation = some n ∧ j ∈ endingIn slots id ∧ r = (id, j, n) := by
  unfold modelReservations
  cases m.reservation with
  | none => simp
  | some n => simp [eq_comm]

theorem modelReservations_sum (slots : Array Slot) (id : Nat) (m : Model) :
    ((modelReservations slots id m).map fun r => r.2.2).sum =
      m.reservation.getD 0 * (endingIn slots id).length := by
  unfold modelReservations
  cases m.reservation with
  | none => simp
  | some n => simp [Function.comp_def, Nat.mul_comm]

theorem le_of_mem_reservations {slots : Array Slot} :
    ∀ {id : Nat} {ms : List Model} {r : Nat × Nat × Nat},
      r ∈ reservations slots id ms → id ≤ r.1
  | _, [], _, h => nomatch h
  | id, m :: ms, r, h => by
    rcases List.mem_append.1 h with h | h
    · obtain ⟨n, j, -, -, rfl⟩ := mem_modelReservations.1 h
      exact Nat.le_refl id
    · exact Nat.le_of_succ_le (le_of_mem_reservations h)

theorem endingIn_congr {a b : Array Slot}
    (h : ∀ j : Nat, b[j]?.map Slot.endsIn = a[j]?.map Slot.endsIn) (id : Nat) :
    endingIn b id = endingIn a id := by
  have hsize : b.size = a.size := size_eq_of_map_getElem? Slot.endsIn h
  unfold endingIn
  rw [hsize]
  refine List.filter_congr fun j hj => ?_
  rw [List.mem_range] at hj
  have hjb : j < b.size := hsize ▸ hj
  have hj' := h j
  simp only [Array.getElem?_eq_getElem hjb, Array.getElem?_eq_getElem hj, Option.map_some,
    Option.some.injEq] at hj'
  simp only [Array.getD_eq_getD_getElem?, Array.getElem?_eq_getElem hjb,
    Array.getElem?_eq_getElem hj, Option.getD_some, hj']

theorem reservations_congr {a b : Array Slot}
    (h : ∀ j : Nat, b[j]?.map Slot.endsIn = a[j]?.map Slot.endsIn) :
    ∀ (id : Nat) (ms : List Model), reservations b id ms = reservations a id ms
  | _, [] => rfl
  | id, m :: ms => by
    simp only [reservations, modelReservations, endingIn_congr h, reservations_congr h (id + 1) ms]

theorem cellsBefore_append (l₁ l₂ : List (Nat × Nat × Nat)) (id j : Nat) :
    cellsBefore (l₁ ++ l₂) id j = cellsBefore l₁ id j + cellsBefore l₂ id j := by
  simp [cellsBefore, List.filter_append]

theorem cellsBefore_of_lt {l : List (Nat × Nat × Nat)} {id : Nat} (h : ∀ r ∈ l, id < r.1)
    (j : Nat) : cellsBefore l id j = 0 := by
  unfold cellsBefore
  rw [List.filter_eq_nil_iff.2 fun r hr => by have := h r hr; simp; omega]
  rfl

theorem cellsBefore_of_gt {l : List (Nat × Nat × Nat)} {id : Nat} (h : ∀ r ∈ l, r.1 < id)
    (j : Nat) : cellsBefore l id j = (l.map fun r => r.2.2).sum := by
  unfold cellsBefore
  rw [List.filter_eq_self.2 fun r hr => by simp [h r hr]]

theorem filter_range_lt (P : Nat → Bool) {j N : Nat} (h : j ≤ N) :
    ((List.range N).filter P).filter (fun i => decide (i < j)) = (List.range j).filter P := by
  obtain ⟨d, rfl⟩ := Nat.exists_eq_add_of_le h
  have hlow : ((List.range j).filter P).filter (fun i => decide (i < j)) =
      (List.range j).filter P :=
    List.filter_eq_self.2 fun i hi => by simpa using List.mem_range.1 (List.mem_filter.1 hi).1
  have hhigh : (((List.range d).map (j + ·)).filter P).filter (fun i => decide (i < j)) = [] :=
    List.filter_eq_nil_iff.2 fun i hi => by
      obtain ⟨k, -, rfl⟩ := List.mem_map.1 (List.mem_filter.1 hi).1
      simp
  rw [List.range_add, List.filter_append, List.filter_append, hlow, hhigh, List.append_nil]

theorem cellsBefore_modelReservations {slots : Array Slot} {id n j : Nat} {m : Model}
    (hn : m.reservation = some n) (hj : j ≤ slots.size) :
    cellsBefore (modelReservations slots id m) id j =
      n * (List.range j).countP fun i => (slots.getD i default).endsIn id := by
  unfold cellsBefore modelReservations endingIn
  rw [hn, List.filter_map, List.map_map, List.countP_eq_length_filter, ← filter_range_lt _ hj]
  simp [Function.comp_def, Nat.mul_comm]

theorem cellsBefore_add_le {rs : List (Nat × Nat × Nat)} {id j n id' j' : Nat}
    (hmem : (id, j, n) ∈ rs) (hlt : id < id' ∨ id = id' ∧ j < j') :
    cellsBefore rs id j + n ≤ cellsBefore rs id' j' := by
  let P := fun r : Nat × Nat × Nat => decide (r.1 < id ∨ r.1 = id ∧ r.2.1 < j)
  let Q := fun r : Nat × Nat × Nat => decide (r.1 < id' ∨ r.1 = id' ∧ r.2.1 < j')
  let f := fun r : Nat × Nat × Nat => r.2.2
  have hPQ : (rs.filter Q).filter P = rs.filter P := by
    rw [List.filter_filter]
    refine List.filter_congr fun r _ => ?_
    by_cases hr : P r = true
    · have hq : Q r = true := by
        simp only [P, Q, decide_eq_true_eq] at hr ⊢
        omega
      rw [hr, hq]
      rfl
    · simp [hr]
  have hsplit : ((rs.filter Q).map f).sum =
      ((rs.filter P).map f).sum + ((((rs.filter Q).filter fun r => !P r)).map f).sum := by
    rw [← hPQ, ← List.sum_append, ← List.map_append]
    exact ((List.filter_append_perm P (rs.filter Q)).map f).sum_eq.symm
  have hself : (id, j, n) ∈ (rs.filter Q).filter fun r => !P r := by
    have hq : Q (id, j, n) = true := by
      simp only [Q, decide_eq_true_eq]
      omega
    have hp : P (id, j, n) = false := by simp [P]
    simp [List.mem_filter, hmem, hq, hp]
  have hn : n ≤ (((rs.filter Q).filter fun r => !P r).map f).sum :=
    List.le_sum_of_mem (List.mem_map.2 ⟨_, hself, rfl⟩)
  show ((rs.filter P).map f).sum + n ≤ ((rs.filter Q).map f).sum
  omega

/-! ## The launch -/

/-- The models' sweeps from model `id` on, without a failure, from an arena that has counted
`S` cells: the arena counts every reservation, and each reservation's slot takes the outcome
of its grant, after the cells asked for before it. -/
theorem launchFrom_counted {p : Setup} {C : Nat} :
    ∀ (id : Nat) (ms : List Model) (st : CoreState) (S : Nat), st.secondaries.Counted C S →
      (launchFrom p id ms st).2 = none →
      (launchFrom p id ms st).1.secondaries.Counted C
          (S + ((reservations st.slots id ms).map fun r => r.2.2).sum) ∧
        ∀ k j n, (k, j, n) ∈ reservations st.slots id ms →
          ∃ s, (launchFrom p id ms st).1.slots[j]? = some s ∧ s.interaction = some
            (Interaction.ofGrant
              (Arena.grant C (S + cellsBefore (reservations st.slots id ms) k j) n))
  | _, [], st, S, h0, _ =>
    ⟨by simpa [reservations, launchFrom] using h0, fun _ _ _ h => nomatch h⟩
  | id, m :: ms, st, S, h0, hok => by
    obtain ⟨st', hsw, heq⟩ := launchFrom_cons_ok hok
    rw [heq] at hok ⊢
    obtain ⟨hc', hslots'⟩ := sweep_counted h0 (by rw [hsw])
    rw [hsw] at hc' hslots'
    -- the sweep keeps which model each slot meets, so the later models' reservations are read
    -- the same from the slots it leaves
    have hres : reservations st'.slots (id + 1) ms = reservations st.slots (id + 1) ms := by
      have hkeep := sweep_keeps m.label (modelKernel p id m) p.space p.dispatch st Slot.endsIn
        fun i s a => modelKernel_endsIn i s a
      rw [hsw] at hkeep
      exact reservations_congr hkeep (id + 1) ms
    obtain ⟨hc, hrest⟩ := launchFrom_counted (id + 1) ms st' _ hc' hok
    rw [hres] at hc hrest
    have hlater : ∀ r ∈ reservations st.slots (id + 1) ms, id < r.1 :=
      fun r hr => le_of_mem_reservations hr
    refine ⟨?_, fun k j n hmem => ?_⟩
    · rw [reservations, List.map_append, List.sum_append, modelReservations_sum, ← Nat.add_assoc]
      exact hc
    · rw [reservations, cellsBefore_append]
      rcases List.mem_append.1 hmem with hown | hmem
      · -- model `id`'s own reservation: its sweep stored the outcome, the later ones pass it
        obtain ⟨n', j', hn', hj', heq⟩ := mem_modelReservations.1 hown
        simp only [Prod.mk.injEq] at heq
        obtain ⟨rfl, rfl, rfl⟩ := heq
        obtain ⟨s, hs, hsel, hint⟩ := hslots' j hj' n hn'
        have hact : s.limit.action = some (.interact k) := by
          simp only [Slot.endsIn, Bool.and_eq_true, decide_eq_true_eq] at hsel
          exact hsel.2
        have hjle : j ≤ st.slots.size :=
          (List.mem_range.1 (List.mem_filter.1 hj').1).le
        refine ⟨s, launchFrom_passes hok hs fun k' hk' => ?_, ?_⟩
        · rw [hact]
          simp only [ne_eq, Option.some.injEq, LimitAction.interact.injEq]
          omega
        · rw [hint, cellsBefore_modelReservations hn' hjle, cellsBefore_of_lt hlater, Nat.add_zero]
      · -- a later model's: every reservation of model `id` came before it
        have hk : id < k := hlater _ hmem
        obtain ⟨s, hs, hint⟩ := hrest k j n hmem
        refine ⟨s, hs, ?_⟩
        have hown : ∀ r ∈ modelReservations st.slots id m, r.1 < k := by
          intro r hr
          obtain ⟨_, _, -, -, rfl⟩ := mem_modelReservations.1 hr
          exact hk
        rw [hint, cellsBefore_of_gt hown, modelReservations_sum, Nat.add_assoc]

/-- Whether the track in slot `j` holds an outcome that failed. -/
def CoreState.failedAt (st : CoreState) (j : Nat) : Prop :=
  ∃ s, st.slots[j]? = some s ∧ ∃ o, s.interaction = some o ∧ o.outcome = .failed

theorem failedAt_iff_of_interaction {st : CoreState} {j : Nat} {s : Slot} {o : Interaction}
    (hs : st.slots[j]? = some s) (ho : s.interaction = some o) :
    st.failedAt j ↔ o.outcome = .failed := by
  constructor
  · rintro ⟨s', hs', o', ho', hf⟩
    rw [hs, Option.some.injEq] at hs'
    subst hs'
    rw [ho, Option.some.injEq] at ho'
    exact ho' ▸ hf
  · exact fun hf => ⟨s, hs, o, ho, hf⟩

theorem failedAt_iff_outcome {st : CoreState} {j : Nat} :
    st.failedAt j ↔ (st.slots[j]?.bind (·.interaction)).map (·.outcome) = some .failed := by
  constructor
  · rintro ⟨s, hs, o, ho, hf⟩
    simp [hs, ho, hf]
  · intro h
    obtain ⟨o, ho, hf⟩ := Option.map_eq_some_iff.1 h
    obtain ⟨s, hs, hso⟩ := Option.bind_eq_some_iff.1 ho
    exact ⟨s, hs, o, hso, hf⟩

instance (st : CoreState) (j : Nat) : Decidable (st.failedAt j) :=
  decidable_of_iff _ failedAt_iff_outcome.symm

/-- **Arena exhaustion within a step fails a suffix.** Let the models run on a state whose
arena is clear, as every step's is when it hands its tracks to the models, and let them run
without a failure. The pair model and the emitter reserve cells in (model, slot) order, as
`reservations` lists them: the arena ends with its cursor at the cells asked for in all,
past the capacity if any was refused. Each reservation's slot takes the outcome of its
grant after the cells asked for before it: a span starting there, or a failure. A reservation
fails exactly when it asks for cells and those asked for up to and including it exceed the
capacity, so a request of no cells never fails; and once one fails, every later one that
asks for cells fails too, even if it would fit in the cells left. The launch is the one
thread's: on the host, every launch whose sweeps each run on one thread is this one. -/
theorem reservations_fail_a_suffix (p : Setup) (st : CoreState)
    (hclear : st.secondaries.Clear) (hok : (launchModels p st).2 = none) :
    let C := st.secondaries.capacity
    let rs := reservations st.slots 0 p.physics.models.toList
    let after := (launchModels p st).1
    (p.space = .host → ∀ orders : Nat → List Nat, (∀ id, Schedule 1 st.slots.size (orders id)) →
      launchInOrder p orders 0 p.physics.models.toList st = launchModels p st) ∧
    after.secondaries.cursor = min (rs.map fun r => r.2.2).sum cursorMax ∧
    (∀ id j n, (id, j, n) ∈ rs → ∃ s, after.slots[j]? = some s ∧
      s.interaction = some (Interaction.ofGrant (Arena.grant C (cellsBefore rs id j) n))) ∧
    (∀ id j n, (id, j, n) ∈ rs →
      (after.failedAt j ↔ 0 < n ∧ C < cellsBefore rs id j + n)) ∧
    (∀ id j n id' j' n', (id, j, n) ∈ rs → (id', j', n') ∈ rs →
      (id < id' ∨ id = id' ∧ j < j') → 0 < n' →
      after.failedAt j → after.failedAt j') := by
  intro C rs after
  obtain ⟨hc, houtcome⟩ := launchFrom_counted 0 p.physics.models.toList st 0 hclear.counted hok
  simp only [Nat.zero_add] at hc houtcome
  have hfailed : ∀ id j n, (id, j, n) ∈ rs →
      (after.failedAt j ↔ 0 < n ∧ C < cellsBefore rs id j + n) := by
    intro id j n hmem
    obtain ⟨s, hs, ho⟩ := houtcome id j n hmem
    exact (failedAt_iff_of_interaction hs ho).trans Interaction.ofGrant_failed_iff
  refine ⟨fun hhost _ hone => launchInOrder_one_thread hhost 0 _ st hone, hc.cursor_eq,
    houtcome, hfailed, ?_⟩
  intro id j n id' j' n' hmem hmem' hlt hn' hfail
  obtain ⟨-, hover⟩ := (hfailed id j n hmem).1 hfail
  have hle := cellsBefore_add_le hmem hlt
  exact (hfailed id' j' n' hmem').2 ⟨hn', by omega⟩

/-- Two emitters, of two children and of one, over three tracks and an arena of three cells.
The first emitter's tracks, in slots 0 and 2, ask first: slot 0 gets two cells and slot 2
overflows. The second emitter's track, in slot 1, then asks for the one cell left, and is
refused too. -/
theorem reservations_fail_past_a_free_cell :
    let p : Setup := { (default : Setup) with
      physics := PhysicsParams.ofModels [.emit 0 1 2 1.0, .emit 0 1 1 1.0] }
    let track : Nat → Slot := fun id =>
      { Slot.vacant with
        track := some 0, status := .alive, limit := ⟨0.0, some (.interact id)⟩, energy := 1.0 }
    let st : CoreState := ⟨#[track 0, track 1, track 0], Arena.new 3, InitBuffer.new 1 1⟩
    st.secondaries.Clear ∧ (launchModels p st).2 = none ∧
      ¬ (launchModels p st).1.failedAt 0 ∧ (launchModels p st).1.failedAt 2 ∧
      (launchModels p st).1.failedAt 1 := by
  intro p track st
  have hclear : st.secondaries.Clear := Arena.new_clear (by decide)
  have hok : (launchModels p st).2 = none := by decide
  obtain ⟨-, -, -, hfailed, -⟩ := reservations_fail_a_suffix p st hclear hok
  refine ⟨hclear, hok, ?_, ?_, ?_⟩
  · rw [hfailed 0 0 2 (by decide)]
    decide
  · exact (hfailed 0 2 2 (by decide)).2 (by decide)
  · exact (hfailed 1 1 1 (by decide)).2 (by decide)

/-- On two threads the failed slots need not be a suffix. Two tracks each ask an emitter for
one cell of an arena of one cell. On one thread slot 0 asks first and is granted, and slot 1
is refused; when the thread of slot 1 reaches the arena first, slot 1 is granted and slot 0,
the earlier slot, fails. -/
theorem two_threads_fail_an_earlier_slot :
    let p : Setup := { (default : Setup) with physics := PhysicsParams.ofModels [.emit 0 1 1 1.0] }
    let track : Nat → Slot := fun id =>
      { Slot.vacant with
        track := some id, status := .alive, limit := ⟨0.0, some (.interact 0)⟩, energy := 1.0 }
    let st : CoreState := ⟨#[track 0, track 1], Arena.new 1, InitBuffer.new 2 2⟩
    let twoThreads := launchInOrder p (fun _ => [1, 0]) 0 p.physics.models.toList st
    p.space = .host ∧ st.secondaries.Clear ∧ Schedule 2 st.slots.size [1, 0] ∧
      (launchModels p st).2 = none ∧ ¬ (launchModels p st).1.failedAt 0 ∧
      (launchModels p st).1.failedAt 1 ∧
      twoThreads.2 = none ∧ twoThreads.1.failedAt 0 ∧ ¬ twoThreads.1.failedAt 1 := by
  intro p track st twoThreads
  have hschedule : Schedule 2 st.slots.size [1, 0] :=
    ⟨by decide, fun i => i, by decide, by decide⟩
  exact ⟨rfl, Arena.new_clear (by decide), hschedule, by decide +kernel, by decide +kernel,
    by decide +kernel, by decide +kernel, by decide +kernel, by decide +kernel⟩

end Transport
