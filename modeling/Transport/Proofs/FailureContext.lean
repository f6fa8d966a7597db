import Transport.Proofs.Coverage
import Transport.Proofs.HostDevice
/-!
# What a failed stage reports

When a kernel fails on a slot, the sweep reports a `TrackFailure` built from the slot as
the kernel left it. For that report to describe the track that failed, the kernel must
fail before it writes anything. The along-step checks the track before it counts the step;
a model's kernel checks that the model still covers the track, and a model refuses a track
before it draws from its stream or reserves cells (filling a granted reservation of a
well-formed arena cannot fail); the processing of an outcome checks the outcome before it
applies it. Initialization is the other way round: it fills the slot with the new track,
then checks it.

* `alongStep_eq_error_iff`, `modelKernel_error`, `processInteraction_error`: each kernel of
  a step fails only on a slot it leaves as it was, random stream and outcome included;
* `initKernel_error`: initialization fails only on the slot it has just filled;
* `sweep_failure_spec`: a failed sweep, on the host or the device, reports its lowest
  failing slot with the slot as that visit left it, and leaves the slot so;
* `failed_stages_leave_their_slot`: so a failed along-step, model or post-step sweep reports
  the failing slot as it was before the sweep and leaves it so, while a failed
  initialization reports the track it filled in.

A model's kernel sees the arena the lower slots left. Every arena the engine builds is
well formed (`Arena.WellFormed`: nothing written at or past its cursor), and reservations
keep it so; on such an arena a model that has drawn and reserved never fails.
-/
namespace Transport

/-! ## Reservations of a well-formed arena can be filled -/

namespace Arena

variable {α : Type}

theorem write_free {a : Arena α} {span : Span} {i : Nat} (v : α) (hi : i < span.len)
    (hfree : a.cell (span.start + i) = none) :
    a.write span i v = .ok { a with cells := a.cells.set! (span.start + i) (some v) } := by
  unfold write
  rw [if_pos hi]
  split
  · rename_i x hx
    simp [cell, hx] at hfree
  · rfl

theorem writeFrom_free (span : Span) :
    ∀ (i : Nat) (vs : List α) (a : Arena α), i + vs.length ≤ span.len →
      (∀ j, span.start + i ≤ j → j < span.start + span.len → a.cell j = none) →
      (a.writeFrom span i vs).2 = .ok ()
  | _, [], _, _, _ => rfl
  | i, v :: vs, a, hlen, hfree => by
    simp only [List.length_cons] at hlen
    simp only [writeFrom, write_free v (by omega) (hfree _ (Nat.le_refl _) (by omega))]
    exact writeFrom_free span (i + 1) vs _ (by omega) fun j h1 h2 => by
      rw [cell_set!_ne a _ (by omega)]
      exact hfree j (by omega) h2

theorem allocate_writeAll_ok {a a' : Arena α} {span : Span} (vs : List α) (hw : a.WellFormed)
    (h : a.allocate vs.length = (.ok span, a')) : (a'.writeAll span vs).2 = .ok () := by
  rw [allocate_eq] at h
  split at h
  · rename_i hn
    cases h
    rw [List.length_eq_zero_iff.1 hn]
    rfl
  · split at h
    · cases h
      exact writeFrom_free _ 0 vs _ (by simp) fun j h1 _ => hw.unwritten j (by simpa using h1)
    · cases h

end Arena

theorem Model.interact_error_keeps (m : Model) (s : Slot) {a a' : Arena Secondary} {s' : Slot}
    {e : TrackError} (hw : a.WellFormed) (h : m.interact s a = (s', a', .error e)) :
    s' = s ∧ a' = a := by
  cases m with
  | absorption | kill | isotropic => simp [Model.interact] at h
  | faulty xs rule =>
    simp only [Model.interact] at h
    split at h
    · split at h
      · simp only [Prod.mk.injEq] at h
        exact ⟨h.1.symm, h.2.1.symm⟩
      · simp at h
    · simp at h
  | fixed label range xs script =>
    simp only [Model.interact] at h
    split at h
    · simp only [Prod.mk.injEq] at h
      exact ⟨h.1.symm, h.2.1.symm⟩
    · simp at h
  | pair gamma electron positron xs =>
    dsimp only [Model.interact] at h
    split at h
    · simp only [Prod.mk.injEq] at h
      exact ⟨h.1.symm, h.2.1.symm⟩
    · split at h
      · simp at h
      · rename_i span a1 halloc
        split at h
        · simp at h
        · -- the pair fits in the two cells just granted
          rename_i err hwrite
          rw [Arena.allocate_writeAll_ok [_, _] hw halloc] at hwrite
          cases hwrite
  | emit parent child count xs =>
    dsimp only [Model.interact] at h
    split at h
    · simp at h
    · rename_i span a1 halloc
      split at h
      · simp at h
      · rename_i err hwrite
        rw [Arena.allocate_writeAll_ok _ hw (by rwa [List.length_replicate])] at hwrite
        cases hwrite

/-! ## Each kernel -/

/-- The along-step fails exactly on an alive track that fails its checks, and then leaves
the slot as it was. -/
theorem alongStep_eq_error_iff {p : Setup} {s s' : Slot} {e : TrackError} :
    alongStep p s = (s', some e) ↔
      s.isAlive = true ∧ s.checkKinematics = .error e ∧ s' = s := by
  constructor
  · intro h
    rcases alongStep_spec p s with ⟨-, h'⟩ | ⟨e', halive, hcheck, h'⟩ | ⟨-, -, h'⟩ |
      ⟨-, -, n, r, l, h'⟩ | ⟨-, -, n, r, nv, hit, xs, mfp, dedx, step, cause, h'⟩ <;>
      rw [h'] at h
    · cases h
    · simp only [Prod.mk.injEq, Option.some.injEq] at h
      obtain ⟨rfl, rfl⟩ := h
      exact ⟨halive, hcheck, rfl⟩
    · cases h
    · cases h
    · cases h
  · rintro ⟨halive, hcheck, rfl⟩
    simp [alongStep, halive, hcheck]

/-- The processing of an outcome that fails leaves the slot as it was. -/
theorem processInteraction_error {p : Setup} {s s' : Slot} {a : Arena Secondary}
    {e : TrackError} (h : processInteraction p s a = (s', some e)) : s' = s := by
  rcases processInteraction_spec p s a with ⟨-, h'⟩ | ⟨e', h'⟩ |
    ⟨o, u, -, -, -, ⟨-, h'⟩ | ⟨-, h'⟩⟩ <;> rw [h'] at h
  · cases h
  · exact (Prod.mk.inj h).1.symm
  · cases h
  · cases h

theorem modelKernel_uncovered {p : Setup} {id : Nat} {m : Model} {i : Nat} {s : Slot}
    {a : Arena Secondary} (halive : s.isAlive = true)
    (hact : s.limit.action = some (.interact id))
    (happ : p.physics.applies id s.particle s.energy = false) :
    modelKernel p id m i s a = (s, a, some (.noApplicableModel s.particle s.energy)) := by
  unfold modelKernel
  rw [if_neg (by simp [halive, hact]), if_pos (by simp [happ])]

theorem modelKernel_cases (p : Setup) (id : Nat) (m : Model) (i : Nat) (s : Slot)
    (a : Arena Secondary) :
    modelKernel p id m i s a = (s, a, none) ∨
      s.limit.action = some (.interact id) ∧
        modelKernel p id m i s a = (s, a, some (.noApplicableModel s.particle s.energy)) ∨
      s.limit.action = some (.interact id) ∧
        modelKernel p id m i s a =
          match m.interact s a with
          | (s', a', .ok o) => ({ s' with interaction := some o }, a', none)
          | (s', a', .error e) => (s', a', some e) := by
  by_cases hsel : s.isAlive = false ∨ s.limit.action ≠ some (.interact id)
  · exact .inl (modelKernel_skip p id m i a hsel)
  · obtain ⟨halive, hact⟩ : s.isAlive = true ∧ s.limit.action = some (.interact id) := by
      simpa using hsel
    cases happ : p.physics.applies id s.particle s.energy
    · exact .inr (.inl ⟨hact, modelKernel_uncovered halive hact happ⟩)
    · exact .inr (.inr ⟨hact, modelKernel_run p id m i a halive hact happ⟩)

/-- A model's kernel fails only on a track whose step ended in the model: either the model
no longer covers it, or the model refused it. Either way the slot, and a well-formed arena,
are as they were. -/
theorem modelKernel_error {p : Setup} {id : Nat} {m : Model} {i : Nat} {s s' : Slot}
    {a a' : Arena Secondary} {e : TrackError} (hw : a.WellFormed)
    (h : modelKernel p id m i s a = (s', a', some e)) :
    s.limit.action = some (.interact id) ∧ s' = s ∧ a' = a := by
  rcases modelKernel_cases p id m i s a with hk | ⟨hact, hk⟩ | ⟨hact, hk⟩ <;> rw [hk] at h
  · cases h
  · simp only [Prod.mk.injEq] at h
    exact ⟨hact, h.1.symm, h.2.1.symm⟩
  · rcases hr : m.interact s a with ⟨s1, a1, e1 | o⟩ <;> rw [hr] at h
    · simp only [Prod.mk.injEq] at h
      obtain ⟨rfl, rfl, -⟩ := h
      exact ⟨hact, Model.interact_error_keeps m s hw hr⟩
    · cases h

theorem modelKernel_wellFormed {p : Setup} {id : Nat} {m : Model} {i : Nat} {s : Slot}
    {a : Arena Secondary} (hw : a.WellFormed) : (modelKernel p id m i s a).2.1.WellFormed := by
  rcases modelKernel_cases p id m i s a with hk | ⟨-, hk⟩ | ⟨-, hk⟩ <;> rw [hk]
  · exact hw
  · exact hw
  · rcases hr : m.interact s a with ⟨s1, a1, e1 | o⟩
    · exact (Model.interact_error_keeps m s hw hr).2 ▸ hw
    · exact (Model.interact_extends m s hw hr).1.wellFormed

/-- The initialization kernel fails only on a slot it has just filled with its assigned
track, and reports that track, not what the slot held before. -/
theorem initKernel_error {g : Geometry} {base : Random.Stream}
    {asg : Array (Option (Nat × Initializer))} {i : Nat} {s s' : Slot} {a a' : Arena Secondary}
    {e : TrackError} (h : initKernel g base asg i s a = (s', a', some e)) :
    ∃ track x, asg.getD i none = some (track, x) ∧ initialCheck g x = .error e ∧
      s' = s.fill track x (base.withStream track.toUInt64) ∧ a' = a := by
  unfold initKernel at h
  split at h
  · cases h
  · rename_i track x hasg
    split at h
    · cases h
    · rename_i e' hcheck
      simp only [Prod.mk.injEq, Option.some.injEq] at h
      obtain ⟨rfl, rfl, rfl⟩ := h
      exact ⟨track, x, hasg, hcheck, rfl, rfl⟩

/-! ## Sweeps -/

/-- The failure a failed sweep reports: on the host, that of the lowest failing slot; on
the device, the one that aborted it. -/
def SweepError.failure : SweepError → TrackFailure
  | .failed e => e.first
  | .aborted f => f

/-- A failed sweep reports slot `f` as it was before the sweep, and leaves it so. -/
def ReportsSlotBefore (label : String) (st st' : CoreState) (err : SweepError) : Prop :=
  ∃ f e, f < st.slots.size ∧
    err.failure = TrackFailure.ofSlot label f (st.slots.getD f default) e ∧
    st'.slots[f]? = st.slots[f]?

theorem findSome?_range'_eq_some {β : Type} {g : Nat → Option β} {b : β} :
    ∀ {lo len : Nat}, (List.range' lo len).findSome? g = some b →
      ∃ f, lo ≤ f ∧ f < lo + len ∧ g f = some b ∧ ∀ i, lo ≤ i → i < f → g i = none
  | _, 0, h => by simp at h
  | lo, len + 1, h => by
    rw [List.range'_succ, List.findSome?_cons] at h
    cases hg : g lo with
    | some b' =>
      rw [hg] at h
      cases h
      exact ⟨lo, Nat.le_refl lo, by omega, hg, fun i h1 h2 => absurd h2 (by omega)⟩
    | none =>
      rw [hg] at h
      obtain ⟨f, h1, h2, hf, hbefore⟩ := findSome?_range'_eq_some h
      refine ⟨f, by omega, by omega, hf, fun i hi1 hi2 => ?_⟩
      rcases Nat.eq_or_lt_of_le hi1 with rfl | hi1
      · exact hg
      · exact hbefore i hi1 hi2

section Visits

variable (label : String) (kernel : Kernel) (space : Space) (dispatch : Dispatch)
  (st : CoreState)

theorem hostFailure_eq_some {f : Nat} {fl : TrackFailure} :
    hostFailure label kernel st f = some fl ↔
      ∃ e, (hostVisit label kernel st f).2.2 = some e ∧
        fl = TrackFailure.ofSlot label f (hostVisit label kernel st f).1 e := by
  simp only [hostFailure, Option.map_eq_some_iff]
  exact exists_congr fun e => and_congr_right fun _ => eq_comm

theorem hostPrefix_visited {f k : Nat} (hfk : f < k) (hf : f < st.slots.size) :
    (hostPrefix label kernel st k).1[f]? = some (hostVisit label kernel st f).1 := by
  rw [hostPrefix_slots, if_pos hfk, Array.getElem?_eq_getElem hf, Option.map_some]

/-- **A failed sweep reports its first failing slot.** Wherever it ran, a sweep that fails
reports the failure of the lowest slot `f` whose visit failed, with the slot as that visit
left it, and the sweep leaves slot `f` so. -/
theorem sweep_failure_spec {err : SweepError}
    (h : (sweep label space dispatch kernel st).2 = some err) :
    ∃ f e, f < st.slots.size ∧ (hostVisit label kernel st f).2.2 = some e ∧
      err.failure = TrackFailure.ofSlot label f (hostVisit label kernel st f).1 e ∧
      (sweep label space dispatch kernel st).1.slots[f]? =
        some (hostVisit label kernel st f).1 := by
  cases space with
  | host =>
    rw [sweep_host_eq] at h ⊢
    obtain ⟨ke, hke, rfl⟩ := Option.map_eq_some_iff.1 h
    have hhead : (List.range' 0 st.slots.size).findSome? (hostFailure label kernel st) =
        some ke.first := by
      rw [← List.range_eq_range', ← List.head?_filterMap]
      cases hl : (List.range st.slots.size).filterMap (hostFailure label kernel st) with
      | nil => rw [hl] at hke; cases hke
      | cons fl rest =>
        rw [hl] at hke
        cases hke
        rfl
    obtain ⟨f, -, hf, hfail, -⟩ := findSome?_range'_eq_some hhead
    obtain ⟨e, he, heq⟩ := (hostFailure_eq_some label kernel st).1 hfail
    exact ⟨f, e, by omega, he, heq, hostPrefix_visited label kernel st (by omega) (by omega)⟩
  | device =>
    simp only [sweep] at h ⊢
    obtain ⟨herr, -, hslots⟩ := deviceRange_spec label kernel st st.slots.size 0 st.slots.size
      false 1 (dispatch == .fromOutside) (Nat.zero_le _)
    have h0 : hostPrefix label kernel st 0 = (st.slots, st.secondaries, []) := rfl
    rw [h0] at herr hslots
    obtain ⟨fl, hfl, rfl⟩ := Option.map_eq_some_iff.1 h
    rw [hfl, Nat.sub_zero] at herr
    obtain ⟨f, -, hf, hfail, hbefore⟩ := findSome?_range'_eq_some herr.symm
    obtain ⟨e, he, heq⟩ := (hostFailure_eq_some label kernel st).1 hfail
    have hslot := (hslots f (Nat.zero_le f) (by omega) (by rw [hfail]; rfl)
      (fun i hi1 hi2 => hbefore i hi1 hi2)).1 f (Nat.le_refl f)
    refine ⟨f, e, by omega, he, heq, ?_⟩
    rw [hslot]
    exact hostPrefix_visited label kernel st (Nat.lt_succ_self f) (by omega)

theorem hostPrefix_arena_inv (P : Arena Secondary → Prop)
    (hkeep : ∀ i s a, P a → P (kernel i s a).2.1) (h0 : P st.secondaries) :
    ∀ k, P (hostPrefix label kernel st k).2.1
  | 0 => h0
  | k + 1 => by
    rw [hostPrefix_arena_succ]
    exact hkeep _ _ _ (hostPrefix_arena_inv P hkeep h0 k)

theorem sweep_reports_slot_before (P : Arena Secondary → Prop)
    (hkeep : ∀ i s a, P a → P (kernel i s a).2.1)
    (hatomic : ∀ i s a, P a → (kernel i s a).2.2.isSome → (kernel i s a).1 = s)
    (h0 : P st.secondaries) {err : SweepError}
    (h : (sweep label space dispatch kernel st).2 = some err) :
    ReportsSlotBefore label st (sweep label space dispatch kernel st).1 err := by
  obtain ⟨f, e, hf, he, heq, hslot⟩ := sweep_failure_spec label kernel space dispatch st h
  -- the failing visit saw an arena with `P`, so it left its slot as the sweep found it
  have hsame : (hostVisit label kernel st f).1 = st.slots.getD f default :=
    hatomic f _ _ (hostPrefix_arena_inv label kernel st P hkeep h0 f) (by
      unfold hostVisit at he
      rw [he]
      rfl)
  refine ⟨f, e, hf, hsame ▸ heq, ?_⟩
  rw [hslot, hsame]
  simp [Array.getD_eq_getD_getElem?, hf]

end Visits

/-! ## The sweeps of a step -/

theorem alongStepSweep_reports_slot_before (p : Setup) (st : CoreState) {err : SweepError}
    (h : (alongStepSweep p st).2 = some err) :
    ReportsSlotBefore "along-step" st (alongStepSweep p st).1 err := by
  refine sweep_reports_slot_before "along-step" _ p.space p.dispatch st (fun _ => True)
    (fun _ _ _ _ => trivial) (fun i s a _ hsome => ?_) trivial h
  dsimp only at hsome ⊢
  generalize halong : alongStep p s = r at hsome ⊢
  obtain ⟨s', _ | e⟩ := r
  · cases hsome
  · exact (alongStep_eq_error_iff.1 halong).2.2

theorem processSweep_reports_slot_before (p : Setup) (st : CoreState) {err : SweepError}
    (h : (processSweep p st).2 = some err) :
    ReportsSlotBefore "process-interactions" st (processSweep p st).1 err := by
  refine sweep_reports_slot_before "process-interactions" _ p.space p.dispatch st (fun _ => True)
    (fun _ _ _ _ => trivial) (fun i s a _ hsome => ?_) trivial h
  dsimp only at hsome ⊢
  generalize hproc : processInteraction p s a = r at hsome ⊢
  obtain ⟨s', _ | e⟩ := r
  · cases hsome
  · exact processInteraction_error hproc

theorem modelSweep_reports_slot_before (p : Setup) (id : Nat) (m : Model) (st : CoreState)
    (hw : st.secondaries.WellFormed) {err : SweepError}
    (h : (sweep m.label p.space p.dispatch (modelKernel p id m) st).2 = some err) :
    ReportsSlotBefore m.label st
      (sweep m.label p.space p.dispatch (modelKernel p id m) st).1 err := by
  refine sweep_reports_slot_before m.label _ p.space p.dispatch st Arena.WellFormed
    (fun _ _ _ ha => modelKernel_wellFormed ha) (fun i s a ha hsome => ?_) hw h
  generalize hk : modelKernel p id m i s a = r at hsome ⊢
  obtain ⟨s', a', _ | e⟩ := r
  · cases hsome
  · exact (modelKernel_error ha hk).2.1

theorem initializeTracks_reports_new_track {g : Geometry} {seed : UInt64} {space : Space}
    {dispatch : Dispatch} {st : CoreState} {err : SweepError}
    (h : (initializeTracks g seed space dispatch st).2 = .error err) :
    ∃ f e track x,
      (assignmentOf st.slots.size st.init.popPairs.1).getD f none = some (track, x) ∧
      err.failure = TrackFailure.ofSlot "initialize-tracks" f
        ((st.slots.getD f default).fill track x
          ((Random.Stream.ofSeed seed).withStream track.toUInt64)) e := by
  simp only [initializeTracks] at h
  split at h
  · cases h
  · generalize hsw : sweep "initialize-tracks" space dispatch
        (initKernel g (Random.Stream.ofSeed seed) (assignmentOf st.slots.size st.init.popPairs.1))
        { st with init := st.init.popPairs.2 } = r at h
    obtain ⟨st', _ | e⟩ := r
    · cases h
    · cases h
      obtain ⟨f, e, -, he, heq, -⟩ := sweep_failure_spec _ _ _ _ _ (by rw [hsw])
      -- the failing visit filled the slot before it checked the track
      generalize hv : hostVisit "initialize-tracks" _ _ f = v at he heq
      obtain ⟨vs, va, ve⟩ := v
      cases he
      unfold hostVisit at hv
      obtain ⟨track, x, hasg, -, hslot, -⟩ := initKernel_error hv
      exact ⟨f, e, track, x, hasg, by rw [heq, hslot]⟩

/-- **A failed stage reports the slot as it was.** For any parameters: the along-step, a
model's kernel on a well-formed arena and the processing of an outcome each fail only on a
slot they leave as it was, random stream and outcome included (and the model's kernel
leaves the arena too). So when the along-step, a model's or the post-step sweep fails, the
failure it reports describes the failing slot as it was before the sweep, which leaves it
so. A failed initialization instead reports the slot filled with its new track: the
assigned track id, kinematics and stream, whatever the slot held before. -/
theorem failed_stages_leave_their_slot (p : Setup) :
    (∀ (s s' : Slot) (e : TrackError), alongStep p s = (s', some e) → s' = s) ∧
    (∀ (id : Nat) (m : Model) (i : Nat) (s s' : Slot) (a a' : Arena Secondary) (e : TrackError),
      a.WellFormed → modelKernel p id m i s a = (s', a', some e) → s' = s ∧ a' = a) ∧
    (∀ (s s' : Slot) (a : Arena Secondary) (e : TrackError),
      processInteraction p s a = (s', some e) → s' = s) ∧
    (∀ (st : CoreState) (err : SweepError), (alongStepSweep p st).2 = some err →
      ReportsSlotBefore "along-step" st (alongStepSweep p st).1 err) ∧
    (∀ (id : Nat) (m : Model) (st : CoreState) (err : SweepError), st.secondaries.WellFormed →
      (sweep m.label p.space p.dispatch (modelKernel p id m) st).2 = some err →
      ReportsSlotBefore m.label st
        (sweep m.label p.space p.dispatch (modelKernel p id m) st).1 err) ∧
    (∀ (st : CoreState) (err : SweepError), (processSweep p st).2 = some err →
      ReportsSlotBefore "process-interactions" st (processSweep p st).1 err) ∧
    (∀ (st : CoreState) (err : SweepError),
      (initializeTracks p.geometry p.seed p.space p.dispatch st).2 = .error err →
      ∃ f e track x,
        (assignmentOf st.slots.size st.init.popPairs.1).getD f none = some (track, x) ∧
        err.failure = TrackFailure.ofSlot "initialize-tracks" f
          ((st.slots.getD f default).fill track x
            ((Random.Stream.ofSeed p.seed).withStream track.toUInt64)) e) :=
  ⟨fun _ _ _ h => (alongStep_eq_error_iff.1 h).2.2,
    fun _ _ _ _ _ _ _ _ hw h => (modelKernel_error hw h).2,
    fun _ _ _ _ h => processInteraction_error h,
    fun st _ h => alongStepSweep_reports_slot_before p st h,
    fun id m st _ hw h => modelSweep_reports_slot_before p id m st hw h,
    fun st _ h => processSweep_reports_slot_before p st h,
    fun _ _ h => initializeTracks_reports_new_track h⟩

end Transport
