import Mathlib
import Transport.Proofs.LedgerRefinement
/-!
# Energy is conserved in exact arithmetic

The books of a step (`Books.step`) kept over the reals (`Scalar.exact`) are the step in exact
arithmetic. There every joule is accounted for: a run of the books that loads primaries and
takes steps ends with what it loaded, and what the books held before, split between the
histogram, the slots, the pending initializers, the energy that slots still held when they
were reclaimed, and `2 mₑ` per pair conversion (`Books.run_balance`). The histogram then holds
no more than that total when no loaded energy is below zero (`Books.run_deposited_le`).

Both need a physical process: stopping powers and the pair mass at or above zero
(`Rates.Physical`), and rounds whose steps are not negative, whose pair fractions lie in
`[0, 1]` and whose depositions land in the histogram (`Round.Physical`).

* `Cell.turn_fair`: one slot's step moves its energy into its deposition, its queued
  secondaries and the pair mass.
* `Books.seat_balance`, `Books.fill_total`: admission moves energy from the pending
  initializers into the slots; the fill adds each deposition to the histogram.
* `Books.step_balance`: a step keeps the books' worth less the escapes and the pair mass.
-/
namespace Transport

/-- Exact arithmetic. -/
noncomputable def Scalar.exact : Scalar ℝ where
  zero := 0
  sumStart := 0
  one := 1
  add := (· + ·)
  sub := (· - ·)
  mul := (· * ·)
  min := Min.min
  lt x y := decide (x < y)
  le x y := decide (x ≤ y)

namespace Scalar

@[simp] theorem exact_zero : exact.zero = 0 := rfl
@[simp] theorem exact_sumStart : exact.sumStart = 0 := rfl
@[simp] theorem exact_one : exact.one = 1 := rfl
@[simp] theorem exact_add (x y : ℝ) : exact.add x y = x + y := rfl
@[simp] theorem exact_sub (x y : ℝ) : exact.sub x y = x - y := rfl
@[simp] theorem exact_mul (x y : ℝ) : exact.mul x y = x * y := rfl
@[simp] theorem exact_min (x y : ℝ) : exact.min x y = Min.min x y := rfl
@[simp] theorem exact_lt (x y : ℝ) : exact.lt x y = decide (x < y) := rfl
@[simp] theorem exact_le (x y : ℝ) : exact.le x y = decide (x ≤ y) := rfl

@[simp] theorem exact_sum (xs : List ℝ) : exact.sum xs = xs.sum :=
  List.sum_eq_foldl.symm

end Scalar

/-! ## What a physical process does -/

/-- Rates a physical process can have. -/
structure Rates.Physical (k : Rates ℝ) : Prop where
  stoppingPower_nonneg : ∀ p, 0 ≤ k.stoppingPower p
  pairMass_nonneg : 0 ≤ k.pairMass

/-- A turn a physical process can take, with a histogram of `n` bins: a step that is not
negative, a pair split by a fraction in `[0, 1]`, and a bin within the histogram. -/
structure Turn.Physical (n : Nat) (t : Turn ℝ) : Prop where
  step_nonneg : ∀ step range exits, t.motion = .travel step range exits → 0 ≤ step
  fraction_mem : ∀ e p f g, t.draw = .pair e p f g → 0 ≤ f ∧ f ≤ 1
  bin_lt : ∀ i, t.bin = .cell i → i < n

/-- A round a physical process can take, with a histogram of `n` bins. -/
def Round.Physical (n : Nat) (r : Round ℝ) : Prop := ∀ i, (r.turns i).Physical n

/-! ## One slot -/

namespace Cell

variable {α : Type}

/-- The energy a slot holds: its track's, or none when it holds no track. -/
def worth (c : Cell ℝ) : ℝ := if c.held then c.energy else 0

/-- A slot whose track holds an energy at or above zero. -/
def Sound (c : Cell ℝ) : Prop := c.held = true → 0 ≤ c.energy

theorem worth_of_held {c : Cell ℝ} (h : c.held = true) : c.worth = c.energy := if_pos h

theorem held_of_isAlive {c : Cell α} (h : c.isAlive = true) : c.held = true := by
  unfold isAlive at h
  exact (Bool.and_eq_true _ _ ▸ h).1

@[simp] theorem held_begin (c : Cell α) : c.begin.held = c.held := by
  unfold begin
  split <;> rfl

@[simp] theorem energy_begin (c : Cell α) : c.begin.energy = c.energy := by
  unfold begin
  split <;> rfl

theorem worth_begin (c : Cell ℝ) : c.begin.worth = c.worth := by
  simp [worth]

theorem Sound.begin {c : Cell ℝ} (hc : c.Sound) : c.begin.Sound := by
  simpa [Sound] using hc

/-- Cleanup takes the energy a stopped slot still holds out of the slots. -/
theorem worth_reclaim (c : Cell ℝ) :
    c.reclaim.worth + (if c.held && c.status == .killed then c.energy else 0) = c.worth := by
  unfold reclaim worth
  by_cases h : (c.held && c.status == .killed) = true
  · obtain ⟨hheld, hkilled⟩ := Bool.and_eq_true _ _ ▸ h
    simp [hheld, beq_iff_eq.1 hkilled]
  · simp [h]

theorem Sound.reclaim {c : Cell ℝ} (hc : c.Sound) : c.reclaim.Sound := by
  unfold Cell.reclaim
  split
  · simp [Sound]
  · exact hc

theorem worth_nonneg {c : Cell ℝ} (hc : c.Sound) : 0 ≤ c.worth := by
  unfold worth
  split
  · exact hc ‹_›
  · exact le_refl 0

variable {k : Rates ℝ}

/-- The along-step splits the energy of a slot between what it keeps and its deposition,
neither below zero. -/
theorem move_balance (hk : k.Physical) {c : Cell ℝ} (hc : c.Sound) {m : Motion ℝ}
    (hm : ∀ step range exits, m = .travel step range exits → 0 ≤ step) :
    c.worth = (c.move Scalar.exact k m).1.worth + (c.move Scalar.exact k m).2 ∧
      0 ≤ (c.move Scalar.exact k m).2 ∧ (c.move Scalar.exact k m).1.Sound ∧
      (c.move Scalar.exact k m).1.held = c.held ∧
      (c.isAlive = false → c.move Scalar.exact k m = (c, 0)) := by
  by_cases halive : c.isAlive = true
  · have hheld := held_of_isAlive halive
    have hE := hc hheld
    rcases m with _ | _ | ⟨step, range, exits⟩
    · simp [move, halive, hc]
    · simp [move, halive, worth, Sound, hheld, hE]
    · -- a step of length `step`: the loss is at most the energy, and the rest is kept
      have hloss : 0 ≤ min (k.stoppingPower c.particle * step) c.energy :=
        le_min (mul_nonneg (hk.stoppingPower_nonneg _) (hm step range exits rfl)) hE
      have hle := min_le_right (k.stoppingPower c.particle * step) c.energy
      cases range <;> simp only [move, halive, Bool.not_true, Bool.false_eq_true, ↓reduceIte,
        Scalar.exact_zero, Scalar.exact_add, Scalar.exact_sub, Scalar.exact_mul,
        Scalar.exact_min] <;> split_ifs <;>
        simp [worth, Sound, hheld, hE, hloss, hle]
  · simp [move, halive, hc]

end Cell

/-- An outcome that accounts for the energy of slot `c`: what the slot keeps after taking it,
the outcome's deposit, its secondaries and the pair mass of `n` conversions make up the slot's
energy, none of them below zero. -/
structure Yield.Fair (k : Rates ℝ) (c : Cell ℝ) (y : Yield ℝ) (n : Nat) : Prop where
  balance : (c.take Scalar.exact y).worth + y.deposit + (y.secondaries.map (·.2)).sum +
    k.pairMass * n = c.worth
  deposit_nonneg : 0 ≤ y.deposit
  secondaries_nonneg : ∀ x ∈ y.secondaries, 0 ≤ x.2
  sound : (c.take Scalar.exact y).Sound
  held : (c.take Scalar.exact y).held = c.held

namespace Cell

variable {k : Rates ℝ} {c : Cell ℝ}

/-- The model of a slot gives it no outcome, or one that accounts for its energy: absorption
deposits it, scattering keeps it, and a pair conversion passes it to the pair less `2 mₑ`. -/
theorem draw_fair (hc : c.Sound) {d : Draw ℝ}
    (hd : ∀ e p f g, d = .pair e p f g → 0 ≤ f ∧ f ≤ 1) {y : Option (Yield ℝ)} {n : Nat}
    (h : c.draw Scalar.exact k d = some (y, n)) :
    (y = none ∧ n = 0) ∨ ∃ o, y = some o ∧ c.isAlive = true ∧ o.Fair k c n := by
  by_cases halive : c.isAlive = true
  · have hheld := held_of_isAlive halive
    have hE := hc hheld
    rcases d with _ | _ | _ | ⟨e, p, f, granted⟩
    · simp [draw, halive] at h
      exact .inl ⟨h.1.symm, h.2.symm⟩
    · simp only [draw, halive, Bool.not_true, Bool.false_eq_true, ↓reduceIte,
        Option.some.injEq, Prod.mk.injEq] at h
      obtain ⟨rfl, rfl⟩ := h
      exact .inr ⟨_, rfl, halive, ⟨by simp [take, worth, hheld], hE, by simp,
        by simp [take, Sound], rfl⟩⟩
    · simp only [draw, halive, Bool.not_true, Bool.false_eq_true, ↓reduceIte,
        Option.some.injEq, Prod.mk.injEq] at h
      obtain ⟨rfl, rfl⟩ := h
      exact .inr ⟨_, rfl, halive, ⟨by simp [take, worth, hheld], le_refl _, by simp,
        by simp [take, Sound, hE], rfl⟩⟩
    · -- a conversion passes the energy above threshold to the pair, split by the fraction
      obtain ⟨hf0, hf1⟩ := hd e p f granted rfl
      simp only [draw, halive, Bool.not_true, Bool.false_eq_true, ↓reduceIte, Scalar.exact_sub,
        Scalar.exact_lt, Scalar.exact_zero, Scalar.exact_mul, Scalar.exact_one,
        decide_eq_true_eq] at h
      split_ifs at h with hlt hg
      · simp only [Option.some.injEq, Prod.mk.injEq] at h
        obtain ⟨rfl, rfl⟩ := h
        have ha : 0 ≤ c.energy - k.pairMass := not_lt.1 hlt
        refine .inr ⟨_, rfl, halive, ⟨?_, le_refl _, ?_, by simp [take, Sound], rfl⟩⟩
        · simp [take, worth, hheld]
          ring
        · simp only [List.mem_cons, List.not_mem_nil, or_false]
          rintro x (rfl | rfl)
          · exact mul_nonneg hf0 ha
          · exact mul_nonneg (sub_nonneg.2 hf1) ha
      · simp only [Option.some.injEq, Prod.mk.injEq] at h
        obtain ⟨rfl, rfl⟩ := h
        exact .inr ⟨_, rfl, halive, ⟨by simp [take, worth, hheld], le_refl _, by simp, hc, rfl⟩⟩
  · simp [draw, halive] at h
    exact .inl ⟨h.1.symm, h.2.symm⟩

/-- Over the reals the production cutoff splits the secondaries in two: those below it, which
the post-step deposits, and those at or above it, which the harvest queues. -/
theorem secondaries_split (xs : List (Nat × ℝ)) (cut : Nat → ℝ) :
    ((xs.filter fun x => decide (x.2 < cut x.1)).map (·.2)).sum +
      ((xs.filter fun x => decide (cut x.1 ≤ x.2)).map (·.2)).sum = (xs.map (·.2)).sum := by
  induction xs with
  | nil => simp
  | cons x xs ih =>
    by_cases hx : x.2 < cut x.1
    · simp [hx, not_le.2 hx, ← ih]
      ring
    · simp [hx, not_lt.1 hx, ← ih]
      ring

theorem settle_none (dep : ℝ) : c.settle Scalar.exact k dep none = (c, dep) := by
  unfold settle
  split <;> rfl

/-- The post-step of an alive slot with a fair outcome deposits all of the outcome's energy but
its queued secondaries and the pair mass, and a track it leaves spent deposits the rest. -/
theorem settle_balance (halive : c.isAlive = true) {o : Yield ℝ} {n : Nat} (hf : o.Fair k c n)
    (dep : ℝ) :
    c.worth + dep = (c.settle Scalar.exact k dep (some o)).1.worth +
        (c.settle Scalar.exact k dep (some o)).2 +
        ((o.secondaries.filter fun x => Scalar.exact.le (k.production x.1) x.2).map (·.2)).sum +
        k.pairMass * n ∧
      dep ≤ (c.settle Scalar.exact k dep (some o)).2 ∧ (c.settle Scalar.exact k dep (some o)).1.Sound ∧
      (c.settle Scalar.exact k dep (some o)).1.held = c.held := by
  have hheld' : (c.take Scalar.exact o).held = true := hf.held.trans (held_of_isAlive halive)
  have hkept : 0 ≤ (c.take Scalar.exact o).energy := hf.sound hheld'
  have hsplit := secondaries_split o.secondaries k.production
  have hbelow : 0 ≤ ((o.secondaries.filter fun x => decide (x.2 < k.production x.1)).map
      (·.2)).sum :=
    List.sum_nonneg fun x hx => by
      obtain ⟨y, hy, rfl⟩ := List.mem_map.1 hx
      exact hf.secondaries_nonneg y (List.mem_of_mem_filter hy)
  have hbal := hf.balance
  rw [worth_of_held hheld', worth_of_held (held_of_isAlive halive)] at hbal
  simp only [settle, halive, Bool.not_true, Bool.false_eq_true, ↓reduceIte, Scalar.exact_add,
    Scalar.exact_sum, Scalar.exact_lt, Scalar.exact_le, Scalar.exact_zero,
    worth_of_held (held_of_isAlive halive)]
  split_ifs
  · -- the track is left spent: the rest is deposited too
    refine ⟨?_, ?_, by simp [Sound], hf.held⟩
    · simp only [worth, hheld', if_true]
      linarith
    · linarith [hf.deposit_nonneg]
  · refine ⟨?_, ?_, hf.sound, hf.held⟩
    · rw [worth_of_held hheld']
      linarith
    · linarith [hf.deposit_nonneg]

@[simp] theorem bin_turn {α : Type} (A : Scalar α) (k : Rates α) (t : Turn α) (c : Cell α) :
    (c.turn A k t).bin = t.bin := by
  unfold turn
  split
  split <;> rfl

end Cell

/-- What a slot's tally accounts for: what the slot keeps, its deposition, its queued
secondaries and the pair mass of its conversions. -/
noncomputable def Tally.worth (k : Rates ℝ) (u : Tally ℝ) : ℝ :=
  u.cell.worth + u.deposit + ((u.promoted Scalar.exact k).map (·.2)).sum + k.pairMass * u.pairs

/-- A slot's tally that accounts for the slot's energy, with nothing below zero; a slot that
holds no track deposits nothing. -/
structure Tally.Fair (k : Rates ℝ) (c : Cell ℝ) (u : Tally ℝ) : Prop where
  balance : c.worth = u.worth k
  deposit_nonneg : 0 ≤ u.deposit
  sound : u.cell.Sound
  held : u.cell.held = c.held
  deposit_of_not_held : c.held = false → u.deposit = 0
  promoted_nonneg : ∀ x ∈ u.promoted Scalar.exact k, 0 ≤ x.2

namespace Cell

variable {k : Rates ℝ} {c : Cell ℝ}

/-- A slot's step, unless refused, accounts for its energy. -/
theorem turn_fair (hk : k.Physical) (hc : c.Sound) {n : Nat} {t : Turn ℝ} (ht : t.Physical n)
    (hr : (c.turn Scalar.exact k t).refused = false) : (c.turn Scalar.exact k t).Fair k c := by
  obtain ⟨hm, hd0, hs1, hh1, hdead⟩ := move_balance hk hc ht.step_nonneg
  unfold turn at hr ⊢
  generalize c.move Scalar.exact k t.motion = mv at *
  obtain ⟨c₁, d₁⟩ := mv
  dsimp only at hr hm hd0 hs1 hh1 hdead ⊢
  rcases hdraw : c₁.draw Scalar.exact k t.draw with _ | ⟨y, n'⟩
  · simp [hdraw] at hr
  · rcases draw_fair hs1 ht.fraction_mem hdraw with ⟨rfl, rfl⟩ | ⟨o, rfl, halive, hf⟩
    · -- no outcome: the slot keeps what the along-step left it
      simp only [settle_none]
      refine ⟨by simp [Tally.worth, Tally.promoted, hm], hd0, hs1, hh1, fun hno => ?_,
        by simp [Tally.promoted]⟩
      have hdead' : c.isAlive = false := by
        unfold isAlive
        rw [hno, Bool.false_and]
      simpa using congrArg Prod.snd (hdead hdead')
    · -- an outcome: the post-step settles it
      obtain ⟨hb, hdep, hsnd, hheld⟩ := settle_balance halive hf d₁
      have hheld₁ := held_of_isAlive halive
      refine ⟨?_, le_trans hd0 hdep, hsnd, hheld.trans hh1, fun hno => ?_, ?_⟩
      · simp only [Tally.worth, Tally.promoted, hheld, hheld₁, if_true]
        linarith
      · rw [← hh1, hheld₁] at hno
        cases hno
      · simp only [Tally.promoted, hheld, hheld₁, if_true]
        intro x hx
        exact hf.secondaries_nonneg x (List.mem_of_mem_filter hx)

end Cell

/-- A weight added where its bin says adds it to the histogram's weight, for a bin within it. -/
theorem Bin.add_exact (b : Bin) (w : ℝ) (h : List ℝ × ℝ × ℝ)
    (hb : ∀ j, b = .cell j → j < h.1.length) :
    (b.add Scalar.exact w h).1.length = h.1.length ∧
      (b.add Scalar.exact w h).1.sum + (b.add Scalar.exact w h).2.1 +
          (b.add Scalar.exact w h).2.2 = h.1.sum + h.2.1 + h.2.2 + w := by
  rcases b with i | _ | _
  · have hi := hb i rfl
    refine ⟨List.length_modify _ _ _, ?_⟩
    simp [Bin.add, List.modify_eq_set, List.sum_set', hi]
    ring
  · simp [Bin.add]
    ring
  · simp [Bin.add]
    ring

theorem Tally.escaped_nonneg {u : Tally ℝ} (hu : u.cell.Sound) :
    0 ≤ u.escaped Scalar.exact := by
  unfold Tally.escaped
  split
  · rename_i h
    exact hu (Bool.and_eq_true _ _ ▸ h).1
  · exact le_refl 0

/-! ## The books -/

namespace Books

/-- The weight of the histogram: its bins, underflow and overflow. -/
def deposited (b : Books ℝ) : ℝ := b.bins.sum + b.underflow + b.overflow

/-- The energy the slots hold. -/
def inSlots (b : Books ℝ) : ℝ := (b.cells.map Cell.worth).sum

/-- The energy of the pending initializers. -/
def waiting (b : Books ℝ) : ℝ := (b.pending.map (·.2)).sum

/-- Every slot's track holds an energy at or above zero. -/
def Sound (b : Books ℝ) : Prop := ∀ c ∈ b.cells, c.Sound

/-- Filling distinct empty slots one after the other adds the energies they take to the
slots'. -/
theorem fill_slots : ∀ (es : List (Nat × Nat × ℝ)) (cs : List (Cell ℝ)),
    (es.map (·.1)).Nodup → (∀ e ∈ es, cs[e.1]?.map (·.held) = some false) →
    (∀ e ∈ es, 0 ≤ e.2.2) → (∀ c ∈ cs, c.Sound) →
    ((es.foldl (fun cs e => cs.set e.1 (Cell.enter e.2)) cs).map Cell.worth).sum =
        (cs.map Cell.worth).sum + (es.map (·.2.2)).sum ∧
      ∀ c ∈ es.foldl (fun cs e => cs.set e.1 (Cell.enter e.2)) cs, c.Sound
  | [], cs, _, _, _, hs => ⟨by simp, hs⟩
  | e :: es, cs, hnd, hfree, hpos, hs => by
    obtain ⟨hnotin, hnd'⟩ := List.nodup_cons.1 hnd
    simp only at hnotin
    obtain ⟨c, hc, hcheld⟩ : ∃ c, cs[e.1]? = some c ∧ c.held = false := by
      simpa using hfree e List.mem_cons_self
    obtain ⟨hlt, hc⟩ := List.getElem?_eq_some_iff.1 hc
    have hE := hpos e List.mem_cons_self
    -- the slot held nothing, and now holds the entering energy
    have hworth : ((cs.set e.1 (Cell.enter e.2)).map Cell.worth).sum =
        (cs.map Cell.worth).sum + e.2.2 := by
      rw [List.map_set, List.sum_set', dif_pos (by simpa using hlt)]
      simp [hc, Cell.worth, hcheld, Cell.enter]
    have ih := fill_slots es (cs.set e.1 (Cell.enter e.2)) hnd'
      (fun e' he' => by
        have hne : e.1 ≠ e'.1 := fun heq => hnotin (by rw [heq]; exact List.mem_map_of_mem he')
        rw [List.getElem?_set_ne hne]
        exact hfree e' (List.mem_cons_of_mem _ he'))
      (fun e' he' => hpos e' (List.mem_cons_of_mem _ he'))
      (fun x hx => (List.mem_or_eq_of_mem_set hx).elim (hs x)
        (fun h => h ▸ fun _ => by simpa [Cell.enter] using hE))
    rw [List.foldl_cons]
    refine ⟨?_, ih.2⟩
    rw [ih.1, hworth, List.map_cons, List.sum_cons]
    ring

/-- Admission moves the energy of the top initializers into the slots they fill, and leaves
the histogram alone. -/
theorem seat_balance {b b' : Books ℝ} {filled : List Nat}
    (h : b.seat Scalar.exact filled = some b') (hs : b.Sound) :
    b'.inSlots + b'.waiting = b.inSlots + b.waiting ∧ b'.Sound ∧ b'.bins = b.bins ∧
      b'.underflow = b.underflow ∧ b'.overflow = b.overflow ∧ b'.pending <+: b.pending := by
  unfold seat at h
  dsimp only at h
  split_ifs at h with hg
  obtain ⟨hnd, hfree, hall⟩ := hg
  cases h
  -- the slots and energies that enter: as many as both lists hold
  have hzip := @List.zip_eq_zip_take_min _ _ filled b.pending.reverse
  have hfst : (filled.zip b.pending.reverse).map (·.1) =
      filled.take (min filled.length b.pending.length) := by
    rw [hzip, List.map_fst_zip (by simp)]
    simp
  have hsnd : (filled.zip b.pending.reverse).map (·.2) =
      b.pending.reverse.take (min filled.length b.pending.length) := by
    rw [hzip, List.map_snd_zip (by simp)]
    simp
  have hpos : ∀ e ∈ filled.zip b.pending.reverse, 0 ≤ e.2.2 := by
    intro e he
    simpa using List.all_eq_true.1 hall e he
  obtain ⟨hsum, hsound⟩ := fill_slots (filled.zip b.pending.reverse) b.cells
    (hfst ▸ (List.take_sublist _ _).nodup hnd)
    (fun e he => hfree e.1 (List.of_mem_zip he).1) hpos hs
  -- the energies that enter are the top of the stack
  have henter : ((filled.zip b.pending.reverse).map (·.2.2)).sum =
      ((b.pending.drop (b.pending.length - filled.length)).map (·.2)).sum := by
    have hmin : b.pending.length - min filled.length b.pending.length =
        b.pending.length - filled.length := by omega
    rw [show (filled.zip b.pending.reverse).map (·.2.2) =
        ((filled.zip b.pending.reverse).map (·.2)).map (·.2) by simp, hsnd, List.take_reverse,
      hmin, List.map_reverse, List.sum_reverse]
  refine ⟨?_, hsound, rfl, rfl, rfl, List.take_prefix _ _⟩
  simp only [inSlots, waiting]
  rw [hsum, ← List.sum_take_add_sum_drop (b.pending.map (·.2))
    (b.pending.length - filled.length), ← List.map_take, ← List.map_drop, henter]
  ring

variable {k : Rates ℝ}

/-- The tallies of a step account for the energy of the slots they start from, and each lands
its deposition in one of `n` bins. -/
theorem tallies_fair (hk : k.Physical) {n : Nat} :
    ∀ (cs : List (Cell ℝ)) (turns : Nat → Turn ℝ), (∀ i, (turns i).Physical n) →
      (∀ c ∈ cs, c.Sound) →
      (cs.mapIdx fun i c => c.turn Scalar.exact k (turns i)).any (·.refused) = false →
      (cs.map Cell.worth).sum =
          ((cs.mapIdx fun i c => c.turn Scalar.exact k (turns i)).map (Tally.worth k)).sum ∧
        ∀ u ∈ cs.mapIdx (fun i c => c.turn Scalar.exact k (turns i)),
          (∃ c, u.Fair k c) ∧ ∀ j, u.bin = .cell j → j < n
  | [], _, _, _, _ => by simp
  | c :: cs, turns, ht, hs, hr => by
    rw [List.mapIdx_cons] at hr ⊢
    simp only [List.any_cons, Bool.or_eq_false_iff] at hr
    have hf := Cell.turn_fair hk (hs c List.mem_cons_self) (ht 0) hr.1
    -- the other slots take the turns after the first
    have ih := tallies_fair hk cs (fun i => turns (i + 1)) (fun i => ht (i + 1))
      (fun x hx => hs x (List.mem_cons_of_mem _ hx)) hr.2
    refine ⟨?_, fun u hu => ?_⟩
    · rw [List.map_cons, List.sum_cons, List.map_cons, List.sum_cons, ih.1, hf.balance]
    · rcases List.mem_cons.1 hu with rfl | hu
      · exact ⟨⟨c, hf⟩, fun j hj => (ht 0).bin_lt j (by rw [← hj, Cell.bin_turn])⟩
      · exact ih.2 u hu

/-- The fill adds every deposition to the histogram's weight. -/
theorem fill_total : ∀ (ts : List (Tally ℝ)) (h : List ℝ × ℝ × ℝ),
    (∀ u ∈ ts, 0 ≤ u.deposit ∧ (u.cell.held = false → u.deposit = 0) ∧
      ∀ j, u.bin = .cell j → j < h.1.length) →
    (ts.foldl (Tally.fill Scalar.exact) h).1.length = h.1.length ∧
      (ts.foldl (Tally.fill Scalar.exact) h).1.sum + (ts.foldl (Tally.fill Scalar.exact) h).2.1 +
          (ts.foldl (Tally.fill Scalar.exact) h).2.2 =
        h.1.sum + h.2.1 + h.2.2 + (ts.map (·.deposit)).sum
  | [], h, _ => by simp
  | u :: ts, h, hts => by
    obtain ⟨hd, hno, hbin⟩ := hts u List.mem_cons_self
    -- one fill: the deposition is added, or it is zero
    have hone : (Tally.fill Scalar.exact h u).1.length = h.1.length ∧
        (Tally.fill Scalar.exact h u).1.sum + (Tally.fill Scalar.exact h u).2.1 +
          (Tally.fill Scalar.exact h u).2.2 = h.1.sum + h.2.1 + h.2.2 + u.deposit := by
      unfold Tally.fill
      split_ifs with hadd
      · exact Bin.add_exact u.bin u.deposit h hbin
      · have hzero : u.deposit = 0 := by
          cases hheld : u.cell.held
          · exact hno hheld
          · simp only [hheld, Scalar.exact_lt, Scalar.exact_zero, Bool.true_and,
              decide_eq_true_eq] at hadd
            exact le_antisymm (not_lt.1 hadd) hd
        simp [hzero]
    obtain ⟨hlen, hsum⟩ := fill_total ts (Tally.fill Scalar.exact h u)
      (fun v hv => by
        obtain ⟨h1, h2, h3⟩ := hts v (List.mem_cons_of_mem _ hv)
        exact ⟨h1, h2, fun j hj => hone.1 ▸ h3 j hj⟩)
    rw [List.foldl_cons]
    refine ⟨hlen.trans hone.1, ?_⟩
    rw [hsum, hone.2, List.map_cons, List.sum_cons]
    ring

/-- What the tallies account for, spread over the books after the step: the slots after
cleanup, the escapes, the depositions, the queued secondaries and the pair mass. -/
theorem tallies_split : ∀ ts : List (Tally ℝ),
    (ts.map (Tally.worth k)).sum =
      (ts.map fun u => u.cell.reclaim.worth).sum + Scalar.exact.sum (ts.map (Tally.escaped Scalar.exact)) +
        (ts.map (·.deposit)).sum + ((ts.flatMap (Tally.promoted Scalar.exact k)).map (·.2)).sum +
        k.pairMass * ((ts.map (·.pairs)).sum : Nat)
  | [] => by simp
  | u :: ts => by
    have ih := tallies_split ts
    have hu := Cell.worth_reclaim u.cell
    simp only [Scalar.exact_sum] at ih ⊢
    simp only [List.map_cons, List.sum_cons, List.flatMap_cons, List.map_append, List.sum_append,
      Nat.cast_add, ih, Tally.worth, Tally.escaped, Scalar.exact_zero]
    rw [← hu]
    ring

/-- A step of the books over the reals keeps their worth, less the energy cleanup found in the
reclaimed slots and the pair mass of its conversions; it keeps the slots sound, and the
pending energies at or above zero when they were. -/
theorem step_balance (hk : k.Physical) {b b' : Books ℝ} {r : Round ℝ} {e : ℝ} {n : Nat}
    (hs : b.Sound) (hr : r.Physical b.bins.length) (h : b.step Scalar.exact k r = some (b', e, n)) :
    b.deposited + b.inSlots + b.waiting =
        b'.deposited + b'.inSlots + b'.waiting + e + k.pairMass * n ∧
      b'.Sound ∧ 0 ≤ e ∧ b'.bins.length = b.bins.length ∧
      ((∀ x ∈ b.pending, 0 ≤ x.2) → ∀ x ∈ b'.pending, 0 ≤ x.2) := by
  unfold step at h
  rcases ha : b.seat Scalar.exact r.filled with _ | b₁
  · rw [ha] at h
    cases h
  rw [ha] at h
  dsimp only at h
  split_ifs at h with hrf
  obtain ⟨hseat, hs₁, hbins, hu, ho, hpre⟩ := seat_balance ha hs
  simp only [Option.some.injEq, Prod.mk.injEq] at h
  obtain ⟨rfl, rfl, rfl⟩ := h
  set ts := tallies Scalar.exact k r b₁ with hts
  -- every slot's turn accounts for its energy
  obtain ⟨hsum, hfair⟩ : ((b₁.cells.map Cell.begin).map Cell.worth).sum =
      (ts.map (Tally.worth k)).sum ∧
      ∀ u ∈ ts, (∃ c, u.Fair k c) ∧ ∀ j, u.bin = .cell j → j < b₁.bins.length :=
    tallies_fair hk (b₁.cells.map Cell.begin) r.turns (fun i => hbins ▸ hr i)
      (fun c hc => by
        obtain ⟨c', hc', rfl⟩ := List.mem_map.1 hc
        exact (hs₁ c' hc').begin)
      (Bool.eq_false_iff.2 hrf)
  have hfill := fill_total ts (b₁.bins, b₁.underflow, b₁.overflow) fun u hu => by
    obtain ⟨⟨c, hf⟩, hbin⟩ := hfair u hu
    exact ⟨hf.deposit_nonneg, fun hno => hf.deposit_of_not_held (hf.held ▸ hno), hbin⟩
  have hsplit := tallies_split (k := k) ts
  have hbegin : (b₁.cells.map Cell.worth).sum = ((b₁.cells.map Cell.begin).map Cell.worth).sum := by
    simp [Function.comp_def, Cell.worth_begin]
  refine ⟨?_, ?_, ?_, hfill.1.trans (congrArg List.length hbins), ?_⟩
  · -- the worth moves from the slots to the histogram, the slots, the stack and the escapes
    simp only [deposited, inSlots, waiting, List.map_append, List.sum_append, List.map_map,
      Function.comp_def] at hseat hfill ⊢
    rw [← hbins, ← hu, ← ho]
    rw [hbegin, hsum, hsplit] at hseat
    linarith [hfill.2]
  · intro c hc
    obtain ⟨u, hu, rfl⟩ := List.mem_map.1 hc
    obtain ⟨⟨_, hf⟩, -⟩ := hfair u hu
    exact Cell.Sound.reclaim hf.sound
  · rw [Scalar.exact_sum]
    exact List.sum_nonneg fun x hx => by
      obtain ⟨u, hu, rfl⟩ := List.mem_map.1 hx
      obtain ⟨⟨_, hf⟩, -⟩ := hfair u hu
      exact Tally.escaped_nonneg hf.sound
  · intro hpos x hx
    rcases List.mem_append.1 hx with hx | hx
    · exact hpos x (hpre.subset hx)
    · obtain ⟨u, hu, hx⟩ := List.mem_flatMap.1 hx
      obtain ⟨⟨_, hf⟩, -⟩ := hfair u hu
      exact hf.promoted_nonneg x hx

theorem inSlots_nonneg {b : Books ℝ} (hs : b.Sound) : 0 ≤ b.inSlots :=
  List.sum_nonneg fun x hx => by
    obtain ⟨c, hc, rfl⟩ := List.mem_map.1 hx
    exact Cell.worth_nonneg (hs c hc)

theorem waiting_nonneg {b : Books ℝ} (hp : ∀ x ∈ b.pending, 0 ≤ x.2) : 0 ≤ b.waiting :=
  List.sum_nonneg fun x hx => by
    obtain ⟨y, hy, rfl⟩ := List.mem_map.1 hx
    exact hp y hy

@[simp] theorem waiting_load (b : Books ℝ) (ps : List (Nat × ℝ)) :
    (b.load ps).waiting = b.waiting + (ps.map (·.2)).sum := by
  simp [waiting, load, List.map_reverse]

/-- Every run of the books over the reals balances: the worth it starts with and the energy it
loads end up in the histogram, the slots, the pending initializers, the escapes and the pair
mass. The slots stay sound, and the pending energies at or above zero when the loaded ones
are. -/
theorem run_balance (hk : k.Physical) :
    ∀ (es : List (Event ℝ)) (b b' : Books ℝ) (E : ℝ) (N : Nat), b.Sound →
      (∀ r ∈ Event.rounds es, r.Physical b.bins.length) →
      b.run Scalar.exact k es = some (b', E, N) →
      b.deposited + b.inSlots + b.waiting + ((Event.loaded es).map (·.2)).sum =
          b'.deposited + b'.inSlots + b'.waiting + E + k.pairMass * N ∧
        b'.Sound ∧ 0 ≤ E ∧ ((∀ x ∈ b.pending, 0 ≤ x.2) → (∀ x ∈ Event.loaded es, 0 ≤ x.2) →
          ∀ x ∈ b'.pending, 0 ≤ x.2)
  | [], b, b', E, N, hs, _, h => by
    simp only [run, Option.some.injEq, Prod.mk.injEq] at h
    obtain ⟨rfl, rfl, rfl⟩ := h
    exact ⟨by simp [Event.loaded], hs, le_refl 0, fun hp _ => hp⟩
  | .load ps :: es, b, b', E, N, hs, hr, h => by
    -- the primaries join the stack; the step lemmas take it from there
    obtain ⟨hbal, hs', hE, hpos⟩ := run_balance hk es (b.load ps) b' E N hs hr h
    refine ⟨?_, hs', hE, fun hp hl => hpos ?_ fun x hx => hl x (List.mem_append_right _ hx)⟩
    · simp only [Event.loaded, List.map_append, List.sum_append]
      simp only [deposited, inSlots, waiting_load] at hbal
      simp only [deposited, inSlots, load] at hbal ⊢
      linarith
    · intro x hx
      rcases List.mem_append.1 hx with hx | hx
      · exact hp x hx
      · exact hl x (List.mem_append_left _ (List.mem_reverse.1 hx))
  | .step r :: es, b, b', E, N, hs, hr, h => by
    simp only [run] at h
    rcases hstep : b.step Scalar.exact k r with _ | ⟨b₁, e, n⟩
    · rw [hstep] at h
      cases h
    rw [hstep] at h
    obtain ⟨⟨b₂, E', N'⟩, hrun, heq⟩ := Option.map_eq_some_iff.1 h
    simp only [Prod.mk.injEq] at heq
    obtain ⟨rfl, rfl, rfl⟩ := heq
    obtain ⟨hbal₁, hs₁, he, hlen, hpos₁⟩ :=
      step_balance hk hs (hr r List.mem_cons_self) hstep
    obtain ⟨hbal₂, hs₂, hE', hpos₂⟩ := run_balance hk es b₁ b₂ E' N' hs₁
      (fun r' hr' => hlen ▸ hr r' (List.mem_cons_of_mem _ hr')) hrun
    refine ⟨?_, hs₂, by simp only [Scalar.exact_add]; linarith, fun hp hl => hpos₂ (hpos₁ hp) hl⟩
    simp only [Event.loaded, Scalar.exact_add, Nat.cast_add] at hbal₂ ⊢
    linarith

/-- In a run of the books over the reals that loads no energy below zero, from books whose
pending energies are at or above zero, the histogram ends with no more than the books' worth
and the energy loaded. -/
theorem run_deposited_le (hk : k.Physical) {es : List (Event ℝ)} {b b' : Books ℝ} {E : ℝ}
    {N : Nat} (hs : b.Sound) (hr : ∀ r ∈ Event.rounds es, r.Physical b.bins.length)
    (h : b.run Scalar.exact k es = some (b', E, N)) (hp : ∀ x ∈ b.pending, 0 ≤ x.2)
    (hl : ∀ x ∈ Event.loaded es, 0 ≤ x.2) :
    b'.deposited ≤ b.deposited + b.inSlots + b.waiting + ((Event.loaded es).map (·.2)).sum := by
  obtain ⟨hbal, hs', hE, hpos⟩ := run_balance hk es b b' E N hs hr h
  have hslots := inSlots_nonneg hs'
  have hwait := waiting_nonneg (hpos hp hl)
  have hpair : 0 ≤ k.pairMass * N := mul_nonneg hk.pairMass_nonneg (Nat.cast_nonneg N)
  linarith

end Books

/-! ## The engine's energy -/

/-- The engine keeps its energy books, and in exact arithmetic the books balance.

Over doubles, loading primaries loads them in the books, and a step with the standard actions
that succeeds from a clear arena, with models that follow the books (absorption, isotropic
scattering, pair conversion, kill), is a step of the books with the round read off the step.
Over the reals, every run of the books with a physical process balances: the worth it starts
with and the energy it loads equal the histogram's weight, the energy in the slots, the energy
pending, the energy cleanup found in reclaimed slots and `2 mₑ` per pair conversion. The
histogram then holds no more than that total when no pending or loaded energy is below
zero. -/
theorem transport_conserves_energy_exactly :
    (∀ (s s' : Stepper) (ps : List Primary) (h : Histogram), s.loadPrimaries ps = .ok s' →
      Books.view s'.state h =
        (Books.view s.state h).load (ps.map fun x => (x.particle, x.energy))) ∧
    (∀ (s s' : Stepper) (w w' : Watchers) (c : Counters),
      s.pipeline.actions = standardActions → s.state.secondaries.Clear → VacancyInv s.state →
      (∀ m ∈ s.setup.physics.models, m.keepsEnergy = true) → s.step w = (s', w', .ok c) →
      (Books.view s.state w.standard.energy.histogram).step Scalar.double (Rates.ofSetup s.setup)
          (Round.ofStep s w.standard.energy.histogram) =
        some (Books.view s'.state w'.standard.energy.histogram,
          Scalar.double.sum ((s.state.staged s.setup).slots.toList.map fun t =>
            if t.reclaimable then t.energy else 0.0),
          ((s.state.launched s.setup).slots.toList.filter
            (Slot.converted s.setup.physics)).length)) ∧
    (∀ (k : Rates ℝ) (es : List (Event ℝ)) (b b' : Books ℝ) (E : ℝ) (N : Nat),
      k.Physical → b.Sound → (∀ r ∈ Event.rounds es, r.Physical b.bins.length) →
      b.run Scalar.exact k es = some (b', E, N) →
      b.deposited + b.inSlots + b.waiting + ((Event.loaded es).map (·.2)).sum =
          b'.deposited + b'.inSlots + b'.waiting + E + k.pairMass * N ∧
        ((∀ x ∈ b.pending, 0 ≤ x.2) → (∀ x ∈ Event.loaded es, 0 ≤ x.2) →
          b'.deposited ≤ b.deposited + b.inSlots + b.waiting + ((Event.loaded es).map (·.2)).sum)) :=
  ⟨fun _ _ _ h hload => Stepper.loadPrimaries_books hload h,
    fun _ _ _ _ _ hstd hclear hinv hkeep hstep =>
      Stepper.step_books hstd hclear hinv hkeep hstep,
    fun _ es b b' E N hk hs hr hrun =>
      ⟨(Books.run_balance hk es b b' E N hs hr hrun).1,
        fun hp hl => Books.run_deposited_le hk hs hr hrun hp hl⟩⟩

/-- A track of 5 admitted into an empty slot loses 1 in a unit step and converts into a pair
with `2 mₑ = 1`, split evenly: the histogram holds 1, the pair's 3 wait on the stack, and the
conversion spends 1. -/
theorem pair_conversion_run_balances :
    let k : Rates ℝ := ⟨fun _ => 1, fun _ => 0, fun _ => 0, 1⟩
    let b₀ : Books ℝ := ⟨[⟨false, .inactive, 0, 0⟩], [], [0], 0, 0⟩
    let es : List (Event ℝ) := [.load [(0, 5)],
      .step ⟨[0], fun _ => ⟨.travel 1 false false, .pair 1 2 (1 / 2) true, .cell 0⟩⟩]
    let b' : Books ℝ := ⟨[⟨false, .inactive, 0, 0⟩], [(1, 3 / 2), (2, 3 / 2)], [1], 0, 0⟩
    k.Physical ∧ b₀.Sound ∧ (∀ r ∈ Event.rounds es, r.Physical b₀.bins.length) ∧
      b₀.run Scalar.exact k es = some (b', 0, 1) ∧
      b₀.deposited + b₀.inSlots + b₀.waiting + ((Event.loaded es).map (·.2)).sum =
        b'.deposited + b'.inSlots + b'.waiting + 0 + k.pairMass * (1 : Nat) ∧
      b'.deposited ≤ b₀.deposited + b₀.inSlots + b₀.waiting + ((Event.loaded es).map (·.2)).sum := by
  intro k b₀ es b'
  have hk : k.Physical := ⟨fun _ => zero_le_one, zero_le_one⟩
  have hs : b₀.Sound := by simp [Books.Sound, b₀, Cell.Sound]
  have hr : ∀ r ∈ Event.rounds es, r.Physical b₀.bins.length := by
    simp only [es, Event.rounds, List.mem_singleton, forall_eq]
    intro i
    refine ⟨fun step range exits h => ?_, fun e p f g h => ?_, fun j h => ?_⟩
    · cases h
      exact zero_le_one
    · cases h
      norm_num
    · cases h
      simp [b₀]
  have hrun : b₀.run Scalar.exact k es = some (b', 0, 1) := by
    simp [k, b₀, es, b', Books.run, Books.load, Books.step, Books.seat, Books.tallies, Cell.turn,
      Cell.move, Cell.draw, Cell.settle, Cell.take, Cell.begin, Cell.enter, Cell.isAlive,
      Cell.spent, Tally.fill, Tally.promoted, Tally.escaped, Bin.add, Cell.reclaim]
    norm_num
  obtain ⟨hbal, hle⟩ := transport_conserves_energy_exactly.2.2 k es b₀ b' 0 1 hk hs hr hrun
  exact ⟨hk, hs, hr, hrun, hbal, hle (by simp [b₀]) (by simp [es, Event.loaded])⟩

/-- Loading primaries of 5 and -1 into one slot with a stopping power of 1, the first is
admitted and stops at the end of its range, depositing its 5: more than the 4 loaded, while the
-1 waits on the stack. -/
theorem deposition_exceeds_loaded_energy :
    let s₀ : Stepper :=
      { setup := { (default : Setup) with
          physics := { PhysicsParams.ofModels [.absorption "absorption" Applicability.everything 0.0]
            with energyLoss := [(0, 1.0)] } },
        pipeline := ⟨standardActions⟩,
        state := ⟨#[Slot.vacant], Arena.new 4, InitBuffer.new 1 4⟩, threads := none,
        maxSteps := 10, steps := 0, disabled := false, lastLabels := ⟨[], []⟩ }
    let ps : List Primary :=
      [{ (default : Primary) with energy := 5.0, direction := ⟨1.0, 0.0, 0.0⟩ },
       { (default : Primary) with energy := -1.0, direction := ⟨1.0, 0.0, 0.0⟩, event := 1 }]
    ∃ (d : DiagnosticSet) (s₁ s₂ : Stepper) (w₂ : Watchers) (c : Counters),
      CoreState.new 1 4 4 = some s₀.state ∧ DiagnosticSet.new ⟨-10.0, 10.0, 1⟩ 1 = some d ∧
      s₀.loadPrimaries ps = .ok s₁ ∧ s₁.step ⟨d, none⟩ = (s₂, w₂, .ok c) ∧
      (ps.map (·.energy)).foldl (· + ·) 0.0 = 4.0 ∧ w₂.standard.energy.histogram.total = 5.0 := by
  intro s₀ ps
  obtain ⟨d, hd⟩ := Option.isSome_iff_exists.1
    (show (DiagnosticSet.new ⟨-10.0, 10.0, 1⟩ 1).isSome = true by decide +kernel)
  have hd' : d = (DiagnosticSet.new ⟨-10.0, 10.0, 1⟩ 1).getD default := by rw [hd]; rfl
  obtain ⟨s₁, hload⟩ := Except.exists_eq_ok_of_isOk
    (show (s₀.loadPrimaries ps).isOk = true by decide +kernel)
  have hs₁ : s₁ = (s₀.loadPrimaries ps).toOption.getD default := by rw [hload]; rfl
  obtain ⟨c, hc⟩ := Except.exists_eq_ok_of_isOk
    (show (s₁.step ⟨d, none⟩).2.2.isOk = true by rw [hs₁, hd']; decide +kernel)
  have htotal : (s₁.step ⟨d, none⟩).2.1.standard.energy.histogram.total = 5.0 := by
    rw [hs₁, hd']
    decide +kernel
  exact ⟨d, s₁, _, _, c, rfl, hd, hload, Stepper.step_eq_of_result hc,
    by decide +kernel, htotal⟩

end Transport
