import Mathlib
import Transport.Engine.Input
import Transport.Proofs.Arithmetic
/-!
# Binning a histogram

`Histogram.bin` estimates the bin of `x` from its fraction of the range, clamps the estimate
to the last bin (`Histogram.estimate`), and moves it by one where `x` lies below the
estimated bin's lower edge or at or above its upper edge. `Histogram.fill` adds a weight to
that bin, or to the underflow when `x` lies below the first edge, or to the overflow
otherwise.

* `rank_le_iff`, `rank_lt_iff`: off NaN, the order of doubles is the lexicographic order of
  their class (minus infinity, negative, zero, positive, plus infinity), exponent and
  mantissa, so `Float.le_trans` and its strict forms come from the order of `ℤ ×ₗ ℤ ×ₗ ℤ`.
* `Histogram.bin_eq_none_iff`: `bin` finds no bin exactly for NaN and for values outside
  `[edges[0], edges[n])`; `Histogram.bin_lt`: the bin it finds is one of the `n`.
* `Histogram.bin_eq_of_holds`: with the edges in order, a bin that holds `x` and lies within
  one of the estimate is the bin found. The code corrects the estimate by one bin only:
  where rounding puts it two bins away, as when neighbouring edges round to the same double,
  the bin found does not hold `x`.
* `Histogram.fill_cells`: a fill adds its weight to exactly one of the bins, the underflow
  and the overflow (`Histogram.cellOf`), and changes nothing else.
-/
namespace Transport

/-! ## The order of doubles as a lexicographic order -/

/-- The place of an unpacked double in the order of doubles: its class (minus infinity,
negative, zero, positive, plus infinity), then its exponent and mantissa, negated below
zero. Both zeros share one place; a NaN has none and is sent anywhere. -/
def rank : Float.Model.UnpackedFloat → ℤ ×ₗ ℤ ×ₗ ℤ
  | .infinity .negative => toLex (0, toLex (0, 0))
  | .finite .negative m e _ => toLex (1, toLex (-e, -(m : ℤ)))
  | .zero _ => toLex (2, toLex (0, 0))
  | .finite .positive m e _ => toLex (3, toLex (e, (m : ℤ)))
  | .infinity .positive => toLex (4, toLex (0, 0))
  | .notANumber => toLex (0, toLex (0, 0))

theorem rank_le_iff {a b : Float.Model.UnpackedFloat} (ha : a ≠ .notANumber)
    (hb : b ≠ .notANumber) : (a.compare b).any (·.isLE) = true ↔ rank a ≤ rank b := by
  rcases a with ⟨_ | _⟩ | _ | ⟨_ | _⟩ | ⟨_ | _, m₁, e₁, h₁⟩ <;>
  rcases b with ⟨_ | _⟩ | _ | ⟨_ | _⟩ | ⟨_ | _, m₂, e₂, h₂⟩ <;>
  simp_all [Float.Model.UnpackedFloat.compare, rank, Prod.Lex.toLex_le_toLex,
    Ordering.isGE_iff_ne_lt, Ordering.then_eq_lt,
    Ordering.isLE_iff_ne_gt, Ordering.then_eq_gt, compare_lt_iff_lt, compare_gt_iff_gt] <;>
  first | decide | omega

theorem rank_lt_iff {a b : Float.Model.UnpackedFloat} (ha : a ≠ .notANumber)
    (hb : b ≠ .notANumber) : a.compare b = some .lt ↔ rank a < rank b := by
  rcases a with ⟨_ | _⟩ | _ | ⟨_ | _⟩ | ⟨_ | _, m₁, e₁, h₁⟩ <;>
  rcases b with ⟨_ | _⟩ | _ | ⟨_ | _⟩ | ⟨_ | _, m₂, e₂, h₂⟩ <;>
  simp_all [Float.Model.UnpackedFloat.compare, rank, Prod.Lex.toLex_lt_toLex,
    Ordering.then_eq_lt, Ordering.swap_eq_lt, Ordering.then_eq_gt, compare_lt_iff_lt,
    compare_gt_iff_gt]
  all_goals decide

theorem Float.isNaN_of_lt {a b : Float} (h : a < b) : a.isNaN = false ∧ b.isNaN = false :=
  Float.isNaN_of_le (Float.le_of_lt h)

theorem Float.le_iff_rank {a b : Float} :
    a ≤ b ↔ a.isNaN = false ∧ b.isNaN = false ∧
      rank a.toModel.unpack ≤ rank b.toModel.unpack := by
  constructor
  · intro h
    obtain ⟨ha, hb⟩ := Float.isNaN_of_le h
    exact ⟨ha, hb, (rank_le_iff (Float.unpack_ne_nan ha) (Float.unpack_ne_nan hb)).1
      (Float.le_iff_compare.1 h)⟩
  · rintro ⟨ha, hb, h⟩
    exact Float.le_iff_compare.2
      ((rank_le_iff (Float.unpack_ne_nan ha) (Float.unpack_ne_nan hb)).2 h)

theorem Float.lt_iff_rank {a b : Float} :
    a < b ↔ a.isNaN = false ∧ b.isNaN = false ∧
      rank a.toModel.unpack < rank b.toModel.unpack := by
  constructor
  · intro h
    obtain ⟨ha, hb⟩ := Float.isNaN_of_lt h
    exact ⟨ha, hb, (rank_lt_iff (Float.unpack_ne_nan ha) (Float.unpack_ne_nan hb)).1
      (Float.lt_iff_compare.1 h)⟩
  · rintro ⟨ha, hb, h⟩
    exact Float.lt_iff_compare.2
      ((rank_lt_iff (Float.unpack_ne_nan ha) (Float.unpack_ne_nan hb)).2 h)

theorem Float.le_trans {a b c : Float} (hab : a ≤ b) (hbc : b ≤ c) : a ≤ c := by
  rw [Float.le_iff_rank] at hab hbc ⊢
  exact ⟨hab.1, hbc.2.1, hab.2.2.trans hbc.2.2⟩

theorem Float.lt_of_lt_of_le {a b c : Float} (hab : a < b) (hbc : b ≤ c) : a < c := by
  rw [Float.lt_iff_rank] at hab ⊢
  rw [Float.le_iff_rank] at hbc
  exact ⟨hab.1, hbc.2.1, hab.2.2.trans_le hbc.2.2⟩

theorem Float.lt_of_le_of_lt {a b c : Float} (hab : a ≤ b) (hbc : b < c) : a < c := by
  rw [Float.le_iff_rank] at hab
  rw [Float.lt_iff_rank] at hbc ⊢
  exact ⟨hab.1, hbc.2.1, hab.2.2.trans_lt hbc.2.2⟩

theorem Float.not_le_of_isNaN {a b : Float} (h : a.isNaN = true ∨ b.isNaN = true) :
    ¬ a ≤ b := by
  intro hab
  obtain ⟨ha, hb⟩ := Float.isNaN_of_le hab
  rcases h with h | h
  · exact Bool.false_ne_true (ha.symm.trans h)
  · exact Bool.false_ne_true (hb.symm.trans h)

theorem Float.not_lt_of_isNaN {a b : Float} (h : a.isNaN = true ∨ b.isNaN = true) :
    ¬ a < b := fun hab =>
  Float.not_le_of_isNaN h (Float.le_of_lt hab)

theorem Float.not_lt_of_le {a b : Float} (h : a ≤ b) : ¬ b < a := fun h' =>
  Float.lt_irrefl a (Float.lt_of_le_of_lt h h')

/-! ## Lists with one entry changed -/

theorem List.modify_append_of_lt {α : Type} (f : α → α) :
    ∀ (l r : List α) (i : Nat), i < l.length → (l ++ r).modify i f = l.modify i f ++ r
  | _ :: _, _, 0, _ => by simp
  | _ :: l, r, i + 1, h => by
    simp [List.modify_append_of_lt f l r i (by simpa using h)]

theorem List.modify_length_append {α : Type} (f : α → α) :
    ∀ (l r : List α) (j : Nat), (l ++ r).modify (l.length + j) f = l ++ r.modify j f
  | [], _, _ => by simp
  | _ :: l, r, j => by
    rw [List.length_cons, Nat.add_right_comm, List.cons_append, List.modify_succ_cons,
      List.modify_length_append f l r j, List.cons_append]

namespace Histogram

variable (h : Histogram) (x : Float)

def lowerEdge : Float := h.edges.getD 0 0.0

def upperEdge : Float := h.edges.getD h.numBins 0.0

/-- The bin `bin` first estimates for `x`: its fraction of the range times the number of
bins, truncated, and clamped to the last bin. -/
def estimate : Nat :=
  min (toIndex ((x - h.lowerEdge) / (h.upperEdge - h.lowerEdge) * h.numBins.toFloat))
    (h.numBins - 1)

/-- Bin `i` holds `x`: `edges[i] ≤ x < edges[i + 1]`. -/
def Holds (i : Nat) : Prop := h.edges.getD i 0.0 ≤ x ∧ x < h.edges.getD (i + 1) 0.0

instance (i : Nat) : Decidable (h.Holds x i) := by
  unfold Holds
  infer_instance

/-- Each edge is at most the next. -/
def EdgesOrdered : Prop := ∀ i < h.numBins, h.edges.getD i 0.0 ≤ h.edges.getD (i + 1) 0.0

instance : Decidable h.EdgesOrdered := by
  unfold EdgesOrdered
  infer_instance

/-- The cells of a histogram: its bins, then the underflow and the overflow. -/
def cells : List Float := h.values.toList ++ [h.underflow, h.overflow]

/-- The cell a fill at `x` adds to: the bin of `x`, else the underflow below the first
edge, else the overflow. -/
def cellOf : Nat :=
  (h.bin x).getD (if x < h.lowerEdge then h.numBins else h.numBins + 1)

/-! ## The shape of a new histogram -/

theorem new_shape {s : HistogramSpec} {h : Histogram} (hbins : 0 < s.bins)
    (hnew : Histogram.new s = some h) : h.numBins = s.bins ∧ h.upperEdge = s.upper := by
  unfold Histogram.new at hnew
  dsimp only at hnew
  split at hnew
  · cases hnew
    have hmax : max s.bins 1 = s.bins := Nat.max_eq_left hbins
    simp only [numBins, upperEdge, Array.size_replicate, hmax, Array.getD_eq_getD_getElem?,
      List.getElem?_toArray, true_and]
    rw [List.getElem?_append_right (by simp)]
    simp
  · cases hnew

/-! ## Finding the bin -/

theorem bin_of_not_mem (hout : ¬ (h.lowerEdge ≤ x ∧ x < h.upperEdge)) : h.bin x = none := by
  unfold bin
  by_cases hlo : h.lowerEdge ≤ x
  · have hhi : ¬ x < h.upperEdge := fun hhi => hout ⟨hlo, hhi⟩
    simp only [lowerEdge, upperEdge] at hlo hhi
    simp only [hlo, hhi, decide_true, decide_false, Bool.and_false, Bool.not_false, if_true]
  · simp only [lowerEdge] at hlo
    simp only [hlo, decide_false, Bool.false_and, Bool.not_false, if_true]

theorem bin_of_mem (hlo : h.lowerEdge ≤ x) (hhi : x < h.upperEdge) :
    h.bin x = if x < h.edges.getD (h.estimate x) 0.0 then some (h.estimate x - 1)
      else if x ≥ h.edges.getD (h.estimate x + 1) 0.0 then some (h.estimate x + 1)
      else some (h.estimate x) := by
  unfold bin
  simp only [lowerEdge, upperEdge] at hlo hhi
  simp only [hlo, hhi, decide_true, Bool.and_self, Bool.not_true, Bool.false_eq_true, if_false]
  rfl

theorem estimate_le : h.estimate x ≤ h.numBins - 1 := Nat.min_le_right _ _

theorem bin_eq_none_iff :
    h.bin x = none ↔ x.isNaN ∨ ¬ (h.lowerEdge ≤ x ∧ x < h.upperEdge) := by
  constructor
  · intro hb
    refine .inr fun hin => ?_
    rw [h.bin_of_mem x hin.1 hin.2] at hb
    split at hb
    · cases hb
    · split at hb <;> cases hb
  · rintro (hnan | hout)
    · exact h.bin_of_not_mem x fun hin => Float.not_le_of_isNaN (.inr hnan) hin.1
    · exact h.bin_of_not_mem x hout

theorem mem_of_bin_eq_some {i : Nat} (hb : h.bin x = some i) :
    h.lowerEdge ≤ x ∧ x < h.upperEdge := by
  by_contra hout
  rw [(h.bin_eq_none_iff x).2 (.inr hout)] at hb
  cases hb

theorem bin_lt {i : Nat} (hb : h.bin x = some i) : i < h.numBins := by
  have hin := h.mem_of_bin_eq_some x hb
  -- a non-empty range needs a bin: with none the range is `[edges[0], edges[0])`
  have hpos : 0 < h.numBins := by
    rcases Nat.eq_zero_or_pos h.numBins with h0 | h0
    · have hlt := Float.lt_of_le_of_lt hin.1 hin.2
      simp only [lowerEdge, upperEdge, h0] at hlt
      exact absurd hlt (Float.lt_irrefl _)
    · exact h0
  rw [h.bin_of_mem x hin.1 hin.2] at hb
  have he := h.estimate_le x
  split at hb
  · cases hb
    omega
  · split at hb
    · -- an estimate in the last bin has the upper bound as its upper edge, which `x` is below
      rename_i hup
      have hlast : h.estimate x + 1 ≠ h.numBins := by
        intro heq
        rw [heq] at hup
        exact Float.not_lt_of_le hup hin.2
      cases hb
      omega
    · cases hb
      omega

section Ordered

variable {h}

theorem EdgesOrdered.le (hord : h.EdgesOrdered) (hpos : 0 < h.numBins) {i : Nat} :
    ∀ {j : Nat}, i ≤ j → j ≤ h.numBins → h.edges.getD i 0.0 ≤ h.edges.getD j 0.0
  | j, hij, hj => by
    rcases Nat.eq_or_lt_of_le hij with rfl | hlt
    · -- an edge is not NaN, as one side of an ordered pair
      rcases Nat.lt_or_ge i h.numBins with hi | hi
      · exact Float.le_refl_of_not_isNaN (Float.isNaN_of_le (hord i hi)).1
      · have hlast := hord (h.numBins - 1) (by omega)
        rw [Nat.sub_add_cancel hpos] at hlast
        rw [Nat.le_antisymm hj hi]
        exact Float.le_refl_of_not_isNaN (Float.isNaN_of_le hlast).2
    · obtain ⟨k, rfl⟩ : ∃ k, j = k + 1 := ⟨j - 1, by omega⟩
      exact Float.le_trans (hord.le hpos (j := k) (by omega) (by omega)) (hord k (by omega))

theorem mem_of_holds (hord : h.EdgesOrdered) {j : Nat} (hj : j < h.numBins)
    (hx : h.Holds x j) : h.lowerEdge ≤ x ∧ x < h.upperEdge :=
  ⟨Float.le_trans (hord.le (by omega) (Nat.zero_le j) (by omega)) hx.1,
    Float.lt_of_lt_of_le hx.2 (hord.le (by omega) hj (Nat.le_refl _))⟩

theorem bin_eq_of_holds (hord : h.EdgesOrdered) {j : Nat} (hj : j < h.numBins)
    (hx : h.Holds x j) (hnear : h.estimate x ≤ j + 1 ∧ j ≤ h.estimate x + 1) :
    h.bin x = some j := by
  have hin := mem_of_holds x hord hj hx
  rw [h.bin_of_mem x hin.1 hin.2]
  have hnot_ge : ¬ x ≥ h.edges.getD (j + 1) 0.0 := fun hge => Float.not_lt_of_le hge hx.2
  rcases (by omega : j + 1 = h.estimate x ∨ j = h.estimate x ∨ j = h.estimate x + 1)
    with hbelow | rfl | habove
  · -- the estimate is one too high; `x` lies below its lower edge
    rw [← hbelow, if_pos hx.2, Nat.add_sub_cancel]
  · rw [if_neg (Float.not_lt_of_le hx.1), if_neg hnot_ge]
  · -- the estimate is one too low; its lower edge is at most the one holding `x`
    have hlow : h.edges.getD (h.estimate x) 0.0 ≤ x :=
      Float.le_trans (hord (h.estimate x) (by omega)) (habove ▸ hx.1)
    rw [if_neg (Float.not_lt_of_le hlow), ← habove, if_pos hx.1]

end Ordered

/-! ## Filling -/

variable (w : Float)

theorem fill_edges : (h.fill x w).edges = h.edges := by
  unfold fill
  split
  · rfl
  · split <;> rfl

theorem cellOf_of_bin {i : Nat} (hb : h.bin x = some i) : h.cellOf x = i := by
  simp [cellOf, hb]

theorem cellOf_lt : h.cellOf x < h.numBins + 2 := by
  unfold cellOf
  cases hb : h.bin x with
  | some i => exact Nat.lt_add_right 2 (h.bin_lt x hb)
  | none =>
    simp only [Option.getD_none]
    split <;> omega

theorem fill_cells : (h.fill x w).cells = h.cells.modify (h.cellOf x) (· + w) := by
  have hlen : h.values.toList.length = h.numBins := Array.length_toList
  unfold fill cellOf cells
  cases hb : h.bin x with
  | some i =>
    simp only [Option.getD_some, Array.toList_modify]
    rw [List.modify_append_of_lt _ _ _ _ (hlen ▸ h.bin_lt x hb)]
  | none =>
    simp only [Option.getD_none, lowerEdge]
    by_cases hlt : x < h.edges.getD 0 0.0
    · simp only [hlt, if_true]
      rw [← hlen, ← Nat.add_zero h.values.toList.length, List.modify_length_append]
      rfl
    · simp only [hlt, if_false]
      rw [← hlen, List.modify_length_append]
      rfl

theorem cellOf_eq_bin_iff {i : Nat} (hi : i < h.numBins) : h.cellOf x = i ↔ h.bin x = some i := by
  unfold cellOf
  cases hb : h.bin x with
  | some k => simp
  | none =>
    simp only [Option.getD_none, reduceCtorEq, iff_false]
    split <;> omega

theorem cellOf_of_bin_none (hb : h.bin x = none) :
    h.cellOf x = if x < h.lowerEdge then h.numBins else h.numBins + 1 := by
  simp [cellOf, hb]

theorem cellOf_eq_underflow_iff : h.cellOf x = h.numBins ↔ x < h.lowerEdge := by
  cases hb : h.bin x with
  | some i =>
    rw [h.cellOf_of_bin x hb]
    have hi := h.bin_lt x hb
    have hnlt : ¬ x < h.lowerEdge := Float.not_lt_of_le (h.mem_of_bin_eq_some x hb).1
    simp only [hnlt, iff_false]
    omega
  | none =>
    rw [h.cellOf_of_bin_none x hb]
    by_cases hlt : x < h.lowerEdge <;> simp [hlt]

theorem cellOf_eq_overflow_iff_bin :
    h.cellOf x = h.numBins + 1 ↔ h.bin x = none ∧ ¬ x < h.lowerEdge := by
  cases hb : h.bin x with
  | some i =>
    rw [h.cellOf_of_bin x hb]
    have hi := h.bin_lt x hb
    simp only [reduceCtorEq, false_and, iff_false]
    omega
  | none =>
    rw [h.cellOf_of_bin_none x hb]
    by_cases hlt : x < h.lowerEdge <;> simp [hlt]

theorem cellOf_eq_overflow_iff (hord : h.EdgesOrdered) (hpos : 0 < h.numBins) :
    h.cellOf x = h.numBins + 1 ↔ x.isNaN ∨ h.upperEdge ≤ x := by
  have hlo_le_up : h.lowerEdge ≤ h.upperEdge := hord.le hpos (Nat.zero_le _) (Nat.le_refl _)
  obtain ⟨hlo, hup⟩ := Float.isNaN_of_le hlo_le_up
  rw [cellOf_eq_overflow_iff_bin]
  constructor
  · rintro ⟨hb, hnlt⟩
    rcases (h.bin_eq_none_iff x).1 hb with hnan | hout
    · exact .inl hnan
    · -- not below the range and not in it: at or above its end
      cases hx : x.isNaN
      · exact .inr (Float.le_of_not_lt hx hup fun hxu =>
          hout ⟨Float.le_of_not_lt hx hlo hnlt, hxu⟩)
      · exact .inl rfl
  · rintro (hnan | hge)
    · -- a NaN is in no range and below nothing
      exact ⟨h.bin_of_not_mem x fun hin => Float.not_le_of_isNaN (.inr hnan) hin.1,
        Float.not_lt_of_isNaN (.inl hnan)⟩
    · exact ⟨h.bin_of_not_mem x fun hin => Float.not_lt_of_le hge hin.2,
        Float.not_lt_of_le (Float.le_trans hlo_le_up hge)⟩

/-! ## A histogram of a valid binning -/

/-- For a histogram built from a binning that passes validation, and any `x` and weight:
it has the binning's bins and its upper bound as last edge; `bin` finds no bin exactly for
NaN and values outside `[edges[0], edges[n])`, and otherwise one of the bins; with the edges
in order, a bin that holds `x` within one of the estimate is the bin found; a fill keeps the
edges and adds its weight to exactly one cell, which is the bin found, else the underflow
exactly below the first edge, else the overflow, exactly for NaN and values at or above the
last edge when the edges are in order. -/
theorem bin_corrects_by_one_and_fill_adds_to_one_cell {name : String} {s : HistogramSpec}
    {h : Histogram} (hvalid : RunInput.checkHistogram name s = .ok ())
    (hnew : Histogram.new s = some h) (x w : Float) :
    h.numBins = s.bins ∧ h.upperEdge = s.upper ∧
    (h.bin x = none ↔ x.isNaN ∨ ¬ (h.lowerEdge ≤ x ∧ x < h.upperEdge)) ∧
    (∀ i, h.bin x = some i → i < h.numBins) ∧
    (h.EdgesOrdered → ∀ j < h.numBins, h.Holds x j →
      h.estimate x ≤ j + 1 → j ≤ h.estimate x + 1 → h.bin x = some j) ∧
    (h.fill x w).edges = h.edges ∧ h.cellOf x < h.numBins + 2 ∧
    (h.fill x w).cells = h.cells.modify (h.cellOf x) (· + w) ∧
    (∀ i < h.numBins, h.cellOf x = i ↔ h.bin x = some i) ∧
    (h.cellOf x = h.numBins ↔ x < h.lowerEdge) ∧
    (h.EdgesOrdered → (h.cellOf x = h.numBins + 1 ↔ x.isNaN ∨ h.upperEdge ≤ x)) := by
  have hbins : 0 < s.bins := by
    unfold RunInput.checkHistogram at hvalid
    split at hvalid
    · cases hvalid
    · omega
  obtain ⟨hnum, hup⟩ := new_shape hbins hnew
  exact ⟨hnum, hup, h.bin_eq_none_iff x, fun i => h.bin_lt x,
    fun hord j hj hx hlo hhi => bin_eq_of_holds x hord hj hx ⟨hlo, hhi⟩, h.fill_edges x w,
    h.cellOf_lt x, h.fill_cells x w, fun i hi => h.cellOf_eq_bin_iff x hi,
    h.cellOf_eq_underflow_iff x, fun hord => h.cellOf_eq_overflow_iff x hord (hnum ▸ hbins)⟩

/-- Ten bins over `[2^53, 2^53 + 2]`: the doubles there are two apart, so the first six
edges round to `2^53` and the other five to `2^53 + 2`. -/
def narrowSpec : HistogramSpec := ⟨9007199254740992.0, 9007199254740994.0, 10⟩

def narrowHistogram : Histogram := (Histogram.new narrowSpec).getD default

/-- At `x = 2^53` the estimate is bin 0 while bin 5 holds `x`: the edges are in order, the
one-step correction reaches bin 1, and the fill adds to bin 1. -/
theorem narrow_range_bin_two_off :
    Histogram.new narrowSpec = some narrowHistogram ∧ narrowHistogram.EdgesOrdered ∧
      narrowHistogram.Holds 9007199254740992.0 5 ∧
      narrowHistogram.estimate 9007199254740992.0 = 0 ∧
      narrowHistogram.bin 9007199254740992.0 = some 1 ∧
      ¬ narrowHistogram.Holds 9007199254740992.0 1 ∧
      (narrowHistogram.fill 9007199254740992.0 1.0).cells =
        narrowHistogram.cells.modify 1 (· + 1.0) := by
  have hnew : Histogram.new narrowSpec = some narrowHistogram := rfl
  obtain ⟨-, -, -, -, -, -, -, hfill, hcell, -, -⟩ :=
    bin_corrects_by_one_and_fill_adds_to_one_cell
      (show RunInput.checkHistogram "energy_histogram" narrowSpec = .ok () from rfl) hnew
      9007199254740992.0 1.0
  have hbin : narrowHistogram.bin 9007199254740992.0 = some 1 := by decide +kernel
  refine ⟨hnew, by decide +kernel, by decide +kernel, by decide +kernel, hbin, by decide +kernel, ?_⟩
  rw [hfill, (hcell 1 (by decide +kernel)).2 hbin]

end Histogram

end Transport
