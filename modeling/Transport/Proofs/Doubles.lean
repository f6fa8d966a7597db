import Mathlib
import Transport.Numeric
/-!
# The order of doubles

The physics compares doubles against zero and against the bounds of a model's range, and
these comparisons decide which branch a track takes. A double is read through its
unpacked form (`Float.Model.UnpackedFloat`): `<`, `≤` and `==` are `compare` on it, and a
comparison that holds rules out `NaN`.

* `Float.zero_lt_iff`, `Float.le_zero_iff`, `Float.lt_zero_iff`: where a double lies
  against zero, by its unpacked form.
* `maxNum_zero_cases`: clamping at zero gives `0.0` or a positive double, never `-0.0`.
* `sumFrom_zeros_not_pos`: a sum of zeros is not positive.
* `Float.sub_not_lt_zero`: the difference of two doubles in order is not below zero.
  Subtraction brings both mantissas to the smaller exponent and rounds their difference
  with its sign; a finite double as unpacked is normal past the least exponent
  (`unpack_finite_bounds`), so the exponent-then-mantissa order of `compare` is the order
  of the aligned mantissas (`aligned_le`); and packing keeps the sign (`sign_of_isBelowZero`).
-/
namespace Transport

open Float.Model.UnpackedFloat
open Float.Model (Format)

/-! ## Comparisons through the unpacked form -/

theorem Float.lt_iff_compare {a b : Float} :
    a < b ↔ a.toModel.unpack.compare b.toModel.unpack = some .lt := by
  show a.lt b = true ↔ _
  simp [Float.lt, LT.lt, Float.Model.lt, Float.Model.UnpackedFloat.lt]

theorem Float.le_iff_compare {a b : Float} :
    a ≤ b ↔ (a.toModel.unpack.compare b.toModel.unpack).any (·.isLE) = true := by
  show a.le b = true ↔ _
  simp only [Float.le, LE.le, Float.Model.le, Float.Model.UnpackedFloat.le]
  exact decide_eq_true_iff

theorem Float.beq_iff_compare {a b : Float} :
    (a == b) = true ↔ a.toModel.unpack.compare b.toModel.unpack = some .eq := by
  show a.beq b = true ↔ _
  simp only [Float.beq, BEq.beq, Float.Model.beq, Float.Model.UnpackedFloat.beq]
  cases a.toModel.unpack.compare b.toModel.unpack with
  | none => decide
  | some o => cases o <;> decide

theorem Float.isNaN_iff {a : Float} : a.isNaN = true ↔ a.toModel.unpack = .notANumber := by
  simp only [Float.isNaN, Float.Model.isNaN]
  cases a.toModel.unpack <;> simp [Float.Model.UnpackedFloat.isNaN]

theorem Float.eq_of_toBits_eq {a b : Float} (h : a.toBits = b.toBits) : a = b := by
  obtain ⟨⟨ba, va⟩⟩ := a
  obtain ⟨⟨bb, vb⟩⟩ := b
  simp only [Float.toBits] at h
  subst h
  rfl

theorem Float.unpack_zero : (0.0 : Float).toModel.unpack = .zero .positive := rfl

/-- An unpacked double below zero: negative and finite, or minus infinity. -/
def isBelowZero : Float.Model.UnpackedFloat → Bool
  | .finite .negative .. => true
  | .infinity .negative => true
  | _ => false

/-! ## Against zero -/

/-- A double above zero is positive, finite or infinite. -/
theorem Float.zero_lt_iff {x : Float} :
    0.0 < x ↔ (∃ m e h, x.toModel.unpack = .finite .positive m e h) ∨
      x.toModel.unpack = .infinity .positive := by
  rw [Float.lt_iff_compare, Float.unpack_zero]
  cases x.toModel.unpack with
  | notANumber => simp [Float.Model.UnpackedFloat.compare]
  | infinity s => cases s <;> simp [Float.Model.UnpackedFloat.compare]
  | zero s => simp [Float.Model.UnpackedFloat.compare]
  | finite s m e h => cases s <;> simp [Float.Model.UnpackedFloat.compare, h]

/-- A double at most zero is a zero, negative or minus infinity. -/
theorem Float.le_zero_iff {x : Float} :
    x ≤ 0.0 ↔ (∃ s, x.toModel.unpack = .zero s) ∨ isBelowZero x.toModel.unpack = true := by
  rw [Float.le_iff_compare, Float.unpack_zero]
  cases x.toModel.unpack with
  | notANumber => simp [Float.Model.UnpackedFloat.compare, isBelowZero]
  | infinity s => cases s <;> simp [Float.Model.UnpackedFloat.compare, isBelowZero]
  | zero s => simp [Float.Model.UnpackedFloat.compare]
  | finite s m e h => cases s <;> simp [Float.Model.UnpackedFloat.compare, isBelowZero]

theorem Float.lt_zero_iff {x : Float} : x < 0.0 ↔ isBelowZero x.toModel.unpack = true := by
  rw [Float.lt_iff_compare, Float.unpack_zero]
  cases x.toModel.unpack with
  | notANumber => simp [Float.Model.UnpackedFloat.compare, isBelowZero]
  | infinity s => cases s <;> simp [Float.Model.UnpackedFloat.compare, isBelowZero]
  | zero s => simp [Float.Model.UnpackedFloat.compare, isBelowZero]
  | finite s m e h => cases s <;> simp [Float.Model.UnpackedFloat.compare, isBelowZero]

theorem Float.zero_lt_of_not_le {x : Float} (hnan : x.isNaN = false) (h : ¬ x ≤ 0.0) :
    0.0 < x := by
  rw [Float.le_zero_iff] at h
  rw [Float.zero_lt_iff]
  have hnan' : x.toModel.unpack ≠ .notANumber := fun h' => by
    rw [← Float.isNaN_iff, hnan] at h'
    cases h'
  cases hx : x.toModel.unpack with
  | notANumber => exact absurd hx hnan'
  | infinity s => cases s <;> simp_all [isBelowZero]
  | zero s => simp_all
  | finite s m e hm => cases s <;> simp_all [isBelowZero]

theorem Float.not_le_zero_of_lt {x : Float} (h : 0.0 < x) : ¬ x ≤ 0.0 := by
  rw [Float.zero_lt_iff] at h
  rw [Float.le_zero_iff]
  rcases h with ⟨m, e, hm, hx⟩ | hx <;> simp [hx, isBelowZero]

theorem Float.unpack_zero_of_le_of_not_lt {x : Float} (h : x ≤ 0.0) (h' : ¬ x < 0.0) :
    ∃ s, x.toModel.unpack = .zero s := by
  rw [Float.le_zero_iff] at h
  rw [Float.lt_zero_iff] at h'
  exact h.resolve_right h'

/-- Of the two zeros, `maxNum` against zero gives `0.0`; against any other double it gives
`0.0` or a positive double. -/
theorem maxNum_zero_cases (x : Float) : maxNum x 0.0 = 0.0 ∨ 0.0 < maxNum x 0.0 := by
  unfold maxNum
  split
  · exact .inl rfl
  rename_i hnan
  split
  · exact .inl rfl
  rename_i hkeep
  simp only [Bool.or_eq_true, decide_eq_true_eq, Bool.and_eq_true, not_or, not_and] at hkeep
  obtain ⟨hnlt, hnz⟩ := hkeep
  by_cases hle : x ≤ 0.0
  · -- a zero that is not `-0.0` has the bits of `0.0`
    left
    obtain ⟨s, hs⟩ := Float.unpack_zero_of_le_of_not_lt hle hnlt
    have hbeq : ((0.0 : Float) == x) = true := by
      rw [Float.beq_iff_compare, Float.unpack_zero, hs]
      rfl
    have hneg : isNegZero x = false := by simpa using hnz hbeq
    have hbeq' : (x == 0.0) = true := by
      rw [Float.beq_iff_compare, Float.unpack_zero, hs]
      rfl
    simp only [isNegZero, hbeq', Bool.true_and, bne_eq_false_iff_eq] at hneg
    exact Float.eq_of_toBits_eq hneg
  · exact .inr (Float.zero_lt_of_not_le (by simpa using hnan) hle)

/-- A sum of zeros, of either sign, is not positive. -/
theorem sumFrom_zeros_not_pos {xs : List Float} (h : ∀ x ∈ xs, x = 0.0) :
    ¬ (sumFrom xs > 0.0) := by
  have hzero : ∀ (ys : List Float) (acc : Float), (∀ y ∈ ys, y = 0.0) →
      acc = -0.0 ∨ acc = 0.0 → ys.foldl (· + ·) acc = -0.0 ∨ ys.foldl (· + ·) acc = 0.0 := by
    intro ys
    induction ys with
    | nil => exact fun _ _ hacc => hacc
    | cons y ys ih =>
      intro acc hys hacc
      rw [List.foldl_cons, hys y (List.mem_cons_self ..)]
      refine ih _ (fun z hz => hys z (List.mem_cons_of_mem _ hz)) (.inr ?_)
      rcases hacc with rfl | rfl <;> rfl
  rcases hzero xs (-0.0) h (.inl rfl) with hs | hs <;> rw [sumFrom, hs] <;> decide

/-! ## Subtraction keeps the sign of the difference -/

theorem unpackSign_packComponents {sign : Sign} {ev : BitVec 11} {mv : BitVec 52} :
    Sign.ofBitVec (unpackSign (packComponents .binary64 sign ev mv)) = sign := by
  simp only [unpackSign, packComponents, BitVec.extractLsb]
  rw [BitVec.extractLsb'_append_eq_of_le (by omega), BitVec.extractLsb'_append_eq_of_le (by omega)]
  cases sign <;> rfl

/-- Only a sign bit of one unpacks below zero. -/
theorem sign_of_isBelowZero {b : BitVec Format.binary64.numBits}
    (h : isBelowZero (unpack .binary64 b) = true) : Sign.ofBitVec (unpackSign b) = .negative := by
  unfold unpack at h
  dsimp only at h
  generalize Sign.ofBitVec (unpackSign b) = s at h ⊢
  split at h
  · split at h
    · cases s with
      | positive => cases h
      | negative => rfl
    · cases h
  · split at h
    · split at h
      · cases h
      · cases s with
        | positive => cases h
        | negative => rfl
    · cases s with
      | positive => cases h
      | negative => rfl

theorem pack_finite_sign (s : Sign) (m : Nat) (e : Int) (hm : 0 < m) :
    Sign.ofBitVec (unpackSign (pack .binary64 (.finite s m e hm))) = s := by
  unfold pack
  dsimp only
  split
  · exact unpackSign_packComponents
  · split <;> exact unpackSign_packComponents

theorem isBelowZero_unpack_pack {x : Float.Model.UnpackedFloat} (hx : isBelowZero x = false) :
    isBelowZero (unpack .binary64 (pack .binary64 x)) = false := by
  cases x with
  | notANumber => rfl
  | infinity s =>
    cases s with
    | positive => rfl
    | negative => cases hx
  | zero s => cases s <;> rfl
  | finite s m e hm =>
    cases s with
    | negative => cases hx
    | positive =>
      rw [Bool.eq_false_iff]
      intro hb
      have := sign_of_isBelowZero hb
      rw [pack_finite_sign] at this
      cases this

theorem isBelowZero_roundWithAccuracy (spec : Format) (m : Nat) (e : Int) (acc : Accuracy) :
    isBelowZero (roundWithAccuracy spec .positive m e acc) = false := by
  unfold roundWithAccuracy
  dsimp only
  split <;> rfl

theorem isBelowZero_normalize (spec : Format) {M : Int} (hM : 0 ≤ M) (e : Int) :
    isBelowZero (Float.Model.UnpackedFloat.normalize spec M e .positive) = false := by
  unfold Float.Model.UnpackedFloat.normalize
  split
  · rename_i hlt
    rw [Int.compare_eq_lt] at hlt
    omega
  · rfl
  · exact isBelowZero_roundWithAccuracy _ _ _ _

/-- The mantissa and exponent of a finite double as it is unpacked: below `2^53`, at or
above the least exponent, and normal, at or above `2^52`, past it. -/
theorem unpack_finite_bounds {b : BitVec Format.binary64.numBits} {s : Sign} {m : Nat} {e : Int}
    {hm : 0 < m} (h : unpack .binary64 b = .finite s m e hm) :
    m < 2 ^ 53 ∧ -1074 ≤ e ∧ (-1074 < e → 2 ^ 52 ≤ m) := by
  have hmlt : (unpackMantissa b).toNat < 2 ^ 52 := (unpackMantissa b).isLt
  have hexp : (unpackExponent b).toNat < 2 ^ 11 := (unpackExponent b).isLt
  have hbias : ((Format.binary64.exponentBias : Nat) : Int) = 1023 := rfl
  unfold unpack at h
  dsimp only at h
  split at h
  · split at h <;> cases h
  · split at h
    · rename_i hzero
      split at h
      · cases h
      · -- subnormal: the least exponent
        cases h
        have h0 : (unpackExponent b).toNat = 0 := by
          rw [hzero]
          rfl
        rw [hbias, h0]
        omega
    · rename_i hnz
      cases h
      have hne : (unpackExponent b).toNat ≠ 0 :=
        fun h0 => hnz (BitVec.eq_of_toNat_eq (by simpa using h0))
      rw [BitVec.toNat_append, ← Nat.shiftLeft_add_eq_or_of_lt (unpackMantissa b).isLt, hbias]
      simp only [Nat.shiftLeft_eq, BitVec.toNat_ofNat]
      omega

/-- Of two finite doubles as unpacked, the one at least as large in exponent-then-mantissa
order has the larger mantissa once both are brought to the smaller exponent. -/
theorem aligned_le {m₁ m₂ : Nat} {e₁ e₂ : Int}
    (h₁ : m₁ < 2 ^ 53 ∧ -1074 ≤ e₁ ∧ (-1074 < e₁ → 2 ^ 52 ≤ m₁))
    (h₂ : m₂ < 2 ^ 53 ∧ -1074 ≤ e₂ ∧ (-1074 < e₂ → 2 ^ 52 ≤ m₂))
    (h : (compare e₂ e₁).then (compare m₂ m₁) ≠ .gt) :
    m₂ <<< (e₂ - min e₁ e₂).toNat ≤ m₁ <<< (e₁ - min e₁ e₂).toNat := by
  rw [Nat.shiftLeft_eq, Nat.shiftLeft_eq]
  rcases hc : compare e₂ e₁ with _ | _ | _
  · -- the larger exponent is past the least, so its mantissa is normal and, shifted at
    -- least once, passes every mantissa
    rw [Int.compare_eq_lt] at hc
    have hmin : min e₁ e₂ = e₂ := by omega
    have hk : 1 ≤ (e₁ - min e₁ e₂).toNat := by omega
    have hnorm := h₁.2.2 (by omega)
    calc m₂ * 2 ^ (e₂ - min e₁ e₂).toNat = m₂ := by
          rw [hmin, Int.sub_self, Int.toNat_zero, Nat.pow_zero, Nat.mul_one]
      _ ≤ 2 ^ 52 * 2 ^ 1 := by omega
      _ ≤ m₁ * 2 ^ (e₁ - min e₁ e₂).toNat :=
        Nat.mul_le_mul hnorm (Nat.pow_le_pow_right (by omega) hk)
  · simp only [hc, Ordering.then, ne_eq, Nat.compare_eq_gt, Nat.not_lt] at h
    rw [Int.compare_eq_eq] at hc
    subst hc
    simp only [Int.min_self, Int.sub_self, Int.toNat_zero, Nat.pow_zero, Nat.mul_one]
    exact h
  · simp [hc, Ordering.then] at h

theorem ne_gt_of_isLE {o : Ordering} (h : (some o).any (·.isLE) = true) : o ≠ .gt := by
  cases o <;> simp_all

theorem isBelowZero_sub {x y : BitVec Format.binary64.numBits}
    (h : ((unpack .binary64 y).compare (unpack .binary64 x)).any (·.isLE) = true) :
    isBelowZero (sub .binary64 (unpack .binary64 x) (unpack .binary64 y)) = false := by
  have hx := @unpack_finite_bounds x
  have hy := @unpack_finite_bounds y
  generalize unpack .binary64 x = a at h hx ⊢
  generalize unpack .binary64 y = b at h hy ⊢
  cases a with
  | notANumber => rfl
  | infinity s₁ =>
    cases b with
    | notANumber => rfl
    | infinity s₂ => cases s₁ <;> cases s₂ <;> revert h <;> decide
    | zero s₂ => cases s₁ <;> cases s₂ <;> revert h <;> decide
    | finite s₂ m₂ e₂ h₂ =>
      cases s₁
      · simp [Float.Model.UnpackedFloat.compare] at h
      · rfl
  | zero s₁ =>
    cases b with
    | notANumber => rfl
    | infinity s₂ => cases s₁ <;> cases s₂ <;> revert h <;> decide
    | zero s₂ => cases s₁ <;> cases s₂ <;> decide
    | finite s₂ m₂ e₂ h₂ =>
      cases s₂
      · rfl
      · simp [Float.Model.UnpackedFloat.compare] at h
  | finite s₁ m₁ e₁ h₁ =>
    cases b with
    | notANumber => rfl
    | infinity s₂ =>
      cases s₂
      · rfl
      · simp [Float.Model.UnpackedFloat.compare] at h
    | zero s₂ =>
      cases s₁
      · simp [Float.Model.UnpackedFloat.compare] at h
      · rfl
    | finite s₂ m₂ e₂ h₂ =>
      simp only [sub, decreaseExponent]
      apply isBelowZero_normalize
      -- the magnitudes brought to the smaller exponent compare as the values do
      have hpos := aligned_le (hx rfl) (hy rfl)
      have hneg := aligned_le (hy rfl) (hx rfl)
      rw [Int.min_comm e₂ e₁] at hneg
      generalize m₁ <<< (e₁ - min e₁ e₂).toNat = M₁ at hpos hneg ⊢
      generalize m₂ <<< (e₂ - min e₁ e₂).toNat = M₂ at hpos hneg ⊢
      cases s₁ <;> cases s₂ <;> simp only [Float.Model.UnpackedFloat.compare] at h
      · -- both negative: the larger value has the smaller magnitude
        have := ne_gt_of_isLE h
        rw [Ordering.swap_then, Int.compare_swap, Nat.compare_swap] at this
        have := hneg this
        simp only [Sign.apply]
        omega
      · simp at h
      · simp only [Sign.apply]
        omega
      · have := hpos (ne_gt_of_isLE h)
        simp only [Sign.apply]
        omega

theorem Float.unpack_ofModel_pack (u : Float.Model.UnpackedFloat) :
    (Float.ofModel (Float.Model.pack u)).toModel.unpack = unpack .binary64 (pack .binary64 u) := by
  show unpack .binary64 (UInt64.ofBitVec (pack .binary64 u)).toBitVec = _
  rw [UInt64.toBitVec_ofBitVec]

theorem Float.unpack_sub (a b : Float) :
    (a - b).toModel.unpack =
      unpack .binary64 (pack .binary64 (sub .binary64 a.toModel.unpack b.toModel.unpack)) :=
  Float.unpack_ofModel_pack _

/-- The difference of two doubles in order is not below zero. -/
theorem Float.sub_not_lt_zero {a b : Float} (h : b ≤ a) : ¬ (a - b < 0.0) := by
  rw [Float.lt_zero_iff, Bool.not_eq_true, Float.unpack_sub]
  rw [Float.le_iff_compare] at h
  exact isBelowZero_unpack_pack (isBelowZero_sub h)

end Transport
