import Transport.Proofs.Rounding
/-!
# The order of doubles under rounded arithmetic

The along-step adds, subtracts, multiplies and divides doubles, and its guarantees on time
and energy are order facts about the results. Each operation is `pack (op a b)` on the
unpacked operands, and each reduces to the monotonicity of rounding (`round_ge`,
`round_le`) once the finite cases are brought to a common exponent.

* `Float.le_of_not_lt`, `Float.le_refl_of_not_isNaN`, `Float.not_lt_zero_of_le`: off NaN,
  the order of doubles is total and reflexive (`compare_swap`: comparing the other way round
  swaps the answer).
* `Float.add_not_lt_self`: adding a double not below zero never goes down.
* `Float.sub_le_self`, `Float.sub_bounds`: taking a double between zero and a finite `a`
  from `a` gives at most `a`, and with `Float.sub_not_lt_zero` a double between zero and `a`.
* `Float.sub_self_of_isFinite`: a finite double less itself is `0.0`.
* `Float.mul_not_lt_zero`, `Float.div_not_lt_zero`: products of doubles not below zero, and
  their quotients by doubles above zero, are not below zero.
* `minNum_bounds`: the smaller of a double not below zero and one at least zero lies between
  zero and the second.
-/
namespace Transport

open Float.Model.UnpackedFloat
open Float.Model (Format)

/-! ## Comparisons off NaN -/

theorem Sign.compare_swap (s₁ s₂ : Sign) : compare s₂ s₁ = (compare s₁ s₂).swap := by
  cases s₁ <;> cases s₂ <;> rfl

/-- Comparing the other way round swaps the order; a NaN compares with nothing. -/
theorem compare_swap (a b : Float.Model.UnpackedFloat) :
    b.compare a = (a.compare b).map Ordering.swap := by
  cases a with
  | notANumber => cases b <;> rfl
  | infinity s₁ =>
    cases b with
    | notANumber => rfl
    | infinity s₂ => simp [Float.Model.UnpackedFloat.compare, Sign.compare_swap s₁ s₂]
    | zero s₂ => cases s₁ <;> rfl
    | finite s₂ m₂ e₂ h₂ => cases s₁ <;> cases s₂ <;> rfl
  | zero s₁ =>
    cases b with
    | notANumber => rfl
    | infinity s₂ => cases s₂ <;> rfl
    | zero s₂ => rfl
    | finite s₂ m₂ e₂ h₂ => cases s₂ <;> rfl
  | finite s₁ m₁ e₁ h₁ =>
    cases b with
    | notANumber => rfl
    | infinity s₂ => cases s₁ <;> cases s₂ <;> rfl
    | zero s₂ => cases s₁ <;> rfl
    | finite s₂ m₂ e₂ h₂ =>
      -- of the same sign, the exponent-then-mantissa order turns round
      cases s₁ <;> cases s₂ <;>
        simp [Float.Model.UnpackedFloat.compare, Ordering.swap_then, Int.compare_swap e₁ e₂,
          Nat.compare_swap m₁ m₂]

theorem compare_ne_none {a b : Float.Model.UnpackedFloat} (ha : a ≠ .notANumber)
    (hb : b ≠ .notANumber) : a.compare b ≠ none := by
  cases a with
  | notANumber => exact absurd rfl ha
  | infinity s₁ =>
    cases b with
    | notANumber => exact absurd rfl hb
    | infinity s₂ => simp [Float.Model.UnpackedFloat.compare]
    | zero s₂ => cases s₁ <;> simp [Float.Model.UnpackedFloat.compare]
    | finite s₂ m₂ e₂ h₂ => cases s₁ <;> simp [Float.Model.UnpackedFloat.compare]
  | zero s₁ =>
    cases b with
    | notANumber => exact absurd rfl hb
    | infinity s₂ => cases s₂ <;> simp [Float.Model.UnpackedFloat.compare]
    | zero s₂ => simp [Float.Model.UnpackedFloat.compare]
    | finite s₂ m₂ e₂ h₂ => cases s₂ <;> simp [Float.Model.UnpackedFloat.compare]
  | finite s₁ m₁ e₁ h₁ =>
    cases b with
    | notANumber => exact absurd rfl hb
    | infinity s₂ => cases s₁ <;> cases s₂ <;> simp [Float.Model.UnpackedFloat.compare]
    | zero s₂ => cases s₁ <;> simp [Float.Model.UnpackedFloat.compare]
    | finite s₂ m₂ e₂ h₂ =>
      cases s₁ <;> cases s₂ <;> simp [Float.Model.UnpackedFloat.compare]

theorem Float.unpack_ne_nan {a : Float} (h : a.isNaN = false) : a.toModel.unpack ≠ .notANumber :=
  fun h' => by
    rw [← Float.isNaN_iff, h] at h'
    cases h'

/-- Of two doubles that are not NaN, one not below the other is at least it. -/
theorem Float.le_of_not_lt {a b : Float} (ha : a.isNaN = false) (hb : b.isNaN = false)
    (h : ¬ a < b) : b ≤ a := by
  rw [Float.lt_iff_compare] at h
  rw [Float.le_iff_compare, compare_swap]
  cases hc : a.toModel.unpack.compare b.toModel.unpack with
  | none => exact absurd hc (compare_ne_none (Float.unpack_ne_nan ha) (Float.unpack_ne_nan hb))
  | some o => cases o <;> simp_all

theorem Float.lt_irrefl (a : Float) : ¬ a < a := by
  intro h
  rw [Float.lt_iff_compare] at h
  have hs := compare_swap a.toModel.unpack a.toModel.unpack
  rw [h] at hs
  cases hs

/-- A double that is not NaN is at most itself. -/
theorem Float.le_refl_of_not_isNaN {a : Float} (ha : a.isNaN = false) : a ≤ a :=
  Float.le_of_not_lt ha ha (Float.lt_irrefl a)

theorem Float.isNaN_of_le {a b : Float} (h : a ≤ b) : a.isNaN = false ∧ b.isNaN = false := by
  rw [Float.le_iff_compare] at h
  constructor <;> rw [Bool.eq_false_iff] <;> intro hn <;> rw [Float.isNaN_iff] at hn
  · simp [hn, Float.Model.UnpackedFloat.compare] at h
  · cases ha : a.toModel.unpack <;> simp [ha, hn, Float.Model.UnpackedFloat.compare] at h

theorem Float.le_of_lt {a b : Float} (h : a < b) : a ≤ b := by
  rw [Float.lt_iff_compare] at h
  rw [Float.le_iff_compare, h]
  rfl

theorem Float.zero_le_of_not_lt {x : Float} (hx : x.isNaN = false) (h : ¬ x < 0.0) : 0.0 ≤ x :=
  Float.le_of_not_lt hx rfl h

/-- A double at least zero is not below it. -/
theorem Float.not_lt_zero_of_le {x : Float} (h : 0.0 ≤ x) : ¬ x < 0.0 := by
  rw [Float.le_iff_compare] at h
  rw [Float.lt_iff_compare, compare_swap]
  cases hc : (0.0 : Float).toModel.unpack.compare x.toModel.unpack with
  | none => simp [hc] at h
  | some o => cases o <;> simp_all

/-! ## Rounded sums and differences -/

theorem Float.unpack_add (a b : Float) :
    (a + b).toModel.unpack =
      unpack .binary64 (pack .binary64 (add .binary64 a.toModel.unpack b.toModel.unpack)) :=
  Float.unpack_ofModel_pack _

theorem normalize_of_pos {M : Int} (hM : 0 < M) (e : Int) (z : Sign) :
    Float.Model.UnpackedFloat.normalize .binary64 M e z =
      Float.Model.UnpackedFloat.round .binary64 .positive M.toNat e := by
  unfold Float.Model.UnpackedFloat.normalize
  split
  · rename_i h
    rw [Int.compare_eq_lt] at h
    omega
  · rename_i h
    rw [Int.compare_eq_eq] at h
    omega
  · rfl

theorem normalize_of_neg {M : Int} (hM : M < 0) (e : Int) (z : Sign) :
    Float.Model.UnpackedFloat.normalize .binary64 M e z =
      Float.Model.UnpackedFloat.round .binary64 .negative (-M).toNat e := by
  unfold Float.Model.UnpackedFloat.normalize
  split
  · rfl
  · rename_i h
    rw [Int.compare_eq_eq] at h
    omega
  · rename_i h
    rw [Int.compare_eq_gt] at h
    omega

theorem normalize_zero (e : Int) (z : Sign) :
    Float.Model.UnpackedFloat.normalize .binary64 0 e z = .zero z := rfl

theorem compare_pack_ge {R m : Nat} {E et : Int} {hR : 0 < R} {hm : 0 < m} (hn : Normalized R E)
    (hge : (compare E et).then (compare R m) ≠ .lt) :
    (unpack .binary64 (pack .binary64 (.finite .positive R E hR))).compare
      (.finite .positive m et hm) ≠ some .lt := by
  rw [unpack_pack_finite hn]
  split
  · simp [Float.Model.UnpackedFloat.compare]
  · simpa [Float.Model.UnpackedFloat.compare] using hge

theorem unpack_pack_of_le {s : Sign} {R m : Nat} {E et : Int} {hR : 0 < R} (hn : Normalized R E)
    (het : et ≤ 971) (hle : (compare E et).then (compare R m) ≠ .gt) :
    unpack .binary64 (pack .binary64 (.finite s R E hR)) = .finite s R E hR := by
  have hE : E ≤ et := by
    by_contra hgt
    simp [Int.compare_eq_gt.2 (lt_of_not_ge hgt)] at hle
  rw [unpack_pack_finite hn, if_neg (by omega)]

theorem add_finite_not_lt {sx : Sign} {mx my : Nat} {ex ey : Int} {hx : 0 < mx} {hy : 0 < my}
    (hX : Normalized mx ex) (hXe : ex ≤ 971) (hY : Normalized my ey) :
    (unpack .binary64 (pack .binary64 (add .binary64 (.finite sx mx ex hx)
      (.finite .positive my ey hy)))).compare (.finite sx mx ex hx) ≠ some .lt := by
  simp only [add, decreaseExponent]
  generalize hc : min ex ey = c
  have hcl : -1074 ≤ c := hc ▸ le_min hX.2.1 hY.2.1
  have hcx : c ≤ ex := by omega
  rw [Nat.shiftLeft_eq, Nat.shiftLeft_eq]
  generalize hMy : my * 2 ^ (ey - c).toNat = My
  have hMy0 : 0 < My := by
    rw [← hMy]
    exact Nat.mul_pos hy (Nat.two_pow_pos _)
  cases sx with
  | positive =>
    simp only [Sign.apply]
    rw [normalize_of_pos (by omega)]
    obtain ⟨R, E, hR, hround, hn, hge⟩ := round_ge .positive
      (N := ((mx * 2 ^ (ex - c).toNat : Nat) + (My : Int)).toNat) (by omega) hcl hcx hX (by omega)
    rw [hround]
    exact compare_pack_ge hn hge
  | negative =>
    simp only [Sign.apply]
    rcases lt_trichotomy (mx * 2 ^ (ex - c).toNat) My with hlt | heq | hgt
    · -- the sum is positive, above every negative double
      rw [normalize_of_pos (by omega)]
      obtain ⟨R, E, hR, hround, hn⟩ := round_finite .positive
        (N := (-((mx * 2 ^ (ex - c).toNat : Nat) : Int) + (My : Int)).toNat) (by omega) hcl
      rw [hround, unpack_pack_finite hn]
      split <;> simp [Float.Model.UnpackedFloat.compare]
    · rw [heq, show -(My : Int) + My = 0 by omega, normalize_zero]
      rw [unpack_pack_zero]
      simp [Float.Model.UnpackedFloat.compare]
    · -- the sum is negative and smaller in magnitude: at most `t`'s magnitude
      rw [normalize_of_neg (by omega)]
      obtain ⟨R, E, hR, hround, hn, hle⟩ := round_le .negative
        (N := (-(-((mx * 2 ^ (ex - c).toNat : Nat) : Int) + (My : Int))).toNat) (by omega) hcl hcx
        hX (by omega)
      rw [hround, unpack_pack_of_le hn hXe hle]
      simpa [Float.Model.UnpackedFloat.compare] using hle

theorem add_not_lt {x y : BitVec Format.binary64.numBits}
    (hy : isBelowZero (unpack .binary64 y) = false) :
    (unpack .binary64 (pack .binary64
      (add .binary64 (unpack .binary64 x) (unpack .binary64 y)))).compare
      (unpack .binary64 x) ≠ some .lt := by
  have hxb := @unpack_finite_bounds x
  have hxe := @unpack_finite_le x
  have hyb := @unpack_finite_bounds y
  have hxr := unpack_pack_unpack x
  have hyr := unpack_pack_unpack y
  generalize unpack .binary64 x = X at *
  generalize unpack .binary64 y = Y at *
  cases X with
  | notANumber => simp [add, unpack_pack_nan, Float.Model.UnpackedFloat.compare]
  | infinity sx =>
    -- an infinity absorbs what is added, unless it meets the opposite one
    cases Y with
    | notANumber => simp [add, unpack_pack_nan, Float.Model.UnpackedFloat.compare]
    | infinity sy =>
      cases sy
      · cases hy
      · cases sx <;> simp [add, unpack_pack_nan, hxr, Float.Model.UnpackedFloat.compare]
    | zero sy => cases sx <;> simp [add, hxr, Float.Model.UnpackedFloat.compare]
    | finite sy my ey hmy => cases sx <;> simp [add, hxr, Float.Model.UnpackedFloat.compare]
  | zero sx =>
    cases Y with
    | notANumber => simp [add, unpack_pack_nan, Float.Model.UnpackedFloat.compare]
    | infinity sy =>
      cases sy
      · cases hy
      · simp [add, hyr, Float.Model.UnpackedFloat.compare]
    | zero sy =>
      simp only [add]
      split <;> simp [unpack_pack_zero, Float.Model.UnpackedFloat.compare]
    | finite sy my ey hmy =>
      cases sy
      · cases hy
      · simp [add, hyr, Float.Model.UnpackedFloat.compare]
  | finite sx mx ex hmx =>
    cases Y with
    | notANumber => simp [add, unpack_pack_nan, Float.Model.UnpackedFloat.compare]
    | infinity sy =>
      cases sy
      · cases hy
      · simp [add, hyr, Float.Model.UnpackedFloat.compare]
    | zero sy => cases sx <;> simp [add, hxr, Float.Model.UnpackedFloat.compare]
    | finite sy my ey hmy =>
      cases sy
      · cases hy
      · exact add_finite_not_lt (hxb rfl) (hxe rfl) (hyb rfl)

/-- Adding a double not below zero never goes down: `t + x` is not below `t`. -/
theorem Float.add_not_lt_self {t x : Float} (hx : ¬ x < 0.0) : ¬ t + x < t := by
  rw [Float.lt_zero_iff, Bool.not_eq_true] at hx
  rw [Float.lt_iff_compare, Float.unpack_add]
  exact add_not_lt hx

theorem sub_finite_le {mx my : Nat} {ex ey : Int} {hx : 0 < mx} {hy : 0 < my}
    (hX : Normalized mx ex) (hXe : ex ≤ 971) (hY : Normalized my ey)
    (hyx : (compare ey ex).then (compare my mx) ≠ .gt) :
    ((unpack .binary64 (pack .binary64 (sub .binary64 (.finite .positive mx ex hx)
      (.finite .positive my ey hy)))).compare (.finite .positive mx ex hx)).any (·.isLE) =
      true := by
  have haligned := aligned_le hX hY hyx
  simp only [sub, decreaseExponent, Sign.apply]
  generalize hc : min ex ey = c at haligned
  have hcl : -1074 ≤ c := hc ▸ le_min hX.2.1 hY.2.1
  have hcx : c ≤ ex := by omega
  rw [Nat.shiftLeft_eq, Nat.shiftLeft_eq] at haligned ⊢
  generalize my * 2 ^ (ey - c).toNat = My at haligned ⊢
  rcases lt_or_eq_of_le haligned with hlt | heq
  · -- a positive difference, rounded to at most the larger double
    rw [normalize_of_pos (by omega)]
    obtain ⟨R, E, hR, hround, hn, hle⟩ := round_le .positive
      (N := ((mx * 2 ^ (ex - c).toNat : Nat) - (My : Int)).toNat) (by omega) hcl hcx hX (by omega)
    rw [hround, unpack_pack_of_le hn hXe hle]
    simp only [Float.Model.UnpackedFloat.compare]
    revert hle
    cases (compare E ex).then (compare R mx) <;> simp
  · rw [heq, Int.sub_self, normalize_zero, unpack_pack_zero]
    rfl

theorem sub_le {x y : BitVec Format.binary64.numBits} (hx : (unpack .binary64 x).isFinite = true)
    (hy : isBelowZero (unpack .binary64 y) = false)
    (hyx : ((unpack .binary64 y).compare (unpack .binary64 x)).any (·.isLE) = true) :
    ((unpack .binary64 (pack .binary64
      (sub .binary64 (unpack .binary64 x) (unpack .binary64 y)))).compare
      (unpack .binary64 x)).any (·.isLE) = true := by
  have hxb := @unpack_finite_bounds x
  have hxe := @unpack_finite_le x
  have hyb := @unpack_finite_bounds y
  have hxr := unpack_pack_unpack x
  generalize unpack .binary64 x = X at *
  generalize unpack .binary64 y = Y at *
  cases X with
  | notANumber => cases hx
  | infinity sx => cases hx
  | zero sx =>
    cases Y with
    | notANumber => simp [Float.Model.UnpackedFloat.compare] at hyx
    | infinity sy => cases sy <;> simp [isBelowZero, Float.Model.UnpackedFloat.compare] at hy hyx
    | zero sy =>
      simp only [sub]
      split <;> simp [unpack_pack_zero, Float.Model.UnpackedFloat.compare]
    | finite sy my ey hmy =>
      cases sy <;> simp [isBelowZero, Float.Model.UnpackedFloat.compare] at hy hyx
  | finite sx mx ex hmx =>
    cases Y with
    | notANumber => simp [Float.Model.UnpackedFloat.compare] at hyx
    | infinity sy => cases sy <;> simp [isBelowZero, Float.Model.UnpackedFloat.compare] at hy hyx
    | zero sy =>
      cases sx <;> simp [sub, hxr, Float.Model.UnpackedFloat.compare]
    | finite sy my ey hmy =>
      cases sy
      · cases hy
      · cases sx
        · simp [Float.Model.UnpackedFloat.compare] at hyx
        · exact sub_finite_le (hxb rfl) (hxe rfl) (hyb rfl)
            (ne_gt_of_isLE (by simpa [Float.Model.UnpackedFloat.compare] using hyx))

/-- Taking a double between zero and a finite double `a` from `a` gives at most `a`. -/
theorem Float.sub_le_self {a b : Float} (ha : a.isFinite = true) (hb : 0.0 ≤ b) (hba : b ≤ a) :
    a - b ≤ a := by
  have hb' := Float.not_lt_zero_of_le hb
  rw [Float.lt_zero_iff, Bool.not_eq_true] at hb'
  rw [Float.le_iff_compare] at hba ⊢
  rw [Float.unpack_sub]
  exact sub_le ha hb' hba

/-- The difference of a finite double `a` and a double between zero and `a` lies between zero
and `a`. -/
theorem Float.sub_bounds {a b : Float} (ha : a.isFinite = true) (hb : 0.0 ≤ b) (hba : b ≤ a) :
    0.0 ≤ a - b ∧ a - b ≤ a := by
  have hle := Float.sub_le_self ha hb hba
  exact ⟨Float.zero_le_of_not_lt (Float.isNaN_of_le hle).1 (Float.sub_not_lt_zero hba), hle⟩

/-- A finite double less itself is `0.0`, of positive sign. -/
theorem Float.sub_self_of_isFinite {a : Float} (ha : a.isFinite = true) : a - a = 0.0 := by
  have hsub : sub .binary64 a.toModel.unpack a.toModel.unpack = .zero .positive := by
    have ha' : a.toModel.unpack.isFinite = true := ha
    cases hA : a.toModel.unpack with
    | notANumber =>
      rw [hA] at ha'
      cases ha'
    | infinity s =>
      rw [hA] at ha'
      cases ha'
    | zero s => cases s <;> rfl
    | finite s m e hm =>
      simp only [sub, decreaseExponent, Int.sub_self]
      cases s <;> simp [normalize_zero]
  show Float.ofModel (Float.Model.pack (sub .binary64 a.toModel.unpack a.toModel.unpack)) = 0.0
  rw [hsub]
  rfl

/-! ## Products and quotients of doubles not below zero -/

theorem isBelowZero_mul {a b : Float.Model.UnpackedFloat} (ha : isBelowZero a = false)
    (hb : isBelowZero b = false) : isBelowZero (mul .binary64 a b) = false := by
  cases a with
  | notANumber => rfl
  | infinity sa =>
    cases sa
    · cases ha
    · cases b with
      | infinity sb => cases sb <;> simp_all [isBelowZero, mul]
      | finite sb mb eb hmb => cases sb <;> simp_all [isBelowZero, mul]
      | _ => rfl
  | zero sa => cases b <;> rfl
  | finite sa ma ea hma =>
    cases sa
    · cases ha
    · cases b with
      | notANumber => rfl
      | infinity sb => cases sb <;> simp_all [isBelowZero, mul]
      | zero sb => rfl
      | finite sb mb eb hmb =>
        cases sb
        · cases hb
        · exact isBelowZero_roundWithAccuracy _ _ _ _

theorem isBelowZero_div {a b : Float.Model.UnpackedFloat} (ha : isBelowZero a = false)
    (hb : (∃ m e h, b = .finite .positive m e h) ∨ b = .infinity .positive) :
    isBelowZero (div .binary64 a b) = false := by
  rcases hb with ⟨mb, eb, hmb, rfl⟩ | rfl
  · cases a with
    | infinity sa => cases sa <;> simp_all [isBelowZero, div]
    | finite sa ma ea hma =>
      cases sa
      · cases ha
      · exact isBelowZero_roundWithAccuracy _ _ _ _
    | _ => rfl
  · cases a <;> rfl

theorem Float.unpack_mul (a b : Float) :
    (a * b).toModel.unpack =
      unpack .binary64 (pack .binary64 (mul .binary64 a.toModel.unpack b.toModel.unpack)) :=
  Float.unpack_ofModel_pack _

theorem Float.unpack_div (a b : Float) :
    (a / b).toModel.unpack =
      unpack .binary64 (pack .binary64 (div .binary64 a.toModel.unpack b.toModel.unpack)) :=
  Float.unpack_ofModel_pack _

/-- The product of two doubles not below zero is not below zero. -/
theorem Float.mul_not_lt_zero {a b : Float} (ha : ¬ a < 0.0) (hb : ¬ b < 0.0) :
    ¬ a * b < 0.0 := by
  rw [Float.lt_zero_iff, Bool.not_eq_true] at ha hb ⊢
  rw [Float.unpack_mul]
  exact isBelowZero_unpack_pack (isBelowZero_mul ha hb)

/-- The quotient of a double not below zero by one above zero is not below zero. -/
theorem Float.div_not_lt_zero {a b : Float} (ha : ¬ a < 0.0) (hb : 0.0 < b) : ¬ a / b < 0.0 := by
  rw [Float.lt_zero_iff, Bool.not_eq_true] at ha ⊢
  rw [Float.zero_lt_iff] at hb
  rw [Float.unpack_div]
  exact isBelowZero_unpack_pack (isBelowZero_div ha hb)

/-! ## The smaller of two doubles -/

/-- The smaller of a double not below zero and a double at least zero lies between zero and
the second. -/
theorem minNum_bounds {x y : Float} (hx : ¬ x < 0.0) (hy : 0.0 ≤ y) :
    0.0 ≤ minNum x y ∧ minNum x y ≤ y := by
  have hyn := (Float.isNaN_of_le hy).2
  have hyy := Float.le_refl_of_not_isNaN hyn
  unfold minNum
  split
  · exact ⟨hy, hyy⟩
  · rename_i hxn
    have hxn : x.isNaN = false := by simpa using hxn
    split
    · exact ⟨hy, hyy⟩
    · -- `x` is kept: it is not above `y`, and not below zero
      rename_i hkeep
      simp only [Bool.or_eq_true, decide_eq_true_eq, not_or] at hkeep
      exact ⟨Float.zero_le_of_not_lt hxn hx, Float.le_of_not_lt hyn hxn hkeep.1⟩

end Transport
