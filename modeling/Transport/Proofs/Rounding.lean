import Transport.Proofs.Doubles
/-!
# Rounding to a double, and packing it

Every operation on doubles computes its result exactly, as a mantissa `N` at an exponent
`e`, rounds it to the nearest double with ties to even
(`Float.Model.UnpackedFloat.round`), and packs the result into 64 bits, overflowing to an
infinity past the largest exponent. This module describes both steps for binary64 in
natural-number arithmetic, so that later proofs never unfold them.

* `round_spec`: rounding first brings `N` to its target exponent
  `E0 = max (log₂ N + 1 + e - 53) (-1074)`, where it takes the floor `F` of the scaled
  mantissa and rounds it to `F` or `F + 1` (to `F` when the division is exact); a carry into
  a 54th bit is halved once more. The result is a `Normalized` double: as unpacking gives
  them, below `2^53`, at or above the least exponent, and normal past it.
* `round_ge`, `round_le`: rounding is monotone against every finite double `t` at or above
  the exponent `e`, in the exponent-then-mantissa order that compares positive doubles: a
  value at least `t` rounds to at least `t`, and a value at most `t` to at most `t`.
* `unpack_pack_finite`, `unpack_pack_unpack`: packing a normalized double and unpacking it
  gives it back, up to the overflow; packing an unpacked double gives it back.
-/
namespace Transport

open Float.Model.UnpackedFloat
open Float.Model (Format)

/-- The mantissa and exponent of a finite double as unpacking gives them: at most 53 bits,
at or above the least exponent, and normal, with 53 bits, past it. -/
def Normalized (m : Nat) (e : Int) : Prop :=
  m < 2 ^ 53 ∧ -1074 ≤ e ∧ (-1074 < e → 2 ^ 52 ≤ m)

/-! ## The shifts and the rounded mantissa -/

theorem shiftRight_exact (N : Nat) : ∀ k : Nat,
    ((⟨N, false, false⟩ : ExtendedMantissa) >>> k).mantissa = N / 2 ^ k ∧
      ((((⟨N, false, false⟩ : ExtendedMantissa) >>> k).roundBit ||
        ((⟨N, false, false⟩ : ExtendedMantissa) >>> k).stickyBit) = false ↔ N % 2 ^ k = 0)
  | 0 => by simp [HShiftRight.hShiftRight, Nat.repeat, Nat.mod_one]
  | k + 1 => by
    obtain ⟨hm, hr⟩ := shiftRight_exact N k
    have hstep : ((⟨N, false, false⟩ : ExtendedMantissa) >>> (k + 1)) =
        ExtendedMantissa.shiftRightOne ((⟨N, false, false⟩ : ExtendedMantissa) >>> k) := rfl
    rw [hstep]
    simp only [ExtendedMantissa.shiftRightOne, hm, Bool.or_eq_false_iff, bne_eq_false_iff_eq]
    rw [Bool.or_eq_false_iff] at hr
    refine ⟨by rw [Nat.div_div_eq_div_mul, Nat.pow_succ], ?_⟩
    rw [hr, Nat.mod_pow_succ]
    constructor
    · rintro ⟨h1, h2⟩
      rw [h1, h2]
      simp
    · intro h
      have h2 : N % 2 ^ k = 0 := by
        have := Nat.mod_lt N (Nat.two_pow_pos k)
        have : 2 ^ k * (N / 2 ^ k % 2) = 0 := by omega
        omega
      refine ⟨?_, h2⟩
      rw [h2, Nat.zero_add] at h
      exact (Nat.mul_eq_zero.1 h).resolve_left (Nat.pos_iff_ne_zero.1 (Nat.two_pow_pos k))

theorem roundedMantissa_bounds (em : ExtendedMantissa) :
    em.mantissa ≤ em.roundedMantissa ∧ em.roundedMantissa ≤ em.mantissa + 1 ∧
      ((em.roundBit || em.stickyBit) = false → em.roundedMantissa = em.mantissa) := by
  obtain ⟨m, r, st⟩ := em
  cases r <;> cases st <;>
    simp [ExtendedMantissa.roundedMantissa, ExtendedMantissa.accuracy,
      Accuracy.roundToNearestEven]
  -- a tie goes to the even neighbour, at most one above
  omega

theorem log2_mul_two_pow {N : Nat} (hN : N ≠ 0) (k : Nat) : (N * 2 ^ k).log2 = N.log2 + k := by
  have hNk : N * 2 ^ k ≠ 0 := Nat.mul_ne_zero hN (Nat.pos_iff_ne_zero.1 (Nat.two_pow_pos k))
  apply Nat.le_antisymm
  · have : N * 2 ^ k < 2 ^ (N.log2 + k + 1) := by
      rw [Nat.add_right_comm, Nat.pow_add]
      exact Nat.mul_lt_mul_of_pos_right Nat.lt_log2_self (Nat.two_pow_pos k)
    have := (Nat.log2_lt hNk).2 this
    omega
  · rw [Nat.le_log2 hNk, Nat.pow_add]
    exact Nat.mul_le_mul_right _ (Nat.log2_self_le hN)

theorem div_two_pow_lt {M k : Nat} (h : M.log2 < 53 + k) : M / 2 ^ k < 2 ^ 53 := by
  rw [Nat.div_lt_iff_lt_mul (Nat.two_pow_pos k), ← Nat.pow_add]
  exact lt_of_lt_of_le Nat.lt_log2_self (Nat.pow_le_pow_right (by decide) (by omega))

theorem two_pow_le_div {M k : Nat} (hM : M ≠ 0) (h : 52 + k ≤ M.log2) :
    2 ^ 52 ≤ M / 2 ^ k := by
  rw [Nat.le_div_iff_mul_le (Nat.two_pow_pos k), ← Nat.pow_add]
  exact le_trans (Nat.pow_le_pow_right (by decide) h) (Nat.log2_self_le hM)

/-! ## The target exponent -/

theorem targetExponent_binary64 (T : Int) :
    Format.binary64.targetExponent T = max (T - 53) (-1074) := by
  simp [Format.targetExponent, Format.mantissaBits, Format.minExponent]

theorem totalExponent_eq (N : Nat) (e : Int) :
    Float.Model.totalExponent N e = (N.log2 : Int) + 1 + e := rfl

theorem targetExponent_of_normalized {R : Nat} {E : Int} (hR : R ≠ 0) (hn : Normalized R E) :
    Format.binary64.targetExponent (Float.Model.totalExponent R E) = E := by
  rw [targetExponent_binary64, totalExponent_eq]
  have := (Nat.log2_lt hR).2 hn.1
  by_cases hE : -1074 < E
  · have := (Nat.le_log2 hR).2 (hn.2.2 hE)
    omega
  · have := hn.2.1
    omega

theorem targetExponent_carry {E : Int} (hE : -1074 ≤ E) :
    Format.binary64.targetExponent (Float.Model.totalExponent (2 ^ 53) E) = E + 1 := by
  rw [targetExponent_binary64, totalExponent_eq, Nat.log2_two_pow]
  omega

/-! ## Rounding -/

theorem round_eq (s : Sign) (N : Nat) (e : Int) :
    Float.Model.UnpackedFloat.round .binary64 s N e =
      let E0 := Format.binary64.targetExponent (Float.Model.totalExponent N e)
      let k0 := (e - E0).toNat
      let N1 := N <<< k0
      let e1 := e - k0
      let E1 := Format.binary64.targetExponent (Float.Model.totalExponent N1 e1)
      let k1 := (E1 - e1).toNat
      let R1 := ((⟨N1, false, false⟩ : ExtendedMantissa) >>> k1).roundedMantissa
      let E2 := Format.binary64.targetExponent (Float.Model.totalExponent R1 (e1 + k1))
      let k2 := (E2 - (e1 + k1)).toNat
      let Rf := ((⟨R1, false, false⟩ : ExtendedMantissa) >>> k2).mantissa
      if h : Rf = 0 then .zero s else .finite s Rf (e1 + k1 + k2) (Nat.pos_of_ne_zero h) := rfl

/-- Rounding a positive mantissa `N` at an exponent `e` at or above the least one. With
`E0` its target exponent and `c` the smaller of `e` and `E0`, `F` is the floor of `N · 2^e`
on the grid of `E0`, `R1` is `F` rounded to nearest, and the result is `R1` at `E0`, or, when
`R1` carried into a 54th bit, `2^52` at `E0 + 1`; it is a normalized double. -/
theorem round_spec (s : Sign) {N : Nat} (hN : 0 < N) {e : Int} (he : -1074 ≤ e) :
    let E0 := max ((N.log2 : Int) + 1 + e - 53) (-1074)
    let c := min e E0
    ∃ F R1 Rf : Nat, ∃ Ef : Int, ∃ hRf : 0 < Rf,
      Float.Model.UnpackedFloat.round .binary64 s N e = .finite s Rf Ef hRf ∧
      F * 2 ^ (E0 - c).toNat ≤ N * 2 ^ (e - c).toNat ∧
      N * 2 ^ (e - c).toNat < (F + 1) * 2 ^ (E0 - c).toNat ∧
      F ≤ R1 ∧ R1 ≤ F + 1 ∧ (N * 2 ^ (e - c).toNat % 2 ^ (E0 - c).toNat = 0 → R1 = F) ∧
      ((R1 < 2 ^ 53 ∧ Rf = R1 ∧ Ef = E0) ∨ (R1 = 2 ^ 53 ∧ Rf = 2 ^ 52 ∧ Ef = E0 + 1)) ∧
      Normalized Rf Ef := by
  intro E0 c
  have hE0def : E0 = max ((N.log2 : Int) + 1 + e - 53) (-1074) := rfl
  have hcdef : c = min e E0 := rfl
  rw [round_eq]
  extract_lets E0' k0 N1 e1 E1 k1 R1 E2 k2 Rf
  have hN0 : N ≠ 0 := Nat.pos_iff_ne_zero.1 hN
  -- the first stage: the left shift reaches `c`, and the target exponent stays `E0`
  have hE0 : E0' = E0 := by
    simp only [E0', targetExponent_binary64, totalExponent_eq, E0]
  have hk0 : k0 = (e - c).toNat := by
    simp only [k0, hE0]
    omega
  have he1 : e1 = c := by
    simp only [e1, hk0]
    omega
  have hN1 : N1 = N * 2 ^ k0 := Nat.shiftLeft_eq N k0
  have hlog : N1.log2 = N.log2 + k0 := by rw [hN1, log2_mul_two_pow hN0]
  have hE1 : E1 = E0 := by
    simp only [E1, targetExponent_binary64, totalExponent_eq, hlog, he1]
    omega
  have hk1 : k1 = (E0 - c).toNat := by
    simp only [k1, hE1, he1]
  have hsum : e1 + (k1 : Int) = E0 := by
    rw [he1, hk1]
    omega
  have hE0ge : -1074 ≤ E0 := le_max_right _ _
  -- the second stage: the floor and the rounded mantissa above it
  obtain ⟨hmant, hexact⟩ := shiftRight_exact N1 k1
  obtain ⟨hlo, hhi, hround⟩ :=
    roundedMantissa_bounds ((⟨N1, false, false⟩ : ExtendedMantissa) >>> k1)
  rw [hmant] at hlo hhi hround
  set F := N1 / 2 ^ k1 with hF
  have hN1pos : N1 ≠ 0 := by
    rw [hN1]
    exact Nat.mul_ne_zero hN0 (Nat.pos_iff_ne_zero.1 (Nat.two_pow_pos k0))
  have hFlt : F < 2 ^ 53 := div_two_pow_lt (by rw [hlog, hk0, hk1]; omega)
  have hFnormal : -1074 < E0 → 2 ^ 52 ≤ F := fun hnormal =>
    two_pow_le_div hN1pos (by rw [hlog, hk0, hk1]; omega)
  have hFpos : 0 < F := by
    by_cases hnormal : -1074 < E0
    · exact lt_of_lt_of_le (Nat.two_pow_pos 52) (hFnormal hnormal)
    · -- at the least exponent nothing is shifted out
      have hk1z : k1 = 0 := by
        rw [hk1]
        omega
      rw [hF, hk1z, Nat.pow_zero, Nat.div_one]
      exact Nat.pos_of_ne_zero hN1pos
  have hR1pos : R1 ≠ 0 := by
    show ((⟨N1, false, false⟩ : ExtendedMantissa) >>> k1).roundedMantissa ≠ 0
    omega
  have hFlo : F * 2 ^ (E0 - c).toNat ≤ N * 2 ^ (e - c).toNat := by
    rw [← hk1, ← hk0, ← hN1]
    exact Nat.div_mul_le_self N1 (2 ^ k1)
  have hFhi : N * 2 ^ (e - c).toNat < (F + 1) * 2 ^ (E0 - c).toNat := by
    rw [← hk1, ← hk0, ← hN1, Nat.mul_comm]
    exact Nat.lt_mul_div_succ N1 (Nat.two_pow_pos k1)
  have hexact' : N * 2 ^ (e - c).toNat % 2 ^ (E0 - c).toNat = 0 → R1 = F := by
    rw [← hk1, ← hk0, ← hN1]
    exact fun h => hround (hexact.2 h)
  -- the third stage: a shift only after a carry
  obtain ⟨hRf, -⟩ := shiftRight_exact R1 k2
  rcases Nat.lt_or_ge R1 (2 ^ 53) with hsmall | hcarry
  · have hnR1 : Normalized R1 E0 := ⟨hsmall, hE0ge, fun h => le_trans (hFnormal h) hlo⟩
    have hk2 : k2 = 0 := by
      simp only [k2, E2, hsum, targetExponent_of_normalized hR1pos hnR1, Int.sub_self,
        Int.toNat_zero]
    refine ⟨F, R1, R1, E0, Nat.pos_of_ne_zero hR1pos, ?_, hFlo, hFhi, hlo, hhi, hexact',
      .inl ⟨hsmall, rfl, rfl⟩, hnR1⟩
    have hRfR1 : Rf = R1 := by
      simp only [Rf, hRf, hk2, Nat.pow_zero, Nat.div_one]
    rw [dif_neg (by omega)]
    simp only [Float.Model.UnpackedFloat.finite.injEq, true_and]
    omega
  · have hR1 : R1 = 2 ^ 53 := by omega
    have hk2 : k2 = 1 := by
      simp only [k2, E2, hsum, hR1, targetExponent_carry hE0ge]
      omega
    have hRfval : Rf = 2 ^ 52 := by
      simp only [Rf, hRf, hk2, hR1]
      decide
    refine ⟨F, R1, 2 ^ 52, E0 + 1, Nat.two_pow_pos 52, ?_, hFlo, hFhi, hlo, hhi, hexact',
      .inr ⟨hR1, rfl, rfl⟩, by decide, by omega, fun _ => le_refl _⟩
    rw [dif_neg (by omega)]
    simp only [Float.Model.UnpackedFloat.finite.injEq, true_and]
    omega

theorem round_finite (s : Sign) {N : Nat} (hN : 0 < N) {e : Int} (he : -1074 ≤ e) :
    ∃ R E hR, Float.Model.UnpackedFloat.round .binary64 s N e = .finite s R E hR ∧
      Normalized R E := by
  obtain ⟨-, -, Rf, Ef, hRf, hround, -, -, -, -, -, -, hn⟩ := round_spec s hN he
  exact ⟨Rf, Ef, hRf, hround, hn⟩

/-- Rounding is monotone from below: a value at least a finite double `t`, whose exponent is
at or above the value's, rounds to at least `t` in the exponent-then-mantissa order. -/
theorem round_ge (s : Sign) {N m : Nat} {e et : Int} (hN : 0 < N) (he : -1074 ≤ e)
    (het : e ≤ et) (ht : Normalized m et) (h : m * 2 ^ (et - e).toNat ≤ N) :
    ∃ R E hR, Float.Model.UnpackedFloat.round .binary64 s N e = .finite s R E hR ∧
      Normalized R E ∧ (compare E et).then (compare R m) ≠ .lt := by
  obtain ⟨F, R1, Rf, Ef, hRf, hround, -, hFhi, hR1lo, -, -, hcase, hn⟩ := round_spec s hN he
  refine ⟨Rf, Ef, hRf, hround, hn, ?_⟩
  have hN0 : N ≠ 0 := Nat.pos_iff_ne_zero.1 hN
  -- the target exponent is at least `t`'s: past the least exponent, `t` has 53 bits
  have hE0 : et ≤ max ((N.log2 : Int) + 1 + e - 53) (-1074) := by
    by_cases hsub : et = -1074
    · omega
    · have hm : 2 ^ 52 ≤ m := ht.2.2 (by omega)
      have hpow : 2 ^ (52 + (et - e).toNat) ≤ N := by
        rw [Nat.pow_add]
        exact le_trans (Nat.mul_le_mul_right _ hm) h
      have := (Nat.le_log2 hN0).2 hpow
      omega
  rcases lt_or_eq_of_le hE0 with hgt | heq
  · -- a larger target exponent: the result is larger whatever its mantissa
    have : et < Ef := by rcases hcase with ⟨-, -, rfl⟩ | ⟨-, -, rfl⟩ <;> omega
    simp [Int.compare_eq_gt.2 this]
  · -- the same exponent: the rounded mantissa is at least the floor, which is at least `m`
    rw [← heq] at hFhi hcase
    rw [min_eq_left het, Int.sub_self, Int.toNat_zero, Nat.pow_zero, Nat.mul_one] at hFhi
    have hmF : m ≤ F := Nat.le_of_lt_succ
      (Nat.lt_of_mul_lt_mul_right (lt_of_le_of_lt h hFhi))
    rcases hcase with ⟨-, rfl, rfl⟩ | ⟨-, -, rfl⟩
    · rw [Int.compare_eq_eq.2 rfl]
      simp only [Ordering.then, ne_eq]
      rw [Nat.compare_eq_lt]
      omega
    · simp [Int.compare_eq_gt.2 (Int.lt_succ et)]

/-- Rounding is monotone from above: a value at most a finite double `t`, whose exponent is
at or above the value's, rounds to at most `t` in the exponent-then-mantissa order. -/
theorem round_le (s : Sign) {N m : Nat} {e et : Int} (hN : 0 < N) (he : -1074 ≤ e)
    (het : e ≤ et) (ht : Normalized m et) (h : N ≤ m * 2 ^ (et - e).toNat) :
    ∃ R E hR, Float.Model.UnpackedFloat.round .binary64 s N e = .finite s R E hR ∧
      Normalized R E ∧ (compare E et).then (compare R m) ≠ .gt := by
  obtain ⟨F, R1, Rf, Ef, hRf, hround, hFlo, -, -, hR1hi, hexact, hcase, hn⟩ :=
    round_spec s hN he
  refine ⟨Rf, Ef, hRf, hround, hn, ?_⟩
  have hN0 : N ≠ 0 := Nat.pos_iff_ne_zero.1 hN
  -- the target exponent is at most `t`'s: `N` has at most `53 + (et - e)` bits
  have hE0 : max ((N.log2 : Int) + 1 + e - 53) (-1074) ≤ et := by
    have hpow : N < 2 ^ (53 + (et - e).toNat) := by
      rw [Nat.pow_add]
      exact lt_of_le_of_lt h (Nat.mul_lt_mul_of_pos_right ht.1 (Nat.two_pow_pos _))
    have := (Nat.log2_lt hN0).2 hpow
    have := ht.2.1
    omega
  rcases lt_or_eq_of_le hE0 with hlt | heq
  · -- a smaller target exponent: only a carry reaches `t`'s exponent, with the least
    rcases hcase with ⟨-, -, rfl⟩ | ⟨-, rfl, rfl⟩
    · simp [Int.compare_eq_lt.2 hlt]
    · rcases lt_or_eq_of_le (show max ((N.log2 : Int) + 1 + e - 53) (-1074) + 1 ≤ et by omega)
        with hlt' | heq'
      · simp [Int.compare_eq_lt.2 hlt']
      · have hm : 2 ^ 52 ≤ m := ht.2.2 (by omega)
        rw [heq', Int.compare_eq_eq.2 rfl]
        simp only [Ordering.then, ne_eq, Nat.compare_eq_gt]
        omega
  · -- the same exponent: the floor is at most `m`, and reaches it only when exact
    rw [heq] at hFlo hexact hcase
    rw [min_eq_left het, Int.sub_self, Int.toNat_zero, Nat.pow_zero, Nat.mul_one] at hFlo hexact
    have hFm : F ≤ m := Nat.le_of_mul_le_mul_right (le_trans hFlo h) (Nat.two_pow_pos _)
    have hR1m : R1 ≤ m := by
      rcases lt_or_eq_of_le hFm with hlt | rfl
      · omega
      · have hNeq : N = F * 2 ^ (et - e).toNat := le_antisymm h hFlo
        rw [hexact (by rw [hNeq, Nat.mul_mod_left])]
    rcases hcase with ⟨-, rfl, rfl⟩ | ⟨hcarry, -, -⟩
    · rw [Int.compare_eq_eq.2 rfl]
      simp only [Ordering.then, ne_eq]
      rw [Nat.compare_eq_gt]
      omega
    · have := ht.1
      omega

/-! ## Packing -/

theorem unpack_packedInfinity (s : Sign) :
    unpack .binary64 (packedInfinity .binary64 s) = .infinity s := by
  cases s <;> rfl

theorem unpack_pack_zero (s : Sign) :
    unpack .binary64 (pack .binary64 (.zero s)) = .zero s := by
  cases s <;> rfl

theorem unpack_pack_nan : unpack .binary64 (pack .binary64 .notANumber) = .notANumber := rfl

theorem unpack_normal {s : Sign} {k R : Nat} (hk : 0 < k) (hk' : k < 2047)
    (hR : 2 ^ 52 ≤ R) (hR' : R < 2 ^ 53) :
    unpack .binary64 (packComponents .binary64 s (BitVec.ofNat Format.binary64.exponentBits k)
      (BitVec.ofNat Format.binary64.mantissaBitsWithoutImplicit R)) =
      .finite s R (k - 1075) (by omega) := by
  have hkv : (BitVec.ofNat 11 k).toNat = k := by
    rw [BitVec.toNat_ofNat]
    exact Nat.mod_eq_of_lt (by omega)
  have hne1 : BitVec.ofNat 11 k ≠ -1#11 := BitVec.toNat_ne.2 (by
    simp only [hkv, BitVec.neg_one_eq_allOnes, BitVec.toNat_allOnes]
    omega)
  have hne0 : BitVec.ofNat 11 k ≠ 0#11 := BitVec.toNat_ne.2 (by
    simp only [hkv, BitVec.toNat_zero]
    omega)
  have hmant : (1#1 ++ BitVec.ofNat 52 R).toNat = R := by
    rw [BitVec.toNat_append, ← Nat.shiftLeft_add_eq_or_of_lt (BitVec.ofNat 52 R).isLt]
    simp only [BitVec.toNat_ofNat, Nat.shiftLeft_eq]
    omega
  unfold unpack
  simp only [unpackMantissa_packComponents, unpackExponent_packComponents,
    unpackSign_packComponents]
  rw [if_neg hne1, if_neg hne0]
  simp only [Float.Model.UnpackedFloat.finite.injEq, true_and, hkv, hmant]
  rfl

theorem unpack_subnormal {s : Sign} {R : Nat} (hR : 0 < R) (hR' : R < 2 ^ 52) :
    unpack .binary64 (packComponents .binary64 s (BitVec.ofNat Format.binary64.exponentBits 0)
      (BitVec.ofNat Format.binary64.mantissaBitsWithoutImplicit R)) =
      .finite s R (-1074) hR := by
  have hmv : (BitVec.ofNat 52 R).toNat = R := by
    rw [BitVec.toNat_ofNat]
    exact Nat.mod_eq_of_lt hR'
  have hmz : BitVec.ofNat 52 R ≠ 0#52 := BitVec.toNat_ne.2 (by
    simp only [hmv, BitVec.toNat_zero]
    omega)
  unfold unpack
  simp only [unpackMantissa_packComponents, unpackExponent_packComponents,
    unpackSign_packComponents]
  rw [if_neg (by decide), if_pos trivial, dif_neg hmz]
  simp only [Float.Model.UnpackedFloat.finite.injEq, true_and, hmv]
  rfl

/-- Packing a normalized finite double and unpacking it gives it back, unless its exponent
is past the largest, where it overflows to an infinity of its sign. -/
theorem unpack_pack_finite {s : Sign} {R : Nat} {E : Int} {hR : 0 < R} (hn : Normalized R E) :
    unpack .binary64 (pack .binary64 (.finite s R E hR)) =
      if 972 ≤ E then .infinity s else .finite s R E hR := by
  obtain ⟨h53, hlow, hnorm⟩ := hn
  have hbias : ((Format.binary64.exponentBias : Nat) : Int) = 1023 := rfl
  unfold pack
  dsimp only
  split
  · rename_i hover
    rw [if_pos (by omega), unpack_packedInfinity]
  · rename_i hfit
    rw [if_neg (show ¬ 972 ≤ E by omega)]
    split
    · rename_i hnormal
      have h52 : 2 ^ 52 ≤ R := (Nat.le_log2 (Nat.pos_iff_ne_zero.1 hR)).1 (by
        simp only [Format.mantissaBits] at hnormal
        omega)
      rw [unpack_normal (by omega) (by omega) h52 h53]
      simp only [Float.Model.UnpackedFloat.finite.injEq, true_and]
      omega
    · rename_i hsub
      have hR52 : R < 2 ^ 52 := (Nat.log2_lt (Nat.pos_iff_ne_zero.1 hR)).1 (by
        have := (Nat.log2_lt (Nat.pos_iff_ne_zero.1 hR)).2 h53
        simp only [Format.mantissaBits] at hsub
        omega)
      have hE : E = -1074 := by
        by_contra hne
        have := hnorm (by omega)
        omega
      subst hE
      exact unpack_subnormal hR hR52

theorem unpack_finite_le {b : BitVec Format.binary64.numBits} {s : Sign} {m : Nat} {e : Int}
    {hm : 0 < m} (h : unpack .binary64 b = .finite s m e hm) : e ≤ 971 := by
  have hexp : (unpackExponent b).toNat < 2 ^ 11 := (unpackExponent b).isLt
  have hbias : ((Format.binary64.exponentBias : Nat) : Int) = 1023 := rfl
  unfold unpack at h
  dsimp only at h
  split at h
  · split at h <;> cases h
  · rename_i hmax
    split at h
    · rename_i hzero
      split at h
      · cases h
      · cases h
        have h0 : (unpackExponent b).toNat = 0 := by
          rw [hzero]
          rfl
        rw [hbias, h0]
        omega
    · cases h
      have hne : (unpackExponent b).toNat ≠ 2047 := fun h2047 =>
        hmax (BitVec.eq_of_toNat_eq (by simpa using h2047))
      rw [hbias]
      omega

/-- Packing an unpacked double and unpacking it again gives it back. -/
theorem unpack_pack_unpack (b : BitVec Format.binary64.numBits) :
    unpack .binary64 (pack .binary64 (unpack .binary64 b)) = unpack .binary64 b := by
  cases h : unpack .binary64 b with
  | notANumber => rfl
  | infinity s => exact unpack_packedInfinity s
  | zero s => cases s <;> rfl
  | finite s m e hm =>
    rw [unpack_pack_finite (unpack_finite_bounds h),
      if_neg (by have := unpack_finite_le h; omega)]

end Transport
