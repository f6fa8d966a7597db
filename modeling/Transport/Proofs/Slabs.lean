import Transport.Proofs.Binning
import Transport.Geometry
/-!
# Slab geometry

Slab geometry is cut by planes `x = p₀ < p₁ < … < pₙ`. The locator counts the planes at or
below `x` (the planes are in order, so they are a prefix) and answers the layer just below
the first plane above `x`; the boundary search works out the plane ahead and the layer
beyond it with its own index arithmetic. The two descriptions agree:

* `Geometry.slabsOf_eq_ok_iff`: the planes accepted are the lists of at least two finite,
  strictly increasing doubles;
* `Geometry.locate_slabs_eq_some_iff`: a position lies in volume `i` exactly when it is
  finite and `pᵢ ≤ x < pᵢ₊₁`, so layers are half open, and `Geometry.locate_slabs_outside`:
  there is nothing outside the outermost planes;
* `Geometry.findBoundary_slabs_spec`: the boundary ahead, branch by branch;
* `Geometry.locate_past_crossing`: the volume beyond a boundary is the one the locator
  gives just past the plane crossed, in the direction of travel;
* `slab_geometry_is_consistent`: all of it, for every accepted list of planes.

Doubles are compared as the code compares them. Planes that are finite and in order are
never NaN, so on them and on finite positions the order is total (`Float.lt_of_not_le`),
and "not at or below `x`" is "above `x`".
-/
namespace Transport

/-! ## Doubles that are numbers -/

theorem Float.isNaN_of_isFinite {a : Float} (h : a.isFinite = true) : a.isNaN = false := by
  rw [Bool.eq_false_iff]
  intro hn
  rw [Float.isNaN_iff] at hn
  have hfin : a.toModel.unpack.isFinite = true := h
  rw [hn] at hfin
  cases hfin

theorem Vec3.isNaN_x_of_isFinite {v : Vec3} (h : v.isFinite = true) : v.x.isNaN = false := by
  simp only [Vec3.isFinite, Bool.and_eq_true] at h
  exact Float.isNaN_of_isFinite h.1.1

/-- Of two doubles that are not NaN, one not at or below the other is above it. -/
theorem Float.lt_of_not_le {a b : Float} (ha : a.isNaN = false) (hb : b.isNaN = false)
    (h : ¬ a ≤ b) : b < a := by
  rw [Float.le_iff_rank] at h
  rw [Float.lt_iff_rank]
  exact ⟨hb, ha, lt_of_not_ge fun hle => h ⟨ha, hb, hle⟩⟩

theorem Float.lt_trans {a b c : Float} (hab : a < b) (hbc : b < c) : a < c :=
  Float.lt_of_lt_of_le hab (Float.le_of_lt hbc)

theorem Float.pos_or_neg_of_beq_zero {x : Float} (hx : x.isNaN = false)
    (h : (x == 0.0) = false) : 0.0 < x ∨ x < 0.0 := by
  by_contra hne
  rw [not_or] at hne
  -- neither above nor below zero is one of the two zeros, which compare equal to `0.0`
  obtain ⟨s, hs⟩ := Float.unpack_zero_of_le_of_not_lt (Float.le_of_not_lt rfl hx hne.1) hne.2
  have heq : (x == 0.0) = true := by
    rw [Float.beq_iff_compare, hs, Float.unpack_zero]
    cases s <;> rfl
  rw [h] at heq
  cases heq

theorem maxNum_zero_nonneg (x : Float) : 0.0 ≤ maxNum x 0.0 := by
  rcases maxNum_zero_cases x with h | h
  · rw [h]
    exact Float.le_refl_of_not_isNaN rfl
  · exact Float.le_of_lt h

/-! ## Where `takeWhile` stops -/

namespace List

variable {α : Type}

theorem takeWhile_length_spec (p : α → Bool) : ∀ l : List α,
    (l.takeWhile p).length ≤ l.length ∧
      (∀ j < (l.takeWhile p).length, ∀ x, l[j]? = some x → p x = true) ∧
      ∀ x, l[(l.takeWhile p).length]? = some x → p x = false
  | [] => ⟨Nat.le_refl _, fun j hj => absurd hj (Nat.not_lt_zero j), fun x hx => by simp at hx⟩
  | a :: l => by
    rw [List.takeWhile_cons]
    by_cases ha : p a = true
    · obtain ⟨hle, hpass, hstop⟩ := takeWhile_length_spec p l
      rw [if_pos ha]
      refine ⟨by simpa using hle, fun j hj x hx => ?_, fun x hx => hstop x (by simpa using hx)⟩
      cases j with
      | zero =>
        simp only [List.getElem?_cons_zero, Option.some.injEq] at hx
        exact hx ▸ ha
      | succ j => exact hpass j (by simpa using hj) x (by simpa using hx)
    · rw [if_neg ha]
      refine ⟨Nat.zero_le _, fun j hj => absurd hj (Nat.not_lt_zero j), fun x hx => ?_⟩
      simp only [List.length_nil, List.getElem?_cons_zero, Option.some.injEq] at hx
      simpa [hx] using ha

theorem takeWhile_length_eq {p : α → Bool} {l : List α} {m : Nat} (hm : m ≤ l.length)
    (hpass : ∀ j < m, ∀ x, l[j]? = some x → p x = true)
    (hstop : ∀ x, l[m]? = some x → p x = false) : (l.takeWhile p).length = m := by
  obtain ⟨hle, hpass', hstop'⟩ := takeWhile_length_spec p l
  rcases Nat.lt_trichotomy (l.takeWhile p).length m with hlt | heq | hgt
  · -- the entry where `takeWhile` stopped lies before `m`, so it passes
    obtain ⟨x, hx⟩ : ∃ x, l[(l.takeWhile p).length]? = some x :=
      ⟨_, List.getElem?_eq_getElem (by omega)⟩
    have hx' := hpass _ hlt x hx
    rw [hstop' x hx] at hx'
    cases hx'
  · exact heq
  · obtain ⟨x, hx⟩ : ∃ x, l[m]? = some x := ⟨_, List.getElem?_eq_getElem (by omega)⟩
    have hx' := hpass' m hgt x hx
    rw [hstop x hx] at hx'
    cases hx'

end List

/-! ## The planes slab geometry accepts -/

theorem getElem?_eq_getD {l : List Float} {j : Nat} (h : j < l.length) :
    l[j]? = some (l.getD j 0.0) := by
  rw [List.getD_eq_getElem?_getD, List.getElem?_eq_getElem h, Option.getD_some]

theorem getD_toArray {planes : List Float} {k : Nat} (hk : k < planes.length) :
    planes.toArray.getD k 0 = planes.getD k 0.0 := by
  rw [Array.getD_eq_getD_getElem?, List.getElem?_toArray, List.getElem?_eq_getElem hk,
    List.getD_eq_getElem?_getD, List.getElem?_eq_getElem hk, Option.getD_some, Option.getD_some]

theorem strictlyIncreasing_lt : ∀ {l : List Float}, strictlyIncreasing l = true →
    ∀ {i j : Nat} {x y : Float}, i < j → l[i]? = some x → l[j]? = some y → x < y
  | [], _, _, _, _, _, _, hx, _ => by simp at hx
  | [_], _, _, j, _, _, hij, _, hy => by
    cases j with
    | zero => omega
    | succ j => simp at hy
  | a :: b :: rest, h, i, j, x, y, hij, hx, hy => by
    simp only [strictlyIncreasing, Bool.and_eq_true, decide_eq_true_eq] at h
    obtain ⟨hab, hrest⟩ := h
    cases j with
    | zero => omega
    | succ j =>
      rw [List.getElem?_cons_succ] at hy
      cases i with
      | zero =>
        simp only [List.getElem?_cons_zero, Option.some.injEq] at hx
        subst hx
        cases j with
        | zero =>
          simp only [List.getElem?_cons_zero, Option.some.injEq] at hy
          exact hy ▸ hab
        | succ j =>
          exact Float.lt_trans hab (strictlyIncreasing_lt hrest (Nat.zero_lt_succ j) rfl hy)
      | succ i =>
        rw [List.getElem?_cons_succ] at hx
        exact strictlyIncreasing_lt hrest (by omega) hx hy

/-- Slab geometry accepts exactly the lists of at least two planes, all finite and strictly
increasing, and keeps them as they are. -/
theorem Geometry.slabsOf_eq_ok_iff {planes : List Float} {g : Geometry} :
    Geometry.slabsOf planes = .ok g ↔
      2 ≤ planes.length ∧ (∀ p ∈ planes, p.isFinite = true) ∧
        strictlyIncreasing planes = true ∧ g = .slabs planes.toArray := by
  constructor
  · intro h
    unfold Geometry.slabsOf at h
    split at h
    · cases h
    · rename_i hlen
      split at h
      · cases h
      · rename_i hfin
        split at h
        · cases h
        · rename_i hinc
          cases h
          refine ⟨by omega, fun p hp => ?_, by simpa using hinc, rfl⟩
          simp only [List.any_eq_true, Bool.not_eq_eq_eq_not, Bool.not_true, not_exists,
            not_and] at hfin
          simpa using hfin p hp
  · rintro ⟨hlen, hfin, hinc, rfl⟩
    unfold Geometry.slabsOf
    rw [if_neg (by omega), if_neg (by simpa using hfin), if_neg (by simpa using hinc)]

theorem Geometry.planesAtOrBelow_toArray (planes : List Float) (x : Float) :
    Geometry.planesAtOrBelow planes.toArray x =
      (planes.takeWhile fun p => decide (p ≤ x)).length := by
  simp only [Geometry.planesAtOrBelow]

/-! ## The boundary ahead -/

/-- The boundary ahead in a slab, branch by branch. Outside the layers, or moving parallel
to the planes, there is none. Otherwise, moving toward `+x` it is the plane above, with the
layer above it beyond (none past the last plane); moving any other way, the plane below,
with the layer below it beyond (none before the first plane). The distance is
`(p - x) / dₓ`, clamped at zero. -/
theorem Geometry.findBoundary_slabs_spec (planes : List Float) (pos dir : Vec3) (i : Nat) :
    ((Geometry.slabs planes.toArray).findBoundary pos dir i = BoundaryHit.none ∧
      (planes.length ≤ i + 1 ∨ (dir.x == 0.0) = true)) ∨
    (i + 1 < planes.length ∧ (dir.x == 0.0) = false ∧ 0.0 < dir.x ∧
      (Geometry.slabs planes.toArray).findBoundary pos dir i =
        ⟨maxNum ((planes.getD (i + 1) 0.0 - pos.x) / dir.x) 0.0,
          if i + 1 < planes.length - 1 then some (i + 1) else none, some (i + 1)⟩) ∨
    (i + 1 < planes.length ∧ (dir.x == 0.0) = false ∧ ¬ 0.0 < dir.x ∧
      (Geometry.slabs planes.toArray).findBoundary pos dir i =
        ⟨maxNum ((planes.getD i 0.0 - pos.x) / dir.x) 0.0,
          if 0 < i then some (i - 1) else none, some i⟩) := by
  by_cases hnone : planes.length ≤ i + 1 ∨ (dir.x == 0.0) = true
  · refine .inl ⟨?_, hnone⟩
    simp only [Geometry.findBoundary, List.size_toArray, ge_iff_le]
    rw [if_pos (by simpa using hnone)]
  · simp only [not_or, Nat.not_le, Bool.not_eq_true] at hnone
    obtain ⟨hi, hzero⟩ := hnone
    have hin : (decide (planes.length ≤ i + 1) || dir.x == 0.0) = false := by
      simpa using ⟨hi, hzero⟩
    by_cases hpos : 0.0 < dir.x
    · refine .inr (.inl ⟨hi, hzero, hpos, ?_⟩)
      simp only [Geometry.findBoundary, List.size_toArray, ge_iff_le, hin, gt_iff_lt, hpos,
        if_true, Bool.false_eq_true, if_false, getD_toArray hi]
      by_cases h2 : i + 1 < planes.length - 1
      · rw [if_pos h2, if_pos (by omega)]
      · rw [if_neg h2, if_neg (by omega)]
    · refine .inr (.inr ⟨hi, hzero, hpos, ?_⟩)
      simp only [Geometry.findBoundary, List.size_toArray, ge_iff_le, hin, gt_iff_lt, hpos,
        Bool.false_eq_true, if_false, getD_toArray (Nat.lt_of_succ_lt hi)]

theorem Geometry.findBoundary_slabs_distance_nonneg (planes : List Float) (pos dir : Vec3)
    (i : Nat) : 0.0 ≤ ((Geometry.slabs planes.toArray).findBoundary pos dir i).distance := by
  rcases Geometry.findBoundary_slabs_spec planes pos dir i with
    ⟨h, -⟩ | ⟨-, -, -, h⟩ | ⟨-, -, -, h⟩ <;> rw [h]
  · decide
  · exact maxNum_zero_nonneg _
  · exact maxNum_zero_nonneg _

/-- The positions just past plane `k` in the direction of travel, up to the next plane:
toward `+x` (`up`), at or above plane `k` and below the plane after it; toward `-x`, below
plane `k` and at or above the plane before it. -/
def PastPlane (planes : List Float) (k : Nat) (up : Bool) (x : Float) : Prop :=
  if up then planes.getD k 0.0 ≤ x ∧ (k + 1 < planes.length → x < planes.getD (k + 1) 0.0)
  else x < planes.getD k 0.0 ∧ (0 < k → planes.getD (k - 1) 0.0 ≤ x)

/-! ## Locating positions, and the volume beyond a boundary -/

section Accepted

variable {planes : List Float} (hfin : ∀ p ∈ planes, p.isFinite = true)
  (hinc : strictlyIncreasing planes = true)
include hfin hinc

theorem planes_le {i j : Nat} (hij : i ≤ j) (hj : j < planes.length) :
    planes.getD i 0.0 ≤ planes.getD j 0.0 := by
  rcases Nat.lt_or_eq_of_le hij with hlt | rfl
  · exact Float.le_of_lt
      (strictlyIncreasing_lt hinc hlt (getElem?_eq_getD (by omega)) (getElem?_eq_getD hj))
  · exact Float.le_refl_of_not_isNaN
      (Float.isNaN_of_isFinite (hfin _ (List.mem_of_getElem? (getElem?_eq_getD hj))))

/-- **Slabs are half-open layers.** A position lies in volume `i` exactly when it is
finite and `pᵢ ≤ x < pᵢ₊₁`. -/
theorem Geometry.locate_slabs_eq_some_iff (pos : Vec3) (i : Nat) :
    (Geometry.slabs planes.toArray).locate pos = some i ↔
      pos.isFinite = true ∧ i + 1 < planes.length ∧
        planes.getD i 0.0 ≤ pos.x ∧ pos.x < planes.getD (i + 1) 0.0 := by
  have hnan : ∀ j (y : Float), planes[j]? = some y → y.isNaN = false := fun j (y : Float) hy =>
    Float.isNaN_of_isFinite (hfin y (List.mem_of_getElem? hy))
  simp only [Geometry.locate, Geometry.planesAtOrBelow_toArray, List.size_toArray]
  by_cases hpos : pos.isFinite = true
  · have hx := Vec3.isNaN_x_of_isFinite hpos
    obtain ⟨hle, hpass, hstop⟩ :=
      List.takeWhile_length_spec (fun p => decide (p ≤ pos.x)) planes
    generalize hk : (planes.takeWhile fun p => decide (p ≤ pos.x)).length = k at hle hpass hstop
    simp only [hpos, Bool.not_true, Bool.false_eq_true, if_false, true_and]
    constructor
    · intro h
      split at h
      · cases h
      · rename_i hk0
        simp only [Bool.or_eq_true, decide_eq_true_eq, not_or] at hk0
        obtain rfl : k - 1 = i := Option.some.inj h
        have hlt : k < planes.length := by omega
        refine ⟨by omega, ?_, ?_⟩
        · -- the last plane at or below `x`
          simpa using hpass (k - 1) (by omega) _ (getElem?_eq_getD (by omega))
        · -- the first plane above `x`
          rw [show k - 1 + 1 = k by omega]
          have hs := hstop _ (getElem?_eq_getD hlt)
          rw [decide_eq_false_iff_not] at hs
          exact Float.lt_of_not_le (hnan k _ (getElem?_eq_getD hlt)) hx hs
    · rintro ⟨hi, hlo, hhi⟩
      have hki : k = i + 1 := by
        rw [← hk]
        refine List.takeWhile_length_eq (Nat.le_of_lt hi) (fun j hj y hy => ?_) (fun y hy => ?_)
        · rw [decide_eq_true_eq]
          rcases Nat.lt_succ_iff_lt_or_eq.1 hj with hj | rfl
          · exact Float.le_of_lt (Float.lt_of_lt_of_le
              (strictlyIncreasing_lt hinc hj hy (getElem?_eq_getD (by omega))) hlo)
          · rw [getElem?_eq_getD (by omega), Option.some.injEq] at hy
            exact hy ▸ hlo
        · rw [getElem?_eq_getD hi, Option.some.injEq] at hy
          rw [decide_eq_false_iff_not, ← hy]
          exact fun hle => Float.not_lt_of_le hle hhi
      subst hki
      simp only [Nat.add_one_ne_zero, decide_false, Bool.false_or, decide_eq_true_eq,
        Nat.add_sub_cancel]
      rw [if_neg (by omega)]
  · simp [hpos]

/-- Nothing lies outside the outermost planes: a position below the first plane, or at or
above the last, is in no volume. -/
theorem Geometry.locate_slabs_outside (pos : Vec3)
    (hout : pos.x < planes.getD 0 0.0 ∨ planes.getD (planes.length - 1) 0.0 ≤ pos.x) :
    (Geometry.slabs planes.toArray).locate pos = none := by
  cases hloc : (Geometry.slabs planes.toArray).locate pos with
  | none => rfl
  | some j =>
    obtain ⟨-, hj, hlo, hhi⟩ := (Geometry.locate_slabs_eq_some_iff hfin hinc pos j).1 hloc
    rcases hout with hout | hout
    · -- layer `j` starts at or above the first plane
      exact absurd (Float.le_trans (planes_le hfin hinc (Nat.zero_le j) (by omega)) hlo)
        (fun hle => Float.not_lt_of_le hle hout)
    · -- layer `j` ends at or below the last plane
      exact absurd (Float.le_trans (planes_le hfin hinc (by omega) (by omega)) hout)
        (fun hle => Float.not_lt_of_le hle hhi)

theorem Geometry.locate_past_up {k : Nat} {q : Vec3} (hq : q.isFinite = true)
    (hpast : PastPlane planes k true q.x) (hk : k < planes.length) :
    (Geometry.slabs planes.toArray).locate q = if k < planes.length - 1 then some k else none := by
  simp only [PastPlane, if_true] at hpast
  obtain ⟨hlo, hhi⟩ := hpast
  split
  · rename_i hlt
    have hk1 : k + 1 < planes.length := by omega
    exact (Geometry.locate_slabs_eq_some_iff hfin hinc q k).2 ⟨hq, hk1, hlo, hhi hk1⟩
  · -- plane `k` is the last
    have hlast : planes.length - 1 = k := by omega
    exact Geometry.locate_slabs_outside hfin hinc q (.inr (by rwa [hlast]))

theorem Geometry.locate_past_down {k : Nat} {q : Vec3} (hq : q.isFinite = true)
    (hpast : PastPlane planes k false q.x) (hk : k < planes.length) :
    (Geometry.slabs planes.toArray).locate q = if 0 < k then some (k - 1) else none := by
  simp only [PastPlane, Bool.false_eq_true, if_false] at hpast
  obtain ⟨hhi, hlo⟩ := hpast
  split
  · rename_i hk0
    refine (Geometry.locate_slabs_eq_some_iff hfin hinc q (k - 1)).2 ⟨hq, by omega, hlo hk0, ?_⟩
    rwa [Nat.sub_add_cancel hk0]
  · rename_i hk0
    obtain rfl : k = 0 := by omega
    exact Geometry.locate_slabs_outside hfin hinc q (.inl hhi)

/-- The volume beyond a slab boundary is the one the locator gives just past the plane
crossed, in the direction of travel. -/
theorem Geometry.locate_past_crossing {pos dir q : Vec3} {i k : Nat}
    (hk : ((Geometry.slabs planes.toArray).findBoundary pos dir i).surface = some k)
    (hq : q.isFinite = true) (hpast : PastPlane planes k (decide (0.0 < dir.x)) q.x) :
    (Geometry.slabs planes.toArray).locate q =
      ((Geometry.slabs planes.toArray).findBoundary pos dir i).nextVolume := by
  rcases Geometry.findBoundary_slabs_spec planes pos dir i with
    ⟨h, -⟩ | ⟨hi, -, hpos, h⟩ | ⟨hi, -, hpos, h⟩ <;> rw [h] at hk ⊢
  · cases hk
  · cases hk
    rw [decide_eq_true hpos] at hpast
    exact Geometry.locate_past_up hfin hinc hq hpast hi
  · cases hk
    rw [decide_eq_false hpos] at hpast
    exact Geometry.locate_past_down hfin hinc hq hpast (by omega)

end Accepted

/-- **Slab geometry is consistent.** For planes that slab geometry accepts: there is one
volume fewer than planes; a position lies in volume `i` exactly when it is finite and
`pᵢ ≤ x < pᵢ₊₁`; from a volume, along a finite direction not parallel to the planes, the
boundary is the plane above (toward `+x`) or below (toward `-x`), at the clamped distance
`(p - x) / dₓ`, with the neighbouring volume beyond it or none past the outermost plane;
no boundary distance is below zero; and the volume beyond any boundary crossed is the one
the locator gives for the positions just past that plane. -/
theorem slab_geometry_is_consistent {planes : List Float} {g : Geometry}
    (hg : Geometry.slabsOf planes = .ok g) :
    g.numVolumes = planes.length - 1 ∧
    (∀ (pos : Vec3) (i : Nat), g.locate pos = some i ↔
      pos.isFinite = true ∧ i + 1 < planes.length ∧
        planes.getD i 0.0 ≤ pos.x ∧ pos.x < planes.getD (i + 1) 0.0) ∧
    (∀ (pos dir : Vec3) (i : Nat), i < g.numVolumes → dir.isFinite = true →
      (dir.x == 0.0) = false →
      (0.0 < dir.x ∧ g.findBoundary pos dir i =
          ⟨maxNum ((planes.getD (i + 1) 0.0 - pos.x) / dir.x) 0.0,
            if i + 1 < g.numVolumes then some (i + 1) else none, some (i + 1)⟩) ∨
      (dir.x < 0.0 ∧ g.findBoundary pos dir i =
          ⟨maxNum ((planes.getD i 0.0 - pos.x) / dir.x) 0.0,
            if 0 < i then some (i - 1) else none, some i⟩)) ∧
    (∀ (pos dir : Vec3) (i : Nat), 0.0 ≤ (g.findBoundary pos dir i).distance) ∧
    (∀ (pos dir q : Vec3) (i k : Nat), (g.findBoundary pos dir i).surface = some k →
      q.isFinite = true → PastPlane planes k (decide (0.0 < dir.x)) q.x →
      g.locate q = (g.findBoundary pos dir i).nextVolume) := by
  obtain ⟨hlen, hfin, hinc, rfl⟩ := Geometry.slabsOf_eq_ok_iff.1 hg
  have hvol : (Geometry.slabs planes.toArray).numVolumes = planes.length - 1 := by
    simp [Geometry.numVolumes]
  refine ⟨hvol, Geometry.locate_slabs_eq_some_iff hfin hinc,
    fun pos dir i hi hdir hzero => ?_, Geometry.findBoundary_slabs_distance_nonneg planes,
    fun pos dir q i k hk hq hpast => Geometry.locate_past_crossing hfin hinc hk hq hpast⟩
  rw [hvol] at hi ⊢
  rcases Geometry.findBoundary_slabs_spec planes pos dir i with
    ⟨-, hnone⟩ | ⟨-, -, hpos, h⟩ | ⟨-, -, hpos, h⟩
  · rcases hnone with hn | hn
    · omega
    · rw [hzero] at hn
      cases hn
  · exact .inl ⟨hpos, h⟩
  · -- a direction that is a number and not zero, and not toward `+x`, is toward `-x`
    exact .inr ⟨(Float.pos_or_neg_of_beq_zero (Vec3.isNaN_x_of_isFinite hdir) hzero).resolve_left
      hpos, h⟩

/-- The three planes of the reference slabs, `0 < 1 < 3`, are accepted, and their geometry is
consistent. -/
theorem slab_geometry_is_consistent_on_three_planes :
    let planes : List Float := [0.0, 1.0, 3.0]
    let g := Geometry.slabs #[0.0, 1.0, 3.0]
    Geometry.slabsOf planes = .ok g ∧
    (g.numVolumes = planes.length - 1 ∧
    (∀ (pos : Vec3) (i : Nat), g.locate pos = some i ↔
      pos.isFinite = true ∧ i + 1 < planes.length ∧
        planes.getD i 0.0 ≤ pos.x ∧ pos.x < planes.getD (i + 1) 0.0) ∧
    (∀ (pos dir : Vec3) (i : Nat), i < g.numVolumes → dir.isFinite = true →
      (dir.x == 0.0) = false →
      (0.0 < dir.x ∧ g.findBoundary pos dir i =
          ⟨maxNum ((planes.getD (i + 1) 0.0 - pos.x) / dir.x) 0.0,
            if i + 1 < g.numVolumes then some (i + 1) else none, some (i + 1)⟩) ∨
      (dir.x < 0.0 ∧ g.findBoundary pos dir i =
          ⟨maxNum ((planes.getD i 0.0 - pos.x) / dir.x) 0.0,
            if 0 < i then some (i - 1) else none, some i⟩)) ∧
    (∀ (pos dir : Vec3) (i : Nat), 0.0 ≤ (g.findBoundary pos dir i).distance) ∧
    (∀ (pos dir q : Vec3) (i k : Nat), (g.findBoundary pos dir i).surface = some k →
      q.isFinite = true → PastPlane planes k (decide (0.0 < dir.x)) q.x →
      g.locate q = (g.findBoundary pos dir i).nextVolume)) :=
  have hacc : Geometry.slabsOf [0.0, 1.0, 3.0] = .ok (.slabs #[0.0, 1.0, 3.0]) := rfl
  ⟨hacc, slab_geometry_is_consistent hacc⟩

end Transport
