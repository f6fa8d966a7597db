import Mathlib
import Transport.Physics.Params
import Transport.Proofs.Doubles
/-!
# Sampling a model by its cross section

`selectModel` draws `u` in `[0, 1)` and walks the models in id order, skipping those without
a positive cross section and adding the others to a running sum, until the sum passes
`u · total`; when rounding leaves the target at the sum, it keeps the last model it added.
Here that walk is `sampleFrom`, written over any ordered scalars: `selectModel` is it over
doubles (`PhysicsParams.selectModel_eq_sample`), and over the reals it is the same walk in
exact arithmetic.

* `realValue`: the real number a double stands for, read off its unpacked form;
  `realValue_maxNum_zero`: clamping at zero is `max · 0` on the value.
* `sample_spec`, `eq_of_mem_slice`: in exact arithmetic, with weights not below zero and a
  positive total, every `u` in `[0, 1)` picks the one id whose slice
  `[Σ_{j<id} w j, Σ_{j≤id} w j)` holds `u · total`, and that id has a positive weight; the
  last-model fallback is never reached.
* `sample_probability`: the `u` that pick an id form an interval of length its weight over the
  total, so a uniform `u` picks it with that probability.
* `PhysicsParams.selection_samples_cross_sections`: the same for a registry, with the exact
  cross section of a model its own clamped at zero where the range stored at registration
  covers the track.
-/
namespace Transport

/-! ## The value of a double -/

/-- The real number an unpacked double stands for: `± m · 2^e` for a finite one, zero for a
zero; infinities and NaN stand for no real number and are sent to zero. -/
noncomputable def unpackedValue : Float.Model.UnpackedFloat → ℝ
  | .finite .positive m e _ => m * 2 ^ e
  | .finite .negative m e _ => -(m * 2 ^ e)
  | _ => 0

/-- The real number a double stands for (zero for infinities and NaN). -/
noncomputable def realValue (x : Float) : ℝ := unpackedValue x.toModel.unpack

theorem realValue_zero : realValue 0.0 = 0 := by
  simp [realValue, Float.unpack_zero, unpackedValue]

theorem realValue_of_isNaN {x : Float} (h : x.isNaN = true) : realValue x = 0 := by
  simp [realValue, Float.isNaN_iff.1 h, unpackedValue]

theorem realValue_nonpos_of_lt {x : Float} (h : x < 0.0) : realValue x ≤ 0 := by
  rw [Float.lt_zero_iff] at h
  unfold realValue
  cases hx : x.toModel.unpack with
  | finite s m e hm => cases s <;> simp_all [isBelowZero, unpackedValue]; positivity
  | _ => simp [unpackedValue]

theorem realValue_nonneg_of_not_lt {x : Float} (h : ¬ x < 0.0) : 0 ≤ realValue x := by
  rw [Float.lt_zero_iff] at h
  unfold realValue
  cases hx : x.toModel.unpack with
  | finite s m e hm => cases s <;> simp_all [isBelowZero, unpackedValue]; positivity
  | _ => simp [unpackedValue]

theorem realValue_of_beq_zero {x : Float} (h : ((0.0 : Float) == x) = true) : realValue x = 0 := by
  rw [Float.beq_iff_compare, Float.unpack_zero] at h
  unfold realValue
  cases hx : x.toModel.unpack with
  | finite s m e hm => cases s <;> simp_all [Float.Model.UnpackedFloat.compare]
  | _ => simp [unpackedValue]

/-- Clamping a double below at zero clamps its value: `maxNum` keeps a double not below zero
and gives `0.0` for one below zero, for a zero of either sign and for NaN. -/
theorem realValue_maxNum_zero (x : Float) : realValue (maxNum x 0.0) = max (realValue x) 0 := by
  unfold maxNum
  split
  · rename_i hnan
    rw [realValue_of_isNaN hnan, realValue_zero, max_self]
  · split
    · rename_i hzero
      simp only [Bool.or_eq_true, decide_eq_true_eq, Bool.and_eq_true] at hzero
      rw [realValue_zero, eq_comm, max_eq_right_iff]
      rcases hzero with hlt | ⟨hbeq, -⟩
      · exact realValue_nonpos_of_lt hlt
      · exact (realValue_of_beq_zero hbeq).le
    · rename_i hkeep
      simp only [Bool.or_eq_true, decide_eq_true_eq, not_or] at hkeep
      rw [eq_comm, max_eq_left_iff]
      exact realValue_nonneg_of_not_lt hkeep.1

/-! ## The sampling walk over any ordered scalars -/

section Search

variable {α : Type} [Add α] [LE α] [LT α] [DecidableLE α] [DecidableLT α]

/-- The walk over the ids left, with the weights `w`, the running sum `acc` and the last id
added: an id of weight at most `zero` is skipped; another is added to the sum and picked when
the target is below the new sum; past the last id, the last one added is picked. -/
def sampleFrom (zero : α) (w : ℕ → α) (target : α) : List ℕ → α → Option ℕ → Option ℕ
  | [], _, last => last
  | id :: rest, acc, last =>
    if w id ≤ zero then sampleFrom zero w target rest acc last
    else if target < acc + w id then some id
    else sampleFrom zero w target rest (acc + w id) (some id)

/-- Picks one of the ids below `n` for a draw `u`: none unless the total is above `zero`,
otherwise the walk from `zero` towards the target `u · total`. -/
def sample [Mul α] (zero : α) (w : ℕ → α) (total : α) (n : ℕ) (u : α) : Option ℕ :=
  if !(total > zero) then none else sampleFrom zero w (u * total) (List.range n) zero none

theorem sampleFrom_mem {zero : α} {w : ℕ → α} {target : α} :
    ∀ {ids : List ℕ} {acc : α} {last : Option ℕ} {id : ℕ},
      sampleFrom zero w target ids acc last = some id → id ∈ ids ∨ last = some id
  | [], _, _, _, h => .inr h
  | k :: rest, acc, last, id, h => by
    rw [sampleFrom] at h
    split at h
    · exact (sampleFrom_mem h).imp_left (List.mem_cons_of_mem k)
    · split at h
      · cases h
        exact .inl List.mem_cons_self
      · rcases sampleFrom_mem h with hmem | hlast
        · exact .inl (List.mem_cons_of_mem k hmem)
        · cases hlast
          exact .inl List.mem_cons_self

theorem sample_lt [Mul α] {zero : α} {w : ℕ → α} {total u : α} {n id : ℕ}
    (h : sample zero w total n u = some id) : id < n := by
  unfold sample at h
  split at h
  · cases h
  · rcases sampleFrom_mem h with hmem | hlast
    · exact List.mem_range.1 hmem
    · cases hlast

end Search

/-! ## The walk in exact arithmetic -/

section Exact

open Finset

variable (w : ℕ → ℝ)

theorem sampleFrom_range' (hw : ∀ j, 0 ≤ w j) (t : ℝ) :
    ∀ (m k : ℕ) (last : Option ℕ), ∑ j ∈ range k, w j ≤ t → t < ∑ j ∈ range (k + m), w j →
      ∃ id, sampleFrom 0 w t (List.range' k m) (∑ j ∈ range k, w j) last = some id ∧
        k ≤ id ∧ id < k + m ∧ 0 < w id ∧
        ∑ j ∈ range id, w j ≤ t ∧ t < ∑ j ∈ range (id + 1), w j
  | 0, k, _, hlo, hhi => absurd hhi (not_lt.2 hlo)
  | m + 1, k, last, hlo, hhi => by
    rw [List.range'_succ, sampleFrom]
    by_cases hzero : w k ≤ 0
    · -- a model without weight is skipped, and the sum so far does not move
      have hk : w k = 0 := le_antisymm hzero (hw k)
      have hsum : ∑ j ∈ range (k + 1), w j = ∑ j ∈ range k, w j := by
        rw [sum_range_succ, hk, add_zero]
      obtain ⟨id, hid, hk1, hlt, hpos, hslice⟩ := sampleFrom_range' hw t m (k + 1) last
        (hsum ▸ hlo) (by rwa [Nat.add_right_comm])
      rw [if_pos hzero, ← hsum]
      exact ⟨id, hid, by omega, by omega, hpos, hslice⟩
    · rw [if_neg hzero, ← sum_range_succ]
      by_cases hhit : t < ∑ j ∈ range (k + 1), w j
      · rw [if_pos hhit]
        exact ⟨k, rfl, le_refl k, by omega, lt_of_not_ge hzero, hlo, hhit⟩
      · -- the target lies past this model's slice: carry on with the sum up to it
        rw [if_neg hhit]
        obtain ⟨id, hid, hk1, hlt, hpos, hslice⟩ := sampleFrom_range' hw t m (k + 1) (some k)
          (le_of_not_gt hhit) (by rwa [Nat.add_right_comm])
        exact ⟨id, hid, by omega, by omega, hpos, hslice⟩

theorem sum_range_mono (hw : ∀ j, 0 ≤ w j) {i k : ℕ} (hik : i ≤ k) :
    ∑ j ∈ range i, w j ≤ ∑ j ∈ range k, w j :=
  sum_le_sum_of_subset_of_nonneg (range_subset_range.2 hik) fun j _ _ => hw j

/-- With weights not below zero, the slices of distinct ids do not meet. -/
theorem eq_of_mem_slice (hw : ∀ j, 0 ≤ w j) {t : ℝ} {a b : ℕ}
    (ha : ∑ j ∈ range a, w j ≤ t ∧ t < ∑ j ∈ range (a + 1), w j)
    (hb : ∑ j ∈ range b, w j ≤ t ∧ t < ∑ j ∈ range (b + 1), w j) : a = b := by
  rcases lt_trichotomy a b with hab | hab | hab
  · exact absurd (ha.2.trans_le ((sum_range_mono w hw hab).trans hb.1)) (lt_irrefl t)
  · exact hab
  · exact absurd (hb.2.trans_le ((sum_range_mono w hw hab).trans ha.1)) (lt_irrefl t)

/-- In exact arithmetic, for `u` in `[0, 1)` and a positive total, the search picks an id with
positive weight whose slice holds `u · total`. -/
theorem sample_spec (hw : ∀ j, 0 ≤ w j) (n : ℕ) (htot : 0 < ∑ j ∈ range n, w j) {u : ℝ}
    (hu0 : 0 ≤ u) (hu1 : u < 1) :
    ∃ id, sample 0 w (∑ j ∈ range n, w j) n u = some id ∧ id < n ∧ 0 < w id ∧
      ∑ j ∈ range id, w j ≤ u * ∑ j ∈ range n, w j ∧
      u * ∑ j ∈ range n, w j < ∑ j ∈ range (id + 1), w j := by
  have hpos : (!decide ((∑ j ∈ range n, w j) > 0)) = false := by simp [htot]
  unfold sample
  rw [if_neg (by rw [hpos]; decide), List.range_eq_range']
  obtain ⟨id, hid, -, hlt, hslice⟩ := sampleFrom_range' w hw _ n 0 none
    (by simpa using mul_nonneg hu0 htot.le) (by simpa using mul_lt_of_lt_one_left htot hu1)
  rw [sum_range_zero] at hid
  exact ⟨id, hid, by omega, hslice⟩

/-- For `u` uniform in `[0, 1)`, the search picks each id with probability its weight over
the total: the `u` that pick `id` are the slice of `id` scaled by the total. -/
theorem sample_probability (hw : ∀ j, 0 ≤ w j) (n : ℕ) (htot : 0 < ∑ j ∈ range n, w j)
    {id : ℕ} (hid : id < n) :
    (MeasureTheory.volume.restrict (Set.Ico (0 : ℝ) 1))
        {u | sample 0 w (∑ j ∈ range n, w j) n u = some id} =
      ENNReal.ofReal (w id / ∑ j ∈ range n, w j) := by
  rw [MeasureTheory.Measure.restrict_apply' measurableSet_Ico]
  have hslices : {u | sample 0 w (∑ j ∈ range n, w j) n u = some id} ∩ Set.Ico 0 1 =
      Set.Ico ((∑ j ∈ range id, w j) / ∑ j ∈ range n, w j)
        ((∑ j ∈ range (id + 1), w j) / ∑ j ∈ range n, w j) := by
    ext u
    simp only [Set.mem_inter_iff, Set.mem_ofPred_eq, Set.mem_Ico, div_le_iff₀ htot,
      lt_div_iff₀ htot]
    constructor
    · rintro ⟨hs, hu0, hu1⟩
      obtain ⟨id', hs', -, -, hslice⟩ := sample_spec w hw n htot hu0 hu1
      rw [hs, Option.some.injEq] at hs'
      exact hs' ▸ hslice
    · rintro ⟨hlo, hhi⟩
      -- the slice of an id below `n` lies in `[0, total)`, so `u` lies in `[0, 1)`
      have hu0 : 0 ≤ u := nonneg_of_mul_nonneg_left
        ((sum_nonneg fun j _ => hw j).trans hlo) htot
      have hu1 : u < 1 := (mul_lt_iff_lt_one_left htot).1
        (hhi.trans_le (sum_range_mono w hw hid))
      obtain ⟨id', hs', -, -, hslice⟩ := sample_spec w hw n htot hu0 hu1
      rw [eq_of_mem_slice w hw hslice ⟨hlo, hhi⟩] at hs'
      exact ⟨hs', hu0, hu1⟩
  rw [hslices, Real.volume_Ico, sum_range_succ, add_div, add_sub_cancel_left]

end Exact

/-! ## Model selection -/

namespace PhysicsParams

variable (p : PhysicsParams) (particle : ℕ) (energy : Float)

theorem selectFrom_eq_sampleFrom (target : Float) (ids : List ℕ) (acc : Float) (last : Option ℕ) :
    p.selectFrom particle energy target ids acc last =
      sampleFrom 0.0 (fun id => p.modelXs id particle energy) target ids acc last := by
  induction ids generalizing acc last with
  | nil => rfl
  | cons id rest ih =>
    simp only [selectFrom, sampleFrom, ih]

theorem selectModel_eq_sample (u : Float) :
    p.selectModel particle energy u =
      sample 0.0 (fun id => p.modelXs id particle energy) (p.totalXs particle energy)
        p.numModels u := by
  unfold selectModel sample
  dsimp only
  rw [selectFrom_eq_sampleFrom]

/-- Model `id`'s cross section at `(particle, energy)` in exact arithmetic: the real value of
`modelXs`. -/
noncomputable def exactXs (p : PhysicsParams) (id particle : ℕ) (energy : Float) : ℝ :=
  realValue (p.modelXs id particle energy)

/-- The total cross section in exact arithmetic. -/
noncomputable def exactTotal (p : PhysicsParams) (particle : ℕ) (energy : Float) : ℝ :=
  ∑ id ∈ Finset.range p.numModels, p.exactXs id particle energy

/-- `selectModel` in exact arithmetic: the same search over the exact cross sections. -/
noncomputable def exactSelect (p : PhysicsParams) (particle : ℕ) (energy : Float) (u : ℝ) :
    Option ℕ :=
  sample 0 (fun id => p.exactXs id particle energy) (p.exactTotal particle energy) p.numModels u

theorem exactXs_of_model {id : ℕ} {m : Model} (hm : p.model? id = some m) :
    p.exactXs id particle energy =
      if p.applies id particle energy then max (realValue m.macroXs) 0 else 0 := by
  unfold exactXs modelXs applies
  rw [show p.models[id]? = some m from hm]
  cases p.ranges[id]? with
  | none => exact realValue_zero
  | some a =>
    dsimp only
    split
    · exact realValue_maxNum_zero m.macroXs
    · exact realValue_zero

theorem exactXs_of_model_none {id : ℕ} (hm : p.model? id = none) :
    p.exactXs id particle energy = 0 := by
  unfold exactXs modelXs
  rw [show p.models[id]? = none from hm]
  cases p.ranges[id]? <;> exact realValue_zero

theorem exactXs_nonneg (id : ℕ) : 0 ≤ p.exactXs id particle energy := by
  cases hm : p.model? id with
  | none => exact (p.exactXs_of_model_none particle energy hm).ge
  | some m =>
    rw [p.exactXs_of_model particle energy hm]
    split
    · exact le_max_right _ _
    · exact le_refl 0

theorem exactXs_of_numModels_le {id : ℕ} (hid : p.numModels ≤ id) :
    p.exactXs id particle energy = 0 :=
  p.exactXs_of_model_none particle energy (Array.getElem?_eq_none hid)

/-- Model selection samples the cross sections. The code's `selectModel` is the sampling
search over its double cross sections; run in exact arithmetic over the same registry, where a
model's cross section is its own clamped at zero where its registered range covers the track
and zero elsewhere, the search with a positive total picks, for every `u` in `[0, 1)`, the one
model with a positive cross section whose slice `[Σ_{j<id}, Σ_{j≤id})` of the running sum holds
`u · total`; so a uniform `u` picks each model with probability its cross section over the
total. -/
theorem selection_samples_cross_sections (p : PhysicsParams) (particle : ℕ) (energy : Float)
    (htotal : 0 < p.exactTotal particle energy) :
    (∀ u : Float, p.selectModel particle energy u =
      sample 0.0 (fun id => p.modelXs id particle energy) (p.totalXs particle energy)
        p.numModels u) ∧
    (∀ id m, p.model? id = some m → p.exactXs id particle energy =
      if p.applies id particle energy then max (realValue m.macroXs) 0 else 0) ∧
    (∀ id, p.model? id = none → p.exactXs id particle energy = 0) ∧
    (∀ u : ℝ, 0 ≤ u → u < 1 → ∃ id, p.exactSelect particle energy u = some id ∧
      id < p.numModels ∧ 0 < p.exactXs id particle energy ∧
      ∑ j ∈ Finset.range id, p.exactXs j particle energy ≤ u * p.exactTotal particle energy ∧
      u * p.exactTotal particle energy < ∑ j ∈ Finset.range (id + 1), p.exactXs j particle energy ∧
      ∀ id', 0 < p.exactXs id' particle energy →
        ∑ j ∈ Finset.range id', p.exactXs j particle energy ≤ u * p.exactTotal particle energy →
        u * p.exactTotal particle energy <
          ∑ j ∈ Finset.range (id' + 1), p.exactXs j particle energy → id' = id) ∧
    ∀ id, (MeasureTheory.volume.restrict (Set.Ico (0 : ℝ) 1))
        {u | p.exactSelect particle energy u = some id} =
      ENNReal.ofReal (p.exactXs id particle energy / p.exactTotal particle energy) := by
  have hw := p.exactXs_nonneg particle energy
  refine ⟨p.selectModel_eq_sample particle energy, fun id m => p.exactXs_of_model particle energy,
    fun id => p.exactXs_of_model_none particle energy, fun u hu0 hu1 => ?_, fun id => ?_⟩
  · obtain ⟨id, hs, hid, hpos, hslice⟩ := sample_spec _ hw _ htotal hu0 hu1
    exact ⟨id, hs, hid, hpos, hslice.1, hslice.2, fun id' _ hlo hhi =>
      eq_of_mem_slice _ hw ⟨hlo, hhi⟩ hslice⟩
  · rcases Nat.lt_or_ge id p.numModels with hid | hid
    · exact sample_probability _ hw _ htotal hid
    · -- an id past the registry is never picked, and its cross section is zero
      have hnone : {u | p.exactSelect particle energy u = some id} = ∅ :=
        Set.eq_empty_of_forall_notMem fun u hu => absurd (sample_lt hu) (Nat.not_lt.2 hid)
      rw [hnone, p.exactXs_of_numModels_le particle energy hid, zero_div,
        ENNReal.ofReal_zero, MeasureTheory.measure_empty]

/-- Four absorbers for particle 0 at 1 MeV: the first with cross section 1, the second with
none, the third covering only particle 1, the last with cross section 3. -/
def mixedAbsorbers : PhysicsParams :=
  ofModels [.absorption "weak" Applicability.everything 1.0,
    .absorption "void" Applicability.everything 0.0,
    .absorption "other" ⟨[1], 0.0, infinity⟩ 5.0,
    .absorption "strong" Applicability.everything 3.0]

theorem realValue_one : realValue 1.0 = 1 := by
  have hunpack : (1.0 : Float).toModel.unpack =
      .finite .positive 4503599627370496 (-52) (by decide) := rfl
  rw [realValue, hunpack, unpackedValue]
  norm_num

theorem realValue_three : realValue 3.0 = 3 := by
  have hunpack : (3.0 : Float).toModel.unpack =
      .finite .positive 6755399441055744 (-51) (by decide) := rfl
  rw [realValue, hunpack, unpackedValue]
  norm_num

theorem mixedAbsorbers_exactXs :
    mixedAbsorbers.exactXs 0 0 1.0 = 1 ∧ mixedAbsorbers.exactXs 1 0 1.0 = 0 ∧
      mixedAbsorbers.exactXs 2 0 1.0 = 0 ∧ mixedAbsorbers.exactXs 3 0 1.0 = 3 := by
  refine ⟨?_, ?_, ?_, ?_⟩
  · rw [mixedAbsorbers.exactXs_of_model 0 1.0 (m := .absorption "weak" Applicability.everything 1.0)
      rfl, if_pos (by decide +kernel), Model.macroXs, realValue_one, max_eq_left zero_le_one]
  · rw [mixedAbsorbers.exactXs_of_model 0 1.0 (m := .absorption "void" Applicability.everything 0.0)
      rfl, if_pos (by decide +kernel), Model.macroXs, realValue_zero, max_self]
  · rw [mixedAbsorbers.exactXs_of_model 0 1.0 (m := .absorption "other" ⟨[1], 0.0, infinity⟩ 5.0)
      rfl, if_neg (by decide +kernel)]
  · rw [mixedAbsorbers.exactXs_of_model 0 1.0
      (m := .absorption "strong" Applicability.everything 3.0) rfl, if_pos (by decide +kernel),
      Model.macroXs, realValue_three, max_eq_left (by norm_num)]

/-- Of four absorbers, the two with a positive cross section for the track share `[0, 1)`:
a `u` below a quarter picks the first, any other the last, with probabilities a quarter and
three quarters; the one with a zero cross section and the one that does not cover the track
are never picked. -/
theorem mixed_absorbers_selected_by_cross_section :
    0 < mixedAbsorbers.exactTotal 0 1.0 ∧
    (∀ u : ℝ, 0 ≤ u → u < 1 →
      mixedAbsorbers.exactSelect 0 1.0 u = some (if u < 1 / 4 then 0 else 3)) ∧
    (List.range 4).map (fun id => (MeasureTheory.volume.restrict (Set.Ico (0 : ℝ) 1))
      {u | mixedAbsorbers.exactSelect 0 1.0 u = some id}) =
      [ENNReal.ofReal (1 / 4), 0, 0, ENNReal.ofReal (3 / 4)] := by
  obtain ⟨h0, h1, h2, h3⟩ := mixedAbsorbers_exactXs
  have hnum : mixedAbsorbers.numModels = 4 := rfl
  have htotal : mixedAbsorbers.exactTotal 0 1.0 = 4 := by
    simp only [exactTotal, hnum, Finset.sum_range_succ, Finset.sum_range_zero, h0, h1, h2, h3]
    norm_num
  obtain ⟨-, -, -, hpick, hprob⟩ :=
    selection_samples_cross_sections mixedAbsorbers 0 1.0 (by rw [htotal]; norm_num)
  refine ⟨by rw [htotal]; norm_num, fun u hu0 hu1 => ?_, ?_⟩
  · obtain ⟨id, hs, hid, hpos, hlo, hhi, -⟩ := hpick u hu0 hu1
    rw [hs]
    rw [hnum] at hid
    rw [htotal] at hlo hhi
    have hcase : id = 0 ∨ id = 1 ∨ id = 2 ∨ id = 3 := by omega
    rcases hcase with rfl | rfl | rfl | rfl
    · simp only [Finset.sum_range_succ, Finset.sum_range_zero, h0] at hhi
      rw [if_pos (by linarith)]
    · rw [h1] at hpos
      exact absurd hpos (lt_irrefl 0)
    · rw [h2] at hpos
      exact absurd hpos (lt_irrefl 0)
    · simp only [Finset.sum_range_succ, Finset.sum_range_zero, h0, h1, h2] at hlo
      rw [if_neg (by linarith)]
  · rw [show List.range 4 = [0, 1, 2, 3] from rfl]
    simp only [List.map_cons, List.map_nil, hprob, htotal, h0, h1, h2, h3]
    norm_num

end PhysicsParams
end Transport
