import Transport.Physics.Launch
import Transport.Proofs.Doubles
/-!
# Model selection

A step limited by an interaction picks its model with `selectModel`, at the energy the
track has left; the models' kernels later check the same range again. This module shows
that the pick always passes that check.

* `PhysicsParams.modelXs_cases`: a model's cross section is `0.0`, or positive and then
  its range covers the track.
* `PhysicsParams.selectModel_isSome_iff`: a model is picked exactly when the total cross
  section is positive; `PhysicsParams.selectModel_some`: the model picked has a positive
  cross section, so its range covers the track. Rounding in the running sum only moves the
  pick to the last model with a positive cross section, never to one without.
* `PhysicsParams.Registered`: each model registered with its own range, as `addModel`
  does; then a photon the pair model covers is at or above the pair threshold
  (`PhysicsParams.Registered.pair_above_threshold`).
-/
namespace Transport

namespace PhysicsParams

variable (p : PhysicsParams) (particle : Nat) (energy : Float)

theorem modelXs_cases (id : Nat) :
    p.modelXs id particle energy = 0.0 ∨
      (0.0 < p.modelXs id particle energy ∧ p.applies id particle energy = true) := by
  unfold modelXs applies
  split
  · rename_i a m ha hm
    simp only [ha]
    split
    · rename_i happ
      exact (maxNum_zero_cases m.macroXs).imp_right fun h => ⟨h, happ⟩
    · exact .inl rfl
  · exact .inl rfl

theorem applies_of_not_le {id : Nat} (h : ¬ p.modelXs id particle energy ≤ 0.0) :
    0.0 < p.modelXs id particle energy ∧ p.applies id particle energy = true := by
  rcases p.modelXs_cases particle energy id with h0 | hpos
  · rw [h0] at h
    exact absurd (by decide) h
  · exact hpos

theorem selectFrom_some {target : Float} {m : Nat} :
    ∀ {ids : List Nat} {acc : Float} {last : Option Nat},
      p.selectFrom particle energy target ids acc last = some m →
      last = some m ∨ (m ∈ ids ∧ ¬ p.modelXs m particle energy ≤ 0.0)
  | [], _, _, h => .inl h
  | id :: rest, acc, last, h => by
    unfold selectFrom at h
    dsimp only at h
    split at h
    · exact (selectFrom_some h).imp_right fun ⟨hm, hle⟩ => ⟨List.mem_cons_of_mem _ hm, hle⟩
    · rename_i hpos
      split at h
      · cases h
        exact .inr ⟨List.mem_cons_self .., hpos⟩
      · rcases selectFrom_some h with hl | ⟨hm, hle⟩
        · cases hl
          exact .inr ⟨List.mem_cons_self .., hpos⟩
        · exact .inr ⟨List.mem_cons_of_mem _ hm, hle⟩

theorem selectFrom_isSome {target : Float} :
    ∀ {ids : List Nat} {acc : Float} {last : Option Nat},
      (last.isSome = true ∨ ∃ id ∈ ids, ¬ p.modelXs id particle energy ≤ 0.0) →
      (p.selectFrom particle energy target ids acc last).isSome = true
  | [], _, _, h => h.resolve_right fun ⟨_, hid, _⟩ => nomatch hid
  | id :: rest, acc, last, h => by
    unfold selectFrom
    dsimp only
    split
    · rename_i hle
      refine selectFrom_isSome (h.imp_right fun ⟨j, hj, hpos⟩ => ⟨j, ?_, hpos⟩)
      rcases List.mem_cons.1 hj with rfl | hj
      · exact absurd hle hpos
      · exact hj
    · split
      · rfl
      · exact selectFrom_isSome (.inl rfl)

theorem selectModel_isSome_iff (u : Float) :
    (p.selectModel particle energy u).isSome = true ↔ 0.0 < p.totalXs particle energy := by
  unfold selectModel
  dsimp only
  split
  · rename_i hnot
    simp only [Bool.not_eq_true', decide_eq_false_iff_not] at hnot
    exact iff_of_false (by simp) hnot
  · rename_i hpos
    simp only [Bool.not_eq_true', decide_eq_false_iff_not, Decidable.not_not] at hpos
    refine iff_of_true (selectFrom_isSome p particle energy (.inr ?_)) hpos
    -- were every cross section at most zero, each would be `0.0`, and so would their sum
    refine Classical.byContradiction fun hall => ?_
    simp only [not_exists, not_and, Decidable.not_not] at hall
    have hzeros : ∀ x ∈ (List.range p.numModels).map (p.modelXs · particle energy), x = 0.0 := by
      intro x hx
      obtain ⟨id, hid, rfl⟩ := List.mem_map.1 hx
      exact (p.modelXs_cases particle energy id).resolve_right
        fun ⟨hlt, _⟩ => Float.not_le_zero_of_lt hlt (hall id hid)
    exact sumFrom_zeros_not_pos hzeros hpos

theorem selectModel_some {u : Float} {m : Nat} (h : p.selectModel particle energy u = some m) :
    0.0 < p.modelXs m particle energy ∧ p.applies m particle energy = true := by
  unfold selectModel at h
  dsimp only at h
  split at h
  · cases h
  · rcases selectFrom_some p particle energy h with hl | ⟨-, hpos⟩
    · cases hl
    · exact p.applies_of_not_le particle energy hpos

/-! ## Registered models -/

/-- Each model is registered with its own range, as `addModel` does. -/
def Registered : Prop := p.ranges = p.models.map Model.applicability

theorem registered_empty : empty.Registered := by
  simp [Registered, empty]

theorem Registered.addModel {p : PhysicsParams} (h : p.Registered) (m : Model) :
    (p.addModel m).Registered := by
  simp only [Registered, PhysicsParams.addModel, Array.map_push]
  rw [h]

theorem registered_ofModels (ms : List Model) : (ofModels ms).Registered := by
  unfold ofModels
  suffices ∀ q : PhysicsParams, q.Registered → (ms.foldl PhysicsParams.addModel q).Registered from
    this empty registered_empty
  induction ms with
  | nil => exact fun _ h => h
  | cons m ms ih => exact fun q h => ih _ (h.addModel m)

theorem Registered.setEnergyLoss {p : PhysicsParams} (h : p.Registered) (q : Nat) (dedx : Float) :
    (p.setEnergyLoss q dedx).Registered := by
  unfold PhysicsParams.setEnergyLoss
  split <;> exact h

theorem Registered.setMaxStep {p : PhysicsParams} (h : p.Registered) (step : Float) :
    (p.setMaxStep step).Registered := h

theorem Registered.applies_eq {p : PhysicsParams} (h : p.Registered) {id : Nat} {m : Model}
    (hm : p.models[id]? = some m) :
    p.applies id particle energy = m.applicability.applies particle energy := by
  unfold applies
  rw [h, Array.getElem?_map, hm]
  rfl

theorem Registered.exists_model {p : PhysicsParams} (h : p.Registered) {id : Nat}
    (happ : p.applies id particle energy = true) : ∃ m, p.models[id]? = some m := by
  unfold applies at happ
  rw [h, Array.getElem?_map] at happ
  rcases hm : p.models[id]? with _ | m
  · simp [hm] at happ
  · exact ⟨m, rfl⟩

theorem Registered.pair_above_threshold {p : PhysicsParams} (h : p.Registered) {id g el po : Nat}
    {xs : Float} (hm : p.models[id]? = some (.pair g el po xs))
    (happ : p.applies id particle energy = true) : ¬ (energy - 2.0 * electronMass < 0.0) := by
  rw [h.applies_eq particle energy hm] at happ
  simp only [Model.applicability, Applicability.applies, Bool.and_eq_true] at happ
  exact Float.sub_not_lt_zero (of_decide_eq_true happ.1.2)

end PhysicsParams

end Transport
