import Transport.Particle
/-!
# The cutoff table as a finite map

A `CutoffTable` keeps the cutoffs by particle id in an array of optional entries. `set`
grows the array on demand, padding it with empty entries, and `get` reads an id past the
end and an empty entry alike, as zero thresholds. Read through `get`, the table is a finite
map with a zero default:

* `CutoffTable.get_set`: reading after a write gives the written cutoff at its particle and
  the old one at every other, also when the write grew the array;
* `CutoffTable.get_setAll`: after a sequence of writes a particle reads the cutoff of the
  last write for it, and what the table held before when there is none;
* `CutoffTable.get_after_sets`: from the empty table, a particle never written reads zero
  thresholds.
-/
namespace Transport

namespace CutoffTable

@[simp] theorem get_empty (q : Nat) : empty.get q = Cutoff.zero := by
  simp [empty, get]

theorem grown_spec (t : CutoffTable) (p : Nat) :
    let grown := if t.entries.size ≤ p then
        t.entries ++ Array.replicate (p + 1 - t.entries.size) none
      else t.entries
    p < grown.size ∧ ∀ j : Nat, (grown[j]?).join = (t.entries[j]?).join := by
  intro grown
  by_cases hp : t.entries.size ≤ p
  · simp only [grown, if_pos hp, Array.size_append, Array.size_replicate]
    refine ⟨by omega, fun j => ?_⟩
    rw [Array.getElem?_append, Array.getElem?_replicate]
    by_cases hj : j < t.entries.size
    · rw [if_pos hj]
    · -- past the old end the padding reads as empty, and so did the old array
      rw [if_neg hj, Array.getElem?_eq_none (by omega)]
      split <;> rfl
  · rw [show grown = t.entries from if_neg hp]
    exact ⟨by omega, fun _ => rfl⟩

theorem get_set (t : CutoffTable) (p q : Nat) (c : Cutoff) :
    (t.set p c).get q = if q = p then c else t.get q := by
  obtain ⟨hp, hgrown⟩ := grown_spec t p
  simp only [set, get, Array.set!_eq_setIfInBounds, Array.getElem?_setIfInBounds]
  by_cases hq : q = p
  · subst hq
    simp [hp]
  · rw [if_neg (Ne.symm hq), if_neg hq, hgrown]

/-- The table after writing the cutoffs of `sets`, in order. -/
def setAll (t : CutoffTable) (sets : List (Nat × Cutoff)) : CutoffTable :=
  sets.foldl (fun t pc => t.set pc.1 pc.2) t

theorem get_setAll (t : CutoffTable) (sets : List (Nat × Cutoff)) (q : Nat) :
    (t.setAll sets).get q = (sets.reverse.lookup q).getD (t.get q) := by
  induction sets generalizing t with
  | nil => rfl
  | cons pc rest ih =>
    obtain ⟨p, c⟩ := pc
    rw [setAll, List.foldl_cons, ← setAll, ih, get_set, List.reverse_cons, List.lookup_append]
    -- a later write for `q` hides this one; without one, this write decides
    cases rest.reverse.lookup q with
    | some c' => rfl
    | none =>
      by_cases hq : q = p
      · simp [hq]
      · simp [hq, List.lookup_cons, beq_false_of_ne hq]

/-- **The cutoff table is a finite map with a zero default.** Built by any sequence of
writes from the empty table, a particle reads the cutoff of its last write, or zero
thresholds when it was never written; and a write to one particle changes what no other
particle reads, whatever the table. -/
theorem get_after_sets (sets : List (Nat × Cutoff)) (q : Nat) :
    (empty.setAll sets).get q = (sets.reverse.lookup q).getD Cutoff.zero ∧
      ∀ (t : CutoffTable) (p : Nat) (c : Cutoff),
        (t.set p c).get q = if q = p then c else t.get q :=
  ⟨by rw [get_setAll, get_empty], fun t p c => get_set t p q c⟩

example : (empty.setAll [(2, ⟨0.1, 0.01⟩)]).get 9 = Cutoff.zero := rfl

example : ((empty.setAll [(2, ⟨0.1, 0.01⟩)]).get 2).tracking = 0.1 := rfl

end CutoffTable

end Transport
