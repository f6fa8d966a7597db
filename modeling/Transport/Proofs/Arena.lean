import Transport.Arena
import Mathlib.Data.List.Basic
/-!
# The step arena as a ledger

The arena is read through its cells: `Arena.cell i` is the value written in cell `i`, if
any, and `Arena.written` lists every written value in cell order. An arena is well formed
when it has a cell per unit of capacity, a cursor that is a 64-bit index, and nothing
written at or past its cursor; it is clear when, besides, the cursor is back at the start,
so that nothing is written at all.

* `Arena.allocate_writeAll`: a granted reservation filled with values appends exactly those
  values to the written ones, keeps every cell below the old cursor, and reads them back
  through its span (`Arena.Extends`); a refused one writes nothing (`Arena.allocate_error`).
* `Arena.Extends.get_within`: a span that ends below the old cursor reads the same after.
* `Arena.WellFormed.clear`: clearing a well-formed arena leaves it clear.
-/
namespace Transport

namespace Span

/-- A span that holds no cell, or ends at or below `cursor`. -/
def Within (span : Span) (cursor : Nat) : Prop := span.len = 0 ∨ span.start + span.len ≤ cursor

theorem Within.mono {span : Span} {c c' : Nat} (h : span.Within c) (hc : c ≤ c') :
    span.Within c' := by
  unfold Within at *
  omega

theorem empty_within (c : Nat) : Span.empty.Within c := Or.inl rfl

end Span

namespace Arena

variable {α : Type}

/-- The value written in cell `i`, if any. -/
def cell (a : Arena α) (i : Nat) : Option α := a.cells[i]?.join

/-- Every value written in the arena, in cell order. -/
def written (a : Arena α) : List α := (List.range a.capacity).filterMap a.cell

/-- One cell per unit of capacity, a cursor that is a 64-bit index, and nothing written at
or past the cursor. -/
structure WellFormed (a : Arena α) : Prop where
  size_eq : a.cells.size = a.capacity
  capacity_le : a.capacity ≤ cursorMax
  cursor_le : a.cursor ≤ cursorMax
  unwritten : ∀ i, a.cursor ≤ i → a.cell i = none

/-- A well-formed arena with its cursor at the start: nothing is reserved or written. -/
structure Clear (a : Arena α) : Prop extends a.WellFormed where
  cursor_eq : a.cursor = 0

theorem get_eq (a : Arena α) (span : Span) :
    a.get span = (List.range' (min span.start (min (span.start + span.len) a.capacity))
      (min (span.start + span.len) a.capacity -
        min span.start (min (span.start + span.len) a.capacity))).filterMap a.cell := by
  simp only [get, List.range'_eq_map_range, List.filterMap_map]
  rfl

theorem get_congr {a b : Arena α} (hcap : b.capacity = a.capacity) {span : Span}
    (h : ∀ j, j < span.start + span.len → b.cell j = a.cell j) : b.get span = a.get span := by
  rw [get_eq, get_eq, hcap]
  apply List.filterMap_congr
  intro j hj
  rw [List.mem_range'_1] at hj
  exact h j (by omega)

theorem get_of_unwritten {a : Arena α} {span : Span} (h : ∀ j, span.start ≤ j → a.cell j = none) :
    a.get span = [] := by
  rw [get_eq, List.filterMap_eq_nil_iff]
  intro j hj
  rw [List.mem_range'_1] at hj
  exact h j (by omega)

theorem get_of_len_eq_zero (a : Arena α) {span : Span} (h : span.len = 0) : a.get span = [] := by
  simp [get_eq, h]

@[simp] theorem get_empty (a : Arena α) : a.get Span.empty = [] := get_of_len_eq_zero a rfl


/-! ## Writing -/

theorem write_ok {a b : Arena α} {span : Span} {i : Nat} {v : α} (h : a.write span i v = .ok b) :
    b = { a with cells := a.cells.set! (span.start + i) (some v) } := by
  unfold write at h
  split at h
  · split at h
    · cases h
    · cases h
      rfl
  · cases h

theorem cell_set (a : Arena α) (k : Nat) (v : α) (hk : k < a.cells.size) (j : Nat) :
    ({ a with cells := a.cells.set! k (some v) } : Arena α).cell j =
      if j = k then some v else a.cell j := by
  simp only [cell, Array.set!_eq_setIfInBounds, Array.getElem?_setIfInBounds]
  by_cases hj : k = j
  · subst hj
    simp [hk]
  · simp [hj, Ne.symm hj]

theorem cell_set!_ne (a : Arena α) {k j : Nat} (x : Option α) (h : j ≠ k) :
    ({ a with cells := a.cells.set! k x } : Arena α).cell j = a.cell j := by
  simp only [cell, Array.set!_eq_setIfInBounds, Array.getElem?_setIfInBounds_ne (Ne.symm h)]

theorem write_ok_cell {a b : Arena α} {span : Span} {i : Nat} {v : α}
    (h : a.write span i v = .ok b) :
    i < span.len ∧ a.cell (span.start + i) = none ∧
      b = { a with cells := a.cells.set! (span.start + i) (some v) } := by
  refine ⟨?_, ?_, write_ok h⟩ <;> unfold write at h <;> split at h
  · rename_i hi
    exact hi
  · cases h
  · split at h
    · cases h
    · rename_i hfree
      unfold cell
      cases hc : a.cells[span.start + i]? with
      | none => rfl
      | some c =>
        cases c with
        | none => rfl
        | some x => exact absurd hc (hfree x)
  · cases h

theorem writeFrom_ok {span : Span} :
    ∀ {i : Nat} {vs : List α} {a b : Arena α}, a.writeFrom span i vs = (b, .ok ()) →
      span.start + i + vs.length ≤ a.cells.size →
      b.capacity = a.capacity ∧ b.cursor = a.cursor ∧ b.cells.size = a.cells.size ∧
        ∀ j, b.cell j = if span.start + i ≤ j ∧ j < span.start + i + vs.length then
          vs[j - (span.start + i)]? else a.cell j
  | i, [], a, b, h, _ => by
    cases h
    refine ⟨rfl, rfl, rfl, fun j => ?_⟩
    simp only [List.length_nil, Nat.add_zero]
    rw [if_neg (by omega)]
  | i, v :: vs, a, b, h, hfit => by
    simp only [writeFrom] at h
    split at h
    · rename_i a' hw
      have ha' := write_ok hw
      subst ha'
      simp only [List.length_cons] at hfit
      obtain ⟨hcap, hcur, hsize, hcell⟩ := writeFrom_ok h (by simp; omega)
      refine ⟨hcap, hcur, by simpa using hsize, fun j => ?_⟩
      rw [hcell j, cell_set a _ v (by omega) j, List.length_cons]
      by_cases h1 : span.start + (i + 1) ≤ j ∧ j < span.start + (i + 1) + vs.length
      · rw [if_pos h1, if_pos (by omega)]
        have : j - (span.start + i) = (j - (span.start + (i + 1))) + 1 := by omega
        rw [this, List.getElem?_cons_succ]
      · rw [if_neg h1]
        by_cases h2 : j = span.start + i
        · rw [if_pos h2, if_pos (by omega), h2, Nat.sub_self, List.getElem?_cons_zero]
        · rw [if_neg h2, if_neg (by omega)]
    · cases h


/-! ## Reserving and filling cells -/

theorem filterMap_range'_run (vs : List α) :
    ∀ (c : Nat) (g : Nat → Option α), (∀ j, c ≤ j → j < c + vs.length → g j = vs[j - c]?) →
      (List.range' c vs.length).filterMap g = vs := by
  induction vs with
  | nil => intro c g _; rfl
  | cons v vs ih =>
    intro c g hg
    have h0 : g c = some v := by simpa using hg c (Nat.le_refl c) (by simp)
    have hrest : ∀ j, c + 1 ≤ j → j < c + 1 + vs.length → g j = vs[j - (c + 1)]? := by
      intro j h1 h2
      rw [hg j (by omega) (by simp; omega)]
      have : j - c = (j - (c + 1)) + 1 := by omega
      rw [this, List.getElem?_cons_succ]
    rw [List.length_cons, List.range'_succ, List.filterMap_cons, h0]
    simp only
    rw [ih (c + 1) g hrest]

theorem written_split (a : Arena α) {c : Nat} (hc : c ≤ a.capacity) :
    a.written = (List.range' 0 c).filterMap a.cell ++
      (List.range' c (a.capacity - c)).filterMap a.cell := by
  have hcap : a.capacity = c + (a.capacity - c) := by omega
  rw [written, List.range_eq_range', hcap, ← List.range'_append_1, List.filterMap_append,
    Nat.zero_add, ← hcap]

/-- `b` is `a` with `vs` written in cells that were free in `a`: the cells below `a`'s
cursor are kept, and the new values are listed after the old ones. -/
structure Extends (a b : Arena α) (vs : List α) : Prop where
  wellFormed : b.WellFormed
  capacity_eq : b.capacity = a.capacity
  cursor_le : a.cursor ≤ b.cursor
  cell_below : ∀ j < a.cursor, b.cell j = a.cell j
  written_eq : b.written = a.written ++ vs

theorem allocate_eq (a : Arena α) (n : Nat) :
    a.allocate n =
      if n = 0 then (.ok Span.empty, a)
      else if a.cursor + n ≤ a.capacity then
        (.ok ⟨a.cursor, n⟩, { a with cursor := min (a.cursor + n) cursorMax })
      else (.error (.exhausted n a.capacity), { a with cursor := min (a.cursor + n) cursorMax }) :=
  rfl

theorem Extends.get_within {a b : Arena α} {vs : List α} (h : Extends a b vs) {span : Span}
    (hs : span.Within a.cursor) : b.get span = a.get span := by
  rcases hs with hlen | hend
  · rw [get_of_len_eq_zero b hlen, get_of_len_eq_zero a hlen]
  · exact get_congr h.capacity_eq fun j hj => h.cell_below j (by omega)

theorem Extends.refl {a : Arena α} (h : a.WellFormed) : Extends a a [] :=
  ⟨h, rfl, Nat.le_refl _, fun _ _ => rfl, (List.append_nil _).symm⟩

theorem allocate_error {a b : Arena α} {n : Nat} {e : ArenaError} (hw : a.WellFormed)
    (h : a.allocate n = (.error e, b)) : Extends a b [] := by
  rw [allocate_eq] at h
  split at h
  · cases h
  · split at h
    · cases h
    · cases h
      have hc := hw.cursor_le
      refine ⟨⟨hw.size_eq, hw.capacity_le, Nat.min_le_right _ _, fun i hi => hw.unwritten i ?_⟩,
        rfl, ?_, fun _ _ => rfl, (List.append_nil _).symm⟩
      · simp only at hi
        omega
      · simp only
        omega

theorem allocate_writeAll {a a' b : Arena α} {vs : List α} {span : Span} (hw : a.WellFormed)
    (h : a.allocate vs.length = (.ok span, a')) (hb : a'.writeAll span vs = (b, .ok ())) :
    Extends a b vs ∧ b.get span = vs ∧ span.Within b.cursor := by
  rw [allocate_eq] at h
  split at h
  · rename_i hn
    cases h
    have hvs : vs = [] := List.length_eq_zero_iff.1 hn
    subst hvs
    cases hb
    exact ⟨Extends.refl hw, get_empty a, Span.empty_within _⟩
  · split at h
    · rename_i hn hfits
      cases h
      have hcap := hw.capacity_le
      have hmin : min (a.cursor + vs.length) cursorMax = a.cursor + vs.length := by omega
      obtain ⟨hbcap, hbcur, hbsize, hcell⟩ :=
        writeFrom_ok hb (by simp only [Nat.add_zero]; rw [hw.size_eq]; exact hfits)
      simp only [Nat.add_zero, hmin] at hbcap hbcur hbsize hcell
      have hpast : ∀ j, a.cursor + vs.length ≤ j → b.cell j = none := by
        intro j hj
        rw [hcell j, if_neg (by omega)]
        exact hw.unwritten j (by omega)
      have hrun : (List.range' a.cursor vs.length).filterMap b.cell = vs :=
        filterMap_range'_run vs a.cursor b.cell (fun j h1 h2 => by rw [hcell j, if_pos ⟨h1, h2⟩])
      have hwell : b.WellFormed :=
        ⟨by rw [hbsize, hw.size_eq, hbcap], by rw [hbcap]; exact hcap, by omega,
          fun i hi => hpast i (by omega)⟩
      refine ⟨⟨hwell, hbcap, by omega, fun j hj => by rw [hcell j, if_neg (by omega)]; rfl, ?_⟩,
        ?_, Or.inr (by simp only; omega)⟩
      · have hlow : (List.range' 0 a.cursor).filterMap b.cell =
            (List.range' 0 a.cursor).filterMap a.cell :=
          List.filterMap_congr fun j hj => by
            rw [List.mem_range'_1] at hj
            rw [hcell j, if_neg (by omega)]
            rfl
        have hhigh : (List.range' a.cursor (a.capacity - a.cursor)).filterMap a.cell = [] :=
          List.filterMap_eq_nil_iff.2 fun j hj => hw.unwritten j (List.mem_range'_1.1 hj).1
        have htail : (List.range' (a.cursor + vs.length)
            (a.capacity - (a.cursor + vs.length))).filterMap b.cell = [] :=
          List.filterMap_eq_nil_iff.2 fun j hj => hpast j (List.mem_range'_1.1 hj).1
        have hlen : b.capacity - a.cursor = vs.length + (a.capacity - (a.cursor + vs.length)) := by
          rw [hbcap]
          omega
        rw [written_split b (by omega : a.cursor ≤ b.capacity), written_split a (Nat.le_of_lt
          (Nat.lt_of_lt_of_le (Nat.lt_add_of_pos_right (Nat.pos_of_ne_zero ‹_›)) hfits)),
          hlen, ← List.range'_append_1, List.filterMap_append, hlow, hhigh, hrun, htail]
        simp
      · have hstop : min (a.cursor + vs.length) b.capacity = a.cursor + vs.length := by omega
        rw [get_eq]
        simp only [hstop, Nat.min_eq_left (Nat.le_add_right a.cursor vs.length),
          Nat.add_sub_cancel_left]
        exact hrun
    · cases h


/-! ## Clearing -/

theorem Clear.cell_eq {a : Arena α} (h : a.Clear) (i : Nat) : a.cell i = none :=
  h.unwritten i (by rw [h.cursor_eq]; exact Nat.zero_le i)

theorem Clear.written_eq {a : Arena α} (h : a.Clear) : a.written = [] :=
  List.filterMap_eq_nil_iff.2 fun i _ => h.cell_eq i

theorem Clear.get_eq {a : Arena α} (h : a.Clear) (span : Span) : a.get span = [] :=
  get_of_unwritten fun i _ => h.cell_eq i

theorem new_clear {n : Nat} (h : n ≤ cursorMax) : (Arena.new n : Arena α).Clear where
  size_eq := Array.size_replicate
  capacity_le := h
  cursor_le := Nat.zero_le _
  unwritten i _ := by
    simp only [cell, new, Array.getElem?_replicate]
    split <;> rfl
  cursor_eq := rfl

theorem foldl_set_none_size (cells : Array (Option α)) (l : List Nat) :
    (l.foldl (fun cs j => cs.set! j none) cells).size = cells.size := by
  induction l generalizing cells with
  | nil => rfl
  | cons j l ih => rw [List.foldl_cons, ih, Array.set!_eq_setIfInBounds, Array.size_setIfInBounds]

theorem foldl_set_none (cells : Array (Option α)) (k i : Nat) :
    ((List.range k).foldl (fun cs j => cs.set! j none) cells)[i]?.join =
      if i < k then none else cells[i]?.join := by
  induction k generalizing i with
  | zero => rfl
  | succ k ih =>
    rw [List.range_succ, List.foldl_append, List.foldl_cons, List.foldl_nil,
      Array.set!_eq_setIfInBounds, Array.getElem?_setIfInBounds]
    by_cases hik : k = i
    · subst hik
      simp only [if_true, Nat.lt_succ_self]
      split <;> rfl
    · rw [if_neg hik, ih i]
      by_cases hi : i < k
      · rw [if_pos hi, if_pos (Nat.lt_succ_of_lt hi)]
      · rw [if_neg hi, if_neg (by omega)]

theorem WellFormed.clear {a : Arena α} (h : a.WellFormed) : a.clear.Clear where
  size_eq := by
    simp only [Arena.clear, foldl_set_none_size]
    exact h.size_eq
  capacity_le := h.capacity_le
  cursor_le := Nat.zero_le _
  unwritten i _ := by
    simp only [Arena.clear, cell, foldl_set_none]
    split
    · rfl
    · rename_i hi
      simp only [size] at hi
      by_cases hc : a.cursor ≤ i
      · exact h.unwritten i hc
      · have hnone : a.cells[i]? = none := by
          rw [Array.getElem?_eq_none_iff, h.size_eq]
          omega
        rw [hnone]
        rfl
  cursor_eq := rfl

end Arena

end Transport
