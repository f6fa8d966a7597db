import Mathlib
import Transport.Proofs.Arena
/-!
# Reservations of the step arena, over any sequence of requests

A client of the arena asks for cells, writes into the reservations it holds and clears the
arena. `ArenaSession` follows such a client: the arena, the sizes requested since the last
clear, the spans granted (a reservation is named by its place among them), how many
requests were refused, and the writes that went through. A list of values is written as a
run of single writes that stops at the first refusal, which is what `Arena.writeAll` does
(`ArenaSession.writeFrom_arena`).

`ArenaSession.Inv` ties these together: the cursor is the sum of the requests, saturated at
the largest 64-bit index; without a refusal every request was granted its size, and a
refusal happened exactly when the requests overran the capacity; the granted spans lie end
to end from cell 0; and the cells hold exactly the values written, no cell twice. An arena
fresh from `Arena.create` starts it (`inv_create`), every operation keeps it
(`Inv.apply`), so every session has it (`Inv.run`).

* `reservation_laws`: over any sequence of operations, a request of no cells is granted the
  empty span; any other is granted the next cells exactly when they fit, and moves the
  cursor by its size either way, so that after a refusal every non-empty request is refused
  until the arena is cleared; the granted spans are pairwise disjoint and inside the
  capacity; size and exhaustion report a refusal; a written cell lies below the size,
  clearing empties every cell, and a granted span reads back what was written into it.
* `granted_short_of_size_after_refusal`: after a refusal the size reports the whole
  capacity, while the granted spans may cover less of it.
-/
namespace Transport

namespace Span

def Disjoint (a b : Span) : Prop :=
  a.len = 0 ∨ b.len = 0 ∨ a.start + a.len ≤ b.start ∨ b.start + b.len ≤ a.start

/-- The spans of a list lie end to end, in order, from cell `c`; an empty one is the empty
span and takes no room. -/
def Consecutive : Nat → List Span → Prop
  | _, [] => True
  | c, s :: rest => (s = Span.empty ∨ s.start = c) ∧ Consecutive (c + s.len) rest

theorem Consecutive.append_single :
    ∀ {c : Nat} {l : List Span} {s : Span}, Consecutive c l →
      (s = Span.empty ∨ s.start = c + (l.map len).sum) → Consecutive c (l ++ [s])
  | _, [], _, _, hs => ⟨by simpa using hs, trivial⟩
  | c, t :: l, s, ⟨ht, hl⟩, hs =>
    ⟨ht, hl.append_single (by simpa [Nat.add_assoc] using hs)⟩

theorem Consecutive.bounds :
    ∀ {c : Nat} {l : List Span}, Consecutive c l → ∀ s ∈ l,
      s = Span.empty ∨ (c ≤ s.start ∧ s.start + s.len ≤ c + (l.map len).sum)
  | _, [], _, _, hs => absurd hs List.not_mem_nil
  | c, t :: l, ⟨ht, hl⟩, s, hs => by
    rcases List.mem_cons.1 hs with rfl | hs
    · rcases ht with ht | ht
      · exact Or.inl ht
      · right
        simp only [List.map_cons, List.sum_cons]
        omega
    · rcases hl.bounds s hs with h | ⟨h1, h2⟩
      · exact Or.inl h
      · right
        simp only [List.map_cons, List.sum_cons]
        omega

theorem Consecutive.pairwise :
    ∀ {c : Nat} {l : List Span}, Consecutive c l → l.Pairwise Disjoint
  | _, [], _ => List.Pairwise.nil
  | c, t :: l, ⟨ht, hl⟩ => by
    refine List.Pairwise.cons (fun s hs => ?_) hl.pairwise
    rcases hl.bounds s hs with rfl | ⟨h1, _⟩
    · exact Or.inr (Or.inl rfl)
    · rcases ht with rfl | ht
      · exact Or.inl rfl
      · exact Or.inr (Or.inr (Or.inl (by omega)))

end Span

namespace Arena

variable {α : Type}

theorem allocate_fst_of_pos {n : Nat} (hn : 0 < n) (a : Arena α) :
    (a.allocate n).1 = if a.cursor + n ≤ a.capacity then .ok ⟨a.cursor, n⟩
      else .error (.exhausted n a.capacity) := by
  rw [allocate_eq, if_neg (Nat.pos_iff_ne_zero.1 hn)]
  split <;> rfl

theorem allocate_snd_of_pos {n : Nat} (hn : 0 < n) (a : Arena α) :
    (a.allocate n).2 = { a with cursor := min (a.cursor + n) cursorMax } := by
  rw [allocate_eq, if_neg (Nat.pos_iff_ne_zero.1 hn)]
  split <;> rfl

theorem WellFormed.advance {a : Arena α} (h : a.WellFormed) {c : Nat} (hc : a.cursor ≤ c)
    (hmax : c ≤ cursorMax) : ({ a with cursor := c } : Arena α).WellFormed :=
  ⟨h.size_eq, h.capacity_le, hmax, fun i hi => h.unwritten i (Nat.le_trans hc hi)⟩

end Arena

/-- An operation of a client of the arena: a request for cells, a write into a reservation
it holds, named by its place among the spans granted since the last clear, or a clear. -/
inductive ArenaOp (α : Type) where
  | allocate (n : Nat)
  | write (r index : Nat) (v : α)
  | writeAll (r : Nat) (vs : List α)
  | clear

/-- An arena with what its client did since the last clear. -/
structure ArenaSession (α : Type) where
  arena : Arena α
  /-- The sizes requested, in order. -/
  requests : List Nat
  /-- The spans granted, in order. -/
  granted : List Span
  /-- How many requests were refused. -/
  refusals : Nat
  /-- The writes that went through, newest first: the cell and its value. -/
  writes : List (Nat × α)

namespace ArenaSession

variable {α : Type}

/-- A client that has done nothing yet with `a`. -/
def start (a : Arena α) : ArenaSession α := ⟨a, [], [], 0, []⟩

/-- Writes `v` into cell `i` of reservation `r`: the session after, or `none` when the
client holds no such reservation or the arena refuses the write. -/
def write? (s : ArenaSession α) (r i : Nat) (v : α) : Option (ArenaSession α) :=
  match s.granted[r]? with
  | none => none
  | some span =>
    match s.arena.write span i v with
    | .ok a => some { s with arena := a, writes := (span.start + i, v) :: s.writes }
    | .error _ => none

/-- Writes values into successive cells of reservation `r` from cell `i`, stopping at the
first refusal. -/
def writeFrom (r : Nat) : Nat → List α → ArenaSession α → ArenaSession α
  | _, [], s => s
  | i, v :: vs, s =>
    match s.write? r i v with
    | some s' => writeFrom r (i + 1) vs s'
    | none => s

/-- One operation of the client. -/
def apply (s : ArenaSession α) : ArenaOp α → ArenaSession α
  | .allocate n =>
    match s.arena.allocate n with
    | (.ok span, a) =>
      { s with arena := a, requests := s.requests ++ [n], granted := s.granted ++ [span] }
    | (.error _, a) =>
      { s with arena := a, requests := s.requests ++ [n], refusals := s.refusals + 1 }
  | .write r i v => (s.write? r i v).getD s
  | .writeAll r vs => writeFrom r 0 vs s
  | .clear => start s.arena.clear

def run (s : ArenaSession α) (ops : List (ArenaOp α)) : ArenaSession α := ops.foldl apply s

theorem writeFrom_arena {r : Nat} {span : Span} :
    ∀ (i : Nat) (vs : List α) (s : ArenaSession α), s.granted[r]? = some span →
      (writeFrom r i vs s).arena = (s.arena.writeFrom span i vs).1
  | _, [], _, _ => rfl
  | i, v :: vs, s, hr => by
    simp only [writeFrom, write?, hr, Arena.writeFrom]
    cases hw : s.arena.write span i v with
    | ok a => exact writeFrom_arena (i + 1) vs _ hr
    | error e => rfl

/-! ## The invariant -/

/-- What the operations keep, for an arena of `capacity` cells: the cursor is the sum of the
requests, saturated at the largest 64-bit index; without a refusal every request was
granted its size, and a refusal happened exactly when the requests overran the capacity;
the granted spans lie end to end from cell 0, inside the capacity; and the cells hold
exactly the values written, no cell written twice. -/
structure Inv (capacity : Nat) (s : ArenaSession α) : Prop where
  wellFormed : s.arena.WellFormed
  capacity_eq : s.arena.capacity = capacity
  capacity_lt : capacity < cursorMax
  cursor_eq : s.arena.cursor = min s.requests.sum cursorMax
  granted_eq : s.refusals = 0 → s.granted.map Span.len = s.requests
  refused_iff : 0 < s.refusals ↔ capacity < s.requests.sum
  consecutive : Span.Consecutive 0 s.granted
  granted_le : (s.granted.map Span.len).sum ≤ capacity
  cell_eq : ∀ j, s.arena.cell j = s.writes.lookup j
  writes_nodup : (s.writes.map Prod.fst).Nodup

variable {capacity : Nat} {s : ArenaSession α}

theorem Inv.sum_le (h : s.Inv capacity) (hr : s.refusals = 0) : s.requests.sum ≤ capacity :=
  Nat.not_lt.1 fun hlt => by simpa [hr] using h.refused_iff.2 hlt

theorem Inv.cursor_eq_sum (h : s.Inv capacity) (hr : s.refusals = 0) :
    s.arena.cursor = s.requests.sum := by
  have hle := h.sum_le hr
  have hlt := h.capacity_lt
  rw [h.cursor_eq]
  omega

theorem Inv.capacity_lt_cursor (h : s.Inv capacity) (hr : 0 < s.refusals) :
    capacity < s.arena.cursor := by
  have hover := h.refused_iff.1 hr
  have hlt := h.capacity_lt
  rw [h.cursor_eq]
  omega

theorem Inv.granted_le_cursor (h : s.Inv capacity) :
    (s.granted.map Span.len).sum ≤ s.arena.cursor := by
  rcases Nat.eq_zero_or_pos s.refusals with hr | hr
  · rw [h.granted_eq hr, h.cursor_eq_sum hr]
  · exact Nat.le_trans h.granted_le (Nat.le_of_lt (h.capacity_lt_cursor hr))

theorem Inv.granted_within (h : s.Inv capacity) {span : Span} (hs : span ∈ s.granted) :
    span = Span.empty ∨ span.start + span.len ≤ (s.granted.map Span.len).sum := by
  rcases h.consecutive.bounds span hs with he | ⟨_, hend⟩
  · exact Or.inl he
  · exact Or.inr (by simpa using hend)

/-! ## Every operation keeps it -/

theorem inv_start {a : Arena α} (ha : a.Clear) (hcap : a.capacity < cursorMax) :
    (start a).Inv a.capacity where
  wellFormed := ha.toWellFormed
  capacity_eq := rfl
  capacity_lt := hcap
  cursor_eq := by simp [start, ha.cursor_eq]
  granted_eq _ := rfl
  refused_iff := by simp [start]
  consecutive := trivial
  granted_le := Nat.zero_le _
  cell_eq j := by simpa [start] using ha.cell_eq j
  writes_nodup := List.nodup_nil

/-- An arena of cells that take room starts a session: its capacity fits in memory, and so
lies below the largest 64-bit index. -/
theorem inv_create {cell : Layout} {a : Arena α} (hcell : 0 < cell.size)
    (h : Arena.create cell capacity = some a) : (start a).Inv capacity := by
  unfold Arena.create at h
  split at h
  · rename_i hfits
    cases h
    have hroom : capacity ≤ capacity * cell.size := Nat.le_mul_of_pos_right capacity hcell
    simp only [Layout.fits, Nat.pow_eq, Nat.reducePow, decide_eq_true_eq] at hfits
    have hlt : capacity < cursorMax := by
      unfold cursorMax
      simp only [Nat.pow_eq, Nat.reducePow]
      omega
    exact inv_start (Arena.new_clear (Nat.le_of_lt hlt)) hlt
  · cases h

theorem Inv.allocate (h : s.Inv capacity) (n : Nat) : (s.apply (.allocate n)).Inv capacity := by
  have hcap := h.capacity_lt
  rcases Nat.eq_zero_or_pos n with rfl | hn
  · -- the empty request is granted the empty span and changes nothing else
    have halloc : s.arena.allocate 0 = (.ok Span.empty, s.arena) := rfl
    simp only [apply, halloc]
    exact ⟨h.wellFormed, h.capacity_eq, hcap, by simpa using h.cursor_eq,
      fun hr => by simp [h.granted_eq hr, Span.empty], by simpa using h.refused_iff,
      h.consecutive.append_single (Or.inl rfl), by simpa [Span.empty] using h.granted_le,
      h.cell_eq, h.writes_nodup⟩
  have hmove : ({ s.arena with cursor := min (s.arena.cursor + n) cursorMax } : Arena α).WellFormed :=
    h.wellFormed.advance (by have := h.wellFormed.cursor_le; omega) (Nat.min_le_right _ _)
  by_cases hfit : s.arena.cursor + n ≤ capacity
  · have halloc : s.arena.allocate n = (.ok ⟨s.arena.cursor, n⟩,
        { s.arena with cursor := min (s.arena.cursor + n) cursorMax }) := by
      rw [Arena.allocate_eq, if_neg (Nat.pos_iff_ne_zero.1 hn), if_pos (h.capacity_eq ▸ hfit)]
    simp only [apply, halloc]
    -- a request that fits comes before any refusal, so the cursor is the sum of the requests
    have hr : s.refusals = 0 := Nat.eq_zero_of_not_pos fun hr => by
      have := h.capacity_lt_cursor hr
      omega
    have hsum := h.cursor_eq_sum hr
    have hgr := h.granted_eq hr
    refine ⟨hmove, h.capacity_eq, hcap, ?_, fun _ => ?_, ?_, ?_, ?_, h.cell_eq, h.writes_nodup⟩
    · simp only [List.sum_append, List.sum_singleton]
      omega
    · simp [hgr]
    · simp only [hr, Nat.lt_irrefl, false_iff, List.sum_append, List.sum_singleton, Nat.not_lt]
      omega
    · exact h.consecutive.append_single (Or.inr (by simp [hgr, hsum]))
    · simp only [List.map_append, List.sum_append, hgr, List.map_cons, List.map_nil,
        List.sum_singleton]
      omega
  · have halloc : s.arena.allocate n = (.error (.exhausted n s.arena.capacity),
        { s.arena with cursor := min (s.arena.cursor + n) cursorMax }) := by
      rw [Arena.allocate_eq, if_neg (Nat.pos_iff_ne_zero.1 hn), if_neg (h.capacity_eq ▸ hfit)]
    simp only [apply, halloc]
    have hc := h.cursor_eq
    refine ⟨hmove, h.capacity_eq, hcap, ?_, fun hr => absurd hr (Nat.succ_ne_zero _), ?_,
      h.consecutive, h.granted_le, h.cell_eq, h.writes_nodup⟩
    · simp only [List.sum_append, List.sum_singleton]
      omega
    · simp only [Nat.zero_lt_succ, true_iff, List.sum_append, List.sum_singleton]
      omega

theorem Inv.write? (h : s.Inv capacity) {r i : Nat} {v : α} {s' : ArenaSession α}
    (hw : s.write? r i v = some s') : s'.Inv capacity := by
  unfold ArenaSession.write? at hw
  split at hw
  · cases hw
  · rename_i span hspan
    split at hw
    · rename_i a hwrite
      cases hw
      obtain ⟨hi, hfree, rfl⟩ := Arena.write_ok_cell hwrite
      have hend : span.start + span.len ≤ (s.granted.map Span.len).sum := by
        rcases h.granted_within (List.mem_of_getElem? hspan) with rfl | hend
        · exact absurd hi (Nat.not_lt_zero i)
        · exact hend
      have hcur := h.granted_le_cursor
      have hsize : span.start + i < s.arena.cells.size := by
        rw [h.wellFormed.size_eq, h.capacity_eq]
        have := h.granted_le
        omega
      have hcell := Arena.cell_set s.arena (span.start + i) v hsize
      refine ⟨⟨by simpa using h.wellFormed.size_eq, h.wellFormed.capacity_le,
        h.wellFormed.cursor_le, fun j hj => ?_⟩, h.capacity_eq, h.capacity_lt, h.cursor_eq,
        h.granted_eq, h.refused_iff, h.consecutive, h.granted_le, fun j => ?_, ?_⟩
      · have hj' : s.arena.cursor ≤ j := hj
        rw [hcell j, if_neg (by omega)]
        exact h.wellFormed.unwritten j hj'
      · rw [hcell j, List.lookup_cons, h.cell_eq j]
        by_cases hj : j = span.start + i
        · rw [if_pos hj, hj, beq_self_eq_true]
        · rw [if_neg hj, beq_false_of_ne hj]
      · -- the cell held nothing, so no earlier write named it
        rw [h.cell_eq, List.lookup_eq_none_iff] at hfree
        refine List.nodup_cons.2 ⟨fun hmem => ?_, h.writes_nodup⟩
        obtain ⟨p, hp, hpk⟩ := List.mem_map.1 hmem
        simpa [hpk] using hfree p hp
    · cases hw

theorem Inv.writeFrom (r : Nat) :
    ∀ (i : Nat) (vs : List α) {s : ArenaSession α}, s.Inv capacity →
      (ArenaSession.writeFrom r i vs s).Inv capacity
  | _, [], _, h => h
  | i, v :: vs, s, h => by
    simp only [ArenaSession.writeFrom]
    split
    · rename_i s' hw
      exact Inv.writeFrom r (i + 1) vs (h.write? hw)
    · exact h

theorem Inv.clear (h : s.Inv capacity) : (s.apply .clear).Inv capacity := by
  have hstart := inv_start h.wellFormed.clear (by
    show s.arena.capacity < cursorMax
    rw [h.capacity_eq]
    exact h.capacity_lt)
  rw [show s.arena.clear.capacity = capacity from h.capacity_eq] at hstart
  exact hstart

/-- Every operation keeps the invariant. -/
theorem Inv.apply (h : s.Inv capacity) : ∀ op : ArenaOp α, (s.apply op).Inv capacity
  | .allocate n => h.allocate n
  | .write r i v => by
    simp only [ArenaSession.apply]
    cases hw : s.write? r i v with
    | none => exact h
    | some s' => exact h.write? hw
  | .writeAll r vs => h.writeFrom r 0 vs
  | .clear => h.clear

/-- Every sequence of operations keeps the invariant. -/
theorem Inv.run (ops : List (ArenaOp α)) (h : s.Inv capacity) : (s.run ops).Inv capacity := by
  induction ops generalizing s with
  | nil => exact h
  | cons op ops ih => exact ih (h.apply op)

/-! ## What the invariant says -/

theorem Inv.exhausted_iff (h : s.Inv capacity) :
    (s.arena.size = capacity ∧ s.arena.isExhausted = true) ↔ 0 < s.refusals := by
  simp only [Arena.size, Arena.isExhausted, decide_eq_true_eq, h.capacity_eq]
  constructor
  · rintro ⟨-, hover⟩
    refine Nat.pos_of_ne_zero fun hr => ?_
    have := h.cursor_eq_sum hr
    have := h.sum_le hr
    omega
  · intro hr
    have := h.capacity_lt_cursor hr
    exact ⟨by omega, this⟩

theorem Inv.granted_le_size (h : s.Inv capacity) :
    (s.granted.map Span.len).sum ≤ s.arena.size := by
  have := h.granted_le_cursor
  have := h.granted_le
  simp only [Arena.size, h.capacity_eq]
  omega

theorem Inv.granted_eq_size (h : s.Inv capacity) (hr : s.refusals = 0) :
    (s.granted.map Span.len).sum = s.arena.size := by
  have := h.sum_le hr
  simp only [Arena.size, h.capacity_eq, h.granted_eq hr, h.cursor_eq_sum hr]
  omega

theorem Inv.granted_inside (h : s.Inv capacity) {span : Span} (hs : span ∈ s.granted) :
    span.start + span.len ≤ capacity := by
  rcases h.granted_within hs with rfl | hend
  · exact Nat.zero_le _
  · exact Nat.le_trans hend h.granted_le

theorem Inv.refused_of_refused (h : s.Inv capacity) (hr : 0 < s.refusals) {n : Nat}
    (hn : 0 < n) : (s.arena.allocate n).1 = .error (.exhausted n capacity) := by
  have := h.capacity_lt_cursor hr
  rw [Arena.allocate_fst_of_pos hn, if_neg (by rw [h.capacity_eq]; omega), h.capacity_eq]

theorem Inv.write_lt_size (h : s.Inv capacity) {p : Nat × α} (hp : p ∈ s.writes) :
    p.1 < s.arena.size := by
  have hcell : s.arena.cell p.1 ≠ none := by
    rw [h.cell_eq, Ne, List.lookup_eq_none_iff]
    intro hall
    simpa using hall p hp
  have hcur : p.1 < s.arena.cursor :=
    Nat.lt_of_not_le fun hle => hcell (h.wellFormed.unwritten _ hle)
  have hcap : p.1 < s.arena.capacity := by
    rw [← h.wellFormed.size_eq]
    refine Nat.lt_of_not_le fun hle => hcell ?_
    simp [Arena.cell, Array.getElem?_eq_none hle]
  simp only [Arena.size]
  omega

theorem Inv.get_granted (h : s.Inv capacity) {span : Span} (hs : span ∈ s.granted) :
    s.arena.get span = (List.range' span.start span.len).filterMap fun j => s.writes.lookup j := by
  have hin := h.granted_inside hs
  have hstop : min (span.start + span.len) s.arena.capacity = span.start + span.len := by
    rw [h.capacity_eq]
    omega
  rw [Arena.get_eq, hstop, Nat.min_eq_left (Nat.le_add_right _ _), Nat.add_sub_cancel_left]
  exact List.filterMap_congr fun j _ => h.cell_eq j

/-! ## The laws -/

/-- **Reservation laws.** Over any sequence of requests, writes and clears on an arena
fresh from `Arena.create`: a request of no cells is granted the empty span and changes
nothing; any other is granted the next cells exactly when they fit, and moves the cursor by
its size, saturating, either way; the cursor is the saturated sum of the requests since the
last clear, so that after a refusal every non-empty request is refused until the next clear.
The spans granted since the last clear are pairwise disjoint and inside the capacity; they
cover at most the size, and exactly the size while nothing was refused; size and exhaustion
report a refusal, and requests that sum to at most the capacity were all granted their size.
Each written cell lies below the size and is written once, clearing empties every cell, and
a granted span reads back what was written into it, in cell order. -/
theorem reservation_laws {α : Type} {cell : Layout} {capacity : Nat} {a : Arena α}
    (hcell : 0 < cell.size) (hcreate : Arena.create cell capacity = some a)
    (ops : List (ArenaOp α)) :
    let s := (ArenaSession.start a).run ops
    s.arena.allocate 0 = (.ok Span.empty, s.arena) ∧
    (∀ n, 0 < n →
      ((∃ span, (s.arena.allocate n).1 = .ok span) ↔ s.arena.cursor + n ≤ capacity) ∧
      (∀ span, (s.arena.allocate n).1 = .ok span → span = ⟨s.arena.cursor, n⟩) ∧
      (s.arena.allocate n).2.cursor = min (s.arena.cursor + n) cursorMax ∧
      (0 < s.refusals → (s.arena.allocate n).1 = .error (.exhausted n capacity))) ∧
    s.arena.cursor = min s.requests.sum cursorMax ∧
    s.granted.Pairwise Span.Disjoint ∧
    (∀ span ∈ s.granted, span.start + span.len ≤ capacity) ∧
    (s.granted.map Span.len).sum ≤ s.arena.size ∧
    (s.refusals = 0 → (s.granted.map Span.len).sum = s.arena.size) ∧
    ((s.arena.size = capacity ∧ s.arena.isExhausted = true) ↔ 0 < s.refusals) ∧
    (s.requests.sum ≤ capacity → s.granted.map Span.len = s.requests) ∧
    (∀ p ∈ s.writes, p.1 < s.arena.size) ∧
    (s.writes.map Prod.fst).Nodup ∧
    (∀ j, s.arena.clear.cell j = none) ∧
    (∀ span ∈ s.granted,
      s.arena.get span = (List.range' span.start span.len).filterMap fun j => s.writes.lookup j) := by
  intro s
  have h : s.Inv capacity := (inv_create hcell hcreate).run ops
  refine ⟨rfl, fun n hn => ⟨?_, ?_, ?_, fun hr => h.refused_of_refused hr hn⟩, h.cursor_eq,
    h.consecutive.pairwise, fun _ hs => h.granted_inside hs, h.granted_le_size,
    h.granted_eq_size, h.exhausted_iff, fun hle => h.granted_eq (Nat.eq_zero_of_not_pos fun hr =>
      Nat.not_lt.2 hle (h.refused_iff.1 hr)), fun _ hp => h.write_lt_size hp, h.writes_nodup,
    h.wellFormed.clear.cell_eq, fun _ hs => h.get_granted hs⟩
  · rw [Arena.allocate_fst_of_pos hn, h.capacity_eq]
    split
    · rename_i hfit
      exact ⟨fun _ => hfit, fun _ => ⟨_, rfl⟩⟩
    · rename_i hfit
      exact ⟨fun ⟨_, he⟩ => (by cases he), fun hf => absurd hf hfit⟩
  · intro span hspan
    rw [Arena.allocate_fst_of_pos hn] at hspan
    split at hspan
    · cases hspan
      rfl
    · cases hspan
  · rw [Arena.allocate_snd_of_pos hn]

/-- Four word cells: a request that fits and is filled, then one that overruns. -/
theorem reservation_laws_of_four_words :
    0 < Layout.wordCell.size ∧ Arena.create Layout.wordCell 4 = some (Arena.new 4 : Arena Nat) ∧
      let s := (ArenaSession.start (Arena.new 4 : Arena Nat)).run
        [.allocate 3, .writeAll 0 [7, 8, 9], .allocate 2]
      s.arena.allocate 0 = (.ok Span.empty, s.arena) ∧
      (∀ n, 0 < n →
        ((∃ span, (s.arena.allocate n).1 = .ok span) ↔ s.arena.cursor + n ≤ 4) ∧
        (∀ span, (s.arena.allocate n).1 = .ok span → span = ⟨s.arena.cursor, n⟩) ∧
        (s.arena.allocate n).2.cursor = min (s.arena.cursor + n) cursorMax ∧
        (0 < s.refusals → (s.arena.allocate n).1 = .error (.exhausted n 4))) ∧
      s.arena.cursor = min s.requests.sum cursorMax ∧
      s.granted.Pairwise Span.Disjoint ∧
      (∀ span ∈ s.granted, span.start + span.len ≤ 4) ∧
      (s.granted.map Span.len).sum ≤ s.arena.size ∧
      (s.refusals = 0 → (s.granted.map Span.len).sum = s.arena.size) ∧
      ((s.arena.size = 4 ∧ s.arena.isExhausted = true) ↔ 0 < s.refusals) ∧
      (s.requests.sum ≤ 4 → s.granted.map Span.len = s.requests) ∧
      (∀ p ∈ s.writes, p.1 < s.arena.size) ∧
      (s.writes.map Prod.fst).Nodup ∧
      (∀ j, s.arena.clear.cell j = none) ∧
      (∀ span ∈ s.granted,
        s.arena.get span = (List.range' span.start span.len).filterMap fun j => s.writes.lookup j) :=
  ⟨by decide, rfl, reservation_laws (show 0 < Layout.wordCell.size by decide) rfl _⟩

/-- After a refused request the size reports the whole capacity, while the spans granted
cover less of it. -/
theorem granted_short_of_size_after_refusal :
    let s := (ArenaSession.start (Arena.new 4 : Arena Nat)).run [.allocate 3, .allocate 2]
    (s.granted.map Span.len).sum = 3 ∧ s.arena.size = 4 ∧ 0 < s.refusals := by
  decide

end ArenaSession

end Transport
