import Transport.Track.Core
/-!
# Sweeps over the slots

A sweep runs a kernel on every slot, in slot order, threading the step arena through.
A kernel sees the slot's index, its state and the arena, and returns them updated, with
an error when the slot failed; what it wrote before failing stays written.

Where a sweep runs decides what a failure does:

* on the host, every slot is visited; the sweep fails with the failure of the
  lowest-numbered failing slot and the count of the others;
* on the device, a failing slot aborts the sweep with the failure of the lowest-numbered
  failing slot, but the abort only stops the run of slots that the failing slot belongs
  to; the slots before it, and the failing slot itself, keep their updates.

A single worker thread runs a sweep, and it cuts the slots into runs the way a
work-splitting scheduler does. A range of slots is halved while it has at least two slots
and a split left to take; the left half runs first, and the right half runs after it even
when the left half failed. A range starts with one split. A range handed to the worker as a
job from elsewhere may always split once more: the halves of a sweep that reaches the
worker from outside its pool are handed in, and so is the right half of a range whose left
half failed. A range that is not split is a run: its slots go in order, up to the first
that fails.

A pool of several threads brings the slots to a kernel in an order the scheduler picks
(`Schedule`). Kernels touch only their own slot, and the arena only through one move of its
cursor, so kernels running at once act as if run one after another in the order their
reservations reach the arena: `sweepInOrder` is the host sweep in such an order. With one
thread the order is the slots' own.
-/
namespace Transport

/-- Where sweeps run, which fixes what a failing slot does. -/
inductive Space where
  | host
  | device
  deriving DecidableEq, Repr, Inhabited

def Space.describe : Space → String
  | .host => "Host"
  | .device => "Device"

/-- How a sweep reaches the worker thread: from a thread outside its pool, as when the
shared pool runs it, or on the worker itself, as inside a run's own pool. -/
inductive Dispatch where
  | fromOutside
  | onWorker
  deriving DecidableEq, Repr, Inhabited

/-- A per-slot step: slot index, slot and arena in; slot, arena and error out. -/
abbrev Kernel := Nat → Slot → Arena Secondary → Slot × Arena Secondary × Option TrackError

/-- How a sweep failed. -/
inductive SweepError where
  /-- The host collected failures; the first and the count of the others. -/
  | failed (e : KernelError)
  /-- The device stopped at this failure. -/
  | aborted (f : TrackFailure)
  deriving Inhabited

def abortMessage (f : TrackFailure) : String :=
  "device kernel abort: " ++ f.message

/-- One slot of a host sweep: the slot and arena updated, its failure prepended. -/
def hostStep (label : String) (kernel : Kernel)
    (acc : Array Slot × Arena Secondary × List TrackFailure) (i : Nat) :
    Array Slot × Arena Secondary × List TrackFailure :=
  let (slots, arena, failures) := acc
  let (s, arena, err) := kernel i (slots.getD i default) arena
  let failures := match err with
    | some e => TrackFailure.ofSlot label i s e :: failures
    | none => failures
  (slots.set! i s, arena, failures)

/-- One slot of a run on the device: nothing once a slot of the run has failed. -/
def deviceStep (label : String) (kernel : Kernel)
    (acc : Array Slot × Arena Secondary × Option TrackFailure) (i : Nat) :
    Array Slot × Arena Secondary × Option TrackFailure :=
  match acc with
  | (slots, arena, none) =>
    let (s, arena, err) := kernel i (slots.getD i default) arena
    (slots.set! i s, arena, err.map (TrackFailure.ofSlot label i s))
  | stopped => stopped

/-- The failed sweep of a list of failures in slot order, if there is one. -/
def KernelError.ofFailures : List TrackFailure → Option KernelError
  | [] => none
  | f :: rest => some ⟨f, rest.length⟩

/-- The slots `lo, …, hi - 1` on the device, as the worker runs them: `handed` tells
whether the range came to the worker as a job from elsewhere, `splits` how many halvings it
may still take, and `outside` whether the sweep reached the worker from outside its pool
(which hands both halves of the whole range in). The first failure in slot order is the
range's. Each halving shortens the range, so `fuel` of its length is enough. -/
def deviceRange (label : String) (kernel : Kernel) :
    Nat → Nat → Nat → Bool → Nat → Bool → Array Slot × Arena Secondary →
      Array Slot × Arena Secondary × Option TrackFailure
  | 0, lo, hi, _, _, _, (slots, arena) =>
    (List.range' lo (hi - lo)).foldl (deviceStep label kernel) (slots, arena, none)
  | fuel + 1, lo, hi, handed, splits, outside, (slots, arena) =>
    let len := hi - lo
    if 2 ≤ len && (handed || splits > 0) then
      let splits := if handed then max 1 (splits / 2) else splits / 2
      let mid := lo + len / 2
      let (slots, arena, left) := deviceRange label kernel fuel lo mid outside splits false (slots, arena)
      let (slots, arena, right) :=
        deviceRange label kernel fuel mid hi (outside || left.isSome) splits false (slots, arena)
      (slots, arena, left.or right)
    else
      (List.range' lo (hi - lo)).foldl (deviceStep label kernel) (slots, arena, none)

/-- Runs `kernel` on every slot, labelled `label`, reaching the worker by `dispatch`. -/
def sweep (label : String) (space : Space) (dispatch : Dispatch) (kernel : Kernel)
    (st : CoreState) : CoreState × Option SweepError :=
  match space with
  | .host =>
    let (slots, arena, failures) :=
      (List.range st.slots.size).foldl (hostStep label kernel) (st.slots, st.secondaries, [])
    ({ st with slots, secondaries := arena },
      (KernelError.ofFailures failures.reverse).map .failed)
  | .device =>
    let (slots, arena, stop) :=
      deviceRange label kernel st.slots.size 0 st.slots.size false 1
        (dispatch == .fromOutside) (st.slots, st.secondaries)
    ({ st with slots, secondaries := arena }, stop.map .aborted)

/-! ## Sweeps on several threads -/

/-- The orders in which a pool of `workers` threads can bring the slots `0, …, n - 1` to a
kernel: every slot once, each slot on one thread, each thread taking its own slots in
increasing order, and the threads' turns interleaved in any way. -/
def Schedule (workers n : Nat) (order : List Nat) : Prop :=
  order.Perm (List.range n) ∧
    ∃ worker : Nat → Nat, (∀ i ∈ order, worker i < workers) ∧
      order.Pairwise fun i j => worker i = worker j → i < j

/-- A host sweep that brings the slots to the kernel in `order`. The host collects the
failures in slot order whatever the order of the visits. -/
def sweepInOrder (label : String) (kernel : Kernel) (order : List Nat) (st : CoreState) :
    CoreState × Option SweepError :=
  let (slots, arena, failures) :=
    order.foldl (hostStep label kernel) (st.slots, st.secondaries, [])
  ({ st with slots, secondaries := arena },
    (KernelError.ofFailures (failures.reverse.mergeSort fun f g => f.thread ≤ g.thread)).map
      .failed)

end Transport
