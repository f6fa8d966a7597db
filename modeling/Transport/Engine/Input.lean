import Transport.Engine.Histogram
import Transport.Physics.Params
import Transport.Track.Sweep
import Transport.Json.Value
import Transport.Json.Scale
/-!
# The scalar settings of a run

`RunInput` holds the numbers a run is configured with, each with a default. It is read
from JSON the way a derived, defaulted record reader reads it:

* an object, whose known keys set their fields (unknown keys are skipped, a known key
  given twice is an error), or an array giving the fields in declaration order, possibly
  fewer of them, but not more;
* counts, capacities and the seed are non-negative integers of at most 64 bits (no
  fractions, no exponents, no `null`); `threads` may also be `null`;
* the execution space is `"host"` or `"device"`, or an object of one such key whose value
  is `null`;
* the energy histogram is an object with all of `lower`, `upper` (numbers) and `bins`, or
  an array of exactly those three.

`validate` checks, in order: slots, the slot count fits 32 bits, the arena, the initializer
buffer holds at least one initializer per slot, the step budget, the thread count when
set, the energy histogram (a bin, then a finite non-empty range), the step histogram.
-/
namespace Transport

/-- Why a run cannot be configured. -/
inductive ConfigError where
  | pipeline (e : PipelineError)
  | zeroCapacity (name : String)
  | initializerCapacityTooSmall (initializerCapacity trackSlots : Nat)
  | trackSlotOverflow (value : Nat)
  | zeroStepBudget
  | invalidThreadCount
  | invalidHistogram (reason : String)
  | io (path reason : String)
  | parse (path reason : String)
  deriving Inhabited

namespace ConfigError

/-- The text of a configuration error. -/
def message : ConfigError → String
  | .pipeline e => "pipeline: " ++ e.message
  | .zeroCapacity name => s!"{name} must be at least 1"
  | .initializerCapacityTooSmall c n => s!"initializer_capacity {c} is below track_slots {n}"
  | .trackSlotOverflow v => s!"track_slots {v} exceeds u32::MAX"
  | .zeroStepBudget => "max_steps must be at least 1"
  | .invalidThreadCount => "threads must be at least 1 when set"
  | .invalidHistogram reason => "invalid histogram: " ++ reason
  | .io path reason => s!"cannot read '{path}': {reason}"
  | .parse path reason => s!"invalid run input '{path}': {reason}"

/-- The name of the error's kind; a pipeline error adds its own. -/
def kind : ConfigError → String
  | .pipeline e => "Pipeline/" ++ e.kind
  | .zeroCapacity _ => "ZeroCapacity"
  | .initializerCapacityTooSmall _ _ => "InitializerCapacityTooSmall"
  | .trackSlotOverflow _ => "TrackSlotOverflow"
  | .zeroStepBudget => "ZeroStepBudget"
  | .invalidThreadCount => "InvalidThreadCount"
  | .invalidHistogram _ => "InvalidHistogram"
  | .io _ _ => "Io"
  | .parse _ _ => "Parse"

/-- The error as a structural description. -/
def describe : ConfigError → String
  | .pipeline e => Describe.tagged "Pipeline" e.describe
  | .zeroCapacity name => Describe.record "ZeroCapacity" [("name", Describe.quoted name)]
  | .initializerCapacityTooSmall c n => Describe.record "InitializerCapacityTooSmall"
      [("initializer_capacity", toString c), ("track_slots", toString n)]
  | .trackSlotOverflow v => Describe.record "TrackSlotOverflow" [("value", toString v)]
  | .zeroStepBudget => "ZeroStepBudget"
  | .invalidThreadCount => "InvalidThreadCount"
  | .invalidHistogram reason => Describe.record "InvalidHistogram" [("reason", Describe.quoted reason)]
  | .io path reason => Describe.record "Io" [("path", Describe.quoted path), ("reason", Describe.quoted reason)]
  | .parse path reason =>
    Describe.record "Parse" [("path", Describe.quoted path), ("reason", Describe.quoted reason)]

/-- The errors this one wraps, outermost first. -/
def causes : ConfigError → List String
  | .pipeline e => [e.message]
  | _ => []

end ConfigError

/-- The scalar settings of a run. -/
structure RunInput where
  trackSlots : Nat
  initializerCapacity : Nat
  secondaryCapacity : Nat
  maxSteps : Nat
  seed : Nat
  threads : Option Nat
  space : Space
  energyHistogram : HistogramSpec
  stepHistogramBins : Nat
  deriving Inhabited

namespace RunInput

/-- The settings of a run that sets none. -/
def standard : RunInput :=
  { trackSlots := 1024, initializerCapacity := 8192, secondaryCapacity := 4096,
    maxSteps := 10000, seed := 0, threads := none, space := .host,
    energyHistogram := HistogramSpec.standard, stepHistogramBins := 20 }

/-- A histogram's binning must have a bin and a finite, non-empty range. -/
def checkHistogram (name : String) (s : HistogramSpec) : Except ConfigError Unit :=
  if s.bins = 0 then .error (.invalidHistogram s!"{name} needs at least one bin")
  else if !(s.lower.isFinite && s.upper.isFinite && s.lower < s.upper) then
    .error (.invalidHistogram (name ++ " range [" ++ Decimal.Layout.message.render s.lower ++ ", " ++
      Decimal.Layout.message.render s.upper ++ ") must be finite and non-empty"))
  else .ok ()

/-- Checks the settings, reporting the first problem. -/
def validate (r : RunInput) : Except ConfigError Unit :=
  if r.trackSlots = 0 then .error (.zeroCapacity "track_slots")
  else if r.trackSlots ≥ Nat.pow 2 32 then .error (.trackSlotOverflow r.trackSlots)
  else if r.secondaryCapacity = 0 then .error (.zeroCapacity "secondary_capacity")
  else if r.initializerCapacity < r.trackSlots then
    .error (.initializerCapacityTooSmall r.initializerCapacity r.trackSlots)
  else if r.maxSteps = 0 then .error .zeroStepBudget
  else if r.threads = some 0 then .error .invalidThreadCount
  else match checkHistogram "energy_histogram" r.energyHistogram with
    | .error e => .error e
    | .ok () =>
      if r.stepHistogramBins = 0 then
        .error (.invalidHistogram "step_histogram_bins needs at least one bin")
      else .ok ()

/-- The settings as a structural description. -/
def describe (r : RunInput) : String :=
  Describe.record "RunInput"
    [("track_slots", toString r.trackSlots),
     ("initializer_capacity", toString r.initializerCapacity),
     ("secondary_capacity", toString r.secondaryCapacity),
     ("max_steps", toString r.maxSteps), ("seed", toString r.seed),
     ("threads", Describe.optional toString r.threads),
     ("execution_space", r.space.describe),
     ("energy_histogram", r.energyHistogram.describe),
     ("step_histogram_bins", toString r.stepHistogramBins)]

end RunInput

namespace Json

/-- A non-negative integer of at most 64 bits. -/
def word? : Json → Option Nat
  | .int i => if 0 ≤ i && i ≤ wordMax then some i.toNat else none
  | _ => none

/-- A number, an integer read as the nearest double. -/
def real? : Json → Option Float
  | .int i => some (if i < 0 then -(nearestDouble i.natAbs) else nearestDouble i.natAbs)
  | .num x => some x
  | _ => none

/-- An execution space: its name, or an object of its name mapped to `null`. -/
def space? : Json → Option Space
  | .str "host" => some .host
  | .str "device" => some .device
  | .obj [("host", .null)] => some .host
  | .obj [("device", .null)] => some .device
  | _ => none

/-- Sets the fields of a record from a JSON object or array. `set i v` sets field `i`
(in declaration order) from `v`; the known keys are `names`. An object may not repeat a
known key; an array may give at most as many values as there are names. The fields set,
in the order set, come back with the record. -/
def record {α : Type} (names : List String) (set : α → Nat → Json → Option α) (init : α) :
    Json → Option (α × List Nat)
  | .obj members =>
    members.foldlM (fun (r, seen) (key, v) =>
      match names.idxOf? key with
      | none => some (r, seen)
      | some i => if seen.contains i then none else (set r i v).map fun r => (r, seen ++ [i]))
      (init, [])
  | .arr items =>
    if items.length > names.length then none
    else items.zipIdx.foldlM (fun (r, seen) (v, i) => (set r i v).map fun r => (r, seen ++ [i]))
      (init, [])
  | _ => none

end Json

namespace HistogramSpec

def fieldNames : List String := ["lower", "upper", "bins"]

/-- Sets one field of a binning. -/
def setField (s : HistogramSpec) : Nat → Json → Option HistogramSpec
  | 0, v => v.real?.map fun x => { s with lower := x }
  | 1, v => v.real?.map fun x => { s with upper := x }
  | 2, v => v.word?.map fun n => { s with bins := n }
  | _, _ => none

/-- Reads a binning; every field must be given. -/
def ofJson? (j : Json) : Option HistogramSpec :=
  match Json.record fieldNames setField ⟨0.0, 0.0, 0⟩ j with
  | some (s, seen) => if seen.length = 3 then some s else none
  | none => none

end HistogramSpec

namespace RunInput

/-- The keys of the settings, in declaration order. -/
def fieldNames : List String :=
  ["track_slots", "initializer_capacity", "secondary_capacity", "max_steps", "seed", "threads",
   "execution_space", "energy_histogram", "step_histogram_bins"]

/-- Sets one field of the settings. -/
def setField (r : RunInput) : Nat → Json → Option RunInput
  | 0, v => v.word?.map fun n => { r with trackSlots := n }
  | 1, v => v.word?.map fun n => { r with initializerCapacity := n }
  | 2, v => v.word?.map fun n => { r with secondaryCapacity := n }
  | 3, v => v.word?.map fun n => { r with maxSteps := n }
  | 4, v => v.word?.map fun n => { r with seed := n }
  | 5, .null => some { r with threads := none }
  | 5, v => v.word?.map fun n => { r with threads := some n }
  | 6, v => v.space?.map fun s => { r with space := s }
  | 7, v => (HistogramSpec.ofJson? v).map fun s => { r with energyHistogram := s }
  | 8, v => v.word?.map fun n => { r with stepHistogramBins := n }
  | _, _ => none

/-- Reads settings; a field not given keeps its default. -/
def ofJson? (j : Json) : Option RunInput :=
  (Json.record fieldNames setField standard j).map (·.1)

end RunInput

end Transport
