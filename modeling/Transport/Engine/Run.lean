import Transport.Engine.Stepper
import Transport.Json.Value
/-!
# Running to the end

A `Transporter` is a stepper and the standard diagnostics. `run` queues the primaries and
steps until no track is alive and no initializer is pending, or until the step budget is
used up, which is a normal end that reports what was left. The result holds the
diagnostics and the counts of every step, and hashes to a fingerprint that every
deterministic part of it feeds, in a fixed order.
-/
namespace Transport

/-- Why a run failed: its configuration, a buffer too large for memory when the run was
built, its primaries, or a step. -/
inductive RunError where
  | config (e : ConfigError)
  | capacityOverflow
  | init (e : InitError)
  | step (e : StepError)
  deriving Inhabited

namespace RunError

/-- The text of a run error. -/
def message : RunError → String
  | .config e => "configuration: " ++ e.message
  | .capacityOverflow => overflowMessage
  | .init e => "primaries: " ++ e.message
  | .step e => "step: " ++ e.message

/-- The name of the error's kind, with the kinds of the errors it wraps. -/
def kind : RunError → String
  | .config e => "Config/" ++ e.kind
  | .capacityOverflow => "panic"
  | .init _ => "Init/CapacityExceeded"
  | .step e => "Step/" ++ e.kind

/-- The error as a structural description. -/
def describe : RunError → String
  | .config e => Describe.tagged "Config" e.describe
  | .capacityOverflow => overflowMessage
  | .init e => Describe.tagged "Init" e.describe
  | .step e => Describe.tagged "Step" e.describe

/-- The texts of the errors this one wraps, outermost first. -/
def causes : RunError → List String
  | .config e => e.message :: e.causes
  | .capacityOverflow => []
  | .init e => [e.message]
  | .step e => e.message :: e.causes

end RunError

inductive Termination where
  | drained
  | budgetExhausted (alive pending : Nat)
  deriving Inhabited

/-- The outcome of a run. -/
structure RunResult where
  termination : Termination
  steps : Nat
  primaries : Nat
  alivePerStep : List Nat
  energyDeposition : Histogram
  stepsAtDeath : List (String × Array Nat)
  interactions : List (String × List (String × Nat))
  counters : List Counters
  deriving Inhabited

namespace RunResult

def feedCounters (f : Fingerprint) (c : Counters) : Fingerprint :=
  let f := (((f.count c.step).count c.active).count c.initialized).count c.alive
  let f := (((f.count c.pending).count c.secondaries).count c.promoted).count c.killed
  (f.count c.failedInteractions).count (if c.arenaExhausted then 1 else 0)

/-- The fingerprint of a result: termination, steps, primaries, alive counts, the energy
histogram, the step counts per particle, the interaction counts, and every step's
counts, each list behind its length. -/
def fingerprint (r : RunResult) : UInt64 :=
  let f := match r.termination with
    | .drained => Fingerprint.new.count 0
    | .budgetExhausted alive pending => ((Fingerprint.new.count 1).count alive).count pending
  let f := (f.count r.steps).count r.primaries
  let f := r.alivePerStep.foldl Fingerprint.count (f.count r.alivePerStep.length)
  let f := r.energyDeposition.feed f
  let f := r.stepsAtDeath.foldl (fun f (name, counts) =>
    (f.text name).words (counts.toList.map Nat.toUInt64)) (f.count r.stepsAtDeath.length)
  let f := r.interactions.foldl (fun f (name, models) =>
    models.foldl (fun f (label, n) => (f.text label).count n)
      ((f.text name).count models.length)) (f.count r.interactions.length)
  let f := r.counters.foldl feedCounters (f.count r.counters.length)
  f.value

/-- The energy deposited in the histogram, including under- and overflow. -/
def totalEnergyDeposition (r : RunResult) : Float := r.energyDeposition.total

/-- A histogram as a record of its edges, bins, underflow and overflow. -/
def histogramJson (h : Histogram) : Json :=
  .obj [("edges", .arr (h.edges.toList.map .num)), ("values", .arr (h.values.toList.map .num)),
        ("underflow", .num h.underflow), ("overflow", .num h.overflow)]

/-- A step's counts as a record. -/
def countersJson (c : Counters) : Json :=
  .obj [("step", .int c.step), ("active", .int c.active), ("initialized", .int c.initialized),
        ("alive", .int c.alive), ("pending", .int c.pending),
        ("secondaries", .int c.secondaries), ("promoted", .int c.promoted),
        ("killed", .int c.killed), ("failed_interactions", .int c.failedInteractions),
        ("arena_exhausted", .bool c.arenaExhausted)]

/-- How a run ended, as a record tagged by its reason. -/
def terminationJson : Termination → Json
  | .drained => .obj [("reason", .str "drained")]
  | .budgetExhausted alive pending =>
    .obj [("reason", .str "step_budget_exhausted"), ("alive", .int alive), ("pending", .int pending)]

/-- The result as a JSON record, fields in declaration order; timings are left out. -/
def toJson (r : RunResult) : Json :=
  .obj [("termination", terminationJson r.termination), ("steps", .int r.steps),
        ("primaries", .int r.primaries),
        ("alive_per_step", .arr (r.alivePerStep.map fun (n : Nat) => Json.int n)),
        ("energy_deposition", histogramJson r.energyDeposition),
        ("steps_at_death", .obj (r.stepsAtDeath.map fun (k, v) =>
          (k, .arr (v.toList.map fun (n : Nat) => Json.int n)))),
        ("interactions", .obj (r.interactions.map fun (k, v) =>
          (k, .obj (v.map fun (l, n) => (l, .int n))))),
        ("counters", .arr (r.counters.map countersJson))]

end RunResult

/-- A stepper and the standard diagnostics of its run. -/
structure Transporter where
  stepper : Stepper
  diagnostics : DiagnosticSet
  deriving Inhabited

namespace Transporter

/-- Builds the transporter of a configuration: the diagnostics first, then the stepper. -/
def new (c : RunConfig) : Except StartError Transporter :=
  match DiagnosticSet.new c.input.energyHistogram c.input.stepHistogramBins with
  | none => .error StartError.capacityOverflow
  | some d => (Stepper.new c).map fun s => ⟨s, d⟩

def describe (t : Transporter) : String :=
  Describe.record "Transporter" [("stepper", t.stepper.describe), ("diagnostics", t.diagnostics.describe)]

/-- Steps until the slots drain or the budget is used; `fuel` bounds the steps left. -/
def loop (fuel : Nat) (s : Stepper) (w : Watchers) (counters : List Counters) :
    Stepper × Watchers × Except StepError (Termination × List Counters) :=
  let alive := s.state.numAlive
  let pending := s.state.numInitializers
  if alive = 0 && pending = 0 then (s, w, .ok (.drained, counters.reverse))
  else if s.steps ≥ s.maxSteps then (s, w, .ok (.budgetExhausted alive pending, counters.reverse))
  else match fuel with
    | 0 => (s, w, .ok (.budgetExhausted alive pending, counters.reverse))
    | fuel + 1 =>
      match s.step w with
      | (s, w, .ok c) => loop fuel s w (c :: counters)
      | (s, w, .error e) => (s, w, .error e)

/-- Runs the primaries to the end, with an optional observer after the standard
diagnostics: the stepper and the observer as the run left them, and the result or why the
run failed. -/
def runWith (t : Transporter) (primaries : List Primary) (observer : Option Observer) :
    Stepper × Option Observer × Except RunError RunResult :=
  match t.stepper.loadPrimaries primaries with
  | .error e => (t.stepper, observer, .error (.init e))
  | .ok s =>
    match loop (s.maxSteps - s.steps + 1) s ⟨t.diagnostics, observer⟩ [] with
    | (s, w, .error e) => (s, w.extra, .error (.step e))
    | (s, w, .ok (termination, counters)) =>
      let d := w.standard
      (s, w.extra, .ok { termination, steps := s.steps, primaries := primaries.length,
                         alivePerStep := d.tracks.alive, energyDeposition := d.energy.histogram,
                         stepsAtDeath := d.steps.counts, interactions := d.processes.counts,
                         counters })

def run (t : Transporter) (primaries : List Primary) : Except RunError RunResult :=
  (t.runWith primaries none).2.2

end Transporter

/-- Builds the run of a configuration and runs the primaries. -/
def transport (c : RunConfig) (primaries : List Primary) : Except RunError RunResult :=
  match Transporter.new c with
  | .error (.config e) => .error (.config e)
  | .error StartError.capacityOverflow => .error RunError.capacityOverflow
  | .ok t => t.run primaries

end Transport
