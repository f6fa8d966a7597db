import Transport.Engine.Diagnostics
import Transport.Engine.Input
import Transport.Physics.Launch
import Transport.Pipeline
import Transport.Track.Population
/-!
# The stepper

One step over every slot runs, in order:

1. fill vacant slots from pending initializers;
2. reset the per-step state, then the pre-step actions;
3. the along-step actions;
4. every model, in registration order;
5. the post-step actions;
6. the mid-step diagnostics;
7. queue the surviving secondaries as initializers;
8. reclaim stopped slots and clear the arena;
9. the end-step diagnostics.

A failed step leaves slots half updated, so any step error disables the stepper: every
later step fails with `StepDisabled`. A step past the budget fails with
`StepBudgetExhausted` and disables nothing. A device abort, or a diagnostic's buffer too
large for memory, stops the program in the middle of the step: the stepper keeps what the
step did so far, is not disabled, and does not count the step.
-/
namespace Transport

/-- Why a step failed. -/
inductive StepError where
  | kernel (e : KernelError)
  | init (e : InitError)
  | disabled
  | budgetExhausted
  /-- A device sweep stopped at this failure; nothing can go on after it. -/
  | aborted (f : TrackFailure)
  /-- A diagnostic asked for a buffer too large for memory; nothing can go on after it. -/
  | capacityOverflow
  deriving Inhabited

namespace StepError

/-- The step error of a failed sweep. -/
def ofSweep : SweepError → StepError
  | .failed e => .kernel e
  | .aborted f => .aborted f

/-- The text of a step error. -/
def message : StepError → String
  | .kernel e => "kernel failed: " ++ e.message
  | .init e => "track initialization failed: " ++ e.message
  | .disabled => "stepping disabled after a failed step"
  | .budgetExhausted => "step budget exhausted"
  | .aborted f => abortMessage f
  | .capacityOverflow => overflowMessage

/-- Whether the error stops the program rather than the step. -/
def halts : StepError → Bool
  | .aborted _ | .capacityOverflow => true
  | _ => false

/-- The name of the error's kind; a failed sweep adds its first failure's. -/
def kind : StepError → String
  | .kernel e => "Kernel/" ++ e.first.error.kind
  | .init _ => "Init/CapacityExceeded"
  | .disabled => "StepDisabled"
  | .budgetExhausted => "StepBudgetExhausted"
  | .aborted _ | .capacityOverflow => "panic"

/-- The error as a structural description. -/
def describe : StepError → String
  | .kernel e => Describe.tagged "Kernel" e.describe
  | .init e => Describe.tagged "Init" e.describe
  | .disabled => "StepDisabled"
  | .budgetExhausted => "StepBudgetExhausted"
  | .aborted f => f.describe
  | .capacityOverflow => overflowMessage

/-- The texts of the errors this one wraps, outermost first. -/
def causes : StepError → List String
  | .kernel e => [e.message, e.first.message, e.first.error.message]
  | .init e => [e.message]
  | _ => []

end StepError

/-- Why a stepper could not be built: its configuration, or a buffer too large for
memory. -/
inductive StartError where
  | config (e : ConfigError)
  | capacityOverflow
  deriving Inhabited

/-- The counts of one step. -/
structure Counters where
  step : Nat
  active : Nat
  initialized : Nat
  alive : Nat
  pending : Nat
  secondaries : Nat
  promoted : Nat
  killed : Nat
  failedInteractions : Nat
  arenaExhausted : Bool
  deriving Inhabited

/-- The counts as a structural description. -/
def Counters.describe (c : Counters) : String :=
  Describe.record "StepCounters"
    [("step", toString c.step), ("active", toString c.active),
     ("initialized", toString c.initialized), ("alive", toString c.alive),
     ("pending", toString c.pending), ("secondaries", toString c.secondaries),
     ("promoted", toString c.promoted), ("killed", toString c.killed),
     ("failed_interactions", toString c.failedInteractions),
     ("arena_exhausted", toString c.arenaExhausted)]

/-- Everything a run is built from: the settings, the geometry, particles, physics and
cutoffs, and the actions. -/
structure RunConfig where
  input : RunInput
  geometry : Geometry
  particles : ParticleTable
  physics : PhysicsParams
  cutoffs : CutoffTable
  actions : List Action
  deriving Inhabited

namespace RunConfig

/-- Checks the settings, then the actions against the physics. -/
def validate (c : RunConfig) : Except ConfigError Unit :=
  match c.input.validate with
  | .error e => .error e
  | .ok () =>
    match checkActions c.actions c.physics with
    | .error e => .error (.pipeline e)
    | .ok () => .ok ()

/-- The configuration as a structural description. -/
def describe (c : RunConfig) : String :=
  Describe.record "RunConfig"
    [("input", c.input.describe), ("geometry", Describe.quoted c.geometry.name),
     ("particles", c.particles.describe), ("physics", c.physics.describe),
     ("actions", Describe.list (c.actions.map fun a => Describe.quoted a.label))]

end RunConfig

/-- Runs the actions of one stage in order, stopping at the first failure; every action
comes back, those that ran with their counts updated. -/
def runStage (p : Setup) (stage : Stage) :
    List Action → CoreState → List Action × CoreState × Option SweepError
  | [], st => ([], st, none)
  | a :: rest, st =>
    if a.stage != stage then
      let (rest, st, e) := runStage p stage rest st
      (a :: rest, st, e)
    else
      match a.execute p st with
      | (a, st, some e) => (a :: rest, st, some e)
      | (a, st, none) =>
        let (rest, st, e) := runStage p stage rest st
        (a :: rest, st, e)

/-- The labels of the actions and models a successful step ran, in order. -/
structure StepLabels where
  actions : List String
  models : List String
  deriving Inhabited

/-- The state of a run between steps. -/
structure Stepper where
  setup : Setup
  pipeline : Pipeline
  state : CoreState
  threads : Option Nat
  maxSteps : Nat
  steps : Nat
  disabled : Bool
  lastLabels : StepLabels
  deriving Inhabited

namespace Stepper

/-- Checks a configuration and builds the stepper with empty slots. -/
def new (c : RunConfig) : Except StartError Stepper :=
  match c.validate with
  | .error e => .error (.config e)
  | .ok () =>
    match Pipeline.build c.actions c.physics with
    | .error e => .error (.config (.pipeline e))
    | .ok pipeline =>
      match CoreState.new c.input.trackSlots c.input.initializerCapacity c.input.secondaryCapacity with
      | none => .error .capacityOverflow
      | some state =>
        .ok { setup := { geometry := c.geometry, particles := c.particles,
                         physics := c.physics, cutoffs := c.cutoffs,
                         seed := c.input.seed.toUInt64, space := c.input.space,
                         dispatch := if c.input.threads.isSome then .onWorker else .fromOutside },
              pipeline, state, threads := c.input.threads, maxSteps := c.input.maxSteps,
              steps := 0, disabled := false, lastLabels := ⟨[], []⟩ }

def loadPrimaries (s : Stepper) (ps : List Primary) : Except InitError Stepper :=
  match s.state.init.extendFromPrimaries ps with
  | .ok init => .ok { s with state := { s.state with init } }
  | .error e => .error e

/-- Whether a track is alive or an initializer is pending. -/
def hasWork (s : Stepper) : Bool :=
  s.state.numAlive > 0 || s.state.numInitializers > 0

/-- The stepper as a structural description. -/
def describe (s : Stepper) : String :=
  Describe.record "Stepper"
    [("actions", s.pipeline.describe), ("state", s.state.describe),
     ("threads", Describe.optional toString s.threads), ("steps", toString s.steps),
     ("max_steps", toString s.maxSteps), ("disabled", toString s.disabled)]

/-- Stages 1 to 5 of a step: the slots swept, the actions with their counts, and the
number of tracks initialized and of occupied slots after initialization. -/
def transport (p : Setup) (actions : List Action) (st : CoreState) :
    List Action × CoreState × Except StepError (Nat × Nat) :=
  match initializeTracks p.geometry p.seed p.space p.dispatch st with
  | (st, .error e) => (actions, st, .error (.ofSweep e))
  | (st, .ok initialized) =>
    let active := st.countOccupied
    let (st, _) := startStep p.space p.dispatch st
    let stages : List Action × CoreState × Option SweepError :=
      match runStage p .preStep actions st with
      | (actions, st, some e) => (actions, st, some e)
      | (actions, st, none) =>
        match runStage p .alongStep actions st with
        | (actions, st, some e) => (actions, st, some e)
        | (actions, st, none) =>
          match launchModels p st with
          | (st, some e) => (actions, st, some e)
          | (st, none) => runStage p .postStep actions st
    match stages with
    | (actions, st, some e) => (actions, st, .error (.ofSweep e))
    | (actions, st, none) => (actions, st, .ok (initialized, active))

/-- The slots whose interaction must be retried. -/
def failedInteractions (st : CoreState) : Nat :=
  (st.slots.toList.filter fun s =>
    s.isAlive && match s.interaction with
      | some o => o.outcome == .failed
      | none => false).length

/-- One step, observed by `w`: the stepper and observers after it, and its counts or
why it failed. -/
def execute (s : Stepper) (w : Watchers) : Stepper × Watchers × Except StepError Counters :=
  let p := s.setup
  let (actions, st, moved) := transport p s.pipeline.actions s.state
  let s := { s with pipeline := ⟨actions⟩, state := st }
  match moved with
  | .error e => (s, w, .error e)
  | .ok (initialized, active) =>
    let failed := failedInteractions st
    let secondaries := st.secondaries.size
    let exhausted := st.secondaries.isExhausted
    match w.midStep p st with
    | (w, false) => (s, w, .error .capacityOverflow)
    | (w, true) =>
      match extendFromSecondaries p.cutoffs st with
      | .error e => (s, w, .error (.init e))
      | .ok (promoted, st) =>
        let (st, killed) := cleanup st
        let w := w.endStep st
        let counters : Counters :=
          { step := s.steps, active, initialized, alive := st.numAlive,
            pending := st.numInitializers, secondaries, promoted, killed,
            failedInteractions := failed, arenaExhausted := exhausted }
        ({ s with state := st }, w, .ok counters)

/-- A step, unless the stepper is disabled or out of budget; a failure of the step
disables it. -/
def step (s : Stepper) (w : Watchers) : Stepper × Watchers × Except StepError Counters :=
  if s.disabled then (s, w, .error .disabled)
  else if s.steps ≥ s.maxSteps then (s, w, .error .budgetExhausted)
  else
    match s.execute w with
    | (s, w, .ok c) =>
      ({ s with steps := s.steps + 1,
                lastLabels := ⟨s.pipeline.labels, s.setup.physics.models.toList.map (·.label)⟩ },
        w, .ok c)
    | (s, w, .error e) => (if e.halts then s else { s with disabled := true }, w, .error e)

end Stepper

end Transport
