import Transport.Physics.AlongStep
import Transport.Physics.Interactions
/-!
# Actions and the step pipeline

A step runs its actions stage by stage: pre-step, along-step, post-step. Besides the
along-step and the processing of interaction outcomes, an action may do nothing, count
its calls, send every track straight to a model, or fail every occupied slot from some
call on. The last two, and the counter, keep their call count in the action itself.

`Pipeline.build` checks a list of actions against the physics: labels are unique, some
action is an along-step, the physics is valid, and no model shares a label with an
action. It then sorts the actions by stage, keeping the given order within a stage.
-/
namespace Transport

/-- The stage of a step an action belongs to. -/
inductive Stage where
  | preStep
  | alongStep
  | postStep
  deriving DecidableEq, Repr, Inhabited

namespace Stage

def rank : Stage → Nat
  | .preStep => 0
  | .alongStep => 1
  | .postStep => 2

def name : Stage → String
  | .preStep => "pre-step"
  | .alongStep => "along-step"
  | .postStep => "post-step"

/-- The stage of a name. -/
def ofName? : String → Option Stage
  | "pre-step" => some .preStep
  | "along-step" => some .alongStep
  | "post-step" => some .postStep
  | _ => none

def all : List Stage := [.preStep, .alongStep, .postStep]

end Stage

/-- An action of the step pipeline, with the call count of those that keep one. -/
inductive Action where
  | alongStep
  | processInteractions
  | noop (label : String) (stage : Stage)
  | counting (label : String) (stage : Stage) (calls : Nat)
  /-- Starts every occupied, unstopped track's step and ends it in `model`, in place. -/
  | forceInteract (model : Nat)
  /-- Fails every occupied slot from call `after` (counted from 0) on. -/
  | failing (stage : Stage) (after : Nat) (calls : Nat)
  deriving Inhabited

namespace Action

/-- The action's label. -/
def label : Action → String
  | .alongStep => "along-step"
  | .processInteractions => "process-interactions"
  | .noop l _ => l
  | .counting l _ _ => l
  | .forceInteract _ => "force-interact"
  | .failing _ _ _ => "failing-action"

/-- What the action does, in a sentence; empty for the test actions. -/
def description : Action → String
  | .alongStep => "propagate tracks and apply continuous energy loss"
  | .processInteractions => "apply interaction outcomes to track state"
  | _ => ""

/-- The stage the action runs in. -/
def stage : Action → Stage
  | .alongStep => .alongStep
  | .processInteractions => .postStep
  | .noop _ s => s
  | .counting _ s _ => s
  | .forceInteract _ => .alongStep
  | .failing s _ _ => s

def forceSlot (model : Nat) (s : Slot) : Slot :=
  if s.track.isNone || s.status == .killed then s
  else { s with status := .alive, numSteps := s.numSteps + 1, interaction := none,
                deposition := 0.0, limit := ⟨0.0, some (.interact model)⟩ }

/-- Runs the action once: the action with its count updated, the state, and how the
sweep failed if it did. -/
def execute (p : Setup) (a : Action) (st : CoreState) :
    Action × CoreState × Option SweepError :=
  match a with
  | .alongStep => let (st, e) := alongStepSweep p st; (a, st, e)
  | .processInteractions => let (st, e) := processSweep p st; (a, st, e)
  | .noop _ _ => (a, st, none)
  | .counting l s n => (.counting l s (n + 1), st, none)
  | .forceInteract m =>
    let (st, e) := sweep "force-interact" p.space p.dispatch (fun _ s arena => (forceSlot m s, arena, none)) st
    (a, st, e)
  | .failing s after n =>
    let a := Action.failing s after (n + 1)
    if n < after then (a, st, none)
    else
      let (st, e) := sweep "failing-action" p.space p.dispatch (fun _ s arena =>
        if s.track.isNone then (s, arena, none) else (s, arena, some (.invalidEnergy s.energy))) st
      (a, st, e)

end Action

/-- The standard actions: the along-step, then the processing of outcomes. -/
def standardActions : List Action := [.alongStep, .processInteractions]

def firstRepeat : List String → List String → Option String
  | _, [] => none
  | seen, l :: ls => if seen.contains l then some l else firstRepeat (seen ++ [l]) ls

/-- Checks a list of actions against the physics, reporting the first problem. -/
def checkActions (actions : List Action) (physics : PhysicsParams) : Except PipelineError Unit :=
  let labels := actions.map (·.label)
  match firstRepeat [] labels with
  | some l => .error (.duplicateLabel l)
  | none =>
    if !actions.any (·.stage == .alongStep) then .error .missingAlongStep
    else match physics.validate with
      | .error e => .error e
      | .ok () =>
        match physics.models.toList.find? (fun m => labels.contains m.label) with
        | some m => .error (.duplicateLabel m.label)
        | none => .ok ()

/-- The actions of a step, sorted by stage. -/
structure Pipeline where
  actions : List Action
  deriving Inhabited

namespace Pipeline

/-- Checks the actions and sorts them by stage, stably. -/
def build (actions : List Action) (physics : PhysicsParams) : Except PipelineError Pipeline :=
  match checkActions actions physics with
  | .error e => .error e
  | .ok () => .ok ⟨Stage.all.flatMap fun s => actions.filter (·.stage == s)⟩

def size (q : Pipeline) : Nat := q.actions.length

def labels (q : Pipeline) : List String := q.actions.map (·.label)

/-- The actions of a stage with their ids. -/
def stage (q : Pipeline) (s : Stage) : List (Nat × Action) :=
  (q.actions.zipIdx.filter fun (a, _) => a.stage == s).map fun (a, i) => (i, a)

def describe (q : Pipeline) : String :=
  Describe.list (q.labels.map Describe.quoted)

end Pipeline

end Transport
