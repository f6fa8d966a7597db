import Transport.Physics.Model
/-!
# The physics of a run

`PhysicsParams` registers the discrete models in order (a model's id is its position)
together with the range each covered when it was registered, the stopping power of each
particle type (in the order first set), and an optional maximum step.

* `modelXs id p e` is the model's cross section, clamped below at zero, where its range
  covers `(p, e)`, and zero elsewhere; `totalXs` sums them over the models from `-0.0`.
* `selectModel p e u` samples a model in proportion to its cross section: with
  `target = u · total`, the first model with a positive cross section whose running sum
  passes `target`; the last such model when rounding leaves `target` at the sum.
* `validate` checks, in order: some model is registered; model by model, a label not seen
  before and a range that can cover something; a positive maximum step if one is set; and
  every stopping power finite and not negative, in the order set.
-/
namespace Transport

/-- Why the physics or the action list of a run cannot be used. -/
inductive PipelineError where
  | missingAlongStep
  | duplicateLabel (label : String)
  | noModels
  | invalidApplicability (model : String)
  | invalidMaxStep (value : Float)
  | invalidEnergyLoss (particle : Nat) (value : Float)
  deriving Inhabited

namespace PipelineError

/-- The text of a pipeline error. -/
def message : PipelineError → String
  | .missingAlongStep => "pipeline has no along-step action"
  | .duplicateLabel l => s!"duplicate label '{l}'"
  | .noModels => "no physics models registered"
  | .invalidApplicability m => s!"model '{m}' has an empty applicability range"
  | .invalidMaxStep v => "max step must be positive, got " ++ Decimal.Layout.message.render v
  | .invalidEnergyLoss p v =>
    "invalid stopping power " ++ Decimal.Layout.message.render v ++ s!" for particle {p}"

/-- The name of the error's kind. -/
def kind : PipelineError → String
  | .missingAlongStep => "MissingAlongStep"
  | .duplicateLabel _ => "DuplicateLabel"
  | .noModels => "NoModels"
  | .invalidApplicability _ => "InvalidApplicability"
  | .invalidMaxStep _ => "InvalidMaxStep"
  | .invalidEnergyLoss _ _ => "InvalidEnergyLoss"

/-- The error as a structural description. -/
def describe : PipelineError → String
  | .missingAlongStep => "MissingAlongStep"
  | .duplicateLabel l => Describe.record "DuplicateLabel" [("label", Describe.quoted l)]
  | .noModels => "NoModels"
  | .invalidApplicability m => Describe.record "InvalidApplicability" [("model", Describe.quoted m)]
  | .invalidMaxStep v => Describe.record "InvalidMaxStep" [("value", Describe.real v)]
  | .invalidEnergyLoss p v => Describe.record "InvalidEnergyLoss"
      [("particle", Describe.tagged "ParticleId" (toString p)), ("value", Describe.real v)]

end PipelineError

/-- The registered models with their ranges, the stopping powers and the maximum step. -/
structure PhysicsParams where
  models : Array Model
  ranges : Array Applicability
  energyLoss : List (Nat × Float)
  maxStep : Option Float
  deriving Inhabited

namespace PhysicsParams

def empty : PhysicsParams := ⟨#[], #[], [], none⟩

/-- Registers a model with the range it covers now; it gets the next id. -/
def addModel (p : PhysicsParams) (m : Model) : PhysicsParams :=
  { p with models := p.models.push m, ranges := p.ranges.push m.applicability }

/-- The physics with these models registered in order. -/
def ofModels (ms : List Model) : PhysicsParams :=
  ms.foldl addModel empty

/-- Sets a stopping power; a particle set before keeps its place in the order. -/
def setEnergyLoss (p : PhysicsParams) (particle : Nat) (dedx : Float) : PhysicsParams :=
  if p.energyLoss.any (·.1 == particle) then
    { p with energyLoss := p.energyLoss.map fun (q, v) => if q == particle then (q, dedx) else (q, v) }
  else { p with energyLoss := p.energyLoss ++ [(particle, dedx)] }

def setMaxStep (p : PhysicsParams) (step : Float) : PhysicsParams :=
  { p with maxStep := some step }

def numModels (p : PhysicsParams) : Nat := p.models.size

def model? (p : PhysicsParams) (id : Nat) : Option Model := p.models[id]?

/-- Whether model `id`'s registered range covers `(particle, energy)`. -/
def applies (p : PhysicsParams) (id particle : Nat) (energy : Float) : Bool :=
  match p.ranges[id]? with
  | some a => a.applies particle energy
  | none => false

/-- The stopping power of a particle type (MeV/cm), zero when unset. -/
def stoppingPower (p : PhysicsParams) (particle : Nat) : Float :=
  match p.energyLoss.find? (·.1 == particle) with
  | some (_, v) => v
  | none => 0.0

def maxStepLength (p : PhysicsParams) : Float :=
  p.maxStep.getD infinity

/-- Model `id`'s cross section at `(particle, energy)`: clamped below at zero where its
range covers them, zero elsewhere. -/
def modelXs (p : PhysicsParams) (id particle : Nat) (energy : Float) : Float :=
  match p.ranges[id]?, p.models[id]? with
  | some a, some m => if a.applies particle energy then maxNum (m.macroXs) 0.0 else 0.0
  | _, _ => 0.0

/-- The total cross section, summed over the models from `-0.0`. -/
def totalXs (p : PhysicsParams) (particle : Nat) (energy : Float) : Float :=
  sumFrom ((List.range p.numModels).map fun id => p.modelXs id particle energy)

/-- The running search of `selectModel` over the ids left: the accumulated cross section
and the last model with a positive one. -/
def selectFrom (p : PhysicsParams) (particle : Nat) (energy target : Float) :
    List Nat → Float → Option Nat → Option Nat
  | [], _, last => last
  | id :: rest, acc, last =>
    let xs := p.modelXs id particle energy
    if xs ≤ 0.0 then p.selectFrom particle energy target rest acc last
    else
      let acc := acc + xs
      if target < acc then some id else p.selectFrom particle energy target rest acc (some id)

/-- Samples a model in proportion to its cross section, with `u` uniform in `[0, 1)`. -/
def selectModel (p : PhysicsParams) (particle : Nat) (energy u : Float) : Option Nat :=
  let total := p.totalXs particle energy
  if !(total > 0.0) then none
  else p.selectFrom particle energy (u * total) (List.range p.numModels) 0.0 none

/-- The first model whose label an earlier model has, or whose range is invalid. -/
def checkModels (p : PhysicsParams) : Except PipelineError Unit :=
  let step (seen : Except PipelineError (List String)) (i : Nat) :=
    match seen with
    | .error e => .error e
    | .ok labels =>
      let m := p.models.getD i default
      if labels.contains m.label then .error (.duplicateLabel m.label)
      else if !(p.ranges.getD i default).isValid then .error (.invalidApplicability m.label)
      else .ok (labels ++ [m.label])
  match (List.range p.numModels).foldl step (.ok []) with
  | .ok _ => .ok ()
  | .error e => .error e

/-- Checks the physics, reporting the first problem. -/
def validate (p : PhysicsParams) : Except PipelineError Unit :=
  if p.models.isEmpty then .error .noModels
  else
    match p.checkModels with
    | .error e => .error e
    | .ok () =>
      match p.maxStep with
      | some step => if !(step > 0.0) then .error (.invalidMaxStep step) else lossCheck p
      | none => lossCheck p
where
  lossCheck (p : PhysicsParams) : Except PipelineError Unit :=
    match p.energyLoss.find? fun (_, v) => !(v.isFinite && v ≥ 0.0) with
    | some (q, v) => .error (.invalidEnergyLoss q v)
    | none => .ok ()

/-- The physics as a structural description: model labels, stopping powers, maximum step. -/
def describe (p : PhysicsParams) : String :=
  Describe.record "PhysicsParams"
    [("models", Describe.list (p.models.toList.map fun m => Describe.quoted m.label)),
     ("energy_loss", Describe.map (p.energyLoss.map fun (q, v) =>
        (Describe.tagged "ParticleId" (toString q), Describe.real v))),
     ("max_step", Describe.optional Describe.real p.maxStep)]

end PhysicsParams

end Transport
