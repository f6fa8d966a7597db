import Transport.Track.Error
/-!
# Discrete physics models

A model has a label, the particle types and half-open energy range it covers, a constant
macroscopic cross section (1/cm), and an interaction: given the track's slot and the step
arena, it returns the outcome, having drawn from the track's stream or reserved arena
cells as it needs.

* absorption and the scripted `kill`: the track stops and deposits its energy;
* isotropic scattering: a new direction uniform on the sphere, energy kept;
* pair conversion: a photon above `2 mₑ` becomes an electron and a positron sharing the
  energy above threshold by a uniform fraction, both along the photon; it reserves two
  arena cells after drawing the fraction, and fails (to be retried) when they do not fit;
* `emit`: the track stops and `count` children share its energy, along its direction; it
  fails when the cells do not fit;
* `faulty`: refuses the tracks whose id matches a rule, and absorbs the others;
* `fixed`: a scripted outcome, or a scripted refusal.
-/
namespace Transport

def electronMass : Float := 0.51099895

/-- The particle types a model covers and its energy range `[lower, upper)`. -/
structure Applicability where
  particles : List Nat
  lower : Float
  upper : Float
  deriving Inhabited

namespace Applicability

/-- Whether the model covers this particle type at this energy. -/
def applies (a : Applicability) (particle : Nat) (energy : Float) : Bool :=
  a.particles.contains particle && energy ≥ a.lower && energy < a.upper

/-- Whether the range can cover anything: some particle type, and bounds that are numbers
with `lower < upper`. -/
def isValid (a : Applicability) : Bool :=
  !a.particles.isEmpty && !a.lower.isNaN && !a.upper.isNaN && a.lower < a.upper

/-- Every particle of the test table at every energy. -/
def everything : Applicability := ⟨[0, 1, 2], 0.0, infinity⟩

end Applicability

/-- Which track ids a faulty model refuses. -/
inductive FailRule where
  | always
  | never
  | even
  | odd
  /-- Only track 0. -/
  | first
  deriving DecidableEq, Repr, Inhabited

/-- Whether the rule refuses a track id. -/
def FailRule.refuses : FailRule → Nat → Bool
  | .always, _ => true
  | .never, _ => false
  | .even, id => id % 2 == 0
  | .odd, id => id % 2 == 1
  | .first, id => id == 0

/-- The outgoing energy of a scripted outcome. -/
inductive ScriptEnergy where
  /-- The track's energy. -/
  | same
  | value (x : Float)
  /-- The track's energy times a factor. -/
  | scaled (factor : Float)
  deriving Inhabited

/-- The outgoing direction of a scripted outcome. -/
inductive ScriptDirection where
  | same
  | reverse
  | value (v : Vec3)
  deriving Inhabited

/-- The local deposition of a scripted outcome. -/
inductive ScriptDeposit where
  | value (x : Float)
  /-- The track's energy. -/
  | energy
  deriving Inhabited

/-- A scripted interaction: its outcome and values, or a refusal with a reason. -/
structure Script where
  outcome : Outcome
  energy : ScriptEnergy
  direction : ScriptDirection
  deposit : ScriptDeposit
  refusal : Option String
  deriving Inhabited

/-- The interaction a script gives a track of energy `e` and direction `d`. -/
def Script.interaction (c : Script) (e : Float) (d : Vec3) : Interaction :=
  { outcome := c.outcome,
    energy := match c.energy with
      | .same => e
      | .value x => x
      | .scaled f => e * f,
    direction := match c.direction with
      | .same => d
      | .reverse => ⟨-d.x, -d.y, -d.z⟩
      | .value v => v,
    secondaries := Span.empty,
    deposition := match c.deposit with
      | .value x => x
      | .energy => e }

/-- A discrete physics model. -/
inductive Model where
  | absorption (label : String) (range : Applicability) (xs : Float)
  | isotropic (label : String) (range : Applicability) (xs : Float)
  | pair (gamma electron positron : Nat) (xs : Float)
  | kill (label : String) (range : Applicability) (xs : Float)
  | emit (parent child count : Nat) (xs : Float)
  | faulty (xs : Float) (rule : FailRule)
  | fixed (label : String) (range : Applicability) (xs : Float) (script : Script)
  deriving Inhabited

namespace Model

/-- The model's label. -/
def label : Model → String
  | .absorption l _ _ => l
  | .isotropic l _ _ => l
  | .pair _ _ _ _ => "pair-conversion"
  | .kill l _ _ => l
  | .emit _ _ _ _ => "emit"
  | .faulty _ _ => "failing"
  | .fixed l _ _ _ => l

/-- The particle types and energies the model covers. -/
def applicability : Model → Applicability
  | .absorption _ a _ => a
  | .isotropic _ a _ => a
  | .pair g _ _ _ => ⟨[g], 2.0 * electronMass, infinity⟩
  | .kill _ a _ => a
  | .emit p _ _ _ => ⟨[p], 0.0, infinity⟩
  | .faulty _ _ => Applicability.everything
  | .fixed _ a _ _ => a

/-- The macroscopic cross section (1/cm); constant for every model here. -/
def macroXs : Model → Float
  | .absorption _ _ xs => xs
  | .isotropic _ _ xs => xs
  | .pair _ _ _ xs => xs
  | .kill _ _ xs => xs
  | .emit _ _ _ xs => xs
  | .faulty xs _ => xs
  | .fixed _ _ xs _ => xs

end Model

/-- A direction uniform on the unit sphere: `cos θ = 2u₁ - 1` and `φ = 2π u₂`, from the
stream's next two doubles. -/
def sampleDirection (rng : Random.Stream) : Vec3 × Random.Stream :=
  let (u1, rng) := rng.uniform
  let cost := 2.0 * u1 - 1.0
  let sint := (maxNum (1.0 - cost * cost) 0.0).sqrt
  let (u2, rng) := rng.uniform
  let phi := 2.0 * 3.141592653589793 * u2
  (⟨sint * phi.cos, sint * phi.sin, cost⟩, rng)

namespace Model

/-- A model's interaction with the track in slot `s`: the slot (its stream advanced by the
draws), the arena (with any reservation), and the outcome or the refusal. -/
def interact (m : Model) (s : Slot) (arena : Arena Secondary) :
    Slot × Arena Secondary × Except TrackError Interaction :=
  match m with
  | .absorption _ _ _ => (s, arena, .ok (Interaction.absorbed s.energy))
  | .kill _ _ _ => (s, arena, .ok (Interaction.absorbed s.energy))
  | .isotropic _ _ _ =>
    let (d, rng) := sampleDirection s.rng
    ({ s with rng }, arena, .ok (Interaction.scattered s.energy d))
  | .pair _ electron positron _ =>
    let available := s.energy - 2.0 * electronMass
    if available < 0.0 then
      (s, arena, .error (.model "pair-conversion"
        ("photon energy " ++ Decimal.Layout.message.render s.energy ++ " MeV below pair threshold")))
    else
      let (fraction, rng) := s.rng.uniform
      let s := { s with rng }
      match arena.allocate 2 with
      | (.error _, arena) => (s, arena, .ok Interaction.failed)
      | (.ok span, arena) =>
        let (arena, written) := arena.writeAll span
          [⟨electron, fraction * available, s.dir⟩, ⟨positron, (1.0 - fraction) * available, s.dir⟩]
        match written with
        | .ok () => (s, arena, .ok { Interaction.absorbed 0.0 with secondaries := span })
        | .error e => (s, arena, .error (.model "pair-conversion" e.message))
  | .emit _ child count _ =>
    match arena.allocate count with
    | (.error _, arena) => (s, arena, .ok Interaction.failed)
    | (.ok span, arena) =>
      let energy := s.energy / (max count 1).toFloat
      let (arena, written) := arena.writeAll span (List.replicate count ⟨child, energy, s.dir⟩)
      match written with
      | .ok () => (s, arena, .ok { Interaction.absorbed 0.0 with secondaries := span })
      | .error e => (s, arena, .error (.model "emit" e.message))
  | .faulty _ rule =>
    match s.track with
    | some id =>
      if rule.refuses id then (s, arena, .error (.model "failing" s!"injected failure on track {id}"))
      else (s, arena, .ok (Interaction.absorbed s.energy))
    | none => (s, arena, .ok (Interaction.absorbed s.energy))
  | .fixed label _ _ script =>
    match script.refusal with
    | some reason => (s, arena, .error (.model label reason))
    | none => (s, arena, .ok (script.interaction s.energy s.dir))

end Model

end Transport
