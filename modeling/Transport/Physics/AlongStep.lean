import Transport.Physics.Setup
/-!
# The along-step

One physical step of an alive track. After checking the track (a finite, non-negative
energy, a unit direction, a volume), the step is counted; a track that must retry its
interaction stays in place with a zero step. Otherwise the step is the shortest of the
distance to the next boundary (clamped at zero), the distance to the next discrete
interaction (`n / Σ`, with `n` mean free paths, sampled as `-ln(1 - u)` when unset), the
range under continuous loss (`E / (dE/dx)`) and the maximum step; the earlier candidate
wins a tie. A step nothing limits leaves the world.

The track then moves, its clock advances by `step / v`, `n` drops by `step · Σ`, and it
loses `min(dE/dx · step, E)` (all of it at the end of its range). At a boundary it enters
the next volume, or stops when there is none; an alive track left with no energy, or
below its tracking cutoff, deposits the rest and stops. An interaction-limited step draws
`u` and picks the model at the energy left, which the track keeps only while alive.
-/
namespace Transport

/-- What limits a step. -/
inductive StepCause where
  | boundary
  | interact
  | range
  | user
  deriving DecidableEq

/-- Proposes a step length: it wins when strictly shorter than the current one. -/
def propose (current : Float × StepCause) (distance : Float) (cause : StepCause) :
    Float × StepCause :=
  if distance < current.1 then (distance, cause) else current

/-- The length and cause of a step, from the boundary distance, the interaction length
(when the cross section is positive), the range (when the stopping power is positive) and
the maximum step. -/
def limitStep (boundary : Float) (xs mfp dedx energy maxStep : Float) : Float × StepCause :=
  let c := (maxNum boundary 0.0, StepCause.boundary)
  let c := if xs > 0.0 then propose c (mfp / xs) .interact else c
  let c := if dedx > 0.0 then propose c (energy / dedx) .range else c
  propose c maxStep .user

/-- The checks a track must pass before it is stepped; its volume when it passes. -/
def Slot.checkKinematics (s : Slot) : Except TrackError Nat :=
  if !(s.energy.isFinite && s.energy ≥ 0.0) then .error (.invalidEnergy s.energy)
  else if !s.dir.isUnit then .error (.invalidDirection s.dir)
  else match s.volume with
    | some v => .ok v
    | none => .error (.outsideGeometry s.pos)

/-- The mean free paths left: the stored value, or a fresh sample `-ln(1 - u)`. -/
def Slot.meanFreePaths (s : Slot) : Float × Slot :=
  match s.numMfp with
  | some n => (n, s)
  | none =>
    let (u, rng) := s.rng.uniform
    (-(1.0 - u).log, { s with rng })

/-- The end of a step of length `step` and cause `cause` that `s` can take: moved, slowed,
and the cause recorded. -/
def Slot.finishStep (p : Setup) (s : Slot) (hit : BoundaryHit) (xs mfp dedx step : Float)
    (cause : StepCause) : Slot :=
  let energy := s.energy
  let v := speed energy (p.particles.mass s.particle)
  let s := { s with pos := Vec3.axpy step s.dir s.pos,
                    time := if v > 0.0 then s.time + step / v else s.time,
                    numMfp := some (mfp - step * xs) }
  let loss := if cause == .range then energy else minNum (dedx * step) energy
  let remaining := if cause == .range then 0.0 else energy - loss
  let s := { s with deposition := s.deposition + loss }
  let s := if cause == .boundary then
      let s := { s with surface := hit.surface, volume := hit.nextVolume }
      if hit.nextVolume.isNone then s.kill else s
    else s
  let (s, remaining) :=
    if s.status == .alive &&
        (remaining ≤ 0.0 || remaining < (p.cutoffs.get s.particle).tracking) then
      ({ s with deposition := s.deposition + remaining }.kill, 0.0)
    else (s, remaining)
  let (s, action) : Slot × LimitAction := match cause with
    | .boundary => (s, .boundary)
    | .range => (s, .range)
    | .user => (s, .userLimit)
    | .interact =>
      let (u, rng) := s.rng.uniform
      let s := { s with numMfp := none, rng }
      match p.physics.selectModel s.particle remaining u with
      | some m => (s, if s.status == .alive then .interact m else .rejected)
      | none => (s, .rejected)
  { s with limit := ⟨step, some action⟩, energy := remaining }

/-- The along-step of one slot; a slot without an alive track is left alone, and a track
that fails its checks is left unchanged. -/
def alongStep (p : Setup) (s : Slot) : Slot × Option TrackError :=
  if !s.isAlive then (s, none)
  else match s.checkKinematics with
  | .error e => (s, some e)
  | .ok volume =>
    let s := { s with numSteps := s.numSteps + 1 }
    if s.retry then
      ({ s with retry := false, limit := { s.limit with step := 0.0 } }, none)
    else
      let xs := p.physics.totalXs s.particle s.energy
      let (mfp, s) := s.meanFreePaths
      let hit := p.geometry.findBoundary s.pos s.dir volume
      let s := { s with nextVolume := hit.nextVolume }
      let dedx := p.physics.stoppingPower s.particle
      let (step, cause) := limitStep hit.distance xs mfp dedx s.energy p.physics.maxStepLength
      if !step.isFinite then
        ({ s with limit := ⟨step, some .boundary⟩, volume := none, nextVolume := none }.kill, none)
      else (s.finishStep p hit xs mfp dedx step cause, none)

def alongStepSweep (p : Setup) (st : CoreState) : CoreState × Option SweepError :=
  sweep "along-step" p.space p.dispatch (fun _ s arena => let (s, e) := alongStep p s; (s, arena, e)) st

end Transport
