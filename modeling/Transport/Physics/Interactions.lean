import Transport.Physics.Setup
/-!
# Applying interaction outcomes

After the models have run, each alive track with an outcome takes it: a scattered track
its new energy and direction (both checked first), an absorbed track stops with no
energy, and a track whose secondaries did not fit retries next step. The step's
deposition gains the outcome's local deposition, the energy of the secondaries below
their production cutoff, and the energy of a track left alive below its tracking cutoff
(which then stops). A negative or non-finite local deposition is the model's error, and
leaves the track unchanged.
-/
namespace Transport

/-- The label of the model that limited the step, for its errors. -/
def modelLabel (p : Setup) (s : Slot) : String :=
  match s.limit.action with
  | some (.interact id) =>
    match p.physics.model? id with
    | some m => m.label
    | none => s!"model {id}"
  | _ => "unknown"

/-- The new kinematics of an outcome, or why it cannot be taken. -/
def applyOutcome (s : Slot) (o : Interaction) : Except TrackError Slot :=
  match o.outcome with
  | .unchanged => .ok s
  | .scattered =>
    if !(o.energy.isFinite && o.energy ≥ 0.0) then .error (.invalidEnergy o.energy)
    else if !o.direction.isUnit then .error (.invalidDirection o.direction)
    else .ok { s with energy := o.energy, dir := o.direction }
  | .absorbed => .ok { s with energy := 0.0 }.kill
  | .failed => .ok { s with retry := true }

/-- Applies the outcome of one slot's interaction. -/
def processInteraction (p : Setup) (s : Slot) (arena : Arena Secondary) :
    Slot × Option TrackError :=
  if !s.isAlive then (s, none)
  else match s.interaction with
  | none => (s, none)
  | some o =>
    if !(o.deposition.isFinite && o.deposition ≥ 0.0) then
      (s, some (.model (modelLabel p s)
        ("invalid energy deposition " ++ Decimal.Layout.message.render o.deposition)))
    else
      let below := (arena.get o.secondaries).filter fun x =>
        x.energy < (p.cutoffs.get x.particle).production
      let deposit := o.deposition + sumFrom (below.map (·.energy))
      match applyOutcome s o with
      | .error e => (s, some e)
      | .ok s =>
        let (s, deposit) :=
          if s.isAlive &&
              (s.energy ≤ 0.0 || s.energy < (p.cutoffs.get s.particle).tracking) then
            ({ s with energy := 0.0 }.kill, deposit + s.energy)
          else (s, deposit)
        ({ s with deposition := s.deposition + deposit }, none)

def processSweep (p : Setup) (st : CoreState) : CoreState × Option SweepError :=
  sweep "process-interactions" p.space p.dispatch
    (fun _ s arena => let (s, e) := processInteraction p s arena; (s, arena, e)) st

end Transport
