import Transport.Physics.Setup
/-!
# Running the discrete models

`launchModels` sweeps the models in registration order, one sweep per model labelled
with the model's label. A sweep touches only the alive tracks whose step ended in that
model; a track the model's registered range no longer covers (its energy changed since
it was selected) fails with `NoApplicableModel`, and otherwise the model's outcome is
stored in the slot. The first failing sweep ends the launch.
-/
namespace Transport

/-- Model `id`'s kernel. -/
def modelKernel (p : Setup) (id : Nat) (m : Model) : Kernel :=
  fun _ s arena =>
    if !s.isAlive || s.limit.action != some (.interact id) then (s, arena, none)
    else if !p.physics.applies id s.particle s.energy then
      (s, arena, some (.noApplicableModel s.particle s.energy))
    else
      let (s, arena, result) := m.interact s arena
      match result with
      | .ok o => ({ s with interaction := some o }, arena, none)
      | .error e => (s, arena, some e)

/-- Sweeps the models from id `id` on. -/
def launchFrom (p : Setup) : Nat → List Model → CoreState → CoreState × Option SweepError
  | _, [], st => (st, none)
  | id, m :: ms, st =>
    match sweep m.label p.space p.dispatch (modelKernel p id m) st with
    | (st, some e) => (st, some e)
    | (st, none) => launchFrom p (id + 1) ms st

/-- Sweeps the models from id `id` on, on the host, model `id`'s sweep bringing the slots
to its kernel in `orders id`. -/
def launchInOrder (p : Setup) (orders : Nat → List Nat) :
    Nat → List Model → CoreState → CoreState × Option SweepError
  | _, [], st => (st, none)
  | id, m :: ms, st =>
    match sweepInOrder m.label (modelKernel p id m) (orders id) st with
    | (st, some e) => (st, some e)
    | (st, none) => launchInOrder p orders (id + 1) ms st

/-- Runs every model on the tracks that selected it. -/
def launchModels (p : Setup) (st : CoreState) : CoreState × Option SweepError :=
  launchFrom p 0 p.physics.models.toList st

end Transport
