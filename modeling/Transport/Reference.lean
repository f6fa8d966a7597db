import Transport.Engine.Run
/-!
# The reference problem

Photons showering in a stack of fourteen 100 cm slabs between `x = -700` and `x = 700`:
pair conversion above threshold, isotropic scattering above 0.1 MeV and photoelectric
absorption below it, absorption of electrons and positrons, a stopping power of 2 MeV/cm
for both, a maximum step of 10 cm and cutoffs of 0.01 MeV for the charged particles.
The primaries start at `x = -650` heading along `+x`, one event each.
-/
namespace Transport.Reference

/-- The slab planes, every 100 cm from -700 to 700. -/
def planes : List Float := (List.range 15).map fun (i : Nat) => Float.ofInt ((i : Int) - 7) * 100.0

def particles : ParticleTable := ParticleTable.standard

def gamma : Nat := 0

def electron : Nat := 1

def positron : Nat := 2

/-- The settings of the reference problem for a seed. -/
def input (seed : Nat) : RunInput :=
  { RunInput.standard with trackSlots := 1024, initializerCapacity := 65536,
                           secondaryCapacity := 4096, maxSteps := 10000, seed }

/-- The settings of the larger stress problem for a seed. -/
def stressInput (seed : Nat) : RunInput :=
  { input seed with trackSlots := 16 * 1024, initializerCapacity := 1048576,
                    secondaryCapacity := 64 * 1024 }

/-- The physics: the four models, stopping powers and the maximum step. -/
def physics : PhysicsParams :=
  let p := PhysicsParams.ofModels
    [.pair gamma electron positron 0.02,
     .isotropic "isotropic-scatter" ⟨[gamma], 0.1, infinity⟩ 0.07,
     .absorption "photoelectric" ⟨[gamma], 0.0, 0.1⟩ 1.0,
     .absorption "absorption" ⟨[electron, positron], 0.0, infinity⟩ 0.05]
  ((p.setEnergyLoss electron 2.0).setEnergyLoss positron 2.0).setMaxStep 10.0

def cutoffs : CutoffTable :=
  (CutoffTable.empty.set electron ⟨0.01, 0.01⟩).set positron ⟨0.01, 0.01⟩

/-- The reference configuration with the given settings. -/
def profile (settings : RunInput) : RunConfig :=
  { input := settings, geometry := .slabs planes.toArray, particles, physics, cutoffs,
    actions := standardActions }

/-- `n` photons of `energy` at `x = -650` along `+x`, the `i`-th in event `i`. -/
def primaries (n : Nat) (energy : Float) : List Primary :=
  (List.range n).map fun i => ⟨gamma, energy, ⟨-650.0, 0.0, 0.0⟩, ⟨1.0, 0.0, 0.0⟩, 0.0, i⟩

end Transport.Reference
