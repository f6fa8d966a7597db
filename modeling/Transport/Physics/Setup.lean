import Transport.Physics.Params
import Transport.Track.Sweep
import Transport.Geometry
import Transport.Particle
/-!
# The fixed parameters of a run

Everything a step reads and never changes: the geometry, the particle table, the physics,
the cutoffs, the run's seed (each track's stream is keyed by it and the track id), where
sweeps run, and how they reach the worker thread.
-/
namespace Transport

/-- The parameters shared by every slot for a whole run. -/
structure Setup where
  geometry : Geometry
  particles : ParticleTable
  physics : PhysicsParams
  cutoffs : CutoffTable
  seed : UInt64
  space : Space
  dispatch : Dispatch
  deriving Inhabited

/-- The parameters as a structural description; the geometry by name. -/
def Setup.describe (p : Setup) : String :=
  Describe.record "CoreParams"
    [("geometry", Describe.quoted p.geometry.name),
     ("particles", p.particles.describe),
     ("physics", p.physics.describe),
     ("rng", Describe.record "RngParams" [("seed", toString p.seed)]),
     ("space", p.space.describe)]

end Transport
