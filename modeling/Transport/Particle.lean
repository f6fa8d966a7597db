import Transport.Describe
/-!
# Particles and cutoffs

The particle table registers particle types in order; a type's id is its position. A
lookup by name finds the first registration of that name, and the mass of an id that was
never registered is zero.

The cutoff table holds, per particle type, the tracking cutoff (tracks below it stop and
deposit what is left) and the production cutoff (secondaries below it are deposited
instead of tracked). It is a finite map with a zero default: `get` returns the cutoff of
the last `set` for that type, or zero thresholds.
-/
namespace Transport

/-- One particle type: its name, rest mass (MeV) and charge (elementary charges). -/
structure ParticleDef where
  name : String
  mass : Float
  charge : Float
  deriving Inhabited

/-- The registered particle types; a type's id is its index. -/
structure ParticleTable where
  defs : Array ParticleDef
  deriving Inhabited

namespace ParticleTable

def empty : ParticleTable := ⟨#[]⟩

/-- Registers a particle type; it gets the next id. -/
def insert (t : ParticleTable) (d : ParticleDef) : ParticleTable := ⟨t.defs.push d⟩

def size (t : ParticleTable) : Nat := t.defs.size

def get? (t : ParticleTable) (id : Nat) : Option ParticleDef := t.defs[id]?

/-- The id of the first type registered under `name`. -/
def find? (t : ParticleTable) (name : String) : Option Nat :=
  t.defs.findIdx? (·.name == name)

/-- The rest mass of an id, zero for an unknown id. -/
def mass (t : ParticleTable) (id : Nat) : Float :=
  match t.get? id with
  | some d => d.mass
  | none => 0.0

def nameOf (t : ParticleTable) (id : Nat) : String :=
  match t.get? id with
  | some d => d.name
  | none => toString id

/-- The gamma, electron and positron of the test table. -/
def standard : ParticleTable :=
  ⟨#[⟨"gamma", 0.0, 0.0⟩, ⟨"electron", 0.51099895, -1.0⟩, ⟨"positron", 0.51099895, 1.0⟩]⟩

/-- The table as a structural description. -/
def describe (t : ParticleTable) : String :=
  Describe.record "ParticleParams" [("defs", Describe.list (t.defs.toList.map fun d =>
    Describe.record "ParticleDef"
      [("name", Describe.quoted d.name), ("mass", Describe.real d.mass),
       ("charge", Describe.real d.charge)]))]

end ParticleTable

/-- The energy thresholds of one particle type (MeV). -/
structure Cutoff where
  tracking : Float
  production : Float
  deriving Inhabited

def Cutoff.zero : Cutoff := ⟨0.0, 0.0⟩

def Cutoff.describe (c : Cutoff) : String :=
  Describe.record "Cutoff" [("tracking", Describe.real c.tracking),
    ("production", Describe.real c.production)]

/-- Cutoffs by particle id; an id past the end or with no entry has zero thresholds. -/
structure CutoffTable where
  entries : Array (Option Cutoff)
  deriving Inhabited

namespace CutoffTable

def empty : CutoffTable := ⟨#[]⟩

/-- Sets the cutoff of `particle`, growing the table with empty entries as needed. -/
def set (t : CutoffTable) (particle : Nat) (c : Cutoff) : CutoffTable :=
  let grown :=
    if t.entries.size ≤ particle then
      t.entries ++ Array.replicate (particle + 1 - t.entries.size) none
    else t.entries
  ⟨grown.set! particle (some c)⟩

def get (t : CutoffTable) (particle : Nat) : Cutoff :=
  (t.entries[particle]?).join.getD Cutoff.zero

def describe (t : CutoffTable) : String :=
  Describe.record "CutoffParams"
    [("cutoffs", Describe.list (t.entries.toList.map (Describe.optional Cutoff.describe)))]

end CutoffTable

end Transport
