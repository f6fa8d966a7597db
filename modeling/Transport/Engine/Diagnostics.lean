import Transport.Engine.Histogram
import Transport.Physics.Setup
/-!
# Diagnostics

Observers of the slots, called at two points of every step: mid-step, after the
interactions are applied (stopped tracks still hold their slots), and end-step, after
cleanup. Slots are visited in order and tables keep their keys in first-seen order.

* `track`: the number of alive tracks at the end of each step;
* `energy`: each occupied slot's positive deposition of the step, at its `x`;
* `steps`: per particle name, how many tracks stopped after each number of steps (the
  last bin takes the rest);
* `process`: per particle name and model label, the interactions that did not fail.

A particle type missing from the table is named by its id. A binning too large for memory
stops the program: the energy map's when it is made, and the step counts' when the first
track stops, as that is when a particle's bins are first laid out. Diagnostics that come
after one that stops the program do not see the step.
-/
namespace Transport

def particleName (p : Setup) (particle : Nat) : String := p.particles.nameOf particle

/-- Adds to the entry of `key`, appending it with `init` when it is new. -/
def bump {α : Type} (table : List (String × α)) (key : String) (init : α) (f : α → α) :
    List (String × α) :=
  if table.any (·.1 == key) then table.map fun (k, v) => if k == key then (k, f v) else (k, v)
  else table ++ [(key, f init)]

/-- Alive tracks at the end of each step. -/
structure TrackCounts where
  alive : List Nat
  deriving Inhabited

structure EnergyMap where
  histogram : Histogram
  deriving Inhabited

/-- Steps taken by the tracks that stopped, per particle name. -/
structure StepCounts where
  bins : Nat
  counts : List (String × Array Nat)
  deriving Inhabited

/-- Interactions per particle name and model label. -/
structure ProcessCounts where
  counts : List (String × List (String × Nat))
  deriving Inhabited

namespace TrackCounts

def label : String := "track"

def endStep (d : TrackCounts) (st : CoreState) : TrackCounts := ⟨d.alive ++ [st.numAlive]⟩

def describe (d : TrackCounts) : String :=
  Describe.record "TrackDiagnostic" [("alive", Describe.list (d.alive.map toString))]

end TrackCounts

namespace EnergyMap

def label : String := "energy-deposition"

def new (s : HistogramSpec) : Option EnergyMap := EnergyMap.mk <$> Histogram.new s

/-- Fills the positive depositions of the occupied slots. -/
def midStep (d : EnergyMap) (st : CoreState) : EnergyMap :=
  ⟨st.slots.foldl (fun h s =>
    if s.track.isSome && s.deposition > 0.0 then h.fill s.pos.x s.deposition else h) d.histogram⟩

def describe (d : EnergyMap) : String :=
  Describe.record "EnergyDiagnostic" [("histogram", d.histogram.describe)]

end EnergyMap

namespace StepCounts

def label : String := "steps-at-death"

def new (bins : Nat) : StepCounts := ⟨max bins 1, []⟩

/-- Counts the tracks stopped this step; `none` when a particle's bins, laid out at its
first stopped track, would not fit in memory. -/
def midStep (d : StepCounts) (p : Setup) (st : CoreState) : Option StepCounts :=
  st.slots.foldlM (fun d s =>
    if s.track.isNone || s.status != .killed then some d
    else
      let name := particleName p s.particle
      if !d.counts.any (·.1 == name) && !Layout.word.fits d.bins then none
      else
        let bin := min s.numSteps (d.bins - 1)
        let counts := bump d.counts name (Array.replicate d.bins 0) fun c => c.modify bin (· + 1)
        some { d with counts }) d

/-- The diagnostic as a structural description. -/
def describe (d : StepCounts) : String :=
  Describe.record "StepDiagnostic"
    [("bins", toString d.bins),
     ("counts", Describe.map (d.counts.map fun (k, v) =>
        (Describe.quoted k, Describe.list (v.toList.map toString))))]

end StepCounts

namespace ProcessCounts

def label : String := "process"

/-- Counts this step's interactions that did not fail, by the model that limited the step. -/
def midStep (d : ProcessCounts) (p : Setup) (st : CoreState) : ProcessCounts :=
  st.slots.foldl (fun d s =>
    match s.interaction, s.limit.action with
    | some o, some (.interact id) =>
      if o.outcome == .failed then d
      else match p.physics.model? id with
        | some m => ⟨bump d.counts (particleName p s.particle) [] fun models =>
            bump models m.label 0 (· + 1)⟩
        | none => d
    | _, _ => d) d

def describe (d : ProcessCounts) : String :=
  Describe.record "ProcessDiagnostic"
    [("counts", Describe.map (d.counts.map fun (k, v) =>
        (Describe.quoted k, Describe.map (v.map fun (l, n) => (Describe.quoted l, toString n)))))]

end ProcessCounts

/-- The four standard diagnostics, run in this order. -/
structure DiagnosticSet where
  tracks : TrackCounts
  energy : EnergyMap
  steps : StepCounts
  processes : ProcessCounts
  deriving Inhabited

namespace DiagnosticSet

def label : String := "standard"

/-- Empty diagnostics with the given binnings, unless the energy map would not fit in
memory. -/
def new (energy : HistogramSpec) (stepBins : Nat) : Option DiagnosticSet :=
  (fun e => ⟨⟨[]⟩, e, StepCounts.new stepBins, ⟨[]⟩⟩) <$> EnergyMap.new energy

/-- The mid-step observation of each diagnostic, and whether all of them saw the step:
when the step counts stop the program, the process counts do not see it. -/
def midStep (d : DiagnosticSet) (p : Setup) (st : CoreState) : DiagnosticSet × Bool :=
  let d := { d with energy := d.energy.midStep st }
  match d.steps.midStep p st with
  | some steps => ({ d with steps, processes := d.processes.midStep p st }, true)
  | none => (d, false)

def endStep (d : DiagnosticSet) (st : CoreState) : DiagnosticSet :=
  { d with tracks := d.tracks.endStep st }

def describe (d : DiagnosticSet) : String :=
  Describe.record "DiagnosticSet"
    [("tracks", d.tracks.describe), ("energy", d.energy.describe),
     ("steps", d.steps.describe), ("processes", d.processes.describe)]

end DiagnosticSet

/-- A diagnostic that watches a run besides the standard set. -/
inductive Observer where
  | track (d : TrackCounts)
  | energy (d : EnergyMap)
  | steps (d : StepCounts)
  | process (d : ProcessCounts)
  | set (d : DiagnosticSet)
  deriving Inhabited

namespace Observer

/-- The observer's label. -/
def label : Observer → String
  | .track _ => TrackCounts.label
  | .energy _ => EnergyMap.label
  | .steps _ => StepCounts.label
  | .process _ => ProcessCounts.label
  | .set _ => DiagnosticSet.label

/-- The mid-step observation, and whether it completed. -/
def midStep (o : Observer) (p : Setup) (st : CoreState) : Observer × Bool :=
  match o with
  | .track d => (.track d, true)
  | .energy d => (.energy (d.midStep st), true)
  | .steps d =>
    match d.midStep p st with
    | some d => (.steps d, true)
    | none => (.steps d, false)
  | .process d => (.process (d.midStep p st), true)
  | .set d => let (d, complete) := d.midStep p st; (.set d, complete)

/-- The end-step observation. -/
def endStep (o : Observer) (st : CoreState) : Observer :=
  match o with
  | .track d => .track (d.endStep st)
  | .set d => .set (d.endStep st)
  | o => o

end Observer

/-- The standard diagnostics and an optional observer watching after them. -/
structure Watchers where
  standard : DiagnosticSet
  extra : Option Observer
  deriving Inhabited

namespace Watchers

/-- The mid-step observation: the standard set first, then the observer, unless the set
stopped the program; and whether both completed. -/
def midStep (w : Watchers) (p : Setup) (st : CoreState) : Watchers × Bool :=
  match w.standard.midStep p st with
  | (standard, false) => (⟨standard, w.extra⟩, false)
  | (standard, true) =>
    match w.extra with
    | none => (⟨standard, none⟩, true)
    | some o => let (o, complete) := o.midStep p st; (⟨standard, some o⟩, complete)

/-- The end-step observation: the standard set first. -/
def endStep (w : Watchers) (st : CoreState) : Watchers :=
  ⟨w.standard.endStep st, w.extra.map (·.endStep st)⟩

end Watchers

end Transport
