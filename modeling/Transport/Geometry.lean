import Transport.Kinematics
/-!
# Geometry

A geometry answers two questions about a position: which volume holds it (`locate`), and,
moving along a direction inside a volume, how far the next boundary is, which volume lies
beyond it and which surface it is (`findBoundary`). Three geometries are provided:

* the infinite medium: one volume holding every finite position, and no boundary;
* slabs: planes `x = p₀ < p₁ < … < pₙ`; volume `i` is `pᵢ ≤ x < pᵢ₊₁` for finite
  positions; the boundary ahead is plane `i + 1` when moving toward `+x` and plane `i`
  toward `-x`, at distance `(p - x) / dₓ` clamped at zero, and the volume beyond it is the
  neighbour, or none past the outermost planes;
* the test box: one volume, bounded by `|x| < h` when a half width `h` is given (a NaN
  `x` lies inside), whose boundary distance `(±h - x) / dₓ` is not clamped and leads
  nowhere.
-/
namespace Transport

/-- The next boundary along a direction: its distance, the volume beyond it and the
surface it lies on. -/
structure BoundaryHit where
  distance : Float
  nextVolume : Option Nat
  surface : Option Nat
  deriving Inhabited

def BoundaryHit.none : BoundaryHit := ⟨infinity, Option.none, Option.none⟩

/-- Why a list of planes is no slab geometry. -/
inductive SlabError where
  | tooFew (count : Nat)
  | notFinite
  | notIncreasing
  deriving DecidableEq, Repr

def SlabError.message : SlabError → String
  | .tooFew n => s!"need at least 2 planes, got {n}"
  | .notFinite => "plane positions must be finite"
  | .notIncreasing => "plane positions must be strictly increasing"

/-- Whether a list of doubles strictly increases. -/
def strictlyIncreasing : List Float → Bool
  | a :: b :: rest => a < b && strictlyIncreasing (b :: rest)
  | _ => true

/-- A geometry. -/
inductive Geometry where
  /-- One volume holding every finite position. -/
  | infinite
  /-- Slabs between increasing planes. -/
  | slabs (planes : Array Float)
  /-- The test box, bounded by `|x| < h` when a half width is given. -/
  | box (halfWidth : Option Float)
  deriving Inhabited

namespace Geometry

/-- Slabs between the given planes: at least two, all finite, strictly increasing. -/
def slabsOf (planes : List Float) : Except SlabError Geometry :=
  if planes.length < 2 then .error (.tooFew planes.length)
  else if planes.any (fun p => !p.isFinite) then .error .notFinite
  else if !strictlyIncreasing planes then .error .notIncreasing
  else .ok (.slabs planes.toArray)

def name : Geometry → String
  | .infinite => "infinite-medium"
  | .slabs _ => "slabs"
  | .box _ => "mock"

def numVolumes : Geometry → Nat
  | .infinite => 1
  | .slabs planes => planes.size - 1
  | .box _ => 1

def planesAtOrBelow (planes : Array Float) (x : Float) : Nat :=
  (planes.toList.takeWhile (· ≤ x)).length

/-- The volume holding a position. -/
def locate (g : Geometry) (pos : Vec3) : Option Nat :=
  match g with
  | .infinite => if pos.isFinite then some 0 else Option.none
  | .slabs planes =>
    if !pos.isFinite then Option.none
    else
      let upper := planesAtOrBelow planes pos.x
      if upper = 0 || upper = planes.size then Option.none else some (upper - 1)
  | .box (some h) => if pos.x.abs ≥ h then Option.none else some 0
  | .box Option.none => some 0

/-- The next boundary from `pos` along `dir` inside volume `volume`. -/
def findBoundary (g : Geometry) (pos dir : Vec3) (volume : Nat) : BoundaryHit :=
  match g with
  | .infinite => BoundaryHit.none
  | .slabs planes =>
    if volume + 1 ≥ planes.size || dir.x == 0.0 then BoundaryHit.none
    else
      let last := planes.size - 2
      let (plane, next) :=
        if dir.x > 0.0 then (volume + 1, if volume < last then some (volume + 1) else Option.none)
        else (volume, if volume > 0 then some (volume - 1) else Option.none)
      { distance := maxNum ((planes.getD plane 0 - pos.x) / dir.x) 0.0,
        nextVolume := next, surface := some plane }
  | .box Option.none => BoundaryHit.none
  | .box (some h) =>
    if dir.x > 0.0 then ⟨(h - pos.x) / dir.x, Option.none, Option.none⟩
    else if dir.x < 0.0 then ⟨(-h - pos.x) / dir.x, Option.none, Option.none⟩
    else BoundaryHit.none

end Geometry

end Transport
