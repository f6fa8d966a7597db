import Transport.Numeric
import Transport.Decimal.Layout
/-!
# Vectors and speeds

Positions (cm) and directions are Cartesian 3-vectors of doubles. A direction counts as
a unit vector when its components are finite and its norm is within `1e-6` of one.
`speed` is the speed (cm/s) of a particle of kinetic energy `energy` and rest mass `mass`
(MeV): light speed for a massless particle, `c · √(1 - 1/γ²)` with `γ = 1 + E/m`
otherwise, a negative radicand counting as zero.
-/
namespace Transport

/-- A Cartesian 3-vector. -/
structure Vec3 where
  x : Float
  y : Float
  z : Float
  deriving Inhabited

namespace Vec3

def zero : Vec3 := ⟨0, 0, 0⟩

def toList (v : Vec3) : List Float := [v.x, v.y, v.z]

def ofList : List Float → Vec3
  | [a, b, c] => ⟨a, b, c⟩
  | _ => zero

/-- The dot product, summed left to right. -/
def dot (a b : Vec3) : Float :=
  a.x * b.x + a.y * b.y + a.z * b.z

def norm (a : Vec3) : Float :=
  (dot a a).sqrt

/-- `pos + dist · dir`, component by component. -/
def axpy (dist : Float) (dir pos : Vec3) : Vec3 :=
  ⟨pos.x + dist * dir.x, pos.y + dist * dir.y, pos.z + dist * dir.z⟩

def isFinite (v : Vec3) : Bool :=
  v.x.isFinite && v.y.isFinite && v.z.isFinite

/-- The tolerance on `|dir| - 1` of a unit vector. -/
def unitTolerance : Float := 1e-6

/-- Whether every component is finite and the norm is within `1e-6` of one. -/
def isUnit (v : Vec3) : Bool :=
  v.isFinite && (v.norm - 1.0).abs ≤ unitTolerance

/-- The vector written as a list of its components, each in the field layout. -/
def describe (v : Vec3) : String :=
  "[" ++ ", ".intercalate (v.toList.map Decimal.Layout.field.render) ++ "]"

end Vec3

def speedOfLight : Float := 2.99792458e10

/-- The speed (cm/s) of a particle of kinetic energy `energy` and rest mass `mass`. -/
def speed (energy mass : Float) : Float :=
  if mass ≤ 0.0 then speedOfLight
  else
    let gamma := 1.0 + energy / mass
    speedOfLight * (maxNum (1.0 - 1.0 / (gamma * gamma)) 0.0).sqrt

end Transport
