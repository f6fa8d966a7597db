/-!
# JSON values

A JSON document as a tree. Numbers keep the distinction that readers of typed records
need: a number written as an integer that fits a 64-bit word is `int`, any other number
is `num`, a double. Objects keep their members in document order, duplicates included,
so that a reader can refuse a repeated field.
-/
namespace Transport

/-- A JSON value. -/
inductive Json where
  | null
  | bool (b : Bool)
  | int (i : Int)
  | num (x : Float)
  | str (s : String)
  | arr (items : List Json)
  | obj (fields : List (String × Json))
  deriving Inhabited

namespace Json

/-- The value of the first member named `key`, if the value is an object that has one. -/
def field? (j : Json) (key : String) : Option Json :=
  match j with
  | .obj fields => (fields.find? (·.1 == key)).map (·.2)
  | _ => none

/-- The value of the member `key`, or `null` when it is absent. -/
def get (j : Json) (key : String) : Json :=
  (j.field? key).getD .null

/-- The items of an array; any other value has none. -/
def items (j : Json) : List Json :=
  match j with
  | .arr xs => xs
  | _ => []

def isNull : Json → Bool
  | .null => true
  | _ => false

def str? : Json → Option String
  | .str s => some s
  | _ => none

def bool? : Json → Option Bool
  | .bool b => some b
  | _ => none

/-- Replaces the value of every member named `key` by `f` of it. -/
def modifyField (j : Json) (key : String) (f : Json → Json) : Json :=
  match j with
  | .obj fields => .obj (fields.map fun (k, v) => if k == key then (k, f v) else (k, v))
  | other => other

/-- The members with each key once, holding the value it was given last, at the place it
was first given. -/
def lastWins (fields : List (String × Json)) : List (String × Json) :=
  fields.foldl (fun acc (k, v) =>
    if acc.any (·.1 == k) then acc.map fun (k', v') => if k' == k then (k', v) else (k', v')
    else acc ++ [(k, v)]) []

mutual

/-- The value read as a map: in every object, each key once, with its last value. -/
def collapse : Json → Json
  | .arr xs => .arr (collapseItems xs)
  | .obj fs => .obj (lastWins (collapseMembers fs))
  | j => j

def collapseItems : List Json → List Json
  | [] => []
  | x :: xs => collapse x :: collapseItems xs

def collapseMembers : List (String × Json) → List (String × Json)
  | [] => []
  | (k, v) :: fs => (k, collapse v) :: collapseMembers fs

end

end Json

end Transport
