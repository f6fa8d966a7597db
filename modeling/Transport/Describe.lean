import Transport.Decimal.Layout
import Transport.Text.Extend
import Transport.Text.Printable
/-!
# Structural descriptions

Every value of the engine can be written as a structural description: a record as its
name and its fields in braces (`Cutoff { tracking: 0.5, production: 0.0 }`), a list in
brackets, a map as `key: value` pairs in braces, an optional value as `None` or
`Some(x)`, a string in double quotes with its quote, backslash, extending and
unprintable characters escaped, and a double in the field layout. These helpers build such texts.
-/
namespace Transport.Describe

/-- Whether a character is written as an escape inside a quoted string: it extends the
character before it, or it is not printable. -/
def isHidden (c : Char) : Bool :=
  Text.isExtend c || !Text.isPrintable c

/-- The escaped form of one character inside a quoted string. -/
def escape (c : Char) : String :=
  match c with
  | '"' => "\\\""
  | '\\' => "\\\\"
  | '\n' => "\\n"
  | '\r' => "\\r"
  | '\t' => "\\t"
  | _ =>
    if c.toNat = 0 then "\\0"
    else if isHidden c then
      "\\u\x7b" ++ String.ofList (Nat.toDigits 16 c.toNat) ++ "\x7d"
    else c.toString

def quoted (s : String) : String :=
  "\"" ++ String.join (s.toList.map escape) ++ "\""

def real (x : Float) : String :=
  Decimal.Layout.field.render x

def optional {α : Type} (f : α → String) : Option α → String
  | none => "None"
  | some a => "Some(" ++ f a ++ ")"

def list (items : List String) : String :=
  "[" ++ ", ".intercalate items ++ "]"

/-- A record: its name, then its fields in braces. -/
def record (name : String) (fields : List (String × String)) : String :=
  name ++ " \x7b " ++ ", ".intercalate (fields.map fun (k, v) => k ++ ": " ++ v) ++ " \x7d"

/-- A map: `key: value` pairs in braces, `{}` when empty. -/
def map (entries : List (String × String)) : String :=
  "\x7b" ++ ", ".intercalate (entries.map fun (k, v) => k ++ ": " ++ v) ++ "\x7d"

def tagged (name : String) (inner : String) : String :=
  name ++ "(" ++ inner ++ ")"

end Transport.Describe
