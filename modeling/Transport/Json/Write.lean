import Transport.Json.Value
import Transport.Decimal.Layout
/-!
# Writing JSON text

`Json.render` writes a value on one line, `Json.renderPretty` over several lines with an
indent of two blanks. A double is written with its shortest digits (`Layout.json`), and a
double with no JSON number, NaN or an infinity, is written `null`. In strings the quote,
the backslash and the control characters are escaped; every other character stands as
itself.
-/
namespace Transport.Json

/-- The escaped form of one character inside a string. -/
def escapeChar (c : Char) : String :=
  match c with
  | '"' => "\\\""
  | '\\' => "\\\\"
  | '\n' => "\\n"
  | '\r' => "\\r"
  | '\t' => "\\t"
  | _ =>
    if c.toNat = 8 then "\\b"
    else if c.toNat = 12 then "\\f"
    else if c.toNat < 0x20 then
      let h := Nat.toDigits 16 c.toNat
      "\\u" ++ String.ofList (List.replicate (4 - h.length) '0' ++ h)
    else c.toString

def quote (s : String) : String :=
  "\"" ++ String.join (s.toList.map escapeChar) ++ "\""

/-- A double as a JSON number, or `null` when it has none. -/
def numberText (x : Float) : String :=
  if x.isNaN || x.isInf then "null" else Decimal.Layout.json.render x

mutual

/-- The value on one line. -/
def render : Json → String
  | .null => "null"
  | .bool b => if b then "true" else "false"
  | .int i => toString i
  | .num x => numberText x
  | .str s => quote s
  | .arr xs => "[" ++ renderItems xs ++ "]"
  | .obj fs => "\x7b" ++ renderMembers fs ++ "\x7d"

/-- Array items on one line, separated by commas. -/
def renderItems : List Json → String
  | [] => ""
  | [x] => render x
  | x :: xs => render x ++ "," ++ renderItems xs

/-- Object members on one line, separated by commas. -/
def renderMembers : List (String × Json) → String
  | [] => ""
  | [(k, v)] => quote k ++ ":" ++ render v
  | (k, v) :: fs => quote k ++ ":" ++ render v ++ "," ++ renderMembers fs

end

mutual

/-- The value over several lines; nested items are indented two blanks past `indent`. -/
def renderPretty (indent : String) : Json → String
  | .arr [] => "[]"
  | .obj [] => "\x7b\x7d"
  | .arr xs => "[\n" ++ prettyItems (indent ++ "  ") xs ++ "\n" ++ indent ++ "]"
  | .obj fs => "\x7b\n" ++ prettyMembers (indent ++ "  ") fs ++ "\n" ++ indent ++ "\x7d"
  | other => render other

/-- Array items, one a line, each after `indent`. -/
def prettyItems (indent : String) : List Json → String
  | [] => ""
  | [x] => indent ++ renderPretty indent x
  | x :: xs => indent ++ renderPretty indent x ++ ",\n" ++ prettyItems indent xs

/-- Object members, one a line, each after `indent`. -/
def prettyMembers (indent : String) : List (String × Json) → String
  | [] => ""
  | [(k, v)] => indent ++ quote k ++ ": " ++ renderPretty indent v
  | (k, v) :: fs => indent ++ quote k ++ ": " ++ renderPretty indent v ++ ",\n" ++ prettyMembers indent fs

end

end Transport.Json
