import Transport.Json.Cursor
/-!
# Numbers and strings read from a cursor

`Reading.number` reads a number after its optional minus sign, by the rule of `Json.parse`:
an integer that fits a 64-bit word (unsigned, or signed when negative) stays an integer,
and every other literal becomes a double, scaled from a 64-bit significand by one power of
ten (`fromParts`). Reading stops after looking at the byte that ends the number, so an
error found at the end of a number names the place after that byte; a digit that makes an
exponent overflow is taken before the error.

`Reading.string` reads a string after its opening quote. Escapes must be well formed (the
four digits of a `\u` escape are all taken before they are checked), a `\u` escape of a
leading surrogate must be followed by the escape of a trailing one, and
the bytes must form UTF-8 text, which is checked once the closing quote is taken.
`Reading.skipString` and `Reading.skipNumber` check the form only: any escaped code unit
is accepted, the bytes need not be UTF-8, and a number may be as large as it likes.

Each loop here takes a byte per step, so it ends with the bytes.
-/
namespace Transport.Json

/-- A number as read: an unsigned word, a negative signed word, or a double. -/
inductive Number where
  | unsigned (n : Nat)
  | signed (n : Int)
  | real (x : Float)
  deriving Inhabited

namespace Reading

/-- The double `significand · 10^exponent`, or out of range at the bytes taken. -/
def scaled (positive : Bool) (significand : Nat) (exponent : Int) : Reading Float := do
  match fromParts positive significand exponent with
  | some x => pure x
  | none => failTaken .numberOutOfRange

/-- After an exponent's overflowing digit: a nonzero significand raised to it is out of
range; otherwise the rest of the digits are taken and the value is zero. -/
def exponentOverflowFrom (positive : Bool) : Cursor → Outcome Float
  | c@⟨[], _, _⟩ => .ok (if positive then 0 else -0) c
  | c@⟨b :: r, _, _⟩ =>
    if Byte.isDigit b then exponentOverflowFrom positive (c.pass b r)
    else .ok (if positive then 0 else -0) (c.look b)
termination_by c => c.rest.length

/-- The digits of an exponent after its first; `exp` is the value so far. -/
def exponentDigitsFrom (positive positiveExp : Bool) (significand : Nat) (start : Int) :
    Nat → Cursor → Outcome Float
  | exp, c@⟨[], _, _⟩ =>
    scaled positive significand (clampExponent (if positiveExp then start + exp else start - exp)) c
  | exp, c@⟨b :: r, _, _⟩ =>
    if Byte.isDigit b then
      if overflows exp (Byte.digit b) exponentMax then
        if significand ≠ 0 && positiveExp then fail .numberOutOfRange (c.pass b r)
        else exponentOverflowFrom positive (c.pass b r)
      else exponentDigitsFrom positive positiveExp significand start
        (exp * 10 + Byte.digit b) (c.pass b r)
    else
      scaled positive significand
        (clampExponent (if positiveExp then start + exp else start - exp)) (c.look b)
termination_by _ c => c.rest.length

/-- An exponent, from its mark: an optional sign, then at least one digit. -/
def exponent (positive : Bool) (significand : Nat) (start : Int) : Reading Float := do
  skip
  let positiveExp ← do
    match ← peek with
    | some b =>
      if b == Byte.plus then do skip; pure true
      else if b == Byte.minus then do skip; pure false
      else pure true
    | none => pure true
  match ← next with
  | none => fail .endInValue
  | some b =>
    if Byte.isDigit b then exponentDigitsFrom positive positiveExp significand start (Byte.digit b)
    else fail .invalidNumber

/-- What may follow the digits of a mantissa: an exponent, or the end of the number. -/
def afterMantissa (positive : Bool) (significand : Nat) (exp : Int) : Reading Float := do
  match ← peek with
  | some b =>
    if Byte.isExponentMark b then exponent positive significand exp
    else scaled positive significand exp
  | none => scaled positive significand exp

/-- Digits past the 64-bit significand after a decimal point: taken and dropped. -/
def droppedDigitsFrom : Cursor → Outcome Unit
  | c@⟨[], _, _⟩ => .ok () c
  | c@⟨b :: r, _, _⟩ => if Byte.isDigit b then droppedDigitsFrom (c.pass b r) else .ok () (c.look b)
termination_by c => c.rest.length

/-- Digits past the 64-bit significand after a decimal point: taken and dropped. -/
def droppedDigits : Reading Unit := droppedDigitsFrom

/-- The digits after a decimal point; `taken` of them are in the significand. -/
def fractionDigitsFrom (positive : Bool) (start : Int) :
    Nat → Nat → Cursor → Outcome Float
  | significand, taken, c@⟨[], _, _⟩ =>
    if taken = 0 then fail .endInValue c
    else afterMantissa positive significand (start - taken) c
  | significand, taken, c@⟨b :: r, _, _⟩ =>
    if Byte.isDigit b then
      if overflows significand (Byte.digit b) wordMax then
        (do droppedDigits; afterMantissa positive significand (start - taken)).run (c.look b)
      else fractionDigitsFrom positive start (significand * 10 + Byte.digit b) (taken + 1) (c.pass b r)
    else if taken = 0 then fail .invalidNumber (c.look b)
    else afterMantissa positive significand (start - taken) (c.look b)
termination_by _ _ c => c.rest.length

def fraction (positive : Bool) (significand : Nat) (start : Int) : Reading Float := do
  skip
  fractionDigitsFrom positive start significand 0

/-- Digits of an integer part past the 64-bit significand: each one raises the exponent. -/
def longIntegerFrom (positive : Bool) (significand : Nat) : Nat → Cursor → Outcome Float
  | extra, c@⟨[], _, _⟩ => scaled positive significand extra c
  | extra, c@⟨b :: r, _, _⟩ =>
    if Byte.isDigit b then longIntegerFrom positive significand (extra + 1) (c.pass b r)
    else if b == Byte.point then fraction positive significand extra (c.look b)
    else if Byte.isExponentMark b then exponent positive significand extra (c.look b)
    else scaled positive significand extra (c.look b)
termination_by _ c => c.rest.length

/-- The digits of an integer part from the first that does not fit a 64-bit significand. -/
def longInteger (positive : Bool) (significand : Nat) : Reading Float :=
  longIntegerFrom positive significand 0

/-- An integer literal that fits: unsigned when positive, signed when negative; `-0` and a
negative literal below the signed range are doubles. -/
def integerLiteral (positive : Bool) (significand : Nat) : Number :=
  if positive then .unsigned significand
  else if significand = 0 || significand > Nat.pow 2 63 then .real (-(nearestDouble significand))
  else .signed (-(significand : Int))

/-- What follows the integer part: a fraction, an exponent, or the end of an integer. -/
def afterInteger (positive : Bool) (significand : Nat) : Reading Number := do
  match ← peek with
  | some b =>
    if b == Byte.point then .real <$> fraction positive significand 0
    else if Byte.isExponentMark b then .real <$> exponent positive significand 0
    else pure (integerLiteral positive significand)
  | none => pure (integerLiteral positive significand)

/-- The digits of an integer part after its first. -/
def integerDigitsFrom (positive : Bool) : Nat → Cursor → Outcome Number
  | significand, c@⟨[], _, _⟩ => afterInteger positive significand c
  | significand, c@⟨b :: r, _, _⟩ =>
    if Byte.isDigit b then
      if overflows significand (Byte.digit b) wordMax then
        (Number.real <$> longInteger positive significand).run (c.look b)
      else integerDigitsFrom positive (significand * 10 + Byte.digit b) (c.pass b r)
    else afterInteger positive significand (c.look b)
termination_by _ c => c.rest.length

/-- A number, after its optional minus sign; `positive` tells whether there was none. -/
def number (positive : Bool) : Reading Number := do
  match ← next with
  | none => fail .endInValue
  | some b =>
    if b == Byte.zero then do
      match ← peek with
      | some x => if Byte.isDigit x then fail .invalidNumber else afterInteger positive 0
      | none => afterInteger positive 0
    else if Byte.isDigit b then integerDigitsFrom positive (Byte.digit b)
    else fail .invalidNumber

/-- Takes decimal digits and tells how many there were. -/
def digitsFrom : Nat → Cursor → Outcome Nat
  | n, c@⟨[], _, _⟩ => .ok n c
  | n, c@⟨b :: r, _, _⟩ => if Byte.isDigit b then digitsFrom (n + 1) (c.pass b r) else .ok n (c.look b)
termination_by _ c => c.rest.length

/-- Checks the form of an exponent, from its mark. -/
def skipExponent : Reading Unit := do
  skip
  match ← peek with
  | some b => if b == Byte.plus || b == Byte.minus then skip else pure ()
  | none => pure ()
  if Byte.isDigit ((← next).getD 0) then do let _ ← digitsFrom 0; pure ()
  else fail .invalidNumber

/-- Checks the form of a number after its optional minus sign, without its value. -/
def skipNumber : Reading Unit := do
  let b := (← next).getD 0
  if b == Byte.zero then do
    if Byte.isDigit ((← peek).getD 0) then fail .invalidNumber
  else if Byte.isDigit b then do let _ ← digitsFrom 0; pure ()
  else fail .invalidNumber
  let b := (← peek).getD 0
  if b == Byte.point then do
    skip
    if (← digitsFrom 0) = 0 then fail .invalidNumber
    if Byte.isExponentMark ((← peek).getD 0) then skipExponent
  else if Byte.isExponentMark b then skipExponent

/-- Where the skipping of a string stands: in plain text, after a backslash, or inside the
four digits of a `\u` escape with `left` of them to come (`valid` while those taken are
hexadecimal digits). -/
inductive SkipState where
  | plain
  | escape
  | hex (left : Nat) (valid : Bool)

/-- Whether a byte after a backslash is a one-letter escape. -/
def isShortEscape (b : UInt8) : Bool :=
  b == Byte.quote || b == Byte.backslash || b == 0x2F || b == 0x62 || b == 0x66 ||
    b == 0x6E || b == 0x72 || b == 0x74

/-- Checks the form of a string up to and with its closing quote. -/
def skipStringFrom : SkipState → Cursor → Outcome Unit
  | _, c@⟨[], _, _⟩ => fail .endInString c
  | s, c@⟨b :: r, _, _⟩ =>
    let d := c.pass b r
    match s with
    | .plain =>
      if b == Byte.quote then .ok () d
      else if b == Byte.backslash then skipStringFrom .escape d
      else if b < 0x20 then fail .controlCharacter d
      else skipStringFrom .plain d
    | .escape =>
      if isShortEscape b then skipStringFrom .plain d
      else if b == 0x75 then skipStringFrom (.hex 4 true) d
      else fail .invalidEscape d
    | .hex left valid =>
      let valid := valid && (Byte.hexValue b).isSome
      if 1 < left then skipStringFrom (.hex (left - 1) valid) d
      else if valid then skipStringFrom .plain d
      else fail .invalidEscape d
termination_by _ c => c.rest.length

/-- Checks the form of a string after its opening quote. -/
def skipString : Reading Unit := skipStringFrom .plain

/-- The byte a one-letter escape stands for. -/
def shortEscape (b : UInt8) : UInt8 :=
  if b == 0x62 then 0x08
  else if b == 0x66 then 0x0C
  else if b == 0x6E then 0x0A
  else if b == 0x72 then 0x0D
  else if b == 0x74 then 0x09
  else b

/-- Where the reading of a string stands: in plain text, after a backslash, inside the
four digits of a `\u` escape (`left` to come, `value` so far while they are hexadecimal
digits, and the leading surrogate it completes, if any), or after a leading surrogate,
before its backslash or its `u`. -/
inductive StringState where
  | plain
  | escape
  | hex (left : Nat) (value : Option Nat) (lead : Option Nat)
  | afterLead (lead : Nat)
  | afterLeadSlash (lead : Nat)

/-- The UTF-8 bytes of a code point, last first. -/
def encodedReversed (n : Nat) : List UInt8 :=
  (String.utf8EncodeChar (Char.ofNat n)).reverse

/-- The state after the last digit of a `\u` escape with value `n`. -/
def escapedUnit (n : Nat) (lead : Option Nat) (acc : List UInt8) :
    Except Fault (StringState × List UInt8) :=
  match lead with
  | none =>
    if 0xDC00 ≤ n && n ≤ 0xDFFF then .error .loneSurrogate
    else if 0xD800 ≤ n && n ≤ 0xDBFF then .ok (.afterLead n, acc)
    else .ok (.plain, encodedReversed n ++ acc)
  | some hi =>
    if 0xDC00 ≤ n && n ≤ 0xDFFF then
      .ok (.plain, encodedReversed (0x10000 + (hi - 0xD800) * 0x400 + (n - 0xDC00)) ++ acc)
    else .error .loneSurrogate

/-- Reads a string up to and with its closing quote; `acc` holds its bytes, last first. -/
def stringFrom : StringState → List UInt8 → Cursor → Outcome String
  | _, _, c@⟨[], _, _⟩ => fail .endInString c
  | s, acc, c@⟨b :: r, _, _⟩ =>
    let d := c.pass b r
    match s with
    | .plain =>
      if b == Byte.quote then
        match String.fromUTF8? (ByteArray.mk acc.reverse.toArray) with
        | some text => .ok text d
        | none => fail .invalidCodePoint d
      else if b == Byte.backslash then stringFrom .escape acc d
      else if b < 0x20 then fail .controlCharacter d
      else stringFrom .plain (b :: acc) d
    | .escape =>
      if isShortEscape b then stringFrom .plain (shortEscape b :: acc) d
      else if b == 0x75 then stringFrom (.hex 4 (some 0) none) acc d
      else fail .invalidEscape d
    | .hex left value lead =>
      let value := do pure ((← value) * 16 + (← Byte.hexValue b))
      if 1 < left then stringFrom (.hex (left - 1) value lead) acc d
      else
        match value with
        | none => fail .invalidEscape d
        | some n =>
          match escapedUnit n lead acc with
          | .ok (s', acc') => stringFrom s' acc' d
          | .error f => fail f d
    | .afterLead lead =>
      if b == Byte.backslash then stringFrom (.afterLeadSlash lead) acc d
      else fail .unfinishedSurrogatePair d
    | .afterLeadSlash lead =>
      if b == 0x75 then stringFrom (.hex 4 (some 0) (some lead)) acc d
      else fail .unfinishedSurrogatePair d
termination_by _ _ c => c.rest.length

/-- Reads a string after its opening quote. -/
def string : Reading String := stringFrom .plain []

end Reading

end Transport.Json
