import Criteria.Decimal.Shortest
import Criteria.Json.Fault

/-!
# Numbers in JSON text

No record of this library holds a number, but a number may stand where something else is
expected, and then the complaint shows it. An integer that fits in 64 bits is shown as it is.
Any other number is computed in binary64 from the leading digits that fit in 64 bits and a power
of ten, and shown with the fewest digits that read back.
-/

namespace Criteria.Json

/-- The value of a decimal digit. -/
def digitValue (c : Char) : Nat := c.toNat - '0'.toNat

/-- Split a text behind the digits at its front. -/
def spanDigits (cs : List Char) : List Char × List Char :=
  (cs.takeWhile Char.isDigit, cs.dropWhile Char.isDigit)

/-- Append digits to a significand for as long as it stays below `2 ^ 64`, and return it with
the digits that are left over. -/
def absorb (significand : Nat) : List Char → Nat × List Char
  | [] => (significand, [])
  | d :: digits =>
    let next := significand * 10 + digitValue d
    if next < Nat.pow 2 64 then absorb next digits else (significand, d :: digits)

/-- Show an exponent, always with its sign. -/
def showExponent (exponent : Int) : String :=
  (if 0 ≤ exponent then "e+" else "e-") ++ toString exponent.natAbs

/-- Show a positive decimal number: without an exponent from `1e-5` up to below `1e16`, and then
with at least one digit on either side of the point; with an exponent otherwise. -/
def showDecimal (d : Decimal.Scaled) : String :=
  let digits := Nat.toDigits 10 d.digits
  let point : Int := digits.length + d.exponent
  if 0 ≤ d.exponent ∧ point ≤ 16 then
    String.ofList (digits ++ List.replicate d.exponent.toNat '0') ++ ".0"
  else if 0 < point ∧ point ≤ 16 then
    String.ofList (digits.take point.toNat) ++ "." ++ String.ofList (digits.drop point.toNat)
  else if -5 < point ∧ point ≤ 0 then
    "0." ++ String.ofList (List.replicate (-point).toNat '0' ++ digits)
  else
    String.ofList (digits.take 1) ++
      (if digits.length = 1 then "" else "." ++ String.ofList (digits.drop 1)) ++
      showExponent (point - 1)

/-- Show a finite binary64 number. -/
def showFloat (f : Float) : String :=
  let bits := f.toBits
  let sign := if bits.toNat < Nat.pow 2 63 then "" else "-"
  if bits.toNat % Nat.pow 2 63 = 0 then sign ++ "0.0"
  else sign ++ showDecimal (Decimal.Binary.ofBits bits).shortest

/-- The binary64 number nearest to a power of ten. -/
def powerOfTen (exponent : Nat) : Float := Float.ofScientific 1 false exponent

/-- Scale a binary64 number by a power of ten. Very negative powers are taken in steps of
`1e308`, of which the third leaves zero; a number that becomes infinite has no value. -/
def scaleFloat (exponent : Int) (f : Float) : Nat → Option Float
  | 0 => some f
  | steps + 1 =>
    if exponent.natAbs ≤ 308 then
      if 0 ≤ exponent then
        let scaled := f * powerOfTen exponent.natAbs
        if scaled.isInf then none else some scaled
      else some (f / powerOfTen exponent.natAbs)
    else if f == 0.0 then some f
    else if 0 ≤ exponent then none
    else scaleFloat (exponent + 308) (f / powerOfTen 308) steps

/-- Compute a number from its sign, significand and power of ten. -/
def floatOfParts (negative : Bool) (significand : Nat) (exponent : Int) (rest : List Char) :
    Except Stop (Found × List Char) :=
  match scaleFloat exponent significand.toUInt64.toFloat 4 with
  | none => .error (.here .numberOutOfRange rest)
  | some f => .ok (.decimal (showFloat (if negative then -f else f)), rest)

/-- Append the digits of an exponent for as long as it stays below `2 ^ 31`. The second part is
the text behind the first digit that does not fit, if there is one. -/
def absorbExponent (exponent : Nat) : List Char → Nat × Option (List Char)
  | [] => (exponent, none)
  | c :: rest =>
    if c.isDigit then
      let next := exponent * 10 + digitValue c
      if next < Nat.pow 2 31 then absorbExponent next rest else (exponent, some rest)
    else (exponent, none)

/-- Read an exponent, the text being behind the letter. An exponent that does not fit makes the
number zero, if it is negative or the significand is zero. -/
def readExponent (negative : Bool) (significand : Nat) (start : Int) (cs : List Char) :
    Except Stop (Found × List Char) :=
  let (below, cs) : Bool × List Char :=
    match cs with
    | '+' :: rest => (false, rest)
    | '-' :: rest => (true, rest)
    | _ => (false, cs)
  match cs with
  | [] => .error (.here .endInValue [])
  | c :: rest =>
    if c.isDigit then
      match absorbExponent (digitValue c) rest with
      | (exponent, none) =>
        let exponent : Int := if below then start - exponent else start + exponent
        floatOfParts negative significand exponent (rest.dropWhile Char.isDigit)
      | (_, some more) =>
        if significand ≠ 0 ∧ !below then .error (.here .numberOutOfRange more)
        else .ok (.decimal (if negative then "-0.0" else "0.0"), more.dropWhile Char.isDigit)
    else .error (.peek .invalidNumber (c :: rest))

/-- Read what may follow the last digit of a significand that is not an integer. -/
def readPower (negative : Bool) (significand : Nat) (exponent : Int) (cs : List Char) :
    Except Stop (Found × List Char) :=
  match cs with
  | 'e' :: rest => readExponent negative significand exponent rest
  | 'E' :: rest => readExponent negative significand exponent rest
  | _ => floatOfParts negative significand exponent cs

/-- Read a fraction, the text being behind the point. -/
def readFraction (negative : Bool) (significand : Nat) (exponent : Int) (cs : List Char) :
    Except Stop (Found × List Char) :=
  let (digits, rest) := spanDigits cs
  if digits.isEmpty then
    .error (.peek (if rest.isEmpty then .endInValue else .invalidNumber) rest)
  else
    let (significand, left) := absorb significand digits
    readPower negative significand (exponent - (digits.length - left.length : Nat)) rest

/-- Read what follows the digits of an integer. -/
def readTail (negative : Bool) (significand : Nat) (left : Nat) (cs : List Char) :
    Except Stop (Found × List Char) :=
  match cs with
  | '.' :: rest => readFraction negative significand left rest
  | 'e' :: rest => readExponent negative significand left rest
  | 'E' :: rest => readExponent negative significand left rest
  | _ =>
    if left ≠ 0 then floatOfParts negative significand left cs
    else if !negative then .ok (.integer significand, cs)
    else if significand ≠ 0 ∧ significand ≤ Nat.pow 2 63 then .ok (.integer (-significand), cs)
    else floatOfParts true significand 0 cs

/-- Read a number, the text being behind its minus sign if it has one. -/
def readNumber (negative : Bool) (cs : List Char) : Except Stop (Found × List Char) :=
  match cs with
  | [] => .error (.here .endInValue [])
  | c :: rest =>
    if c = '0' then
      match rest with
      | d :: more =>
        if d.isDigit then .error (.peek .invalidNumber (d :: more))
        else readTail negative 0 0 rest
      | [] => readTail negative 0 0 rest
    else if c.isDigit then
      let (digits, rest) := spanDigits cs
      let (significand, left) := absorb 0 digits
      readTail negative significand left.length rest
    else .error (.peek .invalidNumber cs)

example : showDecimal ⟨15, 299⟩ = "1.5e+300" ∧ showDecimal ⟨1234, -9⟩ = "1.234e-6" ∧
    showDecimal ⟨1, 15⟩ = "1000000000000000.0" ∧ showDecimal ⟨1, -5⟩ = "0.00001" := by
  decide +kernel

end Criteria.Json
