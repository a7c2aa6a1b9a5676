import Criteria.Json.Number
import Criteria.Text.Quoted

/-!
# The scalars of a JSON text

Gaps, literals and strings are read from a list of characters, and the rest of the text is
returned with the value. A scalar that stands where something else is expected is read to its end
before it is complained about, so a fault inside it comes first.
-/

namespace Criteria.Json

/-- A reader takes a value off the front of a text, or stops. -/
abbrev Reader (α : Type) := List Char → Except Stop (α × List Char)

/-- Tell whether a character may stand between the parts of a JSON text. -/
def isGap (c : Char) : Bool :=
  c = ' ' || c = '\n' || c = '\t' || c = '\r'

/-- Drop the white space at the front of a text. -/
def skipGap (cs : List Char) : List Char :=
  cs.dropWhile isGap

/-- Read the letters of a literal. A wrong letter belongs to the fault. -/
def readLiteral : List Char → List Char → Except Stop (List Char)
  | [], cs => .ok cs
  | _ :: _, [] => .error (.here .endInValue [])
  | letter :: letters, c :: rest =>
    if c = letter then readLiteral letters rest else .error (.peek .expectedLiteral (c :: rest))

/-- The value of a hexadecimal digit. -/
def hexValue? (c : Char) : Option Nat :=
  if c.isDigit then some (c.toNat - '0'.toNat)
  else if 'a' ≤ c ∧ c ≤ 'f' then some (c.toNat - 'a'.toNat + 10)
  else if 'A' ≤ c ∧ c ≤ 'F' then some (c.toNat - 'A'.toNat + 10)
  else none

/-- The value of four hexadecimal digits. -/
def hexQuad? (a b c d : Char) : Option Nat := do
  return (((← hexValue? a) * 16 + (← hexValue? b)) * 16 + (← hexValue? c)) * 16 + (← hexValue? d)

/-- Stop where four hexadecimal digits should stand. The fault takes four bytes, or ends the
text if there are fewer. -/
def stopInQuad (cs : List Char) : Stop :=
  if (cs.take 4).foldl (fun size c => size + c.utf8Size) 0 < 4 then .here .endInText []
  else ⟨.invalidEscape, cs, 4⟩

/-- The character that a letter behind a backslash stands for. -/
def shortEscape? (c : Char) : Option Char :=
  if c = '"' ∨ c = '\\' ∨ c = '/' then some c
  else if c = 'b' then some '\u0008'
  else if c = 'f' then some '\u000c'
  else if c = 'n' then some '\n'
  else if c = 'r' then some '\r'
  else if c = 't' then some '\t'
  else none

/-- Stop behind a leading surrogate that no second escape follows. -/
def stopAfterSurrogate : List Char → Stop
  | [] => .here .endInText []
  | '\\' :: [] => .here .endInText []
  | '\\' :: c :: rest => .peek .unfinishedSurrogate (c :: rest)
  | cs => .peek .unfinishedSurrogate cs

/-- Read the characters of a string up to its closing quote. -/
def readChars : Reader (List Char)
  | [] => .error (.here .endInText [])
  | '"' :: rest => .ok ([], rest)
  | '\\' :: rest =>
    match rest with
    | [] => .error (.here .endInText [])
    | 'u' :: more =>
      match more with
      | a :: b :: c :: d :: behind =>
        match hexQuad? a b c d with
        | none => .error (stopInQuad more)
        | some unit =>
          if 0xdc00 ≤ unit ∧ unit ≤ 0xdfff then .error (.here .loneSurrogate behind)
          else if 0xd800 ≤ unit ∧ unit ≤ 0xdbff then
            match behind with
            | '\\' :: 'u' :: second =>
              match second with
              | e :: f :: g :: h :: last =>
                match hexQuad? e f g h with
                | none => .error (stopInQuad second)
                | some low =>
                  if 0xdc00 ≤ low ∧ low ≤ 0xdfff then
                    match readChars last with
                    | .error stop => .error stop
                    | .ok (chars, last) =>
                      .ok (Char.ofNat (0x10000 + (unit - 0xd800) * 0x400 + (low - 0xdc00)) :: chars,
                        last)
                  else .error (.here .loneSurrogate last)
              | short => .error (stopInQuad short)
            | other => .error (stopAfterSurrogate other)
          else
            match readChars behind with
            | .error stop => .error stop
            | .ok (chars, last) => .ok (Char.ofNat unit :: chars, last)
      | short => .error (stopInQuad short)
    | letter :: behind =>
      match shortEscape? letter with
      | none => .error (.peek .invalidEscape (letter :: behind))
      | some c =>
        match readChars behind with
        | .error stop => .error stop
        | .ok (chars, last) => .ok (c :: chars, last)
  | c :: rest =>
    if c.toNat < 0x20 then .error (.peek .controlCharacter (c :: rest))
    else
      match readChars rest with
      | .error stop => .error stop
      | .ok (chars, last) => .ok (c :: chars, last)

/-- Read a string behind its opening quote. -/
def readText (cs : List Char) : Except Stop (String × List Char) :=
  match readChars cs with
  | .error stop => .error stop
  | .ok (chars, rest) => .ok (String.ofList chars, rest)

/-- Complain about the value at the front of a text, which is not the expected one. An array or
an object is not read; anything else is, and may be faulty itself. -/
def stopAtValue (expected : String) (cs : List Char) : Stop :=
  let complain (result : Except Stop (Found × List Char)) : Stop :=
    match result with
    | .error stop => stop
    | .ok (found, rest) => .here (.unexpected found expected) rest
  let literal (letters : String) (found : Found) (rest : List Char) : Stop :=
    complain ((readLiteral letters.toList rest).map fun rest => (found, rest))
  match cs with
  | [] => .peek .endInValue []
  | 'n' :: rest => literal "ull" .null rest
  | 't' :: rest => literal "rue" (.flag true) rest
  | 'f' :: rest => literal "alse" (.flag false) rest
  | '-' :: rest => complain (readNumber true rest)
  | '"' :: rest => complain ((readText rest).map fun (s, rest) => (.text (Text.quote s), rest))
  | '[' :: rest => .here (.unexpected .list expected) ('[' :: rest)
  | '\x7b' :: rest => .here (.unexpected .record expected) ('\x7b' :: rest)
  | c :: rest =>
    if c.isDigit then complain (readNumber false (c :: rest))
    else .peek .expectedValue (c :: rest)

end Criteria.Json
