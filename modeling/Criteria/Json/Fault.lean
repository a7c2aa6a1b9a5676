/-!
# What can be wrong with a JSON text

A reader that cannot go on stops with a reason, the text that it has not read, and the number of
bytes at the front of that text that it has looked at. From the whole text and the stop follows the
place of the fault: its line, and its column as a count of bytes.
-/

namespace Criteria.Json

/-- A value that stands where another kind of value is expected. -/
inductive Found where
  | null
  | flag (value : Bool)
  | integer (value : Int)
  /-- A number with a fraction or an exponent, or one out of the range of integers, as text. -/
  | decimal (digits : String)
  /-- A string, as it is shown in quotes. -/
  | text (quoted : String)
  | list
  | record
  deriving DecidableEq, Repr

/-- Name a value that is not the expected one. -/
def Found.describe : Found → String
  | .null => "null"
  | .flag value => s!"boolean `{value}`"
  | .integer value => s!"integer `{value}`"
  | .decimal digits => s!"floating point `{digits}`"
  | .text quoted => s!"string {quoted}"
  | .list => "sequence"
  | .record => "map"

/-- Why a text cannot be read. -/
inductive Reason where
  | endInValue
  | endInRecord
  | endInList
  | endInText
  | keyNotText
  | expectedValue
  | expectedLiteral
  | expectedColon
  | expectedListEnd
  | expectedRecordEnd
  | trailingCharacters
  | trailingComma
  | invalidNumber
  | numberOutOfRange
  | invalidEscape
  | unfinishedSurrogate
  | loneSurrogate
  | controlCharacter
  | missingMember (name : String)
  | repeatedMember (name : String)
  | unknownVariant (name : String) (variants : List String)
  | unexpected (found : Found) (expected : String)
  | wrongLength (length : Nat) (record : String) (members : Nat)
  deriving DecidableEq, Repr

/-- The words for a reason. -/
def Reason.describe : Reason → String
  | .endInValue => "EOF while parsing a value"
  | .endInRecord => "EOF while parsing an object"
  | .endInList => "EOF while parsing a list"
  | .endInText => "EOF while parsing a string"
  | .keyNotText => "key must be a string"
  | .expectedValue => "expected value"
  | .expectedLiteral => "expected ident"
  | .expectedColon => "expected `:`"
  | .expectedListEnd => "expected `,` or `]`"
  | .expectedRecordEnd => "expected `,` or `\x7d`"
  | .trailingCharacters => "trailing characters"
  | .trailingComma => "trailing comma"
  | .invalidNumber => "invalid number"
  | .numberOutOfRange => "number out of range"
  | .invalidEscape => "invalid escape"
  | .unfinishedSurrogate => "unexpected end of hex escape"
  | .loneSurrogate => "lone leading surrogate in hex escape"
  | .controlCharacter => "control character (\\u0000-\\u001F) found while parsing a string"
  | .missingMember name => s!"missing field `{name}`"
  | .repeatedMember name => s!"duplicate field `{name}`"
  | .unknownVariant name variants =>
    s!"unknown variant `{name}`, expected " ++
      " or ".intercalate (variants.map fun v => s!"`{v}`")
  | .unexpected found expected => s!"invalid type: {found.describe}, expected {expected}"
  | .wrongLength length record members =>
    s!"invalid length {length}, expected struct {record} with {members} element" ++
      if members = 1 then "" else "s"

/-- Where and why a reader stops. -/
structure Stop where
  /-- Why the reader cannot go on. -/
  reason : Reason
  /-- The text that has not been read. -/
  rest : List Char
  /-- How many bytes at the front of that text belong to the fault. -/
  ahead : Nat
  deriving DecidableEq, Repr

/-- Stop in front of the unread text. -/
def Stop.here (reason : Reason) (rest : List Char) : Stop := ⟨reason, rest, 0⟩

/-- Stop because of the next byte of the unread text. -/
def Stop.peek (reason : Reason) (rest : List Char) : Stop := ⟨reason, rest, 1⟩

/-- A place in a text. -/
structure Place where
  /-- The number of line feeds before the place, and one. -/
  line : Nat
  /-- The number of bytes between the last line feed and the place. -/
  column : Nat
  deriving DecidableEq, Repr

/-- The place at the beginning of a text. -/
def Place.start : Place := ⟨1, 0⟩

/-- The place behind one more character. -/
def Place.step (place : Place) (c : Char) : Place :=
  if c = '\n' then ⟨place.line + 1, 0⟩ else ⟨place.line, place.column + c.utf8Size⟩

/-- The place behind so many bytes of a text, or at its end. A character may be cut. -/
def Place.skip (place : Place) : Nat → List Char → Place
  | _, [] => place
  | bytes, c :: rest =>
    if bytes < c.utf8Size then ⟨place.line, place.column + bytes⟩
    else (place.step c).skip (bytes - c.utf8Size) rest

/-- Why and where a text cannot be read. -/
structure Fault where
  /-- Why. -/
  reason : Reason
  /-- Where. -/
  place : Place
  deriving DecidableEq, Repr

/-- Find the place of a stop in the whole text. -/
def Stop.locate (stop : Stop) (text : List Char) : Fault :=
  let read := text.take (text.length - stop.rest.length)
  ⟨stop.reason, (read.foldl Place.step .start).skip stop.ahead stop.rest⟩

/-- The message of a fault. -/
def Fault.message (fault : Fault) : String :=
  s!"{fault.reason.describe} at line {fault.place.line} column {fault.place.column}"

example : (Stop.peek .expectedValue ['\u00e9']).locate ['\n', 'a', '\u00e9'] =
    ⟨.expectedValue, ⟨2, 2⟩⟩ := by decide +kernel

end Criteria.Json
