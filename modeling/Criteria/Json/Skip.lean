import Criteria.Json.Scanner

/-!
# Skipping a value

A member that a record does not know is skipped. Its value must be well-formed, to any depth, but
nothing is built from it. The open brackets around the present place are kept in a list, so the
skipping is a loop: it expects a value, or the end of the innermost bracket, or more of it.
-/

namespace Criteria.Json

/-- An open bracket. -/
inductive Bracket where
  /-- The bracket of an array. -/
  | square
  /-- The bracket of an object. -/
  | curly
  deriving DecidableEq, Repr

/-- The text ended inside the bracket. -/
def Bracket.endReason : Bracket → Reason
  | .square => .endInList
  | .curly => .endInRecord

/-- Neither a comma nor the closing bracket follows an item. -/
def Bracket.commaReason : Bracket → Reason
  | .square => .expectedListEnd
  | .curly => .expectedRecordEnd

/-- The closing bracket. -/
def Bracket.close : Bracket → Char
  | .square => ']'
  | .curly => '\x7d'

/-- Skip a string behind its opening quote. Surrogates are not paired. -/
def skipChars : List Char → Except Stop (List Char)
  | [] => .error (.here .endInText [])
  | '"' :: rest => .ok rest
  | '\\' :: rest =>
    match rest with
    | [] => .error (.here .endInText [])
    | 'u' :: more =>
      match more with
      | a :: b :: c :: d :: behind =>
        match hexQuad? a b c d with
        | none => .error (stopInQuad more)
        | some _ => skipChars behind
      | short => .error (stopInQuad short)
    | letter :: behind =>
      match shortEscape? letter with
      | none => .error (.peek .invalidEscape (letter :: behind))
      | some _ => skipChars behind
  | c :: rest =>
    if c.toNat < 0x20 then .error (.here .controlCharacter (c :: rest)) else skipChars rest

/-- Skip an exponent behind its letter. -/
def skipExponent (cs : List Char) : Except Stop (List Char) :=
  let cs :=
    match cs with
    | '+' :: rest => rest
    | '-' :: rest => rest
    | _ => cs
  match cs with
  | [] => .error (.here .invalidNumber [])
  | c :: rest =>
    if c.isDigit then .ok (rest.dropWhile Char.isDigit)
    else .error (.peek .invalidNumber (c :: rest))

/-- Skip a fraction behind its point. -/
def skipFraction (cs : List Char) : Except Stop (List Char) :=
  let (digits, rest) := spanDigits cs
  if digits.isEmpty then .error (.peek .invalidNumber rest)
  else
    match rest with
    | 'e' :: more => skipExponent more
    | 'E' :: more => skipExponent more
    | _ => .ok rest

/-- Skip what follows the digits of an integer. -/
def skipTail (cs : List Char) : Except Stop (List Char) :=
  match cs with
  | '.' :: rest => skipFraction rest
  | 'e' :: rest => skipExponent rest
  | 'E' :: rest => skipExponent rest
  | _ => .ok cs

/-- Skip a number behind its sign. -/
def skipNumber (cs : List Char) : Except Stop (List Char) :=
  match cs with
  | [] => .error (.here .invalidNumber [])
  | c :: rest =>
    if c = '0' then
      match rest with
      | d :: more =>
        if d.isDigit then .error (.peek .invalidNumber (d :: more)) else skipTail rest
      | [] => .ok []
    else if c.isDigit then skipTail (rest.dropWhile Char.isDigit)
    else .error (.peek .invalidNumber (c :: rest))

/-- Skip the name of a member and the colon. -/
def skipName (cs : List Char) : Except Stop (List Char) :=
  match skipGap cs with
  | [] => .error (.peek .endInRecord [])
  | c :: rest =>
    if c = '"' then do
      let rest ← skipChars rest
      match skipGap rest with
      | [] => .error (.peek .endInRecord [])
      | c :: rest =>
        if c = ':' then .ok rest else .error (.peek .expectedColon (c :: rest))
    else .error (.peek .keyNotText (c :: rest))

/-- Skip a scalar. An opening bracket is returned with the text behind it. -/
def skipScalar (cs : List Char) : Except Stop (Option Bracket × List Char) :=
  let scalar (result : Except Stop (List Char)) : Except Stop (Option Bracket × List Char) :=
    result.map fun rest => (none, rest)
  match cs with
  | [] => .error (.peek .endInValue [])
  | 'n' :: rest => scalar (readLiteral ['u', 'l', 'l'] rest)
  | 't' :: rest => scalar (readLiteral ['r', 'u', 'e'] rest)
  | 'f' :: rest => scalar (readLiteral ['a', 'l', 's', 'e'] rest)
  | '-' :: rest => scalar (skipNumber rest)
  | '"' :: rest => scalar (skipChars rest)
  | '[' :: rest => .ok (some .square, rest)
  | '\x7b' :: rest => .ok (some .curly, rest)
  | c :: rest =>
    if c.isDigit then scalar (skipNumber (c :: rest)) else .error (.peek .expectedValue (c :: rest))

/-- What is expected next while a value is skipped. Open brackets are listed from the innermost
to the outermost. -/
inductive Skipping where
  /-- A value inside the open brackets. -/
  | value (openBrackets : List Bracket)
  /-- An item of the bracket, or its end; behind an item, a comma comes first. -/
  | inside (bracket : Bracket) (fresh : Bool) (outer : List Bracket)
  deriving DecidableEq, Repr

/-- Go on behind a value or a closing bracket. Without an open bracket there is nothing left. -/
def Skipping.behind : List Bracket → Option Skipping
  | [] => none
  | bracket :: outer => some (.inside bracket false outer)

/-- Go on to an item of a bracket, which in an object begins with its name. -/
def Skipping.item (bracket : Bracket) (outer : List Bracket) (cs : List Char) :
    Except Stop (Option Skipping × List Char) :=
  match bracket with
  | .square => .ok (some (.value (.square :: outer)), cs)
  | .curly => (skipName cs).map fun rest => (some (.value (.curly :: outer)), rest)

/-- Take one step of skipping. -/
def Skipping.step (state : Skipping) (cs : List Char) : Except Stop (Option Skipping × List Char) :=
  match state with
  | .value openBrackets =>
    match skipScalar (skipGap cs) with
    | .error stop => .error stop
    | .ok (some bracket, rest) => .ok (some (.inside bracket true openBrackets), rest)
    | .ok (none, rest) => .ok (Skipping.behind openBrackets, rest)
  | .inside bracket fresh outer =>
    match skipGap cs with
    | [] => .error (.peek bracket.endReason [])
    | c :: rest =>
      if c = ',' ∧ !fresh then Skipping.item bracket outer rest
      else if c = bracket.close then .ok (Skipping.behind outer, rest)
      else if fresh then Skipping.item bracket outer (c :: rest)
      else .error (.peek bracket.commaReason (c :: rest))

/-- Take steps until nothing is left to skip. -/
def Skipping.run : Nat → Skipping → List Char → Except Stop (List Char)
  | 0, _, cs => .error (.peek .endInValue cs)
  | steps + 1, state, cs =>
    match state.step cs with
    | .error stop => .error stop
    | .ok (none, rest) => .ok rest
    | .ok (some state, rest) => state.run steps rest

/-- Skip the value at the front of a text. Of two steps at least one takes a character, so twice
the length of the text is enough. -/
def skipValue (cs : List Char) : Except Stop (List Char) :=
  (Skipping.value []).run (2 * cs.length + 2) cs

end Criteria.Json
