import Criteria.Json.Printer
import Criteria.Json.Skip
import Std.Data.ExtTreeMap.Lemmas

/-!
# Codecs

A codec writes a type of values as JSON and reads it from JSON text. Codecs are built up: strings,
lists, dictionaries, variants without contents, and records from the list of their fields.

A record is read from an object, whose members may come in any order and among others, or from an
array that holds the fields in their order. An object with a known member twice is refused where
the second begins; a member that is missing and has no value of its own to fall back on, and an
array that ends early, are refused behind the closing bracket.
-/

namespace Criteria.Json

/-- A way to write values as JSON and to read them back. -/
structure Codec (α : Type) where
  /-- The JSON form of a value. -/
  write : α → Json
  /-- Read a value from the front of a text. -/
  read : Reader α

/-- What stands where a bracket may end or go on. -/
inductive Turn where
  /-- The closing bracket, in front of which the text begins. -/
  | close (rest : List Char)
  /-- An item, in front of which the text begins. -/
  | item (rest : List Char)
  deriving DecidableEq, Repr

/-- Find the end or the next item of an array. -/
def nextItem (first : Bool) (cs : List Char) : Except Stop Turn :=
  match skipGap cs with
  | [] => .error (.peek .endInList [])
  | c :: rest =>
    if c = ']' then .ok (.close (c :: rest))
    else if first then .ok (.item (c :: rest))
    else if c = ',' then
      match skipGap rest with
      | [] => .error (.peek .endInValue [])
      | d :: more =>
        if d = ']' then .error (.peek .trailingComma (d :: more)) else .ok (.item (d :: more))
    else .error (.peek .expectedListEnd (c :: rest))

/-- Accept only a quote, in front of the name of a member. -/
def expectName (cs : List Char) : Except Stop Turn :=
  match cs with
  | [] => .error (.peek .endInValue [])
  | c :: rest =>
    if c = '"' then .ok (.item rest)
    else if c = '\x7d' then .error (.peek .trailingComma (c :: rest))
    else .error (.peek .keyNotText (c :: rest))

/-- Find the end of an object or its next member. An item's text begins behind the quote. -/
def nextMember (first : Bool) (cs : List Char) : Except Stop Turn :=
  match skipGap cs with
  | [] => .error (.peek .endInRecord [])
  | c :: rest =>
    if c = '\x7d' then .ok (.close (c :: rest))
    else if first then expectName (c :: rest)
    else if c = ',' then expectName (skipGap rest)
    else .error (.peek .expectedRecordEnd (c :: rest))

/-- Read the colon behind the name of a member. -/
def readColon (cs : List Char) : Except Stop (List Char) :=
  match skipGap cs with
  | [] => .error (.peek .endInRecord [])
  | c :: rest => if c = ':' then .ok rest else .error (.peek .expectedColon (c :: rest))

/-! ## Strings, lists and dictionaries -/

/-- Strings. -/
def Codec.string : Codec String where
  write := .text
  read cs :=
    match skipGap cs with
    | [] => .error (.peek .endInValue [])
    | c :: rest => if c = '"' then readText rest else .error (stopAtValue "a string" (c :: rest))

/-- Read the items of an array up to its closing bracket. An item takes at least one character,
so the length of the text bounds their number. -/
def readItems {α : Type} (read : Reader α) : Nat → Bool → Reader (List α)
  | 0, _, _ => .error (.peek .endInList [])
  | steps + 1, first, cs => do
    match ← nextItem first cs with
    | .close rest => return ([], rest.drop 1)
    | .item rest =>
      let (item, rest) ← read rest
      let (items, rest) ← readItems read steps false rest
      return (item :: items, rest)

/-- Lists. -/
def Codec.list {α : Type} (codec : Codec α) : Codec (List α) where
  write items := .list (items.map codec.write)
  read cs :=
    match skipGap cs with
    | [] => .error (.peek .endInValue [])
    | c :: rest =>
      if c = '[' then readItems codec.read (rest.length + 1) true rest
      else .error (stopAtValue "a sequence" (c :: rest))

/-- Read the members of an object up to its closing brace, adding them to a dictionary. -/
def readEntries {β : Type} (read : Reader β) :
    Nat → Bool → Std.ExtTreeMap String β → Reader (Std.ExtTreeMap String β)
  | 0, _, _, _ => .error (.peek .endInRecord [])
  | steps + 1, first, entries, cs => do
    match ← nextMember first cs with
    | .close rest => return (entries, rest.drop 1)
    | .item rest =>
      let (name, rest) ← readText rest
      let rest ← readColon rest
      let (value, rest) ← read rest
      readEntries read steps false (entries.insert name value) rest

/-- Dictionaries, written in the order of their keys. Of two members with one name the later
counts. -/
def Codec.dictionary {β : Type} (codec : Codec β) : Codec (Std.ExtTreeMap String β) where
  write entries := .record (entries.toList.map fun entry => (entry.1, codec.write entry.2))
  read cs :=
    match skipGap cs with
    | [] => .error (.peek .endInValue [])
    | c :: rest =>
      if c = '\x7b' then readEntries codec.read (rest.length + 1) true ∅ rest
      else .error (stopAtValue "a map" (c :: rest))

/-! ## Variants -/

/-- Read `null` where nothing else is of use. -/
def readUnit : List Char → Except Stop (List Char) := fun cs =>
  match skipGap cs with
  | [] => .error (.peek .endInValue [])
  | c :: rest =>
    if c = 'n' then readLiteral ['u', 'l', 'l'] rest else .error (stopAtValue "unit" (c :: rest))

/-- Find the value with a name among named values. -/
def findVariant {α : Type} (variants : List (String × α)) (name : String) (rest : List Char) :
    Except Stop (α × List Char) :=
  match variants.lookup name with
  | some value => .ok (value, rest)
  | none => .error (.here (.unknownVariant name (variants.map Prod.fst)) rest)

/-- Read the quote in front of the name of a variant, behind an opening brace. -/
def readVariantQuote (cs : List Char) : Except Stop (List Char) :=
  match skipGap cs with
  | [] => .error (.peek .endInRecord [])
  | c :: rest =>
    if c = '"' then .ok rest
    else .error (.peek (if c = '\x7d' then .expectedValue else .keyNotText) (c :: rest))

/-- One of several values, written as its name. It is also read from an object that has the name
as its only member, with the value `null`. -/
def Codec.variant {α : Type} (variants : List (String × α)) (nameOf : α → String) :
    Codec α where
  write value := .text (nameOf value)
  read cs :=
    match skipGap cs with
    | [] => .error (.peek .endInValue [])
    | c :: rest =>
      if c = '"' then do
        let (name, rest) ← readText rest
        findVariant variants name rest
      else if c = '\x7b' then do
        let rest ← readVariantQuote rest
        let (name, rest) ← readText rest
        let (value, rest) ← findVariant variants name rest
        let rest ← readColon rest
        let rest ← readUnit rest
        match skipGap rest with
        | [] => .error (.here .endInRecord [])
        | d :: more =>
          if d = '\x7d' then .ok (value, more) else .error (.here .expectedValue (d :: more))
      else .error (.peek .expectedValue (c :: rest))

/-! ## Records -/

/-- A field of a record. -/
structure Field (α : Type) where
  /-- The name of the member. -/
  name : String
  /-- The value of the field if the member is missing and may be. -/
  fallback : Option α
  /-- The JSON form of a value, or nothing if the member is left out. -/
  write : α → Option Json
  /-- Read a value from the front of a text. -/
  read : Reader α

/-- A field that must be present. -/
def Field.required {α : Type} (name : String) (codec : Codec α) : Field α where
  name := name
  fallback := none
  write value := some (codec.write value)
  read := codec.read

/-- A field with a value to fall back on. -/
def Field.withFallback {α : Type} (name : String) (value : α) (codec : Codec α) : Field α :=
  { Field.required name codec with fallback := some value }

/-- A field that may be left out, and is when there is nothing to write. It is also read from
`null`. -/
def Field.optional {α : Type} (name : String) (codec : Codec α) : Field (Option α) where
  name := name
  fallback := some none
  write value := value.map codec.write
  read cs :=
    match skipGap cs with
    | 'n' :: rest => (readLiteral ['u', 'l', 'l'] rest).map fun rest => (none, rest)
    | _ => (codec.read cs).map fun (value, rest) => (some value, rest)

/-- The fields of a record in their order. The values of the fields are nested pairs of the second
type; those read so far, of which some may be missing, are nested pairs of the first. -/
inductive Fields : Type → Type → Type 1 where
  | done : Fields Unit Unit
  | more {α σ τ : Type} (first : Field α) (rest : Fields σ τ) : Fields (Option α × σ) (α × τ)

namespace Fields

/-- The number of fields. -/
def size : {σ τ : Type} → Fields σ τ → Nat
  | _, _, .done => 0
  | _, _, .more _ rest => rest.size + 1

/-- Nothing has been read yet. -/
def noSlots : {σ τ : Type} → Fields σ τ → σ
  | _, _, .done => ()
  | _, _, .more _ rest => (none, rest.noSlots)

/-- The members of a record. -/
def write : {σ τ : Type} → Fields σ τ → τ → List (String × Json)
  | _, _, .done, _ => []
  | _, _, .more first rest, (value, values) =>
    ((first.write value).map fun json => (first.name, json)).toList ++ rest.write values

/-- What the name of a member means to a record. -/
inductive Member (σ : Type) where
  /-- No field has the name. -/
  | unknown
  /-- The field with the name has been read before. -/
  | repeated
  /-- The field with the name is to be read. -/
  | known (read : Reader σ)

/-- Find the field with a name. -/
def member : {σ τ : Type} → Fields σ τ → σ → String → Member σ
  | _, _, .done, _, _ => .unknown
  | _, _, .more first rest, (slot, slots), name =>
    if name = first.name then
      match slot with
      | some _ => .repeated
      | none => .known fun cs => (first.read cs).map fun (value, cs) => ((some value, slots), cs)
    else
      match rest.member slots name with
      | .unknown => .unknown
      | .repeated => .repeated
      | .known read => .known fun cs => (read cs).map fun (slots, cs) => ((slot, slots), cs)

/-- Take the values from the slots, or find the first field that is missing. -/
def finish : {σ τ : Type} → Fields σ τ → σ → Except String τ
  | _, _, .done, _ => .ok ()
  | _, _, .more first rest, (slot, slots) =>
    match slot.or first.fallback with
    | none => .error first.name
    | some value => (rest.finish slots).map fun values => (value, values)

/-- Stop at the name of a member that has been read before. If the object ends there its brace
is read, too. -/
def stopAtRepeated (name : String) (cs : List Char) : Stop :=
  match skipGap cs with
  | [] => .here (.repeatedMember name) []
  | c :: rest => .here (.repeatedMember name) (if c = '\x7d' then rest else c :: rest)

/-- Read the members of an object up to its closing brace. -/
def readObject {σ τ : Type} (fields : Fields σ τ) : Nat → Bool → σ → Reader τ
  | 0, _, _, _ => .error (.peek .endInRecord [])
  | steps + 1, first, slots, cs => do
    match ← nextMember first cs with
    | .close rest =>
      match fields.finish slots with
      | .ok values => .ok (values, rest.drop 1)
      | .error name => .error (.here (.missingMember name) (rest.drop 1))
    | .item rest =>
      let (name, rest) ← readText rest
      match fields.member slots name with
      | .repeated => .error (stopAtRepeated name rest)
      | .unknown =>
        let rest ← readColon rest
        let rest ← skipValue rest
        fields.readObject steps false slots rest
      | .known read =>
        let rest ← readColon rest
        let (slots, rest) ← read rest
        fields.readObject steps false slots rest

/-- Read the end of an array that holds all fields. -/
def endArray (cs : List Char) : Except Stop (List Char) :=
  match skipGap cs with
  | [] => .error (.peek .endInList [])
  | c :: rest =>
    if c = ']' then .ok rest
    else if c = ',' then
      match skipGap rest with
      | [] => .error (.peek .trailingCharacters [])
      | d :: behind =>
        .error (.peek (if d = ']' then .trailingComma else .trailingCharacters) (d :: behind))
    else .error (.peek .trailingCharacters (c :: rest))

/-- Read the fields from an array, behind its opening bracket and `index` fields. The name and
the number of fields of the record are for complaints. -/
def readArray (record : String) (count : Nat) : {σ τ : Type} → Fields σ τ → Nat → Reader τ
  | _, _, .done, _, cs => (endArray cs).map fun rest => ((), rest)
  | _, _, .more first rest, index, cs => do
    match ← nextItem (index = 0) cs with
    | .item cs =>
      let (value, cs) ← first.read cs
      let (values, cs) ← rest.readArray record count (index + 1) cs
      return ((value, values), cs)
    | .close cs =>
      match first.fallback with
      | none => .error (.here (.wrongLength index record count) (cs.drop 1))
      | some value =>
        let (values, cs) ← rest.readArray record count (index + 1) cs
        return ((value, values), cs)

end Fields

/-- Records with the given name and fields. -/
def Codec.record {σ τ ρ : Type} (name : String) (fields : Fields σ τ) (unpack : ρ → τ)
    (pack : τ → ρ) : Codec ρ where
  write value := .record (fields.write (unpack value))
  read cs :=
    match skipGap cs with
    | [] => .error (.peek .endInValue [])
    | c :: rest =>
      let values : Except Stop (τ × List Char) :=
        if c = '[' then fields.readArray name fields.size 0 rest
        else if c = '\x7b' then fields.readObject (rest.length + 1) true fields.noSlots rest
        else .error (stopAtValue s!"struct {name}" (c :: rest))
      values.map fun (values, rest) => (pack values, rest)

/-! ## Whole texts -/

/-- Read a text that holds one value and nothing else. -/
def Codec.decode {α : Type} (codec : Codec α) (text : String) : Except Fault α :=
  match codec.read text.toList with
  | .error stop => .error (stop.locate text.toList)
  | .ok (value, rest) =>
    match skipGap rest with
    | [] => .ok value
    | more => .error ((Stop.peek .trailingCharacters more).locate text.toList)

/-- Write a value on one line. -/
def Codec.encode {α : Type} (codec : Codec α) (value : α) : String :=
  (codec.write value).compact

/-- Write a value over several lines. -/
def Codec.encodePretty {α : Type} (codec : Codec α) (value : α) : String :=
  (codec.write value).pretty

example : ((Codec.list .string).decode " [ \"a\" , \"\\u00e9\" ] ").toOption =
    some ["a", "\u00e9"] := by decide +kernel

end Criteria.Json
