import Criteria.Event
import Criteria.Text.Alphanumeric
import Criteria.Text.Blank

/-!
# Log filters

A filter lets the events of a level and of all more important levels through, or none at all. It is
read from a directive: words separated by commas, of which the last that names a level counts. Any
other word names a module or a scope of its own, and perhaps a level for it behind an equals sign;
such words change nothing here, but a directive of such words alone lets nothing through. The
directive without a word lets errors through.
-/

namespace Criteria.Log

/-- The least important level that is let through, if any is. -/
abbrev Filter := Option Level

/-- Tell whether a filter lets the events of a level through. -/
def Filter.allows (filter : Filter) (level : Level) : Bool :=
  filter.any fun least => level.rank ≤ least.rank

/-- The names of the filters. -/
def Filter.names : List (String × Filter) :=
  [("off", none), ("error", some .error), ("warn", some .warn), ("info", some .info),
    ("debug", some .debug), ("trace", some .trace)]

/-- The numbers of the filters, without leading zeros. -/
def Filter.numbers : List (String × Filter) :=
  [("", none), ("1", some .error), ("2", some .warn), ("3", some .info), ("4", some .debug),
    ("5", some .trace)]

/-- Read a filter from its number, which may have a plus sign and leading zeros. -/
def Filter.ofNumber? (number : List Char) : Option Filter :=
  let digits := if number.head? = some '+' then number.tail else number
  if digits.isEmpty || !digits.all Char.isDigit then none
  else Filter.numbers.lookup (String.ofList (digits.dropWhile (· = '0')))

/-- Read a filter from its name, in capital or small letters, or from its number. -/
def Filter.ofName? (name : List Char) : Option Filter :=
  (Filter.names.lookup (String.ofList (name.map Char.toLower))).or (Filter.ofNumber? name)

/-- What a word of a directive says. -/
inductive Word where
  /-- The filter is this one. -/
  | chosen (filter : Filter)
  /-- Something about a module or a scope. -/
  | elsewhere
  /-- Nothing that makes sense. -/
  | invalid
  deriving DecidableEq, Repr

namespace Word

/-- Read the level behind an equals sign, which may be left out. No blanks may stand around the
word then. -/
def ofLevel (padded : Bool) (level : List Char) : Word :=
  if !padded && (level.isEmpty || (Filter.ofName? level).isSome) then .elsewhere else .invalid

/-- Read what stands behind the closing bracket of a scope. -/
def behindScope (padded : Bool) : List Char → Word
  | [] => .elsewhere
  | c :: level => if c = '=' then ofLevel padded level else .invalid

/-- Read a scope behind its opening bracket: a name, and perhaps a field in braces. -/
def ofScope (padded : Bool) (scope : List Char) : Word :=
  match scope.dropWhile fun c => c ≠ ']' ∧ c ≠ '\x7b' with
  | [] => .invalid
  | c :: rest =>
    if c = ']' then behindScope padded rest
    else
      match rest.dropWhile (· ≠ '\x7d') with
      | _ :: ']' :: more => if rest.head? = some '\x7d' then .invalid else behindScope padded more
      | _ => .invalid

/-- Tell whether a word that names a module or a level may begin with a character. -/
def mayBegin (c : Char) : Bool :=
  c = '-' || c = ':' || c = '_' || Text.isAlphanumeric c

/-- Read a word. Blanks around it are allowed, but a level with blanks around it is none. -/
def ofText (word : List Char) : Word :=
  let inner := Text.trimList word
  let padded := inner ≠ word
  match inner with
  | [] => .invalid
  | c :: rest =>
    if c = '[' then ofScope padded rest
    else if !mayBegin c then .invalid
    else
      match inner.dropWhile fun c => c ≠ '=' ∧ c ≠ '[' with
      | [] => ((Filter.ofName? word).map chosen).getD .elsewhere
      | d :: more => if d = '=' then ofLevel padded more else ofScope padded more

end Word

/-- The filter after one more word. -/
def Filter.afterWord (filter : Filter) : Word → Option Filter
  | .chosen next => some next
  | .elsewhere => some filter
  | .invalid => none

/-- Read a directive. One invalid word makes it invalid. -/
def Filter.ofDirective? (directive : String) : Option Filter :=
  let words := (directive.toList.splitOn ',').filter fun word => !word.isEmpty
  if words.isEmpty then some (some .error)
  else (words.map Word.ofText).foldlM Filter.afterWord none

example : Filter.ofDirective? "" = some (some .error) ∧
    Filter.ofDirective? "Warn" = some (some .warn) ∧
    Filter.ofDirective? "info,002" = some (some .warn) := by
  decide +kernel

example : Filter.ofDirective? "==" = none ∧ Filter.ofDirective? "+2" = none ∧
    Filter.ofDirective? "-1" = some none ∧ Filter.ofDirective? " info" = some none := by
  decide +kernel

end Criteria.Log
