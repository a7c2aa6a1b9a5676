import Criteria.CommandLine.Arguments

/-!
# The options that arguments spell

Reading arguments does two things at once: it finds out which options they spell, and it notes them,
which fails for an option that is there already, for an empty file name and for a request for help.
Here the arguments are spelled out without any notes, and reading them is proved to be noting the
options that they spell, in order. So what is read depends on the arguments only through these
options, in whatever way they are written: by name or by letter, with the value in the same argument
or in the next one, or several letters in one argument.
-/

namespace Criteria.CommandLine

variable {α β : Type}

/-- The options that arguments spell, in order, and what they come to at the end. They come to
nothing if they stop making sense there. -/
structure Spelling (α : Type) where
  /-- The options, with their values. -/
  options : Given
  /-- What is left at the end. -/
  ending : Option α
  deriving DecidableEq, Repr

namespace Spelling

/-- Put an option in front. -/
def cons (key : Key) (value : String) (spelling : Spelling α) : Spelling α :=
  { spelling with options := (key, value) :: spelling.options }

/-- Spell what comes next behind what was spelled so far. -/
def andThen (spelling : Spelling α) (next : α → Spelling β) : Spelling β :=
  match spelling.ending with
  | none => ⟨spelling.options, none⟩
  | some value => ⟨spelling.options ++ (next value).options, (next value).ending⟩

end Spelling

/-- Note some options, in order. -/
def Given.noteAll (given : Given) (options : Given) : Except Halt Given :=
  options.foldlM (fun given option => given.note option.1 option.2) given

/-- Note the options of a spelling. -/
def Spelling.note (spelling : Spelling α) (given : Given) : Except Halt (Given × α) := do
  let given ← given.noteAll spelling.options
  match spelling.ending with
  | none => .error .usage
  | some value => .ok (given, value)

/-- Spell the letters of an argument behind one hyphen. -/
def spellLetters (keys : List Key) : List Char → Spelling (Option Key)
  | [] => ⟨[], some none⟩
  | letter :: rest =>
    match keys.find? fun key => key.short? = some letter with
    | none => ⟨[], none⟩
    | some key =>
      if key.takesValue then
        match rest with
        | [] => ⟨[], some (some key)⟩
        | c :: more => ⟨[(key, String.ofList (if c = '=' then more else c :: more))], some none⟩
      else (spellLetters keys rest).cons key ""

/-- Spell an argument behind two hyphens. -/
def spellLong (keys : List Key) (cs : List Char) : Spelling (Option Key) :=
  match keys.find? fun key => key.long = String.ofList (cs.takeWhile (· ≠ '=')),
    cs.dropWhile (· ≠ '=') with
  | none, _ => ⟨[], none⟩
  | some key, [] => if key.takesValue then ⟨[], some (some key)⟩ else ⟨[(key, "")], some none⟩
  | some key, _ :: value =>
    if key.takesValue then ⟨[(key, String.ofList value)], some none⟩ else ⟨[], none⟩

/-- Spell arguments up to the first that is no option. The option that is waiting for its value, if
there is one, takes the first argument. -/
def spell (keys : List Key) : List String → Option Key → Spelling (List String)
  | [], none => ⟨[], some []⟩
  | [], some _ => ⟨[], none⟩
  | argument :: rest, some key =>
    if looksLikeOption argument then ⟨[], none⟩ else (spell keys rest none).cons key argument
  | argument :: rest, none =>
    match argument.toList with
    | ['-', '-'] => ⟨[], if rest.isEmpty then some [] else none⟩
    | '-' :: '-' :: name => (spellLong keys name).andThen (spell keys rest)
    | '-' :: letter :: letters => (spellLetters keys (letter :: letters)).andThen (spell keys rest)
    | _ => ⟨[], some (argument :: rest)⟩

/-! ## Noting what is spelled -/

namespace Spelling

/-- The option in front is noted first. -/
theorem note_cons (key : Key) (value : String) (spelling : Spelling α) (given : Given) :
    (spelling.cons key value).note given =
      given.note key value >>= fun given => spelling.note given := by
  rw [note, Given.noteAll, cons, List.foldlM_cons, bind_assoc]
  rfl

/-- One option is noted. -/
theorem note_singleton (key : Key) (text : String) (value : α) (given : Given) :
    (⟨[(key, text)], some value⟩ : Spelling α).note given =
      (given.note key text).map fun given => (given, value) := by
  change (cons key text ⟨[], some value⟩).note given = _
  rw [note_cons]
  cases given.note key text <;> rfl

/-- What is spelled first is noted first. -/
theorem note_andThen (spelling : Spelling α) (next : α → Spelling β) (given : Given) :
    (spelling.andThen next).note given =
      spelling.note given >>= fun noted => (next noted.2).note noted.1 := by
  obtain ⟨options, ending⟩ := spelling
  cases ending with
  | none =>
    simp only [andThen, note]
    cases given.noteAll options <;> rfl
  | some value =>
    simp only [andThen, note, Given.noteAll, List.foldlM_append]
    cases options.foldlM (fun given option => given.note option.1 option.2) given <;> rfl

end Spelling

/-- Reading letters is noting what they spell. -/
theorem readLetters_eq_note (keys : List Key) (letters : List Char) (given : Given) :
    readLetters keys letters given = (spellLetters keys letters).note given := by
  induction letters generalizing given with
  | nil => rfl
  | cons letter rest ih =>
    rw [readLetters, spellLetters]
    cases keys.find? fun key => key.short? = some letter with
    | none => rfl
    | some key =>
      dsimp only
      split
      · cases rest with
        | nil => rfl
        | cons c more =>
          rw [Spelling.note_singleton]
          rfl
      · rw [Spelling.note_cons]
        exact bind_congr fun given => ih given

/-- Reading a name is noting what it spells. -/
theorem readLong_eq_note (keys : List Key) (cs : List Char) (given : Given) :
    readLong keys cs given = (spellLong keys cs).note given := by
  rw [readLong, spellLong]
  cases keys.find? fun key => key.long = String.ofList (cs.takeWhile (· ≠ '=')) with
  | none => rfl
  | some key =>
    cases cs.dropWhile (· ≠ '=') with
    | nil =>
      dsimp only
      split
      · rfl
      · rw [Spelling.note_singleton]
    | cons c value =>
      dsimp only
      split
      · rw [Spelling.note_singleton]
      · rfl

/-- Reading options is noting what the arguments spell. -/
theorem readOptions_eq_note (keys : List Key) (arguments : List String) (waiting : Option Key)
    (given : Given) :
    readOptions keys arguments waiting given =
      ((spell keys arguments waiting).note given).map fun noted => ⟨noted.1, noted.2⟩ := by
  induction arguments generalizing waiting given with
  | nil => cases waiting <;> rfl
  | cons argument rest ih =>
    cases waiting with
    | some key =>
      rw [readOptions, spell]
      split
      · rfl
      · rw [Spelling.note_cons]
        cases given.note key argument with
        | error halt => rfl
        | ok given => exact ih none given
    | none =>
      rw [readOptions, spell]
      -- The shapes of an argument: two hyphens alone, a name, letters, and no option at all.
      generalize argument.toList = cs
      split
      case h_1 => cases rest <;> rfl
      case h_2 name _ =>
        simp only [Spelling.note_andThen, readLong_eq_note]
        cases (spellLong keys name).note given with
        | error halt => rfl
        | ok noted => exact ih noted.2 noted.1
      case h_3 letter letters _ _ =>
        simp only [Spelling.note_andThen, readLetters_eq_note]
        cases (spellLetters keys (letter :: letters)).note given with
        | error halt => rfl
        | ok noted => exact ih noted.2 noted.1
      case h_4 =>
        simp only [Spelling.note]
        rfl

end Criteria.CommandLine
