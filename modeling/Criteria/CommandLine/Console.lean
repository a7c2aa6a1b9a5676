import Criteria.Traced

/-!
# The console

A task prints text, writes log entries, and ends well or with a report. A report is a sentence about
what the task was doing, and the words for the fault and its causes. Text printed before a fault
stays printed.
-/

namespace Criteria.CommandLine

/-- Why a task failed. -/
structure Report where
  /-- What the task was doing. -/
  context : String
  /-- The fault. -/
  fault : Fault
  deriving DecidableEq, Repr

/-- Put blanks in front of every line of a text but the first. -/
def indentRest (blanks : Nat) (text : String) : String :=
  String.ofList (text.toList.flatMap fun c =>
    if c = '\n' then '\n' :: List.replicate blanks ' ' else [c])

/-- The causes of a report from the given number on, each on lines of its own. -/
def numberedCauses : Nat → List String → List String
  | _, [] => []
  | number, cause :: rest =>
    (String.ofList (List.replicate (5 - (toString number).length) ' ') ++ toString number ++ ": " ++
      indentRest 7 cause ++ "\n") :: numberedCauses (number + 1) rest

/-- The text of a report: the context, then the causes, numbered if there are several. -/
def Report.render (report : Report) : String :=
  let causes :=
    match report.fault.chain with
    | [cause] => ["    " ++ indentRest 4 cause ++ "\n"]
    | causes => numberedCauses 0 causes
  "Error: " ++ report.context ++ "\n\nCaused by:\n" ++ String.join causes

/-- What a task leaves behind. -/
structure Console (α : Type) where
  /-- The text printed. -/
  printed : String
  /-- The log entries written, the earliest first. -/
  entries : List Entry
  /-- The value, or the report of the failure. -/
  outcome : Except Report α

namespace Console

variable {α β : Type}

/-- Go on where another task left off, unless that one failed. -/
def andThen (first : Console α) (next : α → Console β) : Console β :=
  match first.outcome with
  | .error report => ⟨first.printed, first.entries, .error report⟩
  | .ok value =>
    let second := next value
    ⟨first.printed ++ second.printed, first.entries ++ second.entries, second.outcome⟩

instance : Monad Console where
  pure value := ⟨"", [], .ok value⟩
  bind := andThen

/-- Print a text. -/
def print (text : String) : Console Unit := ⟨text, [], .ok ()⟩

/-- Write one event. -/
def emit (event : Event) : Console Unit := ⟨"", [event.entry], .ok ()⟩

/-- Run a computation, and report its fault with a context. -/
def run (context : String) (computation : Traced α) : Console α :=
  ⟨"", computation.entries, computation.outcome.mapError fun fault => ⟨context, fault⟩⟩

/-- A task that failed is not continued. -/
theorem bind_of_error {first : Console α} {report : Report} (h : first.outcome = .error report)
    (next : α → Console β) : first >>= next = ⟨first.printed, first.entries, .error report⟩ := by
  change andThen first next = _
  simp [andThen, h]

/-- A task that gave a value is continued with it. -/
theorem bind_of_ok {first : Console α} {value : α} (h : first.outcome = .ok value)
    (next : α → Console β) :
    first >>= next =
      ⟨first.printed ++ (next value).printed, first.entries ++ (next value).entries,
        (next value).outcome⟩ := by
  change andThen first next = _
  simp [andThen, h]

/-- Two tasks in a row write what the first writes and then, if that one gave a value, what the
second does. -/
theorem entries_bind (first : Console α) (next : α → Console β) :
    (first >>= next).entries = first.entries ++
      match first.outcome with
      | .ok value => (next value).entries
      | .error _ => [] := by
  cases h : first.outcome with
  | error report => rw [bind_of_error h, List.append_nil]
  | ok value => rw [bind_of_ok h]

/-- A value that comes of two tasks comes of the second, continued with that of the first. -/
theorem outcome_bind_eq_ok_iff {first : Console α} {next : α → Console β} {result : β} :
    (first >>= next).outcome = .ok result ↔
      ∃ value, first.outcome = .ok value ∧ (next value).outcome = .ok result := by
  cases h : first.outcome with
  | error report => simp [bind_of_error h]
  | ok value => simp [bind_of_ok h]

/-- A report on two tasks is one on the first, or on the second, continued with the value of the
first. -/
theorem outcome_bind_eq_error_iff {first : Console α} {next : α → Console β} {report : Report} :
    (first >>= next).outcome = .error report ↔
      first.outcome = .error report ∨
        ∃ value, first.outcome = .ok value ∧ (next value).outcome = .error report := by
  cases h : first.outcome with
  | error other => simp [bind_of_error h]
  | ok value => simp [bind_of_ok h]

/-- Two tasks that print nothing print nothing in a row. -/
theorem printed_bind {first : Console α} {next : α → Console β} (hfirst : first.printed = "")
    (hnext : ∀ value, (next value).printed = "") : (first >>= next).printed = "" := by
  cases h : first.outcome with
  | error report => rw [bind_of_error h, hfirst]
  | ok value =>
    rw [bind_of_ok h, hfirst, hnext]
    rfl

/-- A computation that is run gives its value. -/
theorem outcome_run_eq_ok_iff {context : String} {computation : Traced α} {value : α} :
    (run context computation).outcome = .ok value ↔ computation.outcome = .ok value := by
  rw [run]
  cases computation.outcome with
  | error fault => exact iff_of_false nofun nofun
  | ok result => constructor <;> rintro ⟨⟩ <;> rfl

/-- The fault of a computation that is run is reported with the context. -/
theorem outcome_run_eq_error_iff {context : String} {computation : Traced α} {report : Report} :
    (run context computation).outcome = .error report ↔
      ∃ fault, computation.outcome = .error fault ∧ report = ⟨context, fault⟩ := by
  rw [run]
  cases computation.outcome with
  | error fault =>
    constructor
    · intro h
      exact ⟨fault, rfl, (Except.error.inj h).symm⟩
    · rintro ⟨_, ⟨⟩, rfl⟩
      rfl
  | ok result => exact iff_of_false nofun fun ⟨_, h, _⟩ => nomatch h

end Console

end Criteria.CommandLine
