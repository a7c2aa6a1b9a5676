import Criteria.TestVector

/-!
# Daemons

A daemon takes one command after another and replies to each, or cannot be reached. What it replies
may depend on every command it has got before. Two daemons are given: one that replies `Done` and
refuses the commands it is told to refuse, and one that replies from a script.
-/

namespace Criteria

/-- A command. -/
structure Command where
  /-- The name of the command. -/
  name : String
  /-- The arguments. -/
  args : List String
  deriving DecidableEq, Repr

/-- The reply to a command. -/
structure Reply where
  /-- What the command put out. -/
  output : String
  /-- What went wrong, or nothing. -/
  error : String
  deriving DecidableEq, Repr

namespace Reply

/-- A reply that accepts a command. -/
def ok (output : String) : Reply := ⟨output, ""⟩

/-- A reply that refuses a command, unless the error is empty. -/
def failed (error : String) : Reply := ⟨"", error⟩

/-- Tell whether a reply refuses the command. -/
def isError (reply : Reply) : Bool := !reply.error.isEmpty

end Reply

namespace Command

/-- The name of the command that gives a criterion its values. -/
def setName : String := "setCriterionState"

/-- The name of the command that puts the values given into effect. -/
def applyName : String := "applyConfigurations"

/-- The command that gives a criterion its values. -/
def set (assignment : Assignment) : Command :=
  ⟨setName, assignment.name :: assignment.values⟩

/-- The command that puts the values given into effect. -/
def apply : Command := ⟨applyName, []⟩

/-- The command as one line. -/
def line (command : Command) : String :=
  if command.args.isEmpty then command.name
  else command.name ++ " " ++ " ".intercalate command.args

/-- The fault of a command that was refused. -/
def refused (command : Command) (error : String) : Fault :=
  .transport (command.name ++ " " ++ " ".intercalate command.args ++ ": " ++ error)

end Command

/-- A daemon replies to a command, knowing those it has got before. -/
abbrev Daemon := List Command → Command → Except Fault Reply

/-- A daemon that refuses the commands of some names, with the error that stands first for the name,
and replies `Done` to all others. -/
def Daemon.refusing (refusals : List (String × String)) : Daemon := fun _ command =>
  match refusals.lookup command.name with
  | some error => .ok (.failed error)
  | none => .ok (.ok "Done")

/-- What a script says for one command. -/
inductive ScriptedReply where
  /-- The daemon replies. -/
  | reply (reply : Reply)
  /-- The daemon cannot be reached. -/
  | raise (reason : String)
  deriving DecidableEq, Repr

/-- A daemon that replies by the number of the command, and with `Done` when the script is over. -/
def Daemon.scripted (script : List ScriptedReply) : Daemon := fun past _ =>
  match script[past.length]? with
  | some (.reply reply) => .ok reply
  | some (.raise reason) => .error (.transport reason)
  | none => .ok (.ok "Done")

/-- A daemon that replies nothing and refuses nothing. -/
def Daemon.silent : Daemon := fun _ _ => .ok (.ok "")

end Criteria
