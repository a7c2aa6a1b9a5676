import Criteria.Daemon

/-!
# Pushing vectors

A vector is pushed by a command for each of its criteria, in order, and one that puts the values
into effect. The first command that is refused or that cannot be delivered stops the push. What a
push leaves behind is the commands handed to the daemon, the one that stopped it included, the log
entries, and the outcome.
-/

namespace Criteria

/-- What an exchange with a daemon leaves behind. -/
structure Exchange (α : Type) where
  /-- The commands handed over, the earliest first. -/
  sent : List Command
  /-- The log entries and what came of the exchange. -/
  traced : Traced α

/-- A push: an exchange with a daemon that has got some commands before. -/
def Push (α : Type) := List Command → Exchange α

namespace Push

variable {α β : Type}

/-- Go on with an exchange where another one left off, unless that one was stopped. -/
def andThen (first : Push α) (next : α → Push β) : Push β := fun past =>
  let done := first past
  match done.traced.outcome with
  | .error fault => ⟨done.sent, done.traced.entries, .error fault⟩
  | .ok value =>
    let second := next value (past ++ done.sent)
    ⟨done.sent ++ second.sent, done.traced.entries ++ second.traced.entries,
      second.traced.outcome⟩

instance : Monad Push where
  pure value := fun _ => ⟨[], pure value⟩
  bind := andThen

/-- A push that was stopped is not continued. -/
theorem bind_of_error {first : Push α} {past : List Command} {fault : Fault}
    (h : (first past).traced.outcome = .error fault) (next : α → Push β) :
    (first >>= next) past = ⟨(first past).sent, (first past).traced.entries, .error fault⟩ := by
  change andThen first next past = _
  simp [andThen, h]

/-- A push that gave a value is continued with it, and the daemon has then got its commands. -/
theorem bind_of_ok {first : Push α} {past : List Command} {value : α}
    (h : (first past).traced.outcome = .ok value) (next : α → Push β) :
    (first >>= next) past =
      let second := next value (past ++ (first past).sent)
      ⟨(first past).sent ++ second.sent, (first past).traced.entries ++ second.traced.entries,
        second.traced.outcome⟩ := by
  change andThen first next past = _
  simp [andThen, h]

/-- A push that hands over nothing. -/
def ofTraced (traced : Traced α) : Push α := fun _ => ⟨[], traced⟩

/-- Put a push inside a vector. -/
def within (vector : String) (push : Push α) : Push α := fun past =>
  let done := push past
  { done with traced := Traced.within vector done.traced }

/-- Hand a command to a daemon. -/
def transmit (daemon : Daemon) (command : Command) : Push Reply := fun past =>
  ⟨[command], do
    Traced.emit (.commandSent command.name command.args)
    let reply ← Traced.ofExcept (daemon past command)
    if reply.isError then Traced.fail (command.refused reply.error) else return reply⟩

/-- Hand commands to a daemon until one is refused. -/
def transmitAll (daemon : Daemon) : List Command → Push (List Reply)
  | [] => pure []
  | command :: rest => do
    let reply ← transmit daemon command
    let replies ← transmitAll daemon rest
    return reply :: replies

end Push

/-- The outcome of pushing a vector. -/
structure PushReport where
  /-- The name of the vector. -/
  vector : String
  /-- The number of criteria that were given values. -/
  commandsSent : Nat
  /-- The replies, the last one to the command that put the values into effect. -/
  outputs : List Reply
  deriving DecidableEq, Repr

namespace TestVector

/-- The commands that push a vector. -/
def commands (vector : TestVector) : List Command :=
  vector.assignments.map Command.set ++ [Command.apply]

/-- Push a vector. -/
def push (daemon : Daemon) (vector : TestVector) : Push PushReport :=
  Push.within vector.name do
    let replies ← Push.transmitAll daemon (vector.assignments.map Command.set)
    let last ← Push.transmit daemon Command.apply
    Push.ofTraced (Traced.emit (.vectorApplied vector.name vector.testType replies.length))
    return ⟨vector.name, replies.length, replies ++ [last]⟩

/-- Push vectors in order. -/
def pushAll (daemon : Daemon) : List TestVector → Push (List PushReport)
  | [] => pure []
  | vector :: rest => do
    let report ← vector.push daemon
    let reports ← pushAll daemon rest
    return report :: reports

end TestVector

end Criteria
