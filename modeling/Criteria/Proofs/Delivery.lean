import Criteria.Push

/-!
# What a push hands over

A push has some commands for a daemon. It hands them over in order and stops behind the first one
that the daemon does not accept. Nothing is assumed about the daemon: its replies may depend on all
commands that it has got, and it may fail to reply at all.

The statements are made for any push and then for the parts that a push of vectors is put together
from, so that the two loops of such a push, over the vectors and over the commands of each, need one
induction each.
-/

namespace Criteria

variable {α β : Type}

/-- Tell whether a daemon accepts a command: it replies, and without an error. -/
def Daemon.accepts (daemon : Daemon) (past : List Command) (command : Command) : Bool :=
  match daemon past command with
  | .ok reply => !reply.isError
  | .error _ => false

/-- The commands that a daemon accepts of those that it gets one after another. -/
def Daemon.accepted (daemon : Daemon) : List Command → List Command → List Command
  | _, [] => []
  | past, command :: rest =>
    if daemon.accepts past command then command :: daemon.accepted (past ++ [command]) rest
    else daemon.accepted (past ++ [command]) rest

/-- What is accepted of two lists of commands is accepted of the first and then of the second. -/
theorem Daemon.accepted_append (daemon : Daemon) (past first second : List Command) :
    daemon.accepted past (first ++ second) =
      daemon.accepted past first ++ daemon.accepted (past ++ first) second := by
  induction first generalizing past with
  | nil => simp [accepted]
  | cons command rest ih =>
    rw [List.cons_append, accepted, ih, accepted, List.append_assoc, List.singleton_append]
    split <;> rfl

/-- Behind accepted commands one that is not accepted adds nothing to them. -/
theorem Daemon.accepted_append_refused {daemon : Daemon} {past before : List Command}
    {command : Command} (haccepted : daemon.accepted past before = before)
    (hrefused : daemon.accepts (past ++ before) command = false) :
    daemon.accepted past (before ++ [command]) = before := by
  rw [accepted_append, haccepted, accepted, hrefused]
  simp [accepted]

/-- How an exchange ends that has some commands for a daemon. -/
inductive Exchange.Ends (daemon : Daemon) (past commands : List Command)
    (exchange : Exchange α) : Prop where
  /-- All commands were handed over and accepted. -/
  | completed (value : α) (outcome : exchange.traced.outcome = .ok value)
    (sent : exchange.sent = commands) (accepted : daemon.accepted past commands = commands)
  /-- One command was handed over but not accepted, all before it were, and no other was sent. -/
  | stopped (fault : Fault) (before : List Command) (command : Command) (after : List Command)
    (outcome : exchange.traced.outcome = .error fault)
    (split : commands = before ++ command :: after) (sent : exchange.sent = before ++ [command])
    (accepted : daemon.accepted past before = before)
    (refused : daemon.accepts (past ++ before) command = false)

/-- A daemon that accepts every command. -/
def Daemon.Willing (daemon : Daemon) : Prop :=
  ∀ past command, daemon.accepts past command = true

/-- The daemon that replies nothing accepts every command. -/
theorem Daemon.willing_silent : Daemon.silent.Willing := fun _ _ => rfl

/-- The daemon that is told to refuse nothing accepts every command. -/
theorem Daemon.willing_refusing_nil : (Daemon.refusing []).Willing := fun _ _ => rfl

/-- An exchange with a daemon that accepts every command comes to its end. -/
theorem Exchange.Ends.of_willing {daemon : Daemon} {past commands : List Command}
    {exchange : Exchange α} (h : exchange.Ends daemon past commands) (hwilling : daemon.Willing) :
    (∃ value, exchange.traced.outcome = .ok value) ∧ exchange.sent = commands := by
  cases h with
  | completed value outcome sent => exact ⟨⟨value, outcome⟩, sent⟩
  | stopped _ before command _ _ _ _ _ refused =>
    rw [hwilling] at refused
    contradiction

/-- A push delivers some commands to a daemon if it hands over these and stops at a refusal. -/
def Push.Delivers (daemon : Daemon) (commands : List Command) (push : Push α) : Prop :=
  ∀ past, (push past).Ends daemon past commands

namespace Push

/-- A push that only gives a value delivers nothing. -/
theorem delivers_pure (daemon : Daemon) (value : α) : (pure value : Push α).Delivers daemon [] :=
  fun _ => .completed value rfl rfl rfl

/-- A push that only writes an event delivers nothing. -/
theorem delivers_emit (daemon : Daemon) (event : Event) :
    (ofTraced (Traced.emit event)).Delivers daemon [] :=
  fun _ => .completed () rfl rfl rfl

/-- Two pushes in a row deliver the commands of the first and then those of the second. -/
theorem Delivers.bind {daemon : Daemon} {commands more : List Command} {first : Push α}
    {next : α → Push β} (hfirst : first.Delivers daemon commands)
    (hnext : ∀ value, (next value).Delivers daemon more) :
    (first >>= next).Delivers daemon (commands ++ more) := by
  intro past
  cases hfirst past with
  | stopped fault before command after outcome split sent accepted refused =>
    have hrun := bind_of_error outcome next
    exact .stopped fault before command (after ++ more) (by rw [hrun]) (by simp [split])
      (by rw [hrun, sent]) accepted refused
  | completed value outcome sent accepted =>
    have hrun := bind_of_ok outcome next
    rw [sent] at hrun
    cases hnext value (past ++ commands) with
    | completed last outcome' sent' accepted' =>
      exact .completed last (by rw [hrun, outcome']) (by simp only [hrun, sent'])
        (by rw [daemon.accepted_append, accepted, accepted'])
    | stopped fault before command after outcome' split sent' accepted' refused =>
      refine .stopped fault (commands ++ before) command after (by rw [hrun, outcome'])
        (by simp [split]) (by simp [hrun, sent']) ?_ (by rwa [← List.append_assoc])
      rw [daemon.accepted_append, accepted, accepted']

/-- Changing the value of a push changes nothing else. -/
theorem bind_pure_comp (push : Push α) (change : α → β) (past : List Command) :
    (push >>= fun value => pure (change value)) past =
      ⟨(push past).sent, (push past).traced.entries, (push past).traced.outcome.map change⟩ := by
  cases h : (push past).traced.outcome with
  | error fault => rw [bind_of_error h]; rfl
  | ok value =>
    rw [bind_of_ok h]
    simp only [pure, List.append_nil]
    rfl

/-- A push inside a vector delivers what it delivers outside. -/
theorem Delivers.within {daemon : Daemon} {commands : List Command} {push : Push α}
    (h : push.Delivers daemon commands) (vector : String) :
    (Push.within vector push).Delivers daemon commands := by
  intro past
  cases h past with
  | completed value outcome sent accepted => exact .completed value outcome sent accepted
  | stopped fault before command after outcome split sent accepted refused =>
    exact .stopped fault before command after outcome split sent accepted refused

/-- A command is answered by the daemon, and an answer with an error in it stops the push. -/
theorem outcome_transmit (daemon : Daemon) (command : Command) (past : List Command) :
    (transmit daemon command past).traced.outcome =
      (daemon past command).bind fun reply =>
        if reply.isError then .error (command.refused reply.error) else .ok reply := by
  unfold transmit
  rw [Traced.bind_of_ok rfl]
  cases hreply : daemon past command with
  | error fault => rw [Traced.bind_of_error rfl]; rfl
  | ok reply =>
    rw [Traced.bind_of_ok rfl]
    simp only [Except.bind]
    split <;> rfl

/-- Handing over a command delivers it. -/
theorem delivers_transmit (daemon : Daemon) (command : Command) :
    (transmit daemon command).Delivers daemon [command] := by
  intro past
  have houtcome := outcome_transmit daemon command past
  cases hreply : daemon past command with
  | error fault =>
    rw [hreply] at houtcome
    exact .stopped fault [] command [] houtcome rfl rfl rfl (by simp [Daemon.accepts, hreply])
  | ok reply =>
    cases herror : reply.isError with
    | true =>
      have hstop : (transmit daemon command past).traced.outcome =
          .error (command.refused reply.error) := by
        simpa [hreply, Except.bind, herror] using houtcome
      exact .stopped _ [] command [] hstop rfl rfl rfl (by simp [Daemon.accepts, hreply, herror])
    | false =>
      have hgo : (transmit daemon command past).traced.outcome = .ok reply := by
        simpa [hreply, Except.bind, herror] using houtcome
      exact .completed reply hgo rfl (by simp [Daemon.accepted, Daemon.accepts, hreply, herror])

/-- Handing over commands one after another delivers them. -/
theorem delivers_transmitAll (daemon : Daemon) (commands : List Command) :
    (transmitAll daemon commands).Delivers daemon commands := by
  induction commands with
  | nil => exact delivers_pure daemon []
  | cons command rest ih =>
    have htail (reply : Reply) := ih.bind fun replies => delivers_pure daemon (reply :: replies)
    simpa [transmitAll] using (delivers_transmit daemon command).bind htail

end Push

namespace TestVector

/-- A push of a vector delivers the commands of the vector. -/
theorem delivers_push (daemon : Daemon) (vector : TestVector) :
    (vector.push daemon).Delivers daemon vector.commands := by
  have hrest (replies : List Reply) (last : Reply) :=
    (Push.delivers_emit daemon (.vectorApplied vector.name vector.testType replies.length)).bind
      fun _ => Push.delivers_pure daemon
        (PushReport.mk vector.name replies.length (replies ++ [last]))
  have happly (replies : List Reply) :=
    (Push.delivers_transmit daemon Command.apply).bind (hrest replies)
  exact ((Push.delivers_transmitAll daemon _).bind happly).within vector.name

/-- A push of vectors delivers the commands of all of them. -/
theorem delivers_pushAll (daemon : Daemon) (vectors : List TestVector) :
    (pushAll daemon vectors).Delivers daemon (vectors.flatMap commands) := by
  induction vectors with
  | nil => exact Push.delivers_pure daemon []
  | cons vector rest ih =>
    have htail (report : PushReport) :=
      ih.bind fun reports => Push.delivers_pure daemon (report :: reports)
    simpa [pushAll] using (delivers_push daemon vector).bind htail

/-- Behind a vector whose push is stopped no other vector is pushed. -/
theorem pushAll_cons_of_error {daemon : Daemon} {past : List Command} {vector : TestVector}
    {fault : Fault} (h : (vector.push daemon past).traced.outcome = .error fault)
    (rest : List TestVector) :
    pushAll daemon (vector :: rest) past =
      ⟨(vector.push daemon past).sent, (vector.push daemon past).traced.entries, .error fault⟩ :=
  Push.bind_of_error h _

/-- Behind a vector whose push comes to its end the others are pushed, to a daemon that has got the
commands of that vector. -/
theorem pushAll_cons_of_ok {daemon : Daemon} {past : List Command} {vector : TestVector}
    {report : PushReport} (h : (vector.push daemon past).traced.outcome = .ok report)
    (rest : List TestVector) :
    pushAll daemon (vector :: rest) past =
      let first := vector.push daemon past
      let later := pushAll daemon rest (past ++ first.sent)
      ⟨first.sent ++ later.sent, first.traced.entries ++ later.traced.entries,
        later.traced.outcome.map (report :: ·)⟩ := by
  rw [pushAll, Push.bind_of_ok h, Push.bind_pure_comp]

/-- A push of vectors that is stopped was stopped inside one of them: the push of those before it
came to its end, and the vector's own push, going on from there, stopped with the same fault. -/
theorem exists_stopped_of_pushAll {daemon : Daemon} {past : List Command}
    {vectors : List TestVector} {fault : Fault}
    (h : (pushAll daemon vectors past).traced.outcome = .error fault) :
    ∃ before vector after, vectors = before ++ vector :: after ∧
      (∃ reports, (pushAll daemon before past).traced.outcome = .ok reports) ∧
      (vector.push daemon (past ++ (pushAll daemon before past).sent)).traced.outcome =
        .error fault ∧
      (pushAll daemon vectors past).sent = (pushAll daemon before past).sent ++
        (vector.push daemon (past ++ (pushAll daemon before past).sent)).sent := by
  induction vectors generalizing past with
  | nil => exact absurd h nofun
  | cons vector rest ih =>
    cases hfirst : (vector.push daemon past).traced.outcome with
    | error other =>
      have hrun := pushAll_cons_of_error hfirst rest
      obtain rfl : other = fault := by simpa [hrun] using h
      have hnone : (pushAll daemon [] past).sent = [] := rfl
      refine ⟨[], vector, rest, rfl, ⟨[], rfl⟩, ?_, ?_⟩
      · rw [hnone, List.append_nil, hfirst]
      · rw [hnone, List.append_nil, hrun, List.nil_append]
    | ok report =>
      have hrun := pushAll_cons_of_ok hfirst
      have hlater : (pushAll daemon rest (past ++ (vector.push daemon past).sent)).traced.outcome =
          .error fault := by
        rw [hrun] at h
        cases hend : (pushAll daemon rest (past ++ (vector.push daemon past).sent)).traced.outcome
          <;> simp_all [Except.map]
      obtain ⟨before, stopped, after, hsplit, ⟨reports, hbefore⟩, hstopped, hsent⟩ := ih hlater
      have hpast : past ++ (pushAll daemon (vector :: before) past).sent =
          past ++ (vector.push daemon past).sent ++
            (pushAll daemon before (past ++ (vector.push daemon past).sent)).sent := by
        rw [hrun, List.append_assoc]
      refine ⟨vector :: before, stopped, after, by rw [hsplit, List.cons_append],
        ⟨report :: reports, by rw [hrun]; simp [hbefore, Except.map]⟩, by rw [hpast, hstopped], ?_⟩
      rw [hpast, hrun, hrun]
      simp only [hsent, List.append_assoc]

end TestVector

end Criteria
