import Criteria.Proofs.Delivery

/-!
# The protocol of a push

Whatever a daemon replies, a push sends a first part of the commands of its vectors, in their order.
Each command is sent only after all before it were accepted, so the values of a vector are put into
effect only after all of them were given, and no vector is begun before the one before it is in
effect. The push succeeds exactly when the whole stream was sent and accepted, and then reports what
the daemon replied. It fails exactly when the last command sent was not accepted, and that command
tells the fault.

A push of a vector comes to what handing over its commands in one loop comes to. Replies and faults
are therefore read off that loop, by one induction over the commands each.
-/

namespace Criteria

variable {α β : Type}

/-! ## What a daemon says to commands -/

namespace Daemon

variable {daemon : Daemon} {past : List Command} {command : Command} {fault : Fault}

/-- What a daemon says to commands that it gets one after another. -/
def replies (daemon : Daemon) : List Command → List Command → List (Except Fault Reply)
  | _, [] => []
  | past, command :: rest => daemon past command :: daemon.replies (past ++ [command]) rest

/-- A daemon says one thing to each command. -/
theorem length_replies (daemon : Daemon) (past commands : List Command) :
    (daemon.replies past commands).length = commands.length := by
  induction commands generalizing past with
  | nil => rfl
  | cons command rest ih => rw [replies, List.length_cons, ih, List.length_cons]

/-- The fault with which a command stops a push. -/
inductive Stops (daemon : Daemon) (past : List Command) (command : Command) : Fault → Prop where
  /-- The daemon cannot be reached, and the fault is its own. -/
  | unreachable {fault : Fault} (h : daemon past command = .error fault) :
    Stops daemon past command fault
  /-- The daemon replied with an error, and the fault repeats the command and the error. -/
  | refused {reply : Reply} (h : daemon past command = .ok reply) (herror : reply.isError = true) :
    Stops daemon past command (command.refused reply.error)

/-- A command stops a push with the fault of a daemon that cannot be reached, or with one that
repeats the command and the error in the reply to it. -/
theorem stops_iff :
    daemon.Stops past command fault ↔ daemon past command = .error fault ∨
      ∃ reply, daemon past command = .ok reply ∧ reply.error ≠ "" ∧
        fault = .transport (command.name ++ " " ++ " ".intercalate command.args ++ ": " ++
          reply.error) := by
  constructor
  · rintro (h | ⟨h, herror⟩)
    · exact .inl h
    · exact .inr ⟨_, h, by simpa [Reply.isError] using herror, rfl⟩
  · rintro (h | ⟨reply, h, herror, rfl⟩)
    · exact .unreachable h
    · exact .refused h (by simpa [Reply.isError] using herror)

/-- A command that stops a push is not accepted. -/
theorem Stops.accepts_eq_false (h : daemon.Stops past command fault) :
    daemon.accepts past command = false := by
  cases h with
  | unreachable hreply => rw [accepts, hreply]
  | refused hreply herror => simp [accepts, hreply, herror]

/-- A command stops a push with one fault only. -/
theorem Stops.unique {other : Fault} (h : daemon.Stops past command fault)
    (hother : daemon.Stops past command other) : fault = other := by
  cases h with
  | unreachable hreply =>
    cases hother with
    | unreachable hsame => exact Except.error.inj (hreply.symm.trans hsame)
    | refused hsame => rw [hreply] at hsame; contradiction
  | refused hreply =>
    cases hother with
    | unreachable hsame => rw [hreply] at hsame; contradiction
    | refused hsame => rw [Except.ok.inj (hreply.symm.trans hsame)]

/-- No command is accepted that was not sent, and none twice. -/
theorem accepted_sublist (daemon : Daemon) (past commands : List Command) :
    (daemon.accepted past commands).Sublist commands := by
  induction commands generalizing past with
  | nil => exact .slnil
  | cons command rest ih =>
    rw [accepted]
    split
    · exact (ih _).cons_cons command
    · exact (ih _).cons command

/-- Of commands that are all accepted the first ones are all accepted. -/
theorem accepted_of_initial {before commands : List Command} (hinitial : before <+: commands)
    (h : daemon.accepted past commands = commands) : daemon.accepted past before = before := by
  obtain ⟨after, rfl⟩ := hinitial
  rw [accepted_append] at h
  have hlength := congrArg List.length h
  have hbefore := (daemon.accepted_sublist past before).length_le
  have hafter := (daemon.accepted_sublist (past ++ before) after).length_le
  simp only [List.length_append] at hlength
  exact (List.append_inj h (by omega)).1

/-- Commands that are all accepted do not end with one that is not. -/
theorem not_accepted_concat {before : List Command}
    (hrefused : daemon.accepts (past ++ before) command = false) :
    daemon.accepted past (before ++ [command]) ≠ before ++ [command] := by
  intro h
  have hbefore := accepted_of_initial (List.prefix_append before [command]) h
  rw [accepted_append_refused hbefore hrefused] at h
  simpa using congrArg List.length h

end Daemon

/-! ## What any exchange keeps to -/

namespace Exchange.Ends

variable {daemon : Daemon} {past commands : List Command} {exchange : Exchange α}

/-- The commands are sent in their order, without a gap. -/
theorem sent_initial (h : exchange.Ends daemon past commands) : exchange.sent <+: commands := by
  cases h with
  | completed _ _ sent => exact sent ▸ List.prefix_rfl
  | stopped _ before command after _ split sent =>
    exact ⟨after, by rw [sent, split, List.append_assoc, List.singleton_append]⟩

/-- What was sent before some command was accepted. -/
theorem accepted_of_sent (h : exchange.Ends daemon past commands) {before after : List Command}
    {command : Command} (hsent : exchange.sent = before ++ command :: after) :
    daemon.accepted past before = before := by
  cases h with
  | completed _ _ sent accepted =>
    exact Daemon.accepted_of_initial ⟨command :: after, by rw [← hsent, sent]⟩ accepted
  | stopped _ earlier last _ _ _ sent accepted =>
    refine Daemon.accepted_of_initial ?_ accepted
    refine List.prefix_of_prefix_length_le (List.prefix_append _ _)
      ⟨[last], (sent.symm.trans hsent)⟩ ?_
    have hlength := congrArg List.length (sent.symm.trans hsent)
    simp only [List.length_append, List.length_cons, List.length_nil] at hlength
    omega

/-- If more was sent than some first commands, these were accepted. -/
theorem accepted_of_length_lt (h : exchange.Ends daemon past commands) {before : List Command}
    (hinitial : before <+: commands) (hlength : before.length < exchange.sent.length) :
    daemon.accepted past before = before := by
  obtain ⟨rest, hsent⟩ :=
    List.prefix_of_prefix_length_le hinitial h.sent_initial (Nat.le_of_lt hlength)
  cases rest with
  | nil =>
    rw [← hsent, List.append_nil] at hlength
    exact absurd hlength (Nat.lt_irrefl _)
  | cons command after => exact h.accepted_of_sent hsent.symm

/-- Behind a command that is not accepted nothing is sent. -/
theorem eq_nil_of_refused (h : exchange.Ends daemon past commands) {before after : List Command}
    {command : Command} (hsent : exchange.sent = before ++ command :: after)
    (hrefused : daemon.accepts (past ++ before) command = false) : after = [] := by
  cases after with
  | nil => rfl
  | cons next rest =>
    rw [← List.singleton_append, ← List.append_assoc] at hsent
    exact absurd (h.accepted_of_sent hsent) (Daemon.not_accepted_concat hrefused)

/-- The first command that is not accepted is the last one sent. -/
theorem sent_of_refused {before after : List Command} {command : Command}
    (h : exchange.Ends daemon past (before ++ command :: after))
    (haccepted : daemon.accepted past before = before)
    (hrefused : daemon.accepts (past ++ before) command = false) :
    exchange.sent = before ++ [command] := by
  rcases Nat.lt_or_ge before.length exchange.sent.length with hlt | hge
  · have hinitial : before ++ [command] <+: before ++ command :: after := ⟨after, by simp⟩
    obtain ⟨later, hsent⟩ := List.prefix_of_prefix_length_le hinitial h.sent_initial
      (by simpa using Nat.succ_le_of_lt hlt)
    rw [List.append_assoc, List.singleton_append] at hsent
    obtain rfl := h.eq_nil_of_refused hsent.symm hrefused
    exact hsent.symm
  · -- The exchange would have been stopped by one of the first commands, but these were accepted.
    have hinside := List.prefix_of_prefix_length_le h.sent_initial (List.prefix_append before _) hge
    cases h with
    | completed _ _ sent =>
      rw [sent, List.length_append, List.length_cons] at hge
      omega
    | stopped _ _ _ _ _ _ sent _ refused =>
      rw [sent] at hinside
      exact absurd (Daemon.accepted_of_initial hinside haccepted)
        (Daemon.not_accepted_concat refused)

/-- An exchange comes to its end exactly when all commands were sent and accepted. -/
theorem exists_ok_iff (h : exchange.Ends daemon past commands) :
    (∃ value, exchange.traced.outcome = .ok value) ↔
      exchange.sent = commands ∧ daemon.accepted past commands = commands := by
  cases h with
  | completed value outcome sent accepted => exact iff_of_true ⟨value, outcome⟩ ⟨sent, accepted⟩
  | stopped fault before command after outcome _ sent _ refused =>
    refine iff_of_false ?_ ?_
    · rintro ⟨value, hvalue⟩
      rw [outcome] at hvalue
      contradiction
    · rintro ⟨hall, haccepted⟩
      rw [← hall, sent] at haccepted
      exact Daemon.not_accepted_concat refused haccepted

end Exchange.Ends

/-! ## One loop over commands -/

/-- A result whose value is changed is a fault exactly when the result is. -/
theorem map_eq_error_iff {change : α → β} {result : Except Fault α} {fault : Fault} :
    result.map change = .error fault ↔ result = .error fault := by
  cases result <;> simp [Except.map]

namespace Push

variable {daemon : Daemon} {commands past : List Command} {command : Command} {fault : Fault}

instance : LawfulMonad Push :=
  LawfulMonad.mk' Push
    (by
      intro α push
      funext past
      refine (bind_pure_comp push id past).trans ?_
      rcases push past with ⟨sent, entries, outcome⟩
      cases outcome <;> rfl)
    (by
      intro α β value next
      funext past
      rw [bind_of_ok rfl]
      simp [pure])
    (by
      intro α β γ first next last
      funext past
      change andThen (andThen first next) last past =
        andThen first (fun value => andThen (next value) last) past
      cases hfirst : (first past).traced.outcome with
      | error fault => simp [andThen, hfirst]
      | ok value =>
        cases hnext : (next value (past ++ (first past).sent)).traced.outcome <;>
          simp [andThen, hfirst, hnext])

/-- A value that comes of two pushes comes of the second, continued with that of the first. -/
theorem outcome_bind_eq_ok_iff {first : Push α} {next : α → Push β} {result : β} :
    ((first >>= next) past).traced.outcome = .ok result ↔
      ∃ value, (first past).traced.outcome = .ok value ∧
        (next value (past ++ (first past).sent)).traced.outcome = .ok result := by
  cases h : (first past).traced.outcome with
  | error fault => simp [bind_of_error h]
  | ok value => simp [bind_of_ok h]

/-- A command is answered by a reply without an error. -/
theorem outcome_transmit_eq_ok_iff {reply : Reply} :
    (transmit daemon command past).traced.outcome = .ok reply ↔
      daemon past command = .ok reply ∧ reply.isError = false := by
  rw [outcome_transmit]
  cases daemon past command with
  | error fault => simp [Except.bind]
  | ok answer =>
    simp only [Except.bind]
    split <;> grind

/-- A command that is not answered stops the push. -/
theorem outcome_transmit_eq_error_iff :
    (transmit daemon command past).traced.outcome = .error fault ↔
      daemon.Stops past command fault := by
  rw [outcome_transmit]
  constructor
  · intro h
    cases hreply : daemon past command with
    | error other =>
      rw [hreply] at h
      obtain rfl := Except.error.inj h
      exact .unreachable hreply
    | ok reply =>
      simp only [hreply, Except.bind] at h
      split at h
      · next herror =>
        obtain rfl := Except.error.inj h
        exact .refused hreply herror
      · contradiction
  · rintro (hreply | ⟨hreply, herror⟩)
    · rw [hreply]
      rfl
    · simp [hreply, herror, Except.bind]

/-- Commands are answered by the replies to each, if none of these has an error. -/
theorem outcome_transmitAll_eq_ok_iff {replies : List Reply} :
    (transmitAll daemon commands past).traced.outcome = .ok replies ↔
      daemon.replies past commands = replies.map .ok ∧
        ∀ reply ∈ replies, reply.isError = false := by
  induction commands generalizing past replies with
  | nil => cases replies <;> simp [transmitAll, Daemon.replies, pure]
  | cons command rest ih =>
    have hsent : (transmit daemon command past).sent = [command] := rfl
    simp only [transmitAll, outcome_bind_eq_ok_iff, outcome_transmit_eq_ok_iff, hsent, ih,
      Daemon.replies]
    constructor
    · rintro ⟨reply, ⟨hreply, haccepted⟩, more, ⟨hmore, hall⟩, hpure⟩
      obtain rfl := Except.ok.inj hpure
      rw [hreply, hmore]
      exact ⟨rfl, List.forall_mem_cons.mpr ⟨haccepted, hall⟩⟩
    · rintro ⟨hreplies, hall⟩
      obtain ⟨reply, more, rfl⟩ := List.exists_cons_of_ne_nil
        fun hnil => List.cons_ne_nil _ _ (hreplies.trans (congrArg _ hnil))
      obtain ⟨hreply, hmore⟩ := List.cons.inj hreplies
      obtain ⟨haccepted, hall⟩ := List.forall_mem_cons.mp hall
      exact ⟨reply, ⟨hreply, haccepted⟩, more, ⟨hmore, hall⟩, rfl⟩

/-- There are as many replies as commands. -/
theorem length_of_transmitAll {replies : List Reply}
    (h : (transmitAll daemon commands past).traced.outcome = .ok replies) :
    replies.length = commands.length := by
  have hlength := congrArg List.length (outcome_transmitAll_eq_ok_iff.mp h).1
  rw [Daemon.length_replies, List.length_map] at hlength
  exact hlength.symm

/-- Commands that are not all answered were stopped by the last one sent. -/
theorem exists_stops_of_transmitAll
    (h : (transmitAll daemon commands past).traced.outcome = .error fault) :
    ∃ before command, (transmitAll daemon commands past).sent = before ++ [command] ∧
      daemon.Stops (past ++ before) command fault := by
  induction commands generalizing past with
  | nil => exact absurd h nofun
  | cons command rest ih =>
    rw [transmitAll] at h ⊢
    cases hfirst : (transmit daemon command past).traced.outcome with
    | error other =>
      rw [bind_of_error hfirst] at h ⊢
      obtain rfl := Except.error.inj h
      refine ⟨[], command, rfl, ?_⟩
      rw [List.append_nil]
      exact outcome_transmit_eq_error_iff.mp hfirst
    | ok reply =>
      rw [bind_of_ok hfirst, bind_pure_comp] at h ⊢
      have hrest : (transmitAll daemon rest (past ++ [command])).traced.outcome = .error fault :=
        map_eq_error_iff.mp h
      obtain ⟨before, last, hsent, hstops⟩ := ih hrest
      refine ⟨command :: before, last, congrArg (command :: ·) hsent, ?_⟩
      rwa [List.append_assoc, List.singleton_append] at hstops

/-- Handing over one more command is handing it over behind the others. -/
theorem transmitAll_concat (daemon : Daemon) (commands : List Command) (command : Command) :
    transmitAll daemon (commands ++ [command]) = do
      let replies ← transmitAll daemon commands
      let last ← transmit daemon command
      return replies ++ [last] := by
  induction commands with
  | nil => simp [transmitAll]
  | cons first rest ih => simp [transmitAll, ih]

end Push

/-! ## Vectors -/

/-- A report tells what became of a vector that was pushed in full: its name, the number of its
criteria, and the replies to its commands in their order, none of them with an error. -/
structure PushReport.Tells (report : PushReport) (daemon : Daemon) (past : List Command)
    (vector : TestVector) : Prop where
  name : report.vector = vector.name
  commandsSent : report.commandsSent = vector.criteria.length
  replies : daemon.replies past vector.commands = report.outputs.map .ok
  length : report.outputs.length = vector.criteria.length + 1
  accepted : ∀ reply ∈ report.outputs, reply.error = ""

/-- There is one report for each vector, in order, and each tells what became of its vector when the
daemon had got the commands of those before. -/
inductive PushReport.TellAll (daemon : Daemon) :
    List Command → List TestVector → List PushReport → Prop where
  | nil {past : List Command} : TellAll daemon past [] []
  | cons {past : List Command} {vector : TestVector} {vectors : List TestVector}
    {report : PushReport} {reports : List PushReport} (first : report.Tells daemon past vector)
    (rest : TellAll daemon (past ++ vector.commands) vectors reports) :
    TellAll daemon past (vector :: vectors) (report :: reports)

namespace TestVector

variable {daemon : Daemon} {past : List Command} {vector : TestVector} {vectors : List TestVector}
  {fault : Fault}

/-- A vector has one command more than criteria. -/
theorem length_commands (vector : TestVector) :
    vector.commands.length = vector.criteria.length + 1 := by
  simp [commands, assignments]

/-- The commands of a vector are one for each criterion, with its name and the values it shows, in
the order of the vector, and then one without arguments. -/
theorem commands_eq (vector : TestVector) :
    vector.commands = (vector.criteria.map fun criterion =>
        Command.mk "setCriterionState" (criterion.name :: criterion.values)) ++
      [Command.mk "applyConfigurations" []] := by
  rw [commands, assignments, List.map_map]
  rfl

/-- A push of a vector sends what handing over its commands in one loop sends, and reports the
replies or stops with the same fault. -/
theorem push_eq_transmitAll (daemon : Daemon) (vector : TestVector) (past : List Command) :
    (vector.push daemon past).sent = (Push.transmitAll daemon vector.commands past).sent ∧
      (vector.push daemon past).traced.outcome =
        (Push.transmitAll daemon vector.commands past).traced.outcome.map
          (PushReport.mk vector.name vector.criteria.length) := by
  simp only [push, Push.within, Traced.within, commands, Push.transmitAll_concat]
  -- The report counts the replies to the set commands, which are as many as the criteria only when
  -- none of these commands was stopped.
  cases hsets : (Push.transmitAll daemon (vector.assignments.map Command.set) past).traced.outcome
    with
  | error fault => simp [Push.bind_of_error hsets, Except.map]
  | ok replies =>
    have hlength : replies.length = vector.criteria.length := by
      simpa [assignments] using Push.length_of_transmitAll hsets
    rw [Push.bind_of_ok hsets, Push.bind_of_ok hsets]
    cases hlast : (Push.transmit daemon Command.apply (past ++
        (Push.transmitAll daemon (vector.assignments.map Command.set) past).sent)).traced.outcome
      with
    | error fault => simp [Push.bind_of_error hlast, Except.map]
    | ok last =>
      rw [Push.bind_of_ok hlast, Push.bind_of_ok hlast, hlength]
      exact ⟨rfl, rfl⟩

/-- A push of a vector that comes to its end sent all commands, and its report tells what became of
the vector. -/
theorem tells_of_push {report : PushReport}
    (h : (vector.push daemon past).traced.outcome = .ok report) :
    (vector.push daemon past).sent = vector.commands ∧ report.Tells daemon past vector := by
  refine ⟨((vector.delivers_push daemon past).exists_ok_iff.mp ⟨report, h⟩).1, ?_⟩
  rw [(vector.push_eq_transmitAll daemon past).2] at h
  cases hreplies : (Push.transmitAll daemon vector.commands past).traced.outcome with
  | error fault => rw [hreplies] at h; contradiction
  | ok replies =>
    rw [hreplies] at h
    obtain rfl := Except.ok.inj h
    have hlength := (Push.length_of_transmitAll hreplies).trans vector.length_commands
    obtain ⟨hreplies, haccepted⟩ := Push.outcome_transmitAll_eq_ok_iff.mp hreplies
    exact ⟨rfl, rfl, hreplies, hlength,
      fun reply hreply => by simpa [Reply.isError] using haccepted reply hreply⟩

/-- A push of vectors that comes to its end reports what became of each. -/
theorem tellAll_of_pushAll {reports : List PushReport}
    (h : (pushAll daemon vectors past).traced.outcome = .ok reports) :
    PushReport.TellAll daemon past vectors reports := by
  induction vectors generalizing past reports with
  | nil =>
    obtain rfl := Except.ok.inj h
    exact .nil
  | cons vector rest ih =>
    simp only [pushAll, Push.outcome_bind_eq_ok_iff] at h
    obtain ⟨report, hfirst, more, hrest, hpure⟩ := h
    obtain rfl := Except.ok.inj hpure
    obtain ⟨hsent, htells⟩ := tells_of_push hfirst
    rw [hsent] at hrest
    exact .cons htells (ih hrest)

/-- A push of vectors that is stopped was stopped by the last command sent. -/
theorem exists_stops_of_pushAll (h : (pushAll daemon vectors past).traced.outcome = .error fault) :
    ∃ before command, (pushAll daemon vectors past).sent = before ++ [command] ∧
      daemon.Stops (past ++ before) command fault := by
  obtain ⟨earlier, vector, -, -, -, hstopped, hsent⟩ := exists_stopped_of_pushAll h
  obtain ⟨hcommands, houtcome⟩ :=
    vector.push_eq_transmitAll daemon (past ++ (pushAll daemon earlier past).sent)
  rw [houtcome] at hstopped
  obtain ⟨before, command, hlast, hstops⟩ :=
    Push.exists_stops_of_transmitAll (map_eq_error_iff.mp hstopped)
  refine ⟨(pushAll daemon earlier past).sent ++ before, command, ?_, ?_⟩
  · rw [hsent, hcommands, hlast, List.append_assoc]
  · rwa [List.append_assoc] at hstops

/-- A push of vectors is stopped with a fault exactly when the last command sent stops it with that
fault. -/
theorem outcome_pushAll_eq_error_iff :
    (pushAll daemon vectors past).traced.outcome = .error fault ↔
      ∃ before command, (pushAll daemon vectors past).sent = before ++ [command] ∧
        daemon.Stops (past ++ before) command fault := by
  refine ⟨exists_stops_of_pushAll, ?_⟩
  rintro ⟨before, command, hsent, hstops⟩
  cases hrun : (pushAll daemon vectors past).traced.outcome with
  | error other =>
    -- The push was stopped by its last command, with the one fault that this command can give.
    obtain ⟨earlier, last, hlast, hother⟩ := exists_stops_of_pushAll hrun
    obtain ⟨rfl, hcommand⟩ := List.append_inj' (hsent.symm.trans hlast) rfl
    obtain rfl := List.singleton_inj.mp hcommand
    rw [hother.unique hstops]
  | ok reports =>
    -- A push that succeeds had its last command accepted.
    obtain ⟨hall, haccepted⟩ :=
      (delivers_pushAll daemon vectors past).exists_ok_iff.mp ⟨reports, hrun⟩
    rw [← hall, hsent] at haccepted
    exact absurd haccepted (Daemon.not_accepted_concat hstops.accepts_eq_false)

/-- Whatever a daemon replies, a push of vectors keeps to the protocol. It sends a first part of one
stream, which has for each vector a command for each criterion, with its name and its values, and
then the command that puts them into effect. What was sent before any command was accepted, so
nothing is sent behind a command that is not accepted: the values of a vector are put into effect
only when the vectors before it and all its set commands were accepted, and a command of a later
vector is sent only when this was accepted as well. The push succeeds exactly when the whole stream
was sent and accepted, and then there is one report for each vector, which tells the replies to its
commands. It fails exactly when the last command sent was not accepted, with the fault of the daemon
if that could not be reached, and else with one that repeats the command and the error. -/
theorem pushAll_keeps_protocol (daemon : Daemon) (past : List Command)
    (vectors : List TestVector) :
    let run := pushAll daemon vectors past
    let stream := vectors.flatMap fun vector =>
      (vector.criteria.map fun criterion =>
        Command.mk "setCriterionState" (criterion.name :: criterion.values)) ++
      [Command.mk "applyConfigurations" []]
    run.sent <+: stream ∧
    (∀ before command after, run.sent = before ++ command :: after →
      daemon.accepted past before = before ∧
        (daemon.accepts (past ++ before) command = false → after = [])) ∧
    (∀ earlier vector later, vectors = earlier ++ vector :: later →
      let given := earlier.flatMap commands ++ vector.assignments.map Command.set
      (given.length < run.sent.length →
        given ++ [Command.apply] <+: run.sent ∧ daemon.accepted past given = given) ∧
      (given.length + 1 < run.sent.length →
        daemon.accepted past (given ++ [Command.apply]) = given ++ [Command.apply])) ∧
    ((∃ reports, run.traced.outcome = .ok reports) ↔
      run.sent = stream ∧ daemon.accepted past stream = stream) ∧
    (∀ reports, run.traced.outcome = .ok reports →
      PushReport.TellAll daemon past vectors reports) ∧
    ∀ fault, run.traced.outcome = .error fault ↔ ∃ before command,
      run.sent = before ++ [command] ∧
        (daemon (past ++ before) command = .error fault ∨
          ∃ reply, daemon (past ++ before) command = .ok reply ∧ reply.error ≠ "" ∧
            fault = .transport (command.name ++ " " ++ " ".intercalate command.args ++ ": " ++
              reply.error)) := by
  intro run stream
  have hstream : stream = vectors.flatMap commands := by
    simp only [stream, ← commands_eq]
  have hends : run.Ends daemon past stream := hstream ▸ delivers_pushAll daemon vectors past
  refine ⟨hends.sent_initial, fun before command after hsent =>
    ⟨hends.accepted_of_sent hsent, hends.eq_nil_of_refused hsent⟩, ?_, hends.exists_ok_iff,
    fun reports => tellAll_of_pushAll, fun fault => ?_⟩
  · rintro earlier vector later rfl given
    have hinitial : given ++ [Command.apply] <+: stream :=
      ⟨later.flatMap commands, by simp [given, hstream, commands]⟩
    refine ⟨fun hlength => ⟨?_, ?_⟩, fun hlength => ?_⟩
    · exact List.prefix_of_prefix_length_le hinitial hends.sent_initial
        (by simpa using Nat.succ_le_of_lt hlength)
    · exact hends.accepted_of_length_lt ((List.prefix_append _ _).trans hinitial) hlength
    · exact hends.accepted_of_length_lt hinitial (by simpa using hlength)
  · refine outcome_pushAll_eq_error_iff.trans ?_
    simp only [Daemon.stops_iff, run]

end TestVector

end Criteria
