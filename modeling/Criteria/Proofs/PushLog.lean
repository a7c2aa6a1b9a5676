import Criteria.Proofs.Journal

/-!
# The log of a push

A push of vectors leaves three records: the commands that the daemon got, the log, and the reports
or the fault. They are compared vector by vector. What is written while a vector is pushed stands
inside that vector. It names each command that the daemon got, the one that stopped the push
included, and after the last command of the vector was accepted it tells that the vector is in
effect. Behind a vector that was stopped there is nothing more in any of the records.

The pushes of the vectors are taken apart into attempts, one for each vector that was reached, so
that an attempt is compared with its own entries and the run with its attempts.
-/

namespace Criteria

/-- An event tells that a command was handed to the daemon. -/
structure Command.Told (command : Command) (event : Event) : Prop where
  event_eq : event = .commandSent command.name command.args
  level : event.level = .debug
  fields : event.fields = [("event", .tag "transport.sent"), ("command", .text command.name),
    ("args", .text (Text.quoteList command.args))]

/-- The event of a command tells that it was handed over. -/
theorem Command.told_event (command : Command) : command.Told command.event := ⟨rfl, rfl, rfl⟩

/-- An event tells that all commands of a vector were accepted. -/
structure TestVector.ToldApplied (vector : TestVector) (event : Event) : Prop where
  event_eq : event = .vectorApplied vector.name vector.testType vector.criteria.length
  level : event.level = .info
  fields : event.fields = [("event", .tag "vector.applied"), ("vector", .text vector.name),
    ("test_type", .text vector.testType), ("commands_sent", .count vector.criteria.length)]

/-- The push of one of several vectors. -/
structure Attempt where
  /-- The vector. -/
  vector : TestVector
  /-- What the push of the vector left behind. -/
  exchange : Exchange PushReport

namespace Attempt

/-- The entries of an attempt tell what became of it. All are inside its vector and no other one.
There is one for each command handed over, in order, and then, exactly if the attempt came to its
end, one that the vector is in effect. -/
def Tells (attempt : Attempt) : Prop :=
  ∃ handed applied, attempt.exchange.traced.entries =
      (handed ++ applied).map (fun event => ⟨event, [attempt.vector.name]⟩) ∧
    List.Forall₂ Command.Told attempt.exchange.sent handed ∧
    match attempt.exchange.traced.outcome with
    | .ok _ => ∃ event, applied = [event] ∧ attempt.vector.ToldApplied event
    | .error _ => applied = []

end Attempt

namespace TestVector

variable {daemon : Daemon} {past : List Command} {vectors : List TestVector}

/-- The entries of the push of a vector tell what became of it. -/
theorem tells_push (daemon : Daemon) (vector : TestVector) (past : List Command) :
    Attempt.Tells ⟨vector, vector.push daemon past⟩ := by
  refine ⟨(vector.push daemon past).sent.map Command.event, (vector.push daemon past).traced.closing
    [.vectorApplied vector.name vector.testType vector.criteria.length], ?_, ?_, ?_⟩
  · rw [entries_push, Happening.during, List.map_map]
    rfl
  · exact List.forall₂_map_right_iff.mpr (List.forall₂_same.mpr fun command _ => command.told_event)
  · dsimp only [Traced.closing]
    cases (vector.push daemon past).traced.outcome with
    | ok report => exact ⟨_, rfl, rfl, rfl, rfl⟩
    | error fault => rfl

/-- The attempts to push vectors one after another, up to the first that is stopped. -/
def attempts (daemon : Daemon) : List Command → List TestVector → List Attempt
  | _, [] => []
  | past, vector :: rest =>
    let exchange := vector.push daemon past
    ⟨vector, exchange⟩ ::
      match exchange.traced.outcome with
      | .ok _ => attempts daemon (past ++ exchange.sent) rest
      | .error _ => []

/-- Each attempt goes on where those before it left off. -/
theorem exchange_eq_of_attempts {earlier later : List Attempt} {attempt : Attempt}
    (h : attempts daemon past vectors = earlier ++ attempt :: later) :
    attempt.exchange = attempt.vector.push daemon
      (past ++ earlier.flatMap fun attempt => attempt.exchange.sent) := by
  induction vectors generalizing past earlier with
  | nil => exact absurd h.symm (List.append_ne_nil_of_right_ne_nil _ (List.cons_ne_nil _ _))
  | cons vector rest ih =>
    rw [attempts] at h
    cases earlier with
    | nil =>
      obtain ⟨rfl, -⟩ := List.cons.inj h
      rw [List.flatMap_nil, List.append_nil]
    | cons first more =>
      obtain ⟨rfl, hrest⟩ := List.cons.inj h
      rw [List.flatMap_cons, ← List.append_assoc]
      cases hfirst : (vector.push daemon past).traced.outcome with
      | ok report =>
        rw [hfirst] at hrest
        exact ih hrest
      | error fault =>
        rw [hfirst] at hrest
        exact absurd hrest.symm (List.append_ne_nil_of_right_ne_nil _ (List.cons_ne_nil _ _))

/-- A push of vectors hands over and writes what the attempts do. -/
theorem pushAll_eq_attempts (daemon : Daemon) (past : List Command) (vectors : List TestVector) :
    (pushAll daemon vectors past).sent =
        (attempts daemon past vectors).flatMap (fun attempt => attempt.exchange.sent) ∧
      (pushAll daemon vectors past).traced.entries =
        (attempts daemon past vectors).flatMap fun attempt => attempt.exchange.traced.entries := by
  induction vectors generalizing past with
  | nil => exact ⟨rfl, rfl⟩
  | cons vector rest ih =>
    rw [attempts]
    cases hfirst : (vector.push daemon past).traced.outcome with
    | error fault =>
      rw [pushAll_cons_of_error hfirst]
      simp only [List.flatMap_singleton, and_self]
    | ok report =>
      obtain ⟨hsent, hentries⟩ := ih (past ++ (vector.push daemon past).sent)
      rw [pushAll_cons_of_ok hfirst]
      simp only [List.flatMap_cons, hsent, hentries, and_self]

/-- The attempts of a push that comes to its end are one for each vector, and each came to its
end. -/
theorem attempts_of_ok {reports : List PushReport}
    (h : (pushAll daemon vectors past).traced.outcome = .ok reports) :
    (attempts daemon past vectors).map Attempt.vector = vectors ∧
      List.Forall₂ (fun attempt report => attempt.exchange.traced.outcome = .ok report)
        (attempts daemon past vectors) reports := by
  induction vectors generalizing past reports with
  | nil =>
    obtain rfl := Except.ok.inj h
    exact ⟨rfl, .nil⟩
  | cons vector rest ih =>
    simp only [pushAll, Push.outcome_bind_eq_ok_iff] at h
    obtain ⟨report, hfirst, more, hrest, hpure⟩ := h
    obtain rfl := Except.ok.inj hpure
    obtain ⟨hvectors, houtcomes⟩ := ih hrest
    simp only [attempts, hfirst]
    exact ⟨congrArg (vector :: ·) hvectors, .cons hfirst houtcomes⟩

/-- The last attempt of a push that is stopped was stopped with its fault, and those before it came
to their ends. -/
theorem attempts_of_error {fault : Fault}
    (h : (pushAll daemon vectors past).traced.outcome = .error fault) :
    ∃ before stopped after, vectors = before.map Attempt.vector ++ stopped.vector :: after ∧
      attempts daemon past vectors = before ++ [stopped] ∧
      (∀ attempt ∈ before, ∃ report, attempt.exchange.traced.outcome = .ok report) ∧
      stopped.exchange.traced.outcome = .error fault := by
  induction vectors generalizing past with
  | nil => exact absurd h nofun
  | cons vector rest ih =>
    cases hfirst : (vector.push daemon past).traced.outcome with
    | error other =>
      rw [pushAll_cons_of_error hfirst] at h
      obtain rfl := Except.error.inj h
      exact ⟨[], ⟨vector, vector.push daemon past⟩, rest, rfl, by simp only [attempts, hfirst]; rfl,
        nofun, hfirst⟩
    | ok report =>
      rw [pushAll_cons_of_ok hfirst] at h
      obtain ⟨before, stopped, after, hsplit, hattempts, hbefore, hstopped⟩ :=
        ih (map_eq_error_iff.mp h)
      refine ⟨⟨vector, vector.push daemon past⟩ :: before, stopped, after, ?_, ?_, ?_, hstopped⟩
      · rw [hsplit]
        rfl
      · simp only [attempts, hfirst, hattempts]
        rfl
      · exact List.forall_mem_cons.mpr ⟨⟨report, hfirst⟩, hbefore⟩

/-- Whatever a daemon replies, the log of a push of vectors tells what the daemon got. The vectors
are attempted in order, each where the attempts before it left off; the commands that the daemon got
are those of the attempts, and the entries of the log are those of the attempts. The entries of an
attempt tell its commands in order, and then that the vector is in effect if the attempt came to its
end, all inside the vector. If the push comes to its end, every vector was attempted, each attempt
gave its report, and the daemon got all commands. If it is stopped, one attempt was stopped, all
before it came to their ends, and there is none behind it; the last command that the daemon got, and
the log tells, is the one that stopped it. -/
theorem pushAll_tells_wire (daemon : Daemon) (past : List Command) (vectors : List TestVector) :
    let run := pushAll daemon vectors past
    ∃ attempts : List Attempt,
      run.sent = attempts.flatMap (fun attempt => attempt.exchange.sent) ∧
      run.traced.entries = attempts.flatMap (fun attempt => attempt.exchange.traced.entries) ∧
      (∀ attempt ∈ attempts, attempt.Tells) ∧
      (∀ earlier attempt later, attempts = earlier ++ attempt :: later →
        attempt.exchange = attempt.vector.push daemon
          (past ++ earlier.flatMap fun attempt => attempt.exchange.sent)) ∧
      match run.traced.outcome with
      | .ok reports => attempts.map Attempt.vector = vectors ∧
          List.Forall₂ (fun attempt report => attempt.exchange.traced.outcome = .ok report)
            attempts reports ∧
          run.sent = vectors.flatMap commands
      | .error fault =>
          (∃ before stopped after, vectors = before.map Attempt.vector ++ stopped.vector :: after ∧
            attempts = before ++ [stopped] ∧
            (∀ attempt ∈ before, ∃ report, attempt.exchange.traced.outcome = .ok report) ∧
            stopped.exchange.traced.outcome = .error fault) ∧
          ∃ given command, run.sent = given ++ [command] ∧
            daemon.Stops (past ++ given) command fault := by
  intro run
  obtain ⟨hsent, hentries⟩ := pushAll_eq_attempts daemon past vectors
  refine ⟨attempts daemon past vectors, hsent, hentries, fun attempt hattempt => ?_,
    fun _ _ _ => exchange_eq_of_attempts, ?_⟩
  · obtain ⟨earlier, later, hsplit⟩ := List.append_of_mem hattempt
    have htells := tells_push daemon attempt.vector
      (past ++ earlier.flatMap fun attempt => attempt.exchange.sent)
    rwa [← exchange_eq_of_attempts hsplit] at htells
  · cases hrun : run.traced.outcome with
    | ok reports =>
      obtain ⟨hvectors, houtcomes⟩ := attempts_of_ok hrun
      have hall := ((delivers_pushAll daemon vectors past).exists_ok_iff.mp ⟨reports, hrun⟩).1
      exact ⟨hvectors, houtcomes, hall⟩
    | error fault => exact ⟨attempts_of_error hrun, exists_stops_of_pushAll hrun⟩

example :
    let daemon : Daemon := fun past command =>
      if past.isEmpty then .ok (.ok "Done") else .error (.transport command.name)
    let run := pushAll daemon [⟨"a", "nominal", []⟩, ⟨"b", "burst", []⟩, ⟨"c", "burst", []⟩] []
    run.sent = [.apply, .apply] ∧
      run.traced.entries = [⟨.commandSent "applyConfigurations" [], ["a"]⟩,
        ⟨.vectorApplied "a" "nominal" 0, ["a"]⟩, ⟨.commandSent "applyConfigurations" [], ["b"]⟩] ∧
      run.traced.outcome = .error (.transport "applyConfigurations") := by
  decide +kernel

end TestVector

end Criteria
