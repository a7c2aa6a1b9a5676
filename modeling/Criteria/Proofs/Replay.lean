import Criteria.EffectiveState
import Criteria.Proofs.Delivery

/-!
# The effective state is what the daemon was told

There are two ways to the values that a daemon holds after some vectors were pushed. One folds the
vectors into the effective state, without a daemon. The other takes the commands that the daemon
accepted and does what they say to a table of values by name, without the vectors. The two agree
after each vector, and they agree at whatever command the push was stopped: then the vectors before
the one that was interrupted count in full, and of that vector as many criteria as the daemon
accepted.
-/

namespace Criteria

/-- The first criteria of a vector. -/
def TestVector.take (vector : TestVector) (count : Nat) : TestVector :=
  { vector with criteria := vector.criteria.take count }

namespace Replay

variable {held : Std.ExtTreeMap String (List String)}

/-- Do what a command says to the values held by name: a command that sets a criterion gives its
first argument the others as values, and any other command changes nothing. -/
def obey (held : Std.ExtTreeMap String (List String)) (command : Command) :
    Std.ExtTreeMap String (List String) :=
  if command.name = "setCriterionState" then
    match command.args with
    | name :: values => held.insert name values
    | [] => held
  else held

/-- Do what some commands say, in order. -/
def obeyAll (held : Std.ExtTreeMap String (List String)) (commands : List Command) :
    Std.ExtTreeMap String (List String) :=
  commands.foldl obey held

/-- Commands in two lists are obeyed one list after the other. -/
theorem obeyAll_append (first second : List Command) :
    obeyAll held (first ++ second) = obeyAll (obeyAll held first) second :=
  List.foldl_append

/-- The command that gives a criterion its values does so. -/
theorem obey_set (assignment : Assignment) :
    obey held (Command.set assignment) = held.insert assignment.name assignment.values := by
  simp [obey, Command.set, Command.setName]

/-- The command that puts values into effect gives none. -/
theorem obey_apply : obey held Command.apply = held := by
  have hname : Command.apply.name ≠ "setCriterionState" := by decide
  rw [obey, if_neg hname]

/-- Obeying the set commands of a vector leaves the values of the state after the vector. -/
theorem obeyAll_sets (state : EffectiveState) (vector : TestVector) :
    obeyAll state.values (vector.assignments.map Command.set) = (state.apply vector).values := by
  obtain ⟨vectorName, testType, criteria⟩ := vector
  rw [EffectiveState.apply, TestVector.assignments]
  induction criteria generalizing state with
  | nil => rfl
  | cons criterion rest ih =>
    rw [List.foldl_cons, ← ih, List.map_cons, List.map_cons, obeyAll, List.foldl_cons, obey_set]
    rfl

/-- Obeying all commands of a vector leaves the values of the state after the vector. -/
theorem obeyAll_commands (state : EffectiveState) (vector : TestVector) :
    obeyAll state.values vector.commands = (state.apply vector).values := by
  rw [TestVector.commands, obeyAll_append, obeyAll_sets]
  exact obey_apply

/-- Obeying all commands of some vectors leaves the values of the state after the vectors. -/
theorem obeyAll_flatMap_commands (state : EffectiveState) (vectors : List TestVector) :
    obeyAll state.values (vectors.flatMap TestVector.commands) =
      (state.applyAll vectors).values := by
  induction vectors generalizing state with
  | nil => rfl
  | cons vector rest ih => rw [List.flatMap_cons, obeyAll_append, obeyAll_commands, ih]; rfl

/-- The states on the way through some vectors hold the values that are left by obeying the commands
of the first, of the first two and so on. -/
theorem obeyAll_history (state : EffectiveState) (vectors : List TestVector) :
    (state.history vectors).map EffectiveState.values =
      (List.range vectors.length).map fun position =>
        obeyAll state.values ((vectors.take (position + 1)).flatMap TestVector.commands) := by
  induction vectors generalizing state with
  | nil => rfl
  | cons vector rest ih =>
    rw [EffectiveState.history, List.map_cons, ih, List.length_cons, List.range_succ_eq_map,
      List.map_cons, List.map_map]
    simp [Function.comp_def, obeyAll_append, obeyAll_commands]

end Replay

namespace TestVector

/-- The commands before one of the commands of a vector set its first criteria. -/
theorem eq_sets_of_commands_eq {vector : TestVector} {before after : List Command}
    {command : Command} (h : vector.commands = before ++ command :: after) :
    before.length ≤ vector.criteria.length ∧
      before = (vector.take before.length).assignments.map Command.set := by
  have hlength := congrArg List.length h
  simp only [commands, assignments, List.length_append, List.length_map, List.length_cons,
    List.length_nil] at hlength
  have hle : before.length ≤ vector.criteria.length := by omega
  refine ⟨hle, ?_⟩
  have htake := congrArg (List.take before.length) h
  rw [commands, List.take_append_of_le_length (by simpa [assignments] using hle),
    List.take_left] at htake
  rw [← htake]
  simp [take, assignments]

/-- Of a push of a vector that is stopped, the daemon accepted the set commands of the first
criteria, and no other command. -/
theorem accepted_of_push_error {daemon : Daemon} {past : List Command} {vector : TestVector}
    {fault : Fault} (h : (vector.push daemon past).traced.outcome = .error fault) :
    ∃ count ≤ vector.criteria.length,
      daemon.accepted past (vector.push daemon past).sent =
        (vector.take count).assignments.map Command.set := by
  cases vector.delivers_push daemon past with
  | completed report outcome => rw [h] at outcome; contradiction
  | stopped fault before command after outcome split sent accepted refused =>
    obtain ⟨hle, hsets⟩ := eq_sets_of_commands_eq split
    refine ⟨before.length, hle, ?_⟩
    rw [sent, Daemon.accepted_append_refused accepted refused]
    exact hsets

/-- A push of vectors that comes to its end had all its commands accepted. -/
theorem accepted_of_pushAll_ok {daemon : Daemon} {past : List Command} {vectors : List TestVector}
    {reports : List PushReport} (h : (pushAll daemon vectors past).traced.outcome = .ok reports) :
    daemon.accepted past (pushAll daemon vectors past).sent =
      vectors.flatMap TestVector.commands := by
  cases delivers_pushAll daemon vectors past with
  | completed reports outcome sent accepted => rw [sent, accepted]
  | stopped fault before command after outcome => rw [h] at outcome; contradiction

/-- The commands that set a vector's criteria are set commands, one for each criterion. -/
theorem countP_sets (vector : TestVector) :
    (vector.assignments.map Command.set).countP
        (fun command => command.name = "setCriterionState") = vector.criteria.length := by
  rw [List.countP_map, List.countP_eq_length.mpr fun _ _ => by simp [Command.set, Command.setName],
    assignments, List.length_map]

end TestVector

open TestVector in
/-- Replaying the accepted set commands of a push on nothing leaves the values of the effective
state of the vectors, if the push came to its end. If it was stopped, it was stopped inside one
vector, behind those that could be pushed in full, and the replay leaves the values of the effective
state of the vectors before that one, with its first criteria on top: as many as the daemon accepted
set commands of it. -/
theorem obeyAll_accepted_pushAll (daemon : Daemon) (past : List Command)
    (vectors : List TestVector) :
    let run := pushAll daemon vectors past
    let told := Replay.obeyAll ∅ (daemon.accepted past run.sent)
    match run.traced.outcome with
    | .ok _ => told = (EffectiveState.empty.applyAll vectors).values
    | .error fault =>
      ∃ before vector after, vectors = before ++ vector :: after ∧
        let done := pushAll daemon before past
        let interrupted := vector.push daemon (past ++ done.sent)
        let count := (daemon.accepted (past ++ done.sent) interrupted.sent).countP
          fun command => command.name = "setCriterionState"
        (∃ reports, done.traced.outcome = .ok reports) ∧
          interrupted.traced.outcome = .error fault ∧
          count ≤ vector.criteria.length ∧
          told = ((EffectiveState.empty.applyAll before).apply (vector.take count)).values := by
  intro run told
  cases hrun : run.traced.outcome with
  | ok reports =>
    change told = _
    rw [← Replay.obeyAll_flatMap_commands, ← accepted_of_pushAll_ok hrun]
    rfl
  | error fault =>
    obtain ⟨before, vector, after, hsplit, ⟨reports, hdone⟩, hstopped, hsent⟩ :=
      exists_stopped_of_pushAll hrun
    obtain ⟨count, hle, haccepted⟩ := accepted_of_push_error hstopped
    have hcount : (vector.take count).criteria.length = count := by
      rw [TestVector.take, List.length_take, Nat.min_eq_left hle]
    refine ⟨before, vector, after, hsplit, ⟨reports, hdone⟩, hstopped, ?_⟩
    rw [haccepted, countP_sets, hcount]
    refine ⟨hle, ?_⟩
    have htold : told = Replay.obeyAll
        (Replay.obeyAll ∅ (daemon.accepted past (pushAll daemon before past).sent))
          ((vector.take count).assignments.map Command.set) := by
      rw [← haccepted, ← Replay.obeyAll_append, ← daemon.accepted_append, ← hsent]
    have hbefore : Replay.obeyAll ∅ (before.flatMap TestVector.commands) =
        (EffectiveState.empty.applyAll before).values :=
      Replay.obeyAll_flatMap_commands .empty before
    rw [htold, accepted_of_pushAll_ok hdone, hbefore, Replay.obeyAll_sets]

end Criteria
