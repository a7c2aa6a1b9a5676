import Criteria.Proofs.Protocol

/-!
# A daemon that is told what to refuse

A daemon may be told to refuse the commands of some names, each with an error text. For a name that
is told more than once, the first text counts. A refusal is a reply with an error, and an empty text
is no error, so a command is refused exactly if its name was told and the first text for it is not
empty. Otherwise it is accepted, with the reply `Done` if its name was never told, and with a reply
that says nothing if the text is empty.

What such a daemon replies does not depend on what it got before. So a push stops at the first
command of its stream that is refused, and if there is none it comes to its end.
-/

namespace Criteria

namespace Daemon

variable {refusals : List (String × String)} {past commands : List Command} {command : Command}
  {error : String}

/-- The error text that was told first for the commands of a name. -/
def FirstTold (refusals : List (String × String)) (name error : String) : Prop :=
  ∃ before after, refusals = before ++ (name, error) :: after ∧
    ∀ earlier ∈ before, earlier.1 ≠ name

/-- A command is to be refused with an error: this is the text told first for its name, and it says
something. -/
structure Refuses (refusals : List (String × String)) (command : Command) (error : String) :
    Prop where
  told : FirstTold refusals command.name error
  nonempty : error ≠ ""

/-- The text told first for a name is the one that is found under it. -/
theorem firstTold_iff_lookup {name : String} :
    FirstTold refusals name error ↔ refusals.lookup name = some error := by
  rw [List.lookup_eq_some_iff, FirstTold]
  simp only [bne_iff_ne, ne_comm]

/-- A name has a first text exactly if it was told. -/
theorem exists_firstTold_iff {name : String} :
    (∃ error, FirstTold refusals name error) ↔ name ∈ refusals.map Prod.fst := by
  simp only [firstTold_iff_lookup, ← Option.isSome_iff_exists, List.lookup_isSome_iff,
    beq_iff_eq, List.mem_map]
  exact exists_congr fun refusal => and_congr_right fun _ => eq_comm

/-- A command is to be refused exactly if its name was told, and not first with an empty text. -/
theorem exists_refuses_iff :
    (∃ error, Refuses refusals command error) ↔
      command.name ∈ refusals.map Prod.fst ∧ ¬FirstTold refusals command.name "" := by
  rw [← exists_firstTold_iff]
  constructor
  · rintro ⟨error, htold, hnonempty⟩
    refine ⟨⟨error, htold⟩, fun hempty => hnonempty ?_⟩
    rw [firstTold_iff_lookup] at htold hempty
    exact Option.some.inj (htold.symm.trans hempty)
  · rintro ⟨⟨error, htold⟩, hempty⟩
    exact ⟨error, htold, fun heq => hempty (heq ▸ htold)⟩

/-- The reply of a daemon that is told what to refuse. -/
def replyOf (refusals : List (String × String)) (command : Command) : Reply :=
  match refusals.lookup command.name with
  | some error => .failed error
  | none => .ok "Done"

/-- A daemon that is told what to refuse always replies, whatever it got before. -/
theorem refusing_eq (refusals : List (String × String)) (past : List Command)
    (command : Command) : refusing refusals past command = .ok (replyOf refusals command) := by
  rw [refusing, replyOf]
  cases refusals.lookup command.name <;> rfl

/-- The reply to a command has an error exactly if the command is to be refused with it. -/
theorem error_replyOf_iff :
    (replyOf refusals command).error = error ∧ error ≠ "" ↔ Refuses refusals command error := by
  rw [replyOf]
  constructor
  · rintro ⟨herror, hnonempty⟩
    cases hlookup : refusals.lookup command.name with
    | some first =>
      rw [hlookup] at herror
      exact ⟨firstTold_iff_lookup.mpr (hlookup.trans (congrArg some herror)), hnonempty⟩
    | none =>
      rw [hlookup] at herror
      exact absurd herror.symm hnonempty
  · rintro ⟨htold, hnonempty⟩
    rw [firstTold_iff_lookup.mp htold]
    exact ⟨rfl, hnonempty⟩

/-- A command that is not to be refused is accepted without a word if its name was told, and else
with `Done`. -/
theorem replyOf_of_not_refuses (h : ∀ error, ¬Refuses refusals command error) :
    replyOf refusals command =
      if command.name ∈ refusals.map Prod.fst then ⟨"", ""⟩ else ⟨"Done", ""⟩ := by
  rw [replyOf]
  cases hlookup : refusals.lookup command.name with
  | some error =>
    have htold := firstTold_iff_lookup.mpr hlookup
    obtain rfl : error = "" := Decidable.byContradiction fun hne => h error ⟨htold, hne⟩
    rw [if_pos (exists_firstTold_iff.mp ⟨_, htold⟩)]
    rfl
  | none =>
    have hnamed : command.name ∉ refusals.map Prod.fst := by
      intro hmem
      obtain ⟨error, htold⟩ := exists_firstTold_iff.mpr hmem
      rw [firstTold_iff_lookup, hlookup] at htold
      contradiction
    rw [if_neg hnamed]
    rfl

/-- A command stops a push exactly if it is to be refused, and the fault repeats it with the
error. -/
theorem stops_refusing_iff {fault : Fault} :
    (refusing refusals).Stops past command fault ↔
      ∃ error, Refuses refusals command error ∧ fault = command.refused error := by
  rw [stops_iff]
  constructor
  · rintro (hunreachable | ⟨reply, hreply, hnonempty, rfl⟩)
    · rw [refusing_eq] at hunreachable
      contradiction
    · rw [refusing_eq] at hreply
      obtain rfl := Except.ok.inj hreply
      exact ⟨_, error_replyOf_iff.mp ⟨rfl, hnonempty⟩, rfl⟩
  · rintro ⟨error, hrefuses, rfl⟩
    obtain ⟨herror, hnonempty⟩ := error_replyOf_iff.mpr hrefuses
    exact .inr ⟨_, refusing_eq refusals past command, herror ▸ hnonempty, herror ▸ rfl⟩

/-- A command is accepted exactly if it is not to be refused. -/
theorem accepts_refusing_iff (past : List Command) :
    (refusing refusals).accepts past command = true ↔ ∀ error, ¬Refuses refusals command error := by
  rw [accepts, refusing_eq]
  simp only [Reply.isError, Bool.not_not, String.isEmpty_iff]
  constructor
  · intro hempty error hrefuses
    obtain ⟨herror, hnonempty⟩ := error_replyOf_iff.mpr hrefuses
    exact hnonempty (herror.symm.trans hempty)
  · exact fun h => Decidable.byContradiction fun hnonempty =>
      h _ (error_replyOf_iff.mp ⟨rfl, hnonempty⟩)

/-- Of commands none of which is to be refused all are accepted, and of others not. -/
theorem accepted_refusing_iff :
    (refusing refusals).accepted past commands = commands ↔
      ∀ command ∈ commands, ∀ error, ¬Refuses refusals command error := by
  induction commands generalizing past with
  | nil => exact iff_of_true rfl nofun
  | cons command rest ih =>
    rw [accepted, List.forall_mem_cons, ← accepts_refusing_iff past]
    split
    · next haccepts =>
      rw [List.cons_inj_right, ih, and_iff_right haccepts]
    · next hrefused =>
      refine iff_of_false (fun hall => ?_) fun h => hrefused h.1
      have hlength := (accepted_sublist (refusing refusals) (past ++ [command]) rest).length_le
      rw [hall, List.length_cons] at hlength
      omega

/-- The replies to commands are those to each of them. -/
theorem replies_refusing (refusals : List (String × String)) (past commands : List Command) :
    (refusing refusals).replies past commands =
      (commands.map (replyOf refusals)).map .ok := by
  induction commands generalizing past with
  | nil => rfl
  | cons command rest ih => rw [replies, refusing_eq, ih, List.map_cons, List.map_cons]

end Daemon

open Daemon

variable {refusals : List (String × String)} {past : List Command} {vectors : List TestVector}

/-- The reports of a push have the reply to each command of the stream, in order. -/
theorem PushReport.TellAll.outputs_eq {reports : List PushReport}
    (h : PushReport.TellAll (refusing refusals) past vectors reports) :
    reports.flatMap PushReport.outputs =
      (vectors.flatMap TestVector.commands).map (replyOf refusals) := by
  induction h with
  | nil => rfl
  | cons first rest ih =>
    have hreplies := first.replies
    rw [replies_refusing, List.map_inj_right fun _ _ => Except.ok.inj] at hreplies
    rw [List.flatMap_cons, List.flatMap_cons, List.map_append, ih, hreplies]

namespace TestVector

/-- A push to a daemon that is told what to refuse stops at the first command to be refused, with
the fault that repeats the command and the error. -/
theorem pushAll_refusing_of_refuses {before after : List Command} {command : Command}
    {error : String} (hstream : vectors.flatMap commands = before ++ command :: after)
    (hbefore : ∀ earlier ∈ before, ∀ error, ¬Refuses refusals earlier error)
    (hrefuses : Refuses refusals command error) :
    (pushAll (.refusing refusals) vectors past).sent = before ++ [command] ∧
      (pushAll (.refusing refusals) vectors past).traced.outcome =
        .error (command.refused error) := by
  have hstops : (refusing refusals).Stops (past ++ before) command (command.refused error) :=
    stops_refusing_iff.mpr ⟨error, hrefuses, rfl⟩
  have hsent := (hstream ▸ delivers_pushAll (.refusing refusals) vectors past).sent_of_refused
    (accepted_refusing_iff.mpr hbefore) hstops.accepts_eq_false
  exact ⟨hsent, outcome_pushAll_eq_error_iff.mpr ⟨before, command, hsent, hstops⟩⟩

/-- If a push to a daemon that is told what to refuse is stopped, its stream has a command to be
refused. -/
theorem exists_refuses_of_pushAll {fault : Fault}
    (h : (pushAll (.refusing refusals) vectors past).traced.outcome = .error fault) :
    ∃ command ∈ vectors.flatMap commands, ∃ error, Refuses refusals command error ∧
      fault = command.refused error := by
  obtain ⟨before, command, hsent, hstops⟩ := exists_stops_of_pushAll h
  obtain ⟨error, hrefuses, hfault⟩ := stops_refusing_iff.mp hstops
  have hinitial := (delivers_pushAll (.refusing refusals) vectors past).sent_initial
  exact ⟨command, hinitial.subset (by simp [hsent]), error, hrefuses, hfault⟩

/-- If the stream of a push has no command to be refused, the push comes to its end, and the reports
have a reply to each command. -/
theorem pushAll_refusing_of_not_refuses
    (h : ∀ command ∈ vectors.flatMap commands, ∀ error, ¬Refuses refusals command error) :
    (pushAll (.refusing refusals) vectors past).sent = vectors.flatMap commands ∧
      ∃ reports, (pushAll (.refusing refusals) vectors past).traced.outcome = .ok reports ∧
        reports.flatMap PushReport.outputs = (vectors.flatMap commands).map fun command =>
          if command.name ∈ refusals.map Prod.fst then ⟨"", ""⟩ else ⟨"Done", ""⟩ := by
  cases hrun : (pushAll (.refusing refusals) vectors past).traced.outcome with
  | error fault =>
    obtain ⟨command, hmem, error, hrefuses, -⟩ := exists_refuses_of_pushAll hrun
    exact absurd hrefuses (h command hmem error)
  | ok reports =>
    have hends := delivers_pushAll (.refusing refusals) vectors past
    refine ⟨(hends.exists_ok_iff.mp ⟨reports, hrun⟩).1, reports, rfl, ?_⟩
    rw [(tellAll_of_pushAll hrun).outputs_eq]
    exact List.map_congr_left fun command hmem => replyOf_of_not_refuses (h command hmem)

/-- A push to a daemon that is told what to refuse fails with a fault of the transport exactly if
its stream has a command to be refused. -/
theorem outcome_pushAll_refusing_iff :
    (∃ message, (pushAll (.refusing refusals) vectors past).traced.outcome =
        .error (.transport message)) ↔
      ∃ command ∈ vectors.flatMap commands, ∃ error, Refuses refusals command error := by
  constructor
  · rintro ⟨message, hrun⟩
    obtain ⟨command, hmem, error, hrefuses, -⟩ := exists_refuses_of_pushAll hrun
    exact ⟨command, hmem, error, hrefuses⟩
  · rintro ⟨command, hmem, error, hrefuses⟩
    cases hrun : (pushAll (.refusing refusals) vectors past).traced.outcome with
    | error fault =>
      obtain ⟨other, -, error, -, rfl⟩ := exists_refuses_of_pushAll hrun
      exact ⟨_, rfl⟩
    | ok reports =>
      have hends := delivers_pushAll (.refusing refusals) vectors past
      have hall := (hends.exists_ok_iff.mp ⟨reports, hrun⟩).2
      exact absurd hrefuses (accepted_refusing_iff.mp hall command hmem error)

/-- A daemon that was told what to refuse, in any number of turns, refuses a command exactly if its
name was told, and not first with an empty text. A push of vectors to it fails, and then with a
fault of the transport, exactly if its stream has a command that is refused. The first such command
is the last one sent, and the fault repeats it with the text told first for its name. If there is
none, the whole stream is sent, and the reply to each command is `Done`, or says nothing if its name
was told. So as long as no command of the stream was first told with an empty text, the push fails
exactly if a command of the stream was told. -/
theorem pushAll_fails_as_told (refusals : List (String × String)) (past : List Command)
    (vectors : List TestVector) :
    let run := pushAll (.refusing refusals) vectors past
    let stream := vectors.flatMap fun vector =>
      (vector.criteria.map fun criterion =>
        Command.mk "setCriterionState" (criterion.name :: criterion.values)) ++
      [Command.mk "applyConfigurations" []]
    (∀ command : Command, (∃ error, Refuses refusals command error) ↔
      command.name ∈ refusals.map Prod.fst ∧ ¬FirstTold refusals command.name "") ∧
    ((∃ message, run.traced.outcome = .error (.transport message)) ↔
      ∃ command ∈ stream, ∃ error, Refuses refusals command error) ∧
    (∀ before command after error, stream = before ++ command :: after →
      (∀ earlier ∈ before, ∀ error, ¬Refuses refusals earlier error) →
      Refuses refusals command error →
      run.sent = before ++ [command] ∧ run.traced.outcome = .error (.transport
        (command.name ++ " " ++ " ".intercalate command.args ++ ": " ++ error))) ∧
    ((∀ command ∈ stream, ∀ error, ¬Refuses refusals command error) →
      run.sent = stream ∧ ∃ reports, run.traced.outcome = .ok reports ∧
        reports.flatMap PushReport.outputs = stream.map fun command =>
          if command.name ∈ refusals.map Prod.fst then ⟨"", ""⟩ else ⟨"Done", ""⟩) ∧
    ((∀ command ∈ stream, ¬FirstTold refusals command.name "") →
      ((∃ message, run.traced.outcome = .error (.transport message)) ↔
        ∃ command ∈ stream, command.name ∈ refusals.map Prod.fst)) := by
  intro run stream
  have hstream : stream = vectors.flatMap commands := by
    simp only [stream, ← commands_eq]
  have hfails : (∃ message, run.traced.outcome = .error (.transport message)) ↔
      ∃ command ∈ stream, ∃ error, Refuses refusals command error := by
    rw [hstream]
    exact outcome_pushAll_refusing_iff
  refine ⟨fun command => exists_refuses_iff, hfails, fun before command after error hsplit =>
    pushAll_refusing_of_refuses (hstream.symm.trans hsplit), ?_, fun hempty => ?_⟩
  · rw [hstream]
    exact pushAll_refusing_of_not_refuses
  · rw [hfails]
    refine exists_congr fun command => and_congr_right fun hmem => ?_
    rw [exists_refuses_iff, and_iff_left (hempty command hmem)]

/-- A push does not fail for a command that was told with an empty text. -/
theorem pushAll_ignores_empty_error :
    let refusals := [("applyConfigurations", "")]
    let mood : Definition := ⟨.exclusive, "Mood", ["mad", "sad"]⟩
    let vector : TestVector := ⟨"v", "nominal", [mood.fresh.reset]⟩
    let stream := [vector].flatMap commands
    let run := pushAll (.refusing refusals) [vector] []
    stream = [⟨"setCriterionState", ["Mood", "0"]⟩, ⟨"applyConfigurations", []⟩] ∧
      run.sent = stream ∧
      run.traced.outcome = .ok [⟨"v", 1, [⟨"Done", ""⟩, ⟨"", ""⟩]⟩] ∧
      ¬((∃ message, run.traced.outcome = .error (.transport message)) ↔
        ∃ command ∈ stream, command.name ∈ refusals.map Prod.fst) := by
  intro refusals mood vector stream run
  have hstream : stream = [⟨"setCriterionState", ["Mood", "0"]⟩, ⟨"applyConfigurations", []⟩] := by
    decide +kernel
  have houtcome : run.traced.outcome = .ok [⟨"v", 1, [⟨"Done", ""⟩, ⟨"", ""⟩]⟩] := rfl
  refine ⟨hstream, by decide +kernel, houtcome, fun hiff => ?_⟩
  obtain ⟨message, hmessage⟩ := hiff.mpr ⟨Command.apply, by rw [hstream]; decide, by decide⟩
  rw [houtcome] at hmessage
  contradiction

end TestVector

end Criteria
