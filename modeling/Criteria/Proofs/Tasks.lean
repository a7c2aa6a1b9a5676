import Criteria.CommandLine.Program
import Criteria.Proofs.Files
import Criteria.Proofs.Reports
import Criteria.Proofs.Suite

/-!
# Runs are all or nothing

A task ends well exactly when all that it reads is in order: its definition file and, if it has a
suite, the suite file and every case in it. Otherwise there is one report, on the first thing in
this order that stands in the way, and nothing was printed. The baseline is never refused, and the
commands of a plan go to a daemon that takes all of them, so that nothing can fail once there is
something to print.
-/

namespace Criteria.CommandLine

/-! ## What is printed before a failure -/

namespace Console

variable {α β : Type}

/-- A task has printed nothing when it fails. -/
def AllOrNothing (console : Console α) : Prop :=
  ∀ report, console.outcome = .error report → console.printed = ""

/-- A task that succeeds may print what it wants. -/
theorem allOrNothing_of_ok {console : Console α} {value : α} (h : console.outcome = .ok value) :
    console.AllOrNothing := by
  intro report hreport
  rw [h] at hreport
  contradiction

/-- Two tasks in a row have printed nothing when they fail, if the first never prints and the second
has not printed when it fails. -/
theorem AllOrNothing.bind {first : Console α} {next : α → Console β} (hfirst : first.printed = "")
    (hnext : ∀ value, (next value).AllOrNothing) : (first >>= next).AllOrNothing := by
  intro report hreport
  cases h : first.outcome with
  | error other => rw [bind_of_error h, hfirst]
  | ok value =>
    rw [bind_of_ok h] at hreport ⊢
    rw [hfirst, hnext value report hreport]
    rfl

/-- A task that goes on without a failure fails as it began. -/
theorem outcome_bind_of_forall_ok {first : Console α} {next : α → Console Unit}
    (h : ∀ value, (next value).outcome = .ok ()) :
    (first >>= next).outcome = first.outcome.map fun _ => () := by
  cases hfirst : first.outcome with
  | error report => rw [bind_of_error hfirst]; rfl
  | ok value => rw [bind_of_ok hfirst, h]; rfl

end Console

/-! ## Plans -/

/-- Planning a vector prints its header and its commands, and never fails. -/
theorem planVector_eq (vector : TestVector) :
    planVector vector =
      ⟨planHeader vector ++ commandLines vector.commands,
        (vector.push Daemon.silent []).traced.entries, .ok ()⟩ := by
  obtain ⟨⟨report, hreport⟩, hsent⟩ :=
    (vector.delivers_push Daemon.silent []).of_willing Daemon.willing_silent
  have hrun : (Console.run s!"Failed to plan vector {vector.name}"
      (vector.push Daemon.silent []).traced).outcome = .ok report :=
    Console.outcome_run_eq_ok_iff.mpr hreport
  rw [planVector, Console.bind_of_ok rfl, Console.bind_of_ok rfl, Console.bind_of_ok hrun]
  simp [Console.print, Console.run, pure, hsent]

/-- Planning vectors prints the header and the commands of each, and never fails. -/
theorem planVectors_eq (vectors : List TestVector) :
    planVectors vectors =
      ⟨String.join (vectors.map fun vector => planHeader vector ++ commandLines vector.commands),
        vectors.flatMap fun vector => (vector.push Daemon.silent []).traced.entries, .ok ()⟩ := by
  induction vectors with
  | nil => rfl
  | cons vector rest ih =>
    have hfirst : (planVector vector).outcome = .ok () := by rw [planVector_eq]
    rw [planVectors, Console.bind_of_ok hfirst, ih, planVector_eq, List.map_cons, String.join_cons,
      List.flatMap_cons]

/-! ## Loading -/

section Loading

variable {files : Files} {criteria suite : String} {registry : Registry}
  {vectors : List TestVector} {report : Report}

/-- The registry in the definition file is loaded. -/
theorem outcome_loadRegistry_eq_ok_iff :
    (loadRegistry files criteria).outcome = .ok registry ↔ registry.InFile (files criteria) := by
  rw [loadRegistry, Console.outcome_run_eq_ok_iff, Registry.outcome_ofFile_eq_ok_iff]

/-- A definition file without a registry is reported. -/
theorem outcome_loadRegistry_eq_error_iff :
    (loadRegistry files criteria).outcome = .error report ↔
      ∃ fault, Registry.Unloadable (files criteria) fault ∧
        report = ⟨"Failed to load criteria from " ++ criteria, fault⟩ := by
  rw [loadRegistry, Console.outcome_run_eq_error_iff]
  simp only [Registry.outcome_ofFile_eq_error_iff]
  rfl

/-- The vectors loaded are those that the suite in its file gives with the registry in its own. -/
theorem outcome_loadVectors_eq_ok_iff :
    (loadVectors files criteria suite).outcome = .ok vectors ↔
      ∃ registry : Registry, registry.InFile (files criteria) ∧
        ∃ cases : TestSuite, cases.InFile (files suite) ∧
          (cases.generateAll registry).outcome = .ok vectors := by
  simp only [loadVectors, Console.outcome_bind_eq_ok_iff, outcome_loadRegistry_eq_ok_iff,
    Console.outcome_run_eq_ok_iff, Traced.ofExcept, TestSuite.ofFile_eq_ok_iff]

/-- When no vectors are loaded, a definition file without a registry is reported first, then a suite
file without a suite, and then a suite that fails. -/
theorem outcome_loadVectors_eq_error_iff :
    (loadVectors files criteria suite).outcome = .error report ↔
      (∃ fault, Registry.Unloadable (files criteria) fault ∧
        report = ⟨"Failed to load criteria from " ++ criteria, fault⟩) ∨
      ∃ registry : Registry, registry.InFile (files criteria) ∧
        ((∃ fault, TestSuite.Unloadable (files suite) fault ∧
          report = ⟨"Failed to load suite from " ++ suite, fault⟩) ∨
        ∃ cases : TestSuite, cases.InFile (files suite) ∧
          ∃ fault, (cases.generateAll registry).outcome = .error fault ∧
            report = ⟨"Failed to generate test vectors", fault⟩) := by
  simp only [loadVectors, Console.outcome_bind_eq_error_iff, outcome_loadRegistry_eq_ok_iff,
    outcome_loadRegistry_eq_error_iff, Console.outcome_run_eq_ok_iff,
    Console.outcome_run_eq_error_iff, Traced.ofExcept, TestSuite.ofFile_eq_ok_iff,
    TestSuite.ofFile_eq_error_iff]
  rfl

/-- Loading prints nothing. -/
theorem printed_loadVectors : (loadVectors files criteria suite).printed = "" :=
  Console.printed_bind rfl fun _ => Console.printed_bind rfl fun _ => rfl

end Loading

/-! ## Tasks -/

/-- The definition file of a task. -/
def Task.definitionFile : Task → String
  | .list criteria | .baseline criteria _ _ | .generate criteria _ _ | .plan criteria _ => criteria

/-- The suite file of a task, if it has one. -/
def Task.suiteFile? : Task → Option String
  | .list _ | .baseline _ _ _ => none
  | .generate _ suite _ | .plan _ suite => some suite

/-- All that a task reads is in order: there is a registry in its definition file and, if it has a
suite file, a suite in that of which every case is generated from the registry. -/
def Task.Feasible (files : Files) (task : Task) : Prop :=
  ∃ registry : Registry, registry.InFile (files task.definitionFile) ∧
    ∀ name ∈ task.suiteFile?, ∃ suite : TestSuite, suite.InFile (files name) ∧
      ∀ testCase ∈ suite.cases, ∃ vector, (testCase.generate registry).outcome = .ok vector

/-- Why a task fails. There is no registry in the definition file; or there is one, but no suite in
the suite file; or there are both, but the registry refuses what a case asks of it, behind some
cases that are generated. -/
inductive Task.Fails (files : Files) (task : Task) : Report → Prop where
  | criteria {fault : Fault} (h : Registry.Unloadable (files task.definitionFile) fault) :
    Fails files task ⟨"Failed to load criteria from " ++ task.definitionFile, fault⟩
  | suite {registry : Registry} {name : String} {fault : Fault}
    (hregistry : registry.InFile (files task.definitionFile)) (hname : task.suiteFile? = some name)
    (h : TestSuite.Unloadable (files name) fault) :
    Fails files task ⟨"Failed to load suite from " ++ name, fault⟩
  | generation {registry : Registry} {name : String} {suite : TestSuite}
    {before after : List TestCase} {testCase : TestCase} {source : Fault}
    (hregistry : registry.InFile (files task.definitionFile)) (hname : task.suiteFile? = some name)
    (hsuite : suite.InFile (files name)) (split : suite.cases = before ++ testCase :: after)
    (generated : ∀ earlier ∈ before, ∃ vector, (earlier.generate registry).outcome = .ok vector)
    (refused : registry.Refuses testCase.criteria source) :
    Fails files task ⟨"Failed to generate test vectors", .testCase testCase.name source⟩

namespace Task

variable {files : Files} {task : Task} {report : Report}

/-- A task without a suite fails for its definition file only. -/
theorem fails_iff_of_none (h : task.suiteFile? = none) :
    task.Fails files report ↔ (loadRegistry files task.definitionFile).outcome = .error report := by
  rw [outcome_loadRegistry_eq_error_iff]
  constructor
  · intro hfails
    cases hfails with
    | criteria hfault => exact ⟨_, hfault, rfl⟩
    | suite _ hname | generation _ hname =>
      rw [h] at hname
      contradiction
  · rintro ⟨fault, hfault, rfl⟩
    exact .criteria hfault

/-- A task with a suite fails when no vectors are loaded. -/
theorem fails_iff_of_some {name : String} (h : task.suiteFile? = some name) :
    task.Fails files report ↔
      (loadVectors files task.definitionFile name).outcome = .error report := by
  rw [outcome_loadVectors_eq_error_iff]
  constructor
  · intro hfails
    cases hfails with
    | criteria hfault => exact .inl ⟨_, hfault, rfl⟩
    | suite hregistry hname hfault =>
      obtain rfl := Option.some.inj (hname.symm.trans h)
      exact .inr ⟨_, hregistry, .inl ⟨_, hfault, rfl⟩⟩
    | generation hregistry hname hsuite split generated refused =>
      obtain rfl := Option.some.inj (hname.symm.trans h)
      have hfault := TestSuite.outcome_generateAll_eq_error_iff.mpr
        ⟨_, _, _, _, split, generated, refused, rfl⟩
      exact .inr ⟨_, hregistry, .inr ⟨_, hsuite, _, hfault, rfl⟩⟩
  · rintro (⟨fault, hfault, rfl⟩ | ⟨registry, hregistry, ⟨fault, hfault, rfl⟩ |
      ⟨cases, hcases, fault, hfault, rfl⟩⟩)
    · exact .criteria hfault
    · exact .suite hregistry h hfault
    · obtain ⟨before, testCase, after, source, hsplit, hgenerated, hrefused, rfl⟩ :=
        TestSuite.outcome_generateAll_eq_error_iff.mp hfault
      exact .generation hregistry h hcases hsplit hgenerated hrefused

/-- A task without a suite has all it needs when its registry is loaded. -/
theorem feasible_iff_of_none (h : task.suiteFile? = none) :
    task.Feasible files ↔
      ∃ registry, (loadRegistry files task.definitionFile).outcome = .ok registry := by
  simp [Feasible, h, outcome_loadRegistry_eq_ok_iff]

/-- A task with a suite has all it needs when its vectors are loaded. -/
theorem feasible_iff_of_some {name : String} (h : task.suiteFile? = some name) :
    task.Feasible files ↔
      ∃ vectors, (loadVectors files task.definitionFile name).outcome = .ok vectors := by
  simp only [Feasible, h, Option.mem_some_iff, forall_eq', outcome_loadVectors_eq_ok_iff]
  constructor
  · rintro ⟨registry, hregistry, suite, hsuite, hcases⟩
    obtain ⟨vectors, hvectors⟩ := Traced.exists_outcome_mapM_iff.mpr hcases
    exact ⟨vectors, registry, hregistry, suite, hsuite, hvectors⟩
  · rintro ⟨vectors, registry, hregistry, suite, hsuite, hvectors⟩
    have hcases := Traced.exists_outcome_mapM_iff.mp ⟨vectors, hvectors⟩
    exact ⟨registry, hregistry, suite, hsuite, hcases⟩

/-- Nothing can fail in a task without a suite once its registry is loaded. -/
theorem outcome_run_of_none (h : task.suiteFile? = none) :
    (task.run files).outcome =
      (loadRegistry files task.definitionFile).outcome.map fun _ => () := by
  cases task with
  | list criteria => exact Console.outcome_bind_of_forall_ok fun registry => rfl
  | baseline criteria name json =>
    refine Console.outcome_bind_of_forall_ok fun registry => ?_
    obtain ⟨vector, hvector⟩ := registry.exists_baseline name
    rw [Console.bind_of_ok (Console.outcome_run_eq_ok_iff.mpr hvector)]
    rfl
  | generate | plan => contradiction

/-- Nothing can fail in a task with a suite once its vectors are loaded. -/
theorem outcome_run_of_some {name : String} (h : task.suiteFile? = some name) :
    (task.run files).outcome =
      (loadVectors files task.definitionFile name).outcome.map fun _ => () := by
  cases task with
  | list | baseline => contradiction
  | generate criteria suite json =>
    obtain rfl := Option.some.inj h
    exact Console.outcome_bind_of_forall_ok fun vectors => rfl
  | plan criteria suite =>
    obtain rfl := Option.some.inj h
    exact Console.outcome_bind_of_forall_ok fun vectors => by rw [planVectors_eq]

/-- A task ends with a report exactly when it fails for what is reported. -/
theorem outcome_run_eq_error_iff :
    (task.run files).outcome = .error report ↔ task.Fails files report := by
  cases h : task.suiteFile? with
  | none =>
    rw [fails_iff_of_none h, outcome_run_of_none h]
    cases (loadRegistry files task.definitionFile).outcome <;> simp [Except.map]
  | some name =>
    rw [fails_iff_of_some h, outcome_run_of_some h]
    cases (loadVectors files task.definitionFile name).outcome <;> simp [Except.map]

/-- A task ends well exactly when it has all it needs. -/
theorem outcome_run_eq_ok_iff : (task.run files).outcome = .ok () ↔ task.Feasible files := by
  cases h : task.suiteFile? with
  | none =>
    rw [feasible_iff_of_none h, outcome_run_of_none h]
    cases (loadRegistry files task.definitionFile).outcome <;> simp [Except.map]
  | some name =>
    rw [feasible_iff_of_some h, outcome_run_of_some h]
    cases (loadVectors files task.definitionFile name).outcome <;> simp [Except.map]

/-- No task has printed anything when it fails. -/
theorem allOrNothing_run (files : Files) (task : Task) : (task.run files).AllOrNothing := by
  cases task with
  | list criteria => exact .bind rfl fun registry => Console.allOrNothing_of_ok rfl
  | baseline criteria name json =>
    exact .bind rfl fun registry => .bind rfl fun vector => Console.allOrNothing_of_ok rfl
  | generate criteria suite json =>
    exact .bind printed_loadVectors fun vectors => Console.allOrNothing_of_ok rfl
  | plan criteria suite =>
    exact .bind printed_loadVectors fun vectors =>
      Console.allOrNothing_of_ok (by rw [planVectors_eq])

end Task

/-! ## Calls -/

section Calls

variable {files : Files} {environment : Environment} {invocation : Invocation} {report : Report}

/-- A call whose task ends well is answered with zero and with what the task printed. -/
theorem Invocation.answer_of_ok (environment : Environment)
    (h : (invocation.task.run files).outcome = .ok ()) :
    (invocation.answer environment files).code = 0 ∧
      (invocation.answer environment files).stdout = (invocation.task.run files).printed := by
  simp [answer, h]

/-- A call whose task fails is answered with one and the report, and without a text. -/
theorem Invocation.answer_of_error (environment : Environment)
    (h : (invocation.task.run files).outcome = .error report) :
    (invocation.answer environment files).code = 1 ∧
      (invocation.answer environment files).stdout = "" ∧
      (invocation.answer environment files).report = report.render := by
  simp [answer, h, invocation.task.allOrNothing_run files report h]

/-- A call is answered with zero exactly when its task has all it needs. -/
theorem Invocation.code_eq_zero_iff :
    (invocation.answer environment files).code = 0 ↔ invocation.task.Feasible files := by
  rw [← Task.outcome_run_eq_ok_iff]
  cases h : (invocation.task.run files).outcome with
  | ok value => exact iff_of_true (answer_of_ok environment h).1 rfl
  | error report =>
    obtain ⟨hcode, -⟩ := answer_of_error environment h
    refine iff_of_false (fun hzero => ?_) nofun
    rw [hzero] at hcode
    contradiction

/-- The task of a call that is not answered with zero ends with a report. -/
theorem Invocation.exists_report_of_code_ne_zero
    (h : (invocation.answer environment files).code ≠ 0) :
    ∃ report, (invocation.task.run files).outcome = .error report := by
  cases hrun : (invocation.task.run files).outcome with
  | ok value => exact absurd (answer_of_ok environment hrun).1 h
  | error report => exact ⟨report, rfl⟩

end Calls

/-- A call that is not answered with zero has printed nothing. If its arguments make a task, it is
answered with zero exactly when the task has all it needs, and otherwise there is exactly one reason
why the task fails. The task ends with that reason then, the answer is one, and what is printed as
the report is the one text that says what the task was doing and what the fault and its causes
are. -/
theorem respond_all_or_nothing (environment : Environment) (files : Files)
    (arguments : List String) :
    let answer := respond environment files arguments
    (answer.code ≠ 0 → answer.stdout = "") ∧
    ∀ invocation, Invocation.ofArguments environment arguments = .ok invocation →
      (answer.code = 0 ↔ invocation.task.Feasible files) ∧
      (answer.code ≠ 0 → ∃! report, invocation.task.Fails files report) ∧
      ∀ report, invocation.task.Fails files report →
        (invocation.task.run files).outcome = .error report ∧ answer.code = 1 ∧
          ∀ text, answer.report = text ↔ report.Reads text := by
  intro answer
  cases harguments : Invocation.ofArguments environment arguments with
  | error halt =>
    refine ⟨?_, nofun⟩
    cases halt <;> simp [answer, respond, harguments]
  | ok invocation =>
    have hanswer : answer = invocation.answer environment files := by
      simp only [answer, respond, harguments]
    rw [hanswer]
    constructor
    · intro hcode
      obtain ⟨report, hrun⟩ := Invocation.exists_report_of_code_ne_zero hcode
      exact (Invocation.answer_of_error environment hrun).2.1
    · rintro _ ⟨⟩
      refine ⟨Invocation.code_eq_zero_iff, fun hcode => ?_, fun report hfails => ?_⟩
      · obtain ⟨report, hrun⟩ := Invocation.exists_report_of_code_ne_zero hcode
        refine ⟨report, Task.outcome_run_eq_error_iff.mp hrun, fun other hother => ?_⟩
        have hother := Task.outcome_run_eq_error_iff.mpr hother
        exact Except.error.inj (hother.symm.trans hrun)
      · have hrun := Task.outcome_run_eq_error_iff.mpr hfails
        obtain ⟨hcode, -, hreport⟩ := Invocation.answer_of_error environment hrun
        refine ⟨hrun, hcode, fun text => ?_⟩
        rw [hreport, Report.reads_iff, eq_comm]

/-- A malformed definition file is reported before a bad suite file, and that before a case that
asks for a value that is not allowed. -/
theorem respond_reports_in_order :
    let files (definitions suite : String) : Files := fun path =>
      if path = "c.txt" then .ofText definitions else .ofText suite
    let answer (definitions suite : String) : Answer :=
      respond (fun _ => none) (files definitions suite)
        ["plan", "--criteria", "c.txt", "--suite", "s.json"]
    let asking :=
      "\x7b\"cases\":[\x7b\"name\":\"k\",\"criteria\":\x7b\"Mood\":\"glad\"\x7d\x7d]\x7d"
    ((answer "Exclusive Mood mad\n" "\x7b").stdout = "" ∧
      (answer "Exclusive Mood mad\n" "\x7b").code = 1 ∧
      (answer "Exclusive Mood mad\n" "\x7b").report =
        "Error: Failed to load criteria from c.txt\n\nCaused by:\n" ++
        "    malformed criterion definition at line 1: missing ':' separator " ++
          "(\"Exclusive Mood mad\")\n") ∧
    (answer "Exclusive Mood: mad\n" "\x7b").report =
      "Error: Failed to load suite from s.json\n\nCaused by:\n" ++
      "    0: serialization error: EOF while parsing an object at line 1 column 1\n" ++
      "    1: EOF while parsing an object at line 1 column 1\n" ∧
    (answer "Exclusive Mood: mad\n" asking).report =
      "Error: Failed to generate test vectors\n\nCaused by:\n" ++
      "    0: test case k: invalid value \"glad\" for criterion Mood\n" ++
      "    1: invalid value \"glad\" for criterion Mood\n" := by
  intro files answer asking
  have hread (definitions suite : String) (report : Report) {text : String}
      (hrun : ((Task.plan "c.txt" "s.json").run (files definitions suite)).outcome = .error report)
      (hreads : report.Reads text) :
      (answer definitions suite).stdout = "" ∧ (answer definitions suite).code = 1 ∧
        (answer definitions suite).report = text := by
    obtain ⟨hempty, htask⟩ := respond_all_or_nothing (fun _ => none) (files definitions suite)
      ["plan", "--criteria", "c.txt", "--suite", "s.json"]
    obtain ⟨-, -, hfails⟩ := htask ⟨.plan "c.txt" "s.json", false, false⟩ rfl
    obtain ⟨-, hcode, hreport⟩ := hfails report (Task.outcome_run_eq_error_iff.mp hrun)
    exact ⟨hempty (by simp [hcode]), hcode, (hreport text).mpr hreads⟩
  have hmalformed := hread "Exclusive Mood mad\n" "\x7b"
    ⟨"Failed to load criteria from c.txt",
      .malformed 1 "Exclusive Mood mad" "missing ':' separator"⟩
    (by decide +kernel) (.one (.malformed _ _ _))
  have hsuite := hread "Exclusive Mood: mad\n" "\x7b"
    ⟨"Failed to load suite from s.json", .serialization ⟨.endInRecord, ⟨1, 1⟩⟩⟩
    (by decide +kernel) (.several (.serialization rfl) (by decide))
  have hcase := hread "Exclusive Mood: mad\n" asking
    ⟨"Failed to generate test vectors", .testCase "k" (.invalidValue "Mood" "glad")⟩
    (by decide +kernel) (.several (.testCase "k" (.invalidValue _ _)) (by decide))
  refine ⟨⟨hmalformed.1, hmalformed.2.1, ?_⟩, ?_, ?_⟩
  · exact hmalformed.2.2.trans (by decide +kernel)
  · exact hsuite.2.2.trans (by decide +kernel)
  · exact hcase.2.2.trans (by decide +kernel)

end Criteria.CommandLine
