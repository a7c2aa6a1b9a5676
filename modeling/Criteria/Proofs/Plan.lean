import Criteria.Proofs.Rendering
import Criteria.Proofs.Tasks

/-!
# A plan is what a push sends

A plan is printed by pushing the vectors one by one to a daemon that takes everything, with the
commands as lines behind the header of each vector. A push of all the vectors together sends the
same commands in the same order, whichever daemon takes them. Arguments are not quoted in a line,
but the names and values of a definition file hold no white space, so the command can be read back
from its line.
-/

namespace Criteria

open Text

/-! ## Commands as lines -/

namespace Command

/-- The name of a command and its arguments. -/
def words (command : Command) : List (List Char) :=
  command.name.toList :: command.args.map String.toList

/-- The name of a command and its arguments are words. -/
def Plain (command : Command) : Prop := ∀ word ∈ command.words, IsWord word

/-- The line of a command is its words with spaces between them. -/
theorem toList_line (command : Command) :
    command.line.toList = [' '].intercalate command.words := by
  obtain ⟨name, args⟩ := command
  cases args with
  | nil => simp [line, words]
  | cons first rest =>
    rw [words, List.intercalate_cons_of_ne_nil (mt List.map_eq_nil_iff.mp (List.cons_ne_nil _ _))]
    simp [line, String.toList_intercalate]

/-- The line of a plain command, cut at the spaces, is the name of the command and its arguments. -/
theorem Plain.splitOn_line {command : Command} (h : command.Plain) :
    (command.line.toList.splitOn ' ').map String.ofList = command.name :: command.args := by
  rw [toList_line, splitOn_intercalate_words h (List.cons_ne_nil _ _), words, List.map_cons,
    List.map_map, String.ofList_toList]
  exact congrArg _ (List.map_id'' (fun arg => String.ofList_toList) command.args)

/-- The line of a plain command is one line. -/
theorem Plain.feed_not_mem {command : Command} (h : command.Plain) :
    '\n' ∉ command.line.toList := by
  rw [toList_line]
  exact feed_not_mem_intercalate h

/-- The command that gives a plain criterion its values is plain. -/
theorem plain_set {criterion : Criterion} (h : criterion.Plain) :
    (set criterion.assignment).Plain := by
  have hname : IsWord setName.toList := by decide +kernel
  refine List.forall_mem_cons.mpr ⟨hname, List.forall_mem_map.mpr ?_⟩
  exact List.forall_mem_cons.mpr ⟨h.name, h.value⟩

/-- The command that puts values into effect is plain. -/
theorem plain_apply : apply.Plain :=
  List.forall_mem_singleton.mpr (by decide +kernel)

end Command

/-- The commands of a vector drawn from the registry of a text are plain. -/
theorem TestVector.DrawnFrom.plain_commands {vector : TestVector} {registry : Registry}
    {text : String} (h : vector.DrawnFrom registry)
    (hregistry : (Registry.ofText text).outcome = .ok registry) :
    ∀ command ∈ vector.commands, command.Plain := by
  rw [commands, assignments, List.map_map]
  refine List.forall_mem_append.mpr ⟨List.forall_mem_map.mpr fun criterion hcriterion => ?_, ?_⟩
  · exact Command.plain_set (h.plain hregistry hcriterion)
  · exact List.forall_mem_singleton.mpr Command.plain_apply

namespace CommandLine

/-- When the vectors are loaded, the plan ends well and prints for each vector, in order, its header
and a line for each command: one for each criterion of the vector, with its name and the values it
shows, and then one without arguments. These are the commands that a push of the vectors sends, all
of them and in this order, to a daemon that refuses nothing and to any other that stops nothing, and
those for one vector are the ones that its own push sends, whatever was sent before. No line holds a
line feed and, cut at the spaces, each gives back the command with its arguments. -/
theorem plan_prints_push {files : Files} {criteria suite : String} {vectors : List TestVector}
    (h : (loadVectors files criteria suite).outcome = .ok vectors) :
    let stream := fun vector : TestVector =>
      (vector.criteria.map fun criterion =>
        Command.mk "setCriterionState" (criterion.name :: criterion.values)) ++
        [Command.mk "applyConfigurations" []]
    let recorded := TestVector.pushAll (Daemon.refusing []) vectors []
    (∀ environment (invocation : Invocation), invocation.task = .plan criteria suite →
      let answer := invocation.answer environment files
      answer.code = 0 ∧
        answer.stdout = String.join (vectors.map fun vector =>
          "# " ++ vector.name ++ " (" ++ vector.testType ++ ")\n" ++
            String.join ((stream vector).map fun command => command.line ++ "\n"))) ∧
    ((∃ reports, recorded.traced.outcome = .ok reports) ∧
      recorded.sent = vectors.flatMap stream) ∧
    (∀ vector ∈ vectors, ∀ past,
      (vector.push (Daemon.refusing []) past).sent = stream vector) ∧
    (∀ daemon past reports, (TestVector.pushAll daemon vectors past).traced.outcome = .ok reports →
      (TestVector.pushAll daemon vectors past).sent = vectors.flatMap stream) ∧
    ∀ vector ∈ vectors, ∀ command ∈ stream vector,
      '\n' ∉ command.line.toList ∧
        (command.line.toList.splitOn ' ').map String.ofList = command.name :: command.args := by
  intro stream recorded
  have hstream (vector : TestVector) : stream vector = vector.commands :=
    vector.commands_eq.symm
  have hflat : vectors.flatMap stream = vectors.flatMap TestVector.commands :=
    List.flatMap_congr fun vector _ => hstream vector
  refine ⟨?_, ?_, ?_, ?_, ?_⟩
  · intro environment invocation htask
    have hrun : (invocation.task.run files).outcome = .ok () := by
      rw [htask, Task.run, Console.bind_of_ok h, planVectors_eq]
    obtain ⟨hcode, hstdout⟩ := Invocation.answer_of_ok environment hrun
    refine ⟨hcode, ?_⟩
    rw [hstdout, htask, Task.run, Console.bind_of_ok h, planVectors_eq, printed_loadVectors,
      String.empty_append]
    simp only [hstream]
    rfl
  · rw [hflat]
    exact (TestVector.delivers_pushAll (Daemon.refusing []) vectors []).of_willing
      Daemon.willing_refusing_nil
  · intro vector _ past
    rw [hstream]
    exact ((vector.delivers_push (Daemon.refusing []) past).of_willing
      Daemon.willing_refusing_nil).2
  · intro daemon past reports hreports
    rw [hflat]
    exact ((TestVector.delivers_pushAll daemon vectors past).exists_ok_iff.mp ⟨reports, hreports⟩).1
  · obtain ⟨registry, hregistry, cases, -, hvectors⟩ := outcome_loadVectors_eq_ok_iff.mp h
    obtain ⟨text, htext⟩ := hregistry.exists_text
    intro vector hvector command hcommand
    rw [hstream] at hcommand
    have hdrawn := (TestSuite.generates_of_generateAll hvectors vector hvector).drawnFrom
    have hplain := hdrawn.plain_commands htext command hcommand
    exact ⟨hplain.feed_not_mem, hplain.splitOn_line⟩

/-- A baseline and a delta, planned: the name of a criterion looks like a value. -/
theorem plan_prints_push_of_look_alikes :
    let colors : Definition := ⟨.inclusive, "Colors", ["mad", "red"]⟩
    let mood : Definition := ⟨.exclusive, "mad", ["sad", "mad"]⟩
    let files : Files := fun path => .ofText (if path = "c" then
        "Inclusive Colors : mad red\nExclusive mad : sad mad\n"
      else "\x7b\"cases\":[\x7b\"name\":\"reset\"\x7d," ++
        "\x7b\"name\":\"k\",\"criteria\":\x7b\"Colors\":\"red mad\"\x7d\x7d]\x7d")
    let vectors : List TestVector :=
      [⟨"reset", "nominal", [colors.fresh.reset, mood.fresh.reset]⟩,
        ⟨"k", "nominal", [colors.fresh.afterAll [.raw "red mad"]]⟩]
    (loadVectors files "c" "s").outcome = .ok vectors ∧
      (Invocation.answer (fun _ => none) files ⟨.plan "c" "s", false, false⟩).stdout =
        "# reset (nominal)\nsetCriterionState Colors 0\nsetCriterionState mad 0\n" ++
          "applyConfigurations\n# k (nominal)\nsetCriterionState Colors mad red\n" ++
            "applyConfigurations\n" := by
  intro colors mood files vectors
  have hvectors : (loadVectors files "c" "s").outcome = .ok vectors := by decide +kernel
  obtain ⟨hplan, -⟩ := plan_prints_push hvectors
  refine ⟨hvectors, (hplan (fun _ => none) ⟨.plan "c" "s", false, false⟩ rfl).2.trans ?_⟩
  decide +kernel

end CommandLine

end Criteria
