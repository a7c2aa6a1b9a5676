import Criteria.CommandLine.Console
import Criteria.Text.Column

/-!
# What a report says

The sentence on each fault is spelled here, with the sentences on its causes behind it: a test case
is followed by what stopped it, and a fault of a file or of a JSON text by that fault alone. A
report says first what the task was doing, and then these sentences, each with its number if there
are several. What the program prints is exactly this text.

A sentence may hold line feeds. Its further lines hang below its beginning, which is stated by the
pieces between the line feeds, and not one character at a time.
-/

namespace Criteria

/-! ## Sentences -/

/-- The sentence on a file that cannot be read. -/
inductive FileFault.Says : FileFault → String → Prop where
  | missing : Says .missing "No such file or directory (os error 2)"
  | notDirectory : Says .notDirectory "Not a directory (os error 20)"
  | directory : Says .directory "Is a directory (os error 21)"
  | tooLong : Says .tooLong "File name too long (os error 36)"
  | notText : Says .notText "stream did not contain valid UTF-8"
  | refused (reason : String) : Says (.refused reason) reason

/-- The sentence on a fault, and behind it those on its causes, the innermost last. -/
inductive Fault.Says : Fault → List String → Prop where
  | malformed (line : Nat) (content reason : String) :
    Says (.malformed line content reason)
      ["malformed criterion definition at line " ++ toString line ++ ": " ++ reason ++
        " (" ++ Text.quote content ++ ")"]
  | invalidValue (criterion value : String) :
    Says (.invalidValue criterion value)
      ["invalid value " ++ Text.quote value ++ " for criterion " ++ criterion]
  | notSet (criterion value : String) :
    Says (.notSet criterion value)
      ["value " ++ Text.quote value ++ " is not set on criterion " ++ criterion]
  | testCase {source : Fault} {cause : String} {more : List String} (name : String)
    (hsource : Says source (cause :: more)) :
    Says (.testCase name source) (("test case " ++ name ++ ": " ++ cause) :: cause :: more)
  | transport (reason : String) : Says (.transport reason) ["transport error: " ++ reason]
  | serialization {fault : Json.Fault} {cause : String}
    (hcause : cause = fault.reason.describe ++ " at line " ++ toString fault.place.line ++
      " column " ++ toString fault.place.column) :
    Says (.serialization fault) ["serialization error: " ++ cause, cause]
  | file {fault : FileFault} {cause : String} (hcause : fault.Says cause) :
    Says (.file fault) ["io error: " ++ cause, cause]

/-- The sentence on a file fault is its message. -/
theorem FileFault.says_iff {fault : FileFault} {sentence : String} :
    fault.Says sentence ↔ sentence = fault.message := by
  constructor
  · intro h
    cases h <;> rfl
  · rintro rfl
    cases fault <;> constructor

namespace Fault

/-- The message of a fault is the first of its sentences. -/
theorem chain_eq_cons (fault : Fault) : ∃ more, fault.chain = fault.message :: more := by
  cases fault <;> exact ⟨_, rfl⟩

/-- A fault says the sentences of its chain. -/
theorem says_chain (fault : Fault) : fault.Says fault.chain := by
  induction fault with
  | malformed line content reason => exact .malformed line content reason
  | invalidValue criterion value => exact .invalidValue criterion value
  | notSet criterion value => exact .notSet criterion value
  | testCase name source ih =>
    obtain ⟨more, hchain⟩ := source.chain_eq_cons
    rw [hchain] at ih
    have htold := ih.testCase name
    rw [← hchain] at htold
    exact htold
  | transport reason => exact .transport reason
  | serialization fault => exact .serialization rfl
  | file fault => exact .file (FileFault.says_iff.mpr rfl)

/-- What a fault says is said in one way only. -/
theorem Says.unique {fault : Fault} {sentences others : List String} (h : fault.Says sentences)
    (hother : fault.Says others) : sentences = others := by
  induction h generalizing others with
  | testCase name hsource ih =>
    cases hother with
    | testCase _ hother =>
      obtain ⟨rfl, rfl⟩ := List.cons.inj (ih hother)
      rfl
  | serialization hcause =>
    cases hother with
    | serialization hother => rw [hcause, hother]
  | file hcause =>
    cases hother with
    | file hother => rw [FileFault.says_iff.mp hcause, FileFault.says_iff.mp hother]
  | _ => cases hother; rfl

/-- What a fault says is its chain. -/
theorem says_iff {fault : Fault} {sentences : List String} :
    fault.Says sentences ↔ sentences = fault.chain :=
  ⟨fun h => h.unique fault.says_chain, fun h => h ▸ fault.says_chain⟩

end Fault

/-! ## Texts -/

namespace CommandLine

/-- A text of which the lines behind the first hang below it, each behind the same margin. -/
def hanging (margin text : String) : String :=
  ("\n" ++ margin).intercalate ((text.toList.splitOn '\n').map String.ofList)

/-- The column for the numbers of causes. -/
def numberColumn : Text.Column := { width := 5, alignment := .right }

/-- What a report says: what the task was doing, and why it failed. One sentence on that stands
alone, and each of several behind its number, counted from zero. -/
inductive Report.Reads (report : Report) : String → Prop where
  | one {cause : String} (htold : report.fault.Says [cause]) :
    Reads report
      ("Error: " ++ report.context ++ "\n\nCaused by:\n    " ++ hanging "    " cause ++ "\n")
  | several {causes : List String} (htold : report.fault.Says causes)
    (hcauses : 2 ≤ causes.length) :
    Reads report
      ("Error: " ++ report.context ++ "\n\nCaused by:\n" ++
        String.join (causes.mapIdx fun number cause =>
          numberColumn.fill (toString number) ++ ": " ++ hanging "       " cause ++ "\n"))

/-- Blanks behind each line feed let the lines of a text hang. -/
theorem indentRest_eq_hanging (blanks : Nat) (text : String) :
    indentRest blanks text = hanging (Text.spaces blanks) text := by
  rw [← String.toList_inj, indentRest, hanging, String.toList_ofList, String.toList_intercalate,
    String.toList_append, Text.spaces, String.toList_ofList, List.map_map]
  generalize text.toList = cs
  induction cs with
  | nil => rfl
  | cons c cs ih =>
    obtain ⟨piece, rest, hpieces⟩ := List.exists_cons_of_ne_nil (List.splitOn_ne_nil '\n' cs)
    rw [List.flatMap_cons, ih, List.splitOn_cons_eq_if_modifyHead, hpieces]
    by_cases hfeed : c = '\n'
    · simp [hfeed]
    · cases rest <;> simp [hfeed]

example : hanging "    " "refused\nby the daemon" = "refused\n    by the daemon" := by
  decide +kernel

/-- Causes are numbered one by one. -/
theorem numberedCauses_eq_mapIdx (number : Nat) (causes : List String) :
    numberedCauses number causes =
      causes.mapIdx fun position cause =>
        numberColumn.fill (toString (number + position)) ++ ": " ++ hanging "       " cause ++
          "\n" := by
  induction causes generalizing number with
  | nil => rfl
  | cons cause rest ih =>
    rw [numberedCauses, ih, List.mapIdx_cons, indentRest_eq_hanging]
    simp [Nat.add_assoc, Nat.add_comm 1, numberColumn, Text.Column.fill, Text.cut, Text.spaces]

/-- One sentence is printed alone. -/
theorem Report.render_of_one {report : Report} {cause : String}
    (h : report.fault.chain = [cause]) :
    report.render =
      "Error: " ++ report.context ++ "\n\nCaused by:\n    " ++ hanging "    " cause ++ "\n" := by
  have hmargin : Text.spaces 4 = "    " := rfl
  simp [render, h, indentRest_eq_hanging, hmargin, ← String.toList_inj]

/-- Several sentences are printed with their numbers. -/
theorem Report.render_of_several {report : Report} (h : 2 ≤ report.fault.chain.length) :
    report.render =
      "Error: " ++ report.context ++ "\n\nCaused by:\n" ++
        String.join (report.fault.chain.mapIdx fun number cause =>
          numberColumn.fill (toString number) ++ ": " ++ hanging "       " cause ++ "\n") := by
  rw [render]
  split
  · next cause hchain => simp [hchain] at h
  · simp only [numberedCauses_eq_mapIdx, Nat.zero_add]

/-- What a report says is what is printed for it. -/
theorem Report.reads_iff {report : Report} {text : String} :
    report.Reads text ↔ text = report.render := by
  constructor
  · intro h
    cases h with
    | one htold => rw [render_of_one (Fault.says_iff.mp htold).symm]
    | several htold hcauses =>
      obtain rfl := Fault.says_iff.mp htold
      rw [render_of_several hcauses]
  · rintro rfl
    have htold := report.fault.says_chain
    obtain ⟨_ | ⟨second, rest⟩, hchain⟩ := report.fault.chain_eq_cons
    · rw [render_of_one hchain]
      exact .one (hchain ▸ htold)
    · have hcauses : 2 ≤ report.fault.chain.length := by simp [hchain]
      rw [render_of_several hcauses]
      exact .several htold hcauses

end CommandLine

end Criteria
