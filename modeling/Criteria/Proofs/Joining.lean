import Criteria.Proofs.Grammar

/-!
# Definition files joined and with other line ends

A definition file is read line by line, so two files are read one after the other when the first
ends where a line ends: the definitions of both are given, or the fault of the first, or that of the
second, which is found as many lines further down as the first file has.

How lines end makes no difference either. A carriage return that stays on a line is white space at
its end, so it can be seen in what is shown of a malformed line but not in what is wrong with it.
-/

namespace Criteria

/-! ## Texts cut at their line feeds -/

namespace Text

/-- What holds of the empty text, of every text without a line feed, and of every text whose rest
behind the first line feed has it, holds of all texts. -/
theorem feed_induction {motive : List Char → Prop} (empty : motive [])
    (last : ∀ line, line ≠ [] → '\n' ∉ line → motive line)
    (feed : ∀ piece rest, '\n' ∉ piece → motive rest → motive (piece ++ '\n' :: rest))
    (cs : List Char) : motive cs := by
  by_cases hfeed : '\n' ∈ cs
  · obtain ⟨piece, rest, rfl, hpiece⟩ := List.eq_append_cons_of_mem hfeed
    exact feed piece rest hpiece (feed_induction empty last feed rest)
  · by_cases hcs : cs = []
    · exact hcs ▸ empty
    · exact last cs hcs hfeed
termination_by cs.length

/-- Nothing stands behind the last line feed of a text. -/
def Ended (cs : List Char) : Prop := cs = [] ∨ cs.getLast? = some '\n'

/-- A text is ended exactly when what stands behind one of its line feeds is. -/
theorem ended_append_feed_iff {piece rest : List Char} :
    Ended (piece ++ '\n' :: rest) ↔ Ended rest := by
  cases rest with
  | nil => simp [Ended]
  | cons c cs => simp [Ended, List.getLast?_cons_cons]

/-- A text without a line feed is not ended, unless it is empty. -/
theorem not_ended_of_not_mem {line : List Char} (hline : line ≠ []) (hfeed : '\n' ∉ line) :
    ¬Ended line := by
  rintro (hempty | hlast)
  · exact hline hempty
  · exact hfeed (List.mem_of_getLast? hlast)

/-- The lines of an ended text stand in front of those of what is joined to it. -/
theorem lineLists_append {first : List Char} (hended : Ended first) (second : List Char) :
    lineLists (first ++ second) = lineLists first ++ lineLists second := by
  induction first using feed_induction with
  | empty => rfl
  | last line hline hfeed => exact absurd hended (not_ended_of_not_mem hline hfeed)
  | feed piece rest hpiece ih =>
    rw [List.append_assoc, List.cons_append, lineLists_append_feed hpiece,
      lineLists_append_feed hpiece, ih (ended_append_feed_iff.mp hended), List.cons_append]

/-- Put a carriage return in front of every line feed. -/
def withReturns (cs : List Char) : List Char :=
  cs.flatMap fun c => if c = '\n' then ['\r', '\n'] else [c]

/-- A text without a line feed gets no carriage return. -/
theorem withReturns_of_not_mem {line : List Char} (hfeed : '\n' ∉ line) :
    withReturns line = line := by
  induction line with
  | nil => rfl
  | cons c cs ih =>
    obtain ⟨hc, hcs⟩ := not_or.mp (mt List.mem_cons.mpr hfeed)
    rw [withReturns, List.flatMap_cons, if_neg (Ne.symm hc)]
    exact congrArg (c :: ·) (ih hcs)

/-- The first line feed of a text gets a carriage return. -/
theorem withReturns_append_feed {piece : List Char} (hpiece : '\n' ∉ piece) (rest : List Char) :
    withReturns (piece ++ '\n' :: rest) = (piece ++ ['\r']) ++ '\n' :: withReturns rest := by
  rw [withReturns, List.flatMap_append, List.flatMap_cons, if_pos rfl, ← withReturns,
    withReturns_of_not_mem hpiece, List.append_assoc]
  rfl

/-- A carriage return is dropped from the end of a line. -/
theorem chomp_concat_return (line : List Char) : chomp (line ++ ['\r']) = line := by
  rw [chomp, List.getLast?_concat, if_pos rfl, List.dropLast_concat]

end Text

namespace Definition

/-! ## White space at the end of a line -/

/-- White space at the end of a line does not change what is read from it. -/
theorem ofLine_concat_blank {c : Char} (hc : Text.isBlank c = true) (line : List Char) :
    ofLine (String.ofList (line ++ [c])) = ofLine (String.ofList line) := by
  have hplain : c ≠ ':' := by
    rintro rfl
    contradiction
  by_cases hcolon : ':' ∈ line
  · obtain ⟨left, values, rfl, hleft⟩ := List.eq_append_cons_of_mem hcolon
    rw [List.append_assoc, List.cons_append]
    by_cases hright : ':' ∈ values
    · -- Two colons are too many with or without what follows.
      have hmany (rest : List Char) :
          ofLine (String.ofList (left ++ ':' :: (values ++ rest))) = .error .separators := by
        refine ofLine_of_two_le_count ?_
        have := List.one_le_count_iff.mpr hright
        simp only [List.count_append, List.count_cons_self]
        omega
      rw [hmany [c]]
      simpa using (hmany []).symm
    · have hspaced : ':' ∉ values ++ [c] := by simp [hright, Ne.symm hplain]
      have hwords : Text.words (String.ofList (values ++ [c])) =
          Text.words (String.ofList values) := by
        have hlists := Text.wordLists_append_blank hc values []
        rw [@Text.wordLists_eq_nil [] (List.forall_mem_nil _), List.append_nil] at hlists
        rw [Text.words, Text.words, String.toList_ofList, String.toList_ofList, hlists]
      simp only [ofLine, String.toList_ofList, Text.splitOn_eq_pair_iff.mpr ⟨rfl, hleft, hright⟩,
        Text.splitOn_eq_pair_iff.mpr ⟨rfl, hleft, hspaced⟩, ofParts, hwords]
  · have hspaced : ':' ∉ line ++ [c] := by simp [hcolon, Ne.symm hplain]
    rw [ofLine_of_not_mem hcolon, ofLine_of_not_mem hspaced]

/-- Nor does a carriage return that is dropped from the end of a line. -/
theorem ofLine_chomp (line : List Char) :
    ofLine (String.ofList (Text.chomp line)) = ofLine (String.ofList line) := by
  unfold Text.chomp
  split
  · next hreturn =>
    obtain ⟨line, rfl⟩ := List.getLast?_eq_some_iff.mp hreturn
    rw [List.dropLast_concat, ofLine_concat_blank (by decide)]
  · rfl

/-- Two lines are read as the same definition or for the same flaw. -/
def ReadAlike (line other : List Char) : Prop :=
  ofLine (String.ofList line) = ofLine (String.ofList other)

/-- Carriage returns in front of the line feeds leave all lines to be read alike. -/
theorem readAlike_withReturns (cs : List Char) :
    List.Forall₂ ReadAlike (Text.lineLists cs) (Text.lineLists (Text.withReturns cs)) := by
  induction cs using Text.feed_induction with
  | empty => exact .nil
  | last line hline hfeed =>
    rw [Text.withReturns_of_not_mem hfeed, Text.lineLists_of_not_mem hfeed hline]
    exact .cons rfl .nil
  | feed piece rest hpiece ih =>
    have hreturn : '\n' ∉ piece ++ ['\r'] := by simp [hpiece]
    rw [Text.withReturns_append_feed hpiece, Text.lineLists_append_feed hpiece,
      Text.lineLists_append_feed hreturn, Text.chomp_concat_return]
    exact .cons (ofLine_chomp piece) ih

/-- A line feed behind the last line leaves all lines to be read alike. -/
theorem readAlike_append_feed {cs : List Char} (hended : ¬Text.Ended cs) :
    List.Forall₂ ReadAlike (Text.lineLists cs) (Text.lineLists (cs ++ ['\n'])) := by
  induction cs using Text.feed_induction with
  | empty => exact absurd (.inl rfl) hended
  | last line hline hfeed =>
    rw [Text.lineLists_of_not_mem hfeed hline, Text.lineLists_append_feed hfeed]
    exact .cons (ofLine_chomp line).symm .nil
  | feed piece rest hpiece ih =>
    rw [List.append_assoc, List.cons_append, Text.lineLists_append_feed hpiece,
      Text.lineLists_append_feed hpiece]
    exact .cons rfl (ih (mt Text.ended_append_feed_iff.mpr hended))

/-! ## Reading -/

/-- Two readings give the same definitions, or blame the same line for the same reason. They may
differ in how that line is shown. -/
inductive SameReading : Except Fault (List Definition) → Except Fault (List Definition) → Prop where
  | ok (definitions : List Definition) : SameReading (.ok definitions) (.ok definitions)
  | malformed (line : Nat) (content other reason : String) :
    SameReading (.error (.malformed line content reason)) (.error (.malformed line other reason))

/-- One more definition in front keeps readings the same. -/
theorem SameReading.map {first second : Except Fault (List Definition)}
    (h : SameReading first second) (definition : Definition) :
    SameReading (first.map (definition :: ·)) (second.map (definition :: ·)) := by
  cases h with
  | ok definitions => exact .ok (definition :: definitions)
  | malformed line content other reason => exact .malformed line content other reason

/-- Lines that are read alike make the same readings. -/
theorem sameReading_ofLines {lines others : List (List Char)}
    (h : List.Forall₂ ReadAlike lines others) (number : Nat) :
    SameReading (ofLines number (lines.map String.ofList))
      (ofLines number (others.map String.ofList)) := by
  induction h generalizing number with
  | nil => exact .ok []
  | @cons line other lines others hline hrest ih =>
    rw [ReadAlike] at hline
    rw [List.map_cons, List.map_cons, ofLines, ofLines, ← hline]
    cases ofLine (String.ofList line) with
    | error flaw => exact .malformed number _ _ flaw.describe
    | ok definition => exact (ih (number + 1)).map definition

section Parts

variable {number : Nat} {first second : List String} {definitions more : List Definition}
  {fault : Fault}

/-- Lines that are refused are refused with whatever stands behind them. -/
theorem ofLines_append_of_error (h : ofLines number first = .error fault) :
    ofLines number (first ++ second) = .error fault := by
  obtain ⟨before, line, after, flaw, rfl, hbefore, hline, rfl⟩ := ofLines_eq_error_iff.mp h
  rw [ofLines_eq_error_iff]
  exact ⟨before, line, after ++ second, flaw, by simp, hbefore, hline, rfl⟩

/-- Lines that are accepted and others behind them give all definitions. -/
theorem ofLines_append_of_ok (h : ofLines number first = .ok definitions)
    (hsecond : ofLines number second = .ok more) :
    ofLines number (first ++ second) = .ok (definitions ++ more) := by
  rw [ofLines_eq_ok_iff] at *
  exact List.rel_append h hsecond

/-- Lines that are refused behind some that are accepted are refused as they are alone, but for the
number of the line. -/
theorem ofLines_append_of_ok_of_error (h : ofLines number first = .ok definitions)
    (hsecond : ofLines number second = .error fault) :
    ∃ line content reason, fault = .malformed line content reason ∧
      ofLines number (first ++ second) =
        .error (.malformed (line + first.length) content reason) := by
  obtain ⟨before, line, after, flaw, rfl, hbefore, hline, rfl⟩ := ofLines_eq_error_iff.mp hsecond
  have hfirst : ∀ earlier ∈ first, ∃ definition, ofLine earlier = .ok definition := by
    have hread := ofLines_eq_ok_iff.mp h
    have hboth := hread.imp fun line definition hline =>
      And.intro (Exists.intro definition hline) hline
    exact ((List.forall₂_and_left _ _).mp hboth).1
  refine ⟨_, _, _, rfl, ofLines_eq_error_iff.mpr
    ⟨first ++ before, line, after, flaw, by simp, ?_, hline, ?_⟩⟩
  · exact List.forall_mem_append.mpr ⟨hfirst, hbefore⟩
  · rw [List.length_append, Nat.add_comm first.length, Nat.add_assoc]

end Parts

/-- A text that is empty or ends with a line feed, joined with another text: if the first is refused
the joined text is refused with the same fault. Otherwise, if the second is refused, the joined text
is refused for the same line, with the same contents and the same reason, and its number is greater
by the number of lines of the first. Otherwise the definitions are those of both.

Every text is read in the same way with carriage returns in front of its line feeds, and so is a
text that does not end with a line feed when one is put behind it. -/
theorem parse_joined :
    (∀ first second : String, (first = "" ∨ first.toList.getLast? = some '\n') →
      (∀ fault, parse first = .error fault → parse (first ++ second) = .error fault) ∧
      ∀ definitions, parse first = .ok definitions →
        (∀ fault, parse second = .error fault → ∃ line content reason,
          fault = .malformed line content reason ∧
          parse (first ++ second) =
            .error (.malformed (line + (Text.lines first).length) content reason)) ∧
        ∀ more, parse second = .ok more → parse (first ++ second) = .ok (definitions ++ more)) ∧
    ∀ text : String,
      SameReading (parse text) (parse (String.ofList (Text.withReturns text.toList))) ∧
      (text ≠ "" → text.toList.getLast? ≠ some '\n' →
        SameReading (parse text) (parse (text ++ "\n"))) := by
  refine ⟨fun first second hended => ?_, fun text => ⟨?_, fun hne hlast => ?_⟩⟩
  · have hlines : Text.lines (first ++ second) = Text.lines first ++ Text.lines second := by
      have hended : Text.Ended first.toList := hended.imp_left fun h => by rw [h]; rfl
      rw [Text.lines, String.toList_append, Text.lineLists_append hended, List.map_append]
      rfl
    simp only [parse, hlines]
    exact ⟨fun fault => ofLines_append_of_error, fun definitions hfirst =>
      ⟨fun fault => ofLines_append_of_ok_of_error hfirst, fun more => ofLines_append_of_ok hfirst⟩⟩
  · rw [parse, parse, Text.lines, Text.lines, String.toList_ofList]
    exact sameReading_ofLines (readAlike_withReturns text.toList) 1
  · have hended : ¬Text.Ended text.toList := by
      rintro (hempty | hfeed)
      · exact hne (String.toList_eq_nil_iff.mp hempty)
      · exact hlast hfeed
    rw [parse, parse, Text.lines, Text.lines, String.toList_append]
    exact sameReading_ofLines (readAlike_append_feed hended) 1

/-- A malformed line behind another one is found under its number in the joined text. Its carriage
return is shown as long as no line feed stands behind it, and the reason is the same without it. -/
theorem parse_joined_behind_return :
    let first := "Exclusive Mood : mad\r\n"
    let second := "Weird Colors : red\r"
    let reason := "unknown criterion kind \"Weird\""
    (first.toList.getLast? = some '\n' ∧ parse first = .ok [⟨.exclusive, "Mood", ["mad"]⟩] ∧
      parse second = .error (.malformed 1 second reason) ∧
      parse (first ++ second) = .error (.malformed 2 second reason)) ∧
    (second ≠ "" ∧ second.toList.getLast? ≠ some '\n' ∧
      SameReading (parse second) (parse (second ++ "\n")) ∧
      parse (second ++ "\n") = .error (.malformed 1 "Weird Colors : red" reason)) := by
  intro first second reason
  have hended : first.toList.getLast? = some '\n' := by decide +kernel
  have hfirst : parse first = .ok [⟨.exclusive, "Mood", ["mad"]⟩] := by decide +kernel
  have hsecond : parse second = .error (.malformed 1 second reason) := by decide +kernel
  refine ⟨⟨hended, hfirst, hsecond, ?_⟩, by decide +kernel, by decide +kernel, ?_,
    by decide +kernel⟩
  · obtain ⟨line, content, shown, hfault, hjoined⟩ :=
      ((parse_joined.1 first second (.inr hended)).2 _ hfirst).1 _ hsecond
    obtain ⟨rfl, rfl, rfl⟩ := Fault.malformed.inj hfault
    have hlines : (Text.lines first).length = 1 := by decide +kernel
    rwa [hlines] at hjoined
  · exact (parse_joined.2 second).2 (by decide +kernel) (by decide +kernel)

end Definition

end Criteria
