import Criteria.Proofs.Frame
import Criteria.Proofs.Rendering
import Criteria.Proofs.Tasks

/-!
# A listing of criteria loses nothing

A listing has one line for each definition, with the kind and the name in columns of twenty
characters and the values behind them. What is wider than its column is not cut, and a space stands
behind each column even if it is full. Neither the name nor a value of a definition in a file holds
white space. So the words of a line are the kind, the name and the values, however long they are,
and no definition takes more than one line.

With a colon behind the name, a line of the listing is one of a definition file, and these lines
make the registry that was listed.
-/

namespace Criteria

namespace Text

/-! ## Columns -/

/-- No white space but spaces. -/
def Spaced (cs : List Char) : Prop := ∀ c ∈ cs, isBlank c = true → c = ' '

/-- A word is spaced. -/
theorem IsWord.spaced {word : List Char} (h : IsWord word) : Spaced word :=
  fun _ hmem hblank => absurd hmem (h.not_mem hblank)

/-- Two texts in a row are spaced if both are. -/
theorem Spaced.append {first second : List Char} (hfirst : Spaced first) (hsecond : Spaced second) :
    Spaced (first ++ second) := by
  intro c hmem
  rcases List.mem_append.mp hmem with hmem | hmem
  · exact hfirst c hmem
  · exact hsecond c hmem

/-- Spaces are spaced. -/
theorem spaced_spaces (count : Nat) : Spaced (spaces count).toList := by
  intro c hmem _
  rw [spaces, String.toList_ofList] at hmem
  exact List.eq_of_mem_replicate hmem

/-- Words with a space between them are spaced. -/
theorem spaced_intercalate {values : List String} (h : ∀ value ∈ values, IsWord value.toList) :
    Spaced (" ".intercalate values).toList := by
  intro c hmem hblank
  rw [String.toList_intercalate] at hmem
  rcases mem_intercalate_space hmem with heq | ⟨word, hword, hmem⟩
  · exact heq
  · obtain ⟨value, hvalue, rfl⟩ := List.mem_map.mp hword
    exact absurd hmem ((h value hvalue).not_mem hblank)

/-- Spaced lines, each ended by a line feed, are the lines of their text. -/
theorem lines_join_of_spaced {rows : List String} (h : ∀ row ∈ rows, Spaced row.toList) :
    lines (String.join (rows.map fun row => row ++ "\n")) = rows := by
  rw [lines_eq_iff]
  induction rows with
  | nil => exact .empty
  | cons row rest ih =>
    obtain ⟨hrow, hrest⟩ := List.forall_mem_cons.mp h
    -- Both characters of a line end are white space, and neither is a space.
    have hfeed : '\n' ∉ row.toList := fun hmem => absurd (hrow _ hmem (by decide)) (by decide)
    have hreturn : row.toList.getLast? ≠ some '\r' := fun hlast =>
      absurd (hrow _ (List.mem_of_getLast? hlast) (by decide)) (by decide)
    simp only [List.map_cons, String.join_cons, String.toList_append, List.append_assoc]
    exact .feed hfeed hreturn (ih hrest)

/-- The only word in a column is the one that was put there. -/
theorem words_fill {word : String} (h : IsWord word.toList) :
    words (CommandLine.column.fill word) = [word] := by
  have hblank : IsSpace (List.replicate (20 - word.length) ' ') := by
    intro c hmem
    rw [List.eq_of_mem_replicate hmem]
    decide
  have hfill : (CommandLine.column.fill word).toList =
      word.toList ++ List.replicate (20 - word.length) ' ' := by
    change (word ++ spaces (20 - word.length)).toList = _
    rw [String.toList_append, spaces, String.toList_ofList]
  rw [words, hfill, wordLists_append_space hblank, wordLists_of_isWord h, List.map_singleton,
    String.ofList_toList]

/-- There is no white space but spaces in a column of a word. -/
theorem spaced_fill {word : String} (h : IsWord word.toList) :
    Spaced (CommandLine.column.fill word).toList := by
  change Spaced (word ++ spaces (20 - word.length)).toList
  rw [String.toList_append]
  exact h.spaced.append (spaced_spaces _)

end Text

open Text

/-! ## Lines -/

namespace Definition

variable {definition : Definition}

/-- The line of a definition in a listing, without the line feed. -/
def row (definition : Definition) : String :=
  definition.kind.shown CommandLine.column ++ " " ++
    CommandLine.column.fill definition.name ++ " " ++ " ".intercalate definition.allowed

/-- A definition on one line of a definition file. -/
def spelled (definition : Definition) : String :=
  " ".intercalate (definition.kind.token :: definition.name :: ":" :: definition.allowed)

/-- The values of a clean definition are words. -/
theorem Clean.isWord (h : definition.Clean) : ∀ value ∈ definition.allowed, IsWord value.toList :=
  fun value hvalue => (h.token value hvalue).1

/-- The words of a line of a listing are the kind, the name and the values. -/
theorem Clean.words_row (h : definition.Clean) :
    words definition.row = definition.kind.token :: definition.name :: definition.allowed := by
  rw [row, Kind.shown, words_append_space, words_append_space, words_fill (isToken_token _).1,
    words_fill h.name.1, words_intercalate h.isWord]
  rfl

/-- There is no white space but spaces on a line of a listing. -/
theorem Clean.spaced_row (h : definition.Clean) : Spaced definition.row.toList := by
  have hspace : Spaced " ".toList := spaced_spaces 1
  simp only [row, Kind.shown, String.toList_append]
  exact ((((spaced_fill (isToken_token _).1).append hspace).append
    (spaced_fill h.name.1)).append hspace).append (spaced_intercalate h.isWord)

/-- There is no white space but spaces on the line of a definition file either. -/
theorem Clean.spaced_spelled (h : definition.Clean) : Spaced definition.spelled.toList :=
  spaced_intercalate (List.forall_mem_cons.mpr ⟨(isToken_token _).1,
    List.forall_mem_cons.mpr ⟨h.name.1, List.forall_mem_cons.mpr ⟨by decide +kernel, h.isWord⟩⟩⟩)

/-- No colon stands among the values of a clean definition. -/
theorem Clean.colon_not_mem_values (h : definition.Clean) :
    ':' ∉ (" ".intercalate definition.allowed).toList := by
  intro hmem
  rw [String.toList_intercalate] at hmem
  rcases mem_intercalate_space hmem with heq | ⟨word, hword, hmem⟩
  · exact absurd heq (by decide)
  · obtain ⟨value, hvalue, rfl⟩ := List.mem_map.mp hword
    exact (h.token value hvalue).2 hmem

/-- A clean definition is read back from its line in a definition file. -/
theorem Clean.ofLine_spelled (h : definition.Clean) :
    ofLine definition.spelled = .ok definition := by
  -- The line is cut at its only colon: two words stand before it, the values behind it.
  obtain ⟨value, more, hallowed⟩ := List.exists_cons_of_ne_nil h.allowed
  have hkind := isToken_token definition.kind
  have hspace : IsSpace [' '] := List.forall_mem_singleton.mpr (by decide)
  have hhead := @proper_pair [] _ [' '] _ [' '] nofun hkind.1 hspace nofun h.name.1 hspace
  have hleft := colon_not_mem_text hhead (by simpa using ⟨hkind.2, h.name.2⟩)
  have hright : ':' ∉ [' '] ++ (" ".intercalate definition.allowed).toList := by
    simpa using h.colon_not_mem_values
  have hline : definition.spelled = String.ofList (Spacing.text
      ⟨[([], definition.kind.token.toList), ([' '], definition.name.toList)], [' ']⟩ ++
        ':' :: ([' '] ++ (" ".intercalate definition.allowed).toList)) := by
    rw [← String.toList_inj, String.toList_ofList, spelled, hallowed]
    simp [String.toList_intercalate, Spacing.text]
  have hvalues : words (String.ofList ([' '] ++ (" ".intercalate definition.allowed).toList)) =
      definition.allowed := by
    rw [words, String.toList_ofList, wordLists_space_append hspace]
    exact words_intercalate h.isWord
  rw [hline, ofLine_append_colon hhead hleft hright]
  simp only [Spacing.words, List.map_cons, List.map_nil, String.ofList_toList, ofParts,
    Kind.ofToken?_token, hvalues]
  rw [hallowed]
  simp only [ofValues, ← hallowed, eraseDups_of_nodup h.nodup]

end Definition

namespace Registry

/-- Definitions whose names are new and all differ go behind the others, in order. -/
theorem toList_foldl_insert {registry : Registry} {added : List Definition}
    (h : (registry.names ++ added.map Definition.name).Nodup) :
    (added.foldl insert registry).definitions.toList = registry.definitions.toList ++ added := by
  induction added generalizing registry with
  | nil => exact (List.append_nil _).symm
  | cons definition rest ih =>
    have hnew : definition.name ∉ registry.names := fun hmem =>
      (List.disjoint_of_nodup_append h) hmem List.mem_cons_self
    have hnames : (registry.insert definition).names = registry.names ++ [definition.name] := by
      rw [names_insert, if_neg hnew]
    have hrest : ((registry.insert definition).names ++ rest.map Definition.name).Nodup := by
      rw [hnames, List.append_assoc]
      exact h
    rw [List.foldl_cons, ih hrest, toList_insert_of_not_mem hnew, List.append_assoc]
    rfl

/-- The definitions of a registry, put into an empty one in order, give the registry. -/
theorem foldl_insert_definitions (registry : Registry) :
    registry.definitions.toList.foldl insert empty = registry := by
  have hdefinitions : (registry.definitions.toList.foldl insert empty).definitions.toList =
      registry.definitions.toList := toList_foldl_insert registry.nodup_names
  refine ext_find? ?_ fun name => ?_
  · rw [names, hdefinitions, ← names]
  · rw [find?_eq_find?_toList, hdefinitions, ← find?_eq_find?_toList]

end Registry

namespace CommandLine

/-! ## The listing -/

/-- A line of a listing as one of a definition file: a colon goes behind the second word. -/
def rewritten (line : String) : String :=
  " ".intercalate ((Text.words line).insertIdx 2 ":")

variable {files : Files} {criteria : String} {registry : Registry}

/-- A colon makes the line of a clean definition in a listing one of a definition file. -/
theorem rewritten_row {definition : Definition} (h : definition.Clean) :
    rewritten definition.row = definition.spelled := by
  rw [rewritten, h.words_row]
  rfl

/-- The definitions of a registry that is loaded are clean. -/
theorem clean_of_loadRegistry (h : (loadRegistry files criteria).outcome = .ok registry) :
    ∀ definition ∈ registry.definitions.toList, definition.Clean := by
  obtain ⟨text, htext⟩ := (outcome_loadRegistry_eq_ok_iff.mp h).exists_text
  exact fun definition hmem => Registry.clean_of_ofText htext (Array.mem_toList_iff.mp hmem)

/-- A listing has one line for each definition. -/
theorem definitionListing_eq (registry : Registry) : definitionListing registry =
    String.join ((registry.definitions.toList.map Definition.row).map fun row => row ++ "\n") := by
  rw [definitionListing, List.map_map]
  rfl

/-- The lines of a listing of clean definitions are those of the definitions. -/
theorem lines_definitionListing (h : ∀ definition ∈ registry.definitions.toList, definition.Clean) :
    Text.lines (definitionListing registry) = registry.definitions.toList.map Definition.row := by
  rw [definitionListing_eq]
  exact lines_join_of_spaced (List.forall_mem_map.mpr fun definition hmem => (h _ hmem).spaced_row)

/-- The lines of the definitions of a registry in a definition file make the registry, if the
definitions are clean. -/
theorem ofText_spelled (h : ∀ definition ∈ registry.definitions.toList, definition.Clean) :
    (Registry.ofText (String.join ((registry.definitions.toList.map Definition.spelled).map
      fun line => line ++ "\n"))).outcome = .ok registry := by
  refine Registry.ofText_eq_ok_iff.mpr
    ⟨registry.definitions.toList, ?_, registry.foldl_insert_definitions.symm⟩
  rw [Definition.parse, lines_join_of_spaced
    (List.forall_mem_map.mpr fun definition hmem => (h _ hmem).spaced_spelled),
    Definition.ofLines_eq_ok_iff]
  exact List.forall₂_map_left_iff.mpr
    (List.forall₂_same.mpr fun definition hmem => (h _ hmem).ofLine_spelled)

/-- A call that lists the criteria in a file that is loaded ends well and prints the listing. -/
theorem answer_of_list (h : (loadRegistry files criteria).outcome = .ok registry)
    (environment : Environment) {invocation : Invocation}
    (htask : invocation.task = .list criteria) :
    (invocation.answer environment files).code = 0 ∧
      (invocation.answer environment files).stdout = definitionListing registry := by
  have hrun : (invocation.task.run files).outcome = .ok () ∧
      (invocation.task.run files).printed = definitionListing registry := by
    rw [htask, Task.run, Console.bind_of_ok h, Console.bind_of_ok rfl]
    exact ⟨rfl, by simp [loadRegistry, Console.run, Console.print, Console.emit]⟩
  obtain ⟨hcode, hstdout⟩ := Invocation.answer_of_ok environment hrun.1
  exact ⟨hcode, hstdout.trans hrun.2⟩

/-- A listing of criteria loses nothing. Whenever the definition file is loaded, the call ends well
and prints one line for each definition, in the order of registration. The words of the line are the
token of the kind, the name and the values in their order, however long they are. With a colon
behind each name, the lines make the registry that was loaded once more. -/
theorem list_loses_nothing (h : (loadRegistry files criteria).outcome = .ok registry) :
    ∀ environment (invocation : Invocation), invocation.task = .list criteria →
      let answer := invocation.answer environment files
      let lines := Text.lines answer.stdout
      answer.code = 0 ∧
      answer.stdout = String.join (lines.map fun line => line ++ "\n") ∧
      List.Forall₂ (fun line definition =>
          Text.words line = definition.kind.token :: definition.name :: definition.allowed)
        lines registry.definitions.toList ∧
      (Registry.ofText (String.join (lines.map fun line => rewritten line ++ "\n"))).outcome =
        .ok registry := by
  intro environment invocation htask answer lines
  have hclean := clean_of_loadRegistry h
  obtain ⟨hcode, hlisting⟩ : answer.code = 0 ∧ answer.stdout = definitionListing registry :=
    answer_of_list h environment htask
  have hlines : lines = registry.definitions.toList.map Definition.row := by
    rw [← lines_definitionListing hclean, ← hlisting]
  have hspelled : (lines.map fun line => rewritten line ++ "\n") =
      (registry.definitions.toList.map Definition.spelled).map fun line => line ++ "\n" := by
    rw [hlines, List.map_map, List.map_map]
    exact List.map_congr_left fun definition hmem =>
      congrArg (· ++ "\n") (rewritten_row (hclean definition hmem))
  refine ⟨hcode, ?_, ?_, ?_⟩
  · rw [hlisting, definitionListing_eq, hlines]
  · rw [hlines]
    exact List.forall₂_map_left_iff.mpr
      (List.forall₂_same.mpr fun definition hmem => (hclean definition hmem).words_row)
  · rw [hspelled]
    exact ofText_spelled hclean

/-- Nothing is lost of a criterion that was defined twice, nor of one whose name is wider than its
column. -/
theorem list_loses_nothing_of_wide_name :
    let files : Files := fun _ => .ofText ("Exclusive Nüance : a\n" ++
      "Inclusive ANameWiderThanItsColumn:x y x\r\nInclusive Nüance : b \u3000 c")
    let definitions : List Definition := [⟨.exclusive, "Nüance", ["a"]⟩,
      ⟨.inclusive, "ANameWiderThanItsColumn", ["x", "y"]⟩, ⟨.inclusive, "Nüance", ["b", "c"]⟩]
    let registry := definitions.foldl Registry.insert .empty
    let listing := "InclusiveCriterion   Nüance               b c\n" ++
      "InclusiveCriterion   ANameWiderThanItsColumn x y\n"
    (loadRegistry files "c").outcome = .ok registry ∧
      (Invocation.answer (fun _ => none) files ⟨.list "c", false, false⟩).stdout = listing ∧
      (Registry.ofText ("InclusiveCriterion Nüance : b c\n" ++
        "InclusiveCriterion ANameWiderThanItsColumn : x y\n")).outcome = .ok registry := by
  intro files definitions registry listing
  have hload : (loadRegistry files "c").outcome = .ok registry :=
    outcome_loadRegistry_eq_ok_iff.mpr ⟨_, definitions, rfl, by decide +kernel, rfl⟩
  obtain ⟨-, -, -, hagain⟩ :=
    list_loses_nothing hload (fun _ => none) ⟨.list "c", false, false⟩ rfl
  have hstdout : (Invocation.answer (fun _ => none) files ⟨.list "c", false, false⟩).stdout =
      listing := (answer_of_list hload _ rfl).2.trans (by decide +kernel)
  have hrewritten : String.join ((Text.lines listing).map fun line => rewritten line ++ "\n") =
      "InclusiveCriterion Nüance : b c\n" ++
        "InclusiveCriterion ANameWiderThanItsColumn : x y\n" := by decide +kernel
  rw [hstdout, hrewritten] at hagain
  exact ⟨hload, hstdout, hagain⟩

end CommandLine

end Criteria
