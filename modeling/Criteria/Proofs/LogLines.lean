import Criteria.Proofs.Journal

/-!
# Log lines and the vectors they name

A line of the log tells one event, and it names the vector that was under way at the time, or none
if there was none. That holds under every filter but one. A vector counts as something of level
info, so the filter that stops at warnings hides all vectors, and it still shows the warnings about
them. Where there are no such warnings the log is right under that filter too.
-/

namespace Criteria.Log

/-! ## What a line says -/

/-- An event as it is told in a line of text: its message and its fields. -/
def eventText (event : Event) : String :=
  " ".intercalate (event.message?.toList ++
    event.fields.map fun (name, value) => name ++ "=" ++ FieldValue.toText value)

/-- The contents of an event in a JSON line: its message and its fields. -/
def eventJson (event : Event) : Json :=
  .record ((event.message?.toList.map fun message => ("message", Json.text message)) ++
    event.fields.map fun (name, value) => (name, FieldValue.toJson value))

namespace Line

/-- A line tells an event. -/
def Tells (event : Event) : Line → Prop
  | .text line => ∃ front, line = front ++ eventText event
  | .json line => ∃ members, line = .record members ∧
      ("level", .text event.level.word) ∈ members ∧ ("fields", eventJson event) ∈ members

/-- A line names one vector. In a text, its name stands behind the level; in JSON, it is the span
of the line and the only one there. -/
def Names (vector : String) : Line → Prop
  | .text line => ∃ level body : String, level.toList.length = 5 ∧
      line = level ++ " critvec.vector\x7bvector=" ++ vector ++ "\x7d: " ++ body
  | .json line => ∃ members, line = .record members ∧
      let span := Json.record [("vector", .text vector), ("name", .text "critvec.vector")]
      ("span", span) ∈ members ∧ ("spans", .list [span]) ∈ members

/-- A line places its event: it names the vector that was under way, or no vector if there was
none. -/
def Places : Option String → Line → Prop
  | some vector, line => line.Names vector
  | none, line => ∀ vector, ¬line.Names vector

/-- A line that names no vector places its event only where no vector was under way. -/
theorem Places.eq_none {line : Line} {vector : Option String} (h : line.Places vector)
    (hnone : line.Places none) : vector = none := by
  cases vector with
  | none => rfl
  | some name => exact absurd h (hnone name)

end Line

/-! ## Lines of text -/

/-- The level of an event in a line of text. -/
def levelText (event : Event) : String :=
  ({ width := 5, alignment := .right } : Text.Column).fill event.level.word

/-- The level takes five characters. -/
theorem length_levelText (event : Event) : (levelText event).toList.length = 5 := by
  rw [levelText]
  cases event.level <;> decide +kernel

/-- An event is not told in words that look like a vector. -/
theorem head?_eventText (event : Event) : (eventText event).toList.head? ≠ some 'c' := by
  cases event <;> simp [eventText, Event.message?, Event.fields]

/-- A line of text that names a vector says so behind the level. -/
theorem Line.Names.getElem?_text {vector line : String} (h : (Line.text line).Names vector) :
    line.toList[6]? = some 'c' := by
  obtain ⟨level, body, hlevel, rfl⟩ := h
  simp [List.getElem?_append_right, hlevel]

/-- A line of text without vectors is the level and the event. -/
theorem textLine_nil (event : Event) :
    textLine [] event = levelText event ++ " " ++ eventText event := by
  simp [textLine, levelText, eventText]

/-- A line of text inside a vector is the level, the vector and the event. -/
theorem textLine_singleton (vector : String) (event : Event) :
    textLine [vector] event =
      levelText event ++ " critvec.vector\x7bvector=" ++ vector ++ "\x7d: " ++ eventText event := by
  rw [← String.toList_inj]
  simp [textLine, levelText, eventText, vectorSpan]

/-! ## Lines -/

/-- The line of an event with one vector around it or none. -/
def lineOf (json : Bool) (vector : Option String) (event : Event) : Line :=
  if json then .json (jsonLine vector.toList event) else .text (textLine vector.toList event)

/-- A line tells its event. -/
theorem tells_lineOf (json : Bool) (vector : Option String) (event : Event) :
    (lineOf json vector event).Tells event := by
  cases json with
  | false =>
    cases vector with
    | none => exact ⟨_, textLine_nil event⟩
    | some name => exact ⟨_, textLine_singleton name event⟩
  | true =>
    cases vector with
    | none => exact ⟨_, rfl, by simp, by simp [eventJson]⟩
    | some name => exact ⟨_, rfl, by simp, by simp [eventJson]⟩

/-- A line places its event where it happened. -/
theorem places_lineOf (json : Bool) (vector : Option String) (event : Event) :
    (lineOf json vector event).Places vector := by
  cases json with
  | false =>
    cases vector with
    | some name => exact ⟨_, _, length_levelText event, textLine_singleton name event⟩
    | none =>
      intro name hnames
      -- The seventh character would begin the name of the span, but it begins the event.
      have hbody : (textLine [] event).toList[6]? = (eventText event).toList.head? := by
        rw [textLine_nil, List.head?_eq_getElem?]
        simp [List.getElem?_append_right, length_levelText]
      exact head?_eventText event (hbody.symm.trans hnames.getElem?_text)
  | true =>
    cases vector with
    | some name =>
      exact ⟨_, rfl, by simp [vectorJson, vectorSpan], by simp [vectorJson, vectorSpan]⟩
    | none =>
      rintro name ⟨members, hmembers, hspan, -⟩
      obtain rfl := Json.record.inj hmembers
      simp at hspan

/-- The line of a happening names the vector that was under way unless the filter hides vectors. -/
theorem Config.line_entry (config : Config) (happening : Happening) :
    config.line happening.entry =
      lineOf config.json (if config.filter.allows .info then happening.vector else none)
        happening.event := by
  cases h : config.filter.allows .info <;>
    simp [line, shownVectors, lineOf, Happening.entry, h]

/-- No event is more important than a warning. -/
theorem one_le_rank (event : Event) : 1 ≤ event.level.rank := by
  cases event <;> simp [Event.level, Level.rank]

/-- A filter that lets an event through lets vectors through, unless it stops at warnings. -/
theorem Filter.allows_info_of_allows {filter : Filter} {event : Event}
    (h : filter.allows event.level = true) (hne : filter ≠ some .warn) :
    filter.allows .info = true := by
  have hrank := one_le_rank event
  cases filter with
  | none => contradiction
  | some least =>
    have hevent : event.level.rank ≤ least.rank := by simpa [allows] using h
    cases least with
    | error => exact absurd (Nat.le_trans hrank hevent) (by decide)
    | warn => exact absurd rfl hne
    | info | debug | trace => rfl

end Criteria.Log

namespace Criteria.CommandLine

open Log

/-- The happenings of a call that its filter lets through. -/
def Invocation.shown (environment : Environment) (files : Files) (invocation : Invocation) :
    List Happening :=
  (invocation.task.happenings files).filter fun happening =>
    (invocation.logConfig environment).filter.allows happening.event.level

/-- The log of a call has the line of each happening that is shown. -/
theorem Invocation.log_eq (environment : Environment) (files : Files) (invocation : Invocation) :
    (invocation.answer environment files).log =
      (invocation.shown environment files).map fun happening =>
        (invocation.logConfig environment).line happening.entry := by
  have hlog : (invocation.answer environment files).log =
      (invocation.logConfig environment).lines (invocation.task.run files).entries := by
    rw [answer]
    split <;> rfl
  rw [hlog, Config.lines, Task.entries_run, List.filter_map, List.map_map]
  rfl

/-- The log of a call tells the events of the happenings that its filter lets through, one in a
line. Each line names the vector that was under way at the time, or none if there was none, unless
the filter stops at warnings and one of these is about a vector. A filter that stops at warnings
hides all vectors. -/
theorem log_names_vectors (environment : Environment) (files : Files) (invocation : Invocation) :
    let filter := (invocation.logConfig environment).filter
    let shown := invocation.shown environment files
    let log := (invocation.answer environment files).log
    List.Forall₂ (fun happening line => line.Tells happening.event) shown log ∧
    (List.Forall₂ (fun happening line => line.Places happening.vector) shown log ↔
      (filter = some .warn → ∀ happening ∈ shown, happening.vector = none)) ∧
    (filter = some .warn → ∀ line ∈ log, line.Places none) := by
  intro filter shown log
  have hidden (hwarn : filter = some .warn) (happening : Happening) :
      ((invocation.logConfig environment).line happening.entry).Places none := by
    have hallows : ¬filter.allows .info = true := by
      rw [hwarn]
      decide
    rw [Config.line_entry, if_neg hallows]
    exact places_lineOf _ none happening.event
  simp only [log, shown, Invocation.log_eq, List.forall₂_map_right_iff, List.forall₂_same,
    List.forall_mem_map]
  refine ⟨fun happening _ => ?_, ⟨fun hall hwarn happening hshown => ?_, ?_⟩, ?_⟩
  · rw [Config.line_entry]
    exact tells_lineOf _ _ happening.event
  · exact (hall happening hshown).eq_none (hidden hwarn happening)
  · intro hnone happening hshown
    by_cases hwarn : filter = some .warn
    · rw [hnone hwarn happening hshown]
      exact hidden hwarn happening
    · have hallows := Filter.allows_info_of_allows (List.mem_filter.mp hshown).2 hwarn
      rw [Config.line_entry, if_pos hallows]
      exact places_lineOf _ happening.vector happening.event
  · intro hwarn happening _
    exact hidden hwarn happening

/-- A filter that stops at warnings shows that an override of a suite names no criterion, but not in
which vector. -/
theorem log_hides_vector_at_warn :
    let environment : Environment := fun name => if name = "RUST_LOG" then some "warn" else none
    let files : Files := fun path => .ofText (if path = "c.txt" then
        "ExclusiveCriterion Mood : mad sad glad\nInclusiveCriterion Colors : red green blue\n"
      else "\x7b\"cases\":[\x7b\"name\":\"k\",\"criteria\":" ++
        "\x7b\"Mood\":\"mad\",\"Ghost\":\"g\"\x7d\x7d]\x7d")
    let invocation : Invocation := ⟨.generate "c.txt" "s.json" false, true, false⟩
    let shown := invocation.shown environment files
    let log := (invocation.answer environment files).log
    shown = [⟨.unknownOverride "Ghost", some "k"⟩] ∧
      log = [.text " WARN event=\"vector.unknown_override\" criterion=Ghost"] ∧
      ¬List.Forall₂ (fun happening line => line.Places happening.vector) shown log := by
  intro environment files invocation shown log
  have hshown : shown = [⟨.unknownOverride "Ghost", some "k"⟩] := by decide +kernel
  have hlog : log = [.text " WARN event=\"vector.unknown_override\" criterion=Ghost"] := by
    have hfilter : invocation.logConfig environment = ⟨some .warn, false⟩ := by decide +kernel
    have hline : textLine [] (.unknownOverride "Ghost") =
        " WARN event=\"vector.unknown_override\" criterion=Ghost" := by decide +kernel
    change (invocation.answer environment files).log = _
    rw [Invocation.log_eq, hfilter]
    change shown.map _ = _
    rw [hshown, ← hline]
    rfl
  refine ⟨hshown, hlog, ?_⟩
  rw [hshown, hlog]
  intro hall
  obtain ⟨hnames, -⟩ := List.forall₂_cons.mp hall
  have hsixth := Line.Names.getElem?_text hnames
  exact absurd hsixth (by decide +kernel)

end Criteria.CommandLine
