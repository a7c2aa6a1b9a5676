import Criteria.Proofs.Tasks

/-!
# Which vector was under way

What a task writes into its log, told without the log: the events in order, and with each the vector
that was being generated or pushed when it happened, if one was. A case of a suite is generated
inside its vector, and a vector is pushed inside itself. Everything else, the reading of files and
the baseline of a registry included, happens while no vector is under way. No vector is ever under
way inside another one.
-/

namespace Criteria

variable {α β : Type}

/-- An event and the vector that was under way when it happened, if one was. -/
structure Happening where
  /-- What happened. -/
  event : Event
  /-- The name of the vector that was being generated or pushed. -/
  vector : Option String
  deriving DecidableEq, Repr

namespace Happening

/-- Events that happened while one vector was under way, or while none was. -/
def during (vector : Option String) (events : List Event) : List Happening :=
  events.map fun event => ⟨event, vector⟩

/-- The entry of the log for a happening. -/
def entry (happening : Happening) : Entry := ⟨happening.event, happening.vector.toList⟩

/-- Around the entries of what happens while no vector is under way there is none. -/
theorem map_entry_during_none (events : List Event) :
    (during none events).map entry = events.map Event.entry := by
  rw [during, List.map_map]
  rfl

end Happening

/-! ## Computations without vectors -/

namespace Traced

/-- The events that a computation writes. -/
def events (computation : Traced α) : List Event := computation.entries.map Entry.event

/-- What is written at the end of a computation, if it comes to its end. -/
def closing (computation : Traced α) (events : List Event) : List Event :=
  match computation.outcome with
  | .ok _ => events
  | .error _ => []

/-- Nothing that a computation writes is inside a vector. -/
def Bare (computation : Traced α) : Prop := ∀ entry ∈ computation.entries, entry.vectors = []

theorem bare_pure (value : α) : (pure value : Traced α).Bare := nofun

theorem bare_emit (event : Event) : (emit event).Bare := List.forall_mem_singleton.mpr rfl

theorem bare_emitAll (events : List Event) : (emitAll events).Bare :=
  List.forall_mem_map.mpr fun _ _ => rfl

theorem bare_fail (fault : Fault) : (fail fault : Traced α).Bare := nofun

theorem bare_ofExcept (result : Except Fault α) : (ofExcept result).Bare := nofun

theorem Bare.bind {first : Traced α} {next : α → Traced β} (hfirst : first.Bare)
    (hnext : ∀ value, (next value).Bare) : (first >>= next).Bare := by
  rw [Bare, entries_bind]
  refine List.forall_mem_append.mpr ⟨hfirst, ?_⟩
  split
  · exact hnext _
  · exact nofun

theorem Bare.map {computation : Traced α} (h : computation.Bare) (change : α → β) :
    (change <$> computation).Bare :=
  h.bind fun value => bare_pure (change value)

theorem Bare.ite {condition : Prop} [Decidable condition] {first second : Traced α}
    (hfirst : first.Bare) (hsecond : second.Bare) : (if condition then first else second).Bare := by
  split
  · exact hfirst
  · exact hsecond

/-- A computation without vectors writes its events and nothing around them. -/
theorem Bare.entries_eq {computation : Traced α} (h : computation.Bare) :
    computation.entries = computation.events.map Event.entry := by
  rw [events, List.map_map]
  refine (List.map_id' computation.entries).symm.trans (List.map_congr_left fun entry hentry => ?_)
  exact congrArg (Entry.mk entry.event) (h entry hentry)

/-- Events that are written inside a vector happen while it is under way. -/
theorem entries_within {computation : Traced α} {events : List Event}
    (h : computation.entries = events.map Event.entry) (vector : String) :
    (within vector computation).entries =
      (Happening.during (some vector) events).map Happening.entry := by
  rw [within, h, Happening.during, List.map_map, List.map_map]
  rfl

end Traced

/-! ## Generating -/

theorem Definition.bare_reject (definition : Definition) (value : String) :
    (definition.reject value : Traced α).Bare :=
  (Traced.bare_emit _).bind fun _ => Traced.bare_fail _

theorem Criterion.bare_applyRaw (criterion : Criterion) (raw : String) :
    (criterion.applyRaw raw).Bare := by
  cases criterion with
  | exclusive criterion =>
    exact ((Traced.bare_pure _).ite (criterion.definition.bare_reject _)).map _
  | inclusive criterion =>
    refine Traced.Bare.map (Traced.Bare.ite (criterion.definition.bare_reject _)
      (.ite (Traced.bare_pure _) ?_)) _
    split
    · exact criterion.definition.bare_reject _
    · exact Traced.bare_pure _

theorem bare_deltaCriteria (overrides : Overrides) (definitions : List Definition) :
    (deltaCriteria overrides definitions).Bare := by
  induction definitions with
  | nil => exact Traced.bare_pure _
  | cons definition rest ih =>
    rw [deltaCriteria]
    split
    · exact ih
    · exact (definition.fresh.bare_applyRaw _).bind fun _ => ih.bind fun _ => Traced.bare_pure _

/-- Generating a vector puts none around what it writes. -/
theorem Registry.bare_vector (registry : Registry) (name testType : String)
    (overrides : Option Overrides) : (registry.vector name testType overrides).Bare := by
  refine Traced.Bare.bind ?_ fun _ => Traced.bare_pure _
  cases overrides with
  | none => exact (Traced.bare_emit _).bind fun _ => Traced.bare_pure _
  | some overrides =>
    exact (Traced.bare_emitAll _).bind fun _ => (bare_deltaCriteria overrides _).bind fun _ =>
      (Traced.bare_emit _).bind fun _ => Traced.bare_pure _

/-- What happens while the cases of a suite are generated: what each vector takes, inside that
vector, up to the first case that fails. -/
def TestCase.happenings (registry : Registry) : List TestCase → List Happening
  | [] => []
  | testCase :: rest =>
    Happening.during (some testCase.name)
        (registry.vector testCase.name testCase.testType testCase.criteria).events ++
      match (testCase.generate registry).outcome with
      | .ok _ => TestCase.happenings registry rest
      | .error _ => []

/-- The entries of a suite. -/
theorem TestSuite.entries_generateAll (registry : Registry) (suite : TestSuite) :
    (suite.generateAll registry).entries =
      (TestCase.happenings registry suite.cases).map Happening.entry := by
  rw [generateAll]
  induction suite.cases with
  | nil => rfl
  | cons testCase rest ih =>
    have hbare := registry.bare_vector testCase.name testCase.testType testCase.criteria
    have hentries : (testCase.generate registry).entries =
        (Happening.during (some testCase.name)
          (registry.vector testCase.name testCase.testType testCase.criteria).events).map
            Happening.entry :=
      Traced.entries_within hbare.entries_eq testCase.name
    rw [List.mapM_cons, Traced.entries_bind, hentries, TestCase.happenings, List.map_append]
    cases (testCase.generate registry).outcome with
    | error fault => rfl
    | ok vector =>
      simp only [bind_pure_comp, Traced.entries_map, ih]

/-! ## Pushing -/

/-- Handing over a command is an event. -/
def Command.event (command : Command) : Event := .commandSent command.name command.args

namespace Push

/-- A push writes an event for each command that it hands over, and some more when it comes to its
end. -/
def Records (last : List Event) (push : Push α) : Prop :=
  ∀ past, (push past).traced.entries =
    ((push past).sent.map Command.event ++ (push past).traced.closing last).map Event.entry

theorem records_pure (value : α) : (pure value : Push α).Records [] := fun _ => rfl

theorem records_transmit (daemon : Daemon) (command : Command) :
    (transmit daemon command).Records [] := by
  intro past
  have hsent : (transmit daemon command past).sent = [command] := rfl
  have hentries : (transmit daemon command past).traced.entries = [command.event.entry] := by
    rw [transmit, Traced.bind_of_ok rfl, Traced.entries_bind]
    cases daemon past command with
    | error fault => rfl
    | ok reply =>
      dsimp only [Traced.ofExcept]
      split <;> rfl
  rw [hsent, hentries, Traced.closing]
  split <;> rfl

/-- Two pushes in a row write what the first does and then, if that came to its end, what the second
does. -/
theorem Records.bind {last : List Event} {first : Push α} {next : α → Push β}
    (hfirst : first.Records [])
    (hnext : ∀ past value, (first past).traced.outcome = .ok value →
      (next value).Records last) : (first >>= next).Records last := by
  intro past
  have hentries := hfirst past
  cases h : (first past).traced.outcome with
  | error fault =>
    rw [Traced.closing, h] at hentries
    rw [bind_of_error h]
    exact hentries
  | ok value =>
    rw [Traced.closing, h, List.append_nil] at hentries
    rw [bind_of_ok h]
    simp only [hentries, hnext past value h _, List.map_append, List.append_assoc]
    rfl

theorem records_transmitAll (daemon : Daemon) (commands : List Command) :
    (transmitAll daemon commands).Records [] := by
  induction commands with
  | nil => exact records_pure []
  | cons command rest ih =>
    exact (records_transmit daemon command).bind fun _ reply _ =>
      ih.bind fun _ replies _ => records_pure (reply :: replies)

end Push

/-- What happens while a vector is pushed: each command that is sent is handed over and then, if the
push comes to its end, the vector is in effect. -/
theorem TestVector.entries_push (daemon : Daemon) (vector : TestVector) (past : List Command) :
    let run := vector.push daemon past
    run.traced.entries = (Happening.during (some vector.name) (run.sent.map Command.event ++
      run.traced.closing [.vectorApplied vector.name vector.testType vector.criteria.length])).map
        Happening.entry := by
  intro run
  let applied : Event := .vectorApplied vector.name vector.testType vector.criteria.length
  let inner : Push PushReport := do
    let replies ← Push.transmitAll daemon (vector.assignments.map Command.set)
    let last ← Push.transmit daemon Command.apply
    Push.ofTraced (Traced.emit (.vectorApplied vector.name vector.testType replies.length))
    return ⟨vector.name, replies.length, replies ++ [last]⟩
  -- The report counts the replies, which are as many as the criteria where none was an error.
  have hinner : inner.Records [applied] := by
    refine (Push.records_transmitAll daemon _).bind fun past replies hreplies => ?_
    have hlength : replies.length = vector.criteria.length := by
      simpa [assignments] using Push.length_of_transmitAll hreplies
    refine (Push.records_transmit daemon Command.apply).bind fun _ last _ => ?_
    rw [hlength]
    exact fun _ => rfl
  exact Traced.entries_within (hinner past) vector.name

/-- What happens while a vector is pushed to a daemon that accepts every command. -/
def TestVector.happenings (vector : TestVector) : List Happening :=
  Happening.during (some vector.name) (vector.commands.map Command.event ++
    [.vectorApplied vector.name vector.testType vector.criteria.length])

/-- The entries of a push to a daemon that accepts every command. -/
theorem TestVector.entries_push_of_willing {daemon : Daemon} (hwilling : daemon.Willing)
    (vector : TestVector) (past : List Command) :
    (vector.push daemon past).traced.entries = vector.happenings.map Happening.entry := by
  obtain ⟨⟨report, hreport⟩, hsent⟩ := (vector.delivers_push daemon past).of_willing hwilling
  rw [entries_push, hsent, Traced.closing, hreport]
  rfl

/-! ## Tasks -/

/-- Reading a registry puts no vector around what it writes. -/
theorem Registry.bare_ofFile (file : FileState) : (Registry.ofFile file).Bare := by
  have hload : (Definition.loadFile file).Bare :=
    (Traced.bare_ofExcept _).bind fun _ => (Traced.bare_ofExcept _).bind fun _ =>
      (Traced.bare_emit _).bind fun _ => Traced.bare_pure _
  refine hload.bind fun definitions => ?_
  -- What is registered may be new or taken, so the induction is over any registry.
  rw [registerAll]
  generalize Registry.empty = registry
  induction definitions generalizing registry with
  | nil => exact Traced.bare_pure registry
  | cons definition rest ih =>
    exact ((Traced.bare_emit _).bind fun _ => Traced.bare_pure _).bind fun registry => ih registry

namespace CommandLine

/-- What happens while both files are read and the suite is generated. -/
def loadHappenings (files : Files) (criteria suite : String) : List Happening :=
  Happening.during none (Registry.ofFile (files criteria)).events ++
    match (Registry.ofFile (files criteria)).outcome, TestSuite.ofFile (files suite) with
    | .ok registry, .ok suite => TestCase.happenings registry suite.cases
    | _, _ => []

/-- What happens while a task is done. -/
def Task.happenings (files : Files) : Task → List Happening
  | .list criteria =>
    Happening.during none ((Registry.ofFile (files criteria)).events ++
      match (Registry.ofFile (files criteria)).outcome with
      | .ok registry => [.criteriaListed registry.size]
      | .error _ => [])
  | .baseline criteria name _ =>
    Happening.during none ((Registry.ofFile (files criteria)).events ++
      match (Registry.ofFile (files criteria)).outcome with
      | .ok registry => (registry.baseline name).events
      | .error _ => [])
  | .generate criteria suite _ =>
    loadHappenings files criteria suite ++
      match (loadVectors files criteria suite).outcome with
      | .ok vectors => Happening.during none [.vectorsPrinted vectors.length]
      | .error _ => []
  | .plan criteria suite =>
    loadHappenings files criteria suite ++
      match (loadVectors files criteria suite).outcome with
      | .ok vectors => vectors.flatMap TestVector.happenings
      | .error _ => []

/-- A computation that is run and continued writes its entries and then, if it gave a value, those
of the rest. -/
theorem Console.entries_run_bind (context : String) (computation : Traced α)
    (next : α → Console β) :
    (Console.run context computation >>= next).entries = computation.entries ++
      match computation.outcome with
      | .ok value => (next value).entries
      | .error _ => [] := by
  rw [entries_bind, run]
  cases computation.outcome <;> rfl

/-- The entries of reading both files and generating the suite. -/
theorem entries_loadVectors (files : Files) (criteria suite : String) :
    (loadVectors files criteria suite).entries =
      (loadHappenings files criteria suite).map Happening.entry := by
  rw [loadVectors, loadRegistry, Console.entries_run_bind, loadHappenings, List.map_append,
    Happening.map_entry_during_none, (Registry.bare_ofFile _).entries_eq]
  congr 1
  cases (Registry.ofFile (files criteria)).outcome with
  | error fault => rfl
  | ok registry =>
    simp only [Console.entries_run_bind, Traced.ofExcept, List.nil_append]
    cases TestSuite.ofFile (files suite) with
    | error fault => rfl
    | ok cases => exact cases.entries_generateAll registry

/-- The entries of a task are those of what happens while it is done. -/
theorem Task.entries_run (files : Files) (task : Task) :
    (task.run files).entries = (task.happenings files).map Happening.entry := by
  cases task with
  | list criteria =>
    rw [run, happenings, loadRegistry, Console.entries_run_bind, Happening.map_entry_during_none,
      List.map_append, (Registry.bare_ofFile _).entries_eq]
    congr 1
    cases (Registry.ofFile (files criteria)).outcome <;> rfl
  | baseline criteria name json =>
    rw [run, happenings, loadRegistry, Console.entries_run_bind, Happening.map_entry_during_none,
      List.map_append, (Registry.bare_ofFile _).entries_eq]
    congr 1
    cases (Registry.ofFile (files criteria)).outcome with
    | error fault => rfl
    | ok registry =>
      obtain ⟨vector, hvector⟩ := registry.exists_baseline name
      have hbare : (registry.baseline name).Bare := registry.bare_vector _ _ _
      simp only [Console.entries_run_bind, hvector]
      rw [hbare.entries_eq]
      exact List.append_nil _
  | generate criteria suite json =>
    rw [run, happenings, Console.entries_bind, entries_loadVectors, List.map_append]
    congr 1
    cases (loadVectors files criteria suite).outcome <;> rfl
  | plan criteria suite =>
    rw [run, happenings, Console.entries_bind, entries_loadVectors, List.map_append]
    congr 1
    cases (loadVectors files criteria suite).outcome with
    | error report => rfl
    | ok vectors =>
      simp only [planVectors_eq, List.map_flatMap,
        TestVector.entries_push_of_willing Daemon.willing_silent]

end CommandLine

end Criteria
