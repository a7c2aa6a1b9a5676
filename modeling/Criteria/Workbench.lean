import Criteria.EffectiveState
import Criteria.Generation
import Criteria.Push

/-!
# The workbench

A workbench holds what one works with step by step: a registry, criteria and vectors in named slots,
an effective state, and a daemon that notes the commands it gets and refuses those it is told to
refuse. A step that fails changes nothing, except that a push that is stopped has already sent its
commands up to the one that is refused.
-/

namespace Criteria

/-- Things in slots, by the name of the slot. -/
abbrev Slots (α : Type) := Std.ExtTreeMap String α

/-- What one works with. -/
structure Workbench where
  /-- The registry. -/
  registry : Registry
  /-- The criteria. -/
  criteria : Slots Criterion
  /-- The vectors. -/
  vectors : Slots TestVector
  /-- The effective state. -/
  state : EffectiveState
  /-- The names of commands that the daemon refuses, with its errors. -/
  refusals : List (String × String)
  /-- The commands that the daemon got, the earliest first. -/
  sent : List Command

namespace Workbench

/-- Nothing is there yet. -/
def empty : Workbench := ⟨.empty, ∅, ∅, .empty, [], []⟩

/-- A step. -/
inductive Step where
  /-- Register a definition. -/
  | register (definition : Definition)
  /-- Replace the registry by the definitions of a text. -/
  | loadText (text : String)
  /-- Look a name up in the registry. -/
  | lookup (name : String)
  /-- Ask whether a criterion of the registry allows a value. -/
  | allows (name value : String)
  /-- Put a fresh criterion of the registry into a slot. -/
  | instantiate (slot name : String)
  /-- Put a fresh criterion of a definition into a slot. -/
  | place (slot : String) (definition : Definition)
  /-- Copy a criterion. -/
  | copy (slot source : String)
  /-- Change a criterion. -/
  | change (slot : String) (change : Criterion.Change)
  /-- Look at a criterion and at what it says about a value. -/
  | inspect (slot value : String)
  /-- Generate the baseline. -/
  | baseline (slot name : String)
  /-- Generate a vector. -/
  | vector (slot name testType : String) (overrides : Option Overrides)
  /-- Put a vector together from criteria. -/
  | collect (slot name testType : String) (sources : List String)
  /-- Give a vector another test type. -/
  | retag (slot testType : String)
  /-- Find a criterion of a vector. -/
  | pick (slot name : String)
  /-- Show the assignments of a vector. -/
  | assignments (slot : String)
  /-- Show the report of a vector. -/
  | report (slot : String)
  /-- Ask whether vectors have the same digest. -/
  | sameDigest (slots : List String)
  /-- Apply a vector to the effective state. -/
  | effect (slot : String)
  /-- Show the values in effect for a name. -/
  | effectOf (name : String)
  /-- Start a new effective state. -/
  | resetEffect
  /-- Tell the daemon to refuse a command. -/
  | refuse (command error : String)
  /-- Send a command straight to the daemon. -/
  | send (command : Command)
  /-- Push a vector. -/
  | push (slot : String)
  /-- Push vectors. -/
  | pushAll (slots : List String)
  /-- Push vectors to another daemon, which replies from a script. -/
  | pushScripted (slots : List String) (script : List ScriptedReply)
  /-- Show the commands that the daemon got. -/
  | sent
  /-- Forget the commands that the daemon got. -/
  | clear

/-- Why a step fails. -/
inductive Trouble where
  /-- There is no criterion in the slot. -/
  | noCriterion (slot : String)
  /-- There is no vector in the slot. -/
  | noVector (slot : String)
  /-- The change is for inclusive criteria only. -/
  | notInclusive
  /-- The change is for exclusive criteria only. -/
  | notExclusive
  /-- What the step asks for failed. -/
  | fault (fault : Fault)
  deriving DecidableEq, Repr

/-- What a step shows. -/
inductive View where
  | done
  | registered (definition : Definition) (names : List String)
  | names (names : List String)
  | found (taken : Bool) (definition : Option Definition) (size : Nat)
  | allowed (answer : Option Bool)
  | criterion (criterion : Option Criterion)
  | changed (trouble : Option Trouble) (criterion : Criterion)
  | inspected (value : String) (criterion : Criterion)
  | vector (vector : TestVector)
  | assignments (assignments : List Assignment)
  | report (report : VectorReport)
  | same (answer : Bool)
  | state (names : List String) (state : EffectiveState)
  | values (values : Option (List String))
  | fresh (answer : Bool)
  | replied (reply : Reply)
  | pushed (report : PushReport)
  | pushedAll (reports : List PushReport)
  | scripted (outcome : Except Fault (List PushReport)) (sent : List Command)
  | sent (commands : List Command)

/-- What a step leaves behind. -/
structure Result where
  /-- The workbench after the step. -/
  workbench : Workbench
  /-- The log entries that the step wrote. -/
  entries : List Entry
  /-- What the step shows, or why it failed. -/
  view : Except Trouble View

/-- A step that only shows something. -/
def shows (workbench : Workbench) (view : View) : Result := ⟨workbench, [], .ok view⟩

/-- A step that fails. -/
def fails (workbench : Workbench) (trouble : Trouble) : Result := ⟨workbench, [], .error trouble⟩

/-- A step that computes something and, if that succeeds, changes the workbench. -/
def computes {α : Type} (workbench : Workbench) (computation : Traced α)
    (next : α → Workbench × View) : Result :=
  match computation.outcome with
  | .error fault => ⟨workbench, computation.entries, .error (.fault fault)⟩
  | .ok value => ⟨(next value).1, computation.entries, .ok (next value).2⟩

/-- Go on with what was found, or fail for what is missing. -/
def withFound {α : Type} (workbench : Workbench) (found : Except Trouble α) (next : α → Result) :
    Result :=
  match found with
  | .error trouble => workbench.fails trouble
  | .ok thing => next thing

/-- Find the thing in a slot. -/
def inSlot {α : Type} (things : Slots α) (missing : String → Trouble) (slot : String) :
    Except Trouble α :=
  match things[slot]? with
  | none => .error (missing slot)
  | some thing => .ok thing

/-- Find the things in some slots. The first slot that is empty is missing. -/
def inSlots {α : Type} (things : Slots α) (missing : String → Trouble) (slots : List String) :
    Except Trouble (List α) :=
  slots.mapM (inSlot things missing)

/-- Go on with the criterion in a slot. -/
def withCriterion (workbench : Workbench) (slot : String) (next : Criterion → Result) : Result :=
  workbench.withFound (inSlot workbench.criteria .noCriterion slot) next

/-- Go on with the vector in a slot. -/
def withVector (workbench : Workbench) (slot : String) (next : TestVector → Result) : Result :=
  workbench.withFound (inSlot workbench.vectors .noVector slot) next

/-- Go on with the criteria in some slots. -/
def withCriteria (workbench : Workbench) (slots : List String) (next : List Criterion → Result) :
    Result :=
  workbench.withFound (inSlots workbench.criteria .noCriterion slots) next

/-- Go on with the vectors in some slots. -/
def withVectors (workbench : Workbench) (slots : List String) (next : List TestVector → Result) :
    Result :=
  workbench.withFound (inSlots workbench.vectors .noVector slots) next

/-- Put a criterion into a slot and show it. -/
def keepCriterion (workbench : Workbench) (slot : String) (criterion : Criterion) :
    Workbench × View :=
  ({ workbench with criteria := workbench.criteria.insert slot criterion },
    .criterion (some criterion))

/-- Put a vector into a slot and show it. -/
def keepVector (workbench : Workbench) (slot : String) (vector : TestVector) : Workbench × View :=
  ({ workbench with vectors := workbench.vectors.insert slot vector }, .vector vector)

/-- Why a criterion does not offer a change. -/
def notOffered : Criterion → Trouble
  | .exclusive _ => .notInclusive
  | .inclusive _ => .notExclusive

/-- Change the criterion in a slot. The criterion is shown even if the change fails. -/
def changeCriterion (workbench : Workbench) (slot : String) (change : Criterion.Change) : Result :=
  workbench.withCriterion slot fun criterion =>
    match criterion.change? change with
    | none => workbench.shows (.changed (some (notOffered criterion)) criterion)
    | some computation =>
      match computation.outcome with
      | .error fault =>
        ⟨workbench, computation.entries, .ok (.changed (some (.fault fault)) criterion)⟩
      | .ok changed =>
        ⟨(workbench.keepCriterion slot changed).1, computation.entries, .ok (.changed none changed)⟩

/-- Push something to the daemon of the workbench, which notes the commands. -/
def pushes {α : Type} (workbench : Workbench) (push : Daemon → Push α) (view : α → View) : Result :=
  let exchange := push (.refusing workbench.refusals) workbench.sent
  let noted := { workbench with sent := workbench.sent ++ exchange.sent }
  ⟨noted, exchange.traced.entries, (exchange.traced.outcome.mapError .fault).map view⟩

/-- Do a step. -/
def step (workbench : Workbench) : Step → Result
  | .register definition =>
    workbench.computes (workbench.registry.register definition) fun registry =>
      ({ workbench with registry := registry }, .registered definition registry.names)
  | .loadText text =>
    workbench.computes (Registry.ofText text) fun registry =>
      ({ workbench with registry := registry }, .names registry.names)
  | .lookup name =>
    workbench.shows (.found (workbench.registry.contains name) (workbench.registry.find? name)
      workbench.registry.size)
  | .allows name value =>
    workbench.shows (.allowed ((workbench.registry.find? name).map (·.allows value)))
  | .instantiate slot name =>
    match workbench.registry.find? name with
    | none => workbench.shows (.criterion none)
    | some definition => workbench.computes (pure definition.fresh) (workbench.keepCriterion slot)
  | .place slot definition =>
    workbench.computes (pure definition.fresh) (workbench.keepCriterion slot)
  | .copy slot source =>
    workbench.withCriterion source fun criterion =>
      workbench.computes (pure criterion) (workbench.keepCriterion slot)
  | .change slot change => workbench.changeCriterion slot change
  | .inspect slot value =>
    workbench.withCriterion slot fun criterion => workbench.shows (.inspected value criterion)
  | .baseline slot name =>
    workbench.computes (workbench.registry.baseline name) (workbench.keepVector slot)
  | .vector slot name testType overrides =>
    workbench.computes (workbench.registry.vector name testType overrides)
      (workbench.keepVector slot)
  | .collect slot name testType sources =>
    workbench.withCriteria sources fun criteria =>
      workbench.computes (pure ⟨name, testType, criteria⟩) (workbench.keepVector slot)
  | .retag slot testType =>
    workbench.withVector slot fun vector =>
      workbench.computes (pure (vector.retag testType)) (workbench.keepVector slot)
  | .pick slot name =>
    workbench.withVector slot fun vector => workbench.shows (.criterion (vector.find? name))
  | .assignments slot =>
    workbench.withVector slot fun vector => workbench.shows (.assignments vector.assignments)
  | .report slot =>
    workbench.withVector slot fun vector => workbench.shows (.report vector.report)
  | .sameDigest slots =>
    workbench.withVectors slots fun vectors =>
      workbench.shows (.same
        (vectors.all fun vector => vectors.head?.all fun first => first.digest = vector.digest))
  | .effect slot =>
    workbench.withVector slot fun vector =>
      let state := workbench.state.apply vector
      ⟨{ workbench with state := state }, [], .ok (.state workbench.registry.names state)⟩
  | .effectOf name => workbench.shows (.values (workbench.state.find? name))
  | .resetEffect =>
    ⟨{ workbench with state := .empty }, [], .ok (.fresh (workbench.state = .empty))⟩
  | .refuse command error =>
    ⟨{ workbench with refusals := workbench.refusals ++ [(command, error)] }, [], .ok .done⟩
  | .send command =>
    workbench.pushes (fun daemon past =>
      ⟨[command], Traced.ofExcept (daemon past command)⟩) .replied
  | .push slot =>
    workbench.withVector slot fun vector => workbench.pushes vector.push .pushed
  | .pushAll slots =>
    workbench.withVectors slots fun vectors =>
      workbench.pushes (TestVector.pushAll · vectors) .pushedAll
  | .pushScripted slots script =>
    workbench.withVectors slots fun vectors =>
      let exchange := TestVector.pushAll (.scripted script) vectors []
      ⟨workbench, exchange.traced.entries, .ok (.scripted exchange.traced.outcome exchange.sent)⟩
  | .sent => workbench.shows (.sent workbench.sent)
  | .clear => ⟨{ workbench with sent := [] }, [], .ok (.sent [])⟩

/-- Do steps in order, and return what each left behind. -/
def steps (workbench : Workbench) : List Step → List Result
  | [] => []
  | next :: rest =>
    let result := workbench.step next
    result :: result.workbench.steps rest

end Workbench

end Criteria
