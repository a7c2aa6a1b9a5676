import Criteria.Proofs.Refusals
import Criteria.Workbench

/-!
# Steps that fail

A step of a workbench that fails changes nothing, except that a push that is stopped has sent its
commands up to the one that is refused. This is stated for one step first.

So steps that fail can be left out: the others show the same without them, apart from the list of
the commands sent, and leave the same workbench apart from that list. For that it is enough that a
daemon that is told what to refuse does not heed what it got before, and that no other step reads
the list.
-/

namespace Criteria

variable {α β : Type}

/-! ## Pushes to a daemon that does not heed what it got before -/

/-- A push that goes the same way whatever the daemon got before. -/
def Push.Heedless (push : Push α) : Prop := ∀ past other, push past = push other

namespace Push

/-- Two heedless pushes in a row are heedless. -/
theorem Heedless.bind {first : Push α} {next : α → Push β} (hfirst : first.Heedless)
    (hnext : ∀ value, (next value).Heedless) : (first >>= next).Heedless := by
  intro past other
  have hsame := hfirst past other
  cases h : (first past).traced.outcome with
  | error fault => rw [bind_of_error h, bind_of_error (hsame ▸ h), hsame]
  | ok value =>
    rw [bind_of_ok h, bind_of_ok (hsame ▸ h), hsame, hnext value (past ++ _) (other ++ _)]

/-- What hands over nothing is heedless. -/
theorem heedless_ofTraced (traced : Traced α) : (ofTraced traced).Heedless := fun _ _ => rfl

/-- A push inside a vector is as heedless as outside. -/
theorem Heedless.within {push : Push α} (h : push.Heedless) (vector : String) :
    (Push.within vector push).Heedless := by
  intro past other
  rw [Push.within, Push.within, h past other]

variable (refusals : List (String × String))

/-- A daemon that is told what to refuse replies to a command whatever it got before. -/
theorem heedless_transmit (command : Command) :
    (transmit (.refusing refusals) command).Heedless := fun _ _ => rfl

/-- So it does to commands one after another. -/
theorem heedless_transmitAll (commands : List Command) :
    (transmitAll (.refusing refusals) commands).Heedless := by
  induction commands with
  | nil => exact heedless_ofTraced _
  | cons command rest ih =>
    exact (heedless_transmit refusals command).bind fun reply =>
      ih.bind fun replies => heedless_ofTraced _

end Push

namespace TestVector

variable (refusals : List (String × String))

/-- A push of a vector to a daemon that is told what to refuse is heedless. -/
theorem heedless_push (vector : TestVector) : (vector.push (.refusing refusals)).Heedless :=
  ((Push.heedless_transmitAll refusals _).bind fun _ =>
    (Push.heedless_transmit refusals _).bind fun _ =>
      (Push.heedless_ofTraced _).bind fun _ => Push.heedless_ofTraced _).within vector.name

/-- A push of vectors to a daemon that is told what to refuse is heedless. -/
theorem heedless_pushAll (vectors : List TestVector) :
    (pushAll (.refusing refusals) vectors).Heedless := by
  induction vectors with
  | nil => exact Push.heedless_ofTraced _
  | cons vector rest ih =>
    exact (heedless_push refusals vector).bind fun report =>
      ih.bind fun reports => Push.heedless_ofTraced _

end TestVector

namespace Workbench

/-! ## One step that fails -/

/-- Tell whether a step says by what it shows that it failed. -/
def View.failed : View → Bool
  | .changed trouble _ => trouble.isSome
  | .scripted (.error _) _ => true
  | _ => false

/-- Tell whether a step failed. -/
def Result.failed (result : Result) : Bool :=
  match result.view with
  | .error _ => true
  | .ok view => view.failed

/-- A result of a step that leaves the workbench as it was, if the step failed. -/
def Spares (workbench : Workbench) (result : Result) : Prop :=
  result.failed = true → result.workbench = workbench

section Spares

variable {workbench : Workbench}

/-- A step that fails in what it computes changes nothing. -/
theorem spares_computes {computation : Traced α} {next : α → Workbench × View}
    (h : ∀ value, (next value).2.failed = false) :
    workbench.Spares (workbench.computes computation next) := by
  unfold computes
  split
  · exact fun _ => rfl
  · intro hfailed
    simp [Result.failed, h] at hfailed

/-- A step that goes on with what was found changes nothing if something is missing. -/
theorem spares_withFound {found : Except Trouble α} {next : α → Result}
    (h : ∀ thing, workbench.Spares (next thing)) :
    workbench.Spares (workbench.withFound found next) := by
  unfold withFound
  split
  · exact fun _ => rfl
  · exact h _

/-- A change that fails leaves the criterion in its slot. -/
theorem spares_changeCriterion (slot : String) (change : Criterion.Change) :
    workbench.Spares (workbench.changeCriterion slot change) := by
  refine spares_withFound fun criterion => ?_
  split
  · exact fun _ => rfl
  · split
    · exact fun _ => rfl
    · exact nofun

end Spares

/-- The commands that a step has for the daemon of the workbench. -/
inductive Streams (workbench : Workbench) : Step → List Command → Prop where
  | push {slot : String} {vector : TestVector}
    (h : inSlot workbench.vectors .noVector slot = .ok vector) :
    Streams workbench (.push slot) vector.commands
  | pushAll {slots : List String} {vectors : List TestVector}
    (h : inSlots workbench.vectors .noVector slots = .ok vectors) :
    Streams workbench (.pushAll slots) (vectors.flatMap TestVector.commands)

/-- A push of some commands was stopped: one of them is to be refused, none before it is, and all up
to that one were sent. -/
def Stopped (workbench : Workbench) (stream : List Command) (result : Workbench) : Prop :=
  ∃ before command after, stream = before ++ command :: after ∧
    (∀ earlier ∈ before, ∀ error, ¬Daemon.Refuses workbench.refusals earlier error) ∧
    (∃ error, Daemon.Refuses workbench.refusals command error) ∧
    result = { workbench with sent := workbench.sent ++ (before ++ [command]) }

/-- A push that fails was stopped. -/
theorem stopped_of_pushes {workbench : Workbench} {push : Daemon → Push α} {view : α → View}
    {stream : List Command}
    (hdelivers : (push (.refusing workbench.refusals)).Delivers (.refusing workbench.refusals)
      stream)
    (hview : ∀ value, (view value).failed = false)
    (h : (workbench.pushes push view).failed = true) :
    workbench.Stopped stream (workbench.pushes push view).workbench := by
  cases hdelivers workbench.sent with
  | completed value outcome sent accepted =>
    rw [pushes, Result.failed, outcome] at h
    exact absurd ((hview value).symm.trans h) Bool.false_ne_true
  | stopped fault before command after outcome split sent accepted refused =>
    refine ⟨before, command, after, split, Daemon.accepted_refusing_iff.mp accepted, ?_, ?_⟩
    · have hrefused := mt (Daemon.accepts_refusing_iff _).mpr (Bool.eq_false_iff.mp refused)
      simpa using hrefused
    · rw [pushes, sent]

/-- A push of what was found fails because it was stopped, or else nothing was found. -/
theorem stopped_of_withFound_pushes {workbench : Workbench} {found : Except Trouble β}
    {push : β → Daemon → Push α} {view : α → View} {stream : β → List Command}
    (hdelivers : ∀ thing daemon, (push thing daemon).Delivers daemon (stream thing))
    (hview : ∀ value, (view value).failed = false)
    (h : (workbench.withFound found fun thing => workbench.pushes (push thing) view).failed =
      true) :
    let result := workbench.withFound found fun thing => workbench.pushes (push thing) view
    result.workbench = workbench ∨
      ∃ thing, found = .ok thing ∧ workbench.Stopped (stream thing) result.workbench := by
  cases found with
  | error trouble => exact .inl rfl
  | ok thing => exact .inr ⟨thing, rfl, stopped_of_pushes (hdelivers thing _) hview h⟩

open TestVector in
/-- A step that fails leaves the workbench as it was, or it is a push that was stopped. -/
theorem step_of_failed {workbench : Workbench} {step : Step}
    (h : (workbench.step step).failed = true) :
    (workbench.step step).workbench = workbench ∨
      ∃ stream, workbench.Streams step stream ∧
        workbench.Stopped stream (workbench.step step).workbench := by
  cases step with
  | register | loadText | place | baseline | vector =>
    exact .inl (spares_computes (fun _ => rfl) h)
  | lookup | allows | effectOf | sent => contradiction
  | instantiate slot name =>
    have hspares : workbench.Spares (workbench.step (.instantiate slot name)) := by
      simp only [Workbench.step]
      split
      · exact fun _ => rfl
      · exact spares_computes fun _ => rfl
    exact .inl (hspares h)
  | copy | collect | retag =>
    exact .inl (spares_withFound (fun _ => spares_computes fun _ => rfl) h)
  | change slot change => exact .inl (spares_changeCriterion slot change h)
  | inspect | pick | assignments | report | sameDigest | pushScripted =>
    exact .inl (spares_withFound (fun _ _ => rfl) h)
  | effect => exact .inl (spares_withFound (fun _ => nofun) h)
  | resetEffect | refuse | clear => contradiction
  | send command =>
    -- A command that is sent alone may be refused, but the refusal is what the step shows.
    simp only [Workbench.step, pushes, Daemon.refusing_eq] at h
    contradiction
  | push slot =>
    refine (stopped_of_withFound_pushes (fun vector daemon => vector.delivers_push daemon)
      (fun _ => rfl) h).imp_right fun ⟨vector, hfound, hstopped⟩ => ?_
    exact ⟨_, .push hfound, hstopped⟩
  | pushAll slots =>
    refine (stopped_of_withFound_pushes (fun vectors daemon => delivers_pushAll daemon vectors)
      (fun _ => rfl) h).imp_right fun ⟨vectors, hfound, hstopped⟩ => ?_
    exact ⟨_, .pushAll hfound, hstopped⟩

example :
    ((empty.steps [.place "a" ⟨.exclusive, "Mood", ["mad"]⟩, .collect "v" "v" "nominal" ["a"],
      .push "w", .refuse "applyConfigurations" "no", .push "v", .sent]).map Result.failed) =
      [false, false, true, false, true, false] := by
  decide +kernel

/-! ## Steps that are left out -/

/-- What a step shows, without the list of the commands sent. -/
def View.blind : View → View
  | .sent _ => .sent []
  | view => view

/-- A workbench is behind another one: it is the same, except that it sent some of the commands
only. -/
def Behind (first second : Workbench) : Prop :=
  ∃ sent, sent.Sublist second.sent ∧ first = { second with sent := sent }

/-- A result is behind another one: its workbench is, and the step told the same. -/
structure Result.Behind (first second : Result) : Prop where
  workbench : first.workbench.Behind second.workbench
  entries : first.entries = second.entries
  view : first.view.map View.blind = second.view.map View.blind

/-- A workbench is behind itself. -/
theorem Behind.refl (workbench : Workbench) : workbench.Behind workbench :=
  ⟨workbench.sent, .refl _, rfl⟩

/-- A workbench that is behind one that is behind another is behind that one. -/
theorem Behind.trans {first second third : Workbench} (hfirst : first.Behind second)
    (hsecond : second.Behind third) : first.Behind third := by
  obtain ⟨sent, hsent, rfl⟩ := hfirst
  obtain ⟨others, hothers, rfl⟩ := hsecond
  exact ⟨sent, hsent.trans hothers, rfl⟩

/-- A step that fails gets ahead by the commands that it sent at most. -/
theorem behind_step_of_failed {workbench : Workbench} {step : Step}
    (h : (workbench.step step).failed = true) :
    workbench.Behind (workbench.step step).workbench := by
  rcases step_of_failed h with hsame | ⟨stream, -, before, command, after, -, -, -, hstopped⟩
  · rw [hsame]
    exact .refl workbench
  · rw [hstopped]
    exact ⟨workbench.sent, List.sublist_append_left _ _, rfl⟩

section Behind

variable {first second : Workbench}

/-- Workbenches that show the same are as far apart as before. -/
theorem Behind.shows (h : first.Behind second) (view : View) :
    (first.shows view).Behind (second.shows view) := ⟨h, rfl, rfl⟩

/-- Results of what is computed are behind one another if this is so for each value. -/
theorem Behind.computes (h : first.Behind second) (computation : Traced α)
    {next other : α → Workbench × View}
    (hnext : ∀ value, (next value).1.Behind (other value).1 ∧ (next value).2 = (other value).2) :
    (first.computes computation next).Behind (second.computes computation other) := by
  unfold Workbench.computes
  cases computation.outcome with
  | error fault => exact ⟨h, rfl, rfl⟩
  | ok value =>
    obtain ⟨hworkbench, hview⟩ := hnext value
    exact ⟨hworkbench, rfl, by simp [Except.map, hview]⟩

/-- Results of going on with what was found are behind one another if this is so for each thing. -/
theorem Behind.withFound (h : first.Behind second) (found : Except Trouble α)
    {next other : α → Result} (hnext : ∀ thing, (next thing).Behind (other thing)) :
    (first.withFound found next).Behind (second.withFound found other) := by
  cases found with
  | error trouble => exact ⟨h, rfl, rfl⟩
  | ok thing => exact hnext thing

/-- Keeping a criterion keeps workbenches behind one another. -/
theorem Behind.keepCriterion (h : first.Behind second) (slot : String) (criterion : Criterion) :
    (first.keepCriterion slot criterion).1.Behind (second.keepCriterion slot criterion).1 := by
  obtain ⟨sent, hsent, rfl⟩ := h
  exact ⟨sent, hsent, rfl⟩

/-- So does keeping a vector. -/
theorem Behind.keepVector (h : first.Behind second) (slot : String) (vector : TestVector) :
    (first.keepVector slot vector).1.Behind (second.keepVector slot vector).1 := by
  obtain ⟨sent, hsent, rfl⟩ := h
  exact ⟨sent, hsent, rfl⟩

/-- Heedless pushes send the same from workbenches behind one another. -/
theorem Behind.pushes (h : first.Behind second) {push : Daemon → Push α} (view : α → View)
    (hpush : (push (.refusing second.refusals)).Heedless) :
    (first.pushes push view).Behind (second.pushes push view) := by
  obtain ⟨sent, hsent, rfl⟩ := h
  unfold Workbench.pushes
  rw [hpush sent second.sent]
  exact ⟨⟨_, hsent.append_right _, rfl⟩, rfl, rfl⟩

/-- So does changing a criterion, and it shows the same. -/
theorem Behind.changeCriterion (h : first.Behind second) (slot : String)
    (change : Criterion.Change) :
    (first.changeCriterion slot change).Behind (second.changeCriterion slot change) := by
  have ⟨sent, hsent, heq⟩ := h
  subst heq
  refine h.withFound _ fun criterion => ?_
  split
  · exact h.shows _
  · split
    · exact ⟨h, rfl, rfl⟩
    · exact ⟨h.keepCriterion slot _, rfl, rfl⟩

/-- Workbenches behind one another are so after a step, and the step tells the same. -/
theorem Behind.step (h : first.Behind second) (step : Step) :
    (first.step step).Behind (second.step step) := by
  have ⟨sent, hsent, heq⟩ := h
  subst heq
  cases step with simp only [Workbench.step]
  | register | loadText => exact h.computes _ fun _ => ⟨⟨sent, hsent, rfl⟩, rfl⟩
  | lookup | allows | effectOf => exact h.shows _
  | instantiate slot name =>
    split
    · exact h.shows _
    · exact h.computes _ fun criterion => ⟨h.keepCriterion slot criterion, rfl⟩
  | place slot => exact h.computes _ fun criterion => ⟨h.keepCriterion slot criterion, rfl⟩
  | copy slot =>
    exact h.withFound _ fun _ =>
      h.computes _ fun criterion => ⟨h.keepCriterion slot criterion, rfl⟩
  | change slot change => exact h.changeCriterion slot change
  | inspect | pick | assignments | report | sameDigest =>
    exact h.withFound _ fun _ => h.shows _
  | baseline slot | vector slot => exact h.computes _ fun vector => ⟨h.keepVector slot vector, rfl⟩
  | collect slot | retag slot =>
    exact h.withFound _ fun _ => h.computes _ fun vector => ⟨h.keepVector slot vector, rfl⟩
  | effect => exact h.withFound _ fun _ => ⟨⟨sent, hsent, rfl⟩, rfl, rfl⟩
  | resetEffect | refuse => exact ⟨⟨sent, hsent, rfl⟩, rfl, rfl⟩
  | send command => exact h.pushes _ fun _ _ => rfl
  | push slot => exact h.withFound _ fun vector => h.pushes _ (TestVector.heedless_push _ vector)
  | pushAll slots =>
    exact h.withFound _ fun vectors => h.pushes _ (TestVector.heedless_pushAll _ vectors)
  | pushScripted => exact h.withFound _ fun _ => ⟨h, rfl, rfl⟩
  | sent => exact ⟨h, rfl, rfl⟩
  | clear => exact ⟨⟨[], .refl _, rfl⟩, rfl, rfl⟩

end Behind

/-- The workbench after some steps. -/
def after (workbench : Workbench) (all : List Step) : Workbench :=
  ((workbench.steps all).getLast?.map Result.workbench).getD workbench

/-- The steps that do not fail when some steps are done. -/
def kept (workbench : Workbench) (all : List Step) : List Step :=
  ((all.zip (workbench.steps all)).filter fun item => !item.2.failed).map Prod.fst

/-- What is told by the result of a step. -/
def Result.told (result : Result) : List Entry × Except Trouble View :=
  (result.entries, result.view.map View.blind)

variable {workbench first second : Workbench} {next : Step} {rest all : List Step}

/-- Steps are done one by one. -/
theorem after_cons :
    workbench.after (next :: rest) = (workbench.step next).workbench.after rest := by
  rw [after, steps, List.getLast?_cons, after]
  cases (Workbench.steps (workbench.step next).workbench rest).getLast? <;> rfl

/-- A step that fails is left out. -/
theorem kept_cons_of_failed (h : (workbench.step next).failed = true) :
    workbench.kept (next :: rest) = (workbench.step next).workbench.kept rest := by
  simp [kept, steps, h]

/-- A step that does not fail is kept. -/
theorem kept_cons_of_not_failed (h : (workbench.step next).failed = false) :
    workbench.kept (next :: rest) = next :: (workbench.step next).workbench.kept rest := by
  simp [kept, steps, h]

/-- Whether a step failed is seen without the list of the commands sent. -/
theorem View.failed_blind (view : View) : view.blind.failed = view.failed := by
  cases view <;> rfl

/-- What is told says whether a step failed. -/
theorem Result.failed_eq_of_told_eq {first second : Result} (h : first.told = second.told) :
    first.failed = second.failed := by
  have hview : first.view.map View.blind = second.view.map View.blind := congrArg Prod.snd h
  unfold failed
  cases hfirst : first.view <;> cases hsecond : second.view <;> rw [hfirst, hsecond] at hview
  case ok.ok view other =>
    have hblind : view.blind = other.blind := Except.ok.inj hview
    change view.failed = other.failed
    rw [← view.failed_blind, hblind, other.failed_blind]
  all_goals first | rfl | contradiction

/-- Workbenches behind one another are so after any steps, and the steps tell the same. -/
theorem Behind.steps (h : first.Behind second) (all : List Step) :
    (first.steps all).map Result.told = (second.steps all).map Result.told ∧
      (first.after all).Behind (second.after all) := by
  induction all generalizing first second with
  | nil => exact ⟨rfl, h⟩
  | cons next rest ih =>
    have hstep := h.step next
    obtain ⟨htold, hafter⟩ := ih hstep.workbench
    rw [after_cons, after_cons]
    refine ⟨?_, hafter⟩
    simp only [Workbench.steps, List.map_cons, htold, Result.told, hstep.entries, hstep.view]

/-- Without the steps that fail the others tell the same. -/
theorem told_steps_kept (workbench : Workbench) (all : List Step) :
    ((workbench.steps all).filter fun result => !result.failed).map Result.told =
      (workbench.steps (workbench.kept all)).map Result.told := by
  induction all generalizing workbench with
  | nil => rfl
  | cons next rest ih =>
    rw [steps]
    cases h : (workbench.step next).failed with
    | true =>
      have hsame := ((behind_step_of_failed h).steps
        ((workbench.step next).workbench.kept rest)).1
      rw [List.filter_cons_of_neg (by simp [h]), ih, kept_cons_of_failed h, hsame]
    | false =>
      rw [List.filter_cons_of_pos (by simp [h]), List.map_cons, ih, kept_cons_of_not_failed h,
        steps, List.map_cons]

/-- Without the steps that fail the workbench is behind in the end, if at all. -/
theorem behind_after_kept (workbench : Workbench) (all : List Step) :
    (workbench.after (workbench.kept all)).Behind (workbench.after all) := by
  induction all generalizing workbench with
  | nil => exact .refl workbench
  | cons next rest ih =>
    rw [after_cons]
    cases h : (workbench.step next).failed with
    | true =>
      rw [kept_cons_of_failed h]
      exact ((behind_step_of_failed h).steps _).2.trans (ih _)
    | false =>
      rw [kept_cons_of_not_failed h, after_cons]
      exact ih _

/-- Steps that fail leave no trace. Without them none of the other steps fails, each of these tells
the same, apart from the list of the commands sent, and the workbench is the same in the end, except
that commands of the pushes that were stopped are missing from that list. -/
theorem steps_kept (workbench : Workbench) (all : List Step) :
    ((workbench.steps all).filter fun result => !result.failed).map Result.told =
        (workbench.steps (workbench.kept all)).map Result.told ∧
      (∀ result ∈ workbench.steps (workbench.kept all), result.failed = false) ∧
      (workbench.after (workbench.kept all)).Behind (workbench.after all) := by
  have htold := workbench.told_steps_kept all
  refine ⟨htold, fun result hresult => ?_, workbench.behind_after_kept all⟩
  have hmem := List.mem_map_of_mem (f := Result.told) hresult
  rw [← htold] at hmem
  obtain ⟨other, hother, hsame⟩ := List.mem_map.mp hmem
  rw [← Result.failed_eq_of_told_eq hsame]
  simpa using (List.mem_filter.mp hother).2

end Workbench

end Criteria
