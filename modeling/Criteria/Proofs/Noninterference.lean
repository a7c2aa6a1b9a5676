import Mathlib.Data.List.Nodup
import Criteria.CommandLine.Program
import Criteria.Proofs.Spelling

/-!
# The log and the results

The log is configured by two options, in front of the task or behind it, and by three variables of
the environment. Two calls that differ in nothing else have the same exit code, the same text
printed and the same report of a failure, whatever the files hold, and whether the variables hold
anything that makes sense or not. Nothing is assumed of the other options: the calls may fail
because of them, or ask for help.
-/

namespace Criteria.CommandLine

variable {α : Type}

/-- Tell whether an option is about the log only. -/
def Key.isForLog : Key → Bool
  | .verbose | .jsonLog => true
  | _ => false

/-- The variables that are about the log only. -/
def logVariables : List String := ["CRITVEC_LOG", "RUST_LOG", "CRITVEC_LOG_FORMAT"]

/-! ## The own options of a task -/

namespace Given

/-- The options that are not about the log. -/
def own (given : Given) : Given := given.filter fun option => !option.1.isForLog

/-- The options about the log, without values. -/
def logKeys (given : Given) : List Key := (given.map Prod.fst).filter Key.isForLog

/-- An option about the log in front is left out. -/
theorem own_cons_of_log {key : Key} (hkey : key.isForLog) (value : String) (given : Given) :
    own ((key, value) :: given) = given.own :=
  List.filter_cons_of_neg (by simpa using hkey)

/-- Another option in front is kept. -/
theorem own_cons_of_own {key : Key} (hkey : ¬key.isForLog) (value : String) (given : Given) :
    own ((key, value) :: given) = (key, value) :: given.own :=
  List.filter_cons_of_pos (by simpa using hkey)

/-- An option about the log in front counts. -/
theorem logKeys_cons_of_log {key : Key} (hkey : key.isForLog) (value : String) (given : Given) :
    logKeys ((key, value) :: given) = key :: given.logKeys :=
  List.filter_cons_of_pos hkey

/-- Another option in front does not count. -/
theorem logKeys_cons_of_own {key : Key} (hkey : ¬key.isForLog) (value : String) (given : Given) :
    logKeys ((key, value) :: given) = given.logKeys :=
  List.filter_cons_of_neg hkey

/-- An option that is not about the log is found among the own options. -/
theorem lookup_own {key : Key} (hkey : ¬key.isForLog) (given : Given) :
    given.own.lookup key = given.lookup key := by
  induction given with
  | nil => rfl
  | cons option given ih =>
    obtain ⟨first, value⟩ := option
    by_cases hfirst : first.isForLog
    · have hne : key ≠ first := fun heq => hkey (heq ▸ hfirst)
      rw [own_cons_of_log hfirst, List.lookup_cons, beq_false_of_ne hne]
      exact ih
    · rw [own_cons_of_own hfirst, List.lookup_cons, List.lookup_cons, ih]

/-- An option that is not about the log is there if it is among the own options. -/
theorem any_own {key : Key} (hkey : ¬key.isForLog) (given : Given) :
    (given.own.any fun earlier => earlier.1 = key) = given.any fun earlier => earlier.1 = key := by
  induction given with
  | nil => rfl
  | cons option given ih =>
    obtain ⟨first, value⟩ := option
    by_cases hfirst : first.isForLog
    · have hne : first ≠ key := fun heq => hkey (heq ▸ hfirst)
      rw [own_cons_of_log hfirst, List.any_cons, decide_eq_false hne]
      exact ih
    · rw [own_cons_of_own hfirst, List.any_cons, List.any_cons, ih]

/-- Noting an option that is not about the log notes it among the own options. -/
theorem note_own {key : Key} (hkey : ¬key.isForLog) (value : String) (given : Given) :
    (given.note key value).map own = given.own.note key value := by
  unfold note
  rw [any_own hkey]
  split
  · rfl
  split
  · rfl
  cases key <;> first | rfl | exact absurd rfl hkey

/-- What is noted is put in front. -/
theorem eq_cons_of_note {key : Key} {value : String} {given noted : Given}
    (hnote : given.note key value = .ok noted) : noted = (key, value) :: given := by
  unfold note at hnote
  split at hnote
  · cases hnote
  split at hnote
  · cases hnote
  split at hnote
  · cases hnote
  · cases hnote
  · exact (Except.ok.inj hnote).symm

/-- An option about the log that is not there yet is put in front. -/
theorem note_log {key : Key} (hkey : key.isForLog) (value : String) {given : Given}
    (hnew : key ∉ given.logKeys) : given.note key value = .ok ((key, value) :: given) := by
  have hany : ¬given.any fun earlier => earlier.1 = key := by
    intro hany
    obtain ⟨earlier, hearlier, heq⟩ := List.any_eq_true.mp hany
    obtain rfl := of_decide_eq_true heq
    exact hnew (List.mem_filter.mpr ⟨List.mem_map_of_mem hearlier, hkey⟩)
  unfold note
  rw [if_neg hany]
  cases key <;> first | rfl | cases hkey

/-- The own options are noted without regard to those about the log, if none of those is given
twice. -/
theorem noteAll_own {given options : Given} (honce : (given.logKeys ++ options.logKeys).Nodup) :
    (given.noteAll options).map own = given.own.noteAll options.own := by
  -- The options about the log that were noted count as well: one of them again would be refused.
  induction options generalizing given with
  | nil => rfl
  | cons option rest ih =>
    obtain ⟨key, value⟩ := option
    rw [noteAll, List.foldlM_cons]
    by_cases hkey : key.isForLog
    · rw [logKeys_cons_of_log hkey, List.nodup_middle, List.nodup_cons] at honce
      have hnew : key ∉ given.logKeys := fun hmem => honce.1 (List.mem_append_left _ hmem)
      have hrest : (logKeys ((key, value) :: given) ++ logKeys rest).Nodup := by
        rw [logKeys_cons_of_log hkey]
        exact List.nodup_cons.mpr honce
      rw [note_log hkey value hnew, own_cons_of_log hkey]
      refine (ih hrest).trans ?_
      rw [own_cons_of_log hkey]
    · rw [logKeys_cons_of_own hkey] at honce
      rw [own_cons_of_own hkey, noteAll, List.foldlM_cons, ← note_own hkey]
      cases hnote : given.note key value with
      | error halt => rfl
      | ok noted =>
        obtain rfl := eq_cons_of_note hnote
        have hrest : (logKeys ((key, value) :: given) ++ logKeys rest).Nodup := by
          rwa [logKeys_cons_of_own hkey]
        exact ih hrest

/-- So it is in one place, where no options were noted before. -/
theorem noteAll_nil_own {options : Given} (honce : options.logKeys.Nodup) :
    (noteAll [] options).map own = noteAll [] options.own :=
  noteAll_own honce

/-- Two lists of options are the same apart from those about the log, none of which is given twice
in one list. -/
structure SameButLog (first second : Given) : Prop where
  /-- The own options are the same, in order. -/
  own_eq : first.own = second.own
  /-- The first list has no option about the log twice. -/
  once : first.logKeys.Nodup
  /-- Nor has the second. -/
  once' : second.logKeys.Nodup

end Given

/-- A spelling without the options about the log. -/
def Spelling.own (spelling : Spelling α) : Spelling α :=
  { spelling with options := spelling.options.own }

/-- The own options of a spelling are noted without regard to those about the log. -/
theorem Spelling.note_own {spelling : Spelling α} (honce : spelling.options.logKeys.Nodup) :
    (spelling.note []).map (fun noted => (noted.1.own, noted.2)) = spelling.own.note [] := by
  obtain ⟨options, ending⟩ := spelling
  rw [note, note, own, ← Given.noteAll_nil_own honce]
  cases Given.noteAll [] options with
  | error halt => rfl
  | ok given => cases ending <;> rfl

/-! ## The same task -/

/-- Two calls ask for the same task, apart from the log: behind options of the whole program comes
the word of one verb, and behind it options of that verb. The own options and what is left at the
end are the same. -/
inductive SameTask (first second : List String) : Prop
  | intro (verb : Verb) (word : String) (rest rest' : List String)
      (named : (word, verb) ∈ Verb.words)
      (left : (spell rootKeys first none).ending = some (word :: rest))
      (left' : (spell rootKeys second none).ending = some (word :: rest'))
      (front : (spell rootKeys first none).options.SameButLog (spell rootKeys second none).options)
      (behind : (spell verb.keys rest none).options.SameButLog (spell verb.keys rest' none).options)
      (ending : (spell verb.keys rest none).ending = (spell verb.keys rest' none).ending)

/-- A verb is found under its word. -/
theorem Verb.lookup_words {verb : Verb} {word : String} (hnamed : (word, verb) ∈ Verb.words) :
    Verb.words.lookup word = some verb := by
  simp only [Verb.words, List.mem_cons, List.not_mem_nil, or_false, Prod.mk.injEq] at hnamed
  rcases hnamed with ⟨rfl, rfl⟩ | ⟨rfl, rfl⟩ | ⟨rfl, rfl⟩ | ⟨rfl, rfl⟩ <;> rfl

/-- The word of a verb is no option. -/
theorem spell_word {verb : Verb} {word : String} (hnamed : (word, verb) ∈ Verb.words)
    (keys : List Key) (rest : List String) :
    spell keys (word :: rest) none = ⟨[], some (word :: rest)⟩ := by
  simp only [Verb.words, List.mem_cons, List.not_mem_nil, or_false, Prod.mk.injEq] at hnamed
  rcases hnamed with ⟨rfl, rfl⟩ | ⟨rfl, rfl⟩ | ⟨rfl, rfl⟩ | ⟨rfl, rfl⟩ <;> rfl

/-! ### Options about the log, in arguments of their own -/

/-- The arguments that are options about the log, without others. -/
def logFlags : List (String × Key) :=
  [("-v", .verbose), ("--verbose", .verbose), ("--json", .jsonLog)]

/-- Such arguments in one place, each option at most once. -/
structure LogFlags where
  /-- The arguments, with their options. -/
  flags : List (String × Key)
  /-- They are options about the log. -/
  known : ∀ flag ∈ flags, flag ∈ logFlags
  /-- No option is given twice. -/
  once : (flags.map Prod.snd).Nodup

namespace LogFlags

/-- The arguments as they stand in a call. -/
def arguments (front : LogFlags) : List String := front.flags.map Prod.fst

/-- Put the options in front of others. -/
def options (front : LogFlags) (behind : Given) : Given :=
  front.flags.map (fun flag => (flag.2, "")) ++ behind

/-- Each of the arguments is an option about the log. -/
theorem isForLog_of_mem {flag : String × Key} (hflag : flag ∈ logFlags) : flag.2.isForLog := by
  simp only [logFlags, List.mem_cons, List.not_mem_nil, or_false] at hflag
  rcases hflag with rfl | rfl | rfl <;> rfl

/-- Options with those about the log in front have the same own options. -/
theorem own_options (front : LogFlags) (behind : Given) :
    (front.options behind).own = behind.own := by
  have hnone : Given.own (front.flags.map fun flag => (flag.2, "")) = [] := by
    refine List.filter_eq_nil_iff.mpr fun option hoption => ?_
    obtain ⟨flag, hflag, rfl⟩ := List.mem_map.mp hoption
    have hlog : flag.2.isForLog := isForLog_of_mem (front.known flag hflag)
    simpa using hlog
  rw [options, Given.own, List.filter_append]
  exact congrArg (· ++ behind.own) hnone

/-- No option about the log is given twice if none stands behind those in front. -/
theorem nodup_logKeys_options (front : LogFlags) {behind : Given} (hown : behind.logKeys = []) :
    (front.options behind).logKeys.Nodup := by
  have hkeys : (front.options behind).logKeys =
      (front.flags.map Prod.snd).filter Key.isForLog ++ behind.logKeys := by
    rw [options, Given.logKeys, List.map_append, List.filter_append, List.map_map]
    rfl
  rw [hkeys, hown, List.append_nil]
  exact front.once.filter _

/-- An argument about the log is spelled in front of the task. -/
theorem spell_rootKeys_cons {flag : String × Key} (hflag : flag ∈ logFlags) (rest : List String) :
    spell rootKeys (flag.1 :: rest) none = (spell rootKeys rest none).cons flag.2 "" := by
  simp only [logFlags, List.mem_cons, List.not_mem_nil, or_false] at hflag
  rcases hflag with rfl | rfl | rfl <;> rfl

/-- It is spelled behind the task as well. -/
theorem spell_keys_cons (verb : Verb) {flag : String × Key} (hflag : flag ∈ logFlags)
    (rest : List String) :
    spell verb.keys (flag.1 :: rest) none = (spell verb.keys rest none).cons flag.2 "" := by
  simp only [logFlags, List.mem_cons, List.not_mem_nil, or_false] at hflag
  cases verb <;> rcases hflag with rfl | rfl | rfl <;> rfl

/-- Where one such argument is spelled, several are. -/
theorem spell_append {keys : List Key}
    (hkeys : ∀ flag ∈ logFlags, ∀ rest,
      spell keys (flag.1 :: rest) none = (spell keys rest none).cons flag.2 "")
    (front : LogFlags) (rest : List String) :
    spell keys (front.arguments ++ rest) none =
      ⟨front.options (spell keys rest none).options, (spell keys rest none).ending⟩ := by
  obtain ⟨flags, known, once⟩ := front
  simp only [arguments, options]
  clear once
  induction flags with
  | nil => rfl
  | cons flag flags ih =>
    obtain ⟨hflag, hflags⟩ := List.forall_mem_cons.mp known
    rw [List.map_cons, List.cons_append, hkeys flag hflag, ih hflags]
    rfl

end LogFlags

/-- A call asks for the same task with arguments about the log in front of the word and behind it as
with others, or without them. -/
theorem SameTask.of_logFlags {verb : Verb} {word : String} {own : List String}
    (hnamed : (word, verb) ∈ Verb.words)
    (hown : (spell verb.keys own none).options.logKeys = [])
    (front front' behind behind' : LogFlags) :
    SameTask (front.arguments ++ word :: (behind.arguments ++ own))
      (front'.arguments ++ word :: (behind'.arguments ++ own)) := by
  have hword := spell_word hnamed rootKeys
  have hroot := LogFlags.spell_append fun _ => LogFlags.spell_rootKeys_cons
  have hverb := LogFlags.spell_append fun _ => LogFlags.spell_keys_cons verb
  refine .intro verb word (behind.arguments ++ own) (behind'.arguments ++ own) hnamed ?_ ?_ ?_ ?_ ?_
  · rw [hroot, hword]
  · rw [hroot, hword]
  · rw [hroot, hword, hroot, hword]
    exact ⟨by rw [front.own_options, front'.own_options], front.nodup_logKeys_options rfl,
      front'.nodup_logKeys_options rfl⟩
  · rw [hverb, hverb]
    exact ⟨by rw [behind.own_options, behind'.own_options], behind.nodup_logKeys_options hown,
      behind'.nodup_logKeys_options hown⟩
  · rw [hverb, hverb]

/-- An option about the log may also share an argument with another option. -/
example : SameTask ["--json", "list", "-vcc.txt"] ["list", "--criteria", "c.txt"] := by
  refine .intro .list "list" ["-vcc.txt"] ["--criteria", "c.txt"] ?_ ?_ ?_ ⟨?_, ?_, ?_⟩
    ⟨?_, ?_, ?_⟩ ?_
  all_goals decide +kernel

variable {environment environment' : Environment} {arguments arguments' : List String}

/-- A file name does not depend on the options about the log. -/
theorem fileName_own {key : Key} (hkey : ¬key.isForLog) (given : Given) :
    fileName environment given.own key = fileName environment given key := by
  rw [fileName, fileName, Given.lookup_own hkey]

/-- Nor does it depend on the variables about the log. -/
theorem fileName_congr (hsame : ∀ name ∉ logVariables, environment name = environment' name)
    (given : Given) (key : Key) :
    fileName environment given key = fileName environment' given key := by
  have hvariable : key.variableName?.bind environment = key.variableName?.bind environment' := by
    cases key <;> first | rfl | exact hsame _ (by decide)
  rw [fileName, fileName, hvariable]

/-- A task does not depend on the options about the log. -/
theorem Verb.task_own (given : Given) (verb : Verb) :
    verb.task environment given.own = verb.task environment given := by
  cases verb <;>
    simp only [Verb.task, fileName_own, Given.lookup_own, Key.isForLog, not_false_eq_true,
      Bool.false_eq_true]

/-- Nor does it depend on the variables about the log. -/
theorem Verb.task_congr (hsame : ∀ name ∉ logVariables, environment name = environment' name)
    (given : Given) (verb : Verb) :
    verb.task environment given = verb.task environment' given := by
  cases verb <;> simp only [Verb.task, fileName_congr hsame]

/-- The task of a call comes from the own options alone. -/
theorem map_task_ofArguments {verb : Verb} {word : String} {rest : List String}
    (hnamed : (word, verb) ∈ Verb.words)
    (hleft : (spell rootKeys arguments none).ending = some (word :: rest))
    (hfront : (spell rootKeys arguments none).options.logKeys.Nodup)
    (hbehind : (spell verb.keys rest none).options.logKeys.Nodup) :
    (Invocation.ofArguments environment arguments).map Invocation.task =
      (do
        let _ ← Given.noteAll [] (spell rootKeys arguments none).options.own
        let noted ← (spell verb.keys rest none).own.note []
        if noted.2.isEmpty then verb.task environment noted.1 else .error .usage) := by
  have hlookup := Verb.lookup_words hnamed
  have hhelp : word ≠ "help" := by
    rintro rfl
    cases hlookup
  have houter : readOptions rootKeys arguments none [] =
      (Given.noteAll [] (spell rootKeys arguments none).options).map (⟨·, word :: rest⟩) := by
    rw [readOptions_eq_note, Spelling.note, hleft]
    cases Given.noteAll [] (spell rootKeys arguments none).options <;> rfl
  rw [Invocation.ofArguments, houter, ← Given.noteAll_nil_own hfront, ← Spelling.note_own hbehind]
  cases Given.noteAll [] (spell rootKeys arguments none).options with
  | error halt => rfl
  | ok outer =>
    change Except.map Invocation.task (if word = "help" then _ else _) = _
    rw [if_neg hhelp, hlookup]
    dsimp only
    rw [readOptions_eq_note]
    cases (spell verb.keys rest none).note [] with
    | error halt => rfl
    | ok noted =>
      change Except.map Invocation.task (if noted.2.isEmpty then _ else _) =
        if noted.2.isEmpty then verb.task environment noted.1.own else _
      rw [Verb.task_own]
      split
      · cases verb.task environment noted.1 <;> rfl
      · rfl

/-- Calls for the same task come to the same task, or to the same halt. -/
theorem SameTask.map_task_eq (hcalls : SameTask arguments arguments')
    (hvariables : ∀ name ∉ logVariables, environment name = environment' name) :
    (Invocation.ofArguments environment arguments).map Invocation.task =
      (Invocation.ofArguments environment' arguments').map Invocation.task := by
  obtain ⟨verb, word, rest, rest', named, left, left', front, behind, ending⟩ := hcalls
  have hown : (spell verb.keys rest none).own = (spell verb.keys rest' none).own := by
    rw [Spelling.own, Spelling.own, behind.own_eq, ending]
  rw [map_task_ofArguments named left front.once behind.once,
    map_task_ofArguments named left' front.once' behind.once', front.own_eq, hown]
  simp only [Verb.task_congr hvariables]

/-! ## The same results -/

/-- What a call prints and reports, and its exit code, are those of its task. -/
theorem respond_eq_of_map_task_eq (files : Files)
    (htask : (Invocation.ofArguments environment arguments).map Invocation.task =
      (Invocation.ofArguments environment' arguments').map Invocation.task) :
    (respond environment files arguments).code = (respond environment' files arguments').code ∧
    (respond environment files arguments).stdout =
      (respond environment' files arguments').stdout ∧
    (respond environment files arguments).report =
      (respond environment' files arguments').report := by
  -- Both calls halt, for the same reason, or both do the same task.
  unfold respond
  cases hcall : Invocation.ofArguments environment arguments with
  | error halt =>
    cases hcall' : Invocation.ofArguments environment' arguments' with
    | error halt' =>
      rw [hcall, hcall'] at htask
      obtain rfl : halt = halt' := Except.error.inj htask
      cases halt <;> exact ⟨rfl, rfl, rfl⟩
    | ok call' =>
      rw [hcall, hcall'] at htask
      cases htask
  | ok call =>
    cases hcall' : Invocation.ofArguments environment' arguments' with
    | error halt' =>
      rw [hcall, hcall'] at htask
      cases htask
    | ok call' =>
      rw [hcall, hcall'] at htask
      have heq : call.task = call'.task := Except.ok.inj htask
      simp only [Invocation.answer, heq]
      cases (call'.task.run files).outcome <;> exact ⟨rfl, rfl, rfl⟩

/-- The log does not interfere with the results. -/
theorem log_never_interferes (files : Files)
    (hvariables : ∀ name ∉ logVariables, environment name = environment' name)
    (hcalls : SameTask arguments arguments') :
    (respond environment files arguments).code = (respond environment' files arguments').code ∧
    (respond environment files arguments).stdout =
      (respond environment' files arguments').stdout ∧
    (respond environment files arguments).report =
      (respond environment' files arguments').report :=
  respond_eq_of_map_task_eq files (hcalls.map_task_eq hvariables)

/-- A list of criteria is the same whether the log is in JSON, as an option and a variable ask, and
turned off by another variable, or there is nothing about the log at all, and two lines show. -/
theorem log_never_interferes_with_list :
    let files : Files := fun _ => .ofText "ExclusiveCriterion Mood : mad sad glad\n"
    let environment : Environment := fun name =>
      if name = "CRITVEC_LOG" then some "off"
      else if name = "RUST_LOG" then some "=="
      else if name = "CRITVEC_LOG_FORMAT" then some "JSON"
      else none
    let answer := respond environment files ["--json", "list", "-v", "-cc.txt"]
    let answer' := respond (fun _ => none) files ["list", "-cc.txt"]
    (answer.code = answer'.code ∧ answer.stdout = answer'.stdout ∧
      answer.report = answer'.report) ∧
      answer.code = 0 ∧ answer.log.length = 0 ∧ answer'.log.length = 2 := by
  intro files environment answer answer'
  have hvariables : ∀ name ∉ logVariables, environment name = none := by
    intro name hname
    simp only [logVariables, List.mem_cons, List.not_mem_nil, or_false, not_or] at hname
    simp only [environment, hname, if_false]
  have hcalls : SameTask ["--json", "list", "-v", "-cc.txt"] ["list", "-cc.txt"] :=
    .of_logFlags (by decide : ("list", Verb.list) ∈ Verb.words)
      (by decide +kernel : (spell Verb.list.keys ["-cc.txt"] none).options.logKeys = [])
      ⟨[("--json", .jsonLog)], by decide, by decide⟩ ⟨[], by decide, by decide⟩
      ⟨[("-v", .verbose)], by decide, by decide⟩ ⟨[], by decide, by decide⟩
  refine ⟨log_never_interferes files hvariables hcalls, ?_, ?_, ?_⟩
  · decide +kernel
  · decide +kernel
  · decide +kernel

end Criteria.CommandLine
