import Criteria.Proofs.InPlace

/-!
# Words added at once and one at a time

A text adds its words to an inclusive criterion at once. The same words can be added one at a time,
from left to right, and both ways come to the same: they succeed together, with the same criterion,
or are refused together, for the same word and with the same entry in the log. The criterion that is
reached depends only on which words there are, so texts can be repeated, swapped and joined.

The two ways differ where a word is refused. One at a time the words before it stay in the set;
at once nothing was put in.
-/

namespace Criteria

/-- Nothing is done after a refusal. -/
theorem Definition.reject_bind {α β : Type} (definition : Definition) (value : String)
    (next : α → Traced β) :
    (definition.reject value >>= next) = definition.reject value :=
  rfl

namespace Cell

variable {σ : Type} {call : Cell σ Unit} {change : σ → Traced σ} {state changed : σ} {fault : Fault}

/-- A call that makes a change leaves the changed state. -/
theorem Makes.run_of_ok (h : call.Makes change) (hchange : (change state).outcome = .ok changed) :
    call.run state = .ok () changed := by
  rw [h state, hchange]

/-- A call that makes a change leaves the state as it was when the change is refused. -/
theorem Makes.run_of_error (h : call.Makes change)
    (hchange : (change state).outcome = .error fault) : call.run state = .error fault state := by
  rw [h state, hchange]

end Cell

namespace Inclusive

/-! ## Sets with more values -/

/-- A criterion with some more values in its set. -/
def extend (criterion : Inclusive) (values : List String) : Inclusive :=
  { criterion with held := criterion.held.insertMany values }

variable {criterion : Inclusive}

/-- What is held then was held before or is one of the values. -/
theorem mem_held_extend {values : List String} {value : String} :
    value ∈ (criterion.extend values).held ↔ value ∈ criterion.held ∨ value ∈ values := by
  rw [extend, Std.ExtTreeSet.mem_insertMany_list, List.contains_iff_mem]

/-- Values in two lists go in one after the other. -/
theorem extend_append (criterion : Inclusive) (first second : List String) :
    criterion.extend (first ++ second) = (criterion.extend first).extend second := by
  rw [extend, Std.ExtTreeSet.insertMany_append]
  rfl

/-- Two criteria that hold the same values are one if their definitions are. -/
theorem ext_held {first second : Inclusive} (hdefinition : first.definition = second.definition)
    (hheld : ∀ value, value ∈ first.held ↔ value ∈ second.held) : first = second := by
  obtain ⟨definition, held⟩ := first
  obtain ⟨other, others⟩ := second
  obtain rfl : definition = other := hdefinition
  exact congrArg (mk definition) (Std.ExtTreeSet.ext_mem hheld)

/-- It only matters which values go in. -/
theorem extend_congr (criterion : Inclusive) {first second : List String}
    (h : ∀ value, value ∈ first ↔ value ∈ second) :
    criterion.extend first = criterion.extend second :=
  ext_held rfl fun value => by rw [mem_held_extend, mem_held_extend, h]

/-- Values go in once. -/
theorem extend_extend_self (criterion : Inclusive) (values : List String) :
    (criterion.extend values).extend values = criterion.extend values := by
  rw [← extend_append]
  exact criterion.extend_congr fun value => by rw [List.mem_append, or_self]

/-- Values go in in any order. -/
theorem extend_comm (criterion : Inclusive) (first second : List String) :
    (criterion.extend first).extend second = (criterion.extend second).extend first := by
  rw [← extend_append, ← extend_append]
  exact criterion.extend_congr fun value => by rw [List.mem_append, List.mem_append, or_comm]

/-! ## One at a time -/

/-- Add values one at a time, from left to right, up to the first that is refused. -/
def addAll (criterion : Inclusive) (values : List String) : Traced Inclusive :=
  values.foldlM add criterion

/-- Add values one at a time in place. What was added before a refusal stays in the set. -/
def addAllInPlace : List String → Cell Inclusive Unit
  | [] => return
  | value :: rest => do
    addInPlace value
    addAllInPlace rest

/-- An allowed value is added. -/
theorem add_of_allowed {value : String} (hzero : value ≠ noValue)
    (hallowed : value ∈ criterion.definition.allowed) :
    criterion.add value = pure (criterion.extend [value]) := by
  have hallows : criterion.definition.allows value := List.contains_iff_mem.mpr hallowed
  rw [add, if_neg hzero, if_pos hallows, extend, Std.ExtTreeSet.insertMany_list_singleton]

/-- Any other value is refused. -/
theorem add_of_not_allowed {value : String} (hzero : value ≠ noValue)
    (hallowed : value ∉ criterion.definition.allowed) :
    criterion.add value = criterion.definition.reject value := by
  have hallows : ¬criterion.definition.allows value := mt List.contains_iff_mem.mp hallowed
  rw [add, if_neg hzero, if_neg hallows]

/-- Allowed values are all added. -/
theorem addAll_of_allowed {values : List String} (hzero : noValue ∉ values)
    (hallowed : ∀ value ∈ values, value ∈ criterion.definition.allowed) :
    criterion.addAll values = pure (criterion.extend values) := by
  induction values generalizing criterion with
  | nil => rfl
  | cons value rest ih =>
    obtain ⟨hvalue, hrest⟩ := List.forall_mem_cons.mp hallowed
    obtain ⟨hne, hzero⟩ := not_or.mp (mt List.mem_cons.mpr hzero)
    rw [addAll, List.foldlM_cons, add_of_allowed (Ne.symm hne) hvalue, pure_bind]
    refine (@ih (criterion.extend [value]) hzero hrest).trans ?_
    rw [← extend_append, List.singleton_append]

/-- The first value that is not allowed is refused. -/
theorem addAll_of_refused {before after : List String} {word : String}
    (hzero : noValue ∉ before ++ word :: after)
    (hbefore : ∀ earlier ∈ before, earlier ∈ criterion.definition.allowed)
    (hword : word ∉ criterion.definition.allowed) :
    criterion.addAll (before ++ word :: after) = criterion.definition.reject word := by
  have hnone : noValue ∉ before := fun hmem => hzero (List.mem_append_left _ hmem)
  have hne : word ≠ noValue := fun heq =>
    hzero (List.mem_append_right _ (heq ▸ List.mem_cons_self))
  have hfirst : before.foldlM add criterion = pure (criterion.extend before) :=
    addAll_of_allowed hnone hbefore
  rw [addAll, List.foldlM_append, hfirst, pure_bind, List.foldlM_cons,
    @add_of_not_allowed (criterion.extend before) word hne hword, Definition.reject_bind]
  rfl

/-- Allowed values that are added in place are in the set when the next one is added. -/
theorem run_addAllInPlace_append {before : List String} (hzero : noValue ∉ before)
    (hallowed : ∀ value ∈ before, value ∈ criterion.definition.allowed) (rest : List String) :
    (addAllInPlace (before ++ rest)).run criterion =
      (addAllInPlace rest).run (criterion.extend before) := by
  induction before generalizing criterion with
  | nil => rfl
  | cons value before ih =>
    obtain ⟨hvalue, hbefore⟩ := List.forall_mem_cons.mp hallowed
    obtain ⟨hne, hzero⟩ := not_or.mp (mt List.mem_cons.mpr hzero)
    have hadd : (addInPlace value).run criterion = .ok () (criterion.extend [value]) :=
      (makes_addInPlace value).run_of_ok (by rw [add_of_allowed (Ne.symm hne) hvalue]; rfl)
    rw [List.cons_append, addAllInPlace, EStateM.run_bind, hadd]
    refine (@ih (criterion.extend [value]) hzero hbefore).trans ?_
    rw [← extend_append, List.singleton_append]

/-- Allowed values are all added in place. -/
theorem run_addAllInPlace_of_allowed {values : List String} (hzero : noValue ∉ values)
    (hallowed : ∀ value ∈ values, value ∈ criterion.definition.allowed) :
    (addAllInPlace values).run criterion = .ok () (criterion.extend values) := by
  have hrun := run_addAllInPlace_append hzero hallowed []
  rw [List.append_nil] at hrun
  exact hrun

/-- A value that is not allowed ends the adding in place. -/
theorem run_addAllInPlace_cons_of_refused {word : String} (hne : word ≠ noValue)
    (hword : word ∉ criterion.definition.allowed) (rest : List String) :
    (addAllInPlace (word :: rest)).run criterion =
      .error (.invalidValue criterion.definition.name word) criterion := by
  have hadd : (addInPlace word).run criterion =
      .error (.invalidValue criterion.definition.name word) criterion :=
    (makes_addInPlace word).run_of_error (by rw [add_of_not_allowed hne hword]; rfl)
  rw [addAllInPlace, EStateM.run_bind, hadd]

/-! ## At once -/

variable {raw : String}

/-- `"0"` among the words of a text resets the criterion. -/
theorem applyRaw_of_noValue (h : noValue ∈ Text.words raw) :
    criterion.applyRaw raw = pure criterion.reset := by
  have hsome : ¬(Text.words raw).isEmpty := by
    rw [List.isEmpty_iff]
    exact List.ne_nil_of_mem h
  have hzero : (Text.words raw).contains noValue := List.contains_iff_mem.mpr h
  simp only [applyRaw, if_neg hsome, if_pos hzero]

/-- Words of a text that are all allowed are put into the set. -/
theorem applyRaw_of_allowed (hwords : Text.words raw ≠ []) (hzero : noValue ∉ Text.words raw)
    (hallowed : ∀ word ∈ Text.words raw, word ∈ criterion.definition.allowed) :
    criterion.applyRaw raw = pure (criterion.extend (Text.words raw)) := by
  have hsome : ¬(Text.words raw).isEmpty := mt List.isEmpty_iff.mp hwords
  have hcontains : ¬(Text.words raw).contains noValue := mt List.contains_iff_mem.mp hzero
  have hnone : ((Text.words raw).find? fun word => !criterion.definition.allows word) = none := by
    simpa [Definition.allows] using hallowed
  simp only [applyRaw, if_neg hsome, if_neg hcontains, hnone]
  rfl

/-- The first word of a text that is not allowed is refused. -/
theorem applyRaw_of_refused {before after : List String} {word : String}
    (hwords : Text.words raw = before ++ word :: after) (hzero : noValue ∉ Text.words raw)
    (hbefore : ∀ earlier ∈ before, earlier ∈ criterion.definition.allowed)
    (hword : word ∉ criterion.definition.allowed) :
    criterion.applyRaw raw = criterion.definition.reject word := by
  have hsome : ¬(Text.words raw).isEmpty := by simp [hwords]
  have hcontains : ¬(Text.words raw).contains noValue := mt List.contains_iff_mem.mp hzero
  have hfirst : ((Text.words raw).find? fun word => !criterion.definition.allows word) =
      some word := by
    rw [List.find?_eq_some_iff_append]
    exact ⟨by simpa [Definition.allows] using hword, before, after, hwords,
      by simpa [Definition.allows] using hbefore⟩
  simp only [applyRaw, if_neg hsome, if_neg hcontains, hfirst]

/-- Values are all allowed, or there is a first that is not. -/
theorem forall_allowed_or_refused (allowed values : List String) :
    (∀ value ∈ values, value ∈ allowed) ∨
      ∃ before word after, values = before ++ word :: after ∧
        (∀ earlier ∈ before, earlier ∈ allowed) ∧ word ∉ allowed := by
  cases hfind : values.find? fun value => value ∉ allowed with
  | none => exact .inl (by simpa using List.find?_eq_none.mp hfind)
  | some word =>
    obtain ⟨hword, before, after, hvalues, hbefore⟩ := List.find?_eq_some_iff_append.mp hfind
    exact .inr ⟨before, word, after, hvalues, by simpa using hbefore, by simpa using hword⟩

/-- Adding the words of a text at once is adding them one at a time. -/
theorem applyRaw_eq_addAll (criterion : Inclusive) (hwords : Text.words raw ≠ [])
    (hzero : noValue ∉ Text.words raw) :
    criterion.applyRaw raw = criterion.addAll (Text.words raw) := by
  rcases forall_allowed_or_refused criterion.definition.allowed (Text.words raw) with
    hallowed | ⟨before, word, after, hsplit, hbefore, hword⟩
  · rw [applyRaw_of_allowed hwords hzero hallowed, addAll_of_allowed hzero hallowed]
  · rw [applyRaw_of_refused hsplit hzero hbefore hword, hsplit,
      addAll_of_refused (hsplit ▸ hzero) hbefore hword]

/-- The words of a text are added exactly when all are allowed, and then they are in the set. -/
theorem outcome_applyRaw_eq_ok_iff {changed : Inclusive} (hwords : Text.words raw ≠ [])
    (hzero : noValue ∉ Text.words raw) :
    (criterion.applyRaw raw).outcome = .ok changed ↔
      (∀ word ∈ Text.words raw, word ∈ criterion.definition.allowed) ∧
        changed = criterion.extend (Text.words raw) := by
  rcases forall_allowed_or_refused criterion.definition.allowed (Text.words raw) with
    hallowed | ⟨before, word, after, hsplit, hbefore, hword⟩
  · rw [applyRaw_of_allowed hwords hzero hallowed]
    exact ⟨fun h => ⟨hallowed, (Except.ok.inj h).symm⟩, fun h => by rw [h.2]; rfl⟩
  · rw [applyRaw_of_refused hsplit hzero hbefore hword]
    refine iff_of_false nofun fun h => hword (h.1 word ?_)
    exact hsplit ▸ List.mem_append_right _ List.mem_cons_self

/-- Two texts whose words are added can be added one after the other, in either order, or joined by
a blank. -/
theorem outcome_applyRaw_append {other : String} {changed more : Inclusive}
    (hwords : Text.words raw ≠ []) (hzero : noValue ∉ Text.words raw)
    (hotherWords : Text.words other ≠ []) (hotherZero : noValue ∉ Text.words other)
    (h : (criterion.applyRaw raw).outcome = .ok changed)
    (hother : (criterion.applyRaw other).outcome = .ok more) :
    ∃ both, (changed.applyRaw other).outcome = .ok both ∧ (more.applyRaw raw).outcome = .ok both ∧
      (criterion.applyRaw (raw ++ " " ++ other)).outcome = .ok both := by
  obtain ⟨hallowed, rfl⟩ := (outcome_applyRaw_eq_ok_iff hwords hzero).mp h
  obtain ⟨hothers, rfl⟩ := (outcome_applyRaw_eq_ok_iff hotherWords hotherZero).mp hother
  have hjoined := Text.words_append_space raw other
  have hjoinedWords : Text.words (raw ++ " " ++ other) ≠ [] := by simp [hjoined, hwords]
  have hjoinedZero : noValue ∉ Text.words (raw ++ " " ++ other) := by
    rw [hjoined]
    exact List.not_mem_append hzero hotherZero
  refine ⟨(criterion.extend (Text.words raw)).extend (Text.words other), ?_, ?_, ?_⟩
  · exact (outcome_applyRaw_eq_ok_iff hotherWords hotherZero).mpr ⟨hothers, rfl⟩
  · exact (outcome_applyRaw_eq_ok_iff hwords hzero).mpr ⟨hallowed, criterion.extend_comm _ _⟩
  · rw [outcome_applyRaw_eq_ok_iff hjoinedWords hjoinedZero, hjoined, extend_append]
    exact ⟨List.forall_mem_append.mpr ⟨hallowed, hothers⟩, rfl⟩

/-- Adding the words of a text at once, if there are any and `"0"` is not among them, gives the same
value or fault as adding them one at a time, and the same entries. It succeeds exactly when all
words are allowed, and then the criterion holds the words and what it held before. Adding the text
again changes nothing; any text with the same words gives the same criterion; and two such texts can
be added in either order or as one text.

If a word is not allowed, the first such word is refused as it is when it is added alone. Words
added one at a time in place stay in the set then, up to that word; added at once, none does.

A text with `"0"` among its words resets the criterion. -/
theorem applyRaw_adds_words (criterion : Inclusive) (raw : String) :
    (Text.words raw ≠ [] → noValue ∉ Text.words raw →
      criterion.applyRaw raw = criterion.addAll (Text.words raw) ∧
      (∀ changed, (criterion.applyRaw raw).outcome = .ok changed ↔
        (∀ word ∈ Text.words raw, word ∈ criterion.definition.allowed) ∧
          changed = criterion.extend (Text.words raw)) ∧
      (∀ value, value ∈ (criterion.extend (Text.words raw)).held ↔
        value ∈ criterion.held ∨ value ∈ Text.words raw) ∧
      (∀ changed, (criterion.applyRaw raw).outcome = .ok changed →
        (applyRawInPlace raw).run criterion = .ok () changed ∧
        (addAllInPlace (Text.words raw)).run criterion = .ok () changed ∧
        (changed.applyRaw raw).outcome = .ok changed ∧
        (∀ other, (∀ word, word ∈ Text.words other ↔ word ∈ Text.words raw) →
          (criterion.applyRaw other).outcome = .ok changed) ∧
        ∀ other more, Text.words other ≠ [] → noValue ∉ Text.words other →
          (criterion.applyRaw other).outcome = .ok more →
          ∃ both, (changed.applyRaw other).outcome = .ok both ∧
            (more.applyRaw raw).outcome = .ok both ∧
            (criterion.applyRaw (raw ++ " " ++ other)).outcome = .ok both) ∧
      ((∃ word ∈ Text.words raw, word ∉ criterion.definition.allowed) →
        ∃ before word after, Text.words raw = before ++ word :: after ∧
          (∀ earlier ∈ before, earlier ∈ criterion.definition.allowed) ∧
          word ∉ criterion.definition.allowed ∧
          let fault := Fault.invalidValue criterion.definition.name word
          (criterion.applyRaw raw).outcome = .error fault ∧
          ((criterion.extend before).add word).outcome = .error fault ∧
          (applyRawInPlace raw).run criterion = .error fault criterion ∧
          (addAllInPlace (Text.words raw)).run criterion =
            .error fault (criterion.extend before))) ∧
    (noValue ∈ Text.words raw → (criterion.applyRaw raw).outcome = .ok criterion.reset) := by
  refine ⟨fun hwords hzero => ⟨criterion.applyRaw_eq_addAll hwords hzero,
    fun changed => outcome_applyRaw_eq_ok_iff hwords hzero, fun value => mem_held_extend, ?_, ?_⟩,
    fun h => by rw [applyRaw_of_noValue h]; rfl⟩
  · intro changed h
    have hinPlace := (makes_applyRawInPlace raw).run_of_ok h
    refine ⟨hinPlace, ?_, ?_, fun other hsame => ?_, fun other more hotherWords hotherZero hother =>
      outcome_applyRaw_append hwords hzero hotherWords hotherZero h hother⟩
    · obtain ⟨hallowed, rfl⟩ := (outcome_applyRaw_eq_ok_iff hwords hzero).mp h
      exact run_addAllInPlace_of_allowed hzero hallowed
    · obtain ⟨hallowed, rfl⟩ := (outcome_applyRaw_eq_ok_iff hwords hzero).mp h
      exact (outcome_applyRaw_eq_ok_iff hwords hzero).mpr
        ⟨hallowed, (criterion.extend_extend_self _).symm⟩
    · obtain ⟨hallowed, rfl⟩ := (outcome_applyRaw_eq_ok_iff hwords hzero).mp h
      have hotherWords : Text.words other ≠ [] := by
        obtain ⟨word, hword⟩ := List.exists_mem_of_ne_nil _ hwords
        exact List.ne_nil_of_mem ((hsame word).mpr hword)
      have hotherZero : noValue ∉ Text.words other := mt (hsame noValue).mp hzero
      exact (outcome_applyRaw_eq_ok_iff hotherWords hotherZero).mpr
        ⟨fun word hword => hallowed word ((hsame word).mp hword),
          criterion.extend_congr fun word => (hsame word).symm⟩
  · rintro ⟨refused, hrefused, hnot⟩
    rcases forall_allowed_or_refused criterion.definition.allowed (Text.words raw) with
      hallowed | ⟨before, word, after, hsplit, hbefore, hword⟩
    · exact absurd (hallowed refused hrefused) hnot
    have hne : word ≠ noValue := fun heq =>
      hzero (hsplit ▸ List.mem_append_right _ (heq ▸ List.mem_cons_self))
    have hbulk : (criterion.applyRaw raw).outcome =
        .error (.invalidValue criterion.definition.name word) := by
      rw [applyRaw_of_refused hsplit hzero hbefore hword]
      rfl
    have hnone : noValue ∉ before := fun hmem => hzero (hsplit ▸ List.mem_append_left _ hmem)
    refine ⟨before, word, after, hsplit, hbefore, hword, hbulk, ?_,
      (makes_applyRawInPlace raw).run_of_error hbulk, ?_⟩
    · rw [@add_of_not_allowed (criterion.extend before) word hne hword]
      rfl
    · rw [hsplit, run_addAllInPlace_append hnone hbefore]
      exact @run_addAllInPlace_cons_of_refused (criterion.extend before) word hne hword _

/-- A criterion that allows `"0"` as well and holds one color takes two more from one text, in
either order with those of a second one. A third text is refused for its second word: nothing is
added at once, and the word in front of it one at a time. A fourth resets the criterion although its
first word is not allowed. -/
theorem applyRaw_adds_words_with_zero_allowed :
    let colors : Definition := ⟨.inclusive, "Colors", ["0", "red", "green", "blue"]⟩
    let criterion : Inclusive := ⟨colors, (∅ : Std.ExtTreeSet String).insert "blue"⟩
    let changed := criterion.extend ["green", "red", "green"]
    (Text.words "green\u3000red green" ≠ [] ∧ noValue ∉ Text.words "green\u3000red green" ∧
      (criterion.applyRaw "green\u3000red green").outcome = .ok changed ∧
      (addAllInPlace ["green", "red", "green"]).run criterion = .ok () changed ∧
      ∃ both, (changed.applyRaw " blue\tred").outcome = .ok both ∧
        (criterion.applyRaw "green\u3000red green  blue\tred").outcome = .ok both) ∧
    (Text.words "red purple blue" ≠ [] ∧ noValue ∉ Text.words "red purple blue" ∧
      ∃ before word after, Text.words "red purple blue" = before ++ word :: after ∧
        (criterion.applyRaw "red purple blue").outcome = .error (.invalidValue "Colors" word) ∧
        (addAllInPlace ["red", "purple", "blue"]).run criterion =
          .error (.invalidValue "Colors" word) (criterion.extend before)) ∧
    (noValue ∈ Text.words "purple 0" ∧
      (criterion.applyRaw "purple 0").outcome = .ok criterion.reset) := by
  intro colors criterion changed
  have hadded : Text.words "green\u3000red green" = ["green", "red", "green"] := by decide +kernel
  have hrefused : Text.words "red purple blue" = ["red", "purple", "blue"] := by decide +kernel
  have hreset : noValue ∈ Text.words "purple 0" := by decide +kernel
  refine ⟨⟨by decide +kernel, by decide +kernel, ?_⟩, ⟨by decide +kernel, by decide +kernel, ?_⟩,
    hreset, (applyRaw_adds_words criterion _).2 hreset⟩
  · obtain ⟨-, hok, -, hlater, -⟩ :=
      (applyRaw_adds_words criterion "green\u3000red green").1 (by decide +kernel)
        (by decide +kernel)
    have hchanged : (criterion.applyRaw "green\u3000red green").outcome = .ok changed :=
      (hok changed).mpr ⟨by decide +kernel, by rw [hadded]⟩
    obtain ⟨-, hinPlace, -, -, hboth⟩ := hlater changed hchanged
    rw [hadded] at hinPlace
    obtain ⟨both, hafter, -, hjoined⟩ := hboth " blue\tred" (criterion.extend ["blue", "red"])
      (by decide +kernel) (by decide +kernel)
      ((outcome_applyRaw_eq_ok_iff (by decide +kernel) (by decide +kernel)).mpr
        ⟨by decide +kernel, by decide +kernel⟩)
    exact ⟨hchanged, hinPlace, both, hafter, hjoined⟩
  · obtain ⟨-, -, -, -, hfault⟩ :=
      (applyRaw_adds_words criterion "red purple blue").1 (by decide +kernel) (by decide +kernel)
    obtain ⟨before, word, after, hsplit, -, -, hbulk, -, -, hinPlace⟩ := hfault (by decide +kernel)
    rw [hrefused] at hinPlace
    exact ⟨before, word, after, hsplit, hbulk, hinPlace⟩

end Inclusive

end Criteria
