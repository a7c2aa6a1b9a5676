import Criteria.Proofs.Grammar
import Criteria.Proofs.Addition
import Criteria.Proofs.Admission

/-!
# Texts with the same words ask for the same

An exclusive criterion takes a text as one value without the white space around it, and an inclusive
one takes its words. Where the allowed values are words, as those of a definition file are, the two
readings do not contradict each other: what an exclusive criterion takes is the only word of the
text, because a text with white space inside it is no allowed value. So criteria of both kinds go by
the words alone, wherever the white space stands and whichever it is.

A text of one word asks fresh criteria of both kinds for the same, if no value is listed twice. A
value that is listed twice would be shown twice by the inclusive one.
-/

namespace Criteria

open Text

/-! ## The words decide -/

/-- An exclusive criterion whose allowed values are words takes a text that is one word, and `"0"`
or an allowed one. -/
theorem Exclusive.outcome_applyRaw_eq_ok_iff {criterion changed : Exclusive} {raw : String}
    (hwords : ∀ value ∈ criterion.definition.allowed, IsWord value.toList) :
    (criterion.applyRaw raw).outcome = .ok changed ↔
      ∃ word, words raw = [word] ∧ (word = noValue ∨ word ∈ criterion.definition.allowed) ∧
        changed = { criterion with current := word } := by
  simp only [applyRaw, outcome_set, Definition.allows, List.contains_iff_mem]
  constructor
  · intro h
    split at h
    · next hvalue =>
      have hword : IsWord (trim raw).toList := by
        rcases hvalue with hzero | hallowed
        · rw [hzero]
          decide +kernel
        · exact hwords _ hallowed
      exact ⟨trim raw, words_eq_singleton_iff.mpr ⟨hword, rfl⟩, hvalue, (Except.ok.inj h).symm⟩
    · contradiction
  · rintro ⟨word, hraw, hvalue, rfl⟩
    obtain ⟨-, rfl⟩ := words_eq_singleton_iff.mp hraw
    rw [if_pos hvalue]

namespace Criterion

variable {criterion changed : Criterion} {raw other : String}

/-- A criterion whose allowed values are words is changed in the same way by texts with the same
words. -/
theorem outcome_applyRaw_eq_ok_iff_of_words_eq
    (hwords : ∀ value ∈ criterion.definition.allowed, IsWord value.toList)
    (h : words raw = words other) :
    (criterion.applyRaw raw).outcome = .ok changed ↔
      (criterion.applyRaw other).outcome = .ok changed := by
  cases criterion with
  | exclusive criterion =>
    simp only [applyRaw, Traced.outcome_map_eq_ok_iff,
      Exclusive.outcome_applyRaw_eq_ok_iff hwords, h]
  | inclusive criterion =>
    simp only [applyRaw, Traced.outcome_map_eq_ok_iff]
    refine exists_congr fun state => and_congr_left fun _ => ?_
    rw [Inclusive.outcome_applyRaw, Inclusive.outcome_applyRaw, h]
    -- Only a text without words is named as it stands, and it is refused.
    split
    · simp only [reduceCtorEq]
    · rfl

/-- Both kinds of criteria are changed by texts. -/
theorem change?_raw (criterion : Criterion) (raw : String) :
    criterion.change? (.raw raw) = some (criterion.applyRaw raw) := by
  cases criterion <;> rfl

/-- A text that is obeyed leaves the changed criterion. -/
theorem changeInPlace?_raw_of_ok (h : (criterion.applyRaw raw).outcome = .ok changed) :
    criterion.changeInPlace? (.raw raw) = some (.ok (), changed) := by
  rw [changeInPlace?_eq, after, change?_raw, Option.map_some, Option.map_some, h]
  rfl

/-- A text that is refused leaves the criterion as it was. -/
theorem changeInPlace?_raw_of_error {fault : Fault}
    (h : (criterion.applyRaw raw).outcome = .error fault) :
    criterion.changeInPlace? (.raw raw) = some (.error fault, criterion) := by
  rw [changeInPlace?_eq, after, change?_raw, Option.map_some, Option.map_some, h]
  rfl

end Criterion

/-! ## One word -/

namespace Definition

variable {definition : Definition} {raw word : String}

/-- A text of one word is admitted by a definition of either kind if the word is `"0"` or allowed.
-/
theorem admits_iff_of_word (h : words raw = [word]) :
    definition.Admits raw ↔ word = noValue ∨ word ∈ definition.allowed := by
  cases hkind : definition.kind with
  | exclusive => rw [admits_iff_of_exclusive hkind, (words_eq_singleton_iff.mp h).2]
  | inclusive => simp [admits_iff_of_inclusive hkind, h, eq_comm]

/-- A text of one word that is not admitted by a definition of either kind offends by the word. -/
theorem offends_of_word (h : words raw = [word]) (hnot : ¬definition.Admits raw) :
    definition.Offends raw word := by
  rw [admits_iff_of_word h, not_or] at hnot
  obtain ⟨hzero, hallowed⟩ := hnot
  cases hkind : definition.kind with
  | exclusive =>
    obtain ⟨-, rfl⟩ := words_eq_singleton_iff.mp h
    exact .trimmed hkind hzero hallowed
  | inclusive =>
    have hnone : noValue ∉ words raw := by
      rw [h, List.mem_singleton]
      exact Ne.symm hzero
    exact @Offends.word definition raw [] [] word hkind h hnone nofun hallowed

/-- A text of one word that is admitted by a definition of either kind asks for the word, if no
value is listed twice. -/
theorem asked_of_word (hnodup : definition.allowed.Nodup) (h : words raw = [word])
    (hvalue : word = noValue ∨ word ∈ definition.allowed) : definition.asked raw = [word] := by
  rw [asked, h, (words_eq_singleton_iff.mp h).2]
  cases definition.kind with
  | exclusive => rfl
  | inclusive =>
    by_cases hzero : word = noValue
    · simp [hzero]
    · simp only [List.mem_singleton, if_neg (Ne.symm hzero)]
      rw [List.filter_eq, hnodup.count, if_pos (hvalue.resolve_left hzero), List.replicate_one]

/-- A fresh criterion of either kind takes a text of one word in the same way, if no value is listed
twice: it shows the word, or refuses it. -/
theorem outcome_applyRaw_of_word (hnodup : definition.allowed.Nodup) (h : words raw = [word]) :
    (definition.fresh.applyRaw raw).outcome.map Criterion.values =
      if word = noValue ∨ word ∈ definition.allowed then .ok [word]
      else .error (.invalidValue definition.name word) := by
  by_cases hadmits : definition.Admits raw
  · have hvalue := (admits_iff_of_word h).mp hadmits
    rw [if_pos hvalue, hadmits.outcome_applyRaw, Except.map, hadmits.values_holding,
      asked_of_word hnodup h hvalue]
  · have hnot := mt (admits_iff_of_word h).mpr hadmits
    rw [if_neg hnot, (offends_of_word h hadmits).outcome_applyRaw]
    rfl

/-- A fresh criterion shows `"0"`. -/
theorem values_fresh (definition : Definition) : definition.fresh.values = [noValue] := by
  unfold fresh
  cases definition.kind with
  | exclusive => rfl
  | inclusive => simp [Criterion.values]

end Definition

namespace Criterion

/-- The values that are shown after a text are those of the changed criterion, or those shown
before if the text was refused. -/
theorem values_after_raw (criterion : Criterion) (raw : String) :
    (criterion.after (.raw raw)).values =
      match (criterion.applyRaw raw).outcome.map values with
      | .ok shown => shown
      | .error _ => criterion.values := by
  rw [after, change?_raw, Option.map_some]
  cases (criterion.applyRaw raw).outcome <;> rfl

/-- A criterion of a definition from a definition file is changed by the words of a text. Texts with
the same words are both obeyed, and leave the same criterion, or they are both refused, and leave
the criterion as it was.

Its values are listed once. Wherever values are, a text of one word, with any white space around it,
asks fresh criteria of both kinds for the same: with the same name and the same allowed values they
show the same values, or refuse the text for the same fault. -/
theorem applyRaw_goes_by_words {text : String} {definitions : List Definition}
    {definition : Definition} (hparse : Definition.parse text = .ok definitions)
    (hmem : definition ∈ definitions) :
    (∀ criterion : Criterion, criterion.definition = definition →
      ∀ raw other, words raw = words other →
        (∃ changed, (criterion.applyRaw raw).outcome = .ok changed ∧
          (criterion.applyRaw other).outcome = .ok changed ∧
          criterion.changeInPlace? (.raw raw) = some (.ok (), changed) ∧
          criterion.changeInPlace? (.raw other) = some (.ok (), changed)) ∨
        ∃ fault otherFault, (criterion.applyRaw raw).outcome = .error fault ∧
          (criterion.applyRaw other).outcome = .error otherFault ∧
          criterion.changeInPlace? (.raw raw) = some (.error fault, criterion) ∧
          criterion.changeInPlace? (.raw other) = some (.error otherFault, criterion)) ∧
    definition.allowed.Nodup ∧
    ∀ first twin : Definition, first.allowed.Nodup → twin.name = first.name →
      twin.allowed = first.allowed → ∀ raw word, words raw = [word] →
        ((first.fresh.applyRaw raw).outcome.map values =
          if word = noValue ∨ word ∈ first.allowed then .ok [word]
          else .error (.invalidValue first.name word)) ∧
        (twin.fresh.applyRaw raw).outcome.map values =
          (first.fresh.applyRaw raw).outcome.map values ∧
        (twin.fresh.after (.raw raw)).values = (first.fresh.after (.raw raw)).values := by
  have hclean := Definition.clean_of_parse hparse definition hmem
  refine ⟨?_, hclean.nodup, ?_⟩
  · rintro criterion rfl raw other hsame
    have hwords : ∀ value ∈ criterion.definition.allowed, IsWord value.toList :=
      fun value hvalue => (hclean.token value hvalue).1
    cases hraw : (criterion.applyRaw raw).outcome with
    | ok changed =>
      have hother := (outcome_applyRaw_eq_ok_iff_of_words_eq hwords hsame).mp hraw
      exact .inl ⟨changed, rfl, hother, changeInPlace?_raw_of_ok hraw,
        changeInPlace?_raw_of_ok hother⟩
    | error fault =>
      cases hother : (criterion.applyRaw other).outcome with
      | ok changed =>
        rw [(outcome_applyRaw_eq_ok_iff_of_words_eq hwords hsame).mpr hother] at hraw
        contradiction
      | error otherFault =>
        exact .inr ⟨fault, otherFault, rfl, rfl, changeInPlace?_raw_of_error hraw,
          changeInPlace?_raw_of_error hother⟩
  · intro first twin hfirst hname hallowed raw word hraw
    have hnodup : twin.allowed.Nodup := hallowed ▸ hfirst
    have hshown := Definition.outcome_applyRaw_of_word hfirst hraw
    have htwin : (twin.fresh.applyRaw raw).outcome.map values =
        (first.fresh.applyRaw raw).outcome.map values := by
      rw [Definition.outcome_applyRaw_of_word hnodup hraw, hshown, hname, hallowed]
    refine ⟨hshown, htwin, ?_⟩
    rw [values_after_raw, values_after_raw, htwin, Definition.values_fresh,
      Definition.values_fresh]

/-- A criterion of a definition that lists a value twice and allows `"0"` takes one value in any
white space, and refuses two. Its inclusive twin takes `"0"` and refuses another word as it does. -/
theorem applyRaw_goes_by_words_with_zero_allowed :
    let text := "ExclusiveCriterion Mood : mad 0 sad mad\r\n"
    let mood : Definition := ⟨.exclusive, "Mood", ["mad", "0", "sad"]⟩
    let twin : Definition := ⟨.inclusive, "Mood", ["mad", "0", "sad"]⟩
    let criterion : Criterion := .exclusive ⟨mood, "sad"⟩
    let changed : Criterion := .exclusive ⟨mood, "mad"⟩
    Definition.parse text = .ok [mood] ∧ mood ∈ [mood] ∧
      (words "\u3000mad\t\n" = words "mad" ∧
        criterion.changeInPlace? (.raw "\u3000mad\t\n") = some (.ok (), changed) ∧
        criterion.changeInPlace? (.raw "mad") = some (.ok (), changed)) ∧
      (words " mad\u00a0 sad" = words "mad sad" ∧ ∃ fault otherFault,
        criterion.changeInPlace? (.raw " mad\u00a0 sad") = some (.error fault, criterion) ∧
        criterion.changeInPlace? (.raw "mad sad") = some (.error otherFault, criterion)) ∧
      (words " 0\u2028" = ["0"] ∧
        (twin.fresh.applyRaw " 0\u2028").outcome.map values = .ok ["0"]) ∧
      (words "\tglad" = ["glad"] ∧ (twin.fresh.applyRaw "\tglad").outcome.map values =
        .error (.invalidValue "Mood" "glad")) := by
  intro text mood twin criterion changed
  have hparse : Definition.parse text = .ok [mood] := by decide +kernel
  have hmem : mood ∈ [mood] := List.mem_singleton_self mood
  have htaken : words "\u3000mad\t\n" = words "mad" := by decide +kernel
  have hrefused : words " mad\u00a0 sad" = words "mad sad" := by decide +kernel
  have hzero : words " 0\u2028" = ["0"] := by decide +kernel
  have hglad : words "\tglad" = ["glad"] := by decide +kernel
  have hmad : (criterion.applyRaw "mad").outcome = .ok changed := by decide +kernel
  have hpair :
      (criterion.applyRaw "mad sad").outcome = .error (.invalidValue "Mood" "mad sad") := by
    decide +kernel
  obtain ⟨hwords, hnodup, htwin⟩ := applyRaw_goes_by_words hparse hmem
  refine ⟨hparse, hmem, ⟨htaken, ?_⟩, ⟨hrefused, ?_⟩, ⟨hzero, ?_⟩, hglad, ?_⟩
  · rcases hwords criterion rfl _ _ htaken with ⟨_, -, hother, hleft⟩ | ⟨_, _, -, hother, -⟩
    · obtain rfl := Except.ok.inj (hother.symm.trans hmad)
      exact hleft
    · exact absurd (hother.symm.trans hmad) nofun
  · rcases hwords criterion rfl _ _ hrefused with ⟨_, -, hother, -⟩ | ⟨_, _, -, -, hleft⟩
    · exact absurd (hother.symm.trans hpair) nofun
    · exact ⟨_, _, hleft⟩
  · obtain ⟨hshown, hsame, -⟩ := htwin mood twin hnodup rfl rfl _ _ hzero
    rw [hsame, hshown, if_pos (.inl rfl)]
  · obtain ⟨hshown, hsame, -⟩ := htwin mood twin hnodup rfl rfl _ _ hglad
    rw [hsame, hshown, if_neg (by decide)]

end Criterion

end Criteria
