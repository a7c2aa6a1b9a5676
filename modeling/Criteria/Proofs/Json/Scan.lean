import Criteria.Json.Codec

/-!
# Scanning what was printed

The scalars and brackets of a printed JSON text are found again where they were printed, in front
of whatever follows. The printer puts white space between the parts of a value, which the scanner
drops, and none in front of a value.
-/

namespace Criteria.Json

/-- Tell that a list of characters is nothing but white space between parts. -/
def AllGap (cs : List Char) : Prop := ∀ c ∈ cs, isGap c = true

/-- Where no white space stands none is dropped. -/
theorem skipGap_cons {c : Char} (hc : isGap c = false) (cs : List Char) :
    skipGap (c :: cs) = c :: cs :=
  List.dropWhile_cons_of_neg (by simp [hc])

/-- White space in front of a part is dropped. -/
theorem skipGap_append {gap : List Char} (hgap : AllGap gap) {c : Char} (hc : isGap c = false)
    (cs : List Char) : skipGap (gap ++ c :: cs) = c :: cs := by
  rw [skipGap, List.dropWhile_append_of_pos hgap]
  exact skipGap_cons hc cs

/-- A layout puts nothing but white space in front of a part. -/
theorem allGap_gap (layout : Layout) (depth : Nat) : AllGap (layout.gap depth) := by
  intro c hc
  cases layout with
  | compact => exact absurd hc List.not_mem_nil
  | indented step =>
    rcases List.mem_cons.mp hc with rfl | hc
    · rfl
    · rw [List.eq_of_mem_replicate hc]
      rfl

/-- A layout puts nothing but white space behind a colon. -/
theorem exists_colon_eq (layout : Layout) : ∃ gap, layout.colon = ':' :: gap ∧ AllGap gap := by
  cases layout with
  | compact => exact ⟨[], rfl, nofun⟩
  | indented step => exact ⟨[' '], rfl, List.forall_mem_singleton.mpr rfl⟩

/-- A printed value begins with neither white space nor a closing bracket. -/
theorem exists_print_eq_cons (layout : Layout) (depth : Nat) (value : Json) :
    ∃ c cs, print layout depth value = c :: cs ∧ isGap c = false ∧ c ≠ ']' := by
  cases value with
  | null => exact ⟨'n', _, rfl, rfl, by decide⟩
  | flag value => cases value <;> exact ⟨_, _, rfl, rfl, by decide⟩
  | count n =>
    obtain ⟨d, ds, hdigits⟩ :=
      List.exists_cons_of_ne_nil (Nat.toDigits_ne_nil : Nat.toDigits 10 n ≠ [])
    have hdigit : d.isDigit = true :=
      Nat.isDigit_of_mem_toDigits (by decide) (Nat.le_refl 10) (hdigits ▸ List.mem_cons_self)
    refine ⟨d, ds, hdigits, ?_, ?_⟩
    · cases hgap : isGap d with
      | false => rfl
      | true =>
        simp only [isGap, Bool.or_eq_true, decide_eq_true_eq] at hgap
        rcases hgap with ((rfl | rfl) | rfl) | rfl <;> exact absurd hdigit (by decide)
    · rintro rfl
      exact absurd hdigit (by decide)
  | text s => exact ⟨'"', _, rfl, rfl, by decide⟩
  | list items => cases items <;> exact ⟨'[', _, rfl, rfl, by decide⟩
  | record members => cases members <;> exact ⟨'\x7b', _, rfl, rfl, by decide⟩

/-- White space in front of a printed value is dropped. -/
theorem skipGap_append_print {gap : List Char} (hgap : AllGap gap) (layout : Layout) (depth : Nat)
    (value : Json) (rest : List Char) :
    skipGap (gap ++ (print layout depth value ++ rest)) = print layout depth value ++ rest := by
  obtain ⟨c, cs, hprint, hc, -⟩ := exists_print_eq_cons layout depth value
  rw [hprint, List.cons_append, skipGap_append hgap hc]

/-! ## Strings -/

/-- A character that is not escaped is read as itself. -/
theorem readChars_cons_of_plain {c : Char} (hquote : c ≠ '"') (hslash : c ≠ '\\')
    (hcontrol : ¬c.toNat < 0x20) (more : List Char) :
    readChars (c :: more) = (readChars more).map fun (chars, rest) => (c :: chars, rest) := by
  rw [readChars, if_neg hcontrol]
  · cases readChars more <;> rfl
  · exact hquote
  · exact hslash

/-- A letter behind a backslash is read as the character that it stands for. -/
theorem readChars_short {letter c : Char} (h : shortEscape? letter = some c) (more : List Char) :
    readChars ('\\' :: letter :: more) =
      (readChars more).map fun (chars, rest) => (c :: chars, rest) := by
  have hletter : letter ≠ 'u' := by
    rintro rfl
    have hnone : shortEscape? 'u' = none := by decide
    rw [hnone] at h
    contradiction
  rw [readChars.eq_def]
  simp only [h]
  cases readChars more <;> rfl

/-- A control character is read from its code point. -/
theorem readChars_control {c : Char} (hc : c.toNat < 0x20) (more : List Char) :
    readChars ('\\' :: 'u' :: '0' :: '0' :: Nat.digitChar (c.toNat / 16) ::
        Nat.digitChar (c.toNat % 16) :: more) =
      (readChars more).map fun (chars, rest) => (c :: chars, rest) := by
  have hquad : ∀ n < 0x20,
      hexQuad? '0' '0' (Nat.digitChar (n / 16)) (Nat.digitChar (n % 16)) = some n := by decide
  rw [readChars.eq_def]
  simp only [hquad c.toNat hc]
  -- A control character is no surrogate.
  rw [if_neg (by omega), if_neg (by omega), Char.ofNat_toNat]
  cases readChars more <;> rfl

/-- A character of a string is read back from the way it is written. -/
theorem readChars_escapeChar_append (c : Char) (more : List Char) :
    readChars (escapeChar c ++ more) =
      (readChars more).map fun (chars, rest) => (c :: chars, rest) := by
  unfold escapeChar
  -- Seven characters have a letter of their own.
  iterate 7
    split
    · next h =>
      subst h
      exact readChars_short (by decide) more
  split
  · next hcontrol => exact readChars_control hcontrol more
  · next hquote hslash _ _ _ _ _ hcontrol =>
    exact readChars_cons_of_plain hquote hslash hcontrol more

/-- The characters of a string are read back up to the quote behind them. -/
theorem readChars_flatMap_escapeChar (cs rest : List Char) :
    readChars (cs.flatMap escapeChar ++ '"' :: rest) = .ok (cs, rest) := by
  induction cs with
  | nil => rw [List.flatMap_nil, List.nil_append, readChars]
  | cons c cs ih =>
    rw [List.flatMap_cons, List.append_assoc, readChars_escapeChar_append, ih]
    rfl

/-- A string is read back behind its opening quote. -/
theorem readText_flatMap_escapeChar (text : String) (rest : List Char) :
    readText (text.toList.flatMap escapeChar ++ '"' :: rest) = .ok (text, rest) := by
  simp only [readText, readChars_flatMap_escapeChar, String.ofList_toList]

/-! ## Brackets, commas and colons -/

/-- The first item of an array begins where it was printed. -/
theorem nextItem_first {gap : List Char} (hgap : AllGap gap) (layout : Layout) (depth : Nat)
    (value : Json) (rest : List Char) :
    nextItem true (gap ++ (print layout depth value ++ rest)) =
      .ok (.item (print layout depth value ++ rest)) := by
  obtain ⟨c, cs, hprint, -, hclose⟩ := exists_print_eq_cons layout depth value
  rw [nextItem, skipGap_append_print hgap, hprint, List.cons_append]
  simp only [if_neg hclose, if_true]

/-- A later item of an array begins behind a comma. -/
theorem nextItem_later {gap : List Char} (hgap : AllGap gap) (layout : Layout) (depth : Nat)
    (value : Json) (rest : List Char) :
    nextItem false (',' :: (gap ++ (print layout depth value ++ rest))) =
      .ok (.item (print layout depth value ++ rest)) := by
  obtain ⟨c, cs, hprint, -, hclose⟩ := exists_print_eq_cons layout depth value
  rw [nextItem, skipGap_cons rfl]
  simp only [skipGap_append_print hgap]
  rw [hprint, List.cons_append]
  simp [hclose]

/-- An array ends at its closing bracket. -/
theorem nextItem_close {gap : List Char} (hgap : AllGap gap) (first : Bool) (rest : List Char) :
    nextItem first (gap ++ ']' :: rest) = .ok (.close (']' :: rest)) := by
  rw [nextItem, skipGap_append hgap rfl]
  rfl

/-- The first member of an object begins behind the quote of its name. -/
theorem nextMember_first {gap : List Char} (hgap : AllGap gap) (rest : List Char) :
    nextMember true (gap ++ '"' :: rest) = .ok (.item rest) := by
  rw [nextMember, skipGap_append hgap rfl]
  rfl

/-- A later member of an object begins behind a comma and the quote of its name. -/
theorem nextMember_later {gap : List Char} (hgap : AllGap gap) (rest : List Char) :
    nextMember false (',' :: (gap ++ '"' :: rest)) = .ok (.item rest) := by
  rw [nextMember, skipGap_cons rfl]
  simp only [skipGap_append hgap (rfl : isGap '"' = false)]
  rfl

/-- An object ends at its closing brace. -/
theorem nextMember_close {gap : List Char} (hgap : AllGap gap) (first : Bool) (rest : List Char) :
    nextMember first (gap ++ '\x7d' :: rest) = .ok (.close ('\x7d' :: rest)) := by
  rw [nextMember, skipGap_append hgap rfl]
  rfl

/-- The colon is read that stands right behind the name of a member. -/
theorem readColon_cons (rest : List Char) : readColon (':' :: rest) = .ok rest := by
  rw [readColon, skipGap_cons rfl]
  rfl

end Criteria.Json
