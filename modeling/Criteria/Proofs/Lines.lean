import Criteria.Text.Lines

/-!
# Cutting a text into lines

The cut is given a second time, as a relation that builds the text from its lines: a line may be
ended by a line feed or by a carriage return and a line feed, and the last one by nothing at all if
it holds something. The lines of a text are the only ones that it can be built from.

The pieces of a list between the places of one entry are treated here as well.
-/

namespace Criteria.Text

variable {α : Type} [BEq α]

/-- There is one piece more than there are places to cut at. -/
theorem length_splitOn (a : α) (xs : List α) : (xs.splitOn a).length = xs.count a + 1 := by
  induction xs with
  | nil => rfl
  | cons x xs ih =>
    rw [List.splitOn_cons_eq_if_modifyHead, List.count_cons]
    split <;> simp [ih]

variable [LawfulBEq α]

/-- A piece of a list that was cut at an entry does not hold the entry. -/
theorem not_mem_of_mem_splitOn {a : α} {xs piece : List α} (h : piece ∈ xs.splitOn a) :
    a ∉ piece := by
  induction xs generalizing piece with
  | nil => simp_all [List.splitOn_eq_splitOnP]
  | cons x xs ih =>
    rw [List.splitOn_cons_eq_if_modifyHead] at h
    split at h
    · rcases List.mem_cons.mp h with rfl | h
      · exact List.not_mem_nil
      · exact ih h
    · next hne =>
      obtain ⟨first, rest, hpieces⟩ := List.exists_cons_of_ne_nil (List.splitOn_ne_nil a xs)
      rw [hpieces, List.modifyHead_cons] at h
      rcases List.mem_cons.mp h with rfl | h
      · have hfirst : a ∉ first := ih (hpieces ▸ List.mem_cons_self)
        simp only [List.mem_cons, not_or]
        exact ⟨fun heq => hne (by simp [heq]), hfirst⟩
      · exact ih (hpieces ▸ List.mem_cons_of_mem _ h)

/-- A list is cut in two exactly when it holds the entry once, between the two. -/
theorem splitOn_eq_pair_iff {a : α} {xs left right : List α} :
    xs.splitOn a = [left, right] ↔ xs = left ++ a :: right ∧ a ∉ left ∧ a ∉ right := by
  constructor
  · intro h
    have hxs : [a].intercalate (xs.splitOn a) = xs := List.intercalate_splitOn a
    have hleft : left ∈ xs.splitOn a := by simp [h]
    have hright : right ∈ xs.splitOn a := by simp [h]
    rw [h] at hxs
    exact ⟨by simpa using hxs.symm, not_mem_of_mem_splitOn hleft, not_mem_of_mem_splitOn hright⟩
  · rintro ⟨rfl, hleft, hright⟩
    rw [List.splitOn_append_cons_self_of_not_mem hleft, List.splitOn_eq_singleton hright]

/-- A list is cut at the first place of an entry in one way only. -/
theorem append_cons_inj_of_not_mem {a : α} {left right otherLeft otherRight : List α}
    (hleft : a ∉ left) (hother : a ∉ otherLeft)
    (h : left ++ a :: right = otherLeft ++ a :: otherRight) :
    left = otherLeft ∧ right = otherRight := by
  have hpieces := congrArg (List.splitOn a) h
  rw [List.splitOn_append_cons_self_of_not_mem hleft,
    List.splitOn_append_cons_self_of_not_mem hother] at hpieces
  obtain rfl := (List.cons.inj hpieces).1
  exact ⟨rfl, (List.cons.inj (List.append_cancel_left h)).2⟩

/-- A text built from its lines. -/
inductive BuiltFrom : List Char → List (List Char) → Prop where
  /-- The empty text has no lines. -/
  | empty : BuiltFrom [] []
  /-- The last line may be ended by nothing, if it holds something. -/
  | last {line : List Char} (hline : line ≠ []) (hfeed : '\n' ∉ line) : BuiltFrom line [line]
  /-- A line that does not end with a carriage return may be ended by a line feed. -/
  | feed {line rest : List Char} {lines : List (List Char)} (hfeed : '\n' ∉ line)
    (hreturn : line.getLast? ≠ some '\r') (hrest : BuiltFrom rest lines) :
    BuiltFrom (line ++ '\n' :: rest) (line :: lines)
  /-- Any line may be ended by a carriage return and a line feed. -/
  | returnFeed {line rest : List Char} {lines : List (List Char)} (hfeed : '\n' ∉ line)
    (hrest : BuiltFrom rest lines) : BuiltFrom (line ++ '\r' :: '\n' :: rest) (line :: lines)

/-- The first line feed of a text ends its first line. -/
theorem lineLists_append_feed {line : List Char} (h : '\n' ∉ line) (rest : List Char) :
    lineLists (line ++ '\n' :: rest) = chomp line :: lineLists rest := by
  obtain ⟨first, more, hpieces⟩ := List.exists_cons_of_ne_nil (List.splitOn_ne_nil '\n' rest)
  rw [lineLists, List.splitOn_append_cons_self_of_not_mem h, lineLists, hpieces, linesOfPieces]

/-- A text without a line feed is one line, unless it is empty. -/
theorem lineLists_of_not_mem {line : List Char} (hfeed : '\n' ∉ line) (hline : line ≠ []) :
    lineLists line = [line] := by
  rw [lineLists, List.splitOn_eq_singleton hfeed, linesOfPieces,
    List.isEmpty_eq_false_iff.mpr hline]
  rfl

/-- A text is built from its lines. -/
theorem builtFrom_lineLists (cs : List Char) : BuiltFrom cs (lineLists cs) := by
  by_cases hfeed : '\n' ∈ cs
  · obtain ⟨line, rest, rfl, hline⟩ := List.eq_append_cons_of_mem hfeed
    have hrest := builtFrom_lineLists rest
    rw [lineLists_append_feed hline]
    unfold chomp
    split
    · next hreturn =>
      obtain ⟨line, rfl⟩ := List.getLast?_eq_some_iff.mp hreturn
      rw [List.dropLast_concat, List.append_assoc, List.singleton_append]
      exact .returnFeed (fun hmem => hline (List.mem_append_left _ hmem)) hrest
    · next hreturn => exact .feed hline hreturn hrest
  · by_cases hempty : cs = []
    · subst hempty
      exact .empty
    · rw [lineLists_of_not_mem hfeed hempty]
      exact .last hempty hfeed
termination_by cs.length

/-- The lines that a text is built from are its lines. -/
theorem BuiltFrom.lineLists_eq {cs : List Char} {lines : List (List Char)}
    (h : BuiltFrom cs lines) : lineLists cs = lines := by
  induction h with
  | empty => rfl
  | last hline hfeed => exact lineLists_of_not_mem hfeed hline
  | feed hfeed hreturn hrest ih => rw [lineLists_append_feed hfeed, ih, chomp, if_neg hreturn]
  | @returnFeed line rest lines hfeed hrest ih =>
    have hline : '\n' ∉ line ++ ['\r'] := by simp [hfeed]
    have htext : line ++ '\r' :: '\n' :: rest = line ++ ['\r'] ++ '\n' :: rest := by simp
    rw [htext, lineLists_append_feed hline, ih, chomp, List.getLast?_concat, if_pos rfl,
      List.dropLast_concat]

/-- No line that a text is built from holds a line feed. -/
theorem BuiltFrom.not_mem {cs : List Char} {lines : List (List Char)} (h : BuiltFrom cs lines) :
    ∀ line ∈ lines, '\n' ∉ line := by
  induction h with
  | empty => exact nofun
  | last hline hfeed => exact List.forall_mem_singleton.mpr hfeed
  | feed hfeed hreturn hrest ih => exact List.forall_mem_cons.mpr ⟨hfeed, ih⟩
  | returnFeed hfeed hrest ih => exact List.forall_mem_cons.mpr ⟨hfeed, ih⟩

/-- The lines of a text are those that it is built from. -/
theorem lines_eq_iff {text : String} {texts : List String} :
    lines text = texts ↔ BuiltFrom text.toList (texts.map String.toList) := by
  constructor
  · rintro rfl
    simpa [lines, Function.comp_def] using builtFrom_lineLists text.toList
  · intro h
    rw [lines, h.lineLists_eq]
    simp [Function.comp_def]

/-- No line of a text holds a line feed. -/
theorem feed_not_mem_of_mem_lines {text line : String} (h : line ∈ lines text) :
    '\n' ∉ line.toList :=
  (lines_eq_iff.mp rfl).not_mem line.toList (List.mem_map_of_mem h)

end Criteria.Text
