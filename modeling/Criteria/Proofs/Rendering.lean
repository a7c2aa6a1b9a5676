import Criteria.Proofs.Digest
import Criteria.Proofs.Registration
import Criteria.Proofs.States
import Criteria.TestVector

/-!
# The lines of a vector determine its assignments

A line escapes nothing. It can be read back all the same, because a definition file gives names and
values without white space and a criterion shows at least one value: the line is then its words with
a space between them, the second of which is the equals sign, and it ends at the first line feed. A
name may hold an equals sign and a value may look like a name. The kind of a criterion is not on its
line, but the registry has one definition for a name.
-/

namespace Criteria

open Text

/-- The criteria of a vector belong to definitions of a registry and were reached by changes. -/
def TestVector.DrawnFrom (vector : TestVector) (registry : Registry) : Prop :=
  ∀ criterion ∈ vector.criteria, ∃ definition ∈ registry.definitions, definition.Reaches criterion

namespace Criterion

/-- The name of a criterion is a word, and so is every value it shows, of which there is one. -/
structure Plain (criterion : Criterion) : Prop where
  name : IsWord criterion.name.toList
  shown : criterion.values ≠ []
  value : ∀ value ∈ criterion.values, IsWord value.toList

/-- The words of the line of a criterion. -/
def lineWords (criterion : Criterion) : List (List Char) :=
  criterion.name.toList :: ['='] :: criterion.values.map String.toList

/-- A line is its words with spaces between them, and a line feed. -/
theorem toList_line {criterion : Criterion} (h : criterion.values ≠ []) :
    criterion.line.toList = [' '].intercalate criterion.lineWords ++ ['\n'] := by
  have hvalues : criterion.values.map String.toList ≠ [] := mt List.map_eq_nil_iff.mp h
  rw [lineWords, List.intercalate_cons_cons, List.intercalate_cons_of_ne_nil hvalues]
  simp only [line, String.toList_append, String.toList_intercalate]
  simp

end Criterion

/-- What stands in words with spaces between them is a space or stands in a word. -/
theorem mem_intercalate_space {words : List (List Char)} {c : Char}
    (h : c ∈ [' '].intercalate words) : c = ' ' ∨ ∃ word ∈ words, c ∈ word := by
  induction words with
  | nil => simp at h
  | cons word rest ih =>
    by_cases hrest : rest = []
    · subst hrest
      exact .inr ⟨word, List.mem_cons_self, by simpa using h⟩
    · rw [List.intercalate_cons_of_ne_nil hrest, List.append_assoc, List.mem_append,
        List.mem_append, List.mem_singleton] at h
      rcases h with hword | rfl | hlater
      · exact .inr ⟨word, List.mem_cons_self, hword⟩
      · exact .inl rfl
      · rcases ih hlater with rfl | ⟨other, hother, hc⟩
        · exact .inl rfl
        · exact .inr ⟨other, List.mem_cons_of_mem word hother, hc⟩

/-- Words with spaces between them stand on one line. -/
theorem feed_not_mem_intercalate {words : List (List Char)} (h : ∀ word ∈ words, IsWord word) :
    '\n' ∉ [' '].intercalate words := by
  intro hfeed
  rcases mem_intercalate_space hfeed with heq | ⟨word, hword, hmem⟩
  · exact absurd heq (by decide)
  · exact (h word hword).not_mem (by decide) hmem

/-- Words with spaces between them are cut apart again at the spaces. -/
theorem splitOn_intercalate_words {words : List (List Char)} (h : ∀ word ∈ words, IsWord word)
    (hne : words ≠ []) : ([' '].intercalate words).splitOn ' ' = words :=
  List.splitOn_intercalate ' ' (fun word hword => (h word hword).not_mem (by decide)) hne

namespace Criterion

/-- The words of the line of a plain criterion are words. -/
theorem Plain.isWord_of_mem_lineWords {criterion : Criterion} (h : criterion.Plain)
    {word : List Char} (hword : word ∈ criterion.lineWords) : IsWord word := by
  rw [lineWords, List.mem_cons, List.mem_cons, List.mem_map] at hword
  rcases hword with rfl | rfl | ⟨value, hvalue, rfl⟩
  · exact h.name
  · exact ⟨List.cons_ne_nil _ _, List.forall_mem_singleton.mpr (by decide)⟩
  · exact h.value value hvalue

/-- The line of a plain criterion ends at its first line feed. -/
theorem Plain.feed_not_mem {criterion : Criterion} (h : criterion.Plain) :
    '\n' ∉ [' '].intercalate criterion.lineWords :=
  feed_not_mem_intercalate fun _ => h.isWord_of_mem_lineWords

/-- The text of the line of a plain criterion determines its name and the values it shows. -/
theorem Plain.eq_of_intercalate_eq {first second : Criterion} (hfirst : first.Plain)
    (hsecond : second.Plain)
    (h : [' '].intercalate first.lineWords = [' '].intercalate second.lineWords) :
    first.name = second.name ∧ first.values = second.values := by
  have hwords := congrArg (List.splitOn ' ') h
  rw [splitOn_intercalate_words (fun _ => hfirst.isWord_of_mem_lineWords) (List.cons_ne_nil _ _),
    splitOn_intercalate_words (fun _ => hsecond.isWord_of_mem_lineWords) (List.cons_ne_nil _ _)]
    at hwords
  obtain ⟨hname, htail⟩ := List.cons.inj hwords
  obtain ⟨-, hvalues⟩ := List.cons.inj htail
  exact ⟨String.toList_inj.mp hname,
    List.map_injective_iff.mpr (fun _ _ => String.toList_inj.mp) hvalues⟩

/-- The first line of some lines goes up to the first line feed. -/
theorem flatMap_line_cons {criterion : Criterion} (h : criterion.values ≠ [])
    (rest : List Criterion) :
    ((criterion :: rest).flatMap fun criterion => criterion.line.toList) =
      [' '].intercalate criterion.lineWords ++
        '\n' :: rest.flatMap fun criterion => criterion.line.toList := by
  rw [List.flatMap_cons, toList_line h, List.append_assoc, List.singleton_append]

/-- The lines of plain criteria determine what they assign, as long as the kind of a criterion can
be told from its name. -/
theorem map_assignment_of_flatMap_line {first second : List Criterion}
    (hfirst : ∀ criterion ∈ first, criterion.Plain)
    (hsecond : ∀ criterion ∈ second, criterion.Plain)
    (hkind : ∀ criterion ∈ first, ∀ other ∈ second, criterion.name = other.name →
      criterion.kind = other.kind)
    (h : (first.flatMap fun criterion => criterion.line.toList) =
      second.flatMap fun criterion => criterion.line.toList) :
    first.map assignment = second.map assignment := by
  induction first generalizing second with
  | nil =>
    cases second with
    | nil => rfl
    | cons other others =>
      rw [flatMap_line_cons (hsecond other List.mem_cons_self).shown] at h
      exact absurd h.symm (List.append_ne_nil_of_right_ne_nil _ (List.cons_ne_nil _ _))
  | cons criterion rest ih =>
    cases second with
    | nil =>
      rw [flatMap_line_cons (hfirst criterion List.mem_cons_self).shown] at h
      exact absurd h (List.append_ne_nil_of_right_ne_nil _ (List.cons_ne_nil _ _))
    | cons other others =>
      obtain ⟨hcriterion, hrest⟩ := List.forall_mem_cons.mp hfirst
      obtain ⟨hother, hothers⟩ := List.forall_mem_cons.mp hsecond
      rw [flatMap_line_cons hcriterion.shown, flatMap_line_cons hother.shown] at h
      obtain ⟨hline, hlines⟩ :=
        append_cons_inj_of_not_mem hcriterion.feed_not_mem hother.feed_not_mem h
      obtain ⟨hname, hvalues⟩ := hcriterion.eq_of_intercalate_eq hother hline
      have hsame := hkind criterion List.mem_cons_self other List.mem_cons_self hname
      have hlater := ih hrest hothers (fun _ hfirst _ hsecond =>
        hkind _ (List.mem_cons_of_mem _ hfirst) _ (List.mem_cons_of_mem _ hsecond)) hlines
      rw [List.map_cons, List.map_cons, hlater, assignment, assignment, hname, hsame, hvalues]

/-- The assignments of criteria determine their lines. -/
theorem map_line_of_map_assignment {first second : List Criterion}
    (h : first.map assignment = second.map assignment) : first.map line = second.map line := by
  have hlines : ∀ criteria : List Criterion, criteria.map line =
      (criteria.map assignment).map fun shown =>
        shown.name ++ " = " ++ " ".intercalate shown.values ++ "\n" := by
    intro criteria
    rw [List.map_map]
    rfl
  rw [hlines, hlines, h]

end Criterion

/-- `"0"` is a word. -/
theorem isWord_noValue : IsWord noValue.toList := by decide +kernel

/-- A criterion that a clean definition reaches is plain. -/
theorem Definition.Reaches.plain {definition : Definition} {criterion : Criterion}
    (h : definition.Reaches criterion) (hclean : definition.Clean) : criterion.Plain := by
  refine ⟨?_, h.valid.values_ne_nil, fun value hvalue => ?_⟩
  · rw [Criterion.name, h.definition_eq]
    exact hclean.name.1
  · rcases h.valid.of_mem_values hvalue with rfl | hallowed
    · exact isWord_noValue
    · rw [h.definition_eq] at hallowed
      exact (hclean.token value hallowed).1

namespace TestVector

/-- A criterion of a vector drawn from the registry of a text is plain. -/
theorem DrawnFrom.plain {vector : TestVector} {registry : Registry} {text : String}
    (h : vector.DrawnFrom registry) (hregistry : (Registry.ofText text).outcome = .ok registry)
    {criterion : Criterion} (hmem : criterion ∈ vector.criteria) : criterion.Plain := by
  obtain ⟨definition, hdefinition, hreaches⟩ := h criterion hmem
  exact hreaches.plain (Registry.clean_of_ofText hregistry hdefinition)

/-- The kind of a criterion drawn from a registry can be told from its name. -/
theorem DrawnFrom.kind_eq {a b : TestVector} {registry : Registry} (ha : a.DrawnFrom registry)
    (hb : b.DrawnFrom registry) {first second : Criterion} (hfirst : first ∈ a.criteria)
    (hsecond : second ∈ b.criteria) (hname : first.name = second.name) :
    first.kind = second.kind := by
  obtain ⟨one, hone, hreachesOne⟩ := ha first hfirst
  obtain ⟨other, hother, hreachesOther⟩ := hb second hsecond
  rw [Criterion.name, Criterion.name, hreachesOne.definition_eq,
    hreachesOther.definition_eq] at hname
  rw [Criterion.kind, Criterion.kind, hreachesOne.definition_eq, hreachesOther.definition_eq,
    Registry.eq_of_name_eq hone hother hname]

/-- Vectors with the same assignments have the same lines. -/
theorem criterionLines_eq_of_assignments_eq {a b : TestVector} (h : a.assignments = b.assignments) :
    a.criterionLines = b.criterionLines := by
  rw [criterionLines, criterionLines, Criterion.map_line_of_map_assignment h]

/-- Vectors drawn from the registry of a text have the same lines exactly when they have the same
assignments. -/
theorem criterionLines_eq_iff {text : String} {registry : Registry}
    (hregistry : (Registry.ofText text).outcome = .ok registry) {a b : TestVector}
    (ha : a.DrawnFrom registry) (hb : b.DrawnFrom registry) :
    a.criterionLines = b.criterionLines ↔ a.assignments = b.assignments := by
  refine ⟨fun h => ?_, criterionLines_eq_of_assignments_eq⟩
  have hlines := congrArg String.toList h
  rw [criterionLines, criterionLines, String.toList_join, String.toList_join, List.flatMap_map,
    List.flatMap_map] at hlines
  exact Criterion.map_assignment_of_flatMap_line (fun _ => ha.plain hregistry)
    (fun _ => hb.plain hregistry) (fun _ hfirst _ => ha.kind_eq hb hfirst) hlines

/-- The digest is taken of the lines of the criteria and of nothing else. It is the SHA-256 digest
of their bytes in lowercase hexadecimal digits. Vectors drawn from the registry of a text have the
same lines exactly when they have the same assignments. So vectors with the same assignments have
one digest, whatever their names and test types, and vectors with different assignments have one
digest only if the bytes of their lines are a collision. -/
theorem digest_determines_assignments {text : String} {registry : Registry}
    (hregistry : (Registry.ofText text).outcome = .ok registry) {a b : TestVector}
    (ha : a.DrawnFrom registry) (hb : b.DrawnFrom registry) :
    (a.criterionLines = b.criterionLines ↔ a.assignments = b.assignments) ∧
      a.digest.toList =
        (Digest.sha256 a.criterionLines.toUTF8.toList).bytes.flatMap Digest.hexByte ∧
      a.digest.toList.length = 64 ∧ (∀ c ∈ a.digest.toList, c ∈ "0123456789abcdef".toList) ∧
      (a.assignments = b.assignments → a.digest = b.digest ∧
        ∀ testType other, (a.retag testType).digest = (b.retag other).digest) ∧
      (a.assignments ≠ b.assignments → a.digest = b.digest →
        Digest.Collision a.criterionLines.toUTF8.toList b.criterionLines.toUTF8.toList) := by
  have hlines := criterionLines_eq_iff hregistry ha hb
  refine ⟨hlines, Digest.toList_hexDigest _, Digest.length_toList_hexDigest _,
    fun _ => Digest.mem_of_mem_hexDigest, ?_, ?_⟩
  · intro h
    have hdigest : a.digest = b.digest := congrArg Digest.hexDigest (hlines.mpr h)
    exact ⟨hdigest, fun _ _ => hdigest⟩
  · intro hne hdigest
    exact Digest.collision_of_hexDigest_eq (fun heq => hne (hlines.mp heq)) hdigest

/-- The lines tell vectors apart whose names and values hold equals signs and look alike. -/
theorem criterionLines_ne_of_equals_signs :
    let text := "Exclusive a=b : x =\nInclusive x : a=b x\n"
    let first : Definition := ⟨.exclusive, "a=b", ["x", "="]⟩
    let second : Definition := ⟨.inclusive, "x", ["a=b", "x"]⟩
    let registry := [first, second].foldl Registry.insert .empty
    let a : TestVector := ⟨"one", "nominal",
      [first.fresh.afterAll [.set "=", .set "y"], second.fresh.afterAll [.raw "x a=b"]]⟩
    let b : TestVector := ⟨"two", "burst",
      [second.fresh.afterAll [.add "a=b", .remove "x"], first.fresh.afterAll []]⟩
    (Registry.ofText text).outcome = .ok registry ∧ a.DrawnFrom registry ∧ b.DrawnFrom registry ∧
      a.criterionLines ≠ b.criterionLines := by
  intro text first second registry a b
  have hregistry : (Registry.ofText text).outcome = .ok registry :=
    Registry.ofText_eq_ok_iff.mpr ⟨[first, second], by decide +kernel, rfl⟩
  have hfirst : first ∈ registry.definitions := by decide +kernel
  have hsecond : second ∈ registry.definitions := by decide +kernel
  have ha : a.DrawnFrom registry :=
    List.forall_mem_cons.mpr ⟨⟨first, hfirst, _, rfl⟩,
      List.forall_mem_singleton.mpr ⟨second, hsecond, _, rfl⟩⟩
  have hb : b.DrawnFrom registry :=
    List.forall_mem_cons.mpr ⟨⟨second, hsecond, _, rfl⟩,
      List.forall_mem_singleton.mpr ⟨first, hfirst, _, rfl⟩⟩
  have hne : a.assignments ≠ b.assignments := by decide +kernel
  have hlines := (digest_determines_assignments hregistry ha hb).1
  exact ⟨hregistry, ha, hb, fun heq => hne (hlines.mp heq)⟩

end TestVector

end Criteria
