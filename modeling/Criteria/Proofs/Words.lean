import Criteria.Text.Blank

/-!
# Words and the blanks between them

A spacing says how a text is written in words: the blanks in front of each word, the word, and the
blanks behind the last one. Between two words there is at least one blank. Every text is written in
this way, and its words are those of the spacing, so a text is cut into words in one way only.
-/

namespace Criteria.Text

/-- Nothing but white space. -/
def IsSpace (cs : List Char) : Prop := ∀ c ∈ cs, isBlank c = true

/-- At least one character and no white space. -/
def IsWord (cs : List Char) : Prop := cs ≠ [] ∧ ∀ c ∈ cs, isBlank c = false

instance (cs : List Char) : Decidable (IsWord cs) :=
  decidable_of_iff ((!cs.isEmpty && cs.all fun c => !isBlank c) = true) (by simp [IsWord])

/-- Words with the blanks in front of each, and the blanks behind them all. -/
structure Spacing where
  /-- Each word, behind the blanks in front of it. -/
  items : List (List Char × List Char)
  /-- The blanks behind the last word. -/
  trail : List Char

namespace Spacing

/-- The words with their blanks, as one text. -/
def text (spacing : Spacing) : List Char :=
  spacing.items.flatMap (fun item => item.1 ++ item.2) ++ spacing.trail

/-- The words alone. -/
def words (spacing : Spacing) : List (List Char) := spacing.items.map Prod.snd

/-- Blanks are blank, words are words, and no two words stand together. -/
structure Proper (spacing : Spacing) : Prop where
  gap : ∀ item ∈ spacing.items, IsSpace item.1
  word : ∀ item ∈ spacing.items, IsWord item.2
  apart : ∀ item ∈ spacing.items.tail, item.1 ≠ []
  trail : IsSpace spacing.trail

end Spacing

/-- No blank stands in a word. -/
theorem IsWord.not_mem {word : List Char} (h : IsWord word) {c : Char} (hc : isBlank c = true) :
    c ∉ word := by
  intro hmem
  have hplain := h.2 c hmem
  rw [hc] at hplain
  contradiction

/-- There is no word in nothing but white space. -/
theorem wordLists_eq_nil {cs : List Char} (h : IsSpace cs) : wordLists cs = [] := by
  induction cs with
  | nil => rfl
  | cons c cs ih =>
    have hc : isBlank c = true := h c List.mem_cons_self
    have hcs : IsSpace cs := fun d hd => h d (List.mem_cons_of_mem c hd)
    rw [← List.nil_append (c :: cs), wordLists_append_blank hc, ih hcs]
    rfl

/-- Blanks in front of a text do not change its words. -/
theorem wordLists_space_append {gap : List Char} (h : IsSpace gap) (cs : List Char) :
    wordLists (gap ++ cs) = wordLists cs := by
  induction gap with
  | nil => rfl
  | cons c gap ih =>
    have hc : isBlank c = true := h c List.mem_cons_self
    have hgap : IsSpace gap := fun d hd => h d (List.mem_cons_of_mem c hd)
    rw [List.cons_append, ← List.nil_append (c :: (gap ++ cs)), wordLists_append_blank hc, ih hgap]
    rfl

/-- A word is its only word. -/
theorem wordLists_of_isWord {word : List Char} (h : IsWord word) : wordLists word = [word] := by
  rw [wordLists, List.splitOnP_eq_singleton h.2]
  simpa using h.1

/-- A word in front of a blank is the first word. -/
theorem wordLists_word_append {word : List Char} (hword : IsWord word) {c : Char}
    (hc : isBlank c = true) (cs : List Char) :
    wordLists (word ++ c :: cs) = word :: wordLists cs := by
  rw [wordLists_append_blank hc, wordLists_of_isWord hword, List.singleton_append]

/-- A word in front of a spacing whose words are all behind blanks is one more word. -/
theorem wordLists_word_append_text {word : List Char} (hword : IsWord word) {spacing : Spacing}
    (h : spacing.Proper) (hapart : ∀ item ∈ spacing.items, item.1 ≠ []) :
    wordLists (word ++ spacing.text) = word :: spacing.words := by
  obtain ⟨items, trail⟩ := spacing
  induction items generalizing word with
  | nil =>
    cases trail with
    | nil => simpa [Spacing.text, Spacing.words] using wordLists_of_isWord hword
    | cons c cs =>
      have hc : isBlank c = true := h.trail c List.mem_cons_self
      have hcs : IsSpace cs := fun d hd => h.trail d (List.mem_cons_of_mem c hd)
      change wordLists (word ++ c :: cs) = [word]
      rw [wordLists_word_append hword hc, wordLists_eq_nil hcs]
  | cons item rest ih =>
    obtain ⟨gap, next⟩ := item
    have hgap := h.gap (gap, next) List.mem_cons_self
    have hnext := h.word (gap, next) List.mem_cons_self
    have hrest : Spacing.Proper ⟨rest, trail⟩ :=
      ⟨fun item hitem => h.gap item (List.mem_cons_of_mem _ hitem),
        fun item hitem => h.word item (List.mem_cons_of_mem _ hitem),
        fun item hitem => hapart item (List.mem_cons_of_mem _ (List.mem_of_mem_tail hitem)),
        h.trail⟩
    have hlater := ih hnext hrest fun item hitem => hapart item (List.mem_cons_of_mem _ hitem)
    cases gap with
    | nil => exact absurd rfl (hapart ([], next) List.mem_cons_self)
    | cons c gap =>
      have hc : isBlank c = true := hgap c List.mem_cons_self
      have htail : IsSpace gap := fun d hd => hgap d (List.mem_cons_of_mem c hd)
      have htext : Spacing.text ⟨(c :: gap, next) :: rest, trail⟩ =
          c :: (gap ++ (next ++ Spacing.text ⟨rest, trail⟩)) := by simp [Spacing.text]
      rw [htext, wordLists_word_append hword hc, wordLists_space_append htail, hlater]
      rfl

/-- The words of a text are those of its spacing. -/
theorem wordLists_text {spacing : Spacing} (h : spacing.Proper) :
    wordLists spacing.text = spacing.words := by
  obtain ⟨_ | ⟨⟨gap, word⟩, rest⟩, trail⟩ := spacing
  · exact wordLists_eq_nil h.trail
  · have hgap := h.gap (gap, word) List.mem_cons_self
    have hword := h.word (gap, word) List.mem_cons_self
    have hrest : Spacing.Proper ⟨rest, trail⟩ :=
      ⟨fun item hitem => h.gap item (List.mem_cons_of_mem _ hitem),
        fun item hitem => h.word item (List.mem_cons_of_mem _ hitem),
        fun item hitem => h.apart item (List.mem_of_mem_tail hitem), h.trail⟩
    have htext : Spacing.text ⟨(gap, word) :: rest, trail⟩ =
        gap ++ (word ++ Spacing.text ⟨rest, trail⟩) := by simp [Spacing.text]
    rw [htext, wordLists_space_append hgap, wordLists_word_append_text hword hrest h.apart]
    rfl

/-- Every text has a spacing. -/
theorem exists_spacing (cs : List Char) :
    ∃ spacing : Spacing, spacing.Proper ∧ spacing.text = cs := by
  induction cs with
  | nil => exact ⟨⟨[], []⟩, ⟨nofun, nofun, nofun, nofun⟩, rfl⟩
  | cons c cs ih =>
    obtain ⟨⟨items, trail⟩, hproper, htext⟩ := ih
    cases hc : isBlank c with
    | true =>
      -- A blank goes in front of the first word, or behind all words if there is none.
      cases items with
      | nil =>
        refine ⟨⟨[], c :: trail⟩, ⟨nofun, nofun, nofun, ?_⟩, by rw [← htext]; rfl⟩
        exact List.forall_mem_cons.mpr ⟨hc, hproper.trail⟩
      | cons item rest =>
        obtain ⟨hgap, hgaps⟩ := List.forall_mem_cons.mp hproper.gap
        obtain ⟨hword, hwords⟩ := List.forall_mem_cons.mp hproper.word
        refine ⟨⟨(c :: item.1, item.2) :: rest, trail⟩, ⟨?_, ?_, hproper.apart, hproper.trail⟩,
          by rw [← htext]; simp [Spacing.text]⟩
        · exact List.forall_mem_cons.mpr ⟨List.forall_mem_cons.mpr ⟨hc, hgap⟩, hgaps⟩
        · exact List.forall_mem_cons.mpr ⟨hword, hwords⟩
    | false =>
      -- Any other character begins a word of its own, or joins the word that it touches.
      have hown : IsWord [c] := ⟨nofun, by simpa using hc⟩
      have hnone : IsSpace [] := nofun
      cases items with
      | nil =>
        refine ⟨⟨[([], [c])], trail⟩, ⟨?_, ?_, nofun, hproper.trail⟩, by rw [← htext]; rfl⟩
        · exact List.forall_mem_singleton.mpr hnone
        · exact List.forall_mem_singleton.mpr hown
      | cons item rest =>
        obtain ⟨gap, word⟩ := item
        obtain ⟨hgap, hgaps⟩ := List.forall_mem_cons.mp hproper.gap
        obtain ⟨hword, hwords⟩ := List.forall_mem_cons.mp hproper.word
        cases gap with
        | nil =>
          refine ⟨⟨([], c :: word) :: rest, trail⟩, ⟨?_, ?_, hproper.apart, hproper.trail⟩,
            by rw [← htext]; simp [Spacing.text]⟩
          · exact List.forall_mem_cons.mpr ⟨hnone, hgaps⟩
          · exact List.forall_mem_cons.mpr
              ⟨⟨nofun, List.forall_mem_cons.mpr ⟨hc, hword.2⟩⟩, hwords⟩
        | cons d gap =>
          refine ⟨⟨([], [c]) :: (d :: gap, word) :: rest, trail⟩, ⟨?_, ?_, ?_, hproper.trail⟩,
            by rw [← htext]; simp [Spacing.text]⟩
          · exact List.forall_mem_cons.mpr ⟨hnone, hproper.gap⟩
          · exact List.forall_mem_cons.mpr ⟨hown, hproper.word⟩
          · exact List.forall_mem_cons.mpr ⟨nofun, hproper.apart⟩

/-- A text has some words exactly when it is written with them. -/
theorem wordLists_eq_iff {cs : List Char} {words : List (List Char)} :
    wordLists cs = words ↔
      ∃ spacing : Spacing, spacing.Proper ∧ spacing.text = cs ∧ spacing.words = words := by
  constructor
  · intro h
    obtain ⟨spacing, hproper, htext⟩ := exists_spacing cs
    exact ⟨spacing, hproper, htext, by rw [← h, ← htext, wordLists_text hproper]⟩
  · rintro ⟨spacing, hproper, rfl, rfl⟩
    exact wordLists_text hproper

/-- Words with a space between them are cut into those words. -/
theorem wordLists_intercalate {words : List (List Char)} (h : ∀ word ∈ words, IsWord word) :
    wordLists ([' '].intercalate words) = words := by
  induction words with
  | nil => rfl
  | cons word rest ih =>
    obtain ⟨hword, hrest⟩ := List.forall_mem_cons.mp h
    cases rest with
    | nil => simpa using wordLists_of_isWord hword
    | cons next more =>
      rw [List.intercalate_cons_cons, List.append_assoc, List.singleton_append,
        wordLists_word_append hword (by decide), ih hrest]

/-- Words with a space between them have those words. -/
theorem words_intercalate {values : List String} (h : ∀ value ∈ values, IsWord value.toList) :
    words (" ".intercalate values) = values := by
  have hlists : ∀ word ∈ values.map String.toList, IsWord word := List.forall_mem_map.mpr h
  rw [words, String.toList_intercalate]
  change (wordLists ([' '].intercalate (values.map String.toList))).map String.ofList = values
  rw [wordLists_intercalate hlists, List.map_map]
  exact List.map_id'' (fun value => String.ofList_toList) values

/-! ## Trimming -/

/-- Blanks behind a text do not change its words. -/
theorem wordLists_append_space {trail : List Char} (h : IsSpace trail) (cs : List Char) :
    wordLists (cs ++ trail) = wordLists cs := by
  cases trail with
  | nil => rw [List.append_nil]
  | cons c trail =>
    obtain ⟨hc, htrail⟩ := List.forall_mem_cons.mp h
    rw [wordLists_append_blank hc, wordLists_eq_nil htrail, List.append_nil]

/-- There is no white space to drop in front of a word. -/
theorem dropWhile_isBlank_of_isWord {word : List Char} (h : IsWord word) (rest : List Char) :
    (word ++ rest).dropWhile isBlank = word ++ rest := by
  obtain ⟨c, cs, rfl⟩ := List.exists_cons_of_ne_nil h.1
  exact List.dropWhile_cons_of_neg (by simp [h.2 c List.mem_cons_self])

/-- The blanks around a word are taken off. -/
theorem trimList_append {lead word trail : List Char} (hlead : IsSpace lead) (hword : IsWord word)
    (htrail : IsSpace trail) : trimList (lead ++ (word ++ trail)) = word := by
  have hreverse : IsWord word.reverse :=
    ⟨List.reverse_ne_nil_iff.mpr hword.1, fun c hc => hword.2 c (List.mem_reverse.mp hc)⟩
  rw [trimList, List.dropWhile_append_of_pos hlead, dropWhile_isBlank_of_isWord hword,
    List.reverse_append, List.dropWhile_append_of_pos fun c hc => htrail c (List.mem_reverse.mp hc),
    ← List.append_nil word.reverse, dropWhile_isBlank_of_isWord hreverse, List.append_nil,
    List.reverse_reverse]

/-- There is no white space around a word. -/
theorem trim_eq_self {word : String} (h : IsWord word.toList) : trim word = word := by
  have htrim := @trimList_append [] word.toList [] nofun h nofun
  rw [List.nil_append, List.append_nil] at htrim
  rw [trim, htrim, String.ofList_toList]

/-- Nothing but blanks is taken off. -/
theorem exists_trimList (cs : List Char) :
    ∃ lead trail, IsSpace lead ∧ IsSpace trail ∧ cs = lead ++ (trimList cs ++ trail) := by
  have htaken (cs : List Char) : IsSpace (cs.takeWhile isBlank) :=
    List.all_eq_true.mp List.all_takeWhile
  refine ⟨cs.takeWhile isBlank, ((cs.dropWhile isBlank).reverse.takeWhile isBlank).reverse,
    htaken cs, fun c hc => htaken _ c (List.mem_reverse.mp hc), ?_⟩
  rw [trimList, ← List.reverse_append, List.takeWhile_append_dropWhile, List.reverse_reverse,
    List.takeWhile_append_dropWhile]

/-- A text has one word exactly when it is that word once the white space around it is taken
off. -/
theorem words_eq_singleton_iff {text word : String} :
    words text = [word] ↔ IsWord word.toList ∧ trim text = word := by
  constructor
  · intro h
    obtain ⟨chars, hchars, rfl⟩ := List.map_eq_singleton_iff.mp h
    obtain ⟨spacing, hproper, htext, hwords⟩ := wordLists_eq_iff.mp hchars
    obtain ⟨items, trail⟩ := spacing
    obtain ⟨⟨gap, last⟩, rfl, rfl⟩ := List.map_eq_singleton_iff.mp hwords
    have hword := hproper.word (gap, last) List.mem_cons_self
    have hshape : text.toList = gap ++ (last ++ trail) := by
      rw [← htext]
      simp [Spacing.text]
    rw [trim, hshape, trimList_append (hproper.gap _ List.mem_cons_self) hword hproper.trail]
    exact ⟨by rwa [String.toList_ofList], rfl⟩
  · rintro ⟨hword, rfl⟩
    obtain ⟨lead, trail, hlead, htrail, hshape⟩ := exists_trimList text.toList
    rw [trim, String.toList_ofList] at hword
    rw [words, hshape, wordLists_space_append hlead, wordLists_append_space htrail,
      wordLists_of_isWord hword]
    rfl

end Criteria.Text
