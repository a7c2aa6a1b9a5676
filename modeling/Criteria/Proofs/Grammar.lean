import Criteria.Definition.Reader
import Criteria.Proofs.Lines
import Criteria.Proofs.Words
import Mathlib.Data.List.Forall2

/-!
# The grammar of definition files

The grammar builds a line from its parts: a kind, a name and at least one value, with white space
between the words, a colon behind the name, and white space wherever else it may stand. The reader
takes lines apart by other means. It accepts exactly the lines of the grammar, and gives the
definition that was written.

What is wrong with any other line is stated without the reader, too, in the order in which it is
reported: the colons, the number of words before the colon, the kind, the values. The words for
kinds and the reasons for refusing a line are spelled here, and the tables of the reader are
compared with them.
-/

namespace Criteria

/-- Tell that a text may stand for a name or a value in a definition file: it holds something, but
no white space and no colon. -/
def Text.IsToken (cs : List Char) : Prop := Text.IsWord cs ∧ ':' ∉ cs

/-- White space within a line. -/
def Text.IsGap (cs : List Char) : Prop := Text.IsSpace cs ∧ '\n' ∉ cs

/-- The words for a kind in a definition file. -/
inductive Kind.Word : Kind → String → Prop where
  | exclusiveCriterion : Word .exclusive "ExclusiveCriterion"
  | exclusive : Word .exclusive "Exclusive"
  | inclusiveCriterion : Word .inclusive "InclusiveCriterion"
  | inclusive : Word .inclusive "Inclusive"

namespace Definition

open Text

/-- A definition as it is written on a line: `kind` and `name`, a colon, the `value` that must be
there, and `more` values, each behind the white space before it. -/
inductive Written : List Char → Definition → Prop where
  | intro {lead kind between name before after value trail : List Char}
    {more : List (List Char × List Char)} {meant : Kind}
    (hlead : IsGap lead) (hkind : meant.Word (String.ofList kind))
    (hbetween : IsGap between) (hapart : between ≠ []) (hname : IsToken name)
    (hbefore : IsGap before) (hafter : IsGap after) (hvalue : IsToken value)
    (hgaps : ∀ item ∈ more, IsGap item.1 ∧ item.1 ≠ []) (hvalues : ∀ item ∈ more, IsToken item.2)
    (htrail : IsGap trail) :
    Written
      (lead ++ kind ++ between ++ name ++ before ++ ':' ::
        (after ++ value ++ more.flatMap (fun item => item.1 ++ item.2) ++ trail))
      ⟨meant, String.ofList name, ((value :: more.map Prod.snd).map String.ofList).eraseDups⟩

/-- The first thing wrong with a line, in the words in which it is reported. The words before the
colon, if there is one colon only, are those of the spacing `head`. -/
inductive Flawed : List Char → String → Prop where
  /-- There is no colon. -/
  | noSeparator {line : List Char} (hcolon : ':' ∉ line) : Flawed line "missing ':' separator"
  /-- There are two colons or more. -/
  | separators {line : List Char} (hcolons : 2 ≤ line.count ':') :
    Flawed line "multiple ':' separators"
  /-- Other than two words stand before the colon. -/
  | head {head : Spacing} {values : List Char} (hhead : head.Proper) (hleft : ':' ∉ head.text)
    (hright : ':' ∉ values) (hcount : head.words.length ≠ 2) :
    Flawed (head.text ++ ':' :: values)
      ("expected '<kind> <name>', found " ++ toString head.words.length ++ " token(s)")
  /-- Two words stand there, but the first is no kind. -/
  | kind {head : Spacing} {values word name : List Char} (hhead : head.Proper)
    (hleft : ':' ∉ head.text) (hright : ':' ∉ values) (hwords : head.words = [word, name])
    (hkind : ∀ kind : Kind, ¬kind.Word (String.ofList word)) :
    Flawed (head.text ++ ':' :: values) ("unknown criterion kind " ++ quote (String.ofList word))
  /-- A kind and a name stand there, but no value stands behind the colon. -/
  | noValues {head : Spacing} {values word name : List Char} {meant : Kind} (hhead : head.Proper)
    (hleft : ':' ∉ head.text) (hwords : head.words = [word, name])
    (hkind : meant.Word (String.ofList word)) (hvalues : IsSpace values) :
    Flawed (head.text ++ ':' :: values) "empty value list"

/-- A definition as definition files give it: its name and its values are tokens, and it has at
least one value and none twice. -/
structure Clean (definition : Definition) : Prop where
  name : IsToken definition.name.toList
  allowed : definition.allowed ≠ []
  nodup : definition.allowed.Nodup
  token : ∀ value ∈ definition.allowed, IsToken value.toList

/-- The words for kinds are those that the reader knows. -/
theorem word_iff_mem_tokens {word : String} {kind : Kind} :
    kind.Word word ↔ (word, kind) ∈ Kind.tokens := by
  constructor
  · rintro (_ | _ | _ | _) <;> decide
  · intro h
    simp only [Kind.tokens, List.mem_cons, Prod.mk.injEq, List.not_mem_nil, or_false] at h
    rcases h with ⟨rfl, rfl⟩ | ⟨rfl, rfl⟩ | ⟨rfl, rfl⟩ | ⟨rfl, rfl⟩
    · exact .exclusiveCriterion
    · exact .exclusive
    · exact .inclusiveCriterion
    · exact .inclusive

/-- A kind is read from a word exactly when the word is one for the kind. -/
theorem ofToken?_eq_some_iff {word : String} {kind : Kind} :
    Kind.ofToken? word = some kind ↔ kind.Word word := by
  rw [word_iff_mem_tokens]
  unfold Kind.ofToken? Kind.tokens
  simp only [List.lookup_cons, List.lookup_nil]
  grind

/-- The words for kinds hold neither white space nor a colon. -/
theorem isToken_of_word {word : String} {kind : Kind} (h : kind.Word word) :
    IsToken word.toList := by
  cases h <;> exact ⟨by decide +kernel, by decide +kernel⟩

/-- The token of a kind may stand for a name. -/
theorem isToken_token (kind : Kind) : IsToken kind.token.toList :=
  isToken_of_word (ofToken?_eq_some_iff.mp kind.ofToken?_token)

/-- White space holds no colon. -/
theorem colon_not_mem_space {cs : List Char} (h : IsSpace cs) : ':' ∉ cs := by
  intro hmem
  exact absurd (h ':' hmem) (by decide)

/-- A text whose words hold no colon holds none. -/
theorem colon_not_mem_text {spacing : Spacing} (h : spacing.Proper)
    (hwords : ∀ item ∈ spacing.items, ':' ∉ item.2) : ':' ∉ spacing.text := by
  intro hmem
  rcases List.mem_append.mp hmem with hitems | htrail
  · obtain ⟨item, hitem, hc⟩ := List.mem_flatMap.mp hitems
    rcases List.mem_append.mp hc with hgap | hword
    · exact colon_not_mem_space (h.gap item hitem) hgap
    · exact hwords item hitem hword
  · exact colon_not_mem_space h.trail htrail

/-- A line with one colon is read from the words before it and the text behind it. -/
theorem ofLine_append_colon {head : Spacing} {values : List Char} (hhead : head.Proper)
    (hleft : ':' ∉ head.text) (hright : ':' ∉ values) :
    ofLine (String.ofList (head.text ++ ':' :: values)) =
      ofParts (head.words.map String.ofList) (String.ofList values) := by
  have hsplit := splitOn_eq_pair_iff.mpr ⟨rfl, hleft, hright⟩
  simp only [ofLine, String.toList_ofList, hsplit, Text.words, wordLists_text hhead]

/-- Two words with white space around and between them. -/
theorem proper_pair {lead first between second trail : List Char} (hlead : IsSpace lead)
    (hfirst : IsWord first) (hbetween : IsSpace between) (hapart : between ≠ [])
    (hsecond : IsWord second) (htrail : IsSpace trail) :
    Spacing.Proper ⟨[(lead, first), (between, second)], trail⟩ where
  gap := by simpa using ⟨hlead, hbetween⟩
  word := by simpa using ⟨hfirst, hsecond⟩
  apart := by simpa using hapart
  trail := htrail

/-- A line is read as the definition that is written on it. -/
theorem ofLine_of_written {line : List Char} {definition : Definition}
    (h : Written line definition) : ofLine (String.ofList line) = .ok definition := by
  obtain @⟨lead, kind, between, name, before, after, value, trail, more, meant, hlead, hkind,
    hbetween, hapart, hname, hbefore, hafter, hvalue, hgaps, hvalues, htrail⟩ := h
  have hkindToken : IsToken kind := by simpa using isToken_of_word hkind
  have hhead := proper_pair hlead.1 hkindToken.1 hbetween.1 hapart hname.1 hbefore.1
  have hlist : Spacing.Proper ⟨(after, value) :: more, trail⟩ :=
    ⟨List.forall_mem_cons.mpr ⟨hafter.1, fun item hitem => (hgaps item hitem).1.1⟩,
      List.forall_mem_cons.mpr ⟨hvalue.1, fun item hitem => (hvalues item hitem).1⟩,
      fun item hitem => (hgaps item hitem).2, htrail.1⟩
  have hleft := colon_not_mem_text hhead (by simpa using ⟨hkindToken.2, hname.2⟩)
  have hright := colon_not_mem_text hlist
    (List.forall_mem_cons.mpr ⟨hvalue.2, fun item hitem => (hvalues item hitem).2⟩)
  have hline := ofLine_append_colon hhead hleft hright
  have hlisted := wordLists_text hlist
  simp only [Spacing.text, Spacing.words, List.flatMap_cons, List.flatMap_nil, List.map_cons,
    List.map_nil, List.append_nil, List.append_assoc] at hline hlisted ⊢
  simp only [hline, ofParts, ofToken?_eq_some_iff.mpr hkind, Text.words, String.toList_ofList,
    hlisted, List.map_cons]
  rfl

/-- A line without a colon is refused for that. -/
theorem ofLine_of_not_mem {line : List Char} (hcolon : ':' ∉ line) :
    ofLine (String.ofList line) = .error .noSeparator := by
  rw [ofLine, String.toList_ofList, List.splitOn_eq_singleton hcolon]

/-- A line with two colons or more is refused for that. -/
theorem ofLine_of_two_le_count {line : List Char} (hcolons : 2 ≤ line.count ':') :
    ofLine (String.ofList line) = .error .separators := by
  have hlength := length_splitOn ':' line
  rw [ofLine, String.toList_ofList]
  split <;> simp_all

/-- The first thing wrong with a line is reported, in its words. -/
theorem ofLine_of_flawed {line : List Char} {reason : String} (h : Flawed line reason) :
    ∃ flaw, ofLine (String.ofList line) = .error flaw ∧ flaw.describe = reason := by
  cases h with
  | noSeparator hcolon => exact ⟨.noSeparator, ofLine_of_not_mem hcolon, rfl⟩
  | separators hcolons => exact ⟨.separators, ofLine_of_two_le_count hcolons, rfl⟩
  | @head head values hhead hleft hright hcount =>
    refine ⟨.head head.words.length, ?_, rfl⟩
    rw [ofLine_append_colon hhead hleft hright, ofParts]
    · simp
    · intro kind name hpair
      exact hcount (by simpa using congrArg List.length hpair)
  | @kind head values word name hhead hleft hright hwords hkind =>
    refine ⟨.kind (String.ofList word), ?_, rfl⟩
    have hnone : Kind.ofToken? (String.ofList word) = none := by
      rw [Option.eq_none_iff_forall_ne_some]
      exact fun kind hsome => hkind kind (ofToken?_eq_some_iff.mp hsome)
    rw [ofLine_append_colon hhead hleft hright, hwords]
    simp only [List.map_cons, List.map_nil, ofParts, hnone]
  | @noValues head values word name meant hhead hleft hwords hkind hvalues =>
    refine ⟨.noValues, ?_, rfl⟩
    rw [ofLine_append_colon hhead hleft (colon_not_mem_space hvalues), hwords]
    simp only [List.map_cons, List.map_nil, ofParts, ofToken?_eq_some_iff.mpr hkind, Text.words,
      String.toList_ofList, wordLists_eq_nil hvalues]

/-- A line without a line feed is written by the grammar or has a flaw. -/
theorem written_or_flawed {line : List Char} (hfeed : '\n' ∉ line) :
    (∃ definition, Written line definition) ∨ ∃ reason, Flawed line reason := by
  by_cases hcolon : ':' ∈ line
  swap
  · exact .inr ⟨_, .noSeparator hcolon⟩
  obtain ⟨left, values, rfl, hleft⟩ := List.eq_append_cons_of_mem hcolon
  by_cases hright : ':' ∈ values
  · have hcount : 2 ≤ (left ++ ':' :: values).count ':' := by
      have := List.one_le_count_iff.mpr hright
      simp only [List.count_append, List.count_cons_self]
      omega
    exact .inr ⟨_, .separators hcount⟩
  obtain ⟨head, hhead, rfl⟩ := exists_spacing left
  obtain ⟨list, hlist, rfl⟩ := exists_spacing values
  by_cases hwords : head.words.length = 2
  swap
  · exact .inr ⟨_, .head hhead hleft hright hwords⟩
  obtain ⟨items, before⟩ := head
  obtain ⟨⟨lead, kind⟩, ⟨between, name⟩, rfl⟩ :=
    List.length_eq_two.mp (by simpa [Spacing.words] using hwords)
  by_cases hkind : ∃ meant : Kind, meant.Word (String.ofList kind)
  swap
  · exact .inr ⟨_, .kind hhead hleft hright rfl (not_exists.mp hkind)⟩
  obtain ⟨meant, hkind⟩ := hkind
  obtain ⟨_ | ⟨⟨after, value⟩, more⟩, trail⟩ := list
  · exact .inr ⟨_, .noValues hhead hleft rfl hkind hlist.trail⟩
  simp only [Spacing.text, List.flatMap_cons, List.flatMap_nil, List.append_nil, List.mem_append,
    List.mem_cons, List.mem_flatMap, not_or, not_exists, not_and] at hfeed hleft hright
  obtain ⟨⟨⟨⟨hlead, -⟩, hbetween, -⟩, hbefore⟩, -, ⟨⟨hafter, -⟩, hmore⟩, htrail⟩ := hfeed
  obtain ⟨hleadSpace, hbetweenSpace⟩ : IsSpace lead ∧ IsSpace between := by simpa using hhead.gap
  have hname : IsWord name := hhead.word (between, name) (by simp)
  have hapart : between ≠ [] := hhead.apart (between, name) (by simp)
  obtain ⟨hafterSpace, hgaps⟩ := List.forall_mem_cons.mp hlist.gap
  obtain ⟨hvalue, hvalues⟩ := List.forall_mem_cons.mp hlist.word
  have hwritten := Written.intro ⟨hleadSpace, hlead⟩ hkind ⟨hbetweenSpace, hbetween⟩ hapart
    ⟨hname, hleft.1.2.2⟩ ⟨hhead.trail, hbefore⟩ ⟨hafterSpace, hafter⟩ ⟨hvalue, hright.1.1.2⟩
    (fun item hitem => ⟨⟨hgaps item hitem, (hmore item hitem).1⟩, hlist.apart item hitem⟩)
    (fun item hitem => ⟨hvalues item hitem, (hright.1.2 item hitem).2⟩) ⟨hlist.trail, htrail⟩
  have htext : Spacing.text ⟨[(lead, kind), (between, name)], before⟩ ++
      ':' :: Spacing.text ⟨(after, value) :: more, trail⟩ =
        lead ++ kind ++ between ++ name ++ before ++ ':' ::
          (after ++ value ++ more.flatMap (fun item => item.1 ++ item.2) ++ trail) := by
    simp [Spacing.text]
  rw [htext]
  exact .inl ⟨_, hwritten⟩

/-- A line is accepted exactly when it is written by the grammar, as what is written on it. -/
theorem ofLine_eq_ok_iff {line : String} (hfeed : '\n' ∉ line.toList) {definition : Definition} :
    ofLine line = .ok definition ↔ Written line.toList definition := by
  constructor
  · intro h
    rcases written_or_flawed hfeed with ⟨other, hwritten⟩ | ⟨reason, hflawed⟩
    · have hother := ofLine_of_written hwritten
      rw [String.ofList_toList, h] at hother
      rwa [Except.ok.inj hother]
    · obtain ⟨flaw, hflaw, -⟩ := ofLine_of_flawed hflawed
      rw [String.ofList_toList, h] at hflaw
      contradiction
  · intro h
    rw [← ofLine_of_written h, String.ofList_toList]

/-- A line is refused for a reason exactly when that is the first thing wrong with it. -/
theorem exists_ofLine_eq_error_iff {line : String} (hfeed : '\n' ∉ line.toList) {reason : String} :
    (∃ flaw, ofLine line = .error flaw ∧ flaw.describe = reason) ↔ Flawed line.toList reason := by
  constructor
  · rintro ⟨flaw, h, rfl⟩
    rcases written_or_flawed hfeed with ⟨definition, hwritten⟩ | ⟨other, hflawed⟩
    · have hok := ofLine_of_written hwritten
      rw [String.ofList_toList, h] at hok
      contradiction
    · obtain ⟨same, hsame, hother⟩ := ofLine_of_flawed hflawed
      rw [String.ofList_toList, h] at hsame
      rwa [Except.error.inj hsame, hother]
  · intro h
    obtain ⟨flaw, hflaw, hreason⟩ := ofLine_of_flawed h
    rw [String.ofList_toList] at hflaw
    exact ⟨flaw, hflaw, hreason⟩

/-- Lines are read one by one as long as each is accepted. -/
theorem ofLines_cons_eq_ok_iff {number : Nat} {line : String} {rest : List String}
    {definitions : List Definition} :
    ofLines number (line :: rest) = .ok definitions ↔
      ∃ first more, ofLine line = .ok first ∧ ofLines (number + 1) rest = .ok more ∧
        definitions = first :: more := by
  rw [ofLines]
  cases ofLine line with
  | error flaw => simp
  | ok first => cases ofLines (number + 1) rest <;> simp [Except.map, eq_comm]

/-- Lines are refused for the first of them, or that one is accepted and the others are refused. -/
theorem ofLines_cons_eq_error_iff {number : Nat} {line : String} {rest : List String}
    {fault : Fault} :
    ofLines number (line :: rest) = .error fault ↔
      (∃ flaw, ofLine line = .error flaw ∧ fault = .malformed number line flaw.describe) ∨
        ∃ first, ofLine line = .ok first ∧ ofLines (number + 1) rest = .error fault := by
  rw [ofLines]
  cases ofLine line with
  | error flaw => simp [eq_comm]
  | ok first => cases ofLines (number + 1) rest <;> simp [Except.map]

/-- Lines are accepted exactly when each of them is, in order. -/
theorem ofLines_eq_ok_iff {number : Nat} {lines : List String} {definitions : List Definition} :
    ofLines number lines = .ok definitions ↔
      List.Forall₂ (fun line definition => ofLine line = .ok definition) lines definitions := by
  induction lines generalizing number definitions with
  | nil => simp [ofLines, eq_comm]
  | cons line rest ih => simp only [ofLines_cons_eq_ok_iff, List.forall₂_cons_left_iff, ih]

/-- Lines are refused exactly when one of them is, behind some that are accepted. The number of that
line counts from the number of the first. -/
theorem ofLines_eq_error_iff {number : Nat} {lines : List String} {fault : Fault} :
    ofLines number lines = .error fault ↔
      ∃ before line after flaw, lines = before ++ line :: after ∧
        (∀ earlier ∈ before, ∃ definition, ofLine earlier = .ok definition) ∧
        ofLine line = .error flaw ∧
        fault = .malformed (number + before.length) line flaw.describe := by
  induction lines generalizing number with
  | nil => simp [ofLines]
  | cons line rest ih =>
    rw [ofLines_cons_eq_error_iff]
    constructor
    · rintro (⟨flaw, hline, rfl⟩ | ⟨first, hline, hrest⟩)
      · exact ⟨[], line, rest, flaw, rfl, nofun, hline, rfl⟩
      · obtain ⟨before, refused, after, flaw, rfl, hbefore, hrefused, rfl⟩ := ih.mp hrest
        refine ⟨line :: before, refused, after, flaw, rfl,
          List.forall_mem_cons.mpr ⟨⟨first, hline⟩, hbefore⟩, hrefused, ?_⟩
        rw [List.length_cons, Nat.add_assoc, Nat.add_comm 1]
    · rintro ⟨_ | ⟨first, before⟩, refused, after, flaw, hsplit, hbefore, hrefused, rfl⟩
      · obtain ⟨rfl, rfl⟩ := List.cons.inj hsplit
        exact .inl ⟨flaw, hrefused, rfl⟩
      · obtain ⟨rfl, rfl⟩ := List.cons.inj hsplit
        obtain ⟨hfirst, hbefore⟩ := List.forall_mem_cons.mp hbefore
        obtain ⟨definition, hfirst⟩ := hfirst
        refine .inr ⟨definition, hfirst, ih.mpr ⟨before, refused, after, flaw, rfl, hbefore,
          hrefused, ?_⟩⟩
        rw [List.length_cons, Nat.add_assoc, Nat.add_comm 1]

/-- Dropping later duplicates leaves no value twice. -/
theorem nodup_eraseDups : (values : List String) → values.eraseDups.Nodup
  | [] => List.nodup_nil
  | value :: rest => by
    have hlength := List.length_filter_le (fun other => !other == value) rest
    rw [List.eraseDups_cons, List.nodup_cons, List.mem_eraseDups]
    exact ⟨by simp, nodup_eraseDups _⟩
termination_by values => values.length

/-- Values without repetition are all kept. -/
theorem eraseDups_of_nodup {values : List String} (h : values.Nodup) :
    values.eraseDups = values := by
  induction values with
  | nil => rfl
  | cons value rest ih =>
    obtain ⟨hvalue, hrest⟩ := List.nodup_cons.mp h
    rw [List.eraseDups_cons, List.filter_eq_self.mpr ?_, ih hrest]
    intro other hother
    simpa using fun heq : other = value => hvalue (heq ▸ hother)

/-- What is written on a line is a clean definition. -/
theorem Written.clean {line : List Char} {definition : Definition} (h : Written line definition) :
    definition.Clean := by
  cases h with
  | @intro lead kind between name before after value trail more meant hlead hkind hbetween hapart
      hname hbefore hafter hvalue hgaps hvalues htrail =>
    refine ⟨by simpa using hname, ?_, nodup_eraseDups _, ?_⟩
    · rw [List.map_cons, List.eraseDups_cons]
      exact List.cons_ne_nil _ _
    · intro text hmem
      rw [List.mem_eraseDups] at hmem
      obtain ⟨cs, hcs, rfl⟩ := List.mem_map.mp hmem
      rw [String.toList_ofList]
      rcases List.mem_cons.mp hcs with rfl | hcs
      · exact hvalue
      · obtain ⟨item, hitem, rfl⟩ := List.mem_map.mp hcs
        exact hvalues item hitem

/-- The definitions of a text are those written on its lines. -/
theorem parse_eq_ok_iff {text : String} {definitions : List Definition} :
    parse text = .ok definitions ↔
      List.Forall₂ (fun line definition => Written line.toList definition) (Text.lines text)
        definitions := by
  rw [parse, ofLines_eq_ok_iff, List.forall₂_iff_zip, List.forall₂_iff_zip]
  refine and_congr_right fun _ => forall_congr' fun line => forall_congr' fun definition =>
    forall_congr' fun hmem => ?_
  exact ofLine_eq_ok_iff (feed_not_mem_of_mem_lines (List.of_mem_zip hmem).1)

/-- The definitions of a text are clean. -/
theorem clean_of_parse {text : String} {definitions : List Definition}
    (h : parse text = .ok definitions) : ∀ definition ∈ definitions, definition.Clean := by
  have hclean := (parse_eq_ok_iff.mp h).imp fun line definition hwritten =>
    And.intro (Written.clean hwritten) hwritten
  exact ((List.forall₂_and_left _ _).mp (List.Forall₂.flip hclean)).1

/-- A line is accepted exactly when the grammar writes something on it. -/
theorem exists_ofLine_eq_ok_iff {line : String} (hfeed : '\n' ∉ line.toList) :
    (∃ definition, ofLine line = .ok definition) ↔
      ∃ definition, Written line.toList definition :=
  exists_congr fun _ => ofLine_eq_ok_iff hfeed

/-- A line with a flaw is not written by the grammar. -/
theorem Flawed.not_written {line : List Char} {reason : String} (h : Flawed line reason) :
    ¬∃ definition, Written line definition := by
  rintro ⟨definition, hwritten⟩
  have hok := ofLine_of_written hwritten
  obtain ⟨flaw, hflaw, -⟩ := ofLine_of_flawed h
  rw [hflaw] at hok
  contradiction

/-- A text is refused for the first line that the grammar does not write. -/
theorem parse_eq_error_iff {text : String} {fault : Fault} :
    parse text = .error fault ↔
      ∃ before line after reason, Text.lines text = before ++ line :: after ∧
        (∀ earlier ∈ before, ∃ definition, Written earlier.toList definition) ∧
        Flawed line.toList reason ∧ fault = .malformed (before.length + 1) line reason := by
  rw [parse, ofLines_eq_error_iff]
  refine exists_congr fun before => exists_congr fun line => exists_congr fun after => ?_
  have hearlier (hlines : Text.lines text = before ++ line :: after) :
      (∀ earlier ∈ before, ∃ definition, ofLine earlier = .ok definition) ↔
        ∀ earlier ∈ before, ∃ definition, Written earlier.toList definition :=
    forall₂_congr fun earlier hmem => exists_ofLine_eq_ok_iff
      (feed_not_mem_of_mem_lines (hlines ▸ List.mem_append_left _ hmem))
  have hline (hlines : Text.lines text = before ++ line :: after) : '\n' ∉ line.toList :=
    feed_not_mem_of_mem_lines (hlines ▸ List.mem_append_right _ List.mem_cons_self)
  constructor
  · rintro ⟨flaw, hlines, hbefore, hrefused, rfl⟩
    refine ⟨flaw.describe, hlines, (hearlier hlines).mp hbefore, ?_, by rw [Nat.add_comm 1]⟩
    exact (exists_ofLine_eq_error_iff (hline hlines)).mp ⟨flaw, hrefused, rfl⟩
  · rintro ⟨reason, hlines, hbefore, hflawed, rfl⟩
    obtain ⟨flaw, hrefused, rfl⟩ := (exists_ofLine_eq_error_iff (hline hlines)).mpr hflawed
    exact ⟨flaw, hlines, (hearlier hlines).mpr hbefore, hrefused, by rw [Nat.add_comm 1]⟩

/-- A text is read exactly when each of its lines is written by the grammar, and then as the
definitions that are written on them, which are clean. Any other text is refused for the first line
that is not written by the grammar, with its number, its contents and the first thing wrong
with it. -/
theorem parse_iff (text : String) :
    Text.BuiltFrom text.toList ((Text.lines text).map String.toList) ∧
    (∀ definitions, parse text = .ok definitions ↔
      List.Forall₂ (fun line definition => Written line.toList definition) (Text.lines text)
        definitions) ∧
    (∀ definitions, parse text = .ok definitions →
      ∀ definition ∈ definitions, definition.Clean) ∧
    ((∃ definitions, parse text = .ok definitions) ↔
      ∀ line ∈ Text.lines text, ∃ definition, Written line.toList definition) ∧
    ∀ fault, parse text = .error fault ↔
      ∃ before line after reason, Text.lines text = before ++ line :: after ∧
        (∀ earlier ∈ before, ∃ definition, Written earlier.toList definition) ∧
        (¬∃ definition, Written line.toList definition) ∧ Flawed line.toList reason ∧
        fault = .malformed (before.length + 1) line reason := by
  refine ⟨lines_eq_iff.mp rfl, fun definitions => parse_eq_ok_iff,
    fun definitions => clean_of_parse, ⟨?_, ?_⟩, fun fault => ?_⟩
  · rintro ⟨definitions, hok⟩
    have hwritten := (parse_eq_ok_iff.mp hok).imp fun line definition hwritten =>
      And.intro (Exists.intro definition hwritten) hwritten
    exact ((List.forall₂_and_left _ _).mp hwritten).1
  · intro hlines
    cases hparse : parse text with
    | ok definitions => exact ⟨definitions, rfl⟩
    | error fault =>
      obtain ⟨before, line, after, reason, hsplit, -, hflawed, -⟩ := parse_eq_error_iff.mp hparse
      exact absurd (hlines line (by simp [hsplit])) hflawed.not_written
  · rw [parse_eq_error_iff]
    refine exists_congr fun before => exists_congr fun line => exists_congr fun after =>
      exists_congr fun reason => and_congr_right fun _ => and_congr_right fun _ => ?_
    exact ⟨fun h => ⟨h.1.not_written, h⟩, And.right⟩

end Definition

end Criteria
