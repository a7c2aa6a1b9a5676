import Criteria.Proofs.Json.Scan

/-!
# Reading back what was written

A codec is lawful if its reader takes each value off the front of the value's printed form, in any
layout, at any depth, behind any white space and in front of anything. Lawful codecs give lawful
lists and dictionaries, so that the law of a codec follows from the way it is put together. From the
law follows the round trip over whole texts.
-/

namespace Criteria.Json

variable {α β : Type}

/-- A reader reads a value from a JSON form if it takes it off the front of the printed form. -/
def Reads (read : Reader α) (json : Json) (value : α) : Prop :=
  ∀ (layout : Layout) (depth : Nat) (gap rest : List Char), AllGap gap →
    read (gap ++ (print layout depth json ++ rest)) = .ok (value, rest)

/-- A codec is lawful if it reads what it writes. -/
def Codec.Lawful (codec : Codec α) : Prop :=
  ∀ value, Reads codec.read (codec.write value) value

/-- Reading and then changing the value reads the changed value. -/
theorem Reads.map {read : Reader α} {json : Json} {value : α} (h : Reads read json value)
    (change : α → β) :
    Reads (fun cs => (read cs).map fun (value, cs) => (change value, cs)) json (change value) := by
  intro layout depth gap rest hgap
  simp only [h layout depth gap rest hgap]
  rfl

/-! ## Strings, lists and dictionaries -/

/-- Strings are read back. -/
theorem Codec.string_lawful : Codec.string.Lawful := by
  intro text layout depth gap rest hgap
  simp only [Codec.string, skipGap_append_print hgap]
  rw [print, printText, List.cons_append, List.append_assoc]
  exact readText_flatMap_escapeChar text rest

/-- Printing items takes more characters than there are items. -/
theorem length_lt_length_printItems (layout : Layout) (depth : Nat) (items : List Json) :
    items.length < (printItems layout depth items).length := by
  induction items with
  | nil => simp [printItems]
  | cons item rest ih =>
    simp only [printItems, List.length_cons, List.length_append]
    omega

/-- Items behind the first one are read back up to the closing bracket. -/
theorem readItems_printItems {codec : Codec α} (h : codec.Lawful) (layout : Layout) (depth : Nat)
    (items : List α) (rest : List Char) {steps : Nat} (hsteps : items.length < steps) :
    readItems codec.read steps false (printItems layout depth (items.map codec.write) ++ rest) =
      .ok (items, rest) := by
  induction items generalizing steps with
  | nil =>
    obtain ⟨steps, rfl⟩ := Nat.exists_eq_succ_of_ne_zero (Nat.ne_of_gt hsteps)
    rw [List.map_nil, printItems, List.append_assoc, readItems, List.singleton_append,
      nextItem_close (allGap_gap layout depth)]
    rfl
  | cons item items ih =>
    obtain ⟨steps, rfl⟩ := Nat.exists_eq_succ_of_ne_zero (Nat.ne_of_gt (Nat.zero_lt_of_lt hsteps))
    have hlater := ih (Nat.lt_of_succ_lt_succ hsteps)
    have hitem := h item layout (depth + 1) []
      (printItems layout depth (items.map codec.write) ++ rest) nofun
    rw [List.map_cons, printItems, List.cons_append, List.append_assoc, List.append_assoc,
      readItems, nextItem_later (allGap_gap layout (depth + 1))]
    rw [List.nil_append] at hitem
    simp only [bind, Except.bind, hitem, hlater]
    rfl

/-- Lists are read back if their items are. -/
theorem Codec.list_lawful {codec : Codec α} (h : codec.Lawful) : (Codec.list codec).Lawful := by
  intro items layout depth gap rest hgap
  simp only [Codec.list, skipGap_append_print hgap]
  cases items with
  | nil =>
    rw [List.map_nil, print]
    rfl
  | cons item items =>
    have hlength := length_lt_length_printItems layout depth (items.map codec.write)
    rw [List.length_map] at hlength
    have hitem := h item layout (depth + 1) []
      (printItems layout depth (items.map codec.write) ++ rest) nofun
    rw [List.nil_append] at hitem
    rw [List.map_cons, print]
    simp only [List.cons_append, List.append_assoc, if_true]
    rw [readItems, nextItem_first (allGap_gap layout (depth + 1))]
    simp only [bind, Except.bind, hitem]
    rw [readItems_printItems h layout depth items rest]
    · rfl
    · simp only [List.length_append]
      omega

/-! ## Members -/

/-- The characters of a member behind the quote in front of its name, and what follows them. -/
def memberText (layout : Layout) (depth : Nat) (name : String) (value : Json)
    (more : List Char) : List Char :=
  name.toList.flatMap escapeChar ++
    '"' :: (layout.colon ++ (print layout (depth + 1) value ++ more))

/-- An object with members begins with its first one. -/
theorem print_record_cons_append (layout : Layout) (depth : Nat) (name : String) (value : Json)
    (members : List (String × Json)) (rest : List Char) :
    print layout depth (.record ((name, value) :: members)) ++ rest =
      '\x7b' :: (layout.gap (depth + 1) ++
        '"' :: memberText layout depth name value (printMembers layout depth members ++ rest)) := by
  rw [print, printText]
  simp only [memberText, List.cons_append, List.append_assoc, List.nil_append]

/-- Later members begin with a comma. -/
theorem printMembers_cons_append (layout : Layout) (depth : Nat) (name : String) (value : Json)
    (members : List (String × Json)) (rest : List Char) :
    printMembers layout depth ((name, value) :: members) ++ rest =
      ',' :: (layout.gap (depth + 1) ++
        '"' :: memberText layout depth name value (printMembers layout depth members ++ rest)) := by
  rw [printMembers, printText]
  simp only [memberText, List.cons_append, List.append_assoc, List.nil_append]

/-- The name of a member is read back. -/
theorem readText_memberText (layout : Layout) (depth : Nat) (name : String) (value : Json)
    (more : List Char) :
    readText (memberText layout depth name value more) =
      .ok (name, layout.colon ++ (print layout (depth + 1) value ++ more)) :=
  readText_flatMap_escapeChar name _

/-- The value of a member is read back behind its colon. -/
theorem Reads.after_colon {read : Reader α} {json : Json} {value : α} (h : Reads read json value)
    (layout : Layout) (depth : Nat) (more : List Char) :
    ∃ behind, readColon (layout.colon ++ (print layout depth json ++ more)) = .ok behind ∧
      read behind = .ok (value, more) := by
  obtain ⟨gap, hcolon, hgap⟩ := exists_colon_eq layout
  refine ⟨gap ++ (print layout depth json ++ more), ?_, h layout depth gap more hgap⟩
  rw [hcolon, List.cons_append, readColon_cons]

/-- Printing members takes more characters than there are members. -/
theorem length_lt_length_printMembers (layout : Layout) (depth : Nat)
    (members : List (String × Json)) :
    members.length < (printMembers layout depth members).length := by
  induction members with
  | nil => simp [printMembers]
  | cons member rest ih =>
    obtain ⟨name, value⟩ := member
    simp only [printMembers, List.length_cons, List.length_append]
    omega

/-! ## Dictionaries -/

/-- The entry that a member holds is added to a dictionary. -/
theorem readEntries_member {read : Reader α} {json : Json} {value : α} (h : Reads read json value)
    (layout : Layout) (depth : Nat) (name : String) {first : Bool} {cs more : List Char}
    (hturn : nextMember first cs = .ok (.item (memberText layout depth name json more)))
    (steps : Nat) (entries : Std.ExtTreeMap String α) :
    readEntries read (steps + 1) first entries cs =
      readEntries read steps false (entries.insert name value) more := by
  obtain ⟨behind, hcolon, hvalue⟩ := h.after_colon layout (depth + 1) more
  rw [readEntries, hturn]
  simp only [bind, Except.bind, readText_memberText, hcolon, hvalue]

/-- Entries behind the first one are added up to the closing brace. -/
theorem readEntries_printMembers {codec : Codec α} (h : codec.Lawful) (layout : Layout)
    (depth : Nat) (items : List (String × α)) (rest : List Char) {steps : Nat}
    (hsteps : items.length < steps) (entries : Std.ExtTreeMap String α) :
    readEntries codec.read steps false entries
        (printMembers layout depth (items.map fun item => (item.1, codec.write item.2)) ++ rest) =
      .ok (items.foldl (fun entries item => entries.insert item.1 item.2) entries, rest) := by
  induction items generalizing steps entries with
  | nil =>
    obtain ⟨steps, rfl⟩ := Nat.exists_eq_succ_of_ne_zero (Nat.ne_of_gt hsteps)
    rw [List.map_nil, printMembers, List.append_assoc, readEntries, List.singleton_append,
      nextMember_close (allGap_gap layout depth)]
    rfl
  | cons item items ih =>
    obtain ⟨steps, rfl⟩ := Nat.exists_eq_succ_of_ne_zero (Nat.ne_of_gt (Nat.zero_lt_of_lt hsteps))
    rw [List.map_cons, printMembers_cons_append,
      readEntries_member (h item.2) layout depth item.1
        (nextMember_later (allGap_gap layout (depth + 1)) _)]
    exact ih (Nat.lt_of_succ_lt_succ hsteps) (entries.insert item.1 item.2)

/-- The entries of a dictionary, added one by one, give the dictionary. -/
theorem foldl_insert_toList (entries : Std.ExtTreeMap String α) :
    entries.toList.foldl (fun entries item => entries.insert item.1 item.2) ∅ = entries := by
  change entries.toList.foldl (fun entries (key, value) => entries.insert key value) ∅ = entries
  rw [← Std.ExtTreeMap.ofList_eq_foldl]
  refine Std.ExtTreeMap.ext_getElem? fun key => ?_
  cases hvalue : entries[key]? with
  | some value =>
    exact Std.ExtTreeMap.getElem?_ofList_of_mem Std.ReflCmp.compare_self
      Std.ExtTreeMap.distinct_keys_toList
      (Std.ExtTreeMap.mem_toList_iff_getElem?_eq_some.mpr hvalue)
  | none =>
    refine Std.ExtTreeMap.getElem?_ofList_of_contains_eq_false ?_
    rw [Std.ExtTreeMap.map_fst_toList_eq_keys, Std.ExtTreeMap.contains_keys,
      Std.ExtTreeMap.contains_eq_isSome_getElem?, hvalue]
    rfl

/-- Dictionaries are read back if their values are. -/
theorem Codec.dictionary_lawful {codec : Codec α} (h : codec.Lawful) :
    (Codec.dictionary codec).Lawful := by
  intro entries layout depth gap rest hgap
  simp only [Codec.dictionary, skipGap_append_print hgap]
  have hentries := foldl_insert_toList entries
  cases hitems : entries.toList with
  | nil =>
    rw [hitems, List.foldl_nil] at hentries
    rw [List.map_nil, print, ← hentries]
    rfl
  | cons item items =>
    have hlength := length_lt_length_printMembers layout depth
      (items.map fun item => (item.1, codec.write item.2))
    rw [List.length_map] at hlength
    rw [hitems, List.foldl_cons] at hentries
    rw [List.map_cons, print_record_cons_append]
    simp only [if_true]
    rw [readEntries_member (h item.2) layout depth item.1
        (nextMember_first (allGap_gap layout (depth + 1)) _),
      readEntries_printMembers h layout depth items rest, hentries]
    simp only [memberText, List.length_append, List.length_cons]
    omega

/-- A dictionary begins with a brace, so that it is never taken for `null`. -/
theorem Codec.exists_print_dictionary_eq_cons (codec : Codec α)
    (entries : Std.ExtTreeMap String α) (layout : Layout) (depth : Nat) :
    ∃ c cs, print layout depth ((Codec.dictionary codec).write entries) = c :: cs ∧ c ≠ 'n' := by
  simp only [Codec.dictionary]
  cases entries.toList with
  | nil => exact ⟨'\x7b', _, by rw [List.map_nil, print], by decide⟩
  | cons entry entries => exact ⟨'\x7b', _, by rw [List.map_cons, print], by decide⟩

/-! ## Variants -/

/-- Variants are read back if each is found by its own name. -/
theorem Codec.variant_lawful {variants : List (String × α)} {nameOf : α → String}
    (h : ∀ value, variants.lookup (nameOf value) = some value) :
    (Codec.variant variants nameOf).Lawful := by
  intro value layout depth gap rest hgap
  simp only [Codec.variant, skipGap_append_print hgap]
  rw [print, printText, List.cons_append, List.append_assoc, List.singleton_append]
  simp only [if_true, bind, Except.bind, readText_flatMap_escapeChar, findVariant, h value]

/-! ## Whole texts -/

/-- A codec keeps its values if each is read back from both of its texts. -/
def Codec.RoundTrips (codec : Codec α) : Prop :=
  ∀ value, codec.decode (codec.encode value) = .ok value ∧
    codec.decode (codec.encodePretty value) = .ok value

/-- A value is read back from its text in any layout. -/
theorem Codec.Lawful.decode_toText {codec : Codec α} (h : codec.Lawful) (layout : Layout)
    (value : α) : codec.decode (toText layout (codec.write value)) = .ok value := by
  have hread := h value layout 0 [] [] nofun
  rw [List.nil_append, List.append_nil] at hread
  rw [decode, toText, String.toList_ofList, hread]
  rfl

/-- Lawful codecs keep their values. -/
theorem Codec.Lawful.roundTrips {codec : Codec α} (h : codec.Lawful) : codec.RoundTrips :=
  fun value => ⟨h.decode_toText .compact value, h.decode_toText (.indented 2) value⟩

end Criteria.Json
