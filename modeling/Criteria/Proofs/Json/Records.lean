import Criteria.Proofs.Json.RoundTrip

/-!
# Reading records back

The codec of a record is lawful if its fields are, no two of them have the same name, and the
record can be put together again from their values. A record is read member by member: the reader
goes from one state of its slots to another, and the states that it goes through when it reads the
members that were written are stated as a relation.
-/

namespace Criteria.Json

variable {α σ τ ρ : Type}

/-! ## Fields -/

/-- A field is lawful if it reads what it writes and falls back on what it leaves out. -/
structure Field.Lawful (field : Field α) : Prop where
  /-- A value that is written is read back. -/
  reads : ∀ {value json}, field.write value = some json → Reads field.read json value
  /-- A value that is left out is the one to fall back on. -/
  omits : ∀ {value}, field.write value = none → field.fallback = some value

/-- A required field is lawful if its codec is. -/
theorem Field.required_lawful {codec : Codec α} (h : codec.Lawful) (name : String) :
    (Field.required name codec).Lawful where
  reads := by
    intro value json hwrite
    obtain rfl := Option.some.inj hwrite
    exact h value
  omits := by
    intro value hwrite
    exact absurd hwrite (Option.some_ne_none _)

/-- A field with a value to fall back on writes it all the same, so that it is lawful if its codec
is. -/
theorem Field.withFallback_lawful {codec : Codec α} (h : codec.Lawful) (name : String) (value : α) :
    (Field.withFallback name value codec).Lawful where
  reads := (Field.required_lawful h name).reads
  omits := by
    intro value hwrite
    exact absurd hwrite (Option.some_ne_none _)

/-- An optional field is lawful if its codec is and never writes what begins like `null`. -/
theorem Field.optional_lawful {codec : Codec α} (h : codec.Lawful)
    (hnull : ∀ value layout depth, ∃ c cs,
      print layout depth (codec.write value) = c :: cs ∧ c ≠ 'n') (name : String) :
    (Field.optional name codec).Lawful where
  reads := by
    intro value json hwrite layout depth gap rest hgap
    cases value with
    | none => exact absurd hwrite (Option.some_ne_none json).symm
    | some value =>
      obtain rfl := Option.some.inj hwrite
      obtain ⟨c, cs, hprint, hc⟩ := hnull value layout depth
      have hskip := skipGap_append_print hgap layout depth (codec.write value) rest
      have hvalue := h value layout depth gap rest hgap
      simp only [Field.optional, hvalue, hskip]
      rw [hprint, List.cons_append]
      split
      · next heq => exact absurd (List.cons.inj heq).1 hc
      · rfl
  omits := by
    intro value hwrite
    cases value with
    | none => rfl
    | some value => exact absurd hwrite (Option.some_ne_none _)

/-! ## Records -/

namespace Fields

/-- The names of the fields. -/
def names : {σ τ : Type} → Fields σ τ → List String
  | _, _, .done => []
  | _, _, .more first rest => first.name :: rest.names

/-- Fields are lawful if each one is. -/
def Lawful : {σ τ : Type} → Fields σ τ → Prop
  | _, _, .done => True
  | _, _, .more first rest => first.Lawful ∧ rest.Lawful

/-- Reading the members fills slots, one for each member. -/
inductive Fills (fields : Fields σ τ) : σ → List (String × Json) → σ → Prop where
  /-- Without members the slots stay as they are. -/
  | nil (slots : σ) : Fills fields slots [] slots
  /-- The first member belongs to a field that has not been read, and its value is read. -/
  | cons {slots next last : σ} {name : String} {json : Json} {read : Reader σ}
      {members : List (String × Json)} (known : fields.member slots name = .known read)
      (reads : Reads read json next) (rest : Fills fields next members last) :
      Fills fields slots ((name, json) :: members) last

/-- The slots once a record with the given values has been read. -/
def filled : {σ τ : Type} → Fields σ τ → τ → σ
  | _, _, .done, _ => ()
  | _, _, .more first rest, (value, values) =>
    ((first.write value).map fun _ => value, rest.filled values)

/-- The members of a record have the names of its fields. -/
theorem mem_names_of_mem_write (fields : Fields σ τ) (values : τ) {member : String × Json}
    (h : member ∈ fields.write values) : member.1 ∈ fields.names := by
  induction fields with
  | done => exact absurd h List.not_mem_nil
  | more first rest ih =>
    obtain ⟨value, values⟩ := values
    rw [write, List.mem_append, Option.mem_toList, Option.map_eq_some_iff] at h
    rcases h with ⟨json, -, rfl⟩ | h
    · exact List.mem_cons_self
    · exact List.mem_cons_of_mem _ (ih values h)

/-- Members that do not belong to the first field fill the slots of the others. -/
theorem Fills.more {rest : Fields σ τ} {slots last : σ} {members : List (String × Json)}
    (h : rest.Fills slots members last) (first : Field α)
    (hname : ∀ member ∈ members, member.1 ≠ first.name) (slot : Option α) :
    (Fields.more first rest).Fills (slot, slots) members (slot, last) := by
  induction h with
  | nil slots => exact .nil _
  | cons known reads _ ih =>
    refine .cons ?_ (reads.map fun slots => (slot, slots))
      (ih fun member hmember => hname member (List.mem_cons_of_mem _ hmember))
    simp only [Fields.member, if_neg (hname _ List.mem_cons_self), known]

/-- Reading what a record writes fills its slots, if the names of its fields differ. -/
theorem Lawful.fills {fields : Fields σ τ} (h : fields.Lawful) (hnames : fields.names.Nodup)
    (values : τ) : fields.Fills fields.noSlots (fields.write values) (fields.filled values) := by
  induction fields with
  | done => exact .nil _
  | more first rest ih =>
    obtain ⟨value, values⟩ := values
    obtain ⟨hfirst, hrest⟩ := h
    obtain ⟨hname, hnames⟩ := List.nodup_cons.mp hnames
    have hothers : ∀ member ∈ rest.write values, member.1 ≠ first.name := by
      intro member hmember heq
      exact hname (heq ▸ mem_names_of_mem_write rest values hmember)
    have hlater := (ih hrest hnames values).more first hothers
    rw [write, noSlots, filled]
    cases hwrite : first.write value with
    | none => exact hlater none
    | some json =>
      refine .cons ?_ ((hfirst.reads hwrite).map fun value => (some value, rest.noSlots))
        (hlater (some value))
      rw [member, if_pos rfl]

/-- The values are taken from the slots that they have filled. -/
theorem Lawful.finish_filled {fields : Fields σ τ} (h : fields.Lawful) (values : τ) :
    fields.finish (fields.filled values) = .ok values := by
  induction fields with
  | done => rfl
  | more first rest ih =>
    obtain ⟨value, values⟩ := values
    obtain ⟨hfirst, hrest⟩ := h
    have hvalue : ((first.write value).map fun _ => value).or first.fallback = some value := by
      cases hwrite : first.write value with
      | none => exact hfirst.omits hwrite
      | some json => rfl
    rw [filled, finish]
    simp only [hvalue, ih hrest values]
    rfl

/-- The member of a field that has not been read fills its slot. -/
theorem readObject_member {fields : Fields σ τ} {slots next : σ} {name : String} {json : Json}
    {read : Reader σ} (known : fields.member slots name = .known read)
    (reads : Reads read json next) (layout : Layout) (depth : Nat) {first : Bool}
    {cs more : List Char}
    (hturn : nextMember first cs = .ok (.item (memberText layout depth name json more)))
    (steps : Nat) :
    fields.readObject (steps + 1) first slots cs = fields.readObject steps false next more := by
  obtain ⟨behind, hcolon, hvalue⟩ := reads.after_colon layout (depth + 1) more
  rw [readObject, hturn]
  simp only [bind, Except.bind, readText_memberText, known, hcolon, hvalue]

/-- Members behind the first one fill slots up to the closing brace. -/
theorem Fills.readObject_printMembers {fields : Fields σ τ} {slots last : σ}
    {members : List (String × Json)} (h : fields.Fills slots members last) {values : τ}
    (hfinish : fields.finish last = .ok values) (layout : Layout) (depth : Nat) (rest : List Char)
    {steps : Nat} (hsteps : members.length < steps) :
    fields.readObject steps false slots (printMembers layout depth members ++ rest) =
      .ok (values, rest) := by
  induction h generalizing steps with
  | nil slots =>
    obtain ⟨steps, rfl⟩ := Nat.exists_eq_succ_of_ne_zero (Nat.ne_of_gt hsteps)
    rw [printMembers, List.append_assoc, readObject, List.singleton_append,
      nextMember_close (allGap_gap layout depth)]
    simp only [bind, Except.bind, hfinish]
    rfl
  | cons known reads _ ih =>
    obtain ⟨steps, rfl⟩ := Nat.exists_eq_succ_of_ne_zero (Nat.ne_of_gt (Nat.zero_lt_of_lt hsteps))
    rw [printMembers_cons_append,
      readObject_member known reads layout depth
        (nextMember_later (allGap_gap layout (depth + 1)) _)]
    exact ih hfinish (Nat.lt_of_succ_lt_succ hsteps)

/-- An object is read behind its opening brace if its members fill the slots. -/
theorem Fills.readObject_print {fields : Fields σ τ} {slots last : σ}
    {members : List (String × Json)} (h : fields.Fills slots members last) {values : τ}
    (hfinish : fields.finish last = .ok values) (layout : Layout) (depth : Nat) (rest : List Char) :
    ∃ more, print layout depth (.record members) ++ rest = '\x7b' :: more ∧
      fields.readObject (more.length + 1) true slots more = .ok (values, rest) := by
  cases h with
  | nil =>
    refine ⟨'\x7d' :: rest, by rw [print]; rfl, ?_⟩
    rw [readObject, nextMember, skipGap_cons rfl]
    simp only [bind, Except.bind, if_true, hfinish]
    rfl
  | @cons _ next _ name json read members known reads later =>
    refine ⟨_, print_record_cons_append layout depth name json members rest, ?_⟩
    rw [readObject_member known reads layout depth
        (nextMember_first (allGap_gap layout (depth + 1)) _)]
    refine later.readObject_printMembers hfinish layout depth rest ?_
    have hlength := length_lt_length_printMembers layout depth members
    simp only [memberText, List.length_append, List.length_cons]
    omega

end Fields

/-- Records are read back if their fields are lawful, have different names and lose nothing of the
value. -/
theorem Codec.record_lawful {fields : Fields σ τ} (h : fields.Lawful) (hnames : fields.names.Nodup)
    (name : String) {unpack : ρ → τ} {pack : τ → ρ} (hpack : ∀ value, pack (unpack value) = value) :
    (Codec.record name fields unpack pack).Lawful := by
  intro value layout depth gap rest hgap
  obtain ⟨more, hprint, hread⟩ := (h.fills hnames (unpack value)).readObject_print
    (h.finish_filled (unpack value)) layout depth rest
  simp only [Codec.record, hprint, skipGap_append hgap (rfl : isGap '\x7b' = false)]
  rw [if_neg (by decide)]
  simp only [if_true, hread, Except.map, hpack]

end Criteria.Json
