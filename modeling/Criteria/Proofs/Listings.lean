import Criteria.Proofs.Digest
import Criteria.Proofs.Encoding
import Criteria.Proofs.Tasks

/-!
# The two listings of vectors agree

Vectors are listed as text or as JSON. The JSON is read back as the reports of the vectors, and the
text is made from these reports alone, so neither listing tells anything that the other one does
not. The text shows the first twelve characters of each digest, cut out by their bytes; as a digest
has 64 digits of one byte, that is always possible. What is digested are the lines of the criteria
just as they are shown.
-/

namespace Criteria

/-! ## The beginning of a text -/

/-- Characters of one byte each have as many bytes as there are characters. -/
theorem utf8ByteSize_ofList {cs : List Char} (h : ∀ c ∈ cs, c.utf8Size = 1) :
    (String.ofList cs).utf8ByteSize = cs.length := by
  induction cs with
  | nil => rfl
  | cons c rest ih =>
    obtain ⟨hfirst, hrest⟩ := List.forall_mem_cons.mp h
    rw [String.ofList_cons, String.utf8ByteSize_append, String.utf8ByteSize_singleton, hfirst,
      ih hrest, List.length_cons, Nat.add_comm]

/-- A text can be cut behind the bytes of its first part, and that part is what is in front of the
cut. -/
theorem exists_pos_of_eq_append {text first second : String} (h : text = first ++ second) :
    ∃ position : text.Pos, position.offset.byteIdx = first.utf8ByteSize ∧
      (text.sliceTo position).copy = first := by
  have hvalid : first.rawEndPos.IsValid text :=
    String.Pos.Raw.isValid_iff_exists_append.mpr ⟨first, second, h, rfl⟩
  have hsplits : (⟨first.rawEndPos, hvalid⟩ : text.Pos).Splits first second := ⟨h, rfl⟩
  exact ⟨⟨first.rawEndPos, hvalid⟩, rfl, hsplits.copy_sliceTo_eq⟩

/-- A text of characters of one byte each can be cut behind its first ones. -/
theorem exists_pos_take {text : String} {count : Nat} (hlength : count ≤ text.toList.length)
    (hsize : ∀ c ∈ text.toList, c.utf8Size = 1) :
    ∃ position : text.Pos, position.offset.byteIdx = count ∧
      (text.sliceTo position).copy = String.ofList (text.toList.take count) := by
  have htext : text =
      String.ofList (text.toList.take count) ++ String.ofList (text.toList.drop count) := by
    rw [← String.ofList_append, List.take_append_drop, String.ofList_toList]
  have hcount : (String.ofList (text.toList.take count)).utf8ByteSize = count := by
    rw [utf8ByteSize_ofList fun c hc => hsize c (List.mem_of_mem_take hc), List.length_take,
      Nat.min_eq_left hlength]
  obtain ⟨position, hoffset, hcopy⟩ := exists_pos_of_eq_append htext
  exact ⟨position, hoffset.trans hcount, hcopy⟩

/-! ## Reports as text -/

/-- The line of an assignment: its name and its values. -/
def Assignment.line (assignment : Assignment) : String :=
  assignment.name ++ " = " ++ " ".intercalate assignment.values ++ "\n"

namespace VectorReport

/-- The lines of the criteria of a report. -/
def criterionLines (report : VectorReport) : String :=
  String.join (report.criteria.map Assignment.line)

/-- The first characters of the digest of a report. -/
def beginning (report : VectorReport) : String :=
  String.ofList (report.digest.toList.take 12)

/-- A report as text: its name with the beginning of its digest, its test type, the lines of its
criteria and an empty line. -/
def text (report : VectorReport) : String :=
  "# " ++ report.name ++ " [" ++ report.beginning ++ "]\n" ++
    "testType: " ++ report.testType ++ "\n" ++ report.criterionLines ++ "\n"

/-- The digest of a report is what it claims to be: 64 lowercase hexadecimal digits, which can be
cut behind the first twelve bytes and then begin with the first twelve characters, and which are
those of the digest of the lines of the criteria. -/
structure Sealed (report : VectorReport) : Prop where
  length : report.digest.toList.length = 64
  digits : ∀ c ∈ report.digest.toList, c ∈ "0123456789abcdef".toList
  cut : ∃ position : report.digest.Pos, position.offset.byteIdx = 12 ∧
    (report.digest.sliceTo position).copy = report.beginning
  digest : report.digest.toList =
    (Digest.sha256 report.criterionLines.toUTF8.toList).bytes.flatMap Digest.hexByte

end VectorReport

namespace TestVector

/-- The lines in the report of a vector are those of the vector. -/
theorem criterionLines_report (vector : TestVector) :
    vector.report.criterionLines = vector.criterionLines := by
  rw [VectorReport.criterionLines, report, assignments, List.map_map]
  rfl

/-- The text of a vector is that of its report. -/
theorem vectorText_eq (vector : TestVector) :
    CommandLine.vectorText vector = vector.report.text := by
  unfold CommandLine.vectorText VectorReport.text
  rw [criterionLines_report]
  unfold render
  simp only [String.append_assoc]
  rfl

/-- The digest in the report of a vector is what it claims to be. -/
theorem sealed_report (vector : TestVector) : vector.report.Sealed := by
  have hdigits : ∀ c ∈ vector.digest.toList, c ∈ "0123456789abcdef".toList :=
    fun _ => Digest.mem_of_mem_hexDigest
  have hlength : vector.digest.toList.length = 64 := Digest.length_toList_hexDigest _
  -- A digit is one byte, so that cutting by bytes is cutting by characters.
  have hbytes : ("0123456789abcdef".toList.all fun c => c.utf8Size = 1) = true := by
    decide +kernel
  have hsize : ∀ c ∈ vector.digest.toList, c.utf8Size = 1 := fun c hc =>
    of_decide_eq_true (List.all_eq_true.mp hbytes c (hdigits c hc))
  refine ⟨hlength, hdigits, ?_, ?_⟩
  · exact exists_pos_take (by rw [report, hlength]; decide) hsize
  · rw [criterionLines_report]
    exact Digest.toList_hexDigest _

end TestVector

/-! ## Listings -/

namespace CommandLine

/-- The tasks that list some vectors, as text or as JSON: the baseline of the registry in a file,
and the vectors of the suite in another one. -/
inductive Lists (files : Files) : (Bool → Task) → List TestVector → Prop where
  | baseline {criteria name : String} {registry : Registry} {vector : TestVector}
    (hregistry : registry.InFile (files criteria))
    (h : (registry.baseline name).outcome = .ok vector) :
    Lists files (Task.baseline criteria name) [vector]
  | generate {criteria suite : String} {registry : Registry} {cases : TestSuite}
    {vectors : List TestVector} (hregistry : registry.InFile (files criteria))
    (hsuite : cases.InFile (files suite))
    (h : (cases.generateAll registry).outcome = .ok vectors) :
    Lists files (Task.generate criteria suite) vectors

/-- A task that lists vectors ends well and has printed the listing. -/
theorem Lists.run {files : Files} {listing : Bool → Task} {vectors : List TestVector}
    (h : Lists files listing vectors) (json : Bool) :
    ((listing json).run files).outcome = .ok () ∧
      ((listing json).run files).printed = vectorListing json vectors := by
  cases h with
  | baseline hregistry hvector =>
    have hload := outcome_loadRegistry_eq_ok_iff.mpr hregistry
    rw [Task.run, Console.bind_of_ok hload,
      Console.bind_of_ok (Console.outcome_run_eq_ok_iff.mpr hvector)]
    exact ⟨rfl, by simp [loadRegistry, Console.run, Console.print]⟩
  | generate hregistry hsuite hvectors =>
    have hload := outcome_loadVectors_eq_ok_iff.mpr ⟨_, hregistry, _, hsuite, hvectors⟩
    rw [Task.run, Console.bind_of_ok hload, Console.bind_of_ok rfl]
    exact ⟨rfl, by simp [printed_loadVectors, Console.print, Console.emit]⟩

/-- A task that lists some vectors ends well both ways. Its text is that of the reports of the
vectors, one behind the other. Its JSON, which a line feed ends, is read back as these reports. The
digest in each report is what it claims to be. -/
theorem listings_agree {files : Files} {listing : Bool → Task} {vectors : List TestVector}
    (h : Lists files listing vectors) :
    let reports := vectors.map TestVector.report
    (∀ environment (invocation : Invocation), invocation.task = listing false →
      let answer := invocation.answer environment files
      answer.code = 0 ∧ answer.stdout = String.join (reports.map VectorReport.text)) ∧
    (∀ environment (invocation : Invocation), invocation.task = listing true →
      let answer := invocation.answer environment files
      answer.code = 0 ∧ ∃ document, answer.stdout = document ++ "\n" ∧
        (Json.Codec.list VectorReport.codec).decode document = .ok reports) ∧
    ∀ report ∈ reports, report.Sealed := by
  intro reports
  refine ⟨?_, ?_, ?_⟩
  · intro environment invocation htask
    obtain ⟨hrun, hprinted⟩ := h.run false
    rw [← htask] at hrun hprinted
    obtain ⟨hcode, hstdout⟩ := Invocation.answer_of_ok environment hrun
    refine ⟨hcode, ?_⟩
    rw [hstdout, hprinted, vectorListing, if_neg nofun, List.map_map]
    exact congrArg String.join (List.map_congr_left fun vector _ => vector.vectorText_eq)
  · intro environment invocation htask
    obtain ⟨hrun, hprinted⟩ := h.run true
    rw [← htask] at hrun hprinted
    obtain ⟨hcode, hstdout⟩ := Invocation.answer_of_ok environment hrun
    refine ⟨hcode, (Json.Codec.list VectorReport.codec).encodePretty reports, ?_, ?_⟩
    · exact (hstdout.trans hprinted).trans (if_pos rfl)
    · exact ((Json.Codec.list_lawful VectorReport.codec_lawful).roundTrips reports).2
  · intro report hreport
    obtain ⟨vector, -, rfl⟩ := List.mem_map.mp hreport
    exact vector.sealed_report

/-- A baseline whose name holds a quotation mark and a line feed and an empty delta without a name
are listed both ways. -/
theorem listings_agree_on_quotes :
    let mood : Definition := ⟨.exclusive, "Mood", ["mad", "sad"]⟩
    let files : Files := fun path => .ofText (if path = "c" then "Exclusive Mood : mad sad\n" else
      "\x7b\"cases\":[\x7b\"name\":\"a\\\"b\\n\",\"test_type\":\"tést\"\x7d," ++
        "\x7b\"name\":\"\",\"criteria\":\x7b\x7d\x7d]\x7d")
    let vectors : List TestVector :=
      [⟨"a\"b\n", "tést", [mood.fresh.reset]⟩, ⟨"", "nominal", []⟩]
    Lists files (Task.generate "c" "s") vectors ∧
      ∃ document, (Invocation.answer (fun _ => none) files
          ⟨.generate "c" "s" true, false, false⟩).stdout = document ++ "\n" ∧
        (Json.Codec.list VectorReport.codec).decode document =
          .ok (vectors.map TestVector.report) := by
  intro mood files vectors
  let suite : TestSuite := ⟨[⟨"a\"b\n", "tést", none⟩, ⟨"", "nominal", some ∅⟩]⟩
  have hregistry : (Registry.insert .empty mood).InFile (files "c") :=
    ⟨"Exclusive Mood : mad sad\n", [mood], rfl, by decide +kernel, rfl⟩
  have hsuite : suite.InFile (files "s") := ⟨_, rfl, by decide +kernel⟩
  have hlists : Lists files (Task.generate "c" "s") vectors :=
    .generate hregistry hsuite (by decide +kernel)
  obtain ⟨-, hjson, -⟩ := listings_agree hlists
  exact ⟨hlists, (hjson _ ⟨.generate "c" "s" true, false, false⟩ rfl).2⟩

end CommandLine

end Criteria
