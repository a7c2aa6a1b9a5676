import Criteria.Encoding
import Criteria.Proofs.Json.Records

/-!
# The records survive their JSON form

Each codec of the program is lawful, by the laws of the parts that it is built from. The names of
the fields of a record differ, and the value behind a field that may be left out or `null` begins
with a brace, so none of the ways to write a criterion map can be taken for another.
-/

namespace Criteria

open Json

/-- Kinds are read back. -/
theorem Kind.codec_lawful : Kind.codec.Lawful :=
  Codec.variant_lawful fun kind => by cases kind <;> rfl

/-- Definitions are read back. -/
theorem Definition.codec_lawful : Definition.codec.Lawful := by
  have hvalues := Codec.list_lawful Codec.string_lawful
  refine Codec.record_lawful ?_ (by decide) _ ?_
  · exact ⟨Field.required_lawful Kind.codec_lawful _,
      Field.required_lawful Codec.string_lawful _,
      Field.required_lawful hvalues _, trivial⟩
  · intro definition
    rfl

/-- Assignments are read back. -/
theorem Assignment.codec_lawful : Assignment.codec.Lawful := by
  have hvalues := Codec.list_lawful Codec.string_lawful
  refine Codec.record_lawful ?_ (by decide) _ ?_
  · exact ⟨Field.required_lawful Codec.string_lawful _,
      Field.required_lawful Kind.codec_lawful _,
      Field.required_lawful hvalues _, trivial⟩
  · intro assignment
    rfl

/-- Reports of vectors are read back. -/
theorem VectorReport.codec_lawful : VectorReport.codec.Lawful := by
  have hcriteria := Codec.list_lawful Assignment.codec_lawful
  refine Codec.record_lawful ?_ (by decide) _ ?_
  · exact ⟨Field.required_lawful Codec.string_lawful _,
      Field.required_lawful Codec.string_lawful _,
      Field.required_lawful Codec.string_lawful _,
      Field.required_lawful hcriteria _, trivial⟩
  · intro report
    rfl

/-- Replies are read back. -/
theorem Reply.codec_lawful : Reply.codec.Lawful := by
  refine Codec.record_lawful ?_ (by decide) _ ?_
  · exact ⟨Field.required_lawful Codec.string_lawful _,
      Field.required_lawful Codec.string_lawful _, trivial⟩
  · intro reply
    rfl

/-- Test cases are read back, with their test types and with criteria or without. -/
theorem TestCase.codec_lawful : TestCase.codec.Lawful := by
  have hcriteria := Codec.dictionary_lawful Codec.string_lawful
  refine Codec.record_lawful ?_ (by decide) _ ?_
  · exact ⟨Field.required_lawful Codec.string_lawful _,
      Field.withFallback_lawful Codec.string_lawful _ _,
      Field.optional_lawful hcriteria (Codec.exists_print_dictionary_eq_cons _) _, trivial⟩
  · intro testCase
    rfl

/-- Test suites are read back. -/
theorem TestSuite.codec_lawful : TestSuite.codec.Lawful := by
  have hcases := Codec.list_lawful TestCase.codec_lawful
  refine Codec.record_lawful ?_ (by decide) _ ?_
  · exact ⟨Field.required_lawful hcases _, trivial⟩
  · intro suite
    rfl

/-- Every value with a JSON form is read back from it, on one line or over several, and a suite
also where the text of a suite file is read. -/
theorem codecs_roundTrip :
    Kind.codec.RoundTrips ∧ Definition.codec.RoundTrips ∧ Assignment.codec.RoundTrips ∧
      VectorReport.codec.RoundTrips ∧ Reply.codec.RoundTrips ∧ TestCase.codec.RoundTrips ∧
      TestSuite.codec.RoundTrips ∧
      ∀ suite : TestSuite, TestSuite.ofText (TestSuite.codec.encode suite) = .ok suite ∧
        TestSuite.ofText (TestSuite.codec.encodePretty suite) = .ok suite := by
  refine ⟨Kind.codec_lawful.roundTrips, Definition.codec_lawful.roundTrips,
    Assignment.codec_lawful.roundTrips, VectorReport.codec_lawful.roundTrips,
    Reply.codec_lawful.roundTrips, TestCase.codec_lawful.roundTrips,
    TestSuite.codec_lawful.roundTrips, fun suite => ?_⟩
  obtain ⟨hcompact, hpretty⟩ := TestSuite.codec_lawful.roundTrips suite
  constructor
  · rw [TestSuite.ofText, hcompact]
    rfl
  · rw [TestSuite.ofText, hpretty]
    rfl

end Criteria
