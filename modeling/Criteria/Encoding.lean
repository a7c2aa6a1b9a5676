import Criteria.Daemon
import Criteria.Json.Codec
import Criteria.TestSuite

/-!
# JSON forms

The codecs of the records that are written as JSON and read from it. A member that a record does
not know is skipped. A test case without a test type has the default one; without criteria, or with
`null` for them, it is a baseline, and a baseline is written without them.
-/

namespace Criteria

open Json

/-- Kinds. -/
def Kind.codec : Codec Kind :=
  .variant [("exclusive", .exclusive), ("inclusive", .inclusive)] Kind.name

/-- Definitions. -/
def Definition.codec : Codec Definition :=
  .record "CriterionDefinition"
    (.more (.required "kind" Kind.codec)
      (.more (.required "name" .string)
        (.more (.required "allowed_values" (.list .string)) .done)))
    (fun definition => (definition.kind, definition.name, definition.allowed, ()))
    (fun (kind, name, allowed, _) => ⟨kind, name, allowed⟩)

/-- Assignments. -/
def Assignment.codec : Codec Assignment :=
  .record "CriterionCommand"
    (.more (.required "name" .string)
      (.more (.required "kind" Kind.codec)
        (.more (.required "values" (.list .string)) .done)))
    (fun assignment => (assignment.name, assignment.kind, assignment.values, ()))
    (fun (name, kind, values, _) => ⟨name, kind, values⟩)

/-- Reports of vectors. -/
def VectorReport.codec : Codec VectorReport :=
  .record "VectorReport"
    (.more (.required "name" .string)
      (.more (.required "test_type" .string)
        (.more (.required "digest" .string)
          (.more (.required "criteria" (.list Assignment.codec)) .done))))
    (fun report => (report.name, report.testType, report.digest, report.criteria, ()))
    (fun (name, testType, digest, criteria, _) => ⟨name, testType, digest, criteria⟩)

/-- Replies. -/
def Reply.codec : Codec Reply :=
  .record "CommandOutput"
    (.more (.required "output" .string) (.more (.required "error" .string) .done))
    (fun reply => (reply.output, reply.error, ()))
    (fun (output, error, _) => ⟨output, error⟩)

/-- Test cases. -/
def TestCase.codec : Codec TestCase :=
  .record "TestCase"
    (.more (.required "name" .string)
      (.more (.withFallback "test_type" defaultTestType .string)
        (.more (.optional "criteria" (.dictionary .string)) .done)))
    (fun testCase => (testCase.name, testCase.testType, testCase.criteria, ()))
    (fun (name, testType, criteria, _) => ⟨name, testType, criteria⟩)

/-- Test suites. -/
def TestSuite.codec : Codec TestSuite :=
  .record "TestSuite" (.more (.required "cases" (.list TestCase.codec)) .done)
    (fun suite => (suite.cases, ()))
    (fun (cases, _) => ⟨cases⟩)

/-- Read a suite from JSON text. -/
def TestSuite.ofText (text : String) : Except Fault TestSuite :=
  (TestSuite.codec.decode text).mapError .serialization

end Criteria
