import Criteria.Criterion
import Criteria.Digest.Sha256

/-!
# Test vectors

A test vector is a named list of criteria with a test type. Its report has a line for the test type
and one for each criterion, and its digest is the SHA-256 digest of the lines of the criteria alone.
For a daemon each criterion becomes an assignment of its values.
-/

namespace Criteria

/-- The values that a criterion is to have. -/
structure Assignment where
  /-- The name of the criterion. -/
  name : String
  /-- The kind of the criterion. -/
  kind : Kind
  /-- The values. -/
  values : List String
  deriving DecidableEq, Repr

/-- A vector as it is reported. -/
structure VectorReport where
  /-- The name of the vector. -/
  name : String
  /-- The test type of the vector. -/
  testType : String
  /-- The digest of the vector's criteria. -/
  digest : String
  /-- The assignments of the vector. -/
  criteria : List Assignment
  deriving DecidableEq, Repr

/-- The test type of a vector that is given none. -/
def defaultTestType : String := "nominal"

/-- A named list of criteria. -/
structure TestVector where
  /-- The name. -/
  name : String
  /-- The test type. -/
  testType : String
  /-- The criteria. -/
  criteria : List Criterion
  deriving DecidableEq

/-- The assignment that gives a criterion the values it shows. -/
def Criterion.assignment (criterion : Criterion) : Assignment :=
  ⟨criterion.name, criterion.kind, criterion.values⟩

/-- The line of a criterion in a report. -/
def Criterion.line (criterion : Criterion) : String :=
  criterion.name ++ " = " ++ " ".intercalate criterion.values ++ "\n"

namespace TestVector

/-- Give a vector another test type. -/
def retag (vector : TestVector) (testType : String) : TestVector :=
  { vector with testType := testType }

/-- The first criterion of a name. -/
def find? (vector : TestVector) (name : String) : Option Criterion :=
  vector.criteria.find? fun criterion => criterion.name = name

/-- The assignments of a vector, in its order. -/
def assignments (vector : TestVector) : List Assignment :=
  vector.criteria.map Criterion.assignment

/-- The lines of the criteria. -/
def criterionLines (vector : TestVector) : String :=
  String.join (vector.criteria.map Criterion.line)

/-- The text of a vector: its test type, then the lines of its criteria. -/
def render (vector : TestVector) : String :=
  "testType: " ++ vector.testType ++ "\n" ++ vector.criterionLines

/-- The digest of the lines of the criteria. -/
def digest (vector : TestVector) : String :=
  Digest.hexDigest vector.criterionLines

/-- The report of a vector. -/
def report (vector : TestVector) : VectorReport :=
  ⟨vector.name, vector.testType, vector.digest, vector.assignments⟩

end TestVector

end Criteria
