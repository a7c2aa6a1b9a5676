import Criteria.Generation

/-!
# Test suites

A test case describes a vector: its name, its test type and the overrides of a delta, or none for
the baseline. A suite is a list of cases. Its vectors are generated in order up to the first case
that fails; the fault then names that case, and everything logged on the way is inside the case's
vector.
-/

namespace Criteria

/-- The description of a vector. -/
structure TestCase where
  /-- The name of the vector. -/
  name : String
  /-- The test type of the vector. -/
  testType : String := defaultTestType
  /-- The overrides of a delta, or none for the baseline. -/
  criteria : Option Overrides := none
  deriving DecidableEq

/-- A list of test cases. -/
structure TestSuite where
  /-- The cases. -/
  cases : List TestCase
  deriving DecidableEq

/-- Generate the vector of a case. -/
def TestCase.generate (registry : Registry) (testCase : TestCase) : Traced TestVector :=
  Traced.within testCase.name
    (Traced.mapFault (.testCase testCase.name)
      (registry.vector testCase.name testCase.testType testCase.criteria))

/-- Generate the vectors of the cases, in order. -/
def TestSuite.generateAll (registry : Registry) (suite : TestSuite) : Traced (List TestVector) :=
  suite.cases.mapM (TestCase.generate registry)

end Criteria
