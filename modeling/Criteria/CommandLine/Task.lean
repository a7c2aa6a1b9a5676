import Criteria.CommandLine.Arguments
import Criteria.CommandLine.Console
import Criteria.CommandLine.Listing
import Criteria.File

/-!
# Tasks

What each task does. A task first reads the definition file, then the suite file if it has one, and
then generates all vectors, so the first of these to fail is the one reported. Nothing is printed
before all of them have succeeded.
-/

namespace Criteria.CommandLine

/-- What is found under each path. -/
abbrev Files := String → FileState

/-- Read the definition file. -/
def loadRegistry (files : Files) (criteria : String) : Console Registry :=
  Console.run s!"Failed to load criteria from {criteria}" (Registry.ofFile (files criteria))

/-- Read both files and generate the vectors of the suite. -/
def loadVectors (files : Files) (criteria suite : String) : Console (List TestVector) := do
  let registry ← loadRegistry files criteria
  let cases ← Console.run s!"Failed to load suite from {suite}"
    (Traced.ofExcept (TestSuite.ofFile (files suite)))
  Console.run "Failed to generate test vectors" (cases.generateAll registry)

/-- Print what a push of a vector would send. The commands go to a daemon that refuses nothing. -/
def planVector (vector : TestVector) : Console Unit := do
  Console.print (planHeader vector)
  let exchange := vector.push Daemon.silent []
  Console.print (commandLines exchange.sent)
  let _ ← Console.run s!"Failed to plan vector {vector.name}" exchange.traced
  return

/-- Print what pushes of vectors would send, in order. -/
def planVectors : List TestVector → Console Unit
  | [] => return
  | vector :: rest => do
    planVector vector
    planVectors rest

/-- Do a task. -/
def Task.run (files : Files) : Task → Console Unit
  | .list criteria => do
    let registry ← loadRegistry files criteria
    Console.print (definitionListing registry)
    Console.emit (.criteriaListed registry.size)
  | .baseline criteria name json => do
    let registry ← loadRegistry files criteria
    let vector ← Console.run "Failed to generate baseline vector" (registry.baseline name)
    Console.print (vectorListing json [vector])
  | .generate criteria suite json => do
    let vectors ← loadVectors files criteria suite
    Console.print (vectorListing json vectors)
    Console.emit (.vectorsPrinted vectors.length)
  | .plan criteria suite => do
    planVectors (← loadVectors files criteria suite)

end Criteria.CommandLine
