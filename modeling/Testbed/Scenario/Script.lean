import Testbed.Fault.Basic
import Testbed.Http.Exchange

/-!
# Scripted outcomes

A scenario says in advance how the collaborators of a run behave.  Every kind of request has a
queue of outcomes; a request that finds its queue empty simply succeeds.
-/

namespace Testbed.Scenario

set_option autoImplicit false

/-- The requests whose outcomes can be scripted. -/
inductive Target where
  | openDaemon
  | pingDaemon
  | closeDaemon
  | runContainer
  | listContainers
  | inspectContainer
  | removeContainer
  | startTimer
  | openSql
  | executeSql
  | closeSql
  | exchange
  | describeStub
  | connectStub
  | probeStub
  | closeStub
  | markStub
  | copyStub
  | dropStub
  | probeEndpoint
  deriving DecidableEq, Repr

/-- How one request ends: it takes some time, and then it fails or gives an answer. -/
structure Outcome where
  duration : Option Num := none
  fault : Option Fault := none
  /-- What an inspection shows from now on. -/
  attributes : Option Value := none
  /-- How an exchange with a node ends. -/
  answer : Http.Outcome := .reply {}
  repeats : Bool := false

abbrev Script := List (Target × Outcome)

def Script.next (t : Target) : Script → Outcome × Script
  | [] => ({}, [])
  | (u, o) :: rest =>
    if u = t then (o, if o.repeats then (u, o) :: rest else rest)
    else
      let (found, others) := Script.next t rest
      (found, (u, o) :: others)

end Testbed.Scenario
