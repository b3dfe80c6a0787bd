import Testbed.Fault.Basic

/-!
# Described faults

A scenario describes the errors that its collaborators raise: each incident of the chain with the
number of wrappers put around it, and whether the last one points back to an earlier one.
-/

namespace Testbed.Scenario

set_option autoImplicit false

/-- One described incident, raised again inside a number of wrappers. -/
structure Link where
  incident : Incident
  wraps : Nat := 0

/-- The wrappers of a link, outermost first, and the incident itself. -/
def Link.incidents (l : Link) : List Incident :=
  ((List.range l.wraps).reverse.map fun i => .host .badState s!"wrapper {i}") ++ [l.incident]

/-- A described chain; `back` counts the described incidents from the outermost. -/
structure FaultSpec where
  first : Link
  more : List Link := []
  back : Option Nat := none

/-- The place of the described incident with a given number in the chain that is built. -/
def placeOf : List Link → Nat → Option Nat
  | [], _ => none
  | l :: _, 0 => some l.wraps
  | l :: rest, n + 1 => (placeOf rest n).map (· + (l.wraps + 1))

def FaultSpec.build (s : FaultSpec) : Fault :=
  let links := s.first :: s.more
  match links.flatMap Link.incidents with
  | [] => Fault.of s.first.incident
  | head :: causes => { head, causes, back := s.back.bind (placeOf links) }

end Testbed.Scenario
