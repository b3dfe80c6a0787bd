import Testbed.Container.Engine
import Testbed.Journal.Basic
import Testbed.Scenario.Event
import Testbed.Scenario.Script
import Testbed.Search.Node

/-!
# The world of a scenario

The state of the collaborators of a run: the clocks, the containers that the daemon has, the
databases of the server, the clients that were made, and what was observed.
-/

namespace Testbed.Scenario

set_option autoImplicit false

/-- A client of a stub, of a database or of a search node; the first two are known by the order
in which they were made, counted from one. -/
inductive Client where
  | stub (number : Nat)
  | sql (number : Nat)
  | node (client : Search.NodeClient)

/-- A container that the daemon has or had. -/
structure Held where
  container : Container
  attributes : Value := .dict []
  hostPorts : List Nat := []
  present : Bool := true

structure SqlConnection where
  settings : Dsn.Settings
  autocommit : Bool := false
  closed : Bool := false

/-- Names that a scenario gives to clones: those of an instance, and those that belong to none. -/
inductive CloneRef where
  | of (family : Nat) (clone : CloneId)
  | lone (place : Nat)
  deriving DecidableEq, Repr

inductive Cleanup where
  | member (id : Nat)
  | clone (ref : CloneRef)
  deriving DecidableEq, Repr

/-- The names given so far, and the registered cleanups in their order. -/
structure Roster where
  instances : List (String × Nat) := []
  clones : List (String × CloneRef) := []
  nodes : List (String × Search.NodeClient) := []
  cleanups : List Cleanup := []

structure World where
  settings : Settings := {}
  clock : Float := 0.0
  /-- The date when the clock shows zero. -/
  wall : Num := .real 1700000000.0
  stamp : Int := 1000
  script : Script := []
  /-- What was asked of collaborators, the latest first. -/
  events : List Event := []
  /-- The lowest level of the diary that is kept. -/
  threshold : Level := .warning
  /-- The entries of the diary, the latest first. -/
  diary : List (Level × Topic × String) := []
  board : ExpiryBoard := {}
  engines : Nat := 0
  held : List Held := []
  nextPort : Nat := 49153
  /-- The databases of the server, with their template flags. -/
  databases : List (String × Bool) := [("postgres", false), ("template1", true)]
  connections : List SqlConnection := []
  /-- The clients of stubs; a closed one is marked. -/
  stubs : List Bool := []
  /-- The journal, as soon as the worker has a directory. -/
  journal : Option Journal := none
  roster : Roster := {}
  deriving Inhabited

namespace World

def record (e : Event) : Act World Unit :=
  Act.update fun w => { w with events := e :: w.events }

def rank : Level → Nat
  | .debug => 0
  | .info => 1
  | .warning => 2
  | .error => 3

/-- The diary keeps entries from its threshold on. -/
def diaryAccess : Diary World where
  write level topic text w :=
    if rank w.threshold ≤ rank level then { w with diary := (level, topic, text) :: w.diary }
    else w

def date (w : World) : Num := .real (w.wall.toReal + w.clock)

def journalAccess : JournalAccess World where
  slot := { get := fun w => w.journal, set := fun j w => { w with journal := j } }
  date := date

def boardSlot : Slot World ExpiryBoard where
  get w := w.board
  set b w := { w with board := b }

/-- The clock shows a moment, unless it is past it. -/
def reach (w : World) (moment : Float) : World :=
  if w.clock < moment then { w with clock := moment } else w

/-- The next outcome of a target.  Its time passes first, and then its fault is raised. -/
def consume (pass : Num → Act World Unit) (t : Target) : Act World Outcome := do
  let (outcome, script) ← Act.read fun w => w.script.next t
  Act.update fun w => { w with script := script }
  match outcome.duration with
  | some d => pass d
  | none => pure ()
  match outcome.fault with
  | some f => Act.fail f
  | none => pure outcome

end World

end Testbed.Scenario
