import Testbed.Scenario.Perform

/-!
# What is seen of a run

After every step the run shows what was asked of collaborators during the step, what was written
into the diary, and the state it is in.
-/

namespace Testbed.Scenario

set_option autoImplicit false

structure InstanceView where
  closed : Bool
  isTemplate : Bool
  liveClones : Nat
  terminatePending : Bool
  hasClient : Bool
  ownsRuntime : Bool
  deriving DecidableEq, Repr

def InstanceView.of (h : Handle Site Client) : InstanceView where
  closed := h.closed
  isTemplate := h.isTemplate
  liveClones := h.liveClones.length
  terminatePending := h.terminatePending
  hasClient := h.client.isSome
  ownsRuntime := h.ownsRuntime

structure Snapshot where
  clock : Float
  instances : List (String × InstanceView)
  /-- Clones, and whether they are closed. -/
  clones : List (String × Bool)
  running : List String
  /-- The timers that are running, and when they are due. -/
  timers : List (String × Float)
  /-- Databases in the order of their names, with their template flags. -/
  databases : List (String × Bool)
  cleanups : Nat

def Run.isClosed? (r : Run) : CloneRef → Option Bool
  | .of id c => ((r.estate.families[id]?).bind (·.clones[c]?)).map (·.closed)
  | .lone place => (r.lone[place]?).map (·.2.closed)

def Run.snapshot (r : Run) : Snapshot :=
  let w := r.estate.outside
  { clock := w.clock
    instances := w.roster.instances.filterMap fun (name, id) =>
      (r.estate.handle? id).map fun h => (name, InstanceView.of h)
    clones := w.roster.clones.filterMap fun (name, ref) =>
      (r.isClosed? ref).map fun closed => (name, closed)
    running := (World.present w).map (·.name)
    timers := w.board.armed.map fun a => (a.label, a.due)
    databases := w.databases.mergeSort fun a b => a.1 ≤ b.1
    cleanups := w.roster.cleanups.length }

structure Report where
  answer : Except Fault Answer
  events : List Event
  diary : List (Level × Topic × String)
  snapshot : Snapshot

/-- A run whose next step shows only its own events. -/
def Run.cleared (r : Run) : Run :=
  let outside := { r.estate.outside with events := [], diary := [] }
  { r with estate := { r.estate with outside } }

def Run.step (r : Run) (s : Step) : Report × Run :=
  let (answer, r) := s.perform r
  let w := r.estate.outside
  ({ answer, events := w.events.reverse, diary := w.diary.reverse, snapshot := r.snapshot },
    r.cleared)

def Run.steps : Run → List Step → List Report
  | _, [] => []
  | r, s :: rest =>
    let (report, r) := r.step s
    report :: r.steps rest

def Run.new (w : World) : Run := { estate := { families := [], outside := w } }

end Testbed.Scenario
