import Testbed.Scenario.Containers

/-!
# How time passes

Time passes when the run sleeps or when a request takes some.  The timers that become due on the
way go off one after the other, each at its own moment; what they do may itself take time.
-/

namespace Testbed.Scenario

set_option autoImplicit false

/-- An engine of a world: its number, and the host where its ports are published. -/
structure EngineRef where
  number : Nat
  hostname : String
  deriving DecidableEq, Repr

namespace World

section

variable (pass : Num → Act World Unit)

def surroundingsWith : Surroundings World where
  clock := {
    now := fun w => .real w.clock
    sleep := fun seconds => do
      record (.sleep seconds.toReal)
      pass seconds }
  date := date
  stamp := fun w => (.ok w.stamp, { w with stamp := w.stamp + 1 })
  diary := diaryAccess

def engineWith (r : EngineRef) : Engine World where
  number := r.number
  hostname := r.hostname
  daemon := daemon pass
  board := boardSlot
  startTimer seconds := do
    let _ ← consume pass .startTimer
    let due ← Act.ofExcept (numScale.later (.real (← Act.read (·.clock))) seconds)
    pure due.toReal
  around := surroundingsWith pass

def containerOf? (w : World) (a : Alarm) : Option Container :=
  (w.held.map (·.container)).find? fun c => c.id == a.key.2 && "expire-" ++ c.name == a.label

def ring (a : Alarm) : Act World Unit := do
  Act.update fun w => { w with board := w.board.stop a.serial }.reach a.due
  match ← Act.read (containerOf? · a) with
  | some c => (engineWith pass ⟨a.key.1, ""⟩).expire c
  | none => pure ()

end

/-- Time passes up to a moment.  The fuel is a bound on the number of timers. -/
def advanceTo : Nat → Float → Act World Unit
  | 0, moment => Act.update (·.reach moment)
  | fuel + 1, moment => do
    match (← Act.read (·.board)).nextDue? moment with
    | none => Act.update (·.reach moment)
    | some a =>
      let within (seconds : Num) : Act World Unit := do
        let later ← Act.ofExcept (numScale.later (.real (← Act.read (·.clock))) seconds)
        advanceTo fuel later.toReal
      ring within a
      advanceTo fuel moment

def pass (seconds : Num) : Act World Unit := do
  let later ← Act.ofExcept (numScale.later (.real (← Act.read (·.clock))) seconds)
  let timers ← Act.read fun w => w.board.armed.length
  advanceTo timers later.toReal

def surroundings : Surroundings World := surroundingsWith pass

def engine (r : EngineRef) : Engine World := engineWith pass r

def expect (t : Target) : Act World Outcome := consume pass t

/-- A new engine; the fault of a daemon that cannot be reached is reported as such. -/
def newEngine (timeout : Option Num) (hostname : String) : Act World EngineRef := do
  record (.openDaemon timeout)
  let _ ← Engine.available (expect .openDaemon) "Failed to connect to Docker daemon"
  let number ← Act.read (·.engines)
  Act.update fun w => { w with engines := number + 1 }
  pure { number, hostname }

end World

end Testbed.Scenario
