import Testbed.Number.Basic

/-!
# The expiry board

Every container that was launched is removed after a while unless it is terminated before.  The
board holds the timers that do it: `table` says which timer belongs to a container, `armed` which
timers are running, in the order in which they were started.  Every timer is a thread that waits,
and there is a longest wait.
-/

namespace Testbed

set_option autoImplicit false

/-- What a container is known by on the board: the runtime it belongs to and its identifier. -/
abbrev ContainerKey := Nat × String

/-- The longest wait of a thread, in seconds. -/
def longestWait : Num := 9223372036

/-- When a timer that was given a number of seconds goes off: never if the number is beyond the
longest wait, and at once if it is not positive or NaN. -/
def dueAfter (now : Float) (seconds : Num) : Float :=
  if Num.below 0 seconds then
    if Num.atMost seconds longestWait then now + seconds.toReal else 1.0 / 0.0
  else now

/-- A timer that was started, and neither stopped nor gone off. -/
structure Alarm where
  serial : Nat
  key : ContainerKey
  label : String
  due : Float

structure ExpiryBoard where
  table : List (ContainerKey × Nat) := []
  armed : List Alarm := []
  nextSerial : Nat := 0

namespace ExpiryBoard

def registered? (b : ExpiryBoard) (key : ContainerKey) : Option Nat := b.table.lookup key

def unregister (b : ExpiryBoard) (key : ContainerKey) : ExpiryBoard :=
  { b with table := b.table.filter (·.1 != key) }

def stop (b : ExpiryBoard) (serial : Nat) : ExpiryBoard :=
  { b with armed := b.armed.filter (·.serial != serial) }

def stop? (b : ExpiryBoard) : Option Nat → ExpiryBoard
  | none => b
  | some serial => b.stop serial

/-- Registers a new timer for a container in the place of its old one, which is stopped. -/
def register (b : ExpiryBoard) (key : ContainerKey) : ExpiryBoard :=
  let old := b.registered? key
  let b := b.unregister key
  { b with table := b.table ++ [(key, b.nextSerial)], nextSerial := b.nextSerial + 1 }.stop? old

def newest (b : ExpiryBoard) : Nat := b.nextSerial - 1

def arm (b : ExpiryBoard) (a : Alarm) : ExpiryBoard := { b with armed := b.armed ++ [a] }

def cancel (b : ExpiryBoard) (key : ContainerKey) : ExpiryBoard :=
  (b.unregister key).stop? (b.registered? key)

/-- The earlier of two alarms; of two that are due together the one started first. -/
def earlier (best : Option Alarm) (a : Alarm) : Option Alarm :=
  match best with
  | none => some a
  | some b => if a.due < b.due then some a else some b

/-- The timer that goes off next, if one is due by a given moment. -/
def nextDue? (b : ExpiryBoard) (moment : Float) : Option Alarm :=
  (b.armed.filter fun a => a.due ≤ moment).foldl earlier none

theorem stop?_table (b : ExpiryBoard) (serial : Option Nat) : (b.stop? serial).table = b.table := by
  cases serial <;> rfl

theorem registered?_unregister (b : ExpiryBoard) (key : ContainerKey) :
    (b.unregister key).registered? key = none := by
  unfold registered? unregister
  induction b.table with
  | nil => rfl
  | cons e rest ih =>
      obtain ⟨k, n⟩ := e
      by_cases h : k = key
      · simpa [h] using ih
      · have h' : (key == k) = false := by simpa using Ne.symm h
        simpa [h, List.lookup_cons, h'] using ih

theorem registered?_cancel (b : ExpiryBoard) (key : ContainerKey) :
    (b.cancel key).registered? key = none := by
  unfold cancel registered?
  rw [stop?_table]
  exact registered?_unregister b key

end ExpiryBoard

end Testbed
