import Testbed.Container.Engine

/-!
# Reaping leftovers

Containers of earlier runs carry the time after which they may be removed.  Those without that
label, or with one that is not a number, are left alone.
-/

namespace Testbed.Engine

set_option autoImplicit false

variable {σ : Type}

/-- What the label of a container says about its expiry. -/
inductive ExpiryMark where
  | absent
  | malformed (text : String)
  | time (t : Float)

def expiryMark (c : Container) : ExpiryMark :=
  match Entries.get? Settings.expiresAtLabel c.labels with
  | none => .absent
  | some text =>
    if text.isEmpty then .absent
    else match Parse.float? text with
      | some t => .time t
      | none => .malformed text

/-- Removes one container if its time has passed; tells whether it was removed. -/
def reapOne (e : Engine σ) (now : Num) (c : Container) : Act σ Bool := do
  match expiryMark c with
  | .absent => pure false
  | .malformed text =>
    e.around.diary.warning .runtime
      s!"Container '{c.name}' has invalid expiry label '{text}'"
    pure false
  | .time t =>
    if Num.atMost (.real t) now then
      match ← e.remove c with
      | .removed =>
        e.around.diary.info .runtime s!"Reaped expired container '{c.name}'"
        pure true
      | .gone => pure false
      | .inProgress =>
        e.around.diary.debug .runtime
          s!"Removal of container '{c.name}' already in progress"
        pure false
    else pure false

/-- Removes the containers of a list whose time has passed, in order; the names of those that
were removed. -/
def reapAll (e : Engine σ) (now : Num) : List Container → Act σ (List String)
  | [] => pure []
  | c :: rest => do
    let removed ← e.reapOne now c
    let names ← reapAll e now rest
    pure (if removed then c.name :: names else names)

def reapExpired (e : Engine σ) (now : Option Num) : Act σ (List String) := do
  let date ← Act.read e.around.date
  let containers ← e.daemon.list
  e.reapAll (now.getD date) containers

end Testbed.Engine
