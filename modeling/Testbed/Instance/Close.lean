import Testbed.Instance.Backing

/-!
# Closing instances

Closing an instance is the only way its container is destroyed, the expiry safeguard apart.  The
container of a template is kept while any of its clones is open, and is destroyed with the last
of them.  When something fails the instance stays open and closing can be tried again.
-/

namespace Testbed

set_option autoImplicit false

variable {η ρ κ σ : Type}

open FamilyAct

/-- Destroys the container, and closes a runtime that was created for the instance. -/
def terminate (b : Backing η ρ κ σ) : FamilyAct ρ κ σ Unit := do
  let h ← handle
  Act.outside (Act.orRaise (b.runtime.terminate h.container) fun e =>
    .teardown s!"Could not terminate instance '{h.logicalName}': {e.message}")
  setHandle fun h => { h with terminatePending := false }
  if h.ownsRuntime then Act.outside b.runtime.close

/-- Closes the client; a failure is only reported. -/
def closeClient (b : Backing η ρ κ σ) : FamilyAct ρ κ σ Unit := do
  let h ← handle
  match h.client with
  | none => pure ()
  | some c =>
    match ← Act.outside (Act.attempt (b.service.closeClient c)) with
    | .ok _ => pure ()
    | .error e => warn b .instances s!"Unable to close client of '{h.logicalName}': {e.message}"

/-- Takes the template flag back, so that nothing can be cloned from a store that is being
destroyed.  A server that cannot be reached does not stand in the way. -/
def revertTemplate (b : Backing η ρ κ σ) : FamilyAct ρ κ σ Unit := do
  let h ← handle
  if h.isTemplate then
    match ← Act.outside (Act.attempt (b.service.setTemplate h false)) with
    | .ok _ => pure ()
    | .error e =>
      if e.isTransport then
        warn b .instances
          s!"Template '{h.logicalName}' is not reachable, terminating it: {e.message}"
      else
        Act.fail (Fault.raisedFrom
          (.teardown s!"Could not unmark template '{h.logicalName}': {e.message}") e)
    setHandle fun h => { h with isTemplate := false }

/-- Keeps the container for the live clones, or destroys it when there are none. -/
def keepOrTerminate (b : Backing η ρ κ σ) : FamilyAct ρ κ σ Unit := do
  let h ← handle
  if h.liveClones.isEmpty then terminate b
  else
    let name ← label b
    Act.outside (b.around.diary.info .instances
      s!"Keeping container of {name} until its {h.liveClones.length} clone(s) are closed")
    setHandle fun h => { h with terminatePending := true }

/-- Closes an instance.  Closing it again does nothing, unless a termination that failed when the
last clone was closed is still to be done. -/
def closeInstance (b : Backing η ρ κ σ) : FamilyAct ρ κ σ Unit := do
  let h ← handle
  if h.closed then
    if h.terminatePending && h.liveClones.isEmpty then terminate b
  else
    revertTemplate b
    keepOrTerminate b
    setHandle fun h => { h with closed := true }
    closeClient b
    let name ← label b
    debug b .instances s!"Closed {name}"

/-- Forgets a closed clone, and destroys the container when nothing needs it any more. -/
def releaseClone (b : Backing η ρ κ σ) (id : CloneId) : FamilyAct ρ κ σ Unit := do
  setHandle fun h => { h with liveClones := h.liveClones.filter (· != id) }
  let h ← handle
  if h.terminatePending && h.liveClones.isEmpty then
    let name ← label b
    debug b .instances s!"Last clone of {name} closed, terminating the container"
    terminate b

/-- Closes the client of a clone and removes its store. -/
def dropStore (s : Service η ρ κ σ) (c : Clone κ) : Act σ Unit :=
  Act.orRaise (do s.closeClient c.client; s.dropCopy c.info) fun e =>
    .teardown s!"Could not remove clone '{c.info.database}': {e.message}"

/-- The first half of closing a clone: its store is removed and it is closed.  Tells whether it
was open. -/
def retireClone (b : Backing η ρ κ σ) (id : CloneId) : FamilyAct ρ κ σ Bool := do
  match ← clone? id with
  | none => pure false
  | some c =>
    if c.closed then pure false
    else
      Act.outside (dropStore b.service c)
      setClone id { c with closed := true }
      pure true

/-- Closes a clone; the template is left untouched, except that its container is destroyed when
it waited only for this clone. -/
def closeClone (b : Backing η ρ κ σ) (id : CloneId) : FamilyAct ρ κ σ Unit := do
  if ← retireClone b id then
    match ← clone? id with
    | none => pure ()
    | some c => debug b .templates s!"Closed {c.label}"
    releaseClone b id

def closeLoneClone (s : Service η ρ κ σ) (d : Diary σ) (c : Clone κ) : Act σ (Clone κ) := do
  if c.closed then pure c
  else
    dropStore s c
    let c := { c with closed := true }
    d.debug .templates s!"Closed {c.label}"
    pure c

end Testbed
