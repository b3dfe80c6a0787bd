import Testbed.Instance.Close

/-!
# Templates and clones

A seeded instance can be promoted to a template.  Every clone is then a new store, created as a
copy of the store of the template at that moment.
-/

namespace Testbed

set_option autoImplicit false

variable {η ρ κ σ : Type}

open FamilyAct

def checkOpen : FamilyAct ρ κ σ Unit := do
  let h ← handle
  if h.closed then Act.raise (.instanceClosed s!"Instance '{h.logicalName}' is already closed.")

/-- Marks an instance as a template, so that it can be cloned. -/
def promote (b : Backing η ρ κ σ) : FamilyAct ρ κ σ Unit := do
  if !b.service.supportsTemplates then Act.fail (Service.noTemplates b.service.name)
  checkOpen
  let h ← handle
  if !h.isTemplate then
    Act.outside (Act.orRaise (b.service.setTemplate h true) fun e =>
      .setup .template .template s!"Could not make '{h.logicalName}' a template: {e.message}")
    setHandle fun h => { h with isTemplate := true }
    let name ← label b
    debug b .templates s!"Promoted {name} to template"

def notTemplate (logicalName : String) : Fault :=
  Fault.of (.cloneContract
    (s!"Cannot clone '{logicalName}', it is not a template: " ++
      "use `StartOptions(is_template=True)` or `promote` to create a template."))

/-- A client of a new copy.  When none can be had, the copy is removed again. -/
def connectCopy (b : Backing η ρ κ σ) (info : ConnectionInfo) : Act σ κ := do
  match ← Act.attempt (b.service.connectTo info) with
  | .ok client => pure client
  | .error e =>
    match ← Act.attempt (b.service.dropCopy info) with
    | .ok _ => pure ()
    | .error d =>
      b.around.diary.warning .templates
        s!"Unable to remove clone '{info.database}': {d.message}"
    Act.fail (Fault.raisedFrom
      (.setup .template .template
        s!"Could not connect to clone '{info.database}': {e.message}") e)

/-- Creates a store as a copy of the store of a template and connects to it. -/
def cloneTemplate (b : Backing η ρ κ σ) : FamilyAct ρ κ σ CloneId := do
  checkOpen
  let h ← handle
  if !h.isTemplate then Act.fail (notTemplate h.logicalName)
  let name ← Act.outside (b.around.newName h.logicalName)
  Act.outside (Act.orRaise (b.service.createCopy h name) fun e =>
    .setup .template .template
      s!"Could not clone '{h.logicalName}' to '{name}': {e.message}")
  let info ← Act.ofExcept (b.service.connectionInfo h)
  let info := { info with database := name }
  let client ← Act.outside (connectCopy b info)
  let clone : Clone κ := { info, client }
  let id ← addClone clone
  let shown ← label b
  debug b .templates s!"Cloned {shown} to {clone.label}"
  pure id

end Testbed
