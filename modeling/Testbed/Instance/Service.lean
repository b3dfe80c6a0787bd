import Testbed.Act
import Testbed.Container.LaunchSpec
import Testbed.Instance.Handle
import Testbed.Instance.Options

/-!
# Services

What is particular to one kind of backing service: how it is launched, connected to, probed and
copied.  All else is the same for every service.  A service that does not support templates
refuses the operations on stores.

`η` is the type of hooks, `σ` that of the state that collaborators change.
-/

namespace Testbed

set_option autoImplicit false

structure Service (η ρ κ σ : Type) where
  name : String := ""
  /-- The port inside the container. -/
  containerPort : String := ""
  defaultLogicalName : String := ""
  supportsTemplates : Bool := false
  launchSpec : String → StartOptions η → Act σ LaunchSpec
  /-- A new client of an instance or a clone. -/
  connectTo : ConnectionInfo → Act σ κ
  /-- Fails when the instance behind a client is not ready. -/
  probe : Option κ → Act σ Unit
  closeClient : κ → Act σ Unit
  /-- Whether a failed probe can go away by waiting. -/
  isTransient : Fault → Bool
  connectionInfo : Handle ρ κ → Except Fault ConnectionInfo
  /-- Marks or unmarks the store of an instance as a template. -/
  setTemplate : Handle ρ κ → Bool → Act σ Unit
  /-- Creates a store with a given name as a copy of the store of a template. -/
  createCopy : Handle ρ κ → String → Act σ Unit
  /-- Removes the store of a clone. -/
  dropCopy : ConnectionInfo → Act σ Unit

namespace Service

variable {η ρ κ σ α : Type}

def unimplemented (name : String) : Fault :=
  Fault.of (.host .unimplemented s!"Not implemented for service type `{name}`.")

def noTemplates (name : String) : Fault :=
  Fault.of (.cloneContract s!"Service type `{name}` doesn't support templates.")

/-- The host and the port of an instance, and nothing else. -/
def plainInfo (h : Handle ρ κ) : Except Fault ConnectionInfo := do
  let port ← h.port
  pure { host := h.host, port }

/-- A service that can do nothing; other services replace what they can do. -/
def abstract (name : String) : Service η ρ κ σ where
  name := name
  launchSpec _ _ := Act.fail (unimplemented name)
  connectTo _ := Act.fail (unimplemented name)
  probe _ := Act.fail (unimplemented name)
  closeClient _ := pure ()
  isTransient _ := true
  connectionInfo := plainInfo
  setTemplate _ _ := Act.fail (noTemplates name)
  createCopy _ _ := Act.fail (noTemplates name)
  dropCopy _ := Act.fail (noTemplates name)

def connect (s : Service η ρ κ σ) (h : Handle ρ κ) : Act σ κ := do
  let info ← Act.ofExcept (s.connectionInfo h)
  s.connectTo info

end Service

end Testbed
