import Testbed.Instance.ConnectionInfo

/-!
# Handles

The handle of an instance owns its container and its client.  Clones are stores inside the same
container; each has a handle of its own.  An instance and all clones ever made from it form a
family.

`ρ` is the type of references to containers, `κ` that of clients.
-/

namespace Testbed

set_option autoImplicit false

variable {ρ κ : Type}

abbrev CloneId := Nat

structure Handle (ρ κ : Type) where
  container : ρ
  endpoint : String := ""
  logicalName : String
  /-- The runtime was created for this instance and is closed with it. -/
  ownsRuntime : Bool := false
  client : Option κ := none
  isTemplate : Bool := false
  closed : Bool := false
  /-- Open clones, whose stores live in the container. -/
  liveClones : List CloneId := []
  /-- The instance is closed, but its container is kept for the live clones. -/
  terminatePending : Bool := false

namespace Handle

def host (h : Handle ρ κ) : String := Endpoint.host h.endpoint

def port (h : Handle ρ κ) : Except Fault Int := Endpoint.port h.endpoint

def label (h : Handle ρ κ) (serviceName : String) : String :=
  let state := if h.closed then " (closed)" else ""
  s!"<ServiceInstance {serviceName} '{h.logicalName}' at {h.endpoint}{state}>"

end Handle

structure Clone (κ : Type) where
  info : ConnectionInfo
  client : κ
  closed : Bool := false

namespace Clone

def label (c : Clone κ) : String :=
  let state := if c.closed then " (closed)" else ""
  s!"<CloneInstance '{c.info.database}'{state}>"

end Clone

/-- An instance and the clones made from it, each under the number of its making. -/
structure Family (ρ κ : Type) where
  handle : Handle ρ κ
  clones : List (Clone κ) := []

end Testbed
