import Testbed.Instance.Estate

/-!
# Caching instances

An expensive instance can be shared by many tests under a key.  Every key maps to at most one
instance.  The cache is emptied only when all its instances were closed.
-/

namespace Testbed

set_option autoImplicit false

variable {ρ κ σ : Type}

/-- The cached instances in the order in which they were added. -/
abbrev InstanceCache := List (String × InstanceId)

abbrev CacheAct (ρ κ σ α : Type) := Act (InstanceCache × Estate ρ κ σ) α

namespace InstanceCache

def debug (d : Diary σ) (text : String) : CacheAct ρ κ σ Unit :=
  Act.outside (Estate.around (d.debug .cache text))

def get? (key : String) : CacheAct ρ κ σ (Option InstanceId) :=
  Act.read fun s => Entries.get? key s.1

def contains (key : String) : CacheAct ρ κ σ Bool := do pure (← get? key).isSome

def size : CacheAct ρ κ σ Nat := Act.read fun s => s.1.length

/-- The instance cached under a key; one is created and cached when there is none. -/
def getOrCreate (d : Diary σ) (key : String) (create : EstateAct ρ κ σ InstanceId) :
    CacheAct ρ κ σ InstanceId := do
  match Entries.get? key (← Act.read Prod.fst) with
  | some id => pure id
  | none =>
    debug d s!"No cached instance for '{key}', creating a new one."
    let id ← Act.outside create
    Act.update fun s => (Entries.put key id s.1, s.2)
    pure id

/-- Closes instances in order, up to the first that fails. -/
def closeAll (d : Diary σ) (close : InstanceId → EstateAct ρ κ σ Unit) :
    InstanceCache → CacheAct ρ κ σ Unit
  | [] => pure ()
  | (key, id) :: rest => do
    debug d s!"Closing cached instance '{key}'."
    Act.outside (close id)
    closeAll d close rest

def close (d : Diary σ) (closeOne : InstanceId → EstateAct ρ κ σ Unit) :
    CacheAct ρ κ σ Unit := do
  closeAll d closeOne (← Act.read Prod.fst)
  Act.update fun s => ([], s.2)

end InstanceCache

end Testbed
