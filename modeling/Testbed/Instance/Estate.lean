import Testbed.Instance.Template

/-!
# All instances of a run

Instances are numbered in the order in which their containers were launched.  What is done to one
family leaves the others as they are.
-/

namespace Testbed

set_option autoImplicit false

variable {η ρ κ σ α : Type}

/-- The place of an instance in the order of launching. -/
abbrev InstanceId := Nat

structure Estate (ρ κ σ : Type) where
  families : List (Family ρ κ)
  outside : σ

abbrev EstateAct (ρ κ σ α : Type) := Act (Estate ρ κ σ) α

namespace Estate

def around (x : Act σ α) : EstateAct ρ κ σ α := fun s =>
  match x s.outside with
  | (r, o) => (r, { s with outside := o })

def unknown : Fault := Fault.of (.host .badIndex "no such instance")

def onFamily (id : InstanceId) (x : FamilyAct ρ κ σ α) : EstateAct ρ κ σ α := fun s =>
  match s.families[id]? with
  | none => (.error unknown, s)
  | some f =>
    match x (f, s.outside) with
    | (r, (f', o)) => (r, { families := s.families.set id f', outside := o })

def enroll (h : Handle ρ κ) : EstateAct ρ κ σ InstanceId := fun s =>
  (.ok s.families.length, { s with families := s.families ++ [{ handle := h }] })

def handle? (s : Estate ρ κ σ) (id : InstanceId) : Option (Handle ρ κ) :=
  s.families[id]?.map (·.handle)

end Estate

end Testbed
