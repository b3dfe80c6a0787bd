import Testbed.Instance.Service
import Testbed.Surroundings

/-!
# What stands behind an instance

An instance relies on its service, on the runtime that holds its container, and on the
surroundings of the run.
-/

namespace Testbed

set_option autoImplicit false

structure Runtime (ρ σ : Type) where
  ping : Act σ Unit
  launch : LaunchSpec → Act σ ρ
  /-- Removes a container after a number of seconds unless it was terminated before. -/
  scheduleExpiry : ρ → Num → Act σ Unit
  /-- Where a port of a container is published. -/
  endpoint : ρ → String → Act σ String
  terminate : ρ → Act σ Unit
  close : Act σ Unit

structure Backing (η ρ κ σ : Type) where
  service : Service η ρ κ σ
  runtime : Runtime ρ σ
  around : Surroundings σ

abbrev FamilyAct (ρ κ σ α : Type) := Act (Family ρ κ × σ) α

namespace FamilyAct

variable {η ρ κ σ : Type}

def handle : FamilyAct ρ κ σ (Handle ρ κ) := Act.read fun s => s.1.handle

def setHandle (f : Handle ρ κ → Handle ρ κ) : FamilyAct ρ κ σ Unit :=
  Act.update fun s => ({ s.1 with handle := f s.1.handle }, s.2)

def clone? (id : CloneId) : FamilyAct ρ κ σ (Option (Clone κ)) :=
  Act.read fun s => s.1.clones[id]?

def setClone (id : CloneId) (c : Clone κ) : FamilyAct ρ κ σ Unit :=
  Act.update fun s => ({ s.1 with clones := s.1.clones.set id c }, s.2)

def addClone (c : Clone κ) : FamilyAct ρ κ σ CloneId := fun s =>
  let id := s.1.clones.length
  let h := s.1.handle
  (.ok id, ({ handle := { h with liveClones := h.liveClones ++ [id] }
              clones := s.1.clones ++ [c] }, s.2))

def label (b : Backing η ρ κ σ) : FamilyAct ρ κ σ String := do
  pure ((← handle).label b.service.name)

def debug (b : Backing η ρ κ σ) (topic : Topic) (text : String) : FamilyAct ρ κ σ Unit :=
  Act.outside (b.around.diary.debug topic text)

def warn (b : Backing η ρ κ σ) (topic : Topic) (text : String) : FamilyAct ρ κ σ Unit :=
  Act.outside (b.around.diary.warning topic text)

end FamilyAct

end Testbed
