import Testbed.Proofs.Hooks

/-!
# Starts leave other instances alone

A start works on the instance that it launches, and so do its hooks.  The instances that were
there before are as they were, however it ends.
-/

namespace Testbed

set_option autoImplicit false

open Act

variable {η ρ κ σ α : Type}

namespace Estate

/-- The instance with this number is as given. -/
def Holds (j : InstanceId) (f : Family ρ κ) (st : Estate ρ κ σ) : Prop := st.families[j]? = some f

end Estate

open Estate (Holds)

section Apart

variable {j id : InstanceId} {f : Family ρ κ}

theorem around_apart (x : Act σ α) : Keeps (Holds j f) (Estate.around x) := fun _ hst => hst

theorem onFamily_apart (x : FamilyAct ρ κ σ α) (hj : id ≠ j) :
    Keeps (Holds j f) (Estate.onFamily id x) := by
  intro st hst
  unfold Estate.onFamily
  cases st.families[id]? with
  | none => exact hst
  | some g => exact (List.getElem?_set_ne hj).trans hst

theorem HookProgram.apart {b : Backing η ρ κ σ} {K : {β : Type} → Act σ β → Prop}
    {x : EstateAct ρ κ σ α} (h : HookProgram b id K x) (hj : id ≠ j) : Keeps (Holds j f) x := by
  induction h with
  | pure a => exact .pure a
  | fail e => exact .fail e
  | around _ => exact around_apart _
  | look _ => exact onFamily_apart _ hj
  | promote => exact onFamily_apart _ hj
  | clone => exact onFamily_apart _ hj
  | close => exact onFamily_apart _ hj
  | closeClone c => exact onFamily_apart _ hj
  | bind _ _ hx hf => exact .bind hx hf
  | caught _ hx => exact hx

variable {p : Provisioner η ρ κ σ} {b : Backing η ρ κ σ}

theorem bringUp_apart (o : StartOptions η) (deadline : Num) (hj : id ≠ j)
    (hh : ∀ hook ∈ o.hooks, Keeps (Holds j f) (p.runHook b hook id)) :
    Keeps (Holds j f) (bringUp p b o deadline id) := by
  refine .bind (onFamily_apart _ hj) fun _ => .bind (around_apart _) fun timeout => ?_
  refine .bind (onFamily_apart _ hj) fun _ => .bind (runHooks_keeps id o.hooks hh) fun _ => ?_
  exact .ite (onFamily_apart _ hj) (.pure _)

theorem establish_apart (l : Launched η ρ κ σ) (o : StartOptions η)
    (hh : ∀ hook ∈ o.hooks, ∀ id, id ≠ j → Keeps (Holds j f) (p.runHook l.backing hook id)) :
    Keeps (Holds j f) (establish p l o) := by
  intro st hst
  have hlt : j < st.families.length := (List.getElem?_eq_some_iff.mp hst).1
  have hj : st.families.length ≠ j := Nat.ne_of_gt hlt
  have enrolled : Holds j f (Estate.enroll l.handle st).2 :=
    (List.getElem?_append_left hlt).trans hst
  refine Keeps.bind (x := Act.onFault (bringUp p l.backing o l.deadline st.families.length) _) ?_
    (fun _ => ?_) _ enrolled
  · exact .onFault (bringUp_apart o _ hj fun hook hm => hh hook hm _ hj) (onFamily_apart _ hj)
  · exact .bind (onFamily_apart _ hj) fun _ => .bind (around_apart _) fun _ => .pure _

/-- An instance that is there before a start is as it was after the start. -/
theorem start_apart (s : Service η ρ κ σ) (o : StartOptions η) (runtime : Option (Runtime ρ σ))
    (register : Option (InstanceId → EstateAct ρ κ σ Unit))
    (hh : ∀ b, ∀ hook ∈ o.hooks, ∀ id, id ≠ j → Keeps (Holds j f) (p.runHook b hook id))
    (hr : ∀ r ∈ register, ∀ id, Keeps (Holds j f) (r id)) :
    Keeps (Holds j f) (start p s o runtime register) := by
  refine .first (.fail _) fun _ => .bind (around_apart _) fun l => ?_
  refine .bind (establish_apart l o (hh l.backing)) fun id => ?_
  cases register with
  | none => exact .pure _
  | some r => exact .bind (hr r rfl id) fun _ => .pure _

end Apart

end Testbed
