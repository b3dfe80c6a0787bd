import Testbed.Proofs.Invariant

/-!
# Hooks as programs

A hook gets the new instance and does with it what anyone can do: it runs the operations on the
instance and its clones, reads their state, acts on the rest of the world, and handles faults as
it likes.
-/

namespace Testbed

set_option autoImplicit false

open Act

variable {η ρ κ σ α : Type}

/-- Runs an action and hands any fault of it over as a value, one that interrupts the program
included. -/
def Act.caught (x : Act σ α) : Act σ (Except Fault α) := fun s => (.ok (x s).1, (x s).2)

/-- The programs that a hook of an instance can be.  `K` says which actions on the rest of the
world are among them. -/
inductive HookProgram (b : Backing η ρ κ σ) (id : InstanceId)
    (K : {β : Type} → Act σ β → Prop) : {α : Type} → EstateAct ρ κ σ α → Prop
  | pure {α : Type} (a : α) : HookProgram b id K (Pure.pure a : EstateAct ρ κ σ α)
  | fail {α : Type} (e : Fault) : HookProgram b id K (Act.fail e : EstateAct ρ κ σ α)
  | around {α : Type} {x : Act σ α} : K x → HookProgram b id K (Estate.around x)
  | look {α : Type} (f : Family ρ κ → α) :
      HookProgram b id K (Estate.onFamily id (Act.read fun s => f s.1))
  | promote : HookProgram b id K (Estate.onFamily id (Testbed.promote b))
  | clone : HookProgram b id K (Estate.onFamily id (cloneTemplate b))
  | close : HookProgram b id K (Estate.onFamily id (closeInstance b))
  | closeClone (c : CloneId) : HookProgram b id K (Estate.onFamily id (Testbed.closeClone b c))
  | bind {α β : Type} {x : EstateAct ρ κ σ α} {f : α → EstateAct ρ κ σ β} : HookProgram b id K x →
      (∀ a, HookProgram b id K (f a)) → HookProgram b id K (x >>= f)
  | caught {α : Type} {x : EstateAct ρ κ σ α} : HookProgram b id K x →
      HookProgram b id K (Act.caught x)

/-- What the operations and the other actions of a hook keep is kept by the hook. -/
theorem HookProgram.keeps {b : Backing η ρ κ σ} {id : InstanceId}
    {K : {β : Type} → Act σ β → Prop} {I : σ → Prop} (hb : b.Keeps I)
    (hK : ∀ {β : Type} {x : Act σ β}, K x → Keeps I x) {x : EstateAct ρ κ σ α}
    (h : HookProgram b id K x) : Keeps (I ∘ Estate.outside) x := by
  induction h with
  | pure a => exact .pure a
  | fail e => exact .fail e
  | around hx => exact around_keeps (hK hx)
  | look f => exact onFamily_keeps (.read _) id
  | promote => exact onFamily_keeps (promote_keeps hb.toKeepsClosing) id
  | clone => exact onFamily_keeps (cloneTemplate_keeps hb) id
  | close => exact onFamily_keeps (closeInstance_keeps hb.toKeepsClosing) id
  | closeClone c => exact onFamily_keeps (closeClone_keeps hb.serving c) id
  | bind _ _ hx hf => exact .bind hx hf
  | caught _ hx => exact hx

end Testbed
