import Testbed.Fault.Classify

/-!
# Actions

An action changes a state and then either returns or raises a fault; the changes made before a
fault are kept.  All collaborators of the library are actions on an abstract state, so what is
said of the library holds for every outcome of every collaborator.
-/

namespace Testbed

set_option autoImplicit false

/-- A change of state that returns a value or raises a fault. -/
def Act (σ α : Type) : Type := σ → Except Fault α × σ

namespace Act

variable {σ τ α β : Type}

instance : Monad (Act σ) where
  pure a := fun s => (.ok a, s)
  bind x f := fun s =>
    match x s with
    | (.ok a, s') => f a s'
    | (.error e, s') => (.error e, s')

def fail (f : Fault) : Act σ α := fun s => (.error f, s)

def raise (i : Incident) : Act σ α := fail (Fault.of i)

def read (f : σ → α) : Act σ α := fun s => (.ok (f s), s)

def update (f : σ → σ) : Act σ Unit := fun s => (.ok (), f s)

/-- A result that is known without touching the state. -/
def ofExcept : Except Fault α → Act σ α
  | .ok a => pure a
  | .error e => fail e

/-- Runs an action and hands its ordinary fault over as a value.  Faults that interrupt the
program pass through. -/
def attempt (x : Act σ α) : Act σ (Except Fault α) := fun s =>
  match x s with
  | (.ok a, s') => (.ok (.ok a), s')
  | (.error e, s') => if e.isOrdinary then (.ok (.error e), s') else (.error e, s')

/-- Runs an action; its ordinary fault becomes the cause of a new incident. -/
def orRaise (x : Act σ α) (wrap : Fault → Incident) : Act σ α := do
  match ← attempt x with
  | .ok a => pure a
  | .error e => fail (Fault.raisedFrom (wrap e) e)

/-- Runs an action and, after any fault, a second one.  The fault of the first is raised again
unless the second raises its own. -/
def onFault (x : Act σ α) (after : Act σ Unit) : Act σ α := fun s =>
  match x s with
  | (.ok a, s') => (.ok a, s')
  | (.error e, s') =>
    match after s' with
    | (.ok _, s'') => (.error e, s'')
    | (.error e', s'') => (.error e', s'')

/-- Runs an action and then always a second one; a fault of the second takes precedence. -/
def always (x : Act σ α) (after : Act σ Unit) : Act σ α := do
  let a ← onFault x after
  after
  pure a

def outside (x : Act τ α) : Act (σ × τ) α := fun s =>
  match x s.2 with
  | (r, t) => (r, (s.1, t))

@[simp]
theorem pure_apply (a : α) (s : σ) : (pure a : Act σ α) s = (.ok a, s) := rfl

theorem bind_of_ok {x : Act σ α} {f : α → Act σ β} {s s' : σ} {a : α}
    (h : x s = (.ok a, s')) : (x >>= f) s = f a s' := by
  simp only [bind, h]

theorem bind_of_error {x : Act σ α} {f : α → Act σ β} {s s' : σ} {e : Fault}
    (h : x s = (.error e, s')) : (x >>= f) s = (.error e, s') := by
  simp only [bind, h]

theorem attempt_of_ok {x : Act σ α} {s s' : σ} {a : α} (h : x s = (.ok a, s')) :
    attempt x s = (.ok (.ok a), s') := by
  simp only [attempt, h]

theorem attempt_of_error {x : Act σ α} {s s' : σ} {e : Fault} (h : x s = (.error e, s')) :
    attempt x s = (if e.isOrdinary then (.ok (.error e), s') else (.error e, s')) := by
  simp only [attempt, h]

/-- An action that does not fail needs no second one. -/
theorem onFault_of_ok {x : Act σ α} {after : Act σ Unit} {s s' : σ} {a : α}
    (h : x s = (.ok a, s')) : onFault x after s = (.ok a, s') := by
  simp only [onFault, h]

end Act

/-- A part of a state: what was written is read back, and writing twice is writing once. -/
structure Slot (σ α : Type) where
  get : σ → α
  set : α → σ → σ
  get_set : ∀ a s, get (set a s) = a := by intros; rfl
  set_set : ∀ a b s, set a (set b s) = set a s := by intros; rfl

end Testbed
