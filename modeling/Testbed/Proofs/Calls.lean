import Testbed.Provision

/-!
# Calls of collaborators

The services and the runtime behind instances can be recorded: every call is noted together with
how it ended, and nothing else is changed.  What is proved of recorded collaborators holds for
every sequence of outcomes, since the collaborators and the state they act on are arbitrary.
-/

namespace Testbed

set_option autoImplicit false

variable {η ρ κ σ τ N α β : Type}

/-- One call of a collaborator, with how it ended. -/
inductive Call (ρ κ : Type) where
  | ping (result : Except Fault Unit)
  | launch (spec : LaunchSpec) (result : Except Fault ρ)
  | scheduleExpiry (container : ρ) (seconds : Num) (result : Except Fault Unit)
  | endpoint (container : ρ) (port : String) (result : Except Fault String)
  | terminate (container : ρ) (result : Except Fault Unit)
  | closeRuntime (result : Except Fault Unit)
  | launchSpec (name : String) (result : Except Fault LaunchSpec)
  | connect (info : ConnectionInfo) (result : Except Fault κ)
  | probe (client : Option κ) (result : Except Fault Unit)
  | closeClient (client : κ) (result : Except Fault Unit)
  | setTemplate (handle : Handle ρ κ) (flag : Bool) (result : Except Fault Unit)
  | createCopy (handle : Handle ρ κ) (name : String) (result : Except Fault Unit)
  | dropCopy (info : ConnectionInfo) (result : Except Fault Unit)

namespace Act

/-- An action on the second part of a state, noted on the list in the first part. -/
def noted (x : Act σ α) (note : Except Fault α → N) : Act (List N × σ) α := fun s =>
  match x s.2 with
  | (r, t) => (r, (s.1 ++ [note r], t))

theorem bind_apply (x : Act σ α) (f : α → Act σ β) (s : σ) :
    (x >>= f) s = match x s with
      | (.ok a, s') => f a s'
      | (.error e, s') => (.error e, s') := rfl

theorem read_bind (g : σ → α) (f : α → Act σ β) (s : σ) : (read g >>= f) s = f (g s) s := rfl

theorem ofExcept_apply (r : Except Fault α) (s : σ) : ofExcept r s = (r, s) := by cases r <;> rfl

theorem ok_bind (a : α) (f : α → Except Fault β) : (Except.ok a >>= f) = f a := rfl

/-- The fault that is raised in the place of another one: an ordinary fault becomes the cause of a
new incident, and an interruption passes through. -/
def wrapped (wrap : Fault → Incident) (e : Fault) : Fault :=
  if e.isOrdinary then Fault.raisedFrom (wrap e) e else e

theorem orRaise_apply (x : Act σ α) (wrap : Fault → Incident) (s : σ) :
    orRaise x wrap s = match x s with
      | (.ok a, s') => (.ok a, s')
      | (.error e, s') => (.error (wrapped wrap e), s') := by
  simp only [orRaise, bind_apply, attempt, wrapped]
  rcases x s with ⟨e | a, s'⟩
  · by_cases he : e.isOrdinary
    · simp only [he, if_true, fail]
    · simp only [he, if_false, Bool.false_eq_true]
  · rfl

theorem noted_of_eq {x : Act σ α} {s s' : σ} {r : Except Fault α} (note : Except Fault α → N)
    (l : List N) (h : x s = (r, s')) : noted x note (l, s) = (r, (l ++ [note r], s')) := by
  simp only [noted, h]

theorem orRaise_of_ok {x : Act σ α} {s s' : σ} {a : α} (wrap : Fault → Incident)
    (h : x s = (.ok a, s')) : orRaise x wrap s = (.ok a, s') := by
  rw [orRaise_apply, h]

theorem orRaise_of_error {x : Act σ α} {s s' : σ} {e : Fault} (wrap : Fault → Incident)
    (h : x s = (.error e, s')) : orRaise x wrap s = (.error (wrapped wrap e), s') := by
  rw [orRaise_apply, h]

theorem outside_of_eq {x : Act τ α} {t t' : τ} {r : Except Fault α} (s : σ)
    (h : x t = (r, t')) : outside x (s, t) = (r, (s, t')) := by
  simp only [outside, h]

theorem noted_result {x : Act σ α} {note : Except Fault α → N} {o o' : List N × σ}
    {r : Except Fault α} (h : x.noted note o = (r, o')) : x o.2 = (r, o'.2) := by
  rw [← (Prod.mk.inj h).1, ← (Prod.mk.inj h).2]

theorem noted_list {x : Act σ α} {note : Except Fault α → N} {o o' : List N × σ}
    {r : Except Fault α} (h : x.noted note o = (r, o')) : o'.1 = o.1 ++ [note r] := by
  rw [← (Prod.mk.inj h).1, ← (Prod.mk.inj h).2]

theorem outside_result {x : Act σ α} {o o' : N × σ} {r : Except Fault α}
    (h : outside x o = (r, o')) : x o.2 = (r, o'.2) := by
  rw [← (Prod.mk.inj h).1, ← (Prod.mk.inj h).2]

theorem attempt_of_ordinary {x : Act σ α} {s s' : σ} {e : Fault} (h : x s = (.error e, s'))
    (he : e.isOrdinary = true) : attempt x s = (.ok (.error e), s') := by
  rw [attempt_of_error h, if_pos he]

theorem attempt_of_interruption {x : Act σ α} {s s' : σ} {e : Fault} (h : x s = (.error e, s'))
    (he : e.isOrdinary = false) : attempt x s = (.error e, s') := by
  rw [attempt_of_error h, he, if_neg Bool.false_ne_true]

end Act

/-! Collaborators that act on the second part of a state. -/

def Clock.beside (c : Clock τ σ) : Clock τ (N × σ) where
  now s := c.now s.2
  sleep n := Act.outside (c.sleep n)

def Diary.beside (d : Diary σ) : Diary (N × σ) where
  write level topic text s := (s.1, d.write level topic text s.2)

def Surroundings.beside (a : Surroundings σ) : Surroundings (N × σ) where
  clock := a.clock.beside
  date s := a.date s.2
  stamp := Act.outside a.stamp
  diary := a.diary.beside

def Runtime.beside (r : Runtime ρ σ) : Runtime ρ (N × σ) where
  ping := Act.outside r.ping
  launch spec := Act.outside (r.launch spec)
  scheduleExpiry c n := Act.outside (r.scheduleExpiry c n)
  endpoint c port := Act.outside (r.endpoint c port)
  terminate c := Act.outside (r.terminate c)
  close := Act.outside r.close

def Service.beside (s : Service η ρ κ σ) : Service η ρ κ (N × σ) where
  name := s.name
  containerPort := s.containerPort
  defaultLogicalName := s.defaultLogicalName
  supportsTemplates := s.supportsTemplates
  launchSpec name o := Act.outside (s.launchSpec name o)
  connectTo info := Act.outside (s.connectTo info)
  probe c := Act.outside (s.probe c)
  closeClient c := Act.outside (s.closeClient c)
  isTransient := s.isTransient
  connectionInfo := s.connectionInfo
  setTemplate h flag := Act.outside (s.setTemplate h flag)
  createCopy h name := Act.outside (s.createCopy h name)
  dropCopy info := Act.outside (s.dropCopy info)

/-! Collaborators whose calls are noted. -/

/-- The state of recorded collaborators: the calls made so far, and their own state. -/
abbrev Recorded (ρ κ σ : Type) := List (Call ρ κ) × σ

def Runtime.recorded (r : Runtime ρ σ) : Runtime ρ (Recorded ρ κ σ) where
  ping := r.ping.noted .ping
  launch spec := (r.launch spec).noted (.launch spec)
  scheduleExpiry c n := (r.scheduleExpiry c n).noted (.scheduleExpiry c n)
  endpoint c port := (r.endpoint c port).noted (.endpoint c port)
  terminate c := (r.terminate c).noted (.terminate c)
  close := r.close.noted .closeRuntime

def Service.recorded (s : Service η ρ κ σ) : Service η ρ κ (Recorded ρ κ σ) where
  name := s.name
  containerPort := s.containerPort
  defaultLogicalName := s.defaultLogicalName
  supportsTemplates := s.supportsTemplates
  launchSpec name o := (s.launchSpec name o).noted (.launchSpec name)
  connectTo info := (s.connectTo info).noted (.connect info)
  probe c := (s.probe c).noted (.probe c)
  closeClient c := (s.closeClient c).noted (.closeClient c)
  isTransient := s.isTransient
  connectionInfo := s.connectionInfo
  setTemplate h flag := (s.setTemplate h flag).noted (.setTemplate h flag)
  createCopy h name := (s.createCopy h name).noted (.createCopy h name)
  dropCopy info := (s.dropCopy info).noted (.dropCopy info)

def Backing.recorded (b : Backing η ρ κ σ) : Backing η ρ κ (Recorded ρ κ σ) where
  service := b.service.recorded
  runtime := b.runtime.recorded
  around := b.around.beside

theorem newName_beside (a : Surroundings σ) (start : String) {s s' : σ} {r : Except Fault String}
    (l : List (Call ρ κ)) (h : a.newName start s = (r, s')) :
    (a.beside : Surroundings (Recorded ρ κ σ)).newName start (l, s) = (r, (l, s')) := by
  rw [Surroundings.newName] at h ⊢
  rcases ha : a.stamp s with ⟨e | n, s₁⟩
  · rw [Act.bind_of_error ha] at h
    cases h
    exact Act.bind_of_error (Act.outside_of_eq l ha)
  · rw [Act.bind_of_ok ha] at h
    cases h
    exact Act.bind_of_ok (Act.outside_of_eq l ha)

end Testbed
