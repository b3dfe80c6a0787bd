import Testbed.Proofs.Container.Watch
import Testbed.Proofs.Hooks

/-!
# The expiry safeguard

Every container whose expiry was scheduled has a running timer until the timer goes off or a
removal of the container is tried.  A removal that is tried and fails leaves the container there
without its safeguard.
-/

namespace Testbed

set_option autoImplicit false

open Act ExpiryBoard

variable {η κ τ : Type}

/-! What follows from what was noted. -/

/-- While a container is neither scheduled again nor expired, only a removal takes its safeguard
away. -/
theorem guards_foldl {key : ContainerKey} {l : List Occurrence} (g : Bool)
    (hs : ∀ r, .scheduled key r ∉ l) (hr : .rang key ∉ l) :
    l.foldl (Occurrence.guards key) g = true ↔ g = true ∧ ∀ r, .removal key r ∉ l := by
  induction l generalizing g with
  | nil => simp
  | cons o l ih =>
    have ih' := fun g => ih g (fun r h => hs r (List.mem_cons_of_mem _ h))
      (fun h => hr (List.mem_cons_of_mem _ h))
    rw [List.foldl_cons, ih']
    cases o with
    | scheduled k r =>
      have hk : k ≠ key := by
        rintro rfl
        exact hs r List.mem_cons_self
      simp [Occurrence.guards, hk]
    | rang k =>
      have hk : k ≠ key := by
        rintro rfl
        exact hr List.mem_cons_self
      simp [Occurrence.guards, hk]
    | removal k r =>
      by_cases hk : k = key
      · rw [show Occurrence.guards key g (.removal k r) = false from if_pos hk]
        exact ⟨fun h => absurd h.1 Bool.false_ne_true,
          fun h => absurd (hk ▸ List.mem_cons_self) (h.2 r)⟩
      · simp [Occurrence.guards, hk, Ne.symm hk]

/-- A container that needs its safeguard: its expiry was scheduled, its timer did not go off, and
nothing has removed it.  `after` is what happened since it was scheduled last. -/
structure Watch.Needs (w : Watch) (key : ContainerKey) (after : List Occurrence) : Prop where
  scheduled : ∃ before, w.history = before ++ .scheduled key true :: after
  latest : ∀ r, .scheduled key r ∉ after
  silent : .rang key ∉ after
  present : ∀ r, .removal key r ∈ after → r = .failed

theorem Watch.Faithful.armed_iff {w : Watch} (h : w.Faithful) {key : ContainerKey}
    {after : List Occurrence} (hk : w.Needs key after) :
    w.board.Armed key ↔ ∀ r, .removal key r ∉ after := by
  obtain ⟨before, hb⟩ := hk.scheduled
  rw [h.armed, Watch.guarded, hb, List.foldl_append, List.foldl_cons,
    guards_foldl _ hk.latest hk.silent]
  exact and_iff_right (if_pos rfl)

/-! Runs on one engine. -/

/-- What can be done on an engine: an instance of some service is started, something is done with
an instance or one of its clones, or time passes. -/
inductive Move (η κ τ : Type) where
  | start (s : Service η Container κ τ) (o : StartOptions η)
      (register : Option (InstanceId → Act τ Unit))
  | promote (s : Service η Container κ τ) (id : InstanceId)
  | clone (s : Service η Container κ τ) (id : InstanceId)
  | close (s : Service η Container κ τ) (id : InstanceId)
  | closeClone (s : Service η Container κ τ) (id : InstanceId) (c : CloneId)
  | advance (seconds : Num)

namespace Host

variable (h : Host τ) (number : Nat)

/-- Time passes as it does on the host, and hooks are programs. -/
structure Serves (p : Provisioner η Container κ (Watch × τ)) : Prop where
  around : p.around = h.surroundings
  hooks : ∀ s hook id, HookProgram (h.backing number s) id h.Allows
    (p.runHook (h.backing number s) hook id)

/-- Makes a move; its fault is up to whoever made it. -/
def perform (p : Provisioner η Container κ (Watch × τ)) :
    Move η κ τ → EstateAct Container κ (Watch × τ) Unit
  | .start s o register => do
    let _ ← start p s.beside o (some (h.runtime number))
      (register.map fun f id => Estate.around (Act.outside (f id)))
  | .promote s id => Estate.onFamily id (promote (h.backing number s))
  | .clone s id => do
    let _ ← Estate.onFamily id (cloneTemplate (h.backing number s))
  | .close s id => Estate.onFamily id (closeInstance (h.backing number s))
  | .closeClone s id c => Estate.onFamily id (closeClone (h.backing number s) c)
  | .advance seconds => Estate.around (h.pass seconds)

def watchAfter (p : Provisioner η Container κ (Watch × τ)) (moves : List (Move η κ τ)) (t : τ) :
    Watch :=
  (moves.foldl (fun st m => (h.perform number p m st).2)
    { families := [], outside := ({}, t) }).outside.1

variable {h number} {p : Provisioner η Container κ (Watch × τ)}

open Watch

theorem perform_keeps (hp : h.Serves number p) (m : Move η κ τ) :
    Keeps ((Faithful ∘ Prod.fst) ∘ Estate.outside) (h.perform number p m) := by
  have hb : ∀ s : Service η Container κ τ, (h.backing number s).Keeps (Faithful ∘ Prod.fst) :=
    h.backing_keeps number
  cases m with
  | start s o register =>
    refine .bind (start_keeps (I := Faithful ∘ Prod.fst) ?_ o _ ?_ ?_) fun _ => .pure _
    · rw [hp.around]
      exact hb s
    · intro hook _ id
      rw [hp.around]
      refine (hp.hooks s hook id).keeps (hb s) fun hx => ?_
      cases hx with
      | outside x => exact outside_keeps_fst x
      | pass n => exact pass_keeps n
    · intro f hf id
      rw [Option.mem_def, Option.map_eq_some_iff] at hf
      obtain ⟨g, -, rfl⟩ := hf
      exact around_keeps (outside_keeps_fst _)
  | promote s id => exact onFamily_keeps (promote_keeps (hb s).toKeepsClosing) id
  | clone s id => exact .bind (onFamily_keeps (cloneTemplate_keeps (hb s)) id) fun _ => .pure _
  | close s id => exact onFamily_keeps (closeInstance_keeps (hb s).toKeepsClosing) id
  | closeClone s id c => exact onFamily_keeps (closeClone_keeps (hb s).serving c) id
  | advance seconds => exact around_keeps (pass_keeps seconds)

theorem watchAfter_faithful (hp : h.Serves number p) (moves : List (Move η κ τ)) (t : τ) :
    (h.watchAfter number p moves t).Faithful := by
  have run : ∀ st : Estate Container κ (Watch × τ), st.outside.1.Faithful →
      (moves.foldl (fun st m => (h.perform number p m st).2) st).outside.1.Faithful := by
    induction moves with
    | nil => exact fun st hst => hst
    | cons m moves ih => exact fun st hst => ih _ (perform_keeps hp m st hst)
  exact run _ faithful_empty

end Host

/-- After every run of moves, with any outcome of every request to the daemon: a container that
needs its safeguard has a running timer exactly when no removal of it was tried since its expiry
was scheduled.  When a removal was tried and failed, the timer is gone.  A timer is running from its
start until it is stopped or goes off, and `dueAfter` says when that is: one that was given more
than `longestWait` runs on and on. -/
theorem safeguard_until_removal (h : Host τ) (number : Nat)
    (p : Provisioner η Container κ (Watch × τ)) (hp : h.Serves number p)
    (moves : List (Move η κ τ)) (t : τ) (key : ContainerKey) (after : List Occurrence)
    (hk : (h.watchAfter number p moves t).Needs key after) :
    (h.watchAfter number p moves t).board.Armed key ↔ ∀ r, .removal key r ∉ after :=
  (Host.watchAfter_faithful hp moves t).armed_iff hk

/-- A daemon that answers every request but removals. -/
def Host.stubborn : Host Unit where
  hostname := "localhost"
  daemon := {
    ping := pure ()
    run := fun spec => pure { id := "orders", name := spec.name }
    inspect := fun _ => pure (.dict [("NetworkSettings", .dict [("Ports", .dict
      [("5432/tcp", .list [.dict [("HostPort", .text "49153")]])])])])
    remove := fun _ => Act.raise (.daemon .api "daemon is busy" none none)
    list := pure []
    close := pure () }
  startTimer := pure ()
  around := {
    clock := { now := fun _ => .real 0, sleep := fun _ => pure () }
    date := fun _ => .real 0
    stamp := pure 0
    diary := { write := fun _ _ _ t => t } }
  containerOf _ a := { id := a.key.2, name := a.label }
  containerOf_id _ _ := rfl

/-- A service without templates that is ready at once. -/
def Service.ready : Service Unit Container Unit Unit where
  containerPort := "5432/tcp"
  defaultLogicalName := "orders"
  launchSpec name _ := pure { name, image := "postgres", ports := ["5432/tcp"] }
  connectTo _ := pure ()
  probe _ := pure ()
  closeClient _ := pure ()
  isTransient _ := true
  connectionInfo _ := .ok { host := "localhost", port := 49153 }
  setTemplate _ _ := Act.fail (Service.noTemplates "")
  createCopy _ _ := Act.fail (Service.noTemplates "")
  dropCopy _ := Act.fail (Service.noTemplates "")

def Host.plain (h : Host τ) : Provisioner Unit Container Unit (Watch × τ) where
  around := h.surroundings
  newRuntime := pure (h.runtime 0)
  runHook _ _ _ := pure ()
  hookLabel _ := ""
  pollInterval := .real 1
  maxBackoff := .real 1
  furtherProbes := 10

theorem Host.plain_serves (h : Host τ) (number : Nat) : h.Serves number h.plain :=
  ⟨rfl, fun _ _ _ => .pure ()⟩

/-- An instance that is never ready, for good. -/
def Service.broken : Service Unit Container Unit Unit :=
  { Service.ready with
    probe := fun _ => Act.raise (.host .badState "not a server")
    isTransient := fun _ => false }

def StartOptions.brief : StartOptions Unit := { timeout := .real 30 }

def Host.stubbornly (moves : List (Move Unit Unit Unit)) : Watch :=
  Host.stubborn.watchAfter 0 Host.stubborn.plain moves ()

theorem safeguard_of_open_instance :
    (Host.stubbornly [.start .ready .brief none]).board.Armed (0, "orders") := by
  have hh : (Host.stubbornly [.start .ready .brief none]).history =
      [.scheduled (0, "orders") true] := by decide +kernel
  exact (safeguard_until_removal Host.stubborn 0 _ (Host.stubborn.plain_serves 0) _ () _ []
    ⟨⟨[], hh⟩, by simp, by simp, by simp⟩).mpr (by simp)

/-- A close and a failed start that could not remove their containers have taken the timers of
the containers away. -/
theorem safeguard_lost :
    (∃ after, (Host.stubbornly [.start .ready .brief none, .close .ready 0]).Needs
        (0, "orders") after ∧
      ¬ (Host.stubbornly [.start .ready .brief none, .close .ready 0]).board.Armed
        (0, "orders")) ∧
    ∃ after, (Host.stubbornly [.start .broken .brief none]).Needs (0, "orders") after ∧
      ¬ (Host.stubbornly [.start .broken .brief none]).board.Armed (0, "orders") := by
  have lost : ∀ {w : Watch}, w.history =
      [.scheduled (0, "orders") true, .removal (0, "orders") .failed] →
      w.board.armed.length = 0 →
      ∃ after, w.Needs (0, "orders") after ∧ ¬ w.board.Armed (0, "orders") := by
    intro w hh ha
    refine ⟨[.removal (0, "orders") .failed], ⟨⟨[], hh⟩, by simp, by simp, by simp⟩, ?_⟩
    rintro ⟨a, hm, -⟩
    rw [List.length_eq_zero_iff.mp ha] at hm
    cases hm
  exact ⟨lost (by decide +kernel) (by decide +kernel),
    lost (by decide +kernel) (by decide +kernel)⟩

end Testbed
