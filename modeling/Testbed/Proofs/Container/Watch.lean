import Testbed.Container.Engine
import Testbed.Proofs.Calls
import Testbed.Proofs.Container.Board
import Testbed.Proofs.Invariant

/-!
# Engines under watch

An engine runs on a host of which nothing is known: its daemon, its clock and its threads may do
and answer anything.  What matters for the expiry of containers is noted.  Timers that are due go
off whenever time passes, each in a thread of its own, so that a fault there stays there.
-/

namespace Testbed

set_option autoImplicit false

open Act ExpiryBoard

variable {η κ σ τ α : Type}

/-- What a request to remove a container came to. -/
inductive RemovalEnd where
  | removed
  | gone
  | inProgress
  /-- The container is still there. -/
  | failed
  deriving DecidableEq

/-- A removal has failed unless the container is gone or going. -/
def RemovalEnd.of : Except Fault Unit → RemovalEnd
  | .ok _ => .removed
  | .error f =>
    if f.isContainerGone then .gone
    else if f.isDaemonReply && f.isRemovalInProgress then .inProgress
    else .failed

/-- What matters for the expiry of a container. -/
inductive Occurrence where
  | scheduled (key : ContainerKey) (done : Bool)
  | rang (key : ContainerKey)
  | removal (key : ContainerKey) (outcome : RemovalEnd)
  deriving DecidableEq

/-- The expiry board, and what happened so far. -/
structure Watch where
  history : List Occurrence := []
  board : ExpiryBoard := {}

/-- What an engine runs on. -/
structure Host (τ : Type) where
  hostname : String
  daemon : Daemon τ
  startTimer : Act τ Unit
  around : Surroundings τ
  /-- The container that a timer is for. -/
  containerOf : τ → Alarm → Container
  containerOf_id : ∀ t a, (containerOf t a).id = a.key.2

def Watch.noting (w : Watch) (o : Occurrence) : Watch := { w with history := w.history ++ [o] }

def Act.watched (x : Act (Watch × τ) α) (note : Except Fault α → Occurrence) :
    Act (Watch × τ) α := fun s =>
  match x s with
  | (r, (w, t)) => (r, (w.noting (note r), t))

/-- The watch right after a timer went off. -/
def Watch.rung (w : Watch) (a : Alarm) : Watch :=
  { w.noting (.rang a.key) with board := w.board.stop a.serial }

namespace Host

variable (h : Host τ)

def surroundingsWith (sleep : Num → Act (Watch × τ) Unit) : Surroundings (Watch × τ) :=
  { (h.around.beside : Surroundings (Watch × τ)) with
    clock := { now := fun s => h.around.clock.now s.2, sleep } }

def engineWith (sleep : Num → Act (Watch × τ) Unit) (number : Nat) : Engine (Watch × τ) where
  number := number
  hostname := h.hostname
  daemon := {
    ping := Act.outside h.daemon.ping
    run := fun spec => Act.outside (h.daemon.run spec)
    inspect := fun c => Act.outside (h.daemon.inspect c)
    remove := fun c => (Act.outside (h.daemon.remove c)).watched fun r =>
      .removal (number, c.id) (.of r)
    list := Act.outside h.daemon.list
    close := Act.outside h.daemon.close }
  board := { get := fun s => s.1.board, set := fun b s => ({ s.1 with board := b }, s.2) }
  startTimer seconds := do
    Act.outside h.startTimer
    Act.read fun s => dueAfter (h.around.clock.now s.2).toReal seconds
  around := h.surroundingsWith sleep

def ring (a : Alarm) : Act (Watch × τ) Unit := fun s =>
  let e := h.engineWith (fun n => Act.outside (h.around.clock.sleep n)) a.key.1
  (.ok (), (e.expire (h.containerOf s.2 a) (s.1.rung a, s.2)).2)

/-- The timers that are due go off, at most a given number of them. -/
def ringDue : Nat → Act (Watch × τ) Unit
  | 0 => pure ()
  | n + 1 => do
    let now ← Act.read fun s => (h.around.clock.now s.2).toReal
    match (← Act.read (·.1.board)).nextDue? now with
    | none => pure ()
    | some a =>
      h.ring a
      ringDue n

def pass (seconds : Num) : Act (Watch × τ) Unit := do
  Act.outside (h.around.clock.sleep seconds)
  let timers ← Act.read (·.1.board.armed.length)
  h.ringDue timers

def surroundings : Surroundings (Watch × τ) := h.surroundingsWith h.pass

def engine (number : Nat) : Engine (Watch × τ) := h.engineWith h.pass number

/-- The containers of an engine; how scheduling an expiry ended is noted. -/
def runtime (number : Nat) : Runtime Container (Watch × τ) :=
  { (h.engine number).runtime with
    scheduleExpiry := fun c n =>
      ((h.engine number).scheduleExpiry c n).watched fun r =>
        .scheduled (number, c.id) r.isOk }

end Host

/-! What is noted agrees with the board. -/

/-- Whether a container has its safeguard after one more occurrence. -/
def Occurrence.guards (key : ContainerKey) (before : Bool) : Occurrence → Bool
  | .scheduled k done => if k = key then done else before
  | .rang k => if k = key then false else before
  | .removal k _ => if k = key then false else before

namespace Watch

/-- A container has its safeguard when nothing happened to it since its expiry was scheduled. -/
def guarded (w : Watch) (key : ContainerKey) : Bool :=
  w.history.foldl (Occurrence.guards key) false

/-- The timers on the board are those of guarded containers. -/
structure Faithful (w : Watch) : Prop where
  board : w.board.WellFormed
  armed : ∀ k, w.board.Armed k ↔ w.guarded k = true

/-- The same while one container is being handled, for which no timer is running. -/
structure Handling (key : ContainerKey) (w : Watch) : Prop where
  board : w.board.WellFormed
  armed : ∀ k, k ≠ key → (w.board.Armed k ↔ w.guarded k = true)
  unarmed : ¬ w.board.Armed key

theorem guarded_noting (w : Watch) (o : Occurrence) (k : ContainerKey) :
    (w.noting o).guarded k = o.guards k (w.guarded k) := by
  simp only [guarded, noting, List.foldl_append, List.foldl_cons, List.foldl_nil]

theorem faithful_empty : Faithful {} :=
  ⟨wellFormed_empty, fun k => ⟨fun hk => absurd hk (not_armed_empty k), fun hk => by cases hk⟩⟩

/-- What is noted in the end settles the handling of a container. -/
theorem Handling.settle {key : ContainerKey} {w : Watch} (h : w.Handling key) {o : Occurrence}
    (hk : ∀ g, o.guards key g = false) (ho : ∀ k, k ≠ key → ∀ g, o.guards k g = g) :
    (w.noting o).Faithful where
  board := h.board
  armed k := by
    rw [guarded_noting]
    by_cases hkk : k = key
    · subst hkk
      rw [hk]
      exact ⟨fun ha => absurd ha h.unarmed, fun hf => by cases hf⟩
    · rw [ho k hkk]
      exact h.armed k hkk

end Watch

theorem outside_keeps_fst {P : Watch → Prop} (x : Act τ α) :
    Keeps (P ∘ Prod.fst) (Act.outside x : Act (Watch × τ) α) := by
  intro s hs
  exact hs

namespace Host

open Watch

variable {h : Host τ} {sleep : Num → Act (Watch × τ) Unit} {number : Nat} {c : Container}

/-- A removal of a container was tried on a watch, whatever came of it. -/
def Tried (key : ContainerKey) (w : Watch) (s : Watch × τ) : Prop :=
  ∃ outcome, s.1 = w.noting (.removal key outcome)

theorem remove_tried (w : Watch) : Leads (fun s => s.1 = w) (Tried (number, c.id) w)
    ((h.engineWith sleep number).daemon.remove c) := by
  intro s hs
  exact ⟨_, congrArg (Watch.noting · _) hs⟩

variable (h sleep number c) in
theorem expire_tried (s : Watch × τ) :
    Tried (number, c.id) { s.1 with board := s.1.board.unregister (number, c.id) }
      ((h.engineWith sleep number).expire c s).2 := by
  let w : Watch := { s.1 with board := s.1.board.unregister (number, c.id) }
  have removed : Leads (fun s => s.1 = w) (Tried (number, c.id) w)
      ((h.engineWith sleep number).daemon.remove c) := remove_tried w
  refine Leads.update (P := fun s' => s' = s) (Q := fun s => s.1 = w)
    (R := Tried (number, c.id) w) ?_ ?_ s rfl
  · rintro _ rfl
    rfl
  refine Leads.update (Q := fun s => s.1 = w) (fun _ hs => hs) ?_
  refine .bind removed.attempt fun r => ?_
  cases r with
  | ok _ => exact .pure _
  | error f => exact .ite (.pure _) (.ite (.update fun _ hs => hs) (.fail _))

variable (h sleep number c) in
theorem terminate_tried (s : Watch × τ) :
    Tried (number, c.id) { s.1 with board := s.1.board.cancel (number, c.id) }
      ((h.engineWith sleep number).terminate c s).2 := by
  let w : Watch := { s.1 with board := s.1.board.cancel (number, c.id) }
  have removed : Leads (fun s => s.1 = w) (Tried (number, c.id) w)
      ((h.engineWith sleep number).daemon.remove c) := remove_tried w
  refine Leads.update (P := fun s' => s' = s) (Q := fun s => s.1 = w)
    (R := Tried (number, c.id) w) ?_ ?_ s rfl
  · rintro _ rfl
    rfl
  · refine .bind (.bind removed.attempt fun r => ?_) fun r => ?_
    · cases r with
      | ok _ => exact .pure _
      | error f => exact .ite (.pure _) (.ite (.pure _) (.fail _))
    · cases r <;> exact .update fun _ hs => hs

/-- A removal settles the handling of a container. -/
theorem Handling.tried {key : ContainerKey} {w : Watch} (hw : w.Handling key) {s : Watch × τ}
    (ht : Tried key w s) : s.1.Faithful := by
  obtain ⟨outcome, ho⟩ := ht
  rw [ho]
  exact Watch.Handling.settle hw (fun g => if_pos rfl) fun k hk g => if_neg hk.symm

theorem Handling.unregister {key : ContainerKey} {w : Watch} (hw : w.Handling key) :
    Handling key { w with board := w.board.unregister key } where
  board := hw.board.unregister hw.unarmed
  armed := hw.armed
  unarmed := hw.unarmed

theorem terminate_keeps_faithful : Keeps (Faithful ∘ Prod.fst)
    ((h.engineWith sleep number).terminate c) := by
  intro s hs
  obtain ⟨hb, ha⟩ := hs.board.cancel (number, c.id)
  refine Handling.tried ⟨hb, fun k hk => ?_, fun hk => ((ha _).mp hk).1 rfl⟩ (terminate_tried h sleep number c s)
  exact ((ha k).trans (and_iff_right hk)).trans (hs.armed k)

/-- Whatever comes of it, terminating a container withdraws its expiry. -/
theorem terminate_board (s : Watch × τ) :
    ((h.engineWith sleep number).terminate c s).2.1.board = s.1.board.cancel (number, c.id) := by
  obtain ⟨outcome, ho⟩ := terminate_tried h sleep number c s
  rw [ho]
  rfl

/-- A timer that goes off is no longer running, and its container is handled. -/
theorem ring_faithful {a : Alarm} {s : Watch × τ} (hs : s.1.Faithful)
    (ha : a ∈ s.1.board.armed) : (h.ring a s).2.1.Faithful := by
  have hkey : (a.key.1, (h.containerOf s.2 a).id) = a.key := by rw [h.containerOf_id]
  have hstop := hs.board.armed_stop (hs.board.registered a ha)
  have handling : Handling a.key (s.1.rung a) := by
    refine ⟨hs.board.stop _, fun k hk => ?_, fun hk => ((hstop _).mp hk).1 rfl⟩
    have hg : (s.1.rung a).guarded k = s.1.guarded k :=
      (guarded_noting s.1 _ k).trans (if_neg hk.symm)
    rw [hg]
    exact ((hstop k).trans (and_iff_right hk)).trans (hs.armed k)
  rw [← hkey] at handling
  exact Handling.tried (Handling.unregister handling) (expire_tried _ _ _ _ (s.1.rung a, s.2))

theorem earlier_mem {l : List Alarm} {first : Option Alarm} {a : Alarm}
    (h : l.foldl earlier first = some a) : first = some a ∨ a ∈ l := by
  induction l generalizing first with
  | nil => exact .inl h
  | cons x l ih =>
    rcases ih h with hx | hx
    · unfold earlier at hx
      cases first with
      | none => exact .inr (List.mem_cons.mpr (.inl (Option.some.inj hx).symm))
      | some b =>
        dsimp only at hx
        split at hx
        · exact .inr (List.mem_cons.mpr (.inl (Option.some.inj hx).symm))
        · exact .inl hx
    · exact .inr (List.mem_cons_of_mem _ hx)

theorem nextDue?_mem {b : ExpiryBoard} {moment : Float} {a : Alarm}
    (h : b.nextDue? moment = some a) : a ∈ b.armed := by
  rcases earlier_mem h with hn | ha
  · cases hn
  · exact (List.mem_filter.mp ha).1

theorem ringDue_keeps (n : Nat) : Keeps (Faithful ∘ Prod.fst) (h.ringDue n) := by
  induction n with
  | zero => exact .pure _
  | succ n ih =>
    intro s hs
    change ((match s.1.board.nextDue? (h.around.clock.now s.2).toReal with
      | none => pure ()
      | some a => do h.ring a; h.ringDue n : Act (Watch × τ) Unit) s).2.1.Faithful
    cases hn : s.1.board.nextDue? (h.around.clock.now s.2).toReal with
    | none => exact hs
    | some a => exact ih _ (ring_faithful hs (nextDue?_mem hn))

theorem pass_keeps (seconds : Num) : Keeps (Faithful ∘ Prod.fst) (h.pass seconds) :=
  .bind (outside_keeps_fst _) fun _ => .bind (.read _) fun n => ringDue_keeps n

theorem findEndpoint_keeps (port : String) (n : Nat) :
    Keeps (Faithful ∘ Prod.fst) ((h.engine number).findEndpoint c port n) := by
  induction n with
  | zero => exact .fail _
  | succ n ih =>
    refine .bind (.attempt (outside_keeps_fst _)) fun r => ?_
    cases r with
    | error f => exact .ite (.fail _) (.fail _)
    | ok attributes =>
      refine .bind (.ofExcept _) fun ports => ?_
      cases ports with
      | nil => exact .bind (pass_keeps _) fun _ => ih
      | cons first _ => exact .pure _

theorem launch_keeps (spec : LaunchSpec) :
    Keeps (Faithful ∘ Prod.fst) ((h.engine number).launch spec) := by
  refine .bind (.update fun s hs => hs) fun _ => .bind (.read _) fun began => ?_
  refine .bind (outside_keeps_fst _) fun c => .bind (.read _) fun ended => ?_
  exact .bind (.ofExcept _) fun took => .bind (.update fun s hs => hs) fun _ => .pure _

theorem ping_keeps : Keeps (Faithful ∘ Prod.fst) (h.engine number).ping := by
  refine .bind (.attempt (outside_keeps_fst _)) fun r => ?_
  cases r with
  | ok _ => exact .pure _
  | error f => exact .ite (.fail _) (.fail _)

/-- Where the board stands once an expiry was scheduled or could not be. -/
theorem scheduleExpiry_board (number : Nat) (c : Container) (seconds : Num) (w : Watch) (t : τ) :
    ∃ r t' b, (h.engine number).scheduleExpiry c seconds (w, t) =
        (r, ({ w with board := b }, t')) ∧
      ((∃ e, r = .error e) ∧ b = w.board.register (number, c.id) ∨
        r = .ok () ∧ ∃ a : Alarm, a.key = (number, c.id) ∧
          a.serial = (w.board.register (number, c.id)).newest ∧
          b = (w.board.register (number, c.id)).arm a) := by
  have hstart : (h.engine number).scheduleExpiry c seconds (w, t) =
      (do let due ← (h.engine number).startTimer seconds
          (h.engine number).onBoard (·.arm {
            serial := (w.board.register (number, c.id)).newest, key := (number, c.id),
            label := "expire-" ++ c.name, due })
          (h.engine number).around.diary.debug .runtime
            s!"Container '{c.name}' expires in {Decimal.ofNum seconds}s.")
        ({ w with board := w.board.register (number, c.id) }, t) := rfl
  rw [hstart]
  rcases ht : h.startTimer t with ⟨e | ⟨⟩, t₁⟩
  · have hs : (h.engine number).startTimer seconds
        ({ w with board := w.board.register (number, c.id) }, t) = (.error e, _) :=
      bind_of_error (outside_of_eq _ ht)
    exact ⟨.error e, t₁, _, bind_of_error hs, .inl ⟨⟨e, rfl⟩, rfl⟩⟩
  · obtain ⟨due, hs⟩ : ∃ due, (h.engine number).startTimer seconds
        ({ w with board := w.board.register (number, c.id) }, t) = (.ok due, _) :=
      ⟨_, bind_of_ok (outside_of_eq _ ht)⟩
    rw [bind_of_ok hs]
    exact ⟨.ok (), _, _, rfl, .inr ⟨rfl, _, rfl, rfl, rfl⟩⟩

theorem scheduleExpiry_keeps (seconds : Num) :
    Keeps (Faithful ∘ Prod.fst) ((h.runtime number).scheduleExpiry c seconds) := by
  intro s hs
  obtain ⟨r, t', b, hx, hb⟩ := scheduleExpiry_board (h := h) number c seconds s.1 s.2
  obtain ⟨hw, ha⟩ := hs.board.register (number, c.id)
  have hn := registered?_register s.1.board (number, c.id)
  change (Act.watched ((h.engine number).scheduleExpiry c seconds) _ (s.1, s.2)).2.1.Faithful
  unfold Act.watched
  rw [hx]
  rcases hb with ⟨⟨e, rfl⟩, rfl⟩ | ⟨rfl, a, hk, hs', rfl⟩
  · have handling : Handling (number, c.id) { s.1 with board := s.1.board.register (number, c.id) } :=
      ⟨hw, fun k hk => ((ha k).trans (and_iff_right hk)).trans (hs.armed k),
        fun hk => ((ha _).mp hk).1 rfl⟩
    exact handling.settle (fun g => if_pos rfl) fun k hk g => if_neg hk.symm
  · obtain ⟨hw', ha'⟩ := hw.arm (a := a) (by rw [hk, hs']; exact hn)
    refine ⟨hw', fun k => (ha' k).trans ?_⟩
    change _ ↔ (s.1.noting (.scheduled (number, c.id) true)).guarded k = true
    rw [guarded_noting, Occurrence.guards, ha, hk]
    by_cases hkk : k = (number, c.id)
    · simp [hkk]
    · simpa [hkk, Ne.symm hkk] using hs.armed k

/-- What stands behind an instance whose container is on an engine of the host. -/
def backing (h : Host τ) (number : Nat) (s : Service η Container κ τ) :
    Backing η Container κ (Watch × τ) where
  service := s.beside
  runtime := h.runtime number
  around := h.surroundings

/-- Whatever is asked of an engine or a service, the board agrees with what was noted. -/
theorem backing_keeps (h : Host τ) (number : Nat) (s : Service η Container κ τ) :
    (h.backing number s).Keeps (Faithful ∘ Prod.fst) where
  closeClient _ := outside_keeps_fst _
  setTemplate _ _ := outside_keeps_fst _
  terminate _ := terminate_keeps_faithful
  close := outside_keeps_fst _
  write _ _ _ _ hs := hs
  launchSpec _ _ := outside_keeps_fst _
  connectTo _ := outside_keeps_fst _
  probe _ := outside_keeps_fst _
  createCopy _ _ := outside_keeps_fst _
  dropCopy _ := outside_keeps_fst _
  ping := ping_keeps
  launch := launch_keeps
  scheduleExpiry _ := scheduleExpiry_keeps
  endpoint _ port := findEndpoint_keeps port Engine.inspections
  sleep := pass_keeps
  stamp := outside_keeps_fst _

/-- The actions on the world that a hook can do: any that leaves the board alone, and waiting. -/
inductive Allows (h : Host τ) : {β : Type} → Act (Watch × τ) β → Prop
  | outside {β : Type} (x : Act τ β) : Allows h (Act.outside x)
  | pass (seconds : Num) : Allows h (h.pass seconds)

end Host

end Testbed
