import Testbed.Proofs.Invariant
import Testbed.Proofs.Journal.Records
import Testbed.Session

/-!
# Setup failures of a worker

Tests ask for instances one after the other, and other notes are written to the journal in between.
What is read from the journal in the end are the failures of the calls that raised a setup fault,
one for each and in order.
-/

namespace Testbed

set_option autoImplicit false

open Act

variable {η ρ κ σ : Type}

/-- What the tests of a worker share. -/
structure Fixture (η ρ κ σ : Type) where
  provisioner : Provisioner η ρ κ σ
  runtime : Runtime ρ σ
  journal : JournalAccess σ
  /-- The timeout of a start that is given none. -/
  standard : Num

/-- A call by which a test asks for an instance. -/
structure FixtureCall (η ρ κ σ : Type) where
  testId : String
  service : Service η ρ κ σ
  options : Option (StartOptions η) := none
  fields : OptionFields η := {}
  register : InstanceId → EstateAct ρ κ σ Unit

/-- What is done next in a worker: a test asks for an instance, or a note is written. -/
inductive FixtureMove (η ρ κ σ : Type) where
  | call (c : FixtureCall η ρ κ σ)
  | note (text : String)

def FixtureCall.perform (c : FixtureCall η ρ κ σ) (w : Fixture η ρ κ σ) :
    EstateAct ρ κ σ InstanceId := do
  let o ← Act.ofExcept (StartOptions.choose w.standard c.options c.fields)
  startForTest w.provisioner w.journal c.testId c.service o (some w.runtime) c.register

/-- The failure of a call that raised a setup fault. -/
def FixtureCall.failure? (c : FixtureCall η ρ κ σ) : Except Fault InstanceId → Option SetupFailure
  | .ok _ => none
  | .error f =>
    match f.head with
    | .setup _ stage _ => some (SetupFailure.make c.testId c.service.name stage.label f.message)
    | _ => none

namespace Fixture

def after (w : Fixture η ρ κ σ) (st : Estate ρ κ σ) : FixtureMove η ρ κ σ → Estate ρ κ σ
  | .call c => (c.perform w st).2
  | .note text => (Estate.around (w.journal.write .info text) st).2

def run (w : Fixture η ρ κ σ) (st : Estate ρ κ σ) (moves : List (FixtureMove η ρ κ σ)) :
    Estate ρ κ σ := moves.foldl w.after st

def failure? (w : Fixture η ρ κ σ) (st : Estate ρ κ σ) :
    FixtureMove η ρ κ σ → Option SetupFailure
  | .call c => c.failure? (c.perform w st).1
  | .note _ => none

/-- The failures of all calls that raised a setup fault, in order. -/
def setupFailures (w : Fixture η ρ κ σ) :
    Estate ρ κ σ → List (FixtureMove η ρ κ σ) → List SetupFailure
  | _, [] => []
  | st, m :: moves => (w.failure? st m).toList ++ w.setupFailures (w.after st m) moves

/-- The journal is there, all its lines are ended, and these are the failures in it. -/
def Shows (w : Fixture η ρ κ σ) (st : Estate ρ κ σ) (read : List SetupFailure) : Prop :=
  ∃ j, w.journal.slot.get st.outside = some j ∧ Text.Ended j.text.toList ∧ j.failures = read

def Dated (w : Fixture η ρ κ σ) : Prop :=
  ∀ s, ∃ date, dateOf? (w.journal.date s).toReal = .ok (some date)

end Fixture

/-- A call whose service, hooks and registration leave the journal alone. -/
structure FixtureCall.Discreet (c : FixtureCall η ρ κ σ) (w : Fixture η ρ κ σ) : Prop where
  backing : ∀ j, Backing.Keeps ⟨c.service, w.runtime, w.provisioner.around⟩ fun s =>
    w.journal.slot.get s = j
  hooks : ∀ j hook id, Keeps ((fun s => w.journal.slot.get s = j) ∘ Estate.outside)
    (w.provisioner.runHook ⟨c.service, w.runtime, w.provisioner.around⟩ hook id)
  register : ∀ j id, Keeps ((fun s => w.journal.slot.get s = j) ∘ Estate.outside) (c.register id)

inductive FixtureMove.Orderly (w : Fixture η ρ κ σ) : FixtureMove η ρ κ σ → Prop
  | call {c : FixtureCall η ρ κ σ} (h : c.Discreet w) : Orderly w (.call c)
  | note {text : String} (h : ¬ (SetupFailure.tag ++ SetupFailure.bar).toList <:+: text.toList) :
    Orderly w (.note text)

section Moves

variable {w : Fixture η ρ κ σ} {c : FixtureCall η ρ κ σ} {st : Estate ρ κ σ} {j : Journal}

theorem JournalAccess.journal_ok {a : JournalAccess σ} {s : σ} (hj : a.slot.get s = some j) :
    a.journal s = (.ok j, s) := by
  rw [journal, read_bind, hj]
  rfl

theorem JournalAccess.write_ok {a : JournalAccess σ} {s : σ} {level : Level} {entry : String}
    {j' : Journal} (hj : a.slot.get s = some j)
    (hw : j.write (a.date s).toReal level entry = .ok j') :
    a.write level entry s = (.ok (), a.slot.set (some j') s) := by
  rw [write, bind_of_ok (journal_ok hj), read_bind, hw]
  rfl

theorem Fixture.around_write {level : Level} {entry : String} {j' : Journal}
    (hj : w.journal.slot.get st.outside = some j)
    (hw : j.write (w.journal.date st.outside).toReal level entry = .ok j') :
    Estate.around (w.journal.write level entry) st =
      (.ok (), { st with outside := w.journal.slot.set (some j') st.outside }) := by
  rw [Estate.around, JournalAccess.write_ok hj hw]

theorem FixtureCall.failure?_of_checkTimeout {t : Option Num} {e : Fault}
    (h : StartOptions.checkTimeout t = .error e) : c.failure? (.error e) = none := by
  cases t with
  | none =>
    cases h
    rfl
  | some t =>
    rw [StartOptions.checkTimeout] at h
    split at h <;> cases h
    rfl

/-- Options that cannot be used are no setup fault. -/
theorem FixtureCall.failure?_of_choose {o : Option (StartOptions η)} {fields : OptionFields η}
    {standard : Num} {e : Fault} (h : StartOptions.choose standard o fields = .error e) :
    c.failure? (.error e) = none := by
  cases o with
  | some o =>
    rw [StartOptions.choose] at h
    split at h <;> cases h
    rfl
  | none =>
    rw [StartOptions.choose, StartOptions.ofFields?] at h
    split at h
    · cases h
      rfl
    · rcases ht : StartOptions.checkTimeout (fields.timeout.getD (some standard)) with e' | t <;>
        rw [ht] at h
      · cases h
        exact failure?_of_checkTimeout ht
      · cases hh : fields.hooks.getD (some []) with
        | none =>
          rw [hh] at h
          cases h
          rfl
        | some hooks =>
          rw [hh] at h
          cases h

theorem FixtureCall.failure?_message {r : Except Fault InstanceId} {f : SetupFailure}
    (h : c.failure? r = some f) : Text.OneLine f.message.toList := by
  cases r with
  | ok id => cases h
  | error e =>
    rw [failure?] at h
    split at h <;> cases h
    exact SetupFailure.collapse_oneLine _

theorem FixtureCall.start_journal (hc : c.Discreet w) (o : StartOptions η)
    (hj : w.journal.slot.get st.outside = some j) :
    w.journal.slot.get (start w.provisioner c.service o (some w.runtime) (some c.register)
      st).2.outside = some j := by
  refine start_keeps (hc.backing (some j)) o (some c.register) (fun hook _ id => ?_)
    (fun f hf id => ?_) st hj
  · exact hc.hooks (some j) hook id
  · cases hf
    exact hc.register (some j) id

/-- A call returns or raises what the start did; a setup fault is recorded before. -/
theorem FixtureCall.perform_of_start {o : StartOptions η} {r : Except Fault InstanceId}
    {st₁ : Estate ρ κ σ} (ho : StartOptions.choose w.standard c.options c.fields = .ok o)
    (hs : start w.provisioner c.service o (some w.runtime) (some c.register) st = (r, st₁)) :
    c.perform w st = match c.failure? r with
      | none => (r, st₁)
      | some f =>
        (Estate.around (w.journal.write .error f.record) >>= fun _ => Act.ofExcept r) st₁ := by
  have performed : c.perform w st = startForTest w.provisioner w.journal c.testId c.service o
      (some w.runtime) c.register st := by
    rw [perform, ho]
    rfl
  rw [performed, startForTest]
  cases r with
  | ok id =>
    rw [bind_of_ok (attempt_of_ok hs)]
    rfl
  | error e =>
    cases hi : e.isOrdinary with
    | false =>
      rw [bind_of_error (attempt_of_interruption hs hi), failure?]
      split
      · rfl
      · next hf =>
        split at hf
        · next hh => simp [Fault.isOrdinary, hh, Incident.isOrdinary] at hi
        · cases hf
    | true =>
      rw [bind_of_ok (attempt_of_ordinary hs hi), failure?]
      dsimp only
      cases e.head <;> rfl

/-- A call adds the failure it raised to the journal, and nothing else. -/
theorem FixtureCall.perform_shows (hc : c.Discreet w) (hdate : w.Dated) {read : List SetupFailure}
    (h : w.Shows st read) (hl : ∀ f ∈ c.failure? (c.perform w st).1, f.InLine) :
    ∃ more, w.Shows (c.perform w st).2 (read ++ more) ∧
      List.Forall₂ SetupFailure.ReadAs (c.failure? (c.perform w st).1).toList more := by
  obtain ⟨j, hj, he, rfl⟩ := h
  -- nothing is recorded, and the journal is as it was
  have silent {r : Except Fault InstanceId} {st' : Estate ρ κ σ}
      (hx : c.perform w st = (r, st')) (hr : c.failure? r = none)
      (hj' : w.journal.slot.get st'.outside = some j) :
      ∃ more, w.Shows (c.perform w st).2 (j.failures ++ more) ∧
        List.Forall₂ SetupFailure.ReadAs (c.failure? (c.perform w st).1).toList more := by
    rw [hx, hr]
    exact ⟨[], ⟨j, hj', he, (List.append_nil _).symm⟩, .nil⟩
  cases ho : StartOptions.choose w.standard c.options c.fields with
  | error e =>
    have refused : c.perform w st = (.error e, st) := by
      rw [perform, ho]
      rfl
    exact silent refused (failure?_of_choose ho) hj
  | ok o =>
    have started := start_journal hc o hj
    rcases hs : start w.provisioner c.service o (some w.runtime) (some c.register) st with ⟨r, st₁⟩
    rw [hs] at started
    have performed := perform_of_start ho hs
    cases hr : c.failure? r with
    | none =>
      rw [hr] at performed
      exact silent performed hr started
    | some f =>
      obtain ⟨date, hd⟩ := hdate st₁.outside
      obtain ⟨j₁, hw, -⟩ := Journal.write_failures he hd .error f.record
      have written := Fixture.around_write started hw
      rw [hr] at performed
      dsimp only at performed
      rw [bind_of_ok written] at performed
      have raised : (c.perform w st).1 = r := by
        rw [performed]
        cases r <;> rfl
      have kept : (c.perform w st).2.outside = w.journal.slot.set (some j₁) st₁.outside := by
        rw [performed]
        cases r <;> rfl
      rw [raised, hr] at hl ⊢
      obtain ⟨j', g, hw', he', hfail, hread⟩ := Journal.record_failures he hd (hl f rfl)
        (failure?_message hr)
      cases hw.symm.trans hw'
      refine ⟨[g], ⟨j₁, ?_, he', hfail⟩, .cons hread .nil⟩
      rw [kept, w.journal.slot.get_set]

namespace Fixture

variable {m : FixtureMove η ρ κ σ} {moves : List (FixtureMove η ρ κ σ)}

theorem after_shows (hdate : w.Dated) (hm : m.Orderly w) {read : List SetupFailure}
    (h : w.Shows st read) (hl : ∀ f ∈ w.failure? st m, f.InLine) :
    ∃ more, w.Shows (w.after st m) (read ++ more) ∧
      List.Forall₂ SetupFailure.ReadAs (w.failure? st m).toList more := by
  cases hm with
  | call hc => exact FixtureCall.perform_shows hc hdate h hl
  | note ht =>
    obtain ⟨j, hj, he, rfl⟩ := h
    obtain ⟨date, hd⟩ := hdate st.outside
    obtain ⟨j', hw, he', hfail⟩ := Journal.note_failures he hd ht .info
    refine ⟨[], ⟨j', ?_, he', by rw [hfail, List.append_nil]⟩, .nil⟩
    rw [after, around_write hj hw, w.journal.slot.get_set]

theorem run_shows (hdate : w.Dated) (hm : ∀ m ∈ moves, m.Orderly w) {read : List SetupFailure}
    (h : w.Shows st read) (hl : ∀ f ∈ w.setupFailures st moves, f.InLine) :
    ∃ more, w.Shows (w.run st moves) (read ++ more) ∧
      List.Forall₂ SetupFailure.ReadAs (w.setupFailures st moves) more := by
  induction moves generalizing st read with
  | nil => exact ⟨[], by rwa [List.append_nil], .nil⟩
  | cons m moves ih =>
    rw [setupFailures] at hl ⊢
    obtain ⟨first, hfirst, read₁⟩ := after_shows hdate (hm m List.mem_cons_self) h
      fun f hf => hl f (List.mem_append_left _ (Option.mem_toList.mpr hf))
    obtain ⟨more, hmore, read₂⟩ := ih (fun m' h' => hm m' (List.mem_cons_of_mem _ h')) hfirst
      fun f hf => hl f (List.mem_append_right _ hf)
    refine ⟨first ++ more, ?_, List.rel_append read₁ read₂⟩
    rw [← List.append_assoc]
    exact hmore

end Fixture

/-- From a journal that was empty at first, exactly the setup faults of all calls are read back, in
order.  Each is read as the plain failure with the record that was written, so all are read as they
were recorded exactly if all of them are plain. -/
theorem failures_read_back (w : Fixture η ρ κ σ) (st : Estate ρ κ σ)
    (moves : List (FixtureMove η ρ κ σ)) (hempty : w.journal.slot.get st.outside = some {})
    (hdate : w.Dated) (hmoves : ∀ m ∈ moves, m.Orderly w)
    (hlines : ∀ f ∈ w.setupFailures st moves, f.InLine) :
    ∃ read, w.journal.failures (w.run st moves).outside = (.ok read, (w.run st moves).outside) ∧
      List.Forall₂ SetupFailure.ReadAs (w.setupFailures st moves) read ∧
      (read = w.setupFailures st moves ↔ ∀ f ∈ w.setupFailures st moves, f.Plain) := by
  have shown : w.Shows st [] := ⟨_, hempty, .inl rfl, rfl⟩
  obtain ⟨read, ⟨j, hj, -, rfl⟩, hread⟩ := Fixture.run_shows hdate hmoves shown hlines
  refine ⟨j.failures, ?_, hread, SetupFailure.ReadAs.eq_iff_of_all hread⟩
  rw [JournalAccess.failures, bind_of_ok (JournalAccess.journal_ok hj)]
  rfl

end Moves

/-- A worker whose daemon does not respond. -/
def Fixture.unreachable : Fixture Unit Unit Unit (Option Journal) where
  provisioner := {
    around := {
      clock := { now := fun _ => .int 0, sleep := fun _ => pure () }
      date _ := .int 0
      stamp := pure 0
      diary := { write := fun _ _ _ s => s } }
    newRuntime := Act.raise .exhausted
    runHook _ _ _ := pure ()
    hookLabel _ := ""
    pollInterval := .int 1
    maxBackoff := .int 1
    furtherProbes := 10 }
  runtime := {
    ping := Act.raise (.setup .runtimeUnavailable .runtime "Docker daemon\n\tis not | responding")
    launch _ := pure ()
    scheduleExpiry _ _ := pure ()
    endpoint _ _ := pure ""
    terminate _ := pure ()
    close := pure () }
  journal := {
    slot := { get := id, set := fun j _ => j }
    date _ := .real 1700000000 }
  standard := .int 30

def FixtureCall.store (testId : String) (timeout : Int) :
    FixtureCall Unit Unit Unit (Option Journal) where
  testId := testId
  service := Service.abstract "store"
  options := none
  fields := { timeout := some (some (.int timeout)), names := ["timeout"] }
  register _ := pure ()

theorem FixtureCall.store_discreet (testId : String) (timeout : Int) :
    (FixtureCall.store testId timeout).Discreet Fixture.unreachable where
  backing _ := {
    closeClient := fun _ => .pure _
    setTemplate := fun _ _ => .fail _
    terminate := fun _ => .pure _
    close := .pure _
    write := fun _ _ _ _ h => h
    launchSpec := fun _ _ => .fail _
    connectTo := fun _ => .fail _
    probe := fun _ => .fail _
    createCopy := fun _ _ => .fail _
    dropCopy := fun _ => .fail _
    ping := .fail _
    launch := fun _ => .pure _
    scheduleExpiry := fun _ _ => .pure _
    endpoint := fun _ _ => .pure _
    sleep := fun _ => .pure _
    stamp := .pure _ }
  hooks _ _ _ := .pure _
  register _ _ := .pure _

theorem Fixture.unreachable_dated : Fixture.unreachable.Dated := by
  intro s
  have date : (dateOf? 1700000000).toOption = some (some "2023-11-14 22:13:20,000") := by
    decide +kernel
  have moment : (Fixture.unreachable.journal.date s).toReal = 1700000000 := rfl
  rw [moment]
  generalize dateOf? 1700000000 = found at date
  cases found with
  | error e => cases date
  | ok date' => exact ⟨_, congrArg Except.ok (Option.some.inj date)⟩

/-- Three tests that ask for a store, the second one with a timeout that is not allowed. -/
def Fixture.threeTests : List (FixtureMove Unit Unit Unit (Option Journal)) :=
  [.call (.store "tests/test_orders.py::test_total" 30),
    .note "Reaped 1 expired container(s): orders",
    .call (.store "tests/test_orders.py::test_none" 0),
    .call (.store "tests/test_orders.py::test_net" 30)]

theorem Fixture.threeTests_orderly : ∀ m ∈ threeTests, m.Orderly unreachable := by
  intro m hm
  simp only [threeTests, List.mem_cons, List.not_mem_nil, or_false] at hm
  rcases hm with rfl | rfl | rfl | rfl
  · exact .call (FixtureCall.store_discreet _ _)
  · exact .note (by decide +kernel)
  · exact .call (FixtureCall.store_discreet _ _)
  · exact .call (FixtureCall.store_discreet _ _)

/-- The failures of the first and the last test are read back. -/
theorem failures_read_back_of_unreachable : ∃ read st,
    Fixture.unreachable.journal.failures (Fixture.unreachable.run ⟨[], some {}⟩
      Fixture.threeTests).outside = (.ok read, st) ∧
    read.map (fun f => (f.testId, f.message)) =
      [("tests/test_orders.py::test_total", "[runtime] Docker daemon is not | responding"),
        ("tests/test_orders.py::test_net", "[runtime] Docker daemon is not | responding")] := by
  obtain ⟨read, hread, -, same⟩ := failures_read_back Fixture.unreachable ⟨[], some {}⟩
    Fixture.threeTests rfl Fixture.unreachable_dated Fixture.threeTests_orderly (by decide +kernel)
  refine ⟨read, _, hread, ?_⟩
  rw [same.mpr (by decide +kernel)]
  decide +kernel

/-- The name of a test is read up to its first bar, and the fields after it are shifted. -/
theorem failure_read_shifted :
    let moves := [.call (.store "tests/test_orders.py::test_total[net | gross]" 30)]
    (Fixture.unreachable.setupFailures ⟨[], some {}⟩ moves).map
        (fun f => (f.testId, f.service, f.step)) =
      [("tests/test_orders.py::test_total[net | gross]", "store", "runtime")] ∧
    (Fixture.unreachable.journal.failures
        (Fixture.unreachable.run ⟨[], some {}⟩ moves).outside).1.toOption.map
        (·.map fun f => (f.testId, f.service, f.step)) =
      some [("tests/test_orders.py::test_total[net", "gross]", "store")] := by
  decide +kernel

end Testbed
