import Testbed.Postgres.Service
import Testbed.Proofs.Fault.Wording
import Testbed.Proofs.Start.Refused

/-!
# Sessions that a PostgreSQL server refuses

A session that a server refuses for its user or its database is refused again however long one
waits, so the start that asked for it is over.
-/

namespace Testbed.Postgres

set_option autoImplicit false

open Act

variable {η ρ κ σ : Type}

/-- The fault of a session that was refused, in a message that holds the report. -/
def refusedSession (kind : SqlKind) (before : String) (r : Refusal) (after : String) : Fault :=
  Fault.of (.sql kind none (before ++ r.text ++ after))

/-- What a start raises when it could not wait for a server. -/
def unreachable (endpoint : String) (e : Fault) : Fault :=
  Fault.raisedFrom
    (.setup .general .readiness s!"Could not connect to postgres at '{endpoint}': {e.message}") e

theorem unready_refusedSession (kind : SqlKind) (before : String) (r : Refusal)
    (after endpoint : String) :
    unready "postgres" endpoint (refusedSession kind before r after) =
      unreachable endpoint (refusedSession kind before r after) :=
  if_pos rfl

/-- A refused session counts as one without a connection only for wordings in its name or around
the report.  Where there are none, the start that is refused a session ends with that probe. -/
theorem refused_session_ends_start {kind : SqlKind} (hk : kind.toGroup = .operational)
    (before : String) (r : Refusal) (after : String) (a : SqlAccess κ σ) (connectTimeout : Int)
    (image : String) :
    let e := refusedSession kind before r after
    let s : Service η ρ κ σ := service a connectTimeout image
    e.isTransport = (hasTransportWording before || hasTransportWording r.name ||
      hasTransportWording (r.ending ++ after)) ∧
    s.isTransient e = e.isTransport ∧
    (e.isTransport = false →
      ∀ (p : Provisioner η ρ κ σ) (o : StartOptions η) (runtime : Option (Runtime ρ σ))
        (st : Estate ρ κ σ) (l : Launched η ρ κ σ) (id : InstanceId) (timeout : Num)
        (f : Family ρ κ) (st' : Estate ρ κ σ), Awaits p s o runtime st l id timeout f st' →
      ∀ raised events f' o',
        (readinessPolling p l.backing f.handle.endpoint timeout).watched.awaitReady
          ([], (f, st'.outside)) = (raised, (events, (f', o'))) →
      ∀ endpoint u v, .probe endpoint u (.error e) v ∈ events →
        events.getLast? = some (.probe endpoint u (.error e) v) ∧
        ∃ q st'', Estate.onFamily id (discard l.backing)
            { families := st'.families.set id f', outside := o' } = (q, st'') ∧
          ∀ register, start p s o runtime register st =
            (.error ((unreachable f.handle.endpoint e).followedBy q), st'')) := by
  intro e s
  refine ⟨?_, rfl, ?_⟩
  · exact (isTransport_of_uncoded hk _).trans (r.hasTransportWording_eq before after)
  · intro he p o runtime st l id timeout f st' ha raised events f' o' hw endpoint u v hm
    have hstart := ha.start_of_refused hw hm fun _ => he
    rw [show s.name = "postgres" from rfl, unready_refusedSession] at hstart
    exact hstart

namespace Refusing

def report : String := "connection to server at \"localhost\" (127.0.0.1), port 5432 failed: "

def wrongPassword : Fault :=
  refusedSession (.group .operational) report (.password "postgres") "\n"

/-- A server that knows another password. -/
def access : SqlAccess Nat (Recorded Unit Nat Nat) where
  connect _ := Act.fail wrongPassword
  autocommit _ := pure ()
  execute _ _ := pure true
  close _ := pure ()
  diary := { write := fun _ _ _ s => s }

def guarded : Service Unit Unit Nat (Recorded Unit Nat Nat) := service access 8 "postgres"

def options : StartOptions Unit := { timeout := .real 30 }

def estate : Estate Unit Nat (Recorded Unit Nat Nat) := { families := [], outside := ([], 0) }

def handle : Handle Unit Nat where
  container := ()
  endpoint := "localhost:5432"
  logicalName := defaultDatabase
  ownsRuntime := true

theorem openChecked_refused (settings : Dsn.Settings) (o : Recorded Unit Nat Nat) :
    access.openChecked settings (some 8) o = (.error wrongPassword, o) := rfl

theorem guarded_connectTo (info : ConnectionInfo) :
    guarded.connectTo info = access.connectTo info.dsn (some 8) := rfl

theorem guarded_isTransient (e : Fault) : guarded.isTransient e = e.isTransport := rfl

theorem guarded_connectionInfo : guarded.connectionInfo handle = connectionInfo handle := rfl

theorem connect_handle (o : Recorded Unit Nat Nat) :
    guarded.connect handle o = (.error wrongPassword, o) := by
  have readable : (connectionInfo handle).toOption.any (fun info =>
      (settingsOf info.dsn).toOption.isSome) = true := by decide +kernel
  cases hi : connectionInfo handle with
  | error e =>
    rw [hi] at readable
    cases readable
  | ok info =>
    rw [hi] at readable
    have readable : (settingsOf info.dsn).toOption.isSome = true := readable
    cases hs : settingsOf info.dsn with
    | error e =>
      rw [hs] at readable
      cases readable
    | ok settings =>
      rw [Service.connect, guarded_connectionInfo, hi]
      refine (bind_of_ok (a := info) rfl).trans ?_
      rw [guarded_connectTo, SqlAccess.connectTo, hs]
      exact openChecked_refused settings o

end Refusing

open Refusing in
/-- A start that uses a wrong password raises at its first probe what the server reported. -/
theorem refused_session_ends_start_of_wrong_password : ∃ q st'', ∀ register,
    start .flaky guarded options none register estate =
      (.error ((unreachable "localhost:5432" wrongPassword).followedBy q), st'') := by
  obtain ⟨l, id, timeout, f, st', deadline, ha, hf, hd⟩ :
      ∃ l id timeout f st' deadline, Awaits .flaky guarded options none estate l id timeout f st' ∧
        f.handle = handle ∧ numScale.later (.real 0) timeout = .ok deadline :=
    ⟨_, _, _, _, _, _, ⟨rfl, ⟨_, rfl, rfl, _, rfl, rfl⟩, rfl⟩, rfl, rfl⟩
  have hkind : (SqlKind.group .operational).toGroup = .operational := rfl
  obtain ⟨hclass, -, hends⟩ := refused_session_ends_start hkind report (.password "postgres") "\n"
    access 8 "postgres"
  have refused : wrongPassword.isTransport = false := hclass.trans (by decide +kernel)
  have hconnect : l.backing.service.connect f.handle st'.outside =
      (.error wrongPassword, st'.outside) := by
    rw [ha.service, hf, connect_handle]
  have hprobe := attemptProbe_of_refused (by rw [hf]; rfl) hconnect f.handle.endpoint
  have hfinal : ¬ (readinessPolling .flaky l.backing f.handle.endpoint timeout).Transient
      wrongPassword :=
    ha.not_transient fun _ => (guarded_isTransient wrongPassword).trans refused
  have hw := Polling.awaitReady_of_refused hd (Nat.succ_pos _) hprobe hfinal
  obtain ⟨-, q, st'', -, hstart⟩ := hends refused .flaky options none estate l id timeout f st' ha
    _ _ _ _ hw _ _ _ List.mem_cons_self
  refine ⟨q, st'', fun register => ?_⟩
  rw [hf] at hstart
  exact hstart register

/-- The report of a first address that nobody listens at. -/
def nobodyListens : String :=
  "connection to server at \"localhost\" (::1), port 5432 failed: Connection refused"

def hint : String := "\n\tIs the server running on that host and accepting TCP/IP connections?\n"

/-- A session that was refused at the second address of a host counts as one without a
connection. -/
theorem refused_session_retried :
    (refusedSession (.group .operational) (nobodyListens ++ (hint ++ Refusing.report))
      (.password "postgres") "\n").isTransport = true := by
  have found : hasTransportWording (nobodyListens ++ (hint ++ Refusing.report)) = true :=
    hasTransportWording_append_left (by decide +kernel) _
  refine (isTransport_of_uncoded rfl _).trans ?_
  rw [Refusal.hasTransportWording_eq, found]
  rfl

end Testbed.Postgres
