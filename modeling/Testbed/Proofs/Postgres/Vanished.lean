import Testbed.Container.Engine
import Testbed.Postgres.Service
import Testbed.Proofs.Dsn.Database
import Testbed.Proofs.Instance.Vanished
import Testbed.Proofs.Names

/-!
# Database servers that are gone

A container can be removed behind the back of the instance that runs in it.  The instance and its
clones can be closed all the same, in any order, as long as the runtime of the instance can be
closed and every clone has a database to be dropped.
-/

namespace Testbed.Postgres

set_option autoImplicit false

open Act

variable {η ρ κ σ : Type}

/-! Faults of a server that is gone. -/

/-- A failed operation whose wording says that the server cannot be reached. -/
def IsUnreachable (f : Fault) : Prop :=
  ∃ kind code detail, f.head = .sql kind code detail ∧ kind.toGroup = .operational ∧
    hasTransportWording detail = true

/-- A connection that was used after it broke. -/
def IsInterface (f : Fault) : Prop :=
  ∃ kind code detail, f.head = .sql kind code detail ∧ kind.toGroup = .interface

theorem isTransport_of_head {f : Fault} (h : (Evidence.incident f.head).isTransport = true) :
    f.isTransport = true := by
  change (.incident f.head :: (f.walk 15 [0] (f.next? 0)).map Evidence.incident).any
    (·.isTransport) = true
  rw [List.any_cons, h, Bool.true_or]

theorem IsUnreachable.isTransport {f : Fault} (h : IsUnreachable f) : f.isTransport = true := by
  obtain ⟨kind, code, detail, hf, hk, hw⟩ := h
  refine isTransport_of_head ?_
  rw [hf, Evidence.isTransport, hk]
  simp only [isSqlTransport, hw, Bool.or_true]

theorem IsUnreachable.isOperational {f : Fault} (h : IsUnreachable f) : isOperational f = true := by
  obtain ⟨kind, code, detail, hf, hk, -⟩ := h
  rw [Postgres.isOperational, hf]
  simp only [hk, beq_self_eq_true]

theorem IsUnreachable.isOrdinary {f : Fault} (h : IsUnreachable f) : f.isOrdinary = true := by
  obtain ⟨kind, code, detail, hf, -⟩ := h
  rw [Fault.isOrdinary, hf]
  rfl

theorem IsInterface.isTransport {f : Fault} (h : IsInterface f) : f.isTransport = true := by
  obtain ⟨kind, code, detail, hf, hk⟩ := h
  refine isTransport_of_head ?_
  rw [hf, Evidence.isTransport, hk]

theorem IsInterface.isOrdinary {f : Fault} (h : IsInterface f) : f.isOrdinary = true := by
  obtain ⟨kind, code, detail, hf, -⟩ := h
  rw [Fault.isOrdinary, hf]
  rfl

theorem isOrdinary_of_gone {f : Fault} (h : f.isContainerGone = true) : f.isOrdinary = true := by
  unfold Fault.isContainerGone at h
  split at h
  · next hf => rw [Fault.isOrdinary, hf]; rfl
  · next hf => rw [Fault.isOrdinary, hf]; rfl
  · cases h

/-- Settings with the host and the port that a connection string of a handle names. -/
def LeadsTo (h : Handle ρ κ) (settings : Dsn.Settings) : Prop :=
  ∃ port name own, h.port = .ok port ∧
    settingsOf (Dsn.serverInfo h.host port name).dsn = .ok own ∧
    settings.value "host" = own.value "host" ∧ settings.value "port" = own.value "port"

/-- What is known of the outside once the container of a handle is gone, which `G` says of a
state. -/
structure ServerGone (a : SqlAccess κ σ) (e : Engine σ) (h : Handle Container κ) (G : σ → Prop) :
    Prop where
  remove : ∀ s, G s → ∃ f s', e.daemon.remove h.container s = (.error f, s') ∧
    f.isContainerGone = true ∧ G s'
  connect : ∀ settings s, LeadsTo h settings → G s →
    ∃ f s', a.connect settings s = (.error f, s') ∧ IsUnreachable f ∧ G s'
  execute : ∀ client statement s, h.client = some client → G s →
    ∃ f s', a.execute client statement s = (.error f, s') ∧
      (IsUnreachable f ∨ IsInterface f) ∧ G s'
  close : ∀ client, Returns G (a.close client)
  closeDaemon : Keeps G e.daemon.close
  board : ∀ board s, G s → G (e.board.set board s)
  noted : ∀ level topic text s, G s → G (a.diary.write level topic text s)
  written : ∀ level topic text s, G s → G (e.around.diary.write level topic text s)

/-- A database server in a container of an engine. -/
def backing (a : SqlAccess κ σ) (timeout : Int) (image : String) (e : Engine σ) :
    Backing η Container κ σ where
  service := service a timeout image
  runtime := e.runtime
  around := e.around

/-- The connection string names a database, which can be dropped then. -/
def NamesDatabase (info : ConnectionInfo) : Prop := ∃ name, databaseName info.dsn = .ok name

section Gone

variable {a : SqlAccess κ σ} {e : Engine σ} {h : Handle Container κ} {G : σ → Prop}

/-- A container that is gone is as good as removed. -/
theorem terminate_returns (hg : ServerGone a e h G) : Returns G (e.terminate h.container) := by
  intro s hs
  obtain ⟨t, hcancel, ht⟩ : ∃ t, e.cancelExpiry h.container s = (.ok (), t) ∧ G t :=
    ⟨_, rfl, hg.board _ s hs⟩
  obtain ⟨f, s', hr, hf, hs'⟩ := hg.remove t ht
  have hm : e.remove h.container t = (.ok .gone, s') := by
    rw [Engine.remove, bind_of_ok (attempt_of_ordinary hr (isOrdinary_of_gone hf))]
    dsimp only
    rw [if_pos hf]
    rfl
  rw [Engine.terminate, bind_of_ok hcancel, bind_of_ok hm]
  exact ⟨_, rfl, hg.written _ _ _ s' hs'⟩

theorem setTemplate_lost (hg : ServerGone a e h G) {h' : Handle Container κ} (hs : h.SameServer h')
    (hc : h.client.isSome = true) (flag : Bool) (s : σ) (hG : G s) :
    ∃ r s', onClient a h' (.markTemplate h'.logicalName flag) s = (r, s') ∧ G s' ∧
      ∀ f, r = .error f → f.isOrdinary = true ∧ f.isTransport = true := by
  obtain ⟨client, hclient⟩ := Option.isSome_iff_exists.mp hc
  obtain ⟨f, s', he, hf, hs'⟩ :=
    hg.execute client (.markTemplate h'.logicalName flag) s hclient hG
  refine ⟨.error f, s', ?_, hs', fun d hd => ?_⟩
  · rw [onClient, hs.client.trans hclient]
    exact bind_of_error he
  · cases hd
    rcases hf with hf | hf
    · exact ⟨hf.isOrdinary, hf.isTransport⟩
    · exact ⟨hf.isOrdinary, hf.isTransport⟩

theorem value_put {key other text : String} (settings : Dsn.Settings) (hk : key ≠ other) :
    Dsn.Settings.value (Entries.put key text settings) other = settings.value other := by
  rw [Dsn.Settings.value, Entries.get?_put_other text settings hk]
  rfl

theorem parse_of_settingsOf {dsn : String} {settings : Dsn.Settings}
    (h : settingsOf dsn = .ok settings) : Dsn.parse dsn = .ok settings := by
  unfold settingsOf at h
  cases hp : Dsn.parse dsn with
  | error p =>
    rw [hp] at h
    cases h
  | ok found =>
    rw [hp] at h
    cases h
    rfl

theorem databaseName_of_settings {dsn : String} {settings : Dsn.Settings}
    (h : settingsOf dsn = .ok settings) (hd : settings.value "dbname" ≠ "") :
    databaseName dsn = .ok (settings.value "dbname") := by
  have he : (settings.value "dbname").isEmpty = false := by
    rw [String.isEmpty_eq_false_iff]
    exact hd
  unfold databaseName
  rw [h]
  change (if (settings.value "dbname").isEmpty = true then _ else _) = _
  rw [he, if_neg Bool.false_ne_true]

/-- The maintenance database is on the same server. -/
theorem LeadsTo.maintenance {port : Int} {name : String} {settings : Dsn.Settings} (text : String)
    (hport : h.port = .ok port)
    (hread : settingsOf (Dsn.serverInfo h.host port name).dsn = .ok settings) :
    LeadsTo h (Entries.put "connect_timeout" text
      (Entries.put "dbname" maintenanceDatabase settings)) := by
  refine ⟨port, name, settings, hport, hread, ?_, ?_⟩
  · rw [value_put _ (by decide), value_put _ (by decide)]
  · rw [value_put _ (by decide), value_put _ (by decide)]

/-- Nothing can be dropped on a server that is gone. -/
theorem dropIfExists_lost (hg : ServerGone a e h G) {port : Int} {name : String}
    {settings : Dsn.Settings} (timeout : Int) (hport : h.port = .ok port)
    (hread : settingsOf (Dsn.serverInfo h.host port name).dsn = .ok settings)
    (hn : NamesDatabase (Dsn.serverInfo h.host port name)) (s : σ) (hs : G s) :
    ∃ f s', a.dropIfExists timeout (Dsn.serverInfo h.host port name).dsn s = (.error f, s') ∧
      IsUnreachable f ∧ G s' := by
  obtain ⟨database, hn⟩ := hn
  obtain ⟨f, s', hc, hf, hs'⟩ :=
    hg.connect _ s (.maintenance (Decimal.ofInt timeout) hport hread) hs
  refine ⟨f, s', ?_, hf, hs'⟩
  have ho : a.openChecked (Entries.put "dbname" maintenanceDatabase settings) (some timeout) s =
      (.error f, s') := bind_of_error hc
  have hw : ∀ body : κ → Act σ Bool,
      a.withMaintenance timeout (Dsn.serverInfo h.host port name).dsn body s = (.error f, s') := by
    intro body
    rw [SqlAccess.withMaintenance, hread, bind_of_ok (x := ofExcept (.ok settings)) rfl]
    exact bind_of_error ho
  rw [SqlAccess.dropIfExists, hn, bind_of_ok (x := ofExcept (.ok database)) rfl]
  exact bind_of_error (hw _)

theorem dropCopy_returns (hg : ServerGone a e h G) {port : Int} {name : String}
    {settings : Dsn.Settings} (timeout : Int) (hport : h.port = .ok port)
    (hread : settingsOf (Dsn.serverInfo h.host port name).dsn = .ok settings)
    (hn : NamesDatabase (Dsn.serverInfo h.host port name)) :
    Returns G (dropCopy a timeout (Dsn.serverInfo h.host port name)) := by
  intro s hs
  obtain ⟨f, s', hd, hf, hs'⟩ := dropIfExists_lost hg timeout hport hread hn s hs
  rw [dropCopy, bind_of_ok (attempt_of_ordinary hd hf.isOrdinary)]
  dsimp only
  rw [hf.isOperational, hf.isTransport, Bool.and_self, if_pos rfl]
  exact ⟨_, rfl, hg.noted _ _ _ s' hs'⟩

end Gone

/-! Names of clones. -/

theorem not_mem_uniqueName {name : String} {c : Char} (hc : c ∉ name.toList) (hu : c ≠ '_')
    (hs : c ≠ '-') (hd : c.isDigit = false) (n : Int) : c ∉ (uniqueName name n).toList := by
  intro hm
  rcases mem_uniqueName hm with hm | hm | hm | hm
  · exact hc hm
  · exact hu hm
  · exact hs hm
  · rw [hd] at hm
    cases hm

theorem uniqueName_plain {host name : String} (hp : Dsn.Plain host name) (n : Int) :
    Dsn.Plain host (uniqueName name n) where
  host_nonzero := hp.host_nonzero
  host_bracketed := hp.host_bracketed
  name_nonzero := not_mem_uniqueName hp.name_nonzero (by decide) (by decide) (by decide) n

theorem connectionInfo_ok {h : Handle ρ κ} {info : ConnectionInfo}
    (hi : connectionInfo h = .ok info) :
    ∃ port, h.port = .ok port ∧ info = Dsn.serverInfo h.host port h.logicalName := by
  unfold connectionInfo at hi
  cases hp : h.port with
  | error e =>
    rw [hp] at hi
    cases hi
  | ok port =>
    rw [hp] at hi
    cases hi
    exact ⟨port, rfl, rfl⟩

theorem connectTo_ok {a : SqlAccess κ σ} {dsn : String} {timeout : Option Int} {client : κ}
    {s s' : σ} (hk : a.connectTo dsn timeout s = (.ok client, s')) :
    ∃ settings, settingsOf dsn = .ok settings := by
  obtain ⟨settings, t, hr, -⟩ := bind_ok hk
  exact ⟨settings, (ofExcept_ok hr).1⟩

theorem service_connectionInfo (a : SqlAccess κ σ) (timeout : Int) (image : String)
    (h : Handle ρ κ) :
    (service a timeout image : Service η ρ κ σ).connectionInfo h = connectionInfo h := rfl

theorem service_connectTo (a : SqlAccess κ σ) (timeout : Int) (image : String)
    (info : ConnectionInfo) :
    (service a timeout image : Service η ρ κ σ).connectTo info =
      a.connectTo info.dsn (some timeout) := rfl

/-- The connection string of a clone could be read when the clone was made. -/
theorem copied_reads {b : Backing η ρ κ σ} {a : SqlAccess κ σ} {timeout : Int} {image : String}
    (hb : b.service = service a timeout image) {h : Handle ρ κ} {info : ConnectionInfo}
    (hc : b.Copied h info) :
    ∃ port n settings, h.port = .ok port ∧
      info = Dsn.serverInfo h.host port (uniqueName h.logicalName n) ∧
      settingsOf info.dsn = .ok settings := by
  obtain ⟨h', base, n, client, s, s', hs, hi, hinfo, hk⟩ := hc
  rw [hb, service_connectionInfo] at hi
  rw [hb, service_connectTo] at hk
  have hport : h'.port = h.port := by rw [Handle.port, hs.endpoint, Handle.port]
  have hhost : h'.host = h.host := by rw [Handle.host, hs.endpoint, Handle.host]
  obtain ⟨port, hp, hbase⟩ := connectionInfo_ok hi
  obtain ⟨settings, hread⟩ := connectTo_ok hk
  rw [hbase, hhost, hs.logicalName] at hinfo
  exact ⟨port, n, settings, hport.symm.trans hp, hinfo, hread⟩

theorem copied_named {b : Backing η ρ κ σ} {a : SqlAccess κ σ} {timeout : Int} {image : String}
    (hb : b.service = service a timeout image) {h : Handle ρ κ}
    (hp : Dsn.Plain h.host h.logicalName) {info : ConnectionInfo} (hc : b.Copied h info) :
    NamesDatabase info := by
  obtain ⟨port, n, settings, -, rfl, hread⟩ := copied_reads hb hc
  have hd := Dsn.serverInfo_database (uniqueName_plain hp n) (uniqueName_ne_empty _ n)
    (parse_of_settingsOf hread)
  exact ⟨_, databaseName_of_settings hread hd⟩

/-- The clones of an instance whose host and name do not end a connection string have databases. -/
theorem run_named {b : Backing η ρ κ σ} {a : SqlAccess κ σ} {timeout : Int} {image : String}
    (hb : b.service = service a timeout image) {f : Family ρ κ} (hf : f.Fresh) (s : σ)
    (hp : Dsn.Plain f.handle.host f.handle.logicalName) (xs : List Section) :
    ∀ c ∈ ((Moment.fresh f s).run b.recorded xs).family.clones, NamesDatabase c.info := by
  intro c hc
  exact copied_named hb hp (Moment.run_copied hf s xs c hc)

/-- What is gone does not stand in the way of closing. -/
theorem ServerGone.forgives {a : SqlAccess κ σ} {e : Engine σ} {h : Handle Container κ}
    {G : σ → Prop} (hg : ServerGone a e h G) (timeout : Int) (image : String)
    (hc : h.client.isSome = true)
    (hr : h.ownsRuntime = true → ∀ s, (e.daemon.close s).1 = .ok ()) :
    let b : Backing η Container κ σ := backing a timeout image e
    b.Forgives h (fun info => b.Copied h info ∧ NamesDatabase info) G where
  terminate := terminate_returns hg
  close ho s hs := by
    have hk := hg.closeDaemon s hs
    have hr' := hr ho s
    rcases hd : e.daemon.close s with ⟨r, s'⟩
    rw [hd] at hk hr'
    cases hr'
    exact ⟨s', hd, hk⟩
  closeClient := hg.close
  dropCopy info := by
    rintro ⟨hcopied, hnamed⟩
    obtain ⟨port, n, settings, hport, rfl, hread⟩ := copied_reads rfl hcopied
    exact dropCopy_returns hg timeout hport hread hnamed
  setTemplate h' s hs hG := setTemplate_lost hg hs hc false s hG
  write := hg.written

open Moment

/-- Handles of a server that has vanished can be closed: from every state that is reached while
nothing is being closed, once the container is gone, closing the instance and its clones in any
order returns each time, and leaves nothing open, live or pending.  Two things are asked for
besides: closing a runtime that was created for the instance does not fail, which `hb` says, and
the connection string of every open clone names a database. -/
theorem vanished_closes (a : SqlAccess κ σ) (timeout : Int) (image : String) (e : Engine σ)
    (f : Family Container κ) (s : σ) (xs : List Section) (hf : f.Fresh)
    (hc : f.handle.client.isSome = true)
    (hb : RuntimeCloses (backing a timeout image e : Backing η Container κ σ) (fresh f s)) :
    let b : Backing η Container κ σ := backing a timeout image e
    let m := (fresh f s).run b.recorded xs
    m.waiting = [] → (∀ c ∈ m.family.clones, c.closed = false → NamesDatabase c.info) →
      ∀ (G : σ → Prop) (t : σ), ServerGone a e f.handle G → G t →
        ∀ ys, ∃ f' t', closeAll b ys (m.family, t) = (.ok (), (f', t')) ∧
          (.owner ∈ ys → (∀ id ∈ m.family.handle.liveClones, .clone id ∈ ys) → f'.Over) := by
  intro b m hw hn G t hg ht ys
  have hready : m.family.Ready f.handle fun info =>
      b.Copied f.handle info ∧ NamesDatabase info :=
    run_ready hf hb xs hw fun c hm ho => ⟨run_copied hf s xs c hm, hn c hm ho⟩
  obtain ⟨f', hbrings, hready', hclosed⟩ :=
    closeAll_closed (hg.forgives timeout image hc hb) hready ys
  obtain ⟨t', hx, -⟩ := hbrings t ht
  exact ⟨f', t', hx, hclosed.over hready'⟩

/-- A server that can go away, with its timers. -/
structure Fleeting where
  gone : Bool := false
  board : ExpiryBoard := {}

namespace Fleeting

def refused : Fault := Fault.of (.sql (.group .operational) none "connection refused")

def broken : Fault := Fault.of (.sql (.group .interface) none "connection already closed")

def missing : Fault := Fault.of (.daemon .notFound "No such container" none none)

/-- An action that fails once the server is gone. -/
def whilePresent {α : Type} (x : α) (e : Fault) : Act Fleeting α := fun s =>
  (if s.gone then .error e else .ok x, s)

def diary : Diary Fleeting := { write := fun _ _ _ s => s }

def access : SqlAccess Unit Fleeting where
  connect _ := whilePresent () refused
  autocommit _ := pure ()
  execute _ _ := whilePresent true broken
  close _ := pure ()
  diary := diary

def engine : Engine Fleeting where
  number := 0
  hostname := "localhost"
  daemon := {
    ping := pure ()
    run _ := pure default
    inspect _ := pure .null
    remove _ := do
      whilePresent () missing
      Act.update fun s => { s with gone := true }
    list := pure []
    close := pure () }
  board := { get := Fleeting.board, set := fun board s => { s with board } }
  startTimer _ := pure 0
  around := {
    clock := { now := fun _ => .int 0, sleep := fun _ => pure () }
    date _ := .int 0
    stamp := pure 0
    diary := diary }

/-- A daemon whose client cannot be closed. -/
def clinging : Engine Fleeting :=
  { engine with daemon := { engine.daemon with
      close := Act.raise (.host .brokenConnection "closing failed") } }

def family : Family Container Unit where
  handle := {
    container := { id := "c1", name := "orders" }
    endpoint := "localhost:5432", logicalName := "orders", ownsRuntime := true, client := some ()
    isTemplate := true }

/-- An instance whose name ends its connection string before the name of a database. -/
def nameless : Family Container Unit where
  handle := { family.handle with logicalName := "\x00orders" }

theorem whilePresent_gone {α : Type} (x : α) (e : Fault) {s : Fleeting} (h : s.gone = true) :
    whilePresent x e s = (.error e, s) := by
  rw [whilePresent, h, if_pos rfl]

theorem serverGone (h : Handle Container Unit) :
    ServerGone access engine h (fun s => s.gone = true) where
  remove s hs := ⟨missing, s, bind_of_error (whilePresent_gone _ _ hs), rfl, hs⟩
  connect _ s _ hs := ⟨refused, s, whilePresent_gone _ _ hs,
    ⟨_, _, _, rfl, rfl, by decide⟩, hs⟩
  execute _ _ s _ hs := ⟨broken, s, whilePresent_gone _ _ hs, .inr ⟨_, _, _, rfl, rfl⟩, hs⟩
  close _ s hs := ⟨s, rfl, hs⟩
  closeDaemon s hs := hs
  board _ _ hs := hs
  noted _ _ _ _ hs := hs
  written _ _ _ _ hs := hs

theorem serverGone_clinging (h : Handle Container Unit) :
    ServerGone access clinging h (fun s => s.gone = true) :=
  { serverGone h with closeDaemon := fun _ hs => hs }

def served (e : Engine Fleeting) : Backing Unit Container Unit Fleeting :=
  backing access 8 "postgres" e

/-- The family of a template of which one clone was made. -/
def cloned (e : Engine Fleeting) (f : Family Container Unit) :
    Moment Container Unit (Recorded Container Unit Fleeting) :=
  (fresh f {}).run (served e).recorded [.clone]

/-- What closing a template and its clone comes to once their server is gone. -/
def closed (e : Engine Fleeting) (f : Family Container Unit) (xs : List Closable) :
    Except Fault Unit × Family Container Unit × Fleeting :=
  closeAll (served e) xs ((cloned e f).family, { gone := true })

end Fleeting

open Fleeting

theorem vanished_closes_of_clone : (cloned engine family).family.handle.liveClones = [0] ∧
    ∃ f' t', closed engine family [.owner, .clone 0] = (.ok (), (f', t')) ∧ f'.Over := by
  have hp : Dsn.Plain family.handle.host family.handle.logicalName := {
    host_nonzero := by decide +kernel
    host_bracketed := .of_not_mem (by decide +kernel)
    name_nonzero := by decide }
  have hf : family.Fresh := ⟨rfl, rfl, rfl, rfl⟩
  have hl : (cloned engine family).family.handle.liveClones = [0] := by decide +kernel
  have hw : (cloned engine family).waiting = [] := by decide +kernel
  obtain ⟨f', t', hx, hover⟩ := vanished_closes access 8 "postgres" engine family {} [.clone] hf
    rfl (fun _ _ => rfl) hw
    (fun c hc _ => run_named (b := served engine) rfl hf {} hp [.clone] c hc)
    (fun s => s.gone = true) { gone := true } (serverGone _) rfl [.owner, .clone 0]
  refine ⟨hl, f', t', hx, hover (by decide) fun id hid => ?_⟩
  have hid : id ∈ (cloned engine family).family.handle.liveClones := hid
  rw [hl] at hid
  cases List.mem_singleton.mp hid
  decide

/-- An instance whose runtime cannot be closed stays open, though its server is gone as it should
be, and so does a clone whose connection string names no database. -/
theorem vanished_left_open :
    ((ServerGone access clinging family.handle fun s => s.gone = true) ∧
      (cloned clinging family).waiting = [] ∧
      (∃ e, (closed clinging family [.clone 0, .owner]).1 = .error e) ∧
      (closed clinging family [.clone 0, .owner]).2.1.handle.closed = false) ∧
    (ServerGone access engine nameless.handle fun s => s.gone = true) ∧
      (cloned engine nameless).waiting = [] ∧
      (∃ e, (closed engine nameless [.clone 0, .owner]).1 = .error e) ∧
      (closed engine nameless [.clone 0, .owner]).2.1.handle.liveClones = [0] := by
  have failed : ∀ {r : Except Fault Unit}, r.toBool = false → ∃ e, r = .error e := by
    rintro (e | _) hr
    · exact ⟨e, rfl⟩
    · cases hr
  exact ⟨⟨serverGone_clinging _, by decide +kernel, failed (by decide +kernel), by decide +kernel⟩,
    serverGone _, by decide +kernel, failed (by decide +kernel), by decide +kernel⟩

end Testbed.Postgres
