import Testbed.Scenario.Step

/-!
# Performing steps
-/

namespace Testbed.Scenario

set_option autoImplicit false

variable {α : Type}

namespace RunAct

def plain (x : RunAct Unit) : RunAct Answer := do
  x
  pure .done

def onEngine (x : Engine World → Act World Answer) : RunAct Answer := do
  match ← Act.read (·.engine) with
  | none => pure .unknown
  | some r => world (x (World.engine r))

def container? (name : String) : RunAct (Option Container) :=
  Act.read fun r => (World.present r.estate.outside).find? (·.name == name)

def onContainer (name : String) (x : Engine World → Container → Act World Answer) :
    RunAct Answer := do
  match ← container? name with
  | none => pure .unknown
  | some c => onEngine fun e => x e c

/-! What a step can refer to. -/

inductive Referent where
  | member (id : InstanceId)
  | clone (ref : CloneRef) (clone : Clone Client)
  | node (client : Search.NodeClient)
  | nothing

/-- What a name means: an instance, else a clone, else a client of a node. -/
def find (name : String) : RunAct Referent := do
  let r ← roster
  match Entries.get? name r.instances, Entries.get? name r.clones, Entries.get? name r.nodes with
  | some id, _, _ => pure (.member id)
  | none, some ref, _ =>
    match ← clone? ref with
    | some c => pure (.clone ref c)
    | none => pure .nothing
  | none, none, some c => pure (.node c)
  | none, none, none => pure .nothing

def serviceOf (ref : CloneRef) : RunAct (Option (Service Hook Site Client World)) := do
  let s ← settings
  match ref with
  | .of id _ => do
    let h ← Act.read fun r => r.estate.handle? id
    pure (h.map fun h => h.container.service.service s)
  | .lone place => do
    let l ← Act.read fun r => r.lone[place]?
    pure (l.map fun l => l.1.service s)

def notOfClone (what : String) : Incident :=
  .host .missingMember s!"'CloneInstance' object has no attribute '{what}'"

def notOfNode (what : String) : Incident :=
  .host .missingMember s!"'ElasticsearchClient' object has no attribute '{what}'"

/-- A clone can neither be cloned nor be made a template; a closed one is refused by its name,
which it does not have either. -/
def refuseClone (c : Clone Client) : RunAct Answer :=
  Act.raise (notOfClone (if c.closed then "logical_name" else "is_template"))

/-- Making a clone a template fails first of all for want of support by its service. -/
def promoteClone (ref : CloneRef) (c : Clone Client) : RunAct Answer := do
  match ← serviceOf ref with
  | some s =>
    if !s.supportsTemplates then Act.fail (Service.noTemplates s.name)
    refuseClone c
  | none => refuseClone c

/-- A client of a node cannot be used for a while. -/
def notUsable : Incident :=
  .host .badArgument "'ElasticsearchClient' object does not support the context manager protocol"

/-- Closes what a name means; there is nothing to do for a client of a node. -/
def closeReferent : Referent → RunAct Unit
  | .member id => site (SiteAct.close id)
  | .clone ref _ => closeClone ref
  | .node _ | .nothing => pure ()

def startChosen (r : StartRequest) (o : StartOptions Hook) : RunAct InstanceId := do
  let s ← settings
  let p := SiteAct.provisioner s r.service
  let service := r.service.service s
  let register (id : InstanceId) := SiteAct.register (.member id)
  match r.way with
  | .direct =>
    let runtime := (← Act.read (·.engine)).map (runtimeFor r.service)
    site (start p service o runtime (if r.cleanup then some register else none))
  | .forTest testId =>
    let runtime := (← Act.read (·.session)).map (runtimeFor r.service)
    site (startForTest p World.journalAccess testId service o runtime register)

def startRequested (r : StartRequest) : RunAct InstanceId := do
  let standard := Num.real (← settings).startTimeout
  let options ← Act.ofExcept (match r.options with
    | none => .ok none
    | some f => (StartOptions.ofFields? standard f).map some)
  startChosen r (← Act.ofExcept (StartOptions.choose standard options r.fields))

def nameAndShow (name : Option String) (id : InstanceId) : RunAct Answer := do
  match name with
  | some name => site (SiteAct.nameInstance name id)
  | none => pure ()
  pure (.text (← site (SiteAct.label id)))

def getOrCreate (key : String) (create : RunAct InstanceId) : RunAct InstanceId := fun r =>
  let inner : EstateAct Site Client World InstanceId := fun e =>
    match create { r with estate := e } with
    | (a, r') => (a, r'.estate)
  cached (InstanceCache.getOrCreate World.diaryAccess key inner) r

/-- The same key asked for again and again.  The number of creations, and what was returned. -/
def share (key : String) (r : StartRequest) : Nat → RunAct (Nat × List InstanceId)
  | 0 => pure (0, [])
  | n + 1 => do
    let isNew := (Entries.get? key (← Act.read (·.cache))).isNone
    let first ← result (getOrCreate key (startRequested r))
    let (calls, others) ← share key r n
    let calls := if isNew then calls + 1 else calls
    match first with
    | .ok id => pure (calls, id :: others)
    | .error _ => pure (calls, others)

def areSame (ids : List InstanceId) : Bool := ids.eraseDups.length ≤ 1

def callNode (c : Search.NodeClient) : NodeCall → Act World Answer
  | .ping => do
    Search.NodeClient.ping World.nodeAccess c
    pure .done
  | .close => pure .done
  | .request call => do
    let reply ← Search.NodeClient.request World.nodeAccess c call
    pure (.reply reply.status (← Act.ofExcept (reply.text.mapError (·.fault))))
  | .perform call => do
    pure (.value (← Search.NodeClient.perform World.nodeAccess c call))

def nodeOf? : Referent → RunAct (Option Search.NodeClient)
  | .member id => do
    let h ← Act.read fun r => r.estate.handle? id
    pure ((h.bind (·.client)).bind Client.node?)
  | .clone _ c => pure (Client.node? c.client)
  | .node c => pure (some c)
  | .nothing => pure none

def callSql (timeout : Int) (dsn : String) : SqlCall → Act World Bool
  | .exists => World.sqlAccess.databaseExists timeout dsn
  | .create => World.sqlAccess.createIfMissing timeout dsn
  | .drop => World.sqlAccess.dropIfExists timeout dsn

/-- A container that was not launched by the library comes up. -/
def holdContainer (name : String) (labels : List (String × String)) (attributes : Value)
    (id : Option String) : Act World Unit :=
  Act.update fun w =>
    let id := id.getD (World.containerId (w.held.length + 1))
    w.hold { container := { id, name, labels }, attributes }

def useEngine (hostname : Option (Option String)) (timeout : Option (Option Num)) :
    RunAct EngineRef := do
  let s ← settings
  let timeout := timeout.getD (some (.int s.daemonTimeout))
  let r ← world (World.newEngine timeout (hostname.elim s.hostname shown))
  Act.update fun run => { run with engine := some r }
  pure r

/-- The worker gets a directory, unless it has one. -/
def openJournal : RunAct Unit :=
  world (Act.update fun w => { w with journal := some (w.journal.getD {}) })

def beginSession (keepRunning : Bool) : RunAct Unit := do
  openJournal
  let s ← settings
  let number ← Act.read fun r => r.estate.outside.engines
  let r : EngineRef := { number, hostname := s.hostname }
  let opened : Act World (Engine World) := do
    let _ ← World.newEngine (some (.int s.daemonTimeout)) s.hostname
    pure (World.engine r)
  let _ ← world (Testbed.beginSession opened World.journalAccess keepRunning)
  Act.update fun run => { run with engine := some r, session := some r, sessionOpen := true }

def endSession : RunAct Unit := do
  match ← Act.read fun r => (r.session, r.sessionOpen) with
  | (some r, true) =>
    Act.update fun run => { run with sessionOpen := false }
    world (Testbed.endSession (World.engine r) World.journalAccess)
  | _ => pure ()

def beginCache : RunAct Unit := Act.update fun r => { r with cache := [], cacheOpen := true }

def endCache : RunAct Unit := do
  if ← Act.read (·.cacheOpen) then
    Act.update fun r => { r with cacheOpen := false }
    cached (Testbed.endCache World.diaryAccess SiteAct.close)

def appendRaw (text : String) : Act World Unit := do
  let j ← World.journalAccess.journal
  Act.update fun w => { w with journal := some { j with text := j.text ++ text } }

def recordFault (testId service step : String) (f : Fault) : Act World Unit :=
  World.journalAccess.record testId service step f.message

end RunAct

open RunAct

def WorldStep.perform : WorldStep → RunAct Answer
  | script t outcomes => plain (RunAct.world (Act.update fun w =>
      { w with script := w.script ++ outcomes.map fun o => (t, o) }))
  | advance seconds => plain (RunAct.world (World.pass seconds))
  | useEngine hostname timeout => do
    let _ ← RunAct.useEngine hostname timeout
    pure .done
  | forgetEngine => plain (Act.update fun r => { r with engine := none })

def ContainerStep.perform : ContainerStep → RunAct Answer
  | ping => onEngine fun e => do e.ping; pure .done
  | closeEngine => onEngine fun e => do e.daemon.close; pure .done
  | reap now => onEngine fun e => do pure (.names (← e.reapExpired now))
  | endpoint name port n => onContainer name fun e c => do
    pure (.text (← e.findEndpoint c port (n.getD Engine.inspections)))
  | scheduleExpiry name seconds => onContainer name fun e c => do
    e.scheduleExpiry c seconds
    pure .done
  | cancelExpiry name => onContainer name fun e c => do e.cancelExpiry c; pure .done
  | terminate name => onContainer name fun e c => do e.terminate c; pure .done
  | hold name labels attributes id =>
    plain (RunAct.world (holdContainer name labels attributes id))

def RunAct.cloneAs (id : InstanceId) (name : String) (cleanup : Bool) : RunAct Answer := do
  let c ← site (SiteAct.clone id)
  if cleanup then site (SiteAct.register (.clone c))
  site (SiteAct.nameClone name c)
  match ← clone? c with
  | some made => pure (.text made.label)
  | none => pure .unknown

/-- Connects to a store that belongs to no instance and gives the clone a name. -/
def RunAct.connectLone (name : String) (spec : ServiceSpec) (info : ConnectionInfo) :
    RunAct Unit := do
  let service := spec.service (← settings)
  let client ← RunAct.world (service.connectTo info)
  let place ← Act.read fun r => r.lone.length
  Act.update fun r => { r with lone := r.lone ++ [(spec, { info, client })] }
  site (SiteAct.nameClone name (.lone place))

def InstanceStep.perform : InstanceStep → RunAct Answer
  | start name r => do nameAndShow (some name) (← startRequested r)
  | close ref => do
    match ← find ref with
    | .nothing => pure .unknown
    | found => plain (closeReferent found)
  | probe ref => do
    match ← find ref with
    | .member id => plain (site (SiteAct.probe id))
    | .clone _ _ => Act.raise (notOfClone "probe")
    | .node _ => Act.raise (notOfNode "probe")
    | .nothing => pure .unknown
  | label ref => do
    match ← find ref with
    | .member id => pure (.text (← site (SiteAct.label id)))
    | .clone _ c => pure (.text c.label)
    | _ => pure .unknown
  | promote ref => do
    match ← find ref with
    | .member id => plain (site (SiteAct.onInstance id Testbed.promote))
    | .clone ref c => promoteClone ref c
    | .node _ => Act.raise (notOfNode "service")
    | .nothing => pure .unknown
  | info ref => do
    match ← find ref with
    | .member id => pure (.info (← site (SiteAct.info id)))
    | .clone _ c => pure (.info c.info)
    | .node _ => Act.raise (notOfNode "connection_info")
    | .nothing => pure .unknown
  | use ref fault => do
    match ← find ref with
    | .nothing => pure .unknown
    | .node _ => Act.raise notUsable
    | found =>
      let body : RunAct Unit := match fault with
        | some f => Act.fail f
        | none => pure ()
      plain (Act.always body (closeReferent found))
  | clone ref name cleanup => do
    match ← find ref with
    | .member id => cloneAs id name cleanup
    | .clone _ c => refuseClone c
    | .node _ => Act.raise (notOfNode "service")
    | .nothing => pure .unknown
  | loneClone name spec there => plain (connectLone name spec there)
  | finalize => do pure (.results (← RunAct.finalize))

def CacheStep.perform : CacheStep → RunAct Answer
  | getOrCreate key name r => do
    let id ← RunAct.getOrCreate key do
      RunAct.world (World.record (.create key))
      startRequested r
    nameAndShow name id
  | get key => do
    match ← cached (InstanceCache.get? key) with
    | some id => pure (.text (← site (SiteAct.label id)))
    | none => pure .absent
  | contains key => do pure (.flag (← cached (InstanceCache.contains key)))
  | size => do pure (.count (← cached InstanceCache.size))
  | close => plain (cached (InstanceCache.close World.diaryAccess SiteAct.close))
  | share key users r => do
    let (calls, ids) ← RunAct.share key r users
    pure (.shared calls ids.length (areSame ids))
  | start => plain RunAct.beginCache
  | finish => plain RunAct.endCache

def StoreStep.perform : StoreStep → RunAct Answer
  | makeNode name client => do
    let c := client (← settings)
    plain (site (SiteAct.changeRoster fun r => { r with nodes := Entries.put name c r.nodes }))
  | callNode ref call => do
    match ← nodeOf? (← find ref) with
    | some c => RunAct.world (RunAct.callNode c call)
    | none => pure .unknown
  | sql call dsn => do
    let timeout := (← settings).connectTimeout
    pure (.flag (← RunAct.world (callSql timeout dsn call)))
  | connectSql dsn timeout => do
    let timeout := timeout.getD (some (← settings).connectTimeout)
    let _ ← RunAct.world (World.sqlAccess.connectTo dsn timeout)
    pure (.flag true)

def SessionStep.perform : SessionStep → RunAct Answer
  | start keepRunning => plain (RunAct.beginSession keepRunning)
  | finish => plain RunAct.endSession
  | openJournal => plain RunAct.openJournal
  | note message => plain (RunAct.world (World.journalAccess.write .info message))
  | record testId service step f =>
    plain (RunAct.world (recordFault testId service step f))
  | appendRaw text => plain (RunAct.world (RunAct.appendRaw text))
  | readFailures => do pure (.failures (← RunAct.world World.journalAccess.failures))
  | readJournal => do pure (.text (← RunAct.world World.journalAccess.journal).text)

def Step.perform : Step → RunAct Answer
  | .world s => s.perform
  | .container s => s.perform
  | .instances s => s.perform
  | .cache s => s.perform
  | .store s => s.perform
  | .session s => s.perform

end Testbed.Scenario
