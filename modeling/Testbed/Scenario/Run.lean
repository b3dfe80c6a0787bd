import Testbed.Scenario.Services
import Testbed.Session

/-!
# The state of a running scenario

All instances with their clones, the world around them, the cache, and the engines in use.
-/

namespace Testbed.Scenario

set_option autoImplicit false

abbrev Site.Estate := Testbed.Estate Site Client World

abbrev SiteAct (α : Type) := Act Site.Estate α

structure Run where
  estate : Site.Estate
  cache : InstanceCache := []
  /-- Clones that belong to no instance, with their services. -/
  lone : List (ServiceSpec × Clone Client) := []
  /-- The engine that instances are started on, if there is one. -/
  engine : Option EngineRef := none
  session : Option EngineRef := none
  sessionOpen : Bool := false
  /-- The cache is that of the session and has not been ended. -/
  cacheOpen : Bool := false

abbrev RunAct (α : Type) := Act Run α

namespace SiteAct

variable {α : Type}

def world (x : Act World α) : SiteAct α := Estate.around x

def settings : SiteAct Settings := Act.read fun s => s.outside.settings

def changeRoster (f : Roster → Roster) : SiteAct Unit :=
  world (Act.update fun w => { w with roster := f w.roster })

def onInstance (id : InstanceId)
    (x : Backing Hook Site Client World → FamilyAct Site Client World α) : SiteAct α := do
  match ← Act.read (Estate.handle? · id) with
  | none => Act.fail Estate.unknown
  | some h =>
    let b := h.container.backing (← settings)
    Estate.onFamily id (x b)

def label (id : InstanceId) : SiteAct String := onInstance id fun b => FamilyAct.label b

def close (id : InstanceId) : SiteAct Unit := onInstance id closeInstance

def probe (id : InstanceId) : SiteAct Unit := onInstance id fun b => do
  let h ← FamilyAct.handle
  Act.outside (b.service.probe h.client)

def info (id : InstanceId) : SiteAct ConnectionInfo := onInstance id fun b => do
  let h ← FamilyAct.handle
  Act.ofExcept (b.service.connectionInfo h)

def register (c : Cleanup) : SiteAct Unit :=
  changeRoster fun r => { r with cleanups := r.cleanups ++ [c] }

def nameInstance (name : String) (id : InstanceId) : SiteAct Unit :=
  changeRoster fun r => { r with instances := Entries.put name id r.instances }

def nameClone (name : String) (c : CloneRef) : SiteAct Unit :=
  changeRoster fun r => { r with clones := Entries.put name c r.clones }

def clone (id : InstanceId) : SiteAct CloneRef := do
  let c ← onInstance id cloneTemplate
  pure (.of id c)

/-- One action of a hook.  Clones made by hooks are named by their number. -/
def act (hook : String) (id : InstanceId) : HookAction → SiteAct Unit
  | .close => close id
  | .promote => onInstance id Testbed.promote
  | .clone => do
    let made ← Act.read fun s => s.outside.roster.clones.length
    let c ← clone id
    nameClone s!"hook{made}" c
  | .probe => probe id
  | .keep => nameInstance hook id

def actAll (hook : String) (id : InstanceId) : List HookAction → SiteAct Unit
  | [] => pure ()
  | a :: rest => do
    act hook id a
    actAll hook id rest

def runHook (h : Hook) (id : InstanceId) : SiteAct Unit := do
  world (World.record (.hook h.name))
  match h.duration with
  | some d => world (World.pass d)
  | none => pure ()
  actAll h.name id h.actions
  match h.fault with
  | some f => Act.fail f
  | none => pure ()

def provisioner (s : Settings) (service : ServiceSpec) : Provisioner Hook Site Client World where
  around := World.surroundings
  newRuntime := do
    let r ← World.newEngine (some (.int s.daemonTimeout)) s.hostname
    pure (runtimeFor service r)
  runHook _ h id := runHook h id
  hookLabel := Hook.label
  pollInterval := .real s.pollInterval
  maxBackoff := .real s.maxBackoff
  furtherProbes := 1000000

end SiteAct

namespace RunAct

variable {α : Type}

def site (x : SiteAct α) : RunAct α := fun r =>
  match x r.estate with
  | (a, e) => (a, { r with estate := e })

def world (x : Act World α) : RunAct α := site (SiteAct.world x)

def cached (x : CacheAct Site Client World α) : RunAct α := fun r =>
  match x (r.cache, r.estate) with
  | (a, (c, e)) => (a, { r with cache := c, estate := e })

def settings : RunAct Settings := site SiteAct.settings

def roster : RunAct Roster := Act.read fun r => r.estate.outside.roster

def closeClone : CloneRef → RunAct Unit
  | .of id c => site (SiteAct.onInstance id fun b => Testbed.closeClone b c)
  | .lone place => do
    match (← Act.read (·.lone))[place]? with
    | none => Act.fail Estate.unknown
    | some (spec, c) =>
      let service := spec.service (← settings)
      let c ← world (closeLoneClone service World.diaryAccess c)
      Act.update fun r => { r with lone := r.lone.set place (spec, c) }

def clone? : CloneRef → RunAct (Option (Clone Client))
  | .of id c => Act.read fun r => (r.estate.families[id]?).bind (·.clones[c]?)
  | .lone place => Act.read fun r => (r.lone[place]?).map (·.2)

def cleanUp : Cleanup → RunAct Unit
  | .member id => site (SiteAct.close id)
  | .clone c => closeClone c

/-- Runs an action and hands its fault over as a value, whatever the fault. -/
def result (x : RunAct α) : RunAct (Except Fault α) := fun r =>
  match x r with
  | (a, r) => (.ok a, r)

/-- Runs registered cleanups in order and collects their results. -/
def cleanUpAll : List Cleanup → RunAct (List (Except Fault Unit))
  | [] => pure []
  | c :: rest => do
    let first ← result (cleanUp c)
    let others ← cleanUpAll rest
    pure (first :: others)

/-- Runs all registered cleanups, the latest first, and forgets them. -/
def finalize : RunAct (List (Except Fault Unit)) := do
  let cleanups := (← roster).cleanups
  let results ← cleanUpAll cleanups.reverse
  site (SiteAct.changeRoster fun r => { r with cleanups := [] })
  pure results

end RunAct

end Testbed.Scenario
