import Testbed.Postgres.Service
import Testbed.Provision
import Testbed.Scenario.Databases
import Testbed.Scenario.Nodes
import Testbed.Scenario.Stub

/-!
# The services of a scenario

A service is named as data, so that an instance can hold what it was started from.
-/

namespace Testbed.Scenario

set_option autoImplicit false

inductive ServiceSpec where
  | stub (setup : StubSetup)
  | postgres (image : Option String)
  | elasticsearch (image : Option String) (memLimit : String) (debug : Bool)
  | bare (name : String)
  deriving Inhabited

/-- Where an instance lives: its service, its engine and its container. -/
structure Site where
  service : ServiceSpec
  engine : EngineRef
  container : Container

inductive HookAction where
  | close
  | promote
  | clone
  | probe
  | keep
  deriving DecidableEq, Repr

/-- A hook: it takes some time, acts on the instance, and may fail in the end. -/
structure Hook where
  name : String
  duration : Option Num := none
  actions : List HookAction := []
  fault : Option Fault := none
  deriving Inhabited

def Hook.label (h : Hook) : String := s!"<hook {h.name}>"

def nodeSetup (s : Settings) (image : Option String) (memLimit : String) (debug : Bool) :
    Search.NodeSetup where
  image := image.getD s.elasticsearchImage
  memLimit := memLimit
  debug := debug

def Client.node? : Client → Option Search.NodeClient
  | .node c => some c
  | _ => none

def ServiceSpec.service (s : Settings) : ServiceSpec → Service Hook Site Client World
  | .stub setup => World.stubService setup
  | .postgres image =>
    Postgres.service World.sqlAccess s.connectTimeout (image.getD s.postgresImage)
  | .elasticsearch image memLimit debug =>
    Search.service World.nodeAccess (nodeSetup s image memLimit debug) (.int s.connectTimeout)
      .node Client.node?
  | .bare name => Service.abstract name

def runtimeFor (service : ServiceSpec) (r : EngineRef) : Runtime Site World :=
  let runtime := (World.engine r).runtime
  { ping := runtime.ping
    launch := fun spec => do
      let container ← runtime.launch spec
      pure { service, engine := r, container }
    scheduleExpiry := fun site seconds => runtime.scheduleExpiry site.container seconds
    endpoint := fun site port => runtime.endpoint site.container port
    terminate := fun site => runtime.terminate site.container
    close := runtime.close }

def Site.backing (s : Settings) (site : Site) : Backing Hook Site Client World where
  service := site.service.service s
  runtime := runtimeFor site.service site.engine
  around := World.surroundings

end Testbed.Scenario
