import Testbed.Fault.Numeral
import Testbed.Http.Reference

/-!
# Settings

The settings of a test run come from its environment.  An empty variable counts as absent.  Time
settings are checked: the timeout and the polling interval are positive, and the cap of the
polling interval is not below the interval.
-/

namespace Testbed

set_option autoImplicit false

abbrev Environment := List (String × String)

/-- A variable that is set and not empty. -/
def Environment.get? (env : Environment) (name : String) : Option String :=
  match Entries.get? name env with
  | some v => if v.isEmpty then none else some v
  | none => none

structure Settings where
  /-- The deadline for starting an instance, and the time after which an instance that was never
  closed is removed. -/
  startTimeout : Float := 60.0
  daemonTimeout : Int := 20
  /-- The first sleep between probes; every next sleep is longer by the same amount. -/
  pollInterval : Float := 0.5
  maxBackoff : Float := 5.0
  connectTimeout : Int := 8
  /-- Where published ports are reached. -/
  hostname : String := "localhost"
  postgresImage : String := "postgres:16-alpine"
  elasticsearchImage : String := "docker.elastic.co/elasticsearch/elasticsearch:8.12.2"
  /-- Whether leftovers of earlier runs are kept. -/
  keepRunning : Bool := false
  deriving Inhabited

namespace Settings

def containerLabel : String := "ephemeral-services"

/-- The label that holds the time after which a container may be removed. -/
def expiresAtLabel : String := containerLabel ++ ".expires-at"

def logicalNameLabel : String := containerLabel ++ ".logical-name"

def float (env : Environment) (name : String) (default : Float) : Except Fault Float :=
  (env.get? name).elim (.ok default) Numeral.real

def int (env : Environment) (name : String) (default : Int) : Except Fault Int :=
  (env.get? name).elim (.ok default) Numeral.whole

def hostSchemes : List String := ["tcp://", "http://", "https://"]

/-- The host where published ports are reached: given outright, or the host of the daemon. -/
def hostnameOf (env : Environment) : Except Fault String :=
  match env.get? "EPHEMERAL_DOCKER_HOSTNAME" with
  | some h => .ok h
  | none =>
    let daemon := (env.get? "DOCKER_HOST").getD ""
    if hostSchemes.any (Text.startsWith · daemon) then
      match Http.Reference.parse daemon.toList with
      | .ok r => .ok ((r.host?.map String.ofList).getD "localhost")
      | .error p => .error (Fault.of (.host .badValue p.message))
    else .ok "localhost"

def checkTimeout (x : Float) : Except Fault Unit :=
  if x ≤ 0 then
    .error (Fault.of (.host .badState
      s!"Invalid EPHEMERAL_START_TIMEOUT: {Decimal.ofFloat x}"))
  else .ok ()

/-- The interval must be positive and must not exceed its cap. -/
def checkPolling (interval cap : Float) : Except Fault Unit :=
  if interval ≤ 0 ∨ cap < interval then
    .error (Fault.of (.host .badState
      (s!"Invalid readiness polling: interval {Decimal.ofFloat interval}, " ++
        s!"max backoff {Decimal.ofFloat cap}")))
  else .ok ()

def ofEnvironment (env : Environment) : Except Fault Settings := do
  let startTimeout ← float env "EPHEMERAL_START_TIMEOUT" 60.0
  checkTimeout startTimeout
  let daemonTimeout ← int env "EPHEMERAL_DOCKER_API_TIMEOUT" 20
  let pollInterval ← float env "EPHEMERAL_POLL_INTERVAL" 0.5
  let maxBackoff ← float env "EPHEMERAL_MAX_BACKOFF" 5.0
  checkPolling pollInterval maxBackoff
  let connectTimeout ← int env "EPHEMERAL_CONNECT_TIMEOUT" 8
  let hostname ← hostnameOf env
  let defaults : Settings := {}
  pure {
    startTimeout, daemonTimeout, pollInterval, maxBackoff, connectTimeout, hostname
    postgresImage := (env.get? "EPHEMERAL_POSTGRES_IMAGE").getD defaults.postgresImage
    elasticsearchImage :=
      (env.get? "EPHEMERAL_ELASTICSEARCH_IMAGE").getD defaults.elasticsearchImage
    keepRunning := (env.get? "KEEP_INSTANCES_RUNNING").isSome }

end Settings

end Testbed
