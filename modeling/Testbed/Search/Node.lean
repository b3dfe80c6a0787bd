import Testbed.Http.Request
import Testbed.Instance.Service
import Testbed.Search.ErrorPayload

/-!
# Elasticsearch instances

A minimal client of the REST interface of a node, and the service that runs a node.
-/

namespace Testbed.Search

set_option autoImplicit false

variable {η ρ κ σ : Type}

structure NodeClient where
  baseUrl : String
  timeout : Option Num
  debug : Bool := false
  /-- Set when neither the user nor the password is empty. -/
  credentials : Option (String × String) := none

def trimSlashes (s : String) : String :=
  String.ofList (s.toList.reverse.dropWhile (· == '/')).reverse

/-- A client; slashes at the end of the base URL are dropped. -/
def NodeClient.make (baseUrl user password : String) (debug : Bool) (timeout : Option Num) :
    NodeClient where
  baseUrl := trimSlashes baseUrl
  timeout := timeout
  debug := debug
  credentials := if user.isEmpty || password.isEmpty then none else some (user, password)

structure NodeAccess (σ : Type) where
  wire : Http.Wire σ
  diary : Diary σ

structure Call where
  method : String
  path : String
  json : Option Value := none
  timeout : Option (Option Num) := none

namespace NodeClient

def url (c : NodeClient) (path : String) : String :=
  c.baseUrl ++ "/" ++ String.ofList (path.toList.dropWhile (· == '/'))

/-- Sends a request and returns the reply whatever its status. -/
def request (a : NodeAccess σ) (c : NodeClient) (call : Call) : Act σ Http.Response := do
  let url := c.url call.path
  let req ← Act.ofExcept (Http.prepareRequest call.method url call.json
    (call.timeout.getD c.timeout) c.credentials)
  let reply ← Http.send a.wire req
  if c.debug then
    let json := (call.json.getD .null).literal
    let text ← Act.ofExcept (reply.text.mapError (·.fault))
    a.diary.debug .elasticsearch
      s!"{call.method} {url} {json} -> {Decimal.ofNum reply.status} {text}"
  pure reply

/-- Sends a request and returns the decoded body of the reply; an error of the node is raised. -/
def perform (a : NodeAccess σ) (c : NodeClient) (call : Call) : Act σ Value := do
  let reply ← request a c call
  match ← Act.ofExcept (errorOf? reply) with
  | some e => Act.raise e
  | none =>
    if reply.body.isEmpty then pure .null
    else Act.ofExcept (reply.json.mapError (·.fault))

/-- Checks that the node answers with status 200. -/
def ping (a : NodeAccess σ) (c : NodeClient) : Act σ Unit := do
  let reply ← request a c { method := "HEAD", path := "/" }
  if !reply.status.same 200 then
    Act.raise (.notReady s!"Checking state failed [StatusCode={Decimal.ofNum reply.status}]")

end NodeClient

def nodeEnv : List (String × String) := [
  ("node.name", "elasticsearch-test"),
  ("cluster.name", "elasticsearch-test"),
  ("discovery.type", "single-node"),
  ("logger.org.elasticsearch", "warn"),
  ("bootstrap.memory_lock", "true"),
  ("xpack.security.enabled", "false"),
  ("xpack.license.self_generated.type", "basic"),
  ("ingest.geoip.downloader.enabled", "false")]

def port : String := "9200/tcp"

/-- A node: its image, its memory, and whether its client reports every call. -/
structure NodeSetup where
  image : String
  memLimit : String := "1g"
  debug : Bool := false

def NodeSetup.launchSpec (n : NodeSetup) (name : String) : LaunchSpec where
  name := name
  image := n.image
  ports := [port]
  env := nodeEnv
  memLimit := some n.memLimit
  ulimits := [{ name := "memlock", soft := -1, hard := -1 }]

def connectionInfo (h : Handle ρ κ) : Except Fault ConnectionInfo := do
  let port ← h.port
  pure { host := h.host, port, scheme := "http", sslMode := "" }

def NodeSetup.clientOf (n : NodeSetup) (timeout : Num) (info : ConnectionInfo) : NodeClient :=
  NodeClient.make s!"{info.scheme}://{info.host}:{info.port}" info.user info.password n.debug
    (some timeout)

/-- The service; `wrap` and `unwrap` say how clients of nodes are clients. -/
def service (a : NodeAccess σ) (n : NodeSetup) (timeout : Num) (wrap : NodeClient → κ)
    (unwrap : κ → Option NodeClient) : Service η ρ κ σ :=
  { (Service.abstract "elasticsearch" : Service η ρ κ σ) with
    containerPort := port
    defaultLogicalName := "elasticsearch"
    launchSpec := fun name _ => pure (n.launchSpec name)
    connectTo := fun info => pure (wrap (n.clientOf timeout info))
    probe := fun c =>
      match c.bind unwrap with
      | some c => NodeClient.ping a c
      | none => Act.raise (.host .missingMember "'NoneType' object has no attribute 'ping'")
    connectionInfo := connectionInfo }

end Testbed.Search
