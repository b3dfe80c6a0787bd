import Testbed.Http.Response
import Testbed.Search.ErrorDetails

/-!
# Faults

Everything that can go wrong while instances are started, used and closed.  An incident is one
event of that kind; a fault is an incident together with the incidents it was raised from.  The
chain of causes may run back into itself, so a fault is a finite chain with an optional link from
its end back to one of its places.
-/

namespace Testbed

set_option autoImplicit false

inductive Stage where
  | runtime
  | launch
  | expiry
  | endpoint
  | readiness
  | postStart
  | template
  | custom (label : String)
  deriving DecidableEq, Repr

/-- The kinds of setup failure; each names the step that failed. -/
inductive SetupKind where
  | general
  | launch
  | runtimeUnavailable
  | readinessTimeout
  | postStart
  | template
  deriving DecidableEq, Repr

inductive SqlGroup where
  | general
  | interface
  | database
  | operational
  | programming
  | integrity
  | internal
  | data
  | notSupported
  deriving DecidableEq, Repr

inductive SqlCondition where
  | adminShutdown
  | crashShutdown
  | cannotConnectNow
  | queryCanceled
  | connectionException
  | objectInUse
  | duplicateDatabase
  | invalidCatalogName
  | insufficientPrivilege
  | duplicateObject
  | undefinedTable
  | wrongObjectType
  | uniqueViolation
  | foreignKeyViolation
  deriving DecidableEq, Repr

/-- A database error is known by its family alone or by the condition reported. -/
inductive SqlKind where
  | group (g : SqlGroup)
  | condition (c : SqlCondition)
  deriving DecidableEq, Repr

def SqlCondition.group : SqlCondition → SqlGroup
  | adminShutdown | crashShutdown | cannotConnectNow | queryCanceled | connectionException
  | objectInUse => .operational
  | duplicateDatabase | invalidCatalogName | insufficientPrivilege | duplicateObject
  | undefinedTable | wrongObjectType => .programming
  | uniqueViolation | foreignKeyViolation => .integrity

def SqlKind.toGroup : SqlKind → SqlGroup
  | .group g => g
  | .condition c => c.group

inductive HttpKind where
  | general
  | invalidJson
  | jsonDecode
  | http
  | connection
  | proxy
  | ssl
  | timeout
  | connectTimeout
  | readTimeout
  | urlRequired
  | tooManyRedirects
  | missingSchema
  | invalidSchema
  | invalidUrl
  | invalidHeader
  | invalidProxyUrl
  | chunkedEncoding
  | contentDecoding
  | streamConsumed
  | retry
  | unrewindableBody
  deriving DecidableEq, Repr

inductive DaemonKind where
  | general
  | api
  | notFound
  | imageNotFound
  deriving DecidableEq, Repr

/-- Errors of the surrounding program.  Those that are not ordinary interrupt it: nothing that
deals with failures deals with them. -/
inductive HostKind where
  | badValue
  | badArgument
  | badState
  | badIndex
  | missingKey
  | missingMember
  | outOfRange
  | unimplemented
  | unencodable
  | undecodable
  | badEncoding
  | tooDeep
  | brokenConnection
  | noPermission
  | foreign (label : String) (ordinary : Bool)
  deriving DecidableEq, Repr

/-- The status that a search node reports: a number, or a flag in the place of one. -/
inductive Reported where
  | flag (b : Bool)
  | number (n : Num)

/-- One event that went wrong. -/
inductive Incident where
  | setup (kind : SetupKind) (stage : Stage) (detail : String)
  /-- Closing an instance failed; it stays open. -/
  | teardown (detail : String)
  /-- An instance that is not a template was asked to act as one. -/
  | cloneContract (detail : String)
  | instanceClosed (detail : String)
  /-- A query that should return a row returned none. -/
  | recordNotFound (detail : String)
  /-- A probe was answered by a node that is not ready. -/
  | notReady (detail : String)
  | search (status : Reported) (details : Option Search.ErrorDetails)
  /-- The database client failed, with the code reported by the server if there was one. -/
  | sql (kind : SqlKind) (code : Option String) (detail : String)
  /-- An HTTP request failed, with the reply if there was one. -/
  | http (kind : HttpKind) (detail : String) (response : Option Http.Response)
  /-- The container daemon failed, with its reply and its explanation if there were any. -/
  | daemon (kind : DaemonKind) (detail : String) (response : Option Http.Response)
      (explanation : Option String)
  | skipped (detail : String)
  | host (kind : HostKind) (detail : String)
  /-- A wait did not end within the number of probes that a run allows. -/
  | exhausted

/-- An incident and the chain of incidents it was raised from.  When `back` is a place of the
chain `head :: causes`, the cause of the last incident is the one at that place. -/
structure Fault where
  head : Incident
  causes : List Incident := []
  back : Option Nat := none

namespace Fault

def of (i : Incident) : Fault := { head := i }

def raisedFrom (i : Incident) (cause : Fault) : Fault :=
  { head := i, causes := cause.head :: cause.causes, back := cause.back.map (· + 1) }

/-- The incidents of the chain, each once, outermost first. -/
def chain (f : Fault) : List Incident := f.head :: f.causes

def next? (f : Fault) (place : Nat) : Option Nat :=
  if place + 1 < f.chain.length then some (place + 1) else f.back

/-- The incidents met along the causes from a place on, at most a number of them.  The way ends
where there is no cause, and where it comes to a place that was seen before. -/
def walk (f : Fault) : Nat → List Nat → Option Nat → List Incident
  | 0, _, _ => []
  | _ + 1, _, none => []
  | limit + 1, seen, some p =>
    if p ∈ seen then []
    else match f.chain[p]? with
      | some i => i :: f.walk limit (p :: seen) (f.next? p)
      | none => []

/-- The place reached after following a number of causes. -/
def place? (f : Fault) : Nat → Option Nat
  | 0 => some 0
  | n + 1 => (f.place? n).bind f.next?

def cause? (f : Fault) (n : Nat) : Option Incident :=
  (f.place? n).bind fun p => f.chain[p]?

/-- Up to `limit` incidents met along the causes, the fault itself not counted. -/
def trace (f : Fault) (limit : Nat) : List Incident :=
  (List.range limit).filterMap fun n => f.cause? (n + 1)

end Fault

def Http.BodyProblem.incident (p : Http.BodyProblem) : Incident :=
  match p with
  | .json f _ =>
    if f.problem.isSyntax then .http .jsonDecode p.message none
    else if f.problem.isDepth then .host .tooDeep p.message
    else .host .badValue p.message
  | .label .nul => .host .badValue p.message
  | .label (.refused _ _) => .host .badEncoding p.message
  | .label (.foreign _ _) => .host .undecodable p.message

def Http.BodyProblem.fault (p : Http.BodyProblem) : Fault := Fault.of p.incident

/-- Whether code that deals with failures deals with this one. -/
def Incident.isOrdinary : Incident → Bool
  | .host (.foreign _ ordinary) _ => ordinary
  | .exhausted => false
  | .skipped _ => false
  | _ => true

def Fault.isOrdinary (f : Fault) : Bool := f.head.isOrdinary

end Testbed
