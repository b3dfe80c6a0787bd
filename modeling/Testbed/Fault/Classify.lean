import Testbed.Fault.Message
import Testbed.Text.Cut

/-!
# Classification of errors

A question about an error is answered by the error itself or by one of the incidents it was
raised from, at most sixteen in all.  The questions never fail: what is not recognised simply
does not match.
-/

namespace Testbed

set_option autoImplicit false

/-- What is asked about: nothing, a fault, a reply of a server, or a plain value such as a status
code. -/
inductive Subject where
  | nothing
  | fault (f : Fault)
  | response (r : Http.Response)
  | value (v : Value)

/-- The number of incidents of a chain that are looked at. -/
def maxDepth : Nat := 16

inductive Evidence where
  | incident (i : Incident)
  | response (r : Http.Response)
  | value (v : Value)

/-- Everything that is looked at, the error itself first. -/
def Subject.evidence : Subject → List Evidence
  | nothing => []
  | fault f => (f.walk maxDepth [] (some 0)).map .incident
  | response r => [.response r]
  | value .null => []
  | value v => [.value v]

/-- The status code that a thing carries.  A truth value is not a status code. -/
def Evidence.status? : Evidence → Option Num
  | value (.num (.int i)) => some (.int i)
  | value _ => none
  | response r => some r.status
  | incident (.search status _) => some status.toNum
  | incident (.http _ _ r) => r.map (·.status)
  | incident (.daemon .general _ _ _) => none
  | incident (.daemon _ _ r _) => r.map (·.status)
  | incident _ => none

def Evidence.sqlCode? : Evidence → Option String
  | incident (.sql _ code _) => code
  | _ => none

def Subject.hasStatus (s : Subject) (code : Num) : Bool :=
  s.evidence.any fun e => match e.status? with
    | some c => c.same code
    | none => false

def Subject.hasSqlCode (s : Subject) (code : String) : Bool :=
  s.evidence.any fun e => e.sqlCode? == some code

def Evidence.isMissingRecord : Evidence → Bool
  | incident (.recordNotFound _) => true
  | _ => false

def Evidence.details? : Evidence → Option Search.ErrorDetails
  | incident (.search _ details) => details
  | _ => none

/-- Codes of database errors that have a predicate of their own. -/
def foreignKeyCode : String := "23503"
def uniqueCode : String := "23505"
def privilegeCode : String := "42501"
def duplicateDatabaseCode : String := "42P04"
def missingDatabaseCode : String := "3D000"
def duplicateObjectCode : String := "42710"

def connectionClass : String := "08"

/-- The codes of a server that is going down or coming up. -/
def unavailableCodes : List String := ["57P01", "57P02", "57P03"]

/-- Wordings of a server that is not reachable, in lower case. -/
def transportWordings : List String := [
  "connection refused",
  "could not connect to server",
  "the database system is starting up",
  "the database system is shutting down",
  "the database system is in recovery mode",
  "server closed the connection",
  "terminating connection due to administrator command",
  "connection reset by peer",
  "could not receive data from server",
  "no connection to the server",
  "timeout expired",
  "connection timed out",
  "eof detected"]

/-- Whether a message has one of the wordings, in any case of its ASCII letters. -/
def hasTransportWording (message : String) : Bool :=
  let cs := message.toList.map Char.toLower
  transportWordings.any fun w => Text.holdsChars w.toList cs

/-- Whether a failed operation of the database client failed for want of a connection.  A failed
connection attempt has no code, so the wording decides. -/
def isSqlTransport (code : Option String) (message : String) : Bool :=
  let code := code.getD ""
  connectionClass.toList.isPrefixOf code.toList || unavailableCodes.contains code ||
    hasTransportWording message

def HttpKind.isTransport : HttpKind → Bool
  | connection | proxy | ssl | timeout | connectTimeout | readTimeout => true
  | _ => false

/-- Whether one thing says that a service could not be reached or a connection was lost. -/
def Evidence.isTransport : Evidence → Bool
  | incident (.http kind _ _) => kind.isTransport
  | incident (.sql kind code detail) =>
    match kind.toGroup with
    | .interface => true
    | .operational => isSqlTransport code detail
    | _ => false
  | _ => false

namespace Subject

def isNotFound (s : Subject) : Bool := s.hasStatus 404 || s.evidence.any (·.isMissingRecord)

def isTimeout (s : Subject) : Bool := s.hasStatus 408

def isConflict (s : Subject) : Bool := s.hasStatus 409

def isUnauthorized (s : Subject) : Bool := s.hasStatus 401

def isForbidden (s : Subject) : Bool := s.hasStatus 403

def isForeignKeyViolation (s : Subject) : Bool := s.hasSqlCode foreignKeyCode

def isDuplicate (s : Subject) : Bool := s.hasSqlCode uniqueCode

def isPermissionDenied (s : Subject) : Bool := s.hasSqlCode privilegeCode

def isDuplicateDatabase (s : Subject) : Bool := s.hasSqlCode duplicateDatabaseCode

def isDatabaseMissing (s : Subject) : Bool := s.hasSqlCode missingDatabaseCode

def isDuplicateUser (s : Subject) : Bool := s.hasSqlCode duplicateObjectCode

/-- The service could not be reached, or the connection was lost.  Such errors are expected
while a service is starting, unlike a failed authentication. -/
def isTransport (s : Subject) : Bool := s.evidence.any (·.isTransport)

/-- The reason given by the first search error with details. -/
def reason (s : Subject) : String :=
  match s.evidence.findSome? (·.details?) with
  | some d => d.reason
  | none => ""

end Subject

def Fault.isTransport (f : Fault) : Bool := (Subject.fault f).isTransport

end Testbed
