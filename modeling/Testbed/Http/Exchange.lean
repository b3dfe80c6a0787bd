import Testbed.Http.RetryAfter
import Testbed.Http.Target

/-!
# Exchanges with a server

One exchange sends a request and gets a reply, or the link breaks.  Replies that say that a server
is busy are asked for again, a bounded number of times and with growing pauses, for the methods
that may be repeated.
-/

namespace Testbed.Http

set_option autoImplicit false

variable {σ : Type}

structure Request where
  method : String
  url : List Char
  target : Target
  timeout : Option Num
  authorization : Option String := none
  contentType : Option String := none
  body : Option String := none

inductive LinkFault where
  | refused
  | connectTimeout
  | readTimeout
  | reset
  deriving DecidableEq, Repr

inductive Outcome where
  | broken (f : LinkFault)
  | reply (r : Reply)

def repeatable : List String := ["DELETE", "GET", "HEAD", "OPTIONS", "PUT", "TRACE"]

/-- The statuses of a server that is busy, e.g. still recovering. -/
def busyStatuses : List Int := [429, 502, 503, 504]

def deferringStatuses : List Int := [413, 429, 503]

def maxRetries : Nat := 5

def isRetried (method : String) (r : Reply) : Bool :=
  repeatable.contains method &&
    (busyStatuses.contains r.status ||
      (!(r.headerOr "Retry-After" "").isEmpty && deferringStatuses.contains r.status))

/-- The pause before a repetition: none before the first, then doubled each time. -/
def growingPause (repetition : Nat) : Option Num :=
  if repetition ≤ 1 then none
  else
    let x := 0.1 * Float.ofNat (Nat.pow 2 (repetition - 1))
    some (.real (if 120.0 < x then 120.0 else x))

def pauseAfter (r : Reply) (now : Num) (repetition : Nat) : Except Fault (Option Num) := do
  pure ((← r.askedPause now).or (growingPause repetition))

/-- How requests are sent, and the date of sending. -/
structure Wire (σ : Type) where
  exchange : Request → Act σ Outcome
  sleep : Num → Act σ Unit
  date : σ → Num
  /-- The encoding that some bytes look like. -/
  guess : List UInt8 → Option String

def Target.place (t : Target) (what : String) : String :=
  let secure := if t.secure then "HTTPS" else "HTTP"
  s!"{secure}{what}(host={Literal.ofText t.host}, port={t.port})"

def Target.pool (t : Target) : String := t.place "ConnectionPool"

def LinkFault.reason (t : Target) : LinkFault → String
  | refused =>
    let text := t.place "Connection" ++ ": Connection refused"
    s!"NewConnectionError({Literal.ofText text})"
  | connectTimeout => "ConnectTimeoutError('connect timed out')"
  | readTimeout =>
    let text := t.pool ++ ": Read timed out."
    s!"ReadTimeoutError({Literal.ofText text})"
  | reset => "ProtocolError('Connection aborted.')"

/-- The fault of a link that broke.  A request that was sent and may not be repeated reports the
break itself, any other that its repetitions are used up. -/
def LinkFault.fault (req : Request) (f : LinkFault) : Fault :=
  let t := req.target
  let sent := f == .readTimeout || f == .reset
  if sent && !repeatable.contains req.method then
    match f with
    | .readTimeout => urlFault .readTimeout s!"{t.pool}: Read timed out."
    | _ => urlFault .connection "Connection aborted."
  else
    let start := s!"{t.pool}: Max retries exceeded with url: {t.path} "
    let kind := if f == .connectTimeout then .connectTimeout else .connection
    urlFault kind (start ++ s!"(Caused by {f.reason t})")

/-- A reply and the length that it announces for its body. -/
structure Arrival where
  reply : Reply
  length : Option Int

def receive (w : Wire σ) (req : Request) : Act σ Arrival := do
  match ← w.exchange req with
  | .broken f => Act.fail (f.fault req)
  | .reply r => pure ⟨r, ← Act.ofExcept (r.length? req.method)⟩

def pauseBefore (w : Wire σ) (r : Reply) (repetition : Nat) : Act σ Unit := do
  match ← Act.ofExcept (pauseAfter r (← Act.read w.date) repetition) with
  | some p => w.sleep p
  | none => pure ()

/-- Sends a request until the reply is final or the repetitions are used up; the last reply
counts.  The number is that of the repetitions left. -/
def exchangeRepeatedly (w : Wire σ) (req : Request) : Nat → Act σ Arrival
  | 0 => receive w req
  | left + 1 => do
    let a ← receive w req
    if isRetried req.method a.reply then
      pauseBefore w a.reply (maxRetries - left)
      exchangeRepeatedly w req left
    else pure a

def Arrival.response (guess : List UInt8 → Option String) (a : Arrival) :
    Except Fault Response := do
  let body ← a.reply.content a.length
  pure { status := .int a.reply.status, body, encoding := a.reply.encoding?
         apparent := guess body }

end Testbed.Http
