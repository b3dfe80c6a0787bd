import Testbed.Fault.Basic
import Testbed.Http.Status

/-!
# Wording of incidents
-/

namespace Testbed

set_option autoImplicit false

def Stage.label : Stage → String
  | runtime => "runtime"
  | launch => "launch"
  | expiry => "expiry"
  | endpoint => "endpoint"
  | readiness => "readiness"
  | postStart => "post-start"
  | template => "template"
  | custom label => label

def Stage.ofLabel : String → Stage
  | "runtime" => runtime
  | "launch" => launch
  | "expiry" => expiry
  | "endpoint" => endpoint
  | "readiness" => readiness
  | "post-start" => postStart
  | "template" => template
  | label => custom label

def Reported.text : Reported → String
  | flag true => "True"
  | flag false => "False"
  | number n => Decimal.ofNum n

def Reported.toNum : Reported → Num
  | flag b => .int (if b then 1 else 0)
  | number n => n

/-- The error of a search node: its status, the phrase of the status, and the reason if one is
given. -/
def searchMessage (status : Reported) (details : Option Search.ErrorDetails) : String :=
  let phrase := (Http.phrase? status.toNum).getD "Unknown"
  let start := s!"elasticsearch: Error {status.text} ({phrase})"
  match details with
  | some d => if d.reason.isEmpty then start else s!"{start}: {d.reason} [type={d.kind}]"
  | none => start

def shown (s : Option String) : String := s.getD "None"

/-- The error of the container daemon: a client or server error is described by the reply, and
an explanation follows in brackets. -/
def daemonMessage (kind : DaemonKind) (detail : String) (response : Option Http.Response)
    (explanation : Option String) : String :=
  if kind = .general then detail
  else
    let within (lo hi : Int) (r : Http.Response) : Bool :=
      Num.atMost (.int lo) r.status && Num.below r.status (.int hi)
    let describe (word : String) (r : Http.Response) : String :=
      s!"{Decimal.ofNum r.status} {word} Error for {shown r.url}: {shown r.reason}"
    let start := match response with
      | some r =>
        if within 400 500 r then describe "Client" r
        else if within 500 600 r then describe "Server" r
        else detail
      | none => detail
    match explanation with
    | some e => if e.isEmpty then start else s!"{start} (\"{e}\")"
    | none => start

def Incident.message : Incident → String
  | .setup _ stage detail => s!"[{stage.label}] {detail}"
  | .teardown detail => detail
  | .cloneContract detail => detail
  | .instanceClosed detail => detail
  | .recordNotFound detail => detail
  | .notReady detail => detail
  | .search status details => searchMessage status details
  | .sql _ _ detail => detail
  | .http _ detail _ => detail
  | .daemon kind detail response explanation => daemonMessage kind detail response explanation
  | .skipped detail => detail
  | .host .missingKey detail => Literal.ofText detail
  | .host _ detail => detail
  | .exhausted => "the wait did not end"

def Fault.message (f : Fault) : String := f.head.message

end Testbed
