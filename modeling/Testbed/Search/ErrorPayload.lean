import Testbed.Fault.Basic

/-!
# Errors reported by a search node

A reply with a status of 300 or more is an error.  Its body is read as far as possible: details
that do not have their types are reduced to kind and reason, and a body that cannot be read
leaves only the status.
-/

namespace Testbed.Search

set_option autoImplicit false

/-- Keys with dots name the same fields as keys with underscores; of two keys that become equal
the later value counts. -/
def renameKeys (es : List (String × Value)) : List (String × Value) :=
  es.foldl (fun acc (k, v) =>
    Entries.put (String.ofList (k.toList.map fun c => if c == '.' then '_' else c)) v acc) []

/-- A text for a field whose value need not be one: vacant values are left out. -/
def looseText (entries : List (String × Value)) (key : String) : String :=
  match Entries.get? key entries with
  | some v => if v.isVacant then "" else v.display
  | none => ""

def details? : Option Value → Option ErrorDetails
  | some (.text s) => some { reason := s }
  | some (.dict es) =>
    let es := renameKeys es
    match ErrorDetails.ofEntries? es with
    | some d => some d
    | none => some { kind := looseText es "type", reason := looseText es "reason" }
  | _ => none

/-- The status in a payload, when it is a whole number or a flag. -/
def payloadStatus? : Option Value → Option Reported
  | some (.bool b) => some (.flag b)
  | some (.num (.int i)) => some (.number (.int i))
  | _ => none

/-- Whether a body that cannot be read is nested too deeply, which is reported as such. -/
def isTooDeep : Http.BodyProblem → Bool
  | .json f _ => f.problem.isDepth
  | .label _ => false

def errorOf? (r : Http.Response) : Except Fault (Option Incident) :=
  if r.status.below (.int 300) then .ok none
  else match r.json with
    | .ok (.dict payload) =>
      let status := (payloadStatus? (Entries.get? "status" payload)).getD (.number r.status)
      .ok (some (.search status (details? (Entries.get? "error" payload))))
    | .ok _ => .ok (some (.search (.number r.status) none))
    | .error p =>
      if isTooDeep p then .error p.fault else .ok (some (.search (.number r.status) none))

/-- The error that a reply reports.  A reply that is missing reports none. -/
def errorOfReply? (reply : Option Http.Response) : Except Fault (Option Incident) :=
  match reply with
  | none => .ok none
  | some r => errorOf? r

end Testbed.Search
