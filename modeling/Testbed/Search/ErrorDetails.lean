import Testbed.Number.Parse
import Testbed.Text.Cut
import Testbed.Value.Notation

/-!
# Error details of a search node

A search node describes an error by a record of optional fields.  The record is accepted only
when every field has its type; truth values and positions are read leniently.
-/

namespace Testbed.Search

set_option autoImplicit false

structure ScriptPosition where
  offset : Int := 0
  start : Int := 0
  stop : Int := 0
  deriving Inhabited, DecidableEq

/-- The identifiers of the resource at fault: one or many. -/
inductive ResourceId where
  | one (id : String)
  | many (ids : List String)
  deriving Inhabited, DecidableEq

structure ErrorDetails where
  kind : String := ""
  reason : String := ""
  resourceType : String := ""
  resourceId : ResourceId := .one ""
  index : String := ""
  phase : String := ""
  grouped : Bool := false
  causedBy : Option (List (String × Value)) := none
  rootCause : List (List (String × Value)) := []
  failedShards : List (List (String × Value)) := []
  scriptStack : List String := []
  script : String := ""
  lang : String := ""
  position : Option ScriptPosition := none
  deriving Inhabited

namespace ErrorDetails

def text? : Value → Option String
  | .text s => some s
  | _ => none

def dict? : Value → Option (List (String × Value))
  | .dict es => some es
  | _ => none

def listOf? {α : Type} (item : Value → Option α) : Value → Option (List α)
  | .list vs => vs.mapM item
  | _ => none

def truthWords : List (String × Bool) :=
  [("0", false), ("off", false), ("f", false), ("false", false), ("n", false), ("no", false),
   ("1", true), ("on", true), ("t", true), ("true", true), ("y", true), ("yes", true)]

/-- A truth value: itself, zero or one, or one of the words in any case. -/
def truth? : Value → Option Bool
  | .bool b => some b
  | .num n =>
    if n.isZero then some false else if n.same (.int 1) then some true else none
  | .text s => Entries.get? (String.ofList (s.toList.map Char.toLower)) truthWords
  | _ => none

def isMargin (c : Char) : Bool := Text.isBlank c && !('\x1c' ≤ c && c ≤ '\x1f')

/-- The number of characters from which on a numeral may hold underscores anywhere after its first
digit. -/
def longNumeral : Nat := 19

/-- A sign and digits. -/
def numeral? (isLong : Bool) (cs : List Char) : Option Int :=
  let (negative, ds) := Parse.sign cs
  match ds with
  | [] => none
  | d :: rest =>
    if d.isDigit && rest.all (fun c => c.isDigit || (isLong && c == '_')) then
      let n := Int.ofNat (Parse.natOf (d :: rest.filter Char.isDigit))
      some (if negative then -n else n)
    else none

/-- What counts after leading zeros, which may be mixed with underscores; the character before is
given. -/
def afterZeros? (before : Char) : List Char → Option (List Char)
  | [] => some [before]
  | c :: rest =>
    if c == '0' || c == '_' then afterZeros? c rest
    else if c.isDigit || c == '-' then some (c :: rest)
    else if c == '.' then some (before :: c :: rest)
    else none

/-- A numeral without leading zeros, and without a plus sign in front of a digit. -/
def withoutZeros? : List Char → Option (List Char)
  | '+' :: c :: rest =>
    if c == '0' then afterZeros? c rest else if c.isDigit then some (c :: rest) else none
  | '0' :: rest => afterZeros? '0' rest
  | c :: rest => if c.isDigit || c == '-' then some (c :: rest) else none
  | [] => none

/-- A numeral without a fraction of zeros. -/
def withoutFraction (cs : List Char) : List Char :=
  match Text.cutFirst '.' cs with
  | (whole, some zeros) => if !zeros.isEmpty && zeros.all (· == '0') then whole else cs
  | (_, none) => cs

/-- A numeral without single underscores. -/
def withoutUnderscores (cs : List Char) : List Char :=
  if cs.head? == some '_' || cs.getLast? == some '_' || Text.holdsChars ['_', '_'] cs then cs
  else cs.filter (· != '_')

/-- A whole number as text: surrounded by blanks, with a sign, and with a fraction of zeros.  What
follows leading zeros counts on its own. -/
def wholeText? (s : String) : Option Int := do
  let cs := ((s.toList.dropWhile isMargin).reverse.dropWhile isMargin).reverse
  guard (cs.length ≤ Parse.digitLimit)
  let isLong := longNumeral ≤ cs.length
  match numeral? isLong cs with
  | some i => pure i
  | none => numeral? isLong (withoutUnderscores (withoutFraction (← withoutZeros? cs)))

/-- A whole number: itself, a truth value, a double without a fraction that fits sixty-four bits,
or its text. -/
def whole? : Value → Option Int
  | .bool b => some (if b then 1 else 0)
  | .num (.int i) => some i
  | .num (.real x) => do
    let i ← (Binary.ofFloat x).whole?
    guard (-Int.pow 2 63 ≤ i && i < Int.pow 2 63)
    pure i
  | .text s => wholeText? s
  | _ => none

def field? {α : Type} (entries : List (String × Value)) (name : String) (default : α)
    (read : Value → Option α) : Option α :=
  match Entries.get? name entries with
  | none => some default
  | some v => read v

def position? : Value → Option ScriptPosition
  | .dict es => do
    let offset ← field? es "offset" 0 whole?
    let start ← field? es "start" 0 whole?
    let stop ← field? es "end" 0 whole?
    pure { offset, start, stop }
  | _ => none

def resourceId? (v : Value) : Option ResourceId :=
  match v with
  | .text s => some (.one s)
  | v => (listOf? text? v).map .many

def orNull {α : Type} (read : Value → Option α) : Value → Option (Option α)
  | .null => some none
  | v => (read v).map some

/-- The record with the given entries, when every field has its type. -/
def ofEntries? (es : List (String × Value)) : Option ErrorDetails := do
  let kind ← field? es "type" "" text?
  let reason ← field? es "reason" "" text?
  let resourceType ← field? es "resource_type" "" text?
  let resourceId ← field? es "resource_id" (.one "") resourceId?
  let index ← field? es "index" "" text?
  let phase ← field? es "phase" "" text?
  let grouped ← field? es "grouped" false truth?
  let causedBy ← field? es "caused_by" none (orNull dict?)
  let rootCause ← field? es "root_cause" [] (listOf? dict?)
  let failedShards ← field? es "failed_shards" [] (listOf? dict?)
  let scriptStack ← field? es "script_stack" [] (listOf? text?)
  let script ← field? es "script" "" text?
  let lang ← field? es "lang" "" text?
  let position ← field? es "position" none (orNull position?)
  pure { kind, reason, resourceType, resourceId, index, phase, grouped, causedBy, rootCause,
         failedShards, scriptStack, script, lang, position }

end ErrorDetails

end Testbed.Search
