import Testbed.Value.Notation

/-!
# Writing JSON

Request bodies are JSON in ASCII: characters outside the printable range are escaped, those
beyond the basic plane as a surrogate pair.  Infinities and NaN have no JSON form.
-/

namespace Testbed.Json

set_option autoImplicit false

/-- A code unit as an escape of four digits. -/
def escapeUnit (unit : Nat) : List Char := '\\' :: 'u' :: Literal.hex 4 unit

def escapeChar (c : Char) : List Char :=
  if c == '"' then ['\\', '"']
  else if c == '\\' then ['\\', '\\']
  else if c == '\n' then ['\\', 'n']
  else if c == '\r' then ['\\', 'r']
  else if c == '\t' then ['\\', 't']
  else if c == '\x0c' then ['\\', 'f']
  else if c == '\x08' then ['\\', 'b']
  else if ' ' ≤ c && c ≤ '~' then [c]
  else if c.toNat < 0x10000 then escapeUnit c.toNat
  else
    let offset := c.toNat - 0x10000
    escapeUnit (0xD800 + offset / 0x400) ++ escapeUnit (0xDC00 + offset % 0x400)

def quoted (s : String) : String :=
  String.ofList ('"' :: s.toList.flatMap escapeChar ++ ['"'])

/-- A number, unless it is an infinity or NaN. -/
def number? : Num → Option String
  | .int i => some (Decimal.ofInt i)
  | .real x => if x.isFinite then some (Decimal.ofFloat x) else none

mutual

/-- A value as JSON text, unless it holds a number without a JSON form. -/
def write? : Value → Option String
  | .null => some "null"
  | .bool true => some "true"
  | .bool false => some "false"
  | .num n => number? n
  | .text s => some (quoted s)
  | .list items => (writeItems? items).map fun s => "[" ++ s ++ "]"
  | .dict entries => (writeEntries? entries).map fun s => "\x7b" ++ s ++ "\x7d"

def writeItems? : List Value → Option String
  | [] => some ""
  | [v] => write? v
  | v :: rest => do
    let head ← write? v
    let tail ← writeItems? rest
    pure (head ++ ", " ++ tail)

def writeEntries? : List (String × Value) → Option String
  | [] => some ""
  | [(k, v)] => (write? v).map fun s => quoted k ++ ": " ++ s
  | (k, v) :: rest => do
    let head ← write? v
    let tail ← writeEntries? rest
    pure (quoted k ++ ": " ++ head ++ ", " ++ tail)

end

end Testbed.Json
