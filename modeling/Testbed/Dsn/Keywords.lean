import Testbed.Dsn.Options

/-!
# Connection strings of keywords

Pairs of a name, an equals sign and a value, separated by blanks.  A value may be in apostrophes,
and a backslash takes the next character as it is.
-/

namespace Testbed.Dsn

set_option autoImplicit false

def isSpace (c : Char) : Bool := c == ' ' || ('\t' ≤ c && c ≤ '\r')

def skipSpace (cs : List Char) : List Char := cs.dropWhile isSpace

/-- A name up to an equals sign or a blank; then what follows the blanks. -/
def name (cs : List Char) : List Char × List Char :=
  let stops (c : Char) := c == '=' || isSpace c
  (cs.takeWhile (!stops ·), skipSpace (cs.dropWhile (!stops ·)))

/-- A value without quotes, up to a blank. -/
def bareValue : List Char → List Char × List Char
  | [] => ([], [])
  | ['\\'] => ([], [])
  | '\\' :: c :: rest =>
    let (v, tail) := bareValue rest
    (c :: v, tail)
  | c :: rest =>
    if isSpace c then ([], rest)
    else
      let (v, tail) := bareValue rest
      (c :: v, tail)

/-- A value after its opening quote, up to the closing one. -/
def quotedValue : List Char → Option (List Char × List Char)
  | [] => none
  | ['\\'] => none
  | '\\' :: c :: rest => (quotedValue rest).map fun (v, tail) => (c :: v, tail)
  | '\'' :: rest => some ([], rest)
  | c :: rest => (quotedValue rest).map fun (v, tail) => (c :: v, tail)

def value : List Char → Except Problem (List Char × List Char)
  | '\'' :: rest =>
    match quotedValue rest with
    | some r => .ok r
    | none => .error .unterminatedQuote
  | cs => .ok (bareValue cs)

/-- Reads pairs.  The fuel is the number of characters left. -/
def keywordPairs : Nat → Stored → List Char → Except Problem Stored
  | 0, stored, _ => .ok stored
  | fuel + 1, stored, cs =>
    match skipSpace cs with
    | [] => .ok stored
    | body =>
      let (n, rest) := name body
      match rest with
      | '=' :: tail => do
        let (v, tail) ← value (skipSpace tail)
        let stored ← store stored (String.ofList n) (Text.utf8Bytes (String.ofList v))
          .unknownOption
        keywordPairs fuel stored tail
      | _ => .error (.missingEquals (String.ofList n))

def ofKeywords (cs : List Char) : Except Problem Stored := keywordPairs (cs.length + 1) [] cs

end Testbed.Dsn
