import Testbed.Http.Address
import Testbed.Json.Reader
import Testbed.Text.Cased
import Testbed.Text.Percent

/-!
# Escapes in references

Characters that may not stand in a part of a reference are escaped, byte by byte, and escapes that
are already there are kept.  In a whole reference, escapes of characters that need none are undone.
-/

namespace Testbed.Http

set_option autoImplicit false

def allEscaped : List Char → Bool
  | [] => true
  | '%' :: a :: b :: rest => isHexDigit a && isHexDigit b && allEscaped rest
  | '%' :: _ => false
  | _ :: rest => allEscaped rest

/-- Writes the digits of existing escapes in capitals. -/
def upperEscapes : List Char → List Char
  | '%' :: a :: b :: rest =>
    if isHexDigit a && isHexDigit b then '%' :: a.toUpper :: b.toUpper :: upperEscapes rest
    else '%' :: upperEscapes (a :: b :: rest)
  | c :: rest => c :: upperEscapes rest
  | [] => []

/-- Escapes what is not allowed.  Percent signs are kept when all of them start escapes. -/
def escapeInvalid (allowed : Char → Bool) (cs : List Char) : List Char :=
  let cs := upperEscapes cs
  let kept := allEscaped cs
  Text.percentChars (fun c => allowed c || (kept && c == '%')) cs

def isSubDelimiter (c : Char) : Bool := "!$&'()*+,;=".toList.contains c

def isUserChar (c : Char) : Bool := Text.isUnreserved c || isSubDelimiter c || c == ':'

def isPathChar (c : Char) : Bool := isUserChar c || c == '@' || c == '/'

def isQueryChar (c : Char) : Bool := isPathChar c || c == '?'

/-- Whether a character after a percent sign is taken for a digit of an escape. -/
def looksLikeDigit (c : Char) : Bool :=
  c.isAlphanum || (128 ≤ c.toNat && (Text.isCased c || (Text.digitValue? c).isSome))

/-- The value of a digit of base sixteen, in any script. -/
def escapeDigit? (c : Char) : Option Nat := (Json.hexValue? c).or (Text.digitValue? c)

/-- Undoes the escapes of characters that need none.  A text with a malformed escape is left. -/
def unescapeUnreserved : List Char → Option (List Char)
  | [] => some []
  | '%' :: a :: b :: rest =>
    if a != '%' && b != '%' && looksLikeDigit a && looksLikeDigit b then
      match escapeDigit? a, escapeDigit? b with
      | some hi, some lo =>
        let c := Char.ofNat (hi * 16 + lo)
        (unescapeUnreserved rest).map fun tail =>
          if Text.isUnreserved c && c.toNat < 128 then c :: tail else '%' :: a :: b :: tail
      | _, _ => none
    else (unescapeUnreserved (a :: b :: rest)).map ('%' :: ·)
  | c :: rest => (unescapeUnreserved rest).map (c :: ·)

def isReservedOrSafe (c : Char) : Bool :=
  Text.isUnreserved c || "!#$&'()*+,/:;=?@[]~".toList.contains c

/-- Escapes what may not stand in a whole reference, keeping its percent signs if they are well
formed. -/
def requote (cs : List Char) : List Char :=
  match unescapeUnreserved cs with
  | some plain => Text.percentChars (fun c => isReservedOrSafe c || c == '%') plain
  | none => Text.percentChars isReservedOrSafe cs

def escapedBytes : List Char → List UInt8
  | [] => []
  | '%' :: a :: b :: rest =>
    match Json.hexValue? a, Json.hexValue? b with
    | some hi, some lo => UInt8.ofNat (hi * 16 + lo) :: escapedBytes rest
    | _, _ => 37 :: escapedBytes (a :: b :: rest)
  | c :: rest => Text.utf8Bytes (String.singleton c) ++ escapedBytes rest

def unescape (cs : List Char) : String := Text.ofUtf8Lossy (escapedBytes cs)

end Testbed.Http
