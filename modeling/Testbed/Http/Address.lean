import Testbed.Text.Cut

/-!
# Numeric addresses

Recognises the addresses of the sixth version of the internet protocol: eight groups of up to
four hexadecimal digits, of which a run of zeros may be left out once, and of which the last two
may be written as a dotted address.  A zone may follow after a percent sign.  The four parts of a
dotted address are taken loosely, as up to three digits, or strictly, as numbers up to 255.
-/

namespace Testbed.Http

set_option autoImplicit false

def isHexDigit (c : Char) : Bool :=
  c.isDigit || ('a' ≤ c && c ≤ 'f') || ('A' ≤ c && c ≤ 'F')

def splitAll (c : Char) (cs : List Char) : List (List Char) :=
  cs.foldr (fun d acc =>
    if d == c then [] :: acc
    else match acc with
      | [] => [[d]]
      | w :: ws => (d :: w) :: ws) [[]]

def joinAll (c : Char) : List (List Char) → List Char
  | [] => []
  | [w] => w
  | w :: ws => w ++ c :: joinAll c ws

def isHexGroup (cs : List Char) : Bool := !cs.isEmpty && cs.length ≤ 4 && cs.all isHexDigit

def isDottedOf (part : List Char → Bool) (cs : List Char) : Bool :=
  let parts := splitAll '.' cs
  parts.length == 4 && parts.all part

/-- One to three digits. -/
def isLoosePart (p : List Char) : Bool := !p.isEmpty && p.length ≤ 3 && p.all Char.isDigit

/-- A number up to 255 without leading zeros. -/
def isStrictPart (p : List Char) : Bool :=
  isLoosePart p && (p == ['0'] || p.head? != some '0') &&
    p.foldl (fun n c => 10 * n + (c.toNat - '0'.toNat)) 0 ≤ 255

/-- The number of groups that a list of groups stands for, when all are well-formed.  Only the
last may be dotted, with parts that pass a test. -/
def groupCount? (part : List Char → Bool) : List (List Char) → Option Nat
  | [] => some 0
  | [g] => if isHexGroup g then some 1 else if isDottedOf part g then some 2 else none
  | g :: rest => if isHexGroup g then (groupCount? part rest).map (· + 1) else none

def cutGap : List Char → Option (List Char × List Char)
  | ':' :: ':' :: rest => some ([], rest)
  | c :: rest => (cutGap rest).map fun (a, b) => (c :: a, b)
  | [] => none

def groupsOf (cs : List Char) : List (List Char) := if cs.isEmpty then [] else splitAll ':' cs

/-- Whether a text is an address of the sixth version whose dotted parts pass a test. -/
def isIpv6Of (part : List Char → Bool) (cs : List Char) : Bool :=
  match cutGap cs with
  | none => groupCount? part (groupsOf cs) == some 8
  | some (before, after) =>
    let left := groupsOf before
    if !left.all isHexGroup then false
    else match groupCount? part (groupsOf after) with
      | some n => left.length + n ≤ 7
      | none => false

/-- An address of the sixth version, its dotted parts taken loosely. -/
def isIpv6 (cs : List Char) : Bool := isIpv6Of isLoosePart cs

def isStrictIpv4 (cs : List Char) : Bool := isDottedOf isStrictPart cs

/-- An address of the sixth version, taken strictly; a zone is not empty and has no percent sign. -/
def isStrictIpv6 (cs : List Char) : Bool :=
  match Text.cutFirst '%' cs with
  | (address, none) => isIpv6Of isStrictPart address
  | (address, some zone) => !zone.isEmpty && !zone.contains '%' && !zone.contains '/' &&
      isIpv6Of isStrictPart address

/-- An address of a later version: its version, a point and anything on one line. -/
def isFutureAddress (cs : List Char) : Bool :=
  match cs with
  | 'v' :: rest =>
    match Text.cutFirst '.' rest with
    | (version, some tail) =>
      !version.isEmpty && version.all isHexDigit && !tail.isEmpty && !tail.contains '\n'
    | _ => false
  | _ => false

end Testbed.Http
