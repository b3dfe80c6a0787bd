import Testbed.Value.Basic
import Testbed.Number.Digits
import Testbed.Number.Parse

/-!
# Reading JSON

A strict reader with three extensions, the names of NaN and of the two infinities.  A number
with a fraction or an exponent is a double, any other number a whole number of any size.  Of
repeated keys the last value counts, in the place of the first.

A problem is a kind and the place where it was noticed, counted in characters.
-/

namespace Testbed.Json

set_option autoImplicit false

inductive Problem where
  | byteOrderMark
  | extraData
  | expectedValue
  | expectedKey
  | expectedColon
  | expectedComma
  | unterminatedString
  | controlCharacter
  | badEscape
  | badUnicodeEscape
  /-- A whole number with more digits than are read. -/
  | tooManyDigits (count : Nat)
  | deepList
  | deepDict
  deriving DecidableEq, Repr

def Problem.text : Problem → String
  | byteOrderMark => "Unexpected UTF-8 BOM (decode using utf-8-sig)"
  | extraData => "Extra data"
  | expectedValue => "Expecting value"
  | expectedKey => "Expecting property name enclosed in double quotes"
  | expectedColon => "Expecting ':' delimiter"
  | expectedComma => "Expecting ',' delimiter"
  | unterminatedString => "Unterminated string starting at"
  | controlCharacter => "Invalid control character at"
  | badEscape => "Invalid \\escape"
  | badUnicodeEscape => "Invalid \\uXXXX escape"
  | tooManyDigits count => Parse.tooLong count
  | deepList =>
    "maximum recursion depth exceeded while decoding a JSON array from a unicode string"
  | deepDict =>
    "maximum recursion depth exceeded while decoding a JSON object from a unicode string"

/-- Whether a text with the problem is not written as JSON at all; other problems are limits of
the reader. -/
def Problem.isSyntax : Problem → Bool
  | tooManyDigits _ | deepList | deepDict => false
  | _ => true

def Problem.isDepth : Problem → Bool
  | deepList | deepDict => true
  | _ => false

/-- A problem, and what was left to read where it was noticed. -/
structure Failure where
  problem : Problem
  rest : List Char

abbrev Read (α : Type) := Except Failure (α × List Char)

def failAt {α : Type} (problem : Problem) (rest : List Char) : Read α := .error ⟨problem, rest⟩

def isSpace (c : Char) : Bool := c == ' ' || c == '\t' || c == '\n' || c == '\r'

def skipSpace (cs : List Char) : List Char := cs.dropWhile isSpace

def hexValue? (c : Char) : Option Nat :=
  if c.isDigit then some (c.toNat - '0'.toNat)
  else if 'a' ≤ c && c ≤ 'f' then some (c.toNat - 'a'.toNat + 10)
  else if 'A' ≤ c && c ≤ 'F' then some (c.toNat - 'A'.toNat + 10)
  else none

def hexUnit? : List Char → Option Nat
  | [a, b, c, d] => do
    let a ← hexValue? a
    let b ← hexValue? b
    let c ← hexValue? c
    let d ← hexValue? d
    pure (((a * 16 + b) * 16 + c) * 16 + d)
  | _ => none

def simpleEscape? : Char → Option Char
  | '"' => some '"'
  | '\\' => some '\\'
  | '/' => some '/'
  | 'b' => some '\x08'
  | 'f' => some '\x0c'
  | 'n' => some '\n'
  | 'r' => some '\r'
  | 't' => some '\t'
  | _ => none

/-- An escape of four digits after its `u`, joined with a second one when the two are a surrogate
pair.  The four digits must be followed by at least one more character. -/
def unicodeEscape (cs : List Char) : Read Char :=
  let digits := cs.take 4
  let rest := cs.drop 4
  if rest.isEmpty then failAt .badUnicodeEscape ('u' :: cs)
  else match hexUnit? digits with
    | none => failAt .badUnicodeEscape ('u' :: cs)
    | some unit =>
      if 0xD800 ≤ unit && unit < 0xDC00 && rest.length > 6 then
        match rest with
        | '\\' :: 'u' :: tail =>
          match hexUnit? (tail.take 4) with
          | none => failAt .badUnicodeEscape ('u' :: tail)
          | some low =>
            if 0xDC00 ≤ low && low < 0xE000 then
              .ok (Char.ofNat (0x10000 + (unit - 0xD800) * 0x400 + (low - 0xDC00)), tail.drop 4)
            else .ok ('\uFFFD', rest)
        | _ => .ok ('\uFFFD', rest)
      else if 0xD800 ≤ unit && unit < 0xE000 then .ok ('\uFFFD', rest)
      else .ok (Char.ofNat unit, rest)

/-- The characters of a string after its opening quote, which stands at the head of `start`. -/
def stringBody (start : List Char) : Nat → List Char → List Char → Read String
  | 0, cs, _ => failAt .unterminatedString cs
  | _ + 1, [], _ => failAt .unterminatedString start
  | fuel + 1, c :: rest, done =>
    if c == '"' then .ok (String.ofList done.reverse, rest)
    else if c == '\\' then
      match rest with
      | [] => failAt .unterminatedString start
      | 'u' :: digits =>
        match unicodeEscape digits with
        | .error e => .error e
        | .ok (d, tail) => stringBody start fuel tail (d :: done)
      | e :: tail =>
        match simpleEscape? e with
        | none => failAt .badEscape (c :: rest)
        | some d => stringBody start fuel tail (d :: done)
    else if c.toNat < 32 then failAt .controlCharacter (c :: rest)
    else stringBody start fuel rest (c :: done)

/-- A string whose opening quote has been taken off.  The fuel is at least the number of characters
left. -/
def string (fuel : Nat) (rest : List Char) : Read String := stringBody ('"' :: rest) fuel rest []

def digitRun (cs : List Char) : List Char × List Char :=
  (cs.takeWhile Char.isDigit, cs.dropWhile Char.isDigit)

/-- A fraction: a point and at least one digit, or nothing. -/
def fraction : List Char → List Char × List Char
  | '.' :: rest =>
    let (ds, tail) := digitRun rest
    if ds.isEmpty then ([], '.' :: rest) else (ds, tail)
  | cs => ([], cs)

/-- An exponent: a mark, an optional sign and at least one digit, or nothing. -/
def exponent : List Char → Option Int × List Char
  | [] => (none, [])
  | c :: rest =>
    if c == 'e' || c == 'E' then
      let (negative, body) := Parse.sign rest
      let (ds, tail) := digitRun body
      if ds.isEmpty then (none, c :: rest)
      else
        let n := Int.ofNat (Parse.natOf ds)
        (some (if negative then -n else n), tail)
    else (none, c :: rest)

def number (cs : List Char) : Read Num :=
  let (negative, body) := match cs with
    | '-' :: rest => (true, rest)
    | _ => (false, cs)
  let (whole, tail) := match body with
    | '0' :: rest => (['0'], rest)
    | _ => digitRun body
  if whole.isEmpty then failAt .expectedValue cs
  else
    let (places, tail) := fraction tail
    let (power, tail) := exponent tail
    if places.isEmpty && power.isNone then
      if Parse.digitLimit < whole.length then failAt (.tooManyDigits whole.length) cs
      else
        let n := Int.ofNat (Parse.natOf whole)
        .ok (.int (if negative then -n else n), tail)
    else
      let x := Parse.scale (Parse.natOf (whole ++ places))
        (power.getD 0 - Int.ofNat places.length)
      .ok (.real (if negative then -x else x), tail)

/-- The rest of a text after a word at its front. -/
def afterWord? (word : String) (cs : List Char) : Option (List Char) :=
  if word.toList.isPrefixOf cs then some (cs.drop word.length) else none

def words : List (String × Value) :=
  [("null", .null), ("true", .bool true), ("false", .bool false),
   ("NaN", .num (.real Parse.notANumber)), ("Infinity", .num (.real Parse.infinity)),
   ("-Infinity", .num (.real (-Parse.infinity)))]

def word? (cs : List Char) : Option (Value × List Char) :=
  words.findSome? fun (w, v) => (afterWord? w cs).map fun rest => (v, rest)

/-- The most lists and dictionaries that may be open at a time. -/
def depthLimit : Nat := 985

mutual

/-- A value at the front of a text, in which at most `depth` lists and dictionaries are open at a
time.  The fuel bounds the depth of calls, which is at most twice the length of the text. -/
def value : Nat → Nat → List Char → Read Value
  | 0, _, cs => failAt .expectedValue cs
  | _ + 1, _, [] => failAt .expectedValue []
  | fuel + 1, depth, c :: rest =>
    if c == '"' then (string fuel rest).map fun (s, tail) => (.text s, tail)
    else if c == '[' then
      match depth with
      | 0 => failAt .deepList (c :: rest)
      | depth + 1 =>
        match skipSpace rest with
        | ']' :: tail => .ok (.list [], tail)
        | body => items fuel depth body []
    else if c == '\x7b' then
      match depth with
      | 0 => failAt .deepDict (c :: rest)
      | depth + 1 =>
        match skipSpace rest with
        | '\x7d' :: tail => .ok (.dict [], tail)
        | body => members fuel depth body []
    else match word? (c :: rest) with
      | some found => .ok found
      | none => (number (c :: rest)).map fun (n, tail) => (.num n, tail)

/-- The items of a list that is not empty, up to its closing bracket; those read so far are given
backwards. -/
def items : Nat → Nat → List Char → List Value → Read Value
  | 0, _, cs, _ => failAt .expectedValue cs
  | fuel + 1, depth, cs, done =>
    match value fuel depth cs with
    | .error e => .error e
    | .ok (v, tail) =>
      match skipSpace tail with
      | ']' :: rest => .ok (.list (v :: done).reverse, rest)
      | ',' :: rest => items fuel depth (skipSpace rest) (v :: done)
      | rest => failAt .expectedComma rest

/-- The members of a dictionary that is not empty, up to its closing brace. -/
def members : Nat → Nat → List Char → List (String × Value) → Read Value
  | 0, _, cs, _ => failAt .expectedValue cs
  | fuel + 1, depth, cs, done =>
    match cs with
    | '"' :: rest =>
      match string fuel rest with
      | .error e => .error e
      | .ok (key, tail) =>
        match skipSpace tail with
        | ':' :: rest =>
          match value fuel depth (skipSpace rest) with
          | .error e => .error e
          | .ok (v, tail) =>
            let done := Entries.put key v done
            match skipSpace tail with
            | '\x7d' :: rest => .ok (.dict done, rest)
            | ',' :: rest => members fuel depth (skipSpace rest) done
            | rest => failAt .expectedComma rest
        | rest => failAt .expectedColon rest
    | _ => failAt .expectedKey cs

end

/-- The message of a failure in a text: the problem, and for a syntax problem its line, column and
offset. -/
def Failure.message (f : Failure) (text : List Char) : String :=
  if f.problem.isSyntax then
    let offset := text.length - f.rest.length
    let before := text.take offset
    let line := before.count '\n' + 1
    let column := (before.reverse.takeWhile (· != '\n')).length + 1
    let place := s!": line {line} column {column} (char {offset})"
    f.problem.text ++ place
  else f.problem.text

/-- Reads a whole text as one value between optional spaces. -/
def read (text : List Char) : Except Failure Value :=
  match text with
  | '\uFEFF' :: _ => .error ⟨.byteOrderMark, text⟩
  | _ =>
    match value (2 * text.length + 2) depthLimit (skipSpace text) with
    | .error e => .error e
    | .ok (v, tail) =>
      match skipSpace tail with
      | [] => .ok v
      | rest => .error ⟨.extraData, rest⟩

end Testbed.Json
