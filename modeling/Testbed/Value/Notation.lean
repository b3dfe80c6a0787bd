import Testbed.Value.Basic
import Testbed.Number.Digits
import Testbed.Text.Classes

/-!
# Literal notation of values

Messages show values as literals: texts in quotes with escapes, lists in brackets, dictionaries
in braces.  A text is quoted with apostrophes unless it holds an apostrophe and no double quote.
-/

namespace Testbed

set_option autoImplicit false

namespace Literal

/-- A natural number in base sixteen, padded with zeros to a width. -/
def hex (width n : Nat) : List Char :=
  let ds := Nat.toDigits 16 n
  List.replicate (width - ds.length) '0' ++ ds

/-- The quote of a literal whose characters satisfy the two tests. -/
def quoteFor (hasApostrophe hasQuote : Bool) : Char :=
  if hasApostrophe && !hasQuote then '"' else '\''

def escape (quote c : Char) : List Char :=
  if c == quote || c == '\\' then ['\\', c]
  else if c == '\n' then ['\\', 'n']
  else if c == '\r' then ['\\', 'r']
  else if c == '\t' then ['\\', 't']
  else if Text.isPrintable c then [c]
  else if c.toNat < 0x100 then '\\' :: 'x' :: hex 2 c.toNat
  else if c.toNat < 0x10000 then '\\' :: 'u' :: hex 4 c.toNat
  else '\\' :: 'U' :: hex 8 c.toNat

def ofText (s : String) : String :=
  let cs := s.toList
  let quote := quoteFor (cs.contains '\'') (cs.contains '"')
  String.ofList (quote :: cs.flatMap (escape quote) ++ [quote])

def escapeByte (quote : Char) (b : UInt8) : List Char :=
  let c := Char.ofNat b.toNat
  if c == quote || c == '\\' then ['\\', c]
  else if c == '\n' then ['\\', 'n']
  else if c == '\r' then ['\\', 'r']
  else if c == '\t' then ['\\', 't']
  else if 32 ≤ b.toNat && b.toNat < 127 then [c]
  else '\\' :: 'x' :: hex 2 b.toNat

def ofBytes (bytes : List UInt8) : String :=
  let quote := quoteFor (bytes.contains 39) (bytes.contains 34)
  String.ofList ('b' :: quote :: bytes.flatMap (escapeByte quote) ++ [quote])

end Literal

namespace Value

mutual

def literal : Value → String
  | null => "None"
  | bool true => "True"
  | bool false => "False"
  | num n => Decimal.ofNum n
  | text s => Literal.ofText s
  | list items => "[" ++ literalItems items ++ "]"
  | dict entries => "\x7b" ++ literalEntries entries ++ "\x7d"

def literalItems : List Value → String
  | [] => ""
  | [v] => literal v
  | v :: rest => literal v ++ ", " ++ literalItems rest

def literalEntries : List (String × Value) → String
  | [] => ""
  | [(k, v)] => Literal.ofText k ++ ": " ++ literal v
  | (k, v) :: rest => Literal.ofText k ++ ": " ++ literal v ++ ", " ++ literalEntries rest

end

/-- A value inside a message: a text stands for itself, anything else is a literal. -/
def display : Value → String
  | text s => s
  | v => literal v

end Value

end Testbed
