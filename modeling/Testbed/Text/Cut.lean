import Testbed.Text.Classes

/-!
# Cutting texts

A text is cut at a character, around a shorter text, into lines or into words.
-/

namespace Testbed.Text

set_option autoImplicit false

/-- What stands before the first occurrence of a character, and after it if there is one. -/
def cutFirst (c : Char) (cs : List Char) : List Char × Option (List Char) :=
  match cs.dropWhile (· != c) with
  | [] => (cs, none)
  | _ :: rest => (cs.takeWhile (· != c), some rest)

/-- What stands before the last occurrence of a character, if there is one, and after it. -/
def cutLast (c : Char) (cs : List Char) : Option (List Char) × List Char :=
  match cs.reverse.dropWhile (· != c) with
  | [] => (none, cs)
  | _ :: rest => (some rest.reverse, (cs.reverse.takeWhile (· != c)).reverse)

def startsWith (head : String) (s : String) : Bool := head.toList.isPrefixOf s.toList

def holdsChars (needle : List Char) : List Char → Bool
  | [] => needle.isEmpty
  | c :: rest => needle.isPrefixOf (c :: rest) || holdsChars needle rest

/-- Whether a text holds another. -/
def holds (needle s : String) : Bool := holdsChars needle.toList s.toList

def dropHead? : List Char → List Char → Option (List Char)
  | [], cs => some cs
  | h :: head, c :: cs => if h == c then dropHead? head cs else none
  | _ :: _, [] => none

/-- What stands before and after the first occurrence of a text in another. -/
def cutAround? (needle : List Char) : List Char → Option (List Char × List Char)
  | [] => (dropHead? needle []).map fun rest => ([], rest)
  | c :: cs =>
    match dropHead? needle (c :: cs) with
    | some rest => some ([], rest)
    | none => (cutAround? needle cs).map fun (before, after) => (c :: before, after)

/-- The lines of a text after the start of one, which is given backwards. -/
def linesFrom (start : List Char) : List Char → List (List Char)
  | [] => if start.isEmpty then [] else [start.reverse]
  | '\r' :: '\n' :: rest => start.reverse :: linesFrom [] rest
  | c :: rest =>
    if c == '\n' || c == '\r' then start.reverse :: linesFrom [] rest
    else linesFrom (c :: start) rest

/-- The lines of a text, without their ends.  A line ends with a line feed, a carriage return, or
both in that order. -/
def lines (cs : List Char) : List (List Char) := linesFrom [] cs

/-- The words of a text after the start of one, which is given backwards. -/
def wordsFrom (start : List Char) : List Char → List (List Char)
  | [] => if start.isEmpty then [] else [start.reverse]
  | c :: rest =>
    if isBlank c then
      if start.isEmpty then wordsFrom [] rest else start.reverse :: wordsFrom [] rest
    else wordsFrom (c :: start) rest

/-- The words of a text, which stand between blanks. -/
def words (cs : List Char) : List (List Char) := wordsFrom [] cs

end Testbed.Text
