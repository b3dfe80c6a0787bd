import Testbed.Idna.Context
import Testbed.Idna.Letters
import Testbed.Idna.Punycode

/-!
# Labels of internationalised names

A label in any script is written in ASCII behind a mark.  It has to be composed, its hyphens and
marks have to stand in their places, and its characters have to go together.
-/

namespace Testbed.Idna

set_option autoImplicit false

def maxLength : Nat := 63

def mark : List Char := ['x', 'n', '-', '-']

/-- Hyphens stand neither at an end nor both third and fourth. -/
def hyphensFit (label : List Char) : Bool :=
  (label.drop 2).take 2 != ['-', '-'] && label.head? != some '-' && label.getLast? != some '-'

def isMark (c : Char) : Bool := directionOf c == .mark || isSpacingMark c

/-- Whether each character may stand where it does; those before are given backwards. -/
def charactersFit (before : List Char) : List Char → Bool
  | [] => true
  | c :: rest => (isLetter c || fitsBetween before c rest) && charactersFit (c :: before) rest

def isValid (label : List Char) : Bool :=
  !label.isEmpty && hyphensFit label && !label.head?.any isMark && charactersFit [] label &&
    Text.isComposed label && isReadable label

def encode? (label : List Char) : Option (List Char) :=
  let ascii := mark ++ punycode label
  if isValid label && ascii.length ≤ maxLength then some ascii else none

/-- A label of any kind in ASCII; one that is marked already is kept. -/
def encodeAny? (label : List Char) : Option (List Char) :=
  if !label.all (·.toNat < firstCode) then encode? label
  else if (mark.isPrefixOf label || isValid label) && label.length ≤ maxLength then some label
  else none

end Testbed.Idna
