import Testbed.Dsn.Keywords
import Testbed.Dsn.Uri

/-!
# Reading connection strings

A connection string is a URI or a list of keywords.  It ends at its first zero character.
-/

namespace Testbed.Dsn

set_option autoImplicit false

def parse (dsn : String) : Except Problem Settings := do
  let cs := dsn.toList.takeWhile (· != '\x00')
  let stored ← match afterStart? cs with
    | some body => ofUri cs body
    | none => ofKeywords cs
  stored.settings optionNames

/-- The value of an option, empty when it is not set. -/
def Settings.value (s : Settings) (name : String) : String := (Entries.get? name s).getD ""

end Testbed.Dsn
