/-!
# Rows of characters

Characters of large scripts stand in rows of cells, some of which are empty.
-/

namespace Testbed.Text

set_option autoImplicit false

/-- Characters in rows of cells; a space stands for an empty cell. -/
structure Rows where
  rows : Array (Array Char)

namespace Rows

def ofStrings (rows : List String) : Rows := ⟨(rows.map fun r => r.toList.toArray).toArray⟩

/-- The character of a cell; rows and cells are counted from zero. -/
def char? (t : Rows) (row cell : Nat) : Option Char :=
  ((t.rows[row]?).bind fun r => r[cell]?).filter (· != ' ')

def row (t : Rows) (n : Nat) : List Char := ((t.rows[n]?).getD #[]).toList

def chars (t : Rows) : List Char := (t.rows.toList.flatMap (·.toList)).filter (· != ' ')

end Rows

end Testbed.Text
