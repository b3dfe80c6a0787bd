import Testbed.Text.Classes

/-!
# Runs of letters with a common distance to their counterparts

The letters of one case that lie in a row, or alternate with those of the other case, are one run.
-/

namespace Testbed.Text

set_option autoImplicit false

/-- A run of letters: every `step`-th code point from `first` to `last` has its counterpart
`distance` further on. -/
structure CaseRun where
  first : Nat
  last : Nat
  step : Nat
  distance : Int

namespace CaseRun

def ofTuple : Nat × Nat × Nat × Int → CaseRun
  | (a, b, s, d) => ⟨a, b, s, d⟩

def holds (r : CaseRun) (code : Nat) : Bool :=
  r.first ≤ code && code ≤ r.last && (code - r.first) % r.step == 0

/-- The counterpart of a character in one of some runs, or the character itself. -/
def counterpart (runs : List CaseRun) (c : Char) : Char :=
  match runs.find? (·.holds c.toNat) with
  | some r => Char.ofNat (Int.toNat (Int.ofNat c.toNat + r.distance))
  | none => c

end CaseRun

end Testbed.Text
