import Testbed.Readiness.TimeScale

/-!
# Surroundings of a run

The clocks, the diary and the source of unique numbers that a run lives with.
-/

namespace Testbed

set_option autoImplicit false

structure Surroundings (σ : Type) where
  /-- The clock that deadlines are measured with. -/
  clock : Clock Num σ
  /-- The clock that tells the date. -/
  date : σ → Num
  /-- A number that is larger than all numbers given before. -/
  stamp : Act σ Int
  diary : Diary σ

def uniqueName (start : String) (stamp : Int) : String :=
  start ++ "_" ++ Decimal.paddedInt 9 stamp

namespace Surroundings

variable {σ : Type}

def newName (a : Surroundings σ) (start : String) : Act σ String := do
  let n ← a.stamp
  pure (uniqueName start n)

def deadline (a : Surroundings σ) (seconds : Num) : Act σ Num := do
  Act.ofExcept (numScale.later (← Act.read a.clock.now) seconds)

/-- The seconds left until a deadline, never negative. -/
def remaining (a : Surroundings σ) (deadline : Num) : Act σ Num := do
  Act.ofExcept (numScale.left (← Act.read a.clock.now) deadline)

end Surroundings

end Testbed
