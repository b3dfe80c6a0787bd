import Testbed.Act

/-!
# Time scales

Waiting is arithmetic on durations.  A time scale says what durations are and how they are
written; the program runs on numbers with their kinds, and reasoning about exact time can run on
another scale.
-/

namespace Testbed

set_option autoImplicit false

/-- The arithmetic and the wording of durations. -/
structure TimeScale (τ : Type) where
  /-- A later time; it may lie outside the scale. -/
  later : τ → τ → Except Fault τ
  /-- The time from a moment to a deadline, zero when it has passed. -/
  left : τ → τ → Except Fault τ
  /-- A duration repeated a number of times. -/
  times : τ → Nat → τ
  /-- The first duration, unless the second is shorter. -/
  least : τ → τ → τ
  isZero : τ → Bool
  text : τ → String
  /-- With two places. -/
  brief : τ → Except Fault String

def outOfRange : Fault := Fault.of (.host .outOfRange "int too large to convert to float")

def inRange {α : Type} (n : Option α) : Except Fault α := n.elim (.error outOfRange) .ok

def numScale : TimeScale Num where
  later a b := inRange (Num.add? a b)
  left now deadline := inRange ((Num.sub? deadline now).map Num.atLeastZero)
  times a n := (Num.mul? a (.int (Int.ofNat n))).getD a
  least := Num.least
  isZero := Num.isZero
  text := Decimal.ofNum
  brief a := inRange (Decimal.fixed? 2 a)

inductive Level where
  | debug
  | info
  | warning
  | error
  deriving DecidableEq, Repr

inductive Topic where
  | runtime
  | instances
  | templates
  | cache
  | readiness
  | provisioner
  | postgres
  | postgresDb
  | elasticsearch
  | fixtures
  deriving DecidableEq, Repr

structure Clock (τ σ : Type) where
  now : σ → τ
  sleep : τ → Act σ Unit

structure Diary (σ : Type) where
  write : Level → Topic → String → σ → σ

namespace Diary

variable {σ : Type}

def debug (d : Diary σ) (t : Topic) (text : String) : Act σ Unit :=
  Act.update (d.write .debug t text)

def info (d : Diary σ) (t : Topic) (text : String) : Act σ Unit :=
  Act.update (d.write .info t text)

def warning (d : Diary σ) (t : Topic) (text : String) : Act σ Unit :=
  Act.update (d.write .warning t text)

end Diary

end Testbed
