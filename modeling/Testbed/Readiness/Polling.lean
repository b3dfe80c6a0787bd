import Testbed.Readiness.TimeScale

/-!
# Waiting until an instance is ready

An instance is probed until a probe succeeds, a probe fails for good, or the deadline has passed.
The sleeps between probes grow by the same amount each time up to a cap, and no sleep reaches
beyond the deadline.  The number of probes is bounded, by whatever number a wait is given.
-/

namespace Testbed

set_option autoImplicit false

variable {τ σ : Type}

/-- The sleep after a number of failed probes. -/
def backoff (scale : TimeScale τ) (interval maxBackoff : τ) (attempt : Nat) : τ :=
  scale.least (scale.times interval attempt) maxBackoff

structure Polling (τ σ : Type) where
  scale : TimeScale τ
  clock : Clock τ σ
  diary : Diary σ
  endpoint : String
  probe : String → Act σ Unit
  timeout : τ
  interval : τ
  maxBackoff : τ
  /-- Whether a failure can go away by waiting; without it any failure can. -/
  isTransient : Option (Fault → Bool)
  /-- The most probes of one wait. -/
  probeLimit : Nat

namespace Polling

/-- Whether waiting may help after a failed probe. -/
def tolerates (p : Polling τ σ) (f : Fault) : Bool :=
  match p.isTransient with
  | none => true
  | some test => test f

def timedOut (p : Polling τ σ) (attempts : Nat) (last : Fault) : Incident :=
  let start := s!"Instance at '{p.endpoint}' not ready after {p.scale.text p.timeout}s "
  .setup .readinessTimeout .readiness (start ++ s!"({attempts} probes): {last.message}")

def pause (p : Polling τ σ) (attempt : Nat) (remaining : τ) (last : Fault) : Act σ Unit := do
  let nap := p.scale.least (backoff p.scale p.interval p.maxBackoff attempt) remaining
  let brief ← Act.ofExcept (p.scale.brief nap)
  p.diary.debug .readiness
    (s!"Instance at '{p.endpoint}' not ready yet ({last.message}), " ++
      s!"sleeping {brief}s before next probe.")
  p.clock.sleep nap

/-- Probes again and again, from a given attempt on, at most a given number of times. -/
def poll (p : Polling τ σ) (deadline : τ) : Nat → Nat → Act σ Unit
  | 0, _ => Act.raise .exhausted
  | fuel + 1, attempt => do
    match ← Act.attempt (p.probe p.endpoint) with
    | .ok _ =>
      p.diary.debug .readiness s!"Instance at '{p.endpoint}' ready after {attempt} probe(s)."
    | .error f =>
      if p.tolerates f then
        let remaining ← Act.ofExcept (p.scale.left (← Act.read p.clock.now) deadline)
        if p.scale.isZero remaining then
          Act.fail (Fault.raisedFrom (p.timedOut attempt f) f)
        else
          p.pause attempt remaining f
          poll p deadline fuel (attempt + 1)
      else Act.fail f

def awaitReady (p : Polling τ σ) : Act σ Unit := do
  let deadline ← Act.ofExcept (p.scale.later (← Act.read p.clock.now) p.timeout)
  p.poll deadline p.probeLimit 1

end Polling

end Testbed
