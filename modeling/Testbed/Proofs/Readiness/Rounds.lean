import Testbed.Proofs.Projection

/-!
# Rounds of a wait

A wait can be watched: every probe and every sleep is noted together with how it ended and the
states before and after it.  A watched wait is made of rounds, each a probe that failed and the
sleep after it, and of one last probe.
-/

namespace Testbed

set_option autoImplicit false

open Act

variable {τ σ N α : Type}

/-- An action on the second part of a state, noted with the states before and after it. -/
def Act.observed (x : Act σ α) (note : σ → Except Fault α → σ → N) : Act (List N × σ) α := fun s =>
  match x s.2 with
  | (r, t) => (r, (s.1 ++ [note s.2 r t], t))

theorem Act.observed_of_eq {x : Act σ α} {s t : σ} {r : Except Fault α}
    (note : σ → Except Fault α → σ → N) (l : List N) (h : x s = (r, t)) :
    x.observed note (l, s) = (r, (l ++ [note s r t], t)) := by
  simp only [observed, h]

inductive WaitEvent (τ σ : Type) where
  | probe (endpoint : String) (before : σ) (result : Except Fault Unit) (after : σ)
  | sleep (duration : τ) (before : σ) (result : Except Fault Unit) (after : σ)

namespace WaitEvent

def isProbe : WaitEvent τ σ → Bool
  | probe _ _ _ _ => true
  | sleep _ _ _ _ => false

def before : WaitEvent τ σ → σ
  | probe _ s _ _ => s
  | sleep _ s _ _ => s

def after : WaitEvent τ σ → σ
  | probe _ _ _ t => t
  | sleep _ _ _ t => t

end WaitEvent

namespace Polling

def watched (p : Polling τ σ) : Polling τ (List (WaitEvent τ σ) × σ) where
  scale := p.scale
  clock := {
    now := fun s => p.clock.now s.2
    sleep := fun n => (p.clock.sleep n).observed (.sleep n) }
  diary := p.diary.beside
  endpoint := p.endpoint
  probe endpoint := (p.probe endpoint).observed (.probe endpoint)
  timeout := p.timeout
  interval := p.interval
  maxBackoff := p.maxBackoff
  isTransient := p.isTransient
  probeLimit := p.probeLimit

/-- A fault that waiting may mend. -/
def Transient (p : Polling τ σ) (e : Fault) : Prop :=
  e.isOrdinary = true ∧ p.tolerates e = true

def left (p : Polling τ σ) (deadline : τ) (t : σ) : Except Fault τ :=
  p.scale.left (p.clock.now t) deadline

/-- The sleep after the `k`-th probe. -/
def nap (p : Polling τ σ) (k : Nat) (left : τ) : τ :=
  p.scale.least (p.scale.least (p.scale.times p.interval k) p.maxBackoff) left

/-- The times of a wait can be computed and written down. -/
structure Measures (p : Polling τ σ) (deadline : τ) : Prop where
  left : ∀ t, ∃ left, p.left deadline t = .ok left
  brief : ∀ k ≤ p.probeLimit, ∀ t left, p.left deadline t = .ok left →
    ∃ text, p.scale.brief (p.nap k left) = .ok text

/-- The `k`-th probe failed with time left, and a sleep followed it. -/
inductive Round (p : Polling τ σ) (deadline : τ) (k : Nat) :
    σ → Except Fault Unit → σ → List (WaitEvent τ σ) → Prop
  | mk {s t u : σ} {e : Fault} {left : τ} {q : Except Fault Unit} (text : String) :
      p.probe p.endpoint s = (.error e, t) → p.Transient e → p.left deadline t = .ok left →
      p.scale.isZero left = false →
      p.clock.sleep (p.nap k left) (p.diary.write .debug .readiness text t) = (q, u) →
      Round p deadline k s q u [.probe p.endpoint s (.error e) t,
        .sleep (p.nap k left) (p.diary.write .debug .readiness text t) q u]

/-- What a wait can do from its `k`-th probe on, with at most a number of probes. -/
inductive Runs (p : Polling τ σ) (deadline : τ) :
    Nat → Nat → σ → Except Fault Unit → σ → List (WaitEvent τ σ) → Prop
  | cut {k : Nat} {s : σ} : Runs p deadline 0 k s (.error (.of .exhausted)) s []
  | ready {n k : Nat} {s t : σ} (text : String) : p.probe p.endpoint s = (.ok (), t) →
      Runs p deadline (n + 1) k s (.ok ()) (p.diary.write .debug .readiness text t)
        [.probe p.endpoint s (.ok ()) t]
  | refused {n k : Nat} {s t : σ} {e : Fault} : p.probe p.endpoint s = (.error e, t) →
      ¬ p.Transient e →
      Runs p deadline (n + 1) k s (.error e) t [.probe p.endpoint s (.error e) t]
  | timedOut {n k : Nat} {s t : σ} {e : Fault} {left : τ} :
      p.probe p.endpoint s = (.error e, t) → p.Transient e → p.left deadline t = .ok left →
      p.scale.isZero left = true →
      Runs p deadline (n + 1) k s (.error (Fault.raisedFrom (p.timedOut k e) e)) t
        [.probe p.endpoint s (.error e) t]
  | disturbed {n k : Nat} {s u : σ} {d : Fault} {events : List (WaitEvent τ σ)} :
      p.Round deadline k s (.error d) u events → Runs p deadline (n + 1) k s (.error d) u events
  | again {n k : Nat} {s u v : σ} {r : Except Fault Unit} {events more : List (WaitEvent τ σ)} :
      p.Round deadline k s (.ok ()) u events → Runs p deadline n (k + 1) u r v more →
      Runs p deadline (n + 1) k s r v (events ++ more)

section Watched

variable {p : Polling τ σ} {deadline : τ}

/-- Watching a wait changes nothing about it. -/
theorem watched_maps (p : Polling τ σ) : Act.Maps Prod.snd p.watched.awaitReady p.awaitReady := by
  have pause (k : Nat) (left : τ) (e : Fault) :
      Act.Maps Prod.snd (p.watched.pause k left e) (p.pause k left e) := by
    refine .bind (.ofExcept _) fun brief => .bind (.update fun _ => rfl) fun _ => ?_
    exact fun _ => rfl
  have poll (deadline : τ) (n k : Nat) :
      Act.Maps Prod.snd (p.watched.poll deadline n k) (p.poll deadline n k) := by
    induction n generalizing k with
    | zero => exact .fail _
    | succ n ih =>
      have probe : Act.Maps Prod.snd (p.watched.probe p.endpoint) (p.probe p.endpoint) :=
        fun _ => rfl
      refine .bind probe.attempt fun r => ?_
      cases r with
      | ok _ => exact .update fun _ => rfl
      | error e =>
        refine .ite (.bind (.read fun _ => rfl) fun now => .bind (.ofExcept _) fun left => ?_)
          (.fail _)
        exact .ite (.fail _) (.bind (pause k left e) fun _ => ih (k + 1))
  exact .bind (.read fun _ => rfl) fun now => .bind (.ofExcept _) fun deadline => poll _ _ _

def resting (p : Polling τ σ) (brief : String) (last : Fault) : String :=
  s!"Instance at '{p.endpoint}' not ready yet ({last.message}), " ++
    s!"sleeping {brief}s before next probe."

theorem pause_of_brief {k : Nat} {left : τ} {brief : String}
    (h : p.scale.brief (p.nap k left) = .ok brief) (e : Fault) (s : σ) :
    p.pause k left e s = p.clock.sleep (p.nap k left)
      (p.diary.write .debug .readiness (p.resting brief e) s) := by
  have hb : (Act.ofExcept (p.scale.brief (p.nap k left)) : Act σ String) s = (.ok brief, s) := by
    rw [h]
    rfl
  exact bind_of_ok hb

theorem poll_of_left {n k : Nat} {s t : σ} {e : Fault} {left : τ}
    (h : p.probe p.endpoint s = (.error e, t)) (he : p.Transient e)
    (hl : p.left deadline t = .ok left) : p.poll deadline (n + 1) k s =
      bif p.scale.isZero left then (.error (Fault.raisedFrom (p.timedOut k e) e), t)
      else (p.pause k left e >>= fun _ => p.poll deadline n (k + 1)) t := by
  have hleft : (Act.ofExcept (p.left deadline t) : Act σ τ) t = (.ok left, t) := by
    rw [hl]
    rfl
  refine (bind_of_ok (attempt_of_ordinary h he.1)).trans ?_
  dsimp only
  rw [if_pos he.2, read_bind]
  refine (bind_of_ok hleft).trans ?_
  cases p.scale.isZero left <;> rfl

theorem poll_of_refused {n k : Nat} {s t : σ} {e : Fault}
    (h : p.probe p.endpoint s = (.error e, t)) (he : ¬ p.Transient e) :
    p.poll deadline (n + 1) k s = (.error e, t) := by
  cases ho : e.isOrdinary with
  | false => exact bind_of_error (attempt_of_interruption h ho)
  | true =>
    refine (bind_of_ok (attempt_of_ordinary h ho)).trans ?_
    dsimp only
    rw [if_neg fun ht => he ⟨ho, ht⟩]
    rfl

theorem pause_rounds (hm : p.Measures deadline) {k : Nat} (hk : k ≤ p.probeLimit) {s t : σ}
    {e : Fault} {left : τ} (h : p.probe p.endpoint s = (.error e, t)) (he : p.Transient e)
    (hl : p.left deadline t = .ok left) (hz : p.scale.isZero left = false)
    (l : List (WaitEvent τ σ)) : ∃ q u events,
      p.watched.pause k left e (l ++ [.probe p.endpoint s (.error e) t], t) =
        (q, (l ++ events, u)) ∧ p.Round deadline k s q u events := by
  obtain ⟨brief, hb⟩ := hm.brief k hk t left hl
  rcases hs : p.clock.sleep (p.nap k left)
    (p.diary.write .debug .readiness (p.resting brief e) t) with ⟨q, u⟩
  have hpause := pause_of_brief (p := p.watched) hb e (l ++ [.probe p.endpoint s (.error e) t], t)
  have hsleep : p.watched.clock.sleep (p.nap k left) (_, _) = _ :=
    observed_of_eq _ (l ++ [.probe p.endpoint s (.error e) t]) hs
  rw [List.append_assoc] at hsleep
  exact ⟨q, u, _, hpause.trans hsleep, .mk _ h he hl hz hs⟩

/-- Every poll is made of rounds and a last probe. -/
theorem poll_runs (hm : p.Measures deadline) (n k : Nat) (hk : k + n ≤ p.probeLimit + 1)
    (l : List (WaitEvent τ σ)) (s : σ) : ∃ r s' events,
      p.watched.poll deadline n k (l, s) = (r, (l ++ events, s')) ∧
        p.Runs deadline n k s r s' events := by
  -- the number of the probe and the probes to come never exceed the limit, which is as far as
  -- the lengths of sleeps are known to be writable
  induction n generalizing k l s with
  | zero => exact ⟨_, s, [], by rw [List.append_nil]; rfl, .cut⟩
  | succ n ih =>
    rcases h : p.probe p.endpoint s with ⟨e | ⟨⟩, t⟩
    · have hw : p.watched.probe p.watched.endpoint (l, s) = _ := observed_of_eq _ l h
      by_cases he : p.Transient e
      · obtain ⟨left, hleft⟩ := hm.left t
        have hpoll := poll_of_left (p := p.watched) (n := n) (k := k) hw he hleft
        cases hz : p.scale.isZero left with
        | true =>
          rw [show p.watched.scale.isZero left = true from hz, cond_true] at hpoll
          exact ⟨_, t, _, hpoll, .timedOut h he hleft hz⟩
        | false =>
          rw [show p.watched.scale.isZero left = false from hz, cond_false] at hpoll
          obtain ⟨q, u, events, hpause, hround⟩ :=
            pause_rounds (k := k) hm (by omega) h he hleft hz l
          rcases q with d | ⟨⟩
          · exact ⟨.error d, u, events, hpoll.trans (bind_of_error hpause), .disturbed hround⟩
          · obtain ⟨r, s', more, hr, hruns⟩ := ih (k + 1) (by omega) (l ++ events) u
            rw [List.append_assoc] at hr
            exact ⟨r, s', _, hpoll.trans ((bind_of_ok hpause).trans hr), .again hround hruns⟩
      · exact ⟨.error e, t, _, poll_of_refused (p := p.watched) hw he, .refused h he⟩
    · have hw : p.watched.probe p.watched.endpoint (l, s) = _ := observed_of_eq _ l h
      exact ⟨.ok (), _, _, bind_of_ok (attempt_of_ok hw), .ready _ h⟩

theorem awaitReady_runs {s : σ} (hd : p.scale.later (p.clock.now s) p.timeout = .ok deadline)
    (hm : p.Measures deadline) : ∃ r s' events,
      p.watched.awaitReady ([], s) = (r, (events, s')) ∧ p.awaitReady s = (r, s') ∧
        p.Runs deadline p.probeLimit 1 s r s' events := by
  obtain ⟨r, s', events, hpoll, hruns⟩ := poll_runs hm p.probeLimit 1 (by omega) [] s
  have hdeadline : (Act.ofExcept (p.scale.later (p.clock.now s) p.timeout) :
      Act (List (WaitEvent τ σ) × σ) τ) ([], s) = (.ok deadline, ([], s)) := by
    rw [hd]
    rfl
  have hrun : p.watched.awaitReady ([], s) = (r, (events, s')) := (bind_of_ok hdeadline).trans hpoll
  have hsame := watched_maps p ([], s)
  rw [hrun] at hsame
  exact ⟨r, s', events, hrun, hsame, hruns⟩

end Watched

end Polling

end Testbed
