import Testbed.Proofs.Start.Failure
import Testbed.Proofs.Start.Waiting

/-!
# Starts that are refused

A probe that fails for good is the last one of its wait.  The start that waits raises its fault and
destroys the instance, whatever time was left.
-/

namespace Testbed

set_option autoImplicit false

open FamilyAct Act

variable {η ρ κ σ τ N α : Type}

theorem Act.observed_events {x : Act σ α} {note : σ → Except Fault α → σ → N} {s t : List N × σ}
    {r : Except Fault α} (h : x.observed note s = (r, t)) : t.1 = s.1 ++ [note s.2 r t.2] := by
  rcases hx : x s.2 with ⟨q, u⟩
  cases h.symm.trans (observed_of_eq note s.1 hx)
  rfl

namespace Polling

/-- No probe failed for good. -/
def Mendable (p : Polling τ σ) (events : List (WaitEvent τ σ)) : Prop :=
  ∀ endpoint s e t, .probe endpoint s (.error e) t ∈ events → p.Transient e

/-- A probe that failed for good is the last event, and its fault is the result. -/
def Halts (p : Polling τ σ) (r : Except Fault Unit) (events : List (WaitEvent τ σ)) : Prop :=
  ∀ endpoint s e t, .probe endpoint s (.error e) t ∈ events → ¬ p.Transient e →
    r = .error e ∧ events.getLast? = some (.probe endpoint s (.error e) t)

variable {p : Polling τ σ} {events : List (WaitEvent τ σ)}

theorem Mendable.halts (h : p.Mendable events) (r : Except Fault Unit) : p.Halts r events :=
  fun endpoint s e t hm he => absurd (h endpoint s e t hm) he

theorem Mendable.concat (h : p.Mendable events) {x : WaitEvent τ σ}
    (hx : ∀ endpoint s e t, x = .probe endpoint s (.error e) t → p.Transient e) :
    p.Mendable (events ++ [x]) := by
  intro endpoint s e t hm
  rcases List.mem_append.mp hm with hm | hm
  · exact h endpoint s e t hm
  · exact hx endpoint s e t (List.mem_singleton.mp hm).symm

theorem watched_carries (p : Polling τ σ) :
    p.watched.Carries (fun s => p.Mendable s.1) (fun r s => p.Halts r s.1) where
  ready s t hs h := by
    rw [observed_events h]
    refine (hs.concat ?_).halts _
    rintro _ _ _ _ ⟨⟩
  failed s e t hs h he := by
    rw [observed_events h]
    refine hs.concat ?_
    rintro _ _ _ _ ⟨⟩
    exact he
  refused s e t hs h he := by
    rw [observed_events h]
    intro endpoint u d v hm hd
    rcases List.mem_append.mp hm with hm | hm
    · exact absurd (hs endpoint u d v hm) hd
    · cases List.mem_singleton.mp hm
      exact ⟨rfl, List.getLast?_concat⟩
  stopped e s hs := hs.halts _
  sleep n s hs := by
    rcases h : p.watched.clock.sleep n s with ⟨r, t⟩
    rw [observed_events h]
    refine hs.concat ?_
    rintro _ _ _ _ ⟨⟩
  write _ _ _ _ hs := hs
  reported _ _ _ _ hs := hs

/-- A wait is over at the first probe that fails for good. -/
theorem awaitReady_halts {s t : σ} {r : Except Fault Unit}
    (h : p.watched.awaitReady ([], s) = (r, (events, t))) : p.Halts r events := by
  have hend := awaitReady_carries p.watched_carries ([], s) fun _ _ _ _ hm => by cases hm
  rw [h] at hend
  exact hend

theorem awaitReady_of_refused {s t : σ} {e : Fault} {deadline : τ}
    (hd : p.scale.later (p.clock.now s) p.timeout = .ok deadline) (hn : 0 < p.probeLimit)
    (h : p.probe p.endpoint s = (.error e, t)) (he : ¬ p.Transient e) :
    p.watched.awaitReady ([], s) = (.error e, ([.probe p.endpoint s (.error e) t], t)) := by
  have hdeadline : (Act.ofExcept (p.scale.later (p.clock.now s) p.timeout) :
      Act (List (WaitEvent τ σ) × σ) τ) ([], s) = (.ok deadline, ([], s)) := by
    rw [hd]
    rfl
  obtain ⟨n, hlimit⟩ : ∃ n, p.watched.probeLimit = n + 1 :=
    Nat.exists_eq_succ_of_ne_zero (Nat.ne_of_gt hn)
  refine (bind_of_ok hdeadline).trans ?_
  rw [hlimit]
  exact poll_of_refused (p := p.watched) (observed_of_eq _ [] h) he

end Polling

theorem attemptProbe_of_refused {b : Backing η ρ κ σ} {f : Family ρ κ} {o o' : σ} {e : Fault}
    (hf : f.handle.client = none) (h : b.service.connect f.handle o = (.error e, o'))
    (endpoint : String) : attemptProbe b endpoint (f, o) = (.error e, (f, o')) := by
  have hconnect : Act.outside (b.service.connect f.handle) (f, o) = (.error e, (f, o')) := by
    simp only [Act.outside, h]
  have hclient : ensureClient b (f, o) = (.error e, (f, o')) := by
    rw [ensureClient, handle_bind, hf]
    exact bind_of_error hconnect
  exact bind_of_error hclient

/-- A start that launched its instance and comes to wait for it. -/
structure Awaits (p : Provisioner η ρ κ σ) (s : Service η ρ κ σ) (o : StartOptions η)
    (runtime : Option (Runtime ρ σ)) (st : Estate ρ κ σ) (l : Launched η ρ κ σ)
    (id : InstanceId) (timeout : Num) (f : Family ρ κ) (st' : Estate ρ κ σ) : Prop where
  supported : (o.wantsTemplate && !s.supportsTemplates) = false
  launched : ∃ st₁, Estate.around (launchInstance p s o runtime) st = (.ok l, st₁) ∧
    id = st₁.families.length ∧ ∃ st₂,
      Estate.onFamily id (findEndpoint l.backing o) (l.enrolled st₁) = (.ok (), st₂) ∧
      Estate.around (p.around.remaining l.deadline) st₂ = (.ok timeout, st')
  family : st'.families[id]? = some f

namespace Awaits

variable {p : Provisioner η ρ κ σ} {s : Service η ρ κ σ} {o : StartOptions η}
  {runtime : Option (Runtime ρ σ)} {st st' : Estate ρ κ σ} {l : Launched η ρ κ σ}
  {id : InstanceId} {timeout : Num} {f f' : Family ρ κ}
  {events : List (WaitEvent Num (Family ρ κ × σ))} {o' : σ} {e : Fault}

theorem service (h : Awaits p s o runtime st l id timeout f st') : l.backing.service = s := by
  obtain ⟨st₁, hl, -⟩ := h.launched
  obtain ⟨used, c, hb, -⟩ := launchInstance_ok (around_ok hl).1
  rw [hb]

theorem not_transient (h : Awaits p s o runtime st l id timeout f st')
    (he : e.isOrdinary = true → s.isTransient e = false) :
    ¬ (readinessPolling p l.backing f.handle.endpoint timeout).Transient e := by
  rintro ⟨ho, ht⟩
  have ht : l.backing.service.isTransient e = true := ht
  rw [h.service, he ho] at ht
  cases ht

theorem start_of_unready (h : Awaits p s o runtime st l id timeout f st')
    (hw : (readinessPolling p l.backing f.handle.endpoint timeout).awaitReady (f, st'.outside) =
      (.error e, (f', o'))) :
    ∃ q st'', Estate.onFamily id (discard l.backing)
        { families := st'.families.set id f', outside := o' } = (q, st'') ∧
      ∀ register, start p s o runtime register st =
        (.error ((unready s.name f.handle.endpoint e).followedBy q), st'') := by
  obtain ⟨st₁, hl, rfl, st₂, hfound, hremaining⟩ := h.launched
  have hwait : Estate.onFamily st₁.families.length (waitReady p l.backing timeout) st' =
      (.error (unready s.name f.handle.endpoint e),
        { families := st'.families.set st₁.families.length f', outside := o' }) := by
    refine onFamily_of_eq h.family ?_
    rw [waitReady_apply, hw, h.service]
    rfl
  have hbring : bringUp p l.backing o l.deadline st₁.families.length (l.enrolled st₁) =
      (.error (unready s.name f.handle.endpoint e), _) :=
    (bind_of_ok hfound).trans ((bind_of_ok hremaining).trans (bind_of_error hwait))
  rcases hd : Estate.onFamily st₁.families.length (discard l.backing) _ with ⟨q, st''⟩
  exact ⟨q, st'', rfl, start_of_failed h.supported hl hbring hd⟩

/-- A probe that fails for good ends the wait of a start and with it the start. -/
theorem start_of_refused (h : Awaits p s o runtime st l id timeout f st') {r : Except Fault Unit}
    (hw : (readinessPolling p l.backing f.handle.endpoint timeout).watched.awaitReady
      ([], (f, st'.outside)) = (r, (events, (f', o')))) {endpoint : String}
    {u v : Family ρ κ × σ} (hm : .probe endpoint u (.error e) v ∈ events)
    (he : e.isOrdinary = true → s.isTransient e = false) :
    events.getLast? = some (.probe endpoint u (.error e) v) ∧
    ∃ q st'', Estate.onFamily id (discard l.backing)
        { families := st'.families.set id f', outside := o' } = (q, st'') ∧
      ∀ register, start p s o runtime register st =
        (.error ((unready s.name f.handle.endpoint e).followedBy q), st'') := by
  obtain ⟨rfl, hlast⟩ := Polling.awaitReady_halts hw _ _ _ _ hm (h.not_transient he)
  have hsame := Polling.watched_maps
    (readinessPolling p l.backing f.handle.endpoint timeout) ([], (f, st'.outside))
  rw [hw] at hsame
  exact ⟨hlast, h.start_of_unready hsame⟩

end Awaits

end Testbed
