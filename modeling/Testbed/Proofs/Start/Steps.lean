import Testbed.Proofs.Readiness.Doubles
import Testbed.Proofs.Start.Trace

/-!
# The steps of a start

Every step of a start is known by what it can do: its result, the instance it leaves, and what
happens in it.  Steps follow each other in one order, and the first that fails is the last.
-/

namespace Testbed

set_option autoImplicit false

open FamilyAct Act

variable {η ρ κ σ α β ι ε : Type}

/-! Steps in a row. -/

/-- A row of steps, run until one of them fails. -/
inductive Proceeds (step : Stage → ι → Except Fault Unit → ι → List ε → Prop) :
    List Stage → ι → Except (Stage × Fault) Unit → ι → List ε → Prop
  | done {i : ι} : Proceeds step [] i (.ok ()) i []
  | failed {g : Stage} {gs : List Stage} {i i' : ι} {e : Fault} {events : List ε} :
      step g i (.error e) i' events → Proceeds step (g :: gs) i (.error (g, e)) i' events
  | next {g : Stage} {gs : List Stage} {i i₁ i' : ι} {q : Except (Stage × Fault) Unit}
      {events events' : List ε} : step g i (.ok ()) i₁ events →
      Proceeds step gs i₁ q i' events' → Proceeds step (g :: gs) i q i' (events ++ events')

/-- The result of a row of steps: the fault of the one that failed. -/
def outcome (q : Except (Stage × Fault) Unit) : Except Fault Unit := q.mapError Prod.snd

namespace Proceeds

variable {step : Stage → ι → Except Fault Unit → ι → List ε → Prop} {gs gs' : List Stage}
  {i i₁ i' : ι} {events events' : List ε}

theorem single {g : Stage} {r : Except Fault Unit} (h : step g i r i' events) :
    ∃ q, outcome q = r ∧ Proceeds step [g] i q i' events := by
  rcases r with e | ⟨⟩
  · exact ⟨.error (g, e), rfl, .failed h⟩
  · have hn := Proceeds.next h .done
    rw [List.append_nil] at hn
    exact ⟨.ok (), rfl, hn⟩

theorem append {q : Except (Stage × Fault) Unit} (h : Proceeds step gs i (.ok ()) i₁ events)
    (h' : Proceeds step gs' i₁ q i' events') :
    Proceeds step (gs ++ gs') i q i' (events ++ events') := by
  generalize hr : (.ok () : Except (Stage × Fault) Unit) = r at h
  induction h with
  | done => exact h'
  | failed _ => cases hr
  | next hs _ ih =>
    rw [List.append_assoc]
    exact .next hs (ih h' hr)

/-- Nothing follows the step that failed. -/
theorem stop {g : Stage} {e : Fault} (h : Proceeds step gs i (.error (g, e)) i' events)
    (gs' : List Stage) : Proceeds step (gs ++ gs') i (.error (g, e)) i' events := by
  generalize hr : (.error (g, e) : Except (Stage × Fault) Unit) = r at h
  induction h with
  | done => cases hr
  | failed hs =>
    cases hr
    exact .failed hs
  | next hs _ ih => exact .next hs (ih hr)

/-- A row of steps that succeeds is made of steps that succeed. -/
theorem uncons {g : Stage} (h : Proceeds step (g :: gs) i (.ok ()) i' events) :
    ∃ i₁ first rest, events = first ++ rest ∧ step g i (.ok ()) i₁ first ∧
      Proceeds step gs i₁ (.ok ()) i' rest := by
  cases h with
  | next hs h' => exact ⟨_, _, _, rfl, hs, h'⟩

/-- The step that failed failed. -/
theorem failure {g : Stage} {e : Fault} (h : Proceeds step gs i (.error (g, e)) i' events) :
    g ∈ gs ∧ ∃ j last, step g j (.error e) i' last := by
  generalize hr : (.error (g, e) : Except (Stage × Fault) Unit) = r at h
  induction h with
  | done => cases hr
  | failed hs =>
    cases hr
    exact ⟨List.mem_cons_self, _, _, hs⟩
  | next _ _ ih =>
    obtain ⟨hg, hs⟩ := ih hr
    exact ⟨List.mem_cons_of_mem _ hg, hs⟩

end Proceeds

/-- All steps of a start in their order. -/
def Stage.order : List Stage :=
  [.runtime, .launch, .expiry, .endpoint, .readiness, .postStart, .template]

/-! The steps. -/

/-- A readiness attempt: a client is connected when there is none, and then probed. -/
abbrev Attempting : Course ρ κ Unit := Course.Then Ensuring fun _ => Probing

/-- Attempts until one succeeds or nothing is to be hoped for any more. -/
inductive Waiting : Course ρ κ Unit
  | ready {f f' : Family ρ κ} {calls : List (Call ρ κ)} : Attempting f (.ok ()) f' calls →
      Waiting f (.ok ()) f' calls
  | failed {f f' : Family ρ κ} {e : Fault} {calls : List (Call ρ κ)} (d : Fault) :
      Attempting f (.error e) f' calls → Waiting f (.error d) f' calls
  | again {f f₁ f' : Family ρ κ} {e : Fault} {r : Except Fault Unit}
      {calls calls' : List (Call ρ κ)} : Attempting f (.error e) f₁ calls →
      Waiting f₁ r f' calls' → Waiting f r f' (calls ++ calls')

/-- Waiting, with the fault that is raised from that of a failed wait. -/
inductive Readying (service : String) : Course ρ κ Unit
  | ready {f f' : Family ρ κ} {calls : List (Call ρ κ)} : Waiting f (.ok ()) f' calls →
      Readying service f (.ok ()) f' calls
  | interrupted {f f' : Family ρ κ} {e : Fault} {calls : List (Call ρ κ)} :
      Waiting f (.error e) f' calls → e.isOrdinary = false →
      Readying service f (.error e) f' calls
  | timedOut {f f' : Family ρ κ} {e : Fault} {calls : List (Call ρ κ)} :
      Waiting f (.error e) f' calls → e.isReadinessTimeout = true →
      Readying service f (.error e) f' calls
  | failed {f f' : Family ρ κ} {e : Fault} {calls : List (Call ρ κ)} :
      Waiting f (.error e) f' calls →
      Readying service f (.error (Fault.raisedFrom (.setup .general .readiness
        s!"Could not connect to {service} at '{f.handle.endpoint}': {e.message}") e)) f' calls

/-- What the hooks of a start can do to the instance. -/
abbrev HookPath (η ρ κ : Type) :=
  η → Family ρ κ → Except Fault Unit → Family ρ κ → List (StartEvent η ρ κ) → Prop

/-- Hooks that only look at the instance. -/
def HookPath.looking : HookPath η ρ κ := fun hook f r f' events => f' = f ∧ events = [.hook hook r]

def cannotRun (hook : String) (e : Fault) : Incident :=
  .setup .postStart .postStart s!"Could not run post-start operation {hook}: {e.message}"

/-- Running hooks in their order. -/
inductive Hooking (label : η → String) (does : HookPath η ρ κ) :
    List η → Family ρ κ → Except Fault Unit → Family ρ κ → List (StartEvent η ρ κ) → Prop
  | done {f : Family ρ κ} : Hooking label does [] f (.ok ()) f []
  | failed {hook : η} {rest : List η} {f f' : Family ρ κ} {e : Fault}
      {events : List (StartEvent η ρ κ)} : does hook f (.error e) f' events →
      Hooking label does (hook :: rest) f (.error (wrapped (cannotRun (label hook)) e)) f' events
  | next {hook : η} {rest : List η} {f f₁ f' : Family ρ κ} {r : Except Fault Unit}
      {events events' : List (StartEvent η ρ κ)} : does hook f (.ok ()) f₁ events →
      Hooking label does rest f₁ r f' events' →
      Hooking label does (hook :: rest) f r f' (events ++ events')

def Service.cannotLaunch (s : Service η ρ κ σ) (container : String) (e : Fault) : Incident :=
  .setup .launch .launch s!"Unable to start {s.name} container '{container}': {e.message}"

def Handle.cannotSchedule (h : Handle ρ κ) (e : Fault) : Incident :=
  .setup .launch .expiry s!"Unable to schedule expiry of '{h.logicalName}': {e.message}"

/-- What each step of a start can do.  Until the container is launched there is no instance. -/
inductive StartStep (b : Backing η ρ κ σ) (o : StartOptions η) (owned : Bool)
    (label : η → String) (does : HookPath η ρ κ) :
    Stage → Option (Family ρ κ) → Except Fault Unit → Option (Family ρ κ) →
      List (StartEvent η ρ κ) → Prop
  | reach (t : σ) : StartStep b o owned label does .runtime none (b.runtime.ping t).1 none
      [.call (.ping (b.runtime.ping t).1)]
  | unspecified (name : String) {e : Fault} (t : σ) :
      (b.service.launchSpec name o t).1 = .error e →
      StartStep b o owned label does .launch none (.error e) none
        [.call (.launchSpec name (.error e))]
  | unlaunched (name : String) (spec : LaunchSpec) (labels : List (String × String)) (e : Fault) :
      StartStep b o owned label does .launch none
        (.error (wrapped (b.service.cannotLaunch spec.name) e)) none
        [.call (.launchSpec name (.ok spec)), .call (.launch { spec with labels } (.error e))]
  | launched (name : String) (spec : LaunchSpec) (labels : List (String × String)) (c : ρ) :
      StartStep b o owned label does .launch none (.ok ())
        (some { handle := { container := c, logicalName := o.nameOr b.service.defaultLogicalName,
                            ownsRuntime := owned } })
        [.call (.launchSpec name (.ok spec)), .call (.launch { spec with labels } (.ok c))]
  | schedule {f : Family ρ κ} (q : Except Fault Unit) :
      StartStep b o owned label does .expiry (some f)
        (q.mapError (wrapped f.handle.cannotSchedule)) (some f)
        [.call (.scheduleExpiry f.handle.container o.timeout q)]
  | unlocated {f : Family ρ κ} {e : Fault} (t : σ) :
      (b.runtime.endpoint f.handle.container b.service.containerPort t).1 = .error e →
      StartStep b o owned label does .endpoint (some f) (.error e) (some f)
        [.call (.endpoint f.handle.container b.service.containerPort (.error e))]
  | located {f : Family ρ κ} (endpoint : String) :
      StartStep b o owned label does .endpoint (some f) (.ok ())
        (some (f.onHandle fun h => { h with endpoint }))
        [.call (.endpoint f.handle.container b.service.containerPort (.ok endpoint))]
  | wait {f f' : Family ρ κ} {r : Except Fault Unit} {calls : List (Call ρ κ)} :
      Readying b.service.name f r f' calls →
      StartStep b o owned label does .readiness (some f) r (some f') (calls.map .call)
  | hooks {f f' : Family ρ κ} {r : Except Fault Unit} {events : List (StartEvent η ρ κ)} :
      Hooking label does o.hooks f r f' events →
      StartStep b o owned label does .postStart (some f) r (some f') events
  | plain {f : Family ρ κ} : o.wantsTemplate = false →
      StartStep b o owned label does .template (some f) (.ok ()) (some f) []
  | mark {f f' : Family ρ κ} {r : Except Fault Unit} {calls : List (Call ρ κ)} :
      o.wantsTemplate = true → Promoting none f r f' calls →
      StartStep b o owned label does .template (some f) r (some f') (calls.map .call)

/-! No step does anything else. -/

namespace TakesTraced

variable {x : FamilyAct ρ κ (Traced η ρ κ σ) α}

/-- Idle actions in a row are idle. -/
theorem bind_idle {g : α → FamilyAct ρ κ (Traced η ρ κ σ) β} (hx : TakesTraced x Course.Idle)
    (hg : ∀ a, TakesTraced (g a) Course.Idle) : TakesTraced (x >>= g) Course.Idle := by
  refine (hx.bind hg).mono fun f r f' calls h => ?_
  cases h with
  | failed h => exact h
  | next h h' =>
    obtain ⟨rfl, rfl⟩ := h
    obtain ⟨rfl, rfl⟩ := h'
    exact ⟨rfl, rfl⟩

theorem read_idle (g : Family ρ κ × Traced η ρ κ σ → α) :
    TakesTraced (Act.read g) (Course.Idle (ρ := ρ) (κ := κ)) :=
  fun f l s => ⟨_, f, [], s, by rw [List.map_nil, List.append_nil]; rfl, rfl, rfl⟩

theorem ofExcept_idle (r : Except Fault α) :
    TakesTraced (Act.ofExcept r : FamilyAct ρ κ (Traced η ρ κ σ) α) Course.Idle := by
  intro f l s
  refine ⟨r, f, [], s, ?_, rfl, rfl⟩
  rw [List.map_nil, List.append_nil]
  cases r <;> rfl

end TakesTraced

theorem attemptProbe_traced (b : Backing η ρ κ σ) (endpoint : String) :
    TakesTraced (attemptProbe b.traced endpoint) Attempting :=
  ((ensureClient_takes b).traced fun first => ensureClient_maps (b.recorded_maps first)).bind
    fun _ => (probeClient_takes b endpoint).traced fun first =>
      probeClient_maps (b.recorded_maps first) endpoint

/-- Going on after an attempt that failed: giving up, or waiting again. -/
def Resuming : Course ρ κ Unit := fun f r f' calls =>
  ((∃ d, r = .error d) ∧ f' = f ∧ calls = []) ∨ Waiting f r f' calls

theorem resuming_of_idle {x : FamilyAct ρ κ (Traced η ρ κ σ) α}
    {g : α → FamilyAct ρ κ (Traced η ρ κ σ) Unit} (hx : TakesTraced x Course.Idle)
    (hg : ∀ a, TakesTraced (g a) Resuming) : TakesTraced (x >>= g) Resuming := by
  refine (hx.bind hg).mono fun f r f' calls h => ?_
  cases h with
  | failed h => exact .inl ⟨⟨_, rfl⟩, h⟩
  | next h h' =>
    obtain ⟨rfl, rfl⟩ := h
    exact h'

theorem fail_resuming (e : Fault) :
    TakesTraced (Act.fail e : FamilyAct ρ κ (Traced η ρ κ σ) Unit) Resuming :=
  fun f l s => ⟨.error e, f, [], s, by rw [List.map_nil, List.append_nil]; rfl,
    .inl ⟨⟨e, rfl⟩, rfl, rfl⟩⟩

/-- A wait whose probes are attempts, and that makes no other calls. -/
structure Polling.Attempts (p : Polling Num (Family ρ κ × Traced η ρ κ σ)) : Prop where
  probe : ∀ endpoint, TakesTraced (p.probe endpoint) Attempting
  sleep : ∀ n, TakesTraced (p.clock.sleep n) Course.Idle
  write : ∀ level topic text f l s, ∃ s', p.diary.write level topic text (f, (l, s)) = (f, (l, s'))

namespace Polling

variable {p : Polling Num (Family ρ κ × Traced η ρ κ σ)}

theorem pause_idle (hp : p.Attempts) (attempt : Nat) (remaining : Num) (last : Fault) :
    TakesTraced (p.pause attempt remaining last) Course.Idle := by
  refine .bind_idle (.ofExcept_idle _) fun brief => .bind_idle ?_ fun _ => hp.sleep _
  intro f l s
  obtain ⟨s', hs⟩ := hp.write .debug .readiness _ f l s
  exact ⟨.ok (), f, [], s', by rw [List.map_nil, List.append_nil, ← hs]; rfl, rfl, rfl⟩

/-- An attempt makes a wait when what follows a failed one does. -/
theorem attempt_waits (hp : p.Attempts) {text : String}
    {next : Fault → FamilyAct ρ κ (Traced η ρ κ σ) Unit} (hn : ∀ e, TakesTraced (next e) Resuming) :
    TakesTraced (do
      match ← Act.attempt (p.probe p.endpoint) with
      | .ok _ => p.diary.debug .readiness text
      | .error e => next e) Waiting := by
  intro f l s
  obtain ⟨r, f₁, calls, s₁, hx, t⟩ := hp.probe p.endpoint f l s
  rcases r with e | ⟨⟩
  · cases ho : e.isOrdinary with
    | false => exact ⟨_, f₁, calls, s₁, bind_of_error (attempt_of_interruption hx ho), .failed e t⟩
    | true =>
      rw [bind_of_ok (attempt_of_ordinary hx ho)]
      obtain ⟨r, f', calls', s', hr, ht⟩ := hn e f₁ (l ++ calls.map .call) s₁
      refine ⟨r, f', calls ++ calls', s', ?_, ?_⟩
      · rw [List.map_append, ← List.append_assoc]
        exact hr
      · rcases ht with ⟨⟨d, rfl⟩, rfl, rfl⟩ | hw
        · rw [List.append_nil]
          exact .failed d t
        · exact .again t hw
  · rw [bind_of_ok (attempt_of_ok hx)]
    obtain ⟨s', hs⟩ := hp.write .debug .readiness text f₁ (l ++ calls.map .call) s₁
    exact ⟨.ok (), f₁, calls, s', by rw [← hs]; rfl, .ready t⟩

/-- After a failed attempt a poll gives up or goes on, when going on is as it should be. -/
theorem poll_resumes (hp : p.Attempts) {deadline : Num} {next : FamilyAct ρ κ (Traced η ρ κ σ) Unit}
    (hn : TakesTraced next Resuming) (attempt : Nat) (e : Fault) :
    TakesTraced (if p.tolerates e then do
        let remaining ← Act.ofExcept (p.scale.left (← Act.read p.clock.now) deadline)
        if p.scale.isZero remaining then Act.fail (Fault.raisedFrom (p.timedOut attempt e) e)
        else do
          p.pause attempt remaining e
          next
      else Act.fail e) Resuming := by
  split
  · refine resuming_of_idle (.read_idle _) fun now => resuming_of_idle (.ofExcept_idle _) ?_
    intro remaining
    split
    · exact fail_resuming _
    · exact resuming_of_idle (pause_idle hp _ _ _) fun _ => hn
  · exact fail_resuming e

/-- A poll that may probe at least once makes attempts until it is ready or gives up. -/
theorem poll_waits (hp : p.Attempts) (deadline : Num) (fuel attempt : Nat) :
    TakesTraced (p.poll deadline (fuel + 1) attempt) Waiting := by
  induction fuel generalizing attempt with
  | zero => exact attempt_waits hp fun e => poll_resumes hp (fail_resuming _) attempt e
  | succ fuel ih =>
    refine attempt_waits hp fun e => poll_resumes hp ((ih (attempt + 1)).mono ?_) attempt e
    exact fun f r f' calls h => .inr h

/-- A wait whose deadline is on the scale makes at least one attempt. -/
theorem awaitReady_waits (hp : p.Attempts) (hl : 0 < p.probeLimit)
    (hd : ∀ s, ∃ d, p.scale.later (p.clock.now s) p.timeout = .ok d) :
    TakesTraced p.awaitReady Waiting := by
  intro f l s
  obtain ⟨d, hd⟩ := hd (f, (l, s))
  obtain ⟨fuel, hf⟩ := Nat.exists_eq_add_of_lt hl
  have hpoll := poll_waits hp d fuel 1 f l s
  rw [← Nat.zero_add fuel, ← hf] at hpoll
  have hrun : p.awaitReady (f, (l, s)) = p.poll d p.probeLimit 1 (f, (l, s)) := by
    rw [awaitReady, read_bind, hd]
    rfl
  rw [hrun]
  exact hpoll

end Polling

/-- Clocks tell doubles, and unique numbers do not run out. -/
structure Surroundings.Regular (a : Surroundings σ) : Prop where
  now : ∀ s, ∃ x, a.clock.now s = .real x
  date : ∀ s, ∃ x, a.date s = .real x
  stamp : ∀ s, ∃ n s', a.stamp s = (.ok n, s')

theorem waitReady_traced {p : Provisioner η ρ κ (Traced η ρ κ σ)} {b : Backing η ρ κ σ}
    (hp : p.around = b.around.beside) (ha : b.around.Regular) (timeout : Float) :
    TakesTraced (waitReady p b.traced (.real timeout)) (Readying b.service.name) := by
  intro f l s
  have attempts : (readinessPolling p b.traced f.handle.endpoint (.real timeout)).Attempts := {
    probe := attemptProbe_traced b
    sleep := fun n => by
      change TakesTraced (Act.outside (p.around.clock.sleep n)) _
      rw [hp]
      exact outside_idle (b.around.clock.sleep n)
    write := fun level topic text f l s => by
      refine ⟨b.around.diary.write level topic text s, ?_⟩
      change (f, p.around.diary.write level topic text (l, s)) = _
      rw [hp]
      rfl }
  obtain ⟨r, f', calls, s', hx, t⟩ := Polling.awaitReady_waits attempts (Nat.succ_pos _)
    (fun s => by
      obtain ⟨x, hn⟩ := ha.now s.2.2
      refine ⟨_, (congrArg (numScale.later · (.real timeout)) ?_).trans (later_real x timeout)⟩
      change p.around.clock.now s.2 = _
      rw [hp]
      exact hn) f l s
  rw [waitReady, handle_bind]
  rcases r with e | ⟨⟩
  · cases ho : e.isOrdinary with
    | false =>
      exact ⟨.error e, f', calls, s', bind_of_error (attempt_of_interruption hx ho),
        .interrupted t ho⟩
    | true =>
      rw [bind_of_ok (attempt_of_ordinary hx ho)]
      cases hr : e.isReadinessTimeout with
      | true => exact ⟨.error e, f', calls, s', by simp only [hr, if_true]; rfl, .timedOut t hr⟩
      | false =>
        refine ⟨_, f', calls, s', ?_, .failed t⟩
        simp only [hr, Bool.false_eq_true, if_false]
        rfl
  · exact ⟨.ok (), f', calls, s', bind_of_ok (attempt_of_ok hx), .ready t⟩

end Testbed
