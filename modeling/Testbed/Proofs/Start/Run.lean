import Testbed.Proofs.Start.Failure
import Testbed.Proofs.Start.Steps

/-!
# Runs of a start

A start takes its steps in their order and stops at the first that fails.  Then only the teardown
follows; when all steps succeed, whoever wants to know is told of the new instance.
-/

namespace Testbed

set_option autoImplicit false

open FamilyAct Act

variable {η ρ κ σ α : Type}

/-- Starts are traced: collaborators are, and what hooks do is known. -/
structure Provisioner.Traces (p : Provisioner η ρ κ (Traced η ρ κ σ)) (a : Surroundings σ)
    (new : Act σ (Runtime ρ σ)) (does : HookPath η ρ κ) : Prop where
  around : p.around = a.beside
  newRuntime : p.newRuntime = do
    let r ← Act.outside new
    pure r.traced
  hooks : ∀ b hook id (st : Estate ρ κ (Traced η ρ κ σ)) f, st.families[id]? = some f →
    ∃ r f' events st', p.runHook b hook id st = (r, st') ∧ st'.families[id]? = some f' ∧
      st'.outside.1 = st.outside.1 ++ events ∧ does hook f r f' events

/-- Starts with hooks that only look at the instance. -/
def Provisioner.looking (a : Surroundings σ) (new : Act σ (Runtime ρ σ))
    (look : η → InstanceId → EstateAct ρ κ (Traced η ρ κ σ) Unit) (label : η → String) :
    Provisioner η ρ κ (Traced η ρ κ σ) where
  around := a.beside
  newRuntime := do
    let r ← Act.outside new
    pure r.traced
  runHook _ hook id := fun st =>
    let (r, st') := look hook id st
    (r, { st with outside := (st.outside.1 ++ [.hook hook r], st'.outside.2) })
  hookLabel := label
  pollInterval := .real 1
  maxBackoff := .real 1
  furtherProbes := 10

theorem Provisioner.looking_traces (a : Surroundings σ) (new : Act σ (Runtime ρ σ))
    (look : η → InstanceId → EstateAct ρ κ (Traced η ρ κ σ) Unit) (label : η → String) :
    (Provisioner.looking a new look label).Traces a new .looking where
  around := rfl
  newRuntime := rfl
  hooks _ _ _ _ f hf := ⟨_, f, _, _, rfl, hf, rfl, rfl, rfl⟩

/-- Somebody who is told of a new instance, which is noted. -/
def Estate.telling (tell : InstanceId → Act σ Unit) (id : InstanceId) :
    EstateAct ρ κ (Traced η ρ κ σ) Unit :=
  Estate.around ((tell id).noted (.register id))

/-- The teardown of a start that failed: an own runtime is closed as long as there is no instance,
and an instance is destroyed. -/
inductive TearingDown (owned : Bool) :
    Option (Family ρ κ) → Except Fault Unit → Option (Family ρ κ) →
      List (StartEvent η ρ κ) → Prop
  | kept : owned = false → TearingDown owned none (.ok ()) none []
  | ownRuntime (q : Except Fault Unit) : owned = true →
      TearingDown owned none q none [.call (.closeRuntime q)]
  | discarded {f f' : Family ρ κ} {q : Except Fault Unit} {calls : List (Call ρ κ)} :
      Discarding f q f' calls → TearingDown owned (some f) q (some f') (calls.map .call)

/-- The runtime that a start uses: the given one, or a new one. -/
def Uses (new : Act σ (Runtime ρ σ)) (runtime : Option (Runtime ρ σ)) (used : Runtime ρ σ) : Prop :=
  runtime = some used ∨ runtime = none ∧ ∃ t, (new t).1 = .ok used

section BringUp

variable {b : Backing η ρ κ σ} {o : StartOptions η} {owned : Bool} {label : η → String}
  {does : HookPath η ρ κ} {id : InstanceId}

/-- An action on one instance that takes some steps of a start, and no others. -/
def Runs (step : Stage → Option (Family ρ κ) → Except Fault Unit → Option (Family ρ κ) →
    List (StartEvent η ρ κ) → Prop) (id : InstanceId)
    (x : EstateAct ρ κ (Traced η ρ κ σ) Unit) (gs : List Stage) : Prop :=
  ∀ st f, st.families[id]? = some f → ∃ q f' events st', x st = (outcome q, st') ∧
    st'.families[id]? = some f' ∧ st'.outside.1 = st.outside.1 ++ events ∧
    Proceeds step gs (some f) q (some f') events

theorem Runs.bind {step : Stage → Option (Family ρ κ) → Except Fault Unit → Option (Family ρ κ) →
    List (StartEvent η ρ κ) → Prop} {x y : EstateAct ρ κ (Traced η ρ κ σ) Unit}
    {gs gs' : List Stage} (hx : Runs step id x gs) (hy : Runs step id y gs') :
    Runs step id (x >>= fun _ => y) (gs ++ gs') := by
  intro st f hf
  obtain ⟨q, f₁, first, st₁, hx, hf₁, hl₁, hq⟩ := hx st f hf
  rcases q with ⟨g, e⟩ | ⟨⟩
  · exact ⟨.error (g, e), f₁, first, st₁, bind_of_error hx, hf₁, hl₁, hq.stop gs'⟩
  · obtain ⟨q', f', rest, st', hy, hf', hl', hq'⟩ := hy st₁ f₁ hf₁
    refine ⟨q', f', first ++ rest, st', (bind_of_ok hx).trans hy, hf', ?_, hq.append hq'⟩
    rw [hl', hl₁, List.append_assoc]

theorem onFamily_runs {step : Stage → Option (Family ρ κ) → Except Fault Unit →
    Option (Family ρ κ) → List (StartEvent η ρ κ) → Prop}
    {x : FamilyAct ρ κ (Traced η ρ κ σ) Unit} {gs : List Stage}
    (hx : ∀ f l s, ∃ q f' events s', x (f, (l, s)) = (outcome q, (f', (l ++ events, s'))) ∧
      Proceeds step gs (some f) q (some f') events) : Runs step id (Estate.onFamily id x) gs := by
  intro st f hf
  obtain ⟨q, f', events, s', hx, hq⟩ := hx f st.outside.1 st.outside.2
  refine ⟨q, f', events, _, onFamily_of_eq hf hx, ?_, rfl, hq⟩
  exact List.getElem?_set_self (List.getElem?_eq_some_iff.mp hf).1

/-- One step whose course is known. -/
theorem runs_of_takes {x : FamilyAct ρ κ (Traced η ρ κ σ) Unit} {c : Course ρ κ Unit} {g : Stage}
    (hx : TakesTraced x c) (hc : ∀ f r f' calls, c f r f' calls →
      StartStep b o owned label does g (some f) r (some f') (calls.map .call)) :
    Runs (StartStep b o owned label does) id (Estate.onFamily id x) [g] := by
  refine onFamily_runs fun f l s => ?_
  obtain ⟨r, f', calls, s', hx, t⟩ := hx f l s
  obtain ⟨q, rfl, hq⟩ := Proceeds.single (hc f r f' calls t)
  exact ⟨q, f', calls.map .call, s', hx, hq⟩

theorem findEndpoint_runs : Runs (StartStep b o owned label does) id
    (Estate.onFamily id (findEndpoint b.traced o)) [.expiry, .endpoint] := by
  refine onFamily_runs fun f l s => ?_
  rw [findEndpoint, handle_bind]
  rcases h : b.runtime.scheduleExpiry f.handle.container o.timeout s with ⟨e | ⟨⟩, s₁⟩
  · have hs : b.traced.runtime.scheduleExpiry f.handle.container o.timeout (l, s) = _ :=
      called_of_eq _ l h
    exact ⟨.error (.expiry, _), f, _, s₁, bind_of_error (outside_of_eq f (orRaise_of_error _ hs)),
      .failed (.schedule (.error e))⟩
  · have hs : b.traced.runtime.scheduleExpiry f.handle.container o.timeout (l, s) = _ :=
      called_of_eq _ l h
    rw [bind_of_ok (outside_of_eq f (orRaise_of_ok _ hs))]
    have scheduled : StartStep b o owned label does .expiry (some f) (.ok ()) (some f)
        [.call (.scheduleExpiry f.handle.container o.timeout (.ok ()))] := .schedule (.ok ())
    rcases h' : b.runtime.endpoint f.handle.container b.service.containerPort s₁ with ⟨e | n, s₂⟩
    · have he : b.traced.runtime.endpoint f.handle.container b.traced.service.containerPort
          (_, s₁) = _ := called_of_eq _ (l ++
            [.call (.scheduleExpiry f.handle.container o.timeout (.ok ()))]) h'
      rw [List.append_assoc] at he
      exact ⟨.error (.endpoint, e), f, _, s₂, bind_of_error (outside_of_eq f he),
        .next scheduled (.failed (.unlocated s₁ (by rw [h'])))⟩
    · have he : b.traced.runtime.endpoint f.handle.container b.traced.service.containerPort
          (_, s₁) = _ := called_of_eq _ (l ++
            [.call (.scheduleExpiry f.handle.container o.timeout (.ok ()))]) h'
      rw [List.append_assoc] at he
      exact ⟨.ok (), _, _, s₂, bind_of_ok (outside_of_eq f he),
        .next scheduled (.next (StartStep.located n) .done)⟩

variable {p : Provisioner η ρ κ (Traced η ρ κ σ)} {a : Surroundings σ}
  {new : Act σ (Runtime ρ σ)}

theorem runHooks_hooking (hp : p.Traces a new does) (hooks : List η)
    (st : Estate ρ κ (Traced η ρ κ σ)) (f : Family ρ κ) (hf : st.families[id]? = some f) :
    ∃ r f' events st', runHooks p b.traced id hooks st = (r, st') ∧
      st'.families[id]? = some f' ∧ st'.outside.1 = st.outside.1 ++ events ∧
      Hooking p.hookLabel does hooks f r f' events := by
  induction hooks generalizing st f with
  | nil => exact ⟨.ok (), f, [], st, rfl, hf, (List.append_nil _).symm, .done⟩
  | cons hook rest ih =>
    obtain ⟨r, f₁, first, st₁, hx, hf₁, hl₁, hd⟩ := hp.hooks b.traced hook id st f hf
    rw [runHooks]
    rcases r with e | ⟨⟩
    · exact ⟨_, f₁, first, st₁, bind_of_error (orRaise_of_error _ hx), hf₁, hl₁, .failed hd⟩
    · obtain ⟨r, f', events, st', hy, hf', hl', hh⟩ := ih st₁ f₁ hf₁
      refine ⟨r, f', first ++ events, st', (bind_of_ok (orRaise_of_ok _ hx)).trans hy, hf', ?_,
        .next hd hh⟩
      rw [hl', hl₁, List.append_assoc]

theorem runHooks_runs (hp : p.Traces a new does) :
    Runs (StartStep b o owned p.hookLabel does) id (runHooks p b.traced id o.hooks)
      [.postStart] := by
  intro st f hf
  obtain ⟨r, f', events, st', hx, hf', hl', hh⟩ := runHooks_hooking hp o.hooks st f hf
  have step : StartStep b o owned p.hookLabel does .postStart (some f) r (some f') events :=
    .hooks hh
  obtain ⟨q, rfl, hq⟩ := Proceeds.single step
  exact ⟨q, f', events, st', hx, hf', hl', hq⟩

theorem mark_runs (ht : (o.wantsTemplate && !b.service.supportsTemplates) = false) :
    Runs (StartStep b o owned label does) id
      (if o.wantsTemplate then Estate.onFamily id (promote b.traced) else pure ()) [.template] := by
  cases hw : o.wantsTemplate with
  | false =>
    intro st f hf
    have step : StartStep b o owned label does .template (some f) (.ok ()) (some f) [] := .plain hw
    obtain ⟨q, hq, hs⟩ := Proceeds.single step
    exact ⟨q, f, [], st, by rw [hq]; rfl, hf, (List.append_nil _).symm, hs⟩
  | true =>
    have hs : b.service.supportsTemplates = true := by simpa [hw] using ht
    have hx := (promote_takes b).traced fun first => promote_maps (b.recorded_maps first)
    rw [hs, if_pos rfl] at hx
    exact runs_of_takes hx fun f r f' calls t => .mark hw t

/-- From the launched container to the open instance. -/
theorem bringUp_runs (owned : Bool) (hp : p.Traces a new does) (ha : a.Regular) (hb : b.around = a)
    (ht : (o.wantsTemplate && !b.service.supportsTemplates) = false) (deadline : Float) :
    Runs (StartStep b o owned p.hookLabel does) id (bringUp p b.traced o (.real deadline) id)
      [.expiry, .endpoint, .readiness, .postStart, .template] := by
  subst hb
  refine Runs.bind findEndpoint_runs
    (?_ : Runs _ id (_ >>= _) ([.readiness] ++ [.postStart, .template]))
  intro st f hf
  obtain ⟨x, hn⟩ := ha.now st.outside.2
  obtain ⟨y, hy⟩ := left_real x deadline
  have hr : Estate.around (p.around.remaining (.real deadline)) st = (.ok (.real y), st) := by
    rw [hp.around]
    change (match (Act.ofExcept (numScale.left (b.around.clock.now st.outside.2) _) :
      Act (Traced η ρ κ σ) Num) st.outside with | (r, o) => (r, { st with outside := o })) = _
    rw [hn, hy]
    rfl
  have waits : Runs (StartStep b o owned p.hookLabel does) id
      (Estate.onFamily id (waitReady p b.traced (.real y))) [.readiness] :=
    runs_of_takes (waitReady_traced hp.around ha y) fun f r f' calls t => .wait t
  rw [bind_of_ok hr]
  exact (waits.bind ((runHooks_runs hp).bind (mark_runs ht))) st f hf

/-! Launching. -/

theorem newName_regular (ha : a.Regular) (start : String) (l : List (StartEvent η ρ κ)) (t : σ) :
    ∃ name t', (a.beside : Surroundings (Traced η ρ κ σ)).newName start (l, t) =
      (.ok name, (l, t')) := by
  obtain ⟨n, t', hn⟩ := ha.stamp t
  exact ⟨uniqueName start n, t', bind_of_ok (outside_of_eq l hn)⟩

/-- The instance of a container that was just launched. -/
def Backing.newFamily (b : Backing η ρ κ σ) (o : StartOptions η) (owned : Bool) (c : ρ) :
    Family ρ κ where
  handle := { container := c, logicalName := o.nameOr b.service.defaultLogicalName,
              ownsRuntime := owned }

/-- The container is launched, or there is none. -/
theorem launchContainer_step (owned : Bool) (label : η → String) (does : HookPath η ρ κ)
    (hb : b.around.Regular) {x : Float} {d : Num} (hd : numScale.later (.real x) o.timeout = .ok d)
    (l : List (StartEvent η ρ κ)) (t : σ) :
    ∃ r events t', launchContainer b.traced o (o.nameOr b.service.defaultLogicalName) (l, t) =
        (r, (l ++ events, t')) ∧
      (∀ e, r = .error e → StartStep b o owned label does .launch none (.error e) none events) ∧
      ∀ c, r = .ok c → StartStep b o owned label does .launch none (.ok ())
        (some (b.newFamily o owned c)) events := by
  obtain ⟨name, t₁, hname⟩ := newName_regular hb (o.nameOr b.service.defaultLogicalName) l t
  have hname' : (b.traced : Backing η ρ κ (Traced η ρ κ σ)).around.newName
    (o.nameOr b.service.defaultLogicalName) (l, t) = _ := hname
  rcases hspec : b.service.launchSpec name o t₁ with ⟨e | spec, t₂⟩
  · have hs : b.traced.service.launchSpec name o (l, t₁) = _ := called_of_eq _ l hspec
    have hl : labelledSpec b.traced.around b.traced.service o
        (o.nameOr b.service.defaultLogicalName) (l, t) = _ :=
      (bind_of_ok hname').trans (bind_of_error hs)
    refine ⟨.error e, _, t₂, bind_of_error hl, fun e' he => ?_, fun c hc => by cases hc⟩
    cases he
    exact .unspecified name t₁ (by rw [hspec])
  · have hs : b.traced.service.launchSpec name o (l, t₁) = _ := called_of_eq _ l hspec
    obtain ⟨y, hy⟩ := hb.date t₂
    obtain ⟨z, hz⟩ := later_of_ok hd y
    have hl : ∃ labels, labelledSpec b.traced.around b.traced.service o
        (o.nameOr b.service.defaultLogicalName) (l, t) =
        (.ok { spec with labels }, (l ++ [.call (.launchSpec name (.ok spec))], t₂)) := by
      refine ⟨Entries.put Settings.expiresAtLabel (Decimal.ofNum (.real z))
        (Entries.put Settings.logicalNameLabel (o.nameOr b.service.defaultLogicalName) spec.labels),
        (bind_of_ok hname').trans ((bind_of_ok hs).trans ?_)⟩
      rw [read_bind]
      change (Act.ofExcept (numScale.later (b.around.date t₂) o.timeout) >>= _) _ = _
      rw [hy, hz]
      rfl
    obtain ⟨labels, hl⟩ := hl
    rcases hrun : b.runtime.launch { spec with labels } t₂ with ⟨e | c, t₃⟩
    · have hr : b.traced.runtime.launch { spec with labels } (_, t₂) = _ :=
        called_of_eq _ (l ++ [.call (.launchSpec name (.ok spec))]) hrun
      rw [List.append_assoc] at hr
      refine ⟨_, _, t₃, (bind_of_ok hl).trans (orRaise_of_error _ hr), fun e' he => ?_,
        fun c hc => by cases hc⟩
      cases he
      exact .unlaunched name spec labels e
    · have hr : b.traced.runtime.launch { spec with labels } (_, t₂) = _ :=
        called_of_eq _ (l ++ [.call (.launchSpec name (.ok spec))]) hrun
      rw [List.append_assoc] at hr
      refine ⟨.ok c, _, t₃, (bind_of_ok hl).trans (orRaise_of_ok _ hr), fun e he => (by cases he),
        fun c' hc => ?_⟩
      cases hc
      exact .launched name spec labels c

theorem teardown_unlaunched (b : Backing η ρ κ σ) (owned : Bool) (l : List (StartEvent η ρ κ))
    (t : σ) : ∃ q after t',
      (if owned then b.traced.runtime.close else pure () : Act _ Unit) (l, t) =
        (q, (l ++ after, t')) ∧ TearingDown owned none q none after := by
  cases owned with
  | false => exact ⟨.ok (), [], t, by rw [List.append_nil]; rfl, .kept rfl⟩
  | true =>
    rcases h : b.runtime.close t with ⟨q, t'⟩
    have hc : b.traced.runtime.close (l, t) = _ := called_of_eq _ l h
    exact ⟨q, _, t', hc, .ownRuntime q rfl⟩

/-- A launch that failed: the fault of its first failing step, followed by that of the teardown. -/
def LaunchFails (step : Stage → Option (Family ρ κ) → Except Fault Unit → Option (Family ρ κ) →
      List (StartEvent η ρ κ) → Prop) (owned : Bool) (l : List (StartEvent η ρ κ))
    (r : Except Fault α × Traced η ρ κ σ) : Prop :=
  ∃ g e q events after t', r = (.error (e.followedBy q), (l ++ (events ++ after), t')) ∧
    Proceeds step [.runtime, .launch] none (.error (g, e)) none events ∧
    TearingDown owned (none : Option (Family ρ κ)) q none after

theorem launchStep_fails {g : Stage} {e : Fault} {events l : List (StartEvent η ρ κ)} {t t' : σ}
    (hx : (do b.traced.runtime.ping
              launchContainer b.traced o (o.nameOr b.service.defaultLogicalName) : Act _ ρ) (l, t) =
      (.error e, (l ++ events, t')))
    (hq : Proceeds (StartStep b o owned label does) [.runtime, .launch] none (.error (g, e)) none
      events) :
    LaunchFails (StartStep b o owned label does) owned l
      (launchStep b.traced o (o.nameOr b.service.defaultLogicalName) owned (l, t)) := by
  obtain ⟨q, after, t'', hc, htd⟩ := teardown_unlaunched b owned (l ++ events) t'
  rw [List.append_assoc] at hc
  exact ⟨g, e, q, events, after, t'', onFault_of_error hx hc, hq, htd⟩

/-- The runtime is reached and the container is launched, or an own runtime is closed. -/
theorem launchStep_runs (owned : Bool) (label : η → String) (does : HookPath η ρ κ)
    (hb : b.around.Regular) {x : Float} {d : Num} (hd : numScale.later (.real x) o.timeout = .ok d)
    (l : List (StartEvent η ρ κ)) (t : σ) :
    LaunchFails (StartStep b o owned label does) owned l
      (launchStep b.traced o (o.nameOr b.service.defaultLogicalName) owned (l, t)) ∨
    ∃ c events t', launchStep b.traced o (o.nameOr b.service.defaultLogicalName) owned (l, t) =
        (.ok c, (l ++ events, t')) ∧
      Proceeds (StartStep b o owned label does) [.runtime, .launch] none (.ok ())
        (some (b.newFamily o owned c)) events := by
  have reached : StartStep b o owned label does .runtime none (b.runtime.ping t).1 none _ :=
    .reach t
  rcases hping : b.runtime.ping t with ⟨e | ⟨⟩, t₁⟩
  · have hp : b.traced.runtime.ping (l, t) = _ := called_of_eq _ l hping
    rw [hping] at reached
    exact .inl (launchStep_fails (bind_of_error hp) (.failed reached))
  · have hp : b.traced.runtime.ping (l, t) = _ := called_of_eq _ l hping
    rw [hping] at reached
    obtain ⟨r, events, t₂, hl, hf, hok⟩ := launchContainer_step owned label does hb hd
      (l ++ [.call (.ping (.ok ()))]) t₁
    rw [List.append_assoc] at hl
    rcases r with e | c
    · exact .inl (launchStep_fails ((bind_of_ok hp).trans hl) (.next reached (.failed (hf e rfl))))
    · have hn := Proceeds.next reached (.next (hok c rfl) .done)
      rw [List.append_nil] at hn
      exact .inr ⟨c, _, t₂, onFault_of_ok ((bind_of_ok hp).trans hl), hn⟩

end BringUp

/-! The whole start. -/

/-- Telling of a new instance, if there is somebody to tell. -/
inductive Telling (tell? : Option (InstanceId → Act σ Unit)) (id : InstanceId) :
    Except Fault InstanceId → List (StartEvent η ρ κ) → Prop
  | nobody : tell? = none → Telling tell? id (.ok id) []
  | told {tell : InstanceId → Act σ Unit} (t : σ) : tell? = some tell →
      Telling tell? id ((tell id t).1.map fun _ => id) [.register id (tell id t).1]

/-- What is given to a start. -/
structure Given (η ρ κ σ : Type) where
  service : Service η ρ κ σ
  options : StartOptions η
  runtime : Option (Runtime ρ σ)
  tell? : Option (InstanceId → Act σ Unit)

namespace Given

/-- A template was asked for of a service without templates. -/
def refused (x : Given η ρ κ σ) : Bool := x.options.wantsTemplate && !x.service.supportsTemplates

/-- The start, with everything that happens in it noted. -/
def start (x : Given η ρ κ σ) (p : Provisioner η ρ κ (Traced η ρ κ σ)) :
    EstateAct ρ κ (Traced η ρ κ σ) InstanceId :=
  Testbed.start p x.service.traced x.options (x.runtime.map Runtime.traced)
    (x.tell?.map Estate.telling)

/-- What a start can do: its result, the new instance, and what happens in it. -/
inductive Path (x : Given η ρ κ σ) (a : Surroundings σ) (new : Act σ (Runtime ρ σ))
    (label : η → String) (does : HookPath η ρ κ) (id : InstanceId) :
    Except Fault InstanceId → Option (Family ρ κ) → List (StartEvent η ρ κ) → Prop
  | refused : x.refused = true →
      x.Path a new label does id (.error (Service.noTemplates x.service.name)) none []
  /-- The deadline is beyond the range of the clock. -/
  | untimed {now : Float} {e : Fault} : x.refused = false →
      numScale.later (.real now) x.options.timeout = .error e →
      x.Path a new label does id (.error e) none []
  /-- There is no runtime. -/
  | uncreated {e : Fault} (t : σ) : x.refused = false → x.runtime = none →
      (new t).1 = .error e → x.Path a new label does id (.error e) none []
  | failed {used : Runtime ρ σ} {g : Stage} {e : Fault} {q : Except Fault Unit}
      {m m' : Option (Family ρ κ)} {events after : List (StartEvent η ρ κ)} :
      x.refused = false → Uses new x.runtime used →
      Proceeds (StartStep ⟨x.service, used, a⟩ x.options x.runtime.isNone label does) Stage.order
        none (.error (g, e)) m events →
      TearingDown x.runtime.isNone m q m' after →
      x.Path a new label does id (.error (e.followedBy q)) m' (events ++ after)
  | started {used : Runtime ρ σ} {f : Family ρ κ} {r : Except Fault InstanceId}
      {events told : List (StartEvent η ρ κ)} : x.refused = false → Uses new x.runtime used →
      Proceeds (StartStep ⟨x.service, used, a⟩ x.options x.runtime.isNone label does) Stage.order
        none (.ok ()) (some f) events →
      Telling x.tell? id r told → x.Path a new label does id r (some f) (events ++ told)

end Given

section Ends

variable {p : Provisioner η ρ κ σ} {s : Service η ρ κ σ} {o : StartOptions η}
  {runtime : Option (Runtime ρ σ)} {st st₁ st₂ st₃ : Estate ρ κ σ}

theorem start_of_unlaunched {e : Fault} (ht : (o.wantsTemplate && !s.supportsTemplates) = false)
    (hl : Estate.around (launchInstance p s o runtime) st = (.error e, st₁))
    (register : Option (InstanceId → EstateAct ρ κ σ Unit)) :
    start p s o runtime register st = (.error e, st₁) := by
  unfold start
  rw [ht, if_neg Bool.false_ne_true]
  exact bind_of_error hl

variable {l : Launched η ρ κ σ} {id : InstanceId}

/-- A start that told somebody of the new instance ends as that ended. -/
theorem start_of_told {register : InstanceId → EstateAct ρ κ σ Unit} {q : Except Fault Unit}
    (ht : (o.wantsTemplate && !s.supportsTemplates) = false)
    (hl : Estate.around (launchInstance p s o runtime) st = (.ok l, st₁))
    (he : establish p l o st₁ = (.ok id, st₂)) (hr : register id st₂ = (q, st₃)) :
    start p s o runtime (some register) st = (q.map fun _ => id, st₃) := by
  unfold start
  rw [ht, if_neg Bool.false_ne_true]
  refine (bind_of_ok hl).trans ((bind_of_ok he).trans ?_)
  rcases q with e | ⟨⟩
  · exact bind_of_error hr
  · exact bind_of_ok hr

theorem start_of_established (ht : (o.wantsTemplate && !s.supportsTemplates) = false)
    (hl : Estate.around (launchInstance p s o runtime) st = (.ok l, st₁))
    (he : establish p l o st₁ = (.ok id, st₂)) :
    start p s o runtime none st = (.ok id, st₂) := by
  unfold start
  rw [ht, if_neg Bool.false_ne_true]
  exact (bind_of_ok hl).trans ((bind_of_ok he).trans rfl)

end Ends

section Whole

variable {x : Given η ρ κ σ} {p : Provisioner η ρ κ (Traced η ρ κ σ)} {a : Surroundings σ}
  {new : Act σ (Runtime ρ σ)} {does : HookPath η ρ κ}

def Backing.launched (b : Backing η ρ κ σ) (o : StartOptions η) (owned : Bool) (c : ρ) (d : Float) :
    Launched η ρ κ (Traced η ρ κ σ) where
  backing := b.traced
  handle := (b.newFamily o owned c).handle
  deadline := .real d

/-- What launching on a runtime can do: it fails and is torn down, or there is a new instance. -/
def Launches (step : Stage → Option (Family ρ κ) → Except Fault Unit → Option (Family ρ κ) →
      List (StartEvent η ρ κ) → Prop) (b : Backing η ρ κ σ) (o : StartOptions η) (owned : Bool)
    (l : List (StartEvent η ρ κ))
    (r : Except Fault (Launched η ρ κ (Traced η ρ κ σ)) × Traced η ρ κ σ) : Prop :=
  (∃ g e q events after t', r = (.error (e.followedBy q), (l ++ (events ++ after), t')) ∧
    Proceeds step [.runtime, .launch] none (.error (g, e)) none events ∧
    TearingDown owned (none : Option (Family ρ κ)) q none after) ∨
  ∃ c d events t', r = (.ok (b.launched o owned c d), (l ++ events, t')) ∧
    Proceeds step [.runtime, .launch] none (.ok ()) (some (b.newFamily o owned c)) events

/-- Launching on a runtime, once the deadline is known. -/
def launchOn (b : Backing η ρ κ σ) (o : StartOptions η) (owned : Bool) (deadline : Num) :
    Act σ (Launched η ρ κ σ) := do
  let container ← launchStep b o (o.nameOr b.service.defaultLogicalName) owned
  pure { backing := b, deadline,
         handle := { container, logicalName := o.nameOr b.service.defaultLogicalName,
                     ownsRuntime := owned } }

theorem launchOn_runs {b : Backing η ρ κ σ} {o : StartOptions η} (owned : Bool) (label : η → String)
    (does : HookPath η ρ κ) (hb : b.around.Regular) {x d : Float}
    (hd : numScale.later (.real x) o.timeout = .ok (.real d)) (l : List (StartEvent η ρ κ))
    (t : σ) :
    Launches (StartStep b o owned label does) b o owned l
      (launchOn b.traced o owned (.real d) (l, t)) := by
  rcases launchStep_runs owned label does hb hd l t with
    ⟨g, e, q, events, after, t', hs, hq, ht⟩ | ⟨c, events, t', hs, hq⟩
  · exact .inl ⟨g, e, q, events, after, t', bind_of_error hs, hq, ht⟩
  · exact .inr ⟨c, d, events, t', bind_of_ok hs, hq⟩

theorem Provisioner.Traces.deadline (hp : p.Traces a new does) (ha : a.Regular) (timeout : Num)
    (l : List (StartEvent η ρ κ)) (t : σ) :
    ∃ now, p.around.deadline timeout (l, t) = (numScale.later (.real now) timeout, (l, t)) := by
  obtain ⟨now, hnow⟩ := ha.now t
  refine ⟨now, ?_⟩
  rw [hp.around, Surroundings.deadline, read_bind, ← hnow]
  change Act.ofExcept (numScale.later (a.clock.now t) timeout) (l, t) = _
  cases numScale.later (a.clock.now t) timeout <;> rfl

theorem Provisioner.Traces.newRuntime_eq (hp : p.Traces a new does) (l : List (StartEvent η ρ κ))
    (t : σ) : p.newRuntime (l, t) = ((new t).1.map Runtime.traced, (l, (new t).2)) := by
  rw [hp.newRuntime]
  rcases hn : new t with ⟨e | used, t'⟩
  · exact bind_of_error (outside_of_eq l hn)
  · exact bind_of_ok (outside_of_eq l hn)

/-- Launching fails before there is a runtime, or it takes its two steps. -/
theorem launchInstance_runs (hp : p.Traces a new does) (ha : a.Regular)
    (l : List (StartEvent η ρ κ)) (t : σ) :
    let r := launchInstance p x.service.traced x.options (x.runtime.map Runtime.traced) (l, t)
    (∃ e now, numScale.later (.real now) x.options.timeout = .error e ∧ r = (.error e, (l, t))) ∨
    (∃ e t₀ t', x.runtime = none ∧ (new t₀).1 = .error e ∧ r = (.error e, (l, t'))) ∨
    ∃ used, Uses new x.runtime used ∧
      Launches (StartStep ⟨x.service, used, a⟩ x.options x.runtime.isNone p.hookLabel does)
        ⟨x.service, used, a⟩ x.options x.runtime.isNone l r := by
  intro r
  obtain ⟨now, hdeadline⟩ := hp.deadline ha x.options.timeout l t
  cases hd : numScale.later (.real now) x.options.timeout with
  | error e =>
    rw [hd] at hdeadline
    exact .inl ⟨e, now, hd, bind_of_error hdeadline⟩
  | ok deadline =>
    rw [hd] at hdeadline
    obtain ⟨d, hreal⟩ := later_of_ok hd now
    obtain rfl : deadline = .real d := Except.ok.inj (hd.symm.trans hreal)
    have launches (used : Runtime ρ σ) (owned : Bool) (t₁ : σ) :
        Launches (StartStep ⟨x.service, used, a⟩ x.options owned p.hookLabel does)
          ⟨x.service, used, a⟩ x.options owned l
          (launchOn ⟨x.service.traced, used.traced, p.around⟩ x.options owned (.real d)
            (l, t₁)) := by
      rw [hp.around]
      exact launchOn_runs (b := ⟨x.service, used, a⟩) owned p.hookLabel does ha hd l t₁
    have hr : r = _ := bind_of_ok hdeadline
    cases hx : x.runtime with
    | some used =>
      rw [hx] at hr
      refine .inr (.inr ⟨used, .inl rfl, ?_⟩)
      rw [hr]
      exact launches used false t
    | none =>
      rw [hx] at hr
      have hnew := hp.newRuntime_eq l t
      cases hn : (new t).1 with
      | error e =>
        rw [hn] at hnew
        exact .inr (.inl ⟨e, t, _, rfl, hn, hr.trans (bind_of_error hnew)⟩)
      | ok used =>
        rw [hn] at hnew
        refine .inr (.inr ⟨used, .inr ⟨rfl, t, hn⟩, ?_⟩)
        rw [hr.trans (bind_of_ok hnew)]
        exact launches used true (new t).2

/-- Writing of a new instance into the diary changes nothing about it. -/
theorem establish_of_ok (hp : p.Traces a new does) {l : Launched η ρ κ (Traced η ρ κ σ)}
    {st st₁ : Estate ρ κ (Traced η ρ κ σ)} {f : Family ρ κ}
    (hb : bringUp p l.backing x.options l.deadline st.families.length (l.enrolled st) =
      (.ok (), st₁)) (hf : st₁.families[st.families.length]? = some f) :
    ∃ st₂, establish p l x.options st = (.ok st.families.length, st₂) ∧
      st₂.families[st.families.length]? = some f ∧ st₂.outside.1 = st₁.outside.1 := by
  have hid : Estate.enroll l.handle st = (.ok st.families.length, l.enrolled st) := rfl
  have hname : Estate.onFamily st.families.length (label l.backing) st₁ =
      (.ok (f.handle.label l.backing.service.name), _) := onFamily_of_eq hf rfl
  have hset : (st₁.families.set st.families.length f)[st.families.length]? = some f :=
    List.getElem?_set_self (List.getElem?_eq_some_iff.mp hf).1
  refine ⟨_, (bind_of_ok hid).trans ((bind_of_ok (onFault_of_ok hb)).trans
    ((bind_of_ok hname).trans (bind_of_ok rfl))), hset, ?_⟩
  change (p.around.diary.write _ _ _ st₁.outside).1 = _
  rw [hp.around]
  rfl

/-- Everybody who is to be told of a new instance is told. -/
theorem telling_runs (ht : x.refused = false) {l : Launched η ρ κ (Traced η ρ κ σ)}
    {st st₁ st₂ : Estate ρ κ (Traced η ρ κ σ)} {id : InstanceId}
    (hl : Estate.around (launchInstance p x.service.traced x.options
      (x.runtime.map Runtime.traced)) st = (.ok l, st₁))
    (he : establish p l x.options st₁ = (.ok id, st₂)) :
    ∃ r told st', x.start p st = (r, st') ∧ st'.families = st₂.families ∧
      st'.outside.1 = st₂.outside.1 ++ told ∧ Telling x.tell? id r told := by
  unfold Given.start
  cases hx : x.tell? with
  | none =>
    exact ⟨.ok id, [], st₂, start_of_established ht hl he, rfl, (List.append_nil _).symm,
      .nobody rfl⟩
  | some tell =>
    have told : Telling (η := η) (ρ := ρ) (κ := κ) (some tell) id _ _ := .told st₂.outside.2 rfl
    rcases h : tell id st₂.outside.2 with ⟨q, t'⟩
    rw [h] at told
    have hr : Estate.telling (η := η) (κ := κ) (ρ := ρ) tell id st₂ =
        (q, { st₂ with outside := (st₂.outside.1 ++ [.register id q], t') }) := by
      unfold Estate.telling Estate.around noted
      rw [h]
    exact ⟨_, _, _, start_of_told ht hl he hr, rfl, rfl, told⟩

theorem around_of_eq {y : Act σ α} {s : Estate ρ κ σ} {r : Except Fault α} {o : σ}
    (h : y s.outside = (r, o)) : Estate.around y s = (r, { s with outside := o }) := by
  unfold Estate.around
  rw [h]

/-- A start whose container was launched on a runtime brings the instance up, or discards it. -/
theorem Given.start_of_launched (hp : p.Traces a new does) (ha : a.Regular) (ht : x.refused = false)
    {used : Runtime ρ σ} (hu : Uses new x.runtime used) {st st₁ : Estate ρ κ (Traced η ρ κ σ)}
    {c : ρ} {d : Float} {events : List (StartEvent η ρ κ)}
    (hl : Estate.around (launchInstance p x.service.traced x.options
        (x.runtime.map Runtime.traced)) st =
      (.ok (Backing.launched ⟨x.service, used, a⟩ x.options x.runtime.isNone c d), st₁))
    (hq : Proceeds (StartStep ⟨x.service, used, a⟩ x.options x.runtime.isNone p.hookLabel does)
      [.runtime, .launch] none (.ok ())
      (some (Backing.newFamily ⟨x.service, used, a⟩ x.options x.runtime.isNone c)) events)
    (he : st₁.outside.1 = st.outside.1 ++ events) :
    ∃ r events st', x.start p st = (r, st') ∧ st'.outside.1 = st.outside.1 ++ events ∧
      x.Path a new p.hookLabel does st₁.families.length r
        st'.families[st₁.families.length]? events := by
  obtain ⟨q, f, brought, st₂, hb, hf, ho, hq'⟩ := bringUp_runs x.runtime.isNone
    (b := ⟨x.service, used, a⟩) hp ha rfl ht d
    ((Backing.launched ⟨x.service, used, a⟩ x.options x.runtime.isNone c d).enrolled st₁) _
    List.getElem?_concat_length
  have hall := hq.append hq'
  have hevents : st₂.outside.1 = st.outside.1 ++ (events ++ brought) := by
    rw [← List.append_assoc, ← he]
    exact ho
  rcases q with ⟨g, e⟩ | ⟨⟩
  · -- The instance is discarded.
    obtain ⟨q, f', calls, t', hd, td⟩ := (discard_takes ⟨x.service, used, a⟩).traced
      (fun first => discard_maps (Backing.recorded_maps ⟨x.service, used, a⟩ first))
      f st₂.outside.1 st₂.outside.2
    have hstart := start_of_failed (s := x.service.traced) ht hl hb (onFamily_of_eq hf hd)
      (x.tell?.map Estate.telling)
    refine ⟨.error (e.followedBy q), (events ++ brought) ++ calls.map .call, _, hstart, ?_, ?_⟩
    · rw [← List.append_assoc, ← hevents]
    · have hset : (st₂.families.set st₁.families.length f')[st₁.families.length]? = some f' :=
        List.getElem?_set_self (List.getElem?_eq_some_iff.mp hf).1
      dsimp only
      rw [hset]
      exact .failed ht hu hall (.discarded td)
  · obtain ⟨st₃, hestablish, hf₃, ho₃⟩ := establish_of_ok hp hb hf
    obtain ⟨r, told, st', hs, hfamilies, ho', htold⟩ := telling_runs ht hl hestablish
    refine ⟨r, (events ++ brought) ++ told, st', hs, ?_, ?_⟩
    · rw [ho', ho₃, hevents, List.append_assoc]
    · rw [hfamilies, hf₃]
      exact .started ht hu hall htold

/-- Every start takes one of the paths. -/
theorem Given.start_takes (hp : p.Traces a new does) (ha : a.Regular)
    (st : Estate ρ κ (Traced η ρ κ σ)) :
    ∃ r events st', x.start p st = (r, st') ∧ st'.outside.1 = st.outside.1 ++ events ∧
      x.Path a new p.hookLabel does st.families.length r st'.families[st.families.length]?
        events := by
  have unknown : st.families[st.families.length]? = none := List.getElem?_eq_none le_rfl
  -- A start that launches nothing leaves no instance.
  have unlaunched {e : Fault} {events : List (StartEvent η ρ κ)} {t : σ} (ht : x.refused = false)
      (hl : launchInstance p x.service.traced x.options (x.runtime.map Runtime.traced) st.outside =
        (.error e, (st.outside.1 ++ events, t)))
      (hpath : x.Path a new p.hookLabel does st.families.length (.error e) none events) :
      ∃ r events st', x.start p st = (r, st') ∧ st'.outside.1 = st.outside.1 ++ events ∧
        x.Path a new p.hookLabel does st.families.length r st'.families[st.families.length]?
          events := by
    have hstart := start_of_unlaunched (s := x.service.traced) ht (around_of_eq hl)
      (x.tell?.map Estate.telling)
    refine ⟨.error e, events, _, hstart, rfl, ?_⟩
    rw [unknown]
    exact hpath
  cases ht : x.refused with
  | true =>
    have hs : x.start p st = (.error (Service.noTemplates x.service.name), st) := by
      unfold Given.start Testbed.start
      rw [show (x.options.wantsTemplate && !x.service.traced.supportsTemplates) = true from ht,
        if_pos rfl]
      rfl
    refine ⟨_, [], st, hs, (List.append_nil _).symm, ?_⟩
    rw [unknown]
    exact .refused ht
  | false =>
    rcases launchInstance_runs (x := x) hp ha st.outside.1 st.outside.2 with
      ⟨e, now, hd, hl⟩ | ⟨e, t₀, t', hn, he, hl⟩ | ⟨used, hu, hl⟩
    · exact unlaunched ht (by rw [List.append_nil]; exact hl) (.untimed ht hd)
    · exact unlaunched ht (by rw [List.append_nil]; exact hl) (.uncreated t₀ ht hn he)
    · rcases hl with ⟨g, e, q, events, after, t', hl, hq, htd⟩ | ⟨c, d, events, t', hl, hq⟩
      · exact unlaunched ht hl (.failed ht hu (hq.stop _) htd)
      · have hrun := Given.start_of_launched hp ha ht hu (around_of_eq hl) hq rfl
        exact hrun

end Whole

end Testbed
