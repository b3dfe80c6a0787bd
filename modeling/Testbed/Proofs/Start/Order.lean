import Testbed.Proofs.Instance.Lifetime
import Testbed.Proofs.Start.Run

/-!
# The order of a start

What a start did can be read off its trace.  When its hooks only look at the instance, a start whose
steps all succeed leaves one trace, up to the attempts it took until the instance was ready, and an
open instance that holds the client of the last probe.
-/

namespace Testbed

set_option autoImplicit false

open FamilyAct Act

variable {η ρ κ σ α : Type}

/-! Waiting changes nothing but the client. -/

def Family.holding (f : Family ρ κ) (client : Option κ) : Family ρ κ :=
  f.onHandle fun h => { h with client }

@[simp] theorem Family.holding_holding (f : Family ρ κ) (c d : Option κ) :
    (f.holding c).holding d = f.holding d := rfl

@[simp] theorem Family.holding_client (f : Family ρ κ) (c : Option κ) :
    (f.holding c).handle.client = c := rfl

theorem Family.holding_self (f : Family ρ κ) : f.holding f.handle.client = f := rfl

section Waits

variable {f f' : Family ρ κ} {r : Except Fault Unit} {calls : List (Call ρ κ)}

theorem Ensuring.holding (h : Ensuring f r f' calls) : f' = f.holding f'.handle.client := by
  cases h with
  | present _ | noInfo _ _ | failed _ _ _ => exact f.holding_self.symm
  | done _ _ _ => rfl

theorem Probing.holding (h : Probing f r f' calls) : f' = f.holding f'.handle.client := by
  cases h with
  | ready | interrupted _ _ => exact f.holding_self.symm
  | failed _ _ | givenUp _ _ _ _ => rfl

theorem Attempting.holding (h : Attempting f r f' calls) : f' = f.holding f'.handle.client := by
  cases h with
  | failed he => exact he.holding
  | next he hp =>
    have heq := hp.holding
    rw [he.holding, Family.holding_holding] at heq
    exact heq

/-- A client is there once it is ensured. -/
theorem Ensuring.isSome (h : Ensuring f (.ok ()) f' calls) : ∃ c, f'.handle.client = some c := by
  cases h with
  | present hc => exact ⟨_, hc⟩
  | done _ c _ => exact ⟨c, rfl⟩

theorem Probing.of_ready (h : Probing f (.ok ()) f' calls) :
    f' = f ∧ calls = [.probe f.handle.client (.ok ())] := by
  cases h
  exact ⟨rfl, rfl⟩

/-- An attempt that succeeds ends with the probe of the client that the instance then holds. -/
theorem Attempting.of_ready (h : Attempting f (.ok ()) f' calls) :
    ∃ c, f' = f.holding (some c) ∧ calls.getLast? = some (.probe (some c) (.ok ())) := by
  have hholding := h.holding
  cases h with
  | next he hp =>
    obtain ⟨rfl, rfl⟩ := hp.of_ready
    obtain ⟨c, hc⟩ := he.isSome
    rw [hc] at hholding ⊢
    exact ⟨c, hholding, List.getLast?_concat⟩

theorem Waiting.of_ready (h : Waiting f (.ok ()) f' calls) :
    ∃ c, f' = f.holding (some c) ∧ calls.getLast? = some (.probe (some c) (.ok ())) := by
  generalize hr : (.ok () : Except Fault Unit) = r at h
  induction h with
  | ready ha => exact ha.of_ready
  | failed d _ => cases hr
  | again ha _ ih =>
    obtain ⟨c, hf, hlast⟩ := ih hr
    rw [ha.holding, Family.holding_holding] at hf
    refine ⟨c, hf, ?_⟩
    rw [List.getLast?_append, hlast]
    rfl

end Waits

/-! Hooks that only look. -/

section Hooks

variable {label : η → String} {hooks : List η} {f f' : Family ρ κ} {r : Except Fault Unit}
  {events : List (StartEvent η ρ κ)}

/-- Hooks that succeed ran once each, in their order. -/
theorem Hooking.of_looking (h : Hooking label .looking hooks f (.ok ()) f' events) :
    f' = f ∧ events = hooks.map fun hook => .hook hook (.ok ()) := by
  generalize hr : (.ok () : Except Fault Unit) = r at h
  induction h with
  | done => exact ⟨rfl, rfl⟩
  | failed _ => cases hr
  | next hd _ ih =>
    subst hr
    obtain ⟨rfl, rfl⟩ := hd
    obtain ⟨rfl, rfl⟩ := ih rfl
    exact ⟨rfl, rfl⟩

theorem Hooking.not_register (h : Hooking label .looking hooks f r f' events) (id : InstanceId)
    (q : Except Fault Unit) : .register id q ∉ events := by
  induction h with
  | done => exact List.not_mem_nil
  | failed hd =>
    rw [hd.2]
    intro hm
    cases List.mem_singleton.mp hm
  | next hd _ ih =>
    rw [hd.2]
    intro hm
    rcases List.mem_cons.mp hm with he | hm
    · cases he
    · exact ih hm

end Hooks

/-! The whole trace. -/

/-- What all steps of a row do together is what each of them does. -/
theorem Proceeds.all {ι ε : Type} {step : Stage → ι → Except Fault Unit → ι → List ε → Prop}
    {P : ε → Prop} (hstep : ∀ g i r i' events, step g i r i' events → ∀ e ∈ events, P e)
    {gs : List Stage} {i i' : ι} {q : Except (Stage × Fault) Unit} {events : List ε}
    (h : Proceeds step gs i q i' events) : ∀ e ∈ events, P e := by
  induction h with
  | done => exact fun e he => absurd he List.not_mem_nil
  | failed hs => exact hstep _ _ _ _ _ hs
  | next hs _ ih =>
    intro e he
    rcases List.mem_append.mp he with he | he
    · exact hstep _ _ _ _ _ hs e he
    · exact ih e he

theorem register_not_mem_calls (id : InstanceId) (q : Except Fault Unit)
    (calls : List (Call ρ κ)) : (.register id q : StartEvent η ρ κ) ∉ calls.map .call := by
  intro hm
  obtain ⟨c, -, hc⟩ := List.mem_map.mp hm
  cases hc

section Whole

variable {b : Backing η ρ κ σ} {o : StartOptions η} {owned : Bool} {label : η → String}

/-- No step tells anybody of the instance. -/
theorem StartStep.not_register {g : Stage} {m m' : Option (Family ρ κ)} {r : Except Fault Unit}
    {events : List (StartEvent η ρ κ)} (h : StartStep b o owned label .looking g m r m' events)
    (id : InstanceId) (q : Except Fault Unit) : .register id q ∉ events := by
  cases h with
  | reach t => exact register_not_mem_calls id q [_]
  | unspecified _ _ _ | schedule _ | unlocated _ _ | located _ =>
    exact register_not_mem_calls id q [_]
  | unlaunched _ _ _ _ | launched _ _ _ _ => exact register_not_mem_calls id q [_, _]
  | hooks hh => exact hh.not_register id q
  | plain _ => exact List.not_mem_nil
  | wait _ | mark _ _ => exact register_not_mem_calls id q _

theorem TearingDown.not_register {m m' : Option (Family ρ κ)} {r : Except Fault Unit}
    {events : List (StartEvent η ρ κ)} (h : TearingDown owned m r m' events)
    (id : InstanceId) (q : Except Fault Unit) : .register id q ∉ events := by
  cases h with
  | kept _ => exact List.not_mem_nil
  | ownRuntime _ _ => exact register_not_mem_calls id q [_]
  | discarded _ => exact register_not_mem_calls id q _

/-- The instance on a container whose endpoint was found. -/
def Backing.located (b : Backing η ρ κ σ) (o : StartOptions η) (owned : Bool) (c : ρ)
    (endpoint : String) : Family ρ κ :=
  (b.newFamily o owned c).onHandle fun h => { h with endpoint }

/-- The instance is marked as a template, if that was asked for. -/
def StartOptions.marking (o : StartOptions η) (f : Family ρ κ) : List (StartEvent η ρ κ) :=
  if o.wantsTemplate then [.call (.setTemplate f.handle true (.ok ()))] else []

/-- What a start does whose steps all succeed, and the instance that it leaves. -/
inductive Provisioned (b : Backing η ρ κ σ) (o : StartOptions η) (owned : Bool) :
    Family ρ κ → List (StartEvent η ρ κ) → Prop
  | mk (name : String) (spec : LaunchSpec) (labels : List (String × String)) (c : ρ)
      (endpoint : String) (client : κ) {attempts : List (Call ρ κ)} :
      Waiting (b.located o owned c endpoint) (.ok ())
        ((b.located o owned c endpoint).holding (some client)) attempts →
      attempts.getLast? = some (.probe (some client) (.ok ())) →
      Provisioned b o owned
        (((b.located o owned c endpoint).holding (some client)).onHandle fun h =>
          { h with isTemplate := o.wantsTemplate })
        ([.call (.ping (.ok ())), .call (.launchSpec name (.ok spec)),
          .call (.launch { spec with labels } (.ok c)),
          .call (.scheduleExpiry c o.timeout (.ok ())),
          .call (.endpoint c b.service.containerPort (.ok endpoint))] ++ (attempts.map .call ++
        ((o.hooks.map fun hook => .hook hook (.ok ())) ++
          o.marking ((b.located o owned c endpoint).holding (some client)))))

/-- Promotion marks an open instance that was not a template. -/
theorem Promoting.of_plain {f f' : Family ρ κ} {calls : List (Call ρ κ)}
    (h : Promoting none f (.ok ()) f' calls) (hf : f.handle.isTemplate = false) :
    f' = (f.onHandle fun h => { h with isTemplate := true }) ∧
      calls = [.setTemplate f.handle true (.ok ())] := by
  cases h with
  | already _ _ ht =>
    rw [hf] at ht
    cases ht
  | done _ _ _ => exact ⟨rfl, rfl⟩

/-- The mark on a new instance is the one that was asked for. -/
theorem StartStep.of_template {f : Family ρ κ} {m : Option (Family ρ κ)}
    {events : List (StartEvent η ρ κ)} {does : HookPath η ρ κ}
    (h : StartStep b o owned label does .template (some f) (.ok ()) m events)
    (hf : f.handle.isTemplate = false) :
    m = some (f.onHandle fun h => { h with isTemplate := o.wantsTemplate }) ∧
      events = o.marking f := by
  unfold StartOptions.marking
  cases h with
  | plain hw =>
    rw [hw, if_neg Bool.false_ne_true]
    refine ⟨?_, rfl⟩
    rw [← hf]
    rfl
  | mark hw hp =>
    obtain ⟨rfl, rfl⟩ := hp.of_plain hf
    rw [hw]
    exact ⟨rfl, rfl⟩

/-! Steps that succeed. -/

section Succeeding

variable {does : HookPath η ρ κ} {f : Family ρ κ} {m m' : Option (Family ρ κ)}
  {events : List (StartEvent η ρ κ)}

theorem StartStep.of_reach
    (h : StartStep b o owned label does .runtime m (.ok ()) m' events) :
    m' = none ∧ events = [.call (.ping (.ok ()))] := by
  generalize hr : (.ok () : Except Fault Unit) = r at h
  cases h with
  | reach t =>
    rw [← hr]
    exact ⟨rfl, rfl⟩

theorem StartStep.of_launch
    (h : StartStep b o owned label does .launch m (.ok ()) m' events) :
    ∃ name spec labels c, m' = some (b.newFamily o owned c) ∧
      events = [.call (.launchSpec name (.ok spec)),
        .call (.launch { spec with labels } (.ok c))] := by
  cases h with
  | launched name spec labels c => exact ⟨name, spec, labels, c, rfl, rfl⟩

theorem StartStep.of_schedule
    (h : StartStep b o owned label does .expiry (some f) (.ok ()) m' events) :
    m' = some f ∧ events = [.call (.scheduleExpiry f.handle.container o.timeout (.ok ()))] := by
  generalize hr : (.ok () : Except Fault Unit) = r at h
  cases h with
  | schedule q =>
    cases q with
    | error e => cases hr
    | ok _ => exact ⟨rfl, rfl⟩

theorem StartStep.of_locate
    (h : StartStep b o owned label does .endpoint (some f) (.ok ()) m' events) :
    ∃ endpoint, m' = some (f.onHandle fun h => { h with endpoint }) ∧
      events = [.call (.endpoint f.handle.container b.service.containerPort (.ok endpoint))] := by
  cases h with
  | located endpoint => exact ⟨endpoint, rfl, rfl⟩

theorem StartStep.of_wait
    (h : StartStep b o owned label does .readiness (some f) (.ok ()) m' events) :
    ∃ client attempts, m' = some (f.holding (some client)) ∧ events = attempts.map .call ∧
      Waiting f (.ok ()) (f.holding (some client)) attempts ∧
      attempts.getLast? = some (.probe (some client) (.ok ())) := by
  cases h with
  | wait hr =>
    cases hr with
    | ready hw =>
      obtain ⟨client, rfl, hlast⟩ := hw.of_ready
      exact ⟨client, _, rfl, rfl, hw, hlast⟩

theorem StartStep.of_hooks
    (h : StartStep b o owned label .looking .postStart (some f) (.ok ()) m' events) :
    m' = some f ∧ events = o.hooks.map fun hook => .hook hook (.ok ()) := by
  cases h with
  | hooks hh =>
    obtain ⟨rfl, rfl⟩ := hh.of_looking
    exact ⟨rfl, rfl⟩

end Succeeding

/-- The trace of a start whose steps all succeed. -/
theorem Proceeds.provisioned {m : Option (Family ρ κ)} {events : List (StartEvent η ρ κ)}
    (h : Proceeds (StartStep b o owned label .looking) Stage.order none (.ok ()) m events) :
    ∃ f, m = some f ∧ Provisioned b o owned f events := by
  obtain ⟨_, _, _, rfl, hreach, h₁⟩ := h.uncons
  obtain ⟨rfl, rfl⟩ := hreach.of_reach
  obtain ⟨_, _, _, rfl, hlaunch, h₂⟩ := h₁.uncons
  obtain ⟨name, spec, labels, c, rfl, rfl⟩ := hlaunch.of_launch
  obtain ⟨_, _, _, rfl, hschedule, h₃⟩ := h₂.uncons
  obtain ⟨rfl, rfl⟩ := hschedule.of_schedule
  obtain ⟨_, _, _, rfl, hlocate, h₄⟩ := h₃.uncons
  obtain ⟨endpoint, rfl, rfl⟩ := hlocate.of_locate
  obtain ⟨_, _, _, rfl, hwait, h₅⟩ := h₄.uncons
  obtain ⟨client, attempts, rfl, rfl, hw, hlast⟩ := hwait.of_wait
  obtain ⟨_, _, _, rfl, hhooks, h₆⟩ := h₅.uncons
  obtain ⟨rfl, rfl⟩ := hhooks.of_hooks
  obtain ⟨_, _, _, rfl, hmark, h₇⟩ := h₆.uncons
  obtain ⟨rfl, rfl⟩ := hmark.of_template rfl
  cases h₇
  have provisioned : Provisioned b o owned _ _ := .mk name spec labels c endpoint client hw hlast
  refine ⟨_, rfl, ?_⟩
  rw [List.append_nil]
  exact provisioned

end Whole

theorem Provisioned.opened {b : Backing η ρ κ σ} {o : StartOptions η} {owned : Bool}
    {f : Family ρ κ} {events : List (StartEvent η ρ κ)} (h : Provisioned b o owned f events) :
    f.handle.closed = false ∧ f.handle.liveClones = [] ∧ f.handle.isTemplate = o.wantsTemplate ∧
      ∃ c, f.handle.client = some c ∧ .call (.probe (some c) (.ok ())) ∈ events := by
  obtain ⟨name, spec, labels, c, endpoint, client, -, hlast⟩ := h
  refine ⟨rfl, rfl, rfl, client, rfl, ?_⟩
  have hmem := List.mem_map_of_mem (f := StartEvent.call (η := η)) (List.mem_of_getLast? hlast)
  exact List.mem_append_right _ (List.mem_append_left _ hmem)

/-- Every start takes its steps in their order, and a step only after all earlier ones succeeded;
after one that failed only the teardown follows.  A start returns when all of them succeeded and
whoever is told of the instance raises nothing.  Then it has told once, of an open instance without
clones that holds the client of the last probe. -/
theorem start_in_order (x : Given η ρ κ σ) {p : Provisioner η ρ κ (Traced η ρ κ σ)}
    {a : Surroundings σ} {new : Act σ (Runtime ρ σ)} (hp : p.Traces a new .looking)
    (ha : a.Regular) (st : Estate ρ κ (Traced η ρ κ σ)) :
    ∃ r events st', x.start p st = (r, st') ∧ st'.outside.1 = st.outside.1 ++ events ∧
      x.Path a new p.hookLabel .looking st.families.length r
        st'.families[st.families.length]? events ∧
      ((∃ e, r = .error e ∧ ∀ id q, .register id q ∉ events) ∨
        ∃ used f done told, Uses new x.runtime used ∧
          st'.families[st.families.length]? = some f ∧ events = done ++ told ∧
          Provisioned ⟨x.service, used, a⟩ x.options x.runtime.isNone f done ∧
          Telling x.tell? st.families.length r told ∧
          f.handle.closed = false ∧ f.handle.liveClones = [] ∧
          f.handle.isTemplate = x.options.wantsTemplate) := by
  obtain ⟨r, events, st', hs, hevents, hpath⟩ := Given.start_takes (x := x) hp ha st
  refine ⟨r, events, st', hs, hevents, hpath, ?_⟩
  generalize st'.families[st.families.length]? = m at hpath ⊢
  cases hpath with
  | refused _ | untimed _ _ | uncreated _ _ _ _ =>
    exact .inl ⟨_, rfl, fun _ _ => List.not_mem_nil⟩
  | failed _ _ hq htd =>
    refine .inl ⟨_, rfl, fun id q hm => ?_⟩
    rcases List.mem_append.mp hm with hm | hm
    · exact hq.all (P := fun e => e ≠ .register id q)
        (fun _ _ _ _ _ hstep e he hr => hstep.not_register id q (hr ▸ he)) _ hm rfl
    · exact htd.not_register id q hm
  | started _ hu hq htold =>
    obtain ⟨f, hf, hprovisioned⟩ := hq.provisioned
    cases hf
    obtain ⟨hopen, hlive, hmark, -⟩ := hprovisioned.opened
    exact .inr ⟨_, _, _, _, hu, rfl, rfl, hprovisioned, htold, hopen, hlive, hmark⟩

/-- A backing that is ready at the first probe. -/
def Backing.prompt : Backing Unit Unit Unit Unit where
  service := {
    Backing.willing.service with
    launchSpec := fun name _ => pure { name, image := "store", ports := ["5432/tcp"] }
    probe := fun _ => pure () }
  runtime := Backing.willing.runtime
  around := {
    Backing.willing.around with
    clock := { now := fun _ => .real 0, sleep := fun _ => pure () }
    date := fun _ => .real 0 }

def Provisioner.prompt : Provisioner Unit Unit Unit (Traced Unit Unit Unit Unit) :=
  .looking Backing.prompt.around (pure Backing.prompt.runtime) (fun _ _ => pure ()) fun _ => ""

/-- A template with two hooks, of which somebody is to be told. -/
def Given.prompt : Given Unit Unit Unit Unit where
  service := Backing.prompt.service
  options := { timeout := .real 30, isTemplate := some true, hooks := [(), ()] }
  runtime := none
  tell? := some fun _ => pure ()

theorem start_in_order_of_prompt : ∃ f done st,
    Given.prompt.start Provisioner.prompt ⟨[], ([], ())⟩ =
      (.ok 0, st) ∧
    st.outside.1 = done ++ [.register 0 (.ok ())] ∧
    Provisioned .prompt Given.prompt.options true f done := by
  have returned : (Given.prompt.start Provisioner.prompt
      ⟨[], ([], ())⟩).1.isOk = true := by decide +kernel
  have regular : Backing.prompt.around.Regular :=
    ⟨fun _ => ⟨_, rfl⟩, fun _ => ⟨_, rfl⟩, fun _ => ⟨_, _, rfl⟩⟩
  obtain ⟨r, events, st, hs, hevents, -, h⟩ := start_in_order Given.prompt
    (p := Provisioner.prompt) (Provisioner.looking_traces _ _ _ _) regular ⟨[], ([], ())⟩
  rw [hs] at returned
  rcases h with ⟨e, rfl, -⟩ | ⟨used, f, done, told, hu, -, rfl, hprovisioned, htold, -⟩
  · cases returned
  · rcases hu with hu | ⟨-, t, hu⟩
    · cases hu
    cases hu
    cases htold with
    | nobody hn => cases hn
    | told t ht =>
      cases ht
      exact ⟨f, done, st, hs, hevents, hprovisioned⟩

end Testbed
