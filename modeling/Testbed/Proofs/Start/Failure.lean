import Testbed.Proofs.Container.Safeguard
import Testbed.Proofs.Start.Teardown

/-!
# Starts that fail

Once the container of an instance was launched, a start that fails goes through one teardown.  It
leaves nothing behind, and the fault that leaves the start is that of the step that failed.
-/

namespace Testbed

set_option autoImplicit false

open Act Watch

variable {η ρ κ σ τ α : Type}

/-- All instances, a launched one being the last. -/
def Launched.enrolled (l : Launched η ρ κ σ) (st : Estate ρ κ σ) : Estate ρ κ σ :=
  { st with families := st.families ++ [{ handle := l.handle }] }

/-- The fault that is left of one fault after what came of the action that followed it. -/
def Fault.followedBy (e : Fault) : Except Fault Unit → Fault
  | .ok _ => e
  | .error d => d

theorem Act.onFault_of_error {x : Act σ α} {after : Act σ Unit} {s s' s'' : σ} {e : Fault}
    {r : Except Fault Unit} (h : x s = (.error e, s')) (h' : after s' = (r, s'')) :
    onFault x after s = (.error (e.followedBy r), s'') := by
  simp only [onFault, h, h']
  cases r <;> rfl

/-- A start whose instance cannot be brought up ends with the teardown, and nobody is told of the
instance. -/
theorem start_of_failed {p : Provisioner η ρ κ σ} {s : Service η ρ κ σ} {o : StartOptions η}
    {runtime : Option (Runtime ρ σ)} {st st₁ st₂ st₃ : Estate ρ κ σ} {l : Launched η ρ κ σ}
    {e : Fault} {r : Except Fault Unit}
    (ht : (o.wantsTemplate && !s.supportsTemplates) = false)
    (hl : Estate.around (launchInstance p s o runtime) st = (.ok l, st₁))
    (hb : bringUp p l.backing o l.deadline st₁.families.length (l.enrolled st₁) = (.error e, st₂))
    (hd : Estate.onFamily st₁.families.length (discard l.backing) st₂ = (r, st₃))
    (register : Option (InstanceId → EstateAct ρ κ σ Unit)) :
    start p s o runtime register st = (.error (e.followedBy r), st₃) := by
  have established : establish p l o st₁ = (.error (e.followedBy r), st₃) := by
    have hid : Estate.enroll l.handle st₁ = (.ok st₁.families.length, l.enrolled st₁) := rfl
    exact (bind_of_ok hid).trans (bind_of_error (onFault_of_error hb hd))
  unfold start
  rw [ht, if_neg Bool.false_ne_true]
  exact (bind_of_ok hl).trans (bind_of_error established)

/-! Starts on the engines of a host. -/

namespace Host

variable (h : Host τ)

inductive AllowsBeside : {β : Type} → Act (Recorded Container κ (Watch × τ)) β → Prop
  | mk {β : Type} {x : Act (Watch × τ) β} : h.Allows x → AllowsBeside (Act.outside x)

/-- Instances are started on the engines of a host, calls are recorded, and hooks are programs. -/
structure Provides (p : Provisioner η Container κ (Recorded Container κ (Watch × τ))) : Prop where
  around : p.around = h.surroundings.beside
  newRuntime : ∃ x : Act τ Nat, p.newRuntime = do
    let number ← Act.outside (Act.outside x)
    pure (h.runtime number).recorded
  hooks : ∀ number s hook id, HookProgram (h.backing number s).recorded id h.AllowsBeside
    (p.runHook (h.backing number s).recorded hook id)

/-- The runtime given to a start: that of an engine of the host, or none. -/
def given (number? : Option Nat) : Option (Runtime Container (Recorded Container κ (Watch × τ))) :=
  number?.map fun number => (h.runtime number).recorded

variable {h} {p : Provisioner η Container κ (Recorded Container κ (Watch × τ))}

/-- The board agrees with what was noted, whatever calls were recorded. -/
abbrev Agrees : Recorded Container κ (Watch × τ) → Prop := (Faithful ∘ Prod.fst) ∘ Prod.snd

theorem Provides.engine (hp : h.Provides p) {number? : Option Nat}
    {used : Runtime Container (Recorded Container κ (Watch × τ))}
    (hu : p.Uses (h.given number?) used) :
    ∃ number, (∀ n, number? = some n → number = n) ∧ used = (h.runtime number).recorded := by
  rcases hu with hu | ⟨hn, t₁, t₂, hnew⟩
  · obtain ⟨n, rfl, rfl⟩ := Option.map_eq_some_iff.mp hu
    exact ⟨n, fun n' hn' => Option.some.inj hn', rfl⟩
  · obtain ⟨x, hx⟩ := hp.newRuntime
    rw [hx] at hnew
    obtain ⟨n, t, -, hnew⟩ := bind_ok hnew
    cases hnew
    refine ⟨n, fun n' hn' => ?_, rfl⟩
    rw [Option.map_eq_none_iff.mp hn] at hn'
    cases hn'

theorem recorded_agrees (number : Nat) (s : Service η Container κ τ) :
    (h.backing number s).recorded.Keeps Agrees :=
  (h.backing_keeps number s).recorded

theorem Provides.hook_agrees (hp : h.Provides p) (number : Nat) (s : Service η Container κ τ)
    (hook : η) (id : InstanceId) :
    Keeps (Agrees ∘ Estate.outside) (p.runHook (h.backing number s).recorded hook id) := by
  refine (hp.hooks number s hook id).keeps (recorded_agrees number s) fun hx => ?_
  cases hx with
  | mk hx =>
    refine .outside ?_
    cases hx with
    | outside x => exact outside_keeps_fst x
    | pass n => exact pass_keeps n

theorem Provides.hook_tracks (hp : h.Provides p) (number : Nat) (s : Service η Container κ τ)
    (hook : η) {id : InstanceId} {hd : Handle Container κ} {first : List (Call Container κ)} :
    Keeps (Estate.Tracks id hd first) (p.runHook (h.backing number s).recorded hook id) := by
  refine (hp.hooks number s hook id).tracks fun hx => ?_
  cases hx with
  | mk hx => exact ⟨_, rfl⟩

theorem Provides.launch_agrees (hp : h.Provides p) (s : Service η Container κ τ)
    (o : StartOptions η) (number? : Option Nat) :
    Keeps Agrees (launchInstance p s.beside.recorded o (h.given number?)) := by
  refine launchInstance_keeps (fun _ => ?_) fun used hu logicalName => ?_
  · obtain ⟨x, hx⟩ := hp.newRuntime
    rw [hx]
    exact .bind (.outside (outside_keeps_fst x)) fun _ => .pure _
  · obtain ⟨number, -, rfl⟩ := hp.engine hu
    rw [hp.around]
    exact launchStep_keeps (recorded_agrees number s) o logicalName _

/-- A launched instance is on the given engine, or on a new one that it owns. -/
theorem Provides.launched (hp : h.Provides p) {s : Service η Container κ τ} {o : StartOptions η}
    {number? : Option Nat} {t t' : Recorded Container κ (Watch × τ)}
    {l : Launched η Container κ (Recorded Container κ (Watch × τ))}
    (hl : launchInstance p s.beside.recorded o (h.given number?) t = (.ok l, t')) :
    ∃ number, (∀ n, number? = some n → number = n) ∧ l.backing = (h.backing number s).recorded ∧
      l.handle.ownsRuntime = number?.isNone ∧ l.handle.liveClones = [] := by
  obtain ⟨used, c, hbacking, hhandle, hgiven, hnew⟩ := launchInstance_ok hl
  have engine : ∃ number, (∀ n, number? = some n → number = n) ∧
      used = (h.runtime number).recorded := by
    cases hn : h.given (κ := κ) number? with
    | some r => exact hp.engine (.inl (hn.trans (congrArg some (hgiven r hn).symm)))
    | none => exact hp.engine (.inr ⟨hn, hnew hn⟩)
  obtain ⟨number, hnumber, hused⟩ := engine
  refine ⟨number, hnumber, ?_, ?_, ?_⟩
  · rw [hbacking, hused, hp.around]
    rfl
  · rw [hhandle]
    exact Option.isNone_map
  · rw [hhandle]

end Host

/-- Nothing is left of an instance after some calls: its container was destroyed and no timer runs
for it, the clients that were opened were handed over to be closed, and so was a runtime of its
own. -/
structure NothingLeft (number : Nat) (hd : Handle Container κ) (calls : List (Call Container κ))
    (w : Watch) : Prop where
  terminated : .terminate hd.container (.ok ()) ∈ calls
  unarmed : ¬ w.board.Armed (number, hd.container.id)
  clients : opened calls ≤ passed calls
  runtime : hd.ownsRuntime = true → .closeRuntime (.ok ()) ∈ calls

theorem onFamily_of_eq {x : FamilyAct ρ κ σ α} {id : InstanceId} {st : Estate ρ κ σ}
    {f f' : Family ρ κ} {r : Except Fault α} {o : σ} (hf : st.families[id]? = some f)
    (hx : x (f, st.outside) = (r, (f', o))) :
    Estate.onFamily id x st = (r, { families := st.families.set id f', outside := o }) := by
  simp only [Estate.onFamily, hf, hx]

theorem enrolled_tracks {l : Launched η ρ κ (Recorded ρ κ σ)} {st : Estate ρ κ (Recorded ρ κ σ)}
    (hl : l.handle.liveClones = []) :
    (l.enrolled st).Tracks st.families.length l.handle st.outside.1 := by
  refine ⟨{ handle := l.handle }, List.getElem?_concat_length, [], (List.append_nil _).symm, ?_⟩
  refine ⟨fun id hid => ?_, ?_, rfl, rfl⟩
  · rw [hl] at hid
    cases hid
  · rw [opened_nil]
    exact Multiset.zero_le _

/-- A start whose instance was launched and could not be brought up raises a fault and tells nobody
of the instance.  When its hooks neither closed the instance nor left a clone of it open, and the
calls of the teardown return, nothing is left of the instance.  Whatever the hooks did, the fault
is that of the step that failed when the calls of the teardown raise ordinary faults at most and
the runtime closes. -/
theorem failed_start {h : Host τ} {p : Provisioner η Container κ (Recorded Container κ (Watch × τ))}
    (hp : h.Provides p) (s : Service η Container κ τ) (o : StartOptions η) (number? : Option Nat)
    {st st₁ st₂ : Estate Container κ (Recorded Container κ (Watch × τ))}
    {l : Launched η Container κ (Recorded Container κ (Watch × τ))} {e : Fault}
    (hw : st.outside.2.1.Faithful) (ht : (o.wantsTemplate && !s.supportsTemplates) = false)
    (hl : Estate.around (launchInstance p s.beside.recorded o (h.given number?)) st = (.ok l, st₁))
    (hb : bringUp p l.backing o l.deadline st₁.families.length (l.enrolled st₁) =
      (.error e, st₂)) :
    ∃ number f r st₃ brought teardown, (∀ n, number? = some n → number = n) ∧
      l.backing = (h.backing number s).recorded ∧ l.handle.ownsRuntime = number?.isNone ∧
      st₂.families[st₁.families.length]? = some f ∧
      st₂.outside.1 = st₁.outside.1 ++ brought ∧ st₃.outside.1 = st₂.outside.1 ++ teardown ∧
      (∀ register, start p s.beside.recorded o (h.given number?) register st = (.error r, st₃)) ∧
      (f.handle.closed = false → (∀ c ∈ f.clones, c.closed = true) →
        (∀ hd flag d, .setTemplate hd flag (.error d) ∉ teardown) →
        (∀ c d, .terminate c (.error d) ∉ teardown) → (∀ d, .closeRuntime (.error d) ∉ teardown) →
        NothingLeft number l.handle (brought ++ teardown) st₃.outside.2.1) ∧
      ((∀ c ∈ teardown, ∀ d, c.fault? = some d → d.isOrdinary = true) →
        (∀ d, .closeRuntime (.error d) ∉ teardown) → r = e) := by
  obtain ⟨hlo, -⟩ := around_ok hl
  obtain ⟨number, hnumber, hback, howns, hlive⟩ := hp.launched hlo
  rw [hback] at hb
  -- What holds of the launched instance is followed through the steps.
  have agrees₁ := hp.launch_agrees s o number? st.outside hw
  rw [hlo] at agrees₁
  have tracks₂ := bringUp_tracks (b := h.backing number s) hp.around o l.deadline
    (fun hook _ => hp.hook_tracks number s hook) (l.enrolled st₁) (enrolled_tracks hlive)
  have agrees₂ := bringUp_keeps (Host.recorded_agrees number s).readying hp.around o l.deadline
    st₁.families.length (fun hook _ => hp.hook_agrees number s hook _) (l.enrolled st₁) agrees₁
  rw [hb] at tracks₂ agrees₂
  obtain ⟨f, hf, brought, hbrought, htracked⟩ := tracks₂
  -- The teardown.
  obtain ⟨q, f', teardown, t, hd, discarded⟩ :=
    discard_takes (h.backing number s) f st₂.outside.1 st₂.outside.2
  have closing : (h.backing number s).recorded.KeepsClosing (Host.Stopped st₂.outside.1 number) :=
    Host.backing_stopped s
  have stopped := discard_keeps closing (f, st₂.outside) ⟨[], (List.append_nil _).symm,
    agrees₂.board, fun _ _ hm => by cases hm⟩
  rw [hd] at stopped
  obtain ⟨calls, hcalls, -, unarmed⟩ := stopped
  obtain rfl : teardown = calls := List.append_cancel_left hcalls
  refine ⟨number, f, e.followedBy q, _, brought, teardown, hnumber, hback, howns, hf, hbrought,
    rfl, start_of_failed ht hl (by rw [hback]; exact hb)
      (by rw [hback]; exact onFamily_of_eq hf hd), ?_, ?_⟩
  · intro hopen hclones hs ht' hr
    obtain ⟨terminated, clients, runtime⟩ :=
      discarded.clean htracked hopen hclones hs ht' hr
    exact ⟨List.mem_append_right _ terminated, unarmed _ _ terminated, clients,
      fun ho => List.mem_append_right _ (runtime ho)⟩
  · intro ho hr
    rw [discarded.eq_ok ho hr]
    rfl

def Host.willing : Host Unit :=
  { Host.stubborn with daemon := { Host.stubborn.daemon with remove := fun _ => pure () } }

/-- A service with templates that is ready at once. -/
def Service.copied : Service Unit Container Unit Unit :=
  { Service.ready with
    supportsTemplates := true
    setTemplate := fun _ _ => pure ()
    createCopy := fun _ _ => pure ()
    dropCopy := fun _ => pure () }

/-- Starts with a hook that makes a template of the instance, uses a clone of it and is then
interrupted. -/
def Host.interrupted (h : Host τ) :
    Provisioner Unit Container Unit (Recorded Container Unit (Watch × τ)) where
  around := h.surroundings.beside
  newRuntime := do
    let number ← Act.outside (Act.outside (pure 0))
    pure (h.runtime number).recorded
  runHook b _ id := do
    Estate.onFamily id (promote b)
    let c ← Estate.onFamily id (cloneTemplate b)
    Estate.onFamily id (closeClone b c)
    Act.raise (.host (.foreign "interrupt" false) "stopped")
  hookLabel _ := ""
  pollInterval := .real 1
  maxBackoff := .real 1
  furtherProbes := 10

theorem Host.interrupted_provides (h : Host τ) : h.Provides h.interrupted where
  around := rfl
  newRuntime := ⟨pure 0, rfl⟩
  hooks _ _ _ _ :=
    .bind .promote fun _ => .bind .clone fun c => .bind (.closeClone c) fun _ => .fail _

def Estate.fresh : Estate Container Unit (Recorded Container Unit (Watch × Unit)) :=
  { families := [], outside := ([], ({}, ())) }

def StartOptions.hooked : StartOptions Unit := { timeout := .real 30, hooks := [()] }

/-- What a start with the interrupted hook does before its teardown. -/
def Host.beforeTeardown : EstateAct Container Unit (Recorded Container Unit (Watch × Unit)) Unit := do
  let l ← Estate.around (launchInstance Host.willing.interrupted Service.copied.beside.recorded
    .hooked (Host.willing.given none))
  let id ← Estate.enroll l.handle
  bringUp Host.willing.interrupted l.backing .hooked l.deadline id

def Act.isInterruption : Except Fault α → Bool
  | .ok _ => false
  | .error e => !e.isOrdinary

/-- Nothing is left of an instance whose hook was interrupted, and the interruption goes on. -/
theorem failed_start_of_interrupted_hook : ∃ number, ∃ hd : Handle Container Unit, ∃ calls r st,
    hd.ownsRuntime = true ∧ NothingLeft number hd calls st.outside.2.1 ∧ r.isOrdinary = false ∧
      ∀ register, start Host.willing.interrupted Service.copied.beside.recorded .hooked none register
        Estate.fresh = (.error r, st) := by
  have launched : (Estate.around (launchInstance Host.willing.interrupted
      Service.copied.beside.recorded .hooked (Host.willing.given none)) Estate.fresh).1.isOk =
      true := by decide +kernel
  have interrupted : isInterruption (Host.beforeTeardown Estate.fresh).1 = true := by decide +kernel
  have families : (Host.beforeTeardown Estate.fresh).2.families.all (fun f =>
      !f.handle.closed && f.clones.all (·.closed)) = true := by decide +kernel
  have quiet : (start Host.willing.interrupted Service.copied.beside.recorded .hooked none none
      Estate.fresh).2.outside.1.all (fun c => c.fault?.isNone) = true := by decide +kernel
  rcases hl : Estate.around (launchInstance Host.willing.interrupted
    Service.copied.beside.recorded .hooked (Host.willing.given none)) Estate.fresh with ⟨e | l, st₁⟩
  · rw [hl] at launched
    cases launched
  have hrun : Host.beforeTeardown Estate.fresh = bringUp Host.willing.interrupted l.backing .hooked
      l.deadline st₁.families.length (l.enrolled st₁) := bind_of_ok hl
  rw [hrun] at interrupted families
  rcases hb : bringUp Host.willing.interrupted l.backing .hooked l.deadline st₁.families.length
    (l.enrolled st₁) with ⟨e | ⟨⟩, st₂⟩
  · rw [hb] at interrupted families
    rw [isInterruption, Bool.not_eq_true'] at interrupted
    simp only [List.all_eq_true, Bool.and_eq_true, Bool.not_eq_true'] at families
    obtain ⟨number, f, r, st₃, brought, teardown, -, -, owns, hf, -, hteardown, hstart, left,
      same⟩ :=
      failed_start Host.willing.interrupted_provides Service.copied .hooked none faithful_empty rfl
        hl hb
    have returned : ∀ c ∈ teardown, c.fault? = none := by
      intro c hc
      have hstart' : start Host.willing.interrupted Service.copied.beside.recorded .hooked none none
        Estate.fresh = (.error r, st₃) := hstart none
      rw [hstart', List.all_eq_true] at quiet
      exact Option.isNone_iff_eq_none.mp
        (quiet c (by rw [hteardown]; exact List.mem_append_right _ hc))
    have failed : ∀ c ∈ teardown, ∀ d, c.fault? ≠ some d := by
      intro c hc d hd
      rw [returned c hc] at hd
      cases hd
    obtain ⟨hopen, hclones⟩ := families f (List.mem_of_getElem? hf)
    refine ⟨number, l.handle, _, r, st₃, owns, left hopen hclones ?_ ?_ ?_, ?_, hstart⟩
    · exact fun hd flag d hm => failed _ hm d rfl
    · exact fun c d hm => failed _ hm d rfl
    · exact fun d hm => failed _ hm d rfl
    · rw [same (fun c hc d hd => absurd hd (failed c hc d)) fun d hm => failed _ hm d rfl]
      exact interrupted
  · rw [hb] at interrupted
    cases interrupted

end Testbed
