import Testbed.Proofs.Instance.Retry
import Testbed.Proofs.Start.Run

/-!
# Launches

The calls of a launch, when collaborators are recorded: a container is launched exactly when it is
the result, and a runtime that was created for the instance is closed when there is none.
-/

namespace Testbed

set_option autoImplicit false

open Act

variable {η ρ κ σ α : Type}

/-- The calls of a launch: nothing is closed or destroyed, and a container was launched exactly
when it is the result. -/
structure Launching (r : Except Fault ρ) (calls : List (Call ρ κ)) : Prop where
  closes : ∀ q, .closeRuntime q ∉ calls
  terminates : ∀ c q, .terminate c q ∉ calls
  launched : ∀ c, (∃ spec, .launch spec (.ok c) ∈ calls) ↔ r = .ok c

/-- The calls of a launch that closes an own runtime when it fails. -/
inductive LaunchingOn (owned : Bool) : Except Fault ρ → List (Call ρ κ) → Prop
  | launched {c : ρ} {calls : List (Call ρ κ)} : Launching (.ok c) calls →
      LaunchingOn owned (.ok c) calls
  | kept {e : Fault} {calls : List (Call ρ κ)} : owned = false → Launching (.error e) calls →
      LaunchingOn owned (.error e) calls
  | closed {e : Fault} {calls : List (Call ρ κ)} (q : Except Fault Unit) : owned = true →
      Launching (.error e) calls →
      LaunchingOn owned (.error (e.followedBy q)) (calls ++ [.closeRuntime q])

def Call.IsLaunchSpec (c : Call ρ κ) : Prop := ∃ name q, c = .launchSpec name q

namespace Launching

variable {r : Except Fault ρ} {e : Fault} {calls : List (Call ρ κ)}

theorem of_specs (h : ∀ c ∈ calls, c.IsLaunchSpec) (e : Fault) : Launching (.error e) calls where
  closes q hm := by
    obtain ⟨_, _, hc⟩ := h _ hm
    cases hc
  terminates c q hm := by
    obtain ⟨_, _, hc⟩ := h _ hm
    cases hc
  launched c := by
    refine ⟨fun ⟨spec, hm⟩ => ?_, fun hc => by cases hc⟩
    obtain ⟨_, _, hc⟩ := h _ hm
    cases hc

theorem append_launched (h : Launching (.error e) calls) (spec : LaunchSpec) (c : ρ) :
    Launching (.ok c) (calls ++ [.launch spec (.ok c)]) where
  closes q hm := h.closes q (by simpa using hm)
  terminates d q hm := h.terminates d q (by simpa using hm)
  launched d := by
    constructor
    · rintro ⟨spec', hm⟩
      rcases List.mem_append.mp hm with hm | hm
      · cases (h.launched d).mp ⟨spec', hm⟩
      · cases List.mem_singleton.mp hm
        rfl
    · intro hd
      cases hd
      exact ⟨spec, List.mem_append_right _ (List.mem_singleton_self _)⟩

theorem append_unlaunched (h : Launching (.error e) calls) (spec : LaunchSpec) (d e' : Fault) :
    Launching (.error e') (calls ++ [.launch spec (.error d)]) where
  closes q hm := h.closes q (by simpa using hm)
  terminates c q hm := h.terminates c q (by simpa using hm)
  launched c := by
    refine ⟨fun ⟨spec', hm⟩ => ?_, fun hc => by cases hc⟩
    cases (h.launched c).mp ⟨spec', by simpa using hm⟩

theorem cons_ping (h : Launching r calls) (q : Except Fault Unit) :
    Launching r (.ping q :: calls) where
  closes q' hm := h.closes q' (by simpa using hm)
  terminates c q' hm := h.terminates c q' (by simpa using hm)
  launched c := by simpa using h.launched c

end Launching

section Launch

variable {b : Backing η ρ κ σ} {o : StartOptions η}

theorem labelledSpec_since (logicalName : String) (l : List (Call ρ κ)) :
    Keeps (Since l Call.IsLaunchSpec)
      (labelledSpec b.recorded.around b.recorded.service o logicalName) := by
  refine .bind (.bind ?_ fun _ => .pure _) fun name => .bind ?_ fun spec => ?_
  · exact fun _ hs => hs
  · exact noted_since fun s => ⟨name, _, rfl⟩
  · exact .bind (.read _) fun now => .bind (.ofExcept _) fun expiry => .pure _

theorem launchContainer_launching (logicalName : String) (l : List (Call ρ κ)) (t : σ) :
    ∃ r calls t', launchContainer b.recorded o logicalName (l, t) = (r, (l ++ calls, t')) ∧
      Launching r calls := by
  have specs := labelledSpec_since (b := b) (o := o) logicalName l (l, t)
    ⟨[], (List.append_nil _).symm, fun _ hc => by cases hc⟩
  rcases hs : labelledSpec b.recorded.around b.recorded.service o logicalName (l, t) with
    ⟨e | spec, l', t₁⟩ <;> rw [hs] at specs <;> obtain ⟨calls, hl, hspecs⟩ := specs <;>
    cases hl
  · exact ⟨.error e, calls, t₁, bind_of_error hs, .of_specs hspecs e⟩
  · rcases hrun : b.runtime.launch spec t₁ with ⟨q, t₂⟩
    have hr : b.recorded.runtime.launch spec (l ++ calls, t₁) =
        (q, (l ++ calls ++ [.launch spec q], t₂)) := noted_of_eq _ _ hrun
    rw [List.append_assoc] at hr
    rcases q with e | c
    · refine ⟨_, _, t₂, (bind_of_ok hs).trans (orRaise_of_error _ hr), ?_⟩
      exact .append_unlaunched (.of_specs hspecs e) spec e _
    · refine ⟨.ok c, _, t₂, (bind_of_ok hs).trans (orRaise_of_ok _ hr), ?_⟩
      exact .append_launched (.of_specs hspecs Estate.unknown) spec c

theorem reachAndLaunch_launching (logicalName : String) (l : List (Call ρ κ)) (t : σ) :
    ∃ r calls t', (do b.recorded.runtime.ping
                      launchContainer b.recorded o logicalName : Act _ ρ) (l, t) =
        (r, (l ++ calls, t')) ∧ Launching r calls := by
  rcases hping : b.runtime.ping t with ⟨e | ⟨⟩, t₁⟩
  · have hp : b.recorded.runtime.ping (l, t) = (.error e, (l ++ [.ping (.error e)], t₁)) :=
      noted_of_eq _ _ hping
    refine ⟨.error e, _, t₁, bind_of_error hp, ?_⟩
    exact .cons_ping (.of_specs (fun _ hc => by cases hc) e) _
  · have hp : b.recorded.runtime.ping (l, t) = (.ok (), (l ++ [.ping (.ok ())], t₁)) :=
      noted_of_eq _ _ hping
    obtain ⟨r, calls, t₂, hl, h⟩ :=
      launchContainer_launching (b := b) (o := o) logicalName (l ++ [.ping (.ok ())]) t₁
    rw [List.append_assoc] at hl
    exact ⟨r, _, t₂, (bind_of_ok hp).trans hl, h.cons_ping _⟩

theorem launchStep_launching (logicalName : String) (owned : Bool) (l : List (Call ρ κ)) (t : σ) :
    ∃ r calls t', launchStep b.recorded o logicalName owned (l, t) = (r, (l ++ calls, t')) ∧
      LaunchingOn owned r calls := by
  obtain ⟨r, calls, t₁, hx, h⟩ := reachAndLaunch_launching (b := b) (o := o) logicalName l t
  rcases r with e | c
  · cases owned with
    | false => exact ⟨.error e, calls, t₁, onFault_of_error hx rfl, .kept rfl h⟩
    | true =>
      rcases hc : b.runtime.close t₁ with ⟨q, t₂⟩
      have hclose : b.recorded.runtime.close (l ++ calls, t₁) =
          (q, (l ++ calls ++ [.closeRuntime q], t₂)) := noted_of_eq _ _ hc
      rw [List.append_assoc] at hclose
      exact ⟨_, _, t₂, onFault_of_error hx hclose, .closed q rfl h⟩
  · exact ⟨.ok c, calls, t₁, onFault_of_ok hx, .launched h⟩

end Launch

/-! Starts. -/

/-- A recorded action that makes no calls. -/
def Unnoted {β : Type} (x : Act (Recorded ρ κ σ) β) : Prop := ∃ y : Act σ β, x = Act.outside y

/-- Starts whose collaborators are recorded, with hooks that are programs. -/
structure Provisioner.Records (p : Provisioner η ρ κ (Recorded ρ κ σ)) (a : Surroundings σ)
    (new : Act σ (Runtime ρ σ)) : Prop where
  around : p.around = a.beside
  newRuntime : p.newRuntime = do
    let r ← Act.outside new
    pure r.recorded
  hooks : ∀ (b : Backing η ρ κ σ) hook id,
    HookProgram b.recorded id Unnoted (p.runHook b.recorded hook id)

section Start

variable {p : Provisioner η ρ κ (Recorded ρ κ σ)} {a : Surroundings σ} {new : Act σ (Runtime ρ σ)}
  {s : Service η ρ κ σ} {o : StartOptions η} {runtime : Option (Runtime ρ σ)} {used : Runtime ρ σ}

def Launched.on (b : Backing η ρ κ σ) (o : StartOptions η) (owned : Bool) (d : Num) (c : ρ) :
    Launched η ρ κ (Recorded ρ κ σ) where
  backing := b.recorded
  handle := { container := c, logicalName := o.nameOr b.service.defaultLogicalName,
              ownsRuntime := owned }
  deadline := d

theorem launchOn_launching (b : Backing η ρ κ σ) (owned : Bool) (d : Num) (l : List (Call ρ κ))
    (t : σ) : ∃ q calls t', launchOn b.recorded o owned d (l, t) =
      (q.map (Launched.on b o owned d), (l ++ calls, t')) ∧ LaunchingOn owned q calls := by
  obtain ⟨q, calls, t', hx, h⟩ := launchStep_launching (b := b) (o := o)
    (o.nameOr b.service.defaultLogicalName) owned l t
  rcases q with e | c
  · exact ⟨.error e, calls, t', bind_of_error hx, h⟩
  · exact ⟨.ok c, calls, t', bind_of_ok hx, h⟩

/-- Launching fails before there is a runtime, or it does what it does on the runtime used. -/
theorem launchInstance_launching (hp : p.Records a new) (t : σ)
    (hu : runtime.elim (new t).1 Except.ok = .ok used) :
    let r := launchInstance p s.recorded o (runtime.map Runtime.recorded) ([], t)
    (∃ e, numScale.later (a.clock.now t) o.timeout = .error e ∧ r = (.error e, ([], t))) ∨
    ∃ d q calls t', numScale.later (a.clock.now t) o.timeout = .ok d ∧
      r = (q.map (Launched.on ⟨s, used, a⟩ o runtime.isNone d), (calls, t')) ∧
      LaunchingOn runtime.isNone q calls := by
  intro r
  have hdeadline : p.around.deadline o.timeout ([], t) =
      (numScale.later (a.clock.now t) o.timeout, ([], t)) := by
    rw [hp.around]
    change Act.ofExcept (numScale.later (a.clock.now t) o.timeout) _ = _
    cases numScale.later (a.clock.now t) o.timeout <;> rfl
  cases hd : numScale.later (a.clock.now t) o.timeout with
  | error e =>
    rw [hd] at hdeadline
    exact .inl ⟨e, rfl, bind_of_error hdeadline⟩
  | ok d =>
    rw [hd] at hdeadline
    have hr : r = _ := bind_of_ok hdeadline
    have launching (owned : Bool) (t' : σ) := launchOn_launching (o := o)
      (⟨s, used, a⟩ : Backing η ρ κ σ) owned d [] t'
    cases hg : runtime with
    | some given =>
      rw [hg] at hr hu
      cases hu
      obtain ⟨q, calls, t', hl, h⟩ := launching false t
      refine .inr ⟨d, q, calls, t', rfl, ?_, h⟩
      rw [hr]
      dsimp only [Option.map_some]
      rw [hp.around]
      exact hl
    | none =>
      rw [hg] at hr hu
      obtain ⟨q, calls, t', hl, h⟩ := launching true (new t).2
      have hnew : p.newRuntime ([], t) = (.ok used.recorded, ([], (new t).2)) := by
        rw [hp.newRuntime]
        exact bind_of_ok (outside_of_eq _ (Prod.ext hu rfl))
      refine .inr ⟨d, q, calls, t', rfl, ?_, h⟩
      rw [hr.trans (bind_of_ok hnew), hp.around]
      exact hl

end Start

end Testbed
