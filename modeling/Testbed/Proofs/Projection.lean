import Testbed.Proofs.Invariant

/-!
# Actions under maps of the state

One action does what another one does under a map of states when both give the same result and the
map leads from the new state of the first to that of the second.  The operations on instances do
so whenever the requests to what stands behind the instances do.
-/

namespace Testbed

set_option autoImplicit false

variable {η ρ κ σ τ ω α β : Type}

namespace Act

def Maps (π : σ → τ) (x : Act σ α) (y : Act τ α) : Prop := ∀ s, y (π s) = ((x s).1, π (x s).2)

namespace Maps

variable {π : σ → τ}

theorem pure (a : α) : Maps π (Pure.pure a) (Pure.pure a) := fun _ => rfl

theorem fail (e : Fault) : Maps π (Act.fail e : Act σ α) (Act.fail e) := fun _ => rfl

theorem read {g : σ → α} {g' : τ → α} (h : ∀ s, g' (π s) = g s) :
    Maps π (Act.read g) (Act.read g') := by
  intro s
  rw [Act.read, h]
  rfl

theorem update {g : σ → σ} {g' : τ → τ} (h : ∀ s, g' (π s) = π (g s)) :
    Maps π (Act.update g) (Act.update g') := by
  intro s
  rw [Act.update, h]
  rfl

theorem ofExcept (r : Except Fault α) : Maps π (Act.ofExcept r) (Act.ofExcept r) := by
  cases r with
  | ok a => exact .pure a
  | error e => exact .fail e

theorem bind {x : Act σ α} {y : Act τ α} {f : α → Act σ β} {g : α → Act τ β} (hx : Maps π x y)
    (hf : ∀ a, Maps π (f a) (g a)) : Maps π (x >>= f) (y >>= g) := by
  intro s
  have hs := hx s
  rcases h : x s with ⟨e | a, s'⟩ <;> rw [h] at hs
  · rw [bind_of_error h, bind_of_error hs]
  · rw [bind_of_ok h, bind_of_ok hs]
    exact hf a s'

theorem attempt {x : Act σ α} {y : Act τ α} (hx : Maps π x y) :
    Maps π (Act.attempt x) (Act.attempt y) := by
  intro s
  have hs := hx s
  rcases h : x s with ⟨e | a, s'⟩ <;> rw [h] at hs
  · rw [attempt_of_error h, attempt_of_error hs]
    split <;> rfl
  · rw [attempt_of_ok h, attempt_of_ok hs]

theorem orRaise {x : Act σ α} {y : Act τ α} (hx : Maps π x y) (wrap : Fault → Incident) :
    Maps π (Act.orRaise x wrap) (Act.orRaise y wrap) := by
  refine .bind hx.attempt fun r => ?_
  cases r with
  | ok a => exact .pure a
  | error e => exact .fail _

theorem ite {c : Prop} [Decidable c] {x x' : Act σ α} {y y' : Act τ α} (h : Maps π x y)
    (h' : Maps π x' y') : Maps π (if c then x else x') (if c then y else y') := by
  split
  · exact h
  · exact h'

theorem first {c : Prop} [Decidable c] {x : Act σ Unit} {y : Act τ Unit} {f : Unit → Act σ α}
    {g : Unit → Act τ α} (h : Maps π x y) (hf : ∀ u, Maps π (f u) (g u)) :
    Maps π (if c then x >>= f else f ()) (if c then y >>= g else g ()) :=
  ite (bind h hf) (hf ())

/-- Actions on the second part of a state under a map of that part. -/
theorem outside {x : Act σ α} {y : Act τ α} (hx : Maps π x y) :
    Maps (Prod.map (id : ω → ω) π) (Act.outside x) (Act.outside y) := by
  rintro ⟨w, s⟩
  simp only [Act.outside, Prod.map, hx s]

end Maps

end Act

open Act FamilyAct

/-- What stands behind an instance answers each request as under a map of states. -/
structure Backing.Maps (π : σ → τ) (b : Backing η ρ κ σ) (b' : Backing η ρ κ τ) : Prop where
  name : b'.service.name = b.service.name
  supportsTemplates : b'.service.supportsTemplates = b.service.supportsTemplates
  connectionInfo : b'.service.connectionInfo = b.service.connectionInfo
  connectTo : ∀ info, Act.Maps π (b.service.connectTo info) (b'.service.connectTo info)
  probe : ∀ client, Act.Maps π (b.service.probe client) (b'.service.probe client)
  closeClient : ∀ client, Act.Maps π (b.service.closeClient client) (b'.service.closeClient client)
  setTemplate : ∀ h flag, Act.Maps π (b.service.setTemplate h flag) (b'.service.setTemplate h flag)
  terminate : ∀ c, Act.Maps π (b.runtime.terminate c) (b'.runtime.terminate c)
  close : Act.Maps π b.runtime.close b'.runtime.close
  write : ∀ level topic text s,
    b'.around.diary.write level topic text (π s) = π (b.around.diary.write level topic text s)

section Operations

variable {π : σ → τ} {b : Backing η ρ κ σ} {b' : Backing η ρ κ τ}

/-- The map of the state beside a family. -/
abbrev besideFamily (π : σ → τ) : Family ρ κ × σ → Family ρ κ × τ := Prod.map id π

theorem handle_maps :
    Maps (besideFamily π) (handle : FamilyAct ρ κ σ (Handle ρ κ)) handle :=
  .read fun _ => rfl

theorem setHandle_maps (u : Handle ρ κ → Handle ρ κ) :
    Maps (besideFamily π) (setHandle u : FamilyAct ρ κ σ Unit) (setHandle u) :=
  .update fun _ => rfl

theorem debug_maps (h : b.Maps π b') (topic : Topic) (text : String) :
    Maps (besideFamily π) (debug b topic text) (debug b' topic text) :=
  .outside (.update fun s => h.write _ _ _ s)

theorem warn_maps (h : b.Maps π b') (topic : Topic) (text : String) :
    Maps (besideFamily π) (warn b topic text) (warn b' topic text) :=
  .outside (.update fun s => h.write _ _ _ s)

theorem label_maps (h : b.Maps π b') :
    Maps (besideFamily π) (label b) (label b') := by
  refine .bind handle_maps fun hd => ?_
  rw [h.name]
  exact .pure _

theorem terminate_maps (h : b.Maps π b') :
    Maps (besideFamily π) (terminate b) (terminate b') := by
  refine .bind handle_maps fun hd => .bind (.outside ((h.terminate _).orRaise _)) fun _ => ?_
  exact .bind (setHandle_maps _) fun _ => .ite (.outside h.close) (.pure _)

theorem closeClient_maps (h : b.Maps π b') :
    Maps (besideFamily π) (closeClient b) (closeClient b') := by
  refine .bind handle_maps fun hd => ?_
  cases hd.client with
  | none => exact .pure _
  | some c =>
    refine .bind (.outside (h.closeClient c).attempt) fun r => ?_
    cases r with
    | ok _ => exact .pure _
    | error e => exact warn_maps h _ _

theorem revertTemplate_maps (h : b.Maps π b') :
    Maps (besideFamily π) (revertTemplate b) (revertTemplate b') := by
  refine .bind handle_maps fun hd => .ite ?_ (.pure _)
  refine .bind (.outside (h.setTemplate hd false).attempt) fun r => ?_
  cases r with
  | ok _ => exact setHandle_maps _
  | error e => exact .ite (.bind (warn_maps h _ _) fun _ => setHandle_maps _) (.fail _)

theorem keepOrTerminate_maps (h : b.Maps π b') :
    Maps (besideFamily π) (keepOrTerminate b) (keepOrTerminate b') := by
  refine .bind handle_maps fun hd => .ite (terminate_maps h) ?_
  refine .bind (label_maps h) fun name => ?_
  exact .bind (.outside (.update fun s => h.write _ _ _ s)) fun _ => setHandle_maps _

theorem closeInstance_maps (h : b.Maps π b') :
    Maps (besideFamily π) (closeInstance b) (closeInstance b') := by
  refine .bind handle_maps fun hd => .ite (.ite (terminate_maps h) (.pure _)) ?_
  refine .bind (revertTemplate_maps h) fun _ => .bind (keepOrTerminate_maps h) fun _ => ?_
  refine .bind (setHandle_maps _) fun _ => .bind (closeClient_maps h) fun _ => ?_
  exact .bind (label_maps h) fun name => debug_maps h _ _

theorem checkOpen_maps :
    Maps (besideFamily π) (checkOpen : FamilyAct ρ κ σ Unit) checkOpen :=
  .bind handle_maps fun _ => .ite (.fail _) (.pure _)

theorem promote_maps (h : b.Maps π b') :
    Maps (besideFamily π) (promote b) (promote b') := by
  unfold promote
  rw [h.supportsTemplates, h.name]
  refine .first (.fail _) fun _ => .bind checkOpen_maps fun _ => .bind handle_maps fun hd => ?_
  refine .ite (.bind (.outside ((h.setTemplate hd true).orRaise _)) fun _ => ?_) (.pure _)
  exact .bind (setHandle_maps _) fun _ => .bind (label_maps h) fun name => debug_maps h _ _

theorem discard_maps (h : b.Maps π b') :
    Maps (besideFamily π) (discard b) (discard b') := by
  refine .bind (closeInstance_maps h).attempt fun r => ?_
  cases r with
  | ok _ => exact .pure _
  | error e =>
    dsimp only
    split
    · exact warn_maps h _ _
    · exact .fail _

theorem ensureClient_maps (h : b.Maps π b') :
    Maps (besideFamily π) (ensureClient b) (ensureClient b') := by
  refine .bind handle_maps fun hd => .ite ?_ (.pure _)
  refine .bind (.outside ?_) fun client => setHandle_maps _
  unfold Service.connect
  rw [h.connectionInfo]
  exact .bind (.ofExcept _) fun info => h.connectTo info

theorem probeClient_maps (h : b.Maps π b') (endpoint : String) :
    Maps (besideFamily π) (probeClient b endpoint) (probeClient b' endpoint) := by
  refine .bind handle_maps fun hd => .bind (.outside (h.probe _).attempt) fun r => ?_
  cases r with
  | ok _ => exact .pure _
  | error e =>
    refine .bind (setHandle_maps _) fun _ => ?_
    cases hd.client with
    | none => exact .fail _
    | some c =>
      refine .bind (.outside (h.closeClient c).attempt) fun r => ?_
      cases r with
      | ok _ => exact .fail _
      | error d => exact .bind (debug_maps h _ _) fun _ => .fail _

end Operations

/-! Recorded collaborators do what they do when no one records them. -/

theorem noted_unnoted {N : Type} (x : Act σ α) (note : Except Fault α → N) :
    Act.Maps Prod.snd (x.noted note) x := fun _ => rfl

theorem Backing.unrecorded_maps (b : Backing η ρ κ σ) : b.recorded.Maps Prod.snd b where
  name := rfl
  supportsTemplates := rfl
  connectionInfo := rfl
  connectTo _ := noted_unnoted _ _
  probe _ := noted_unnoted _ _
  closeClient _ := noted_unnoted _ _
  setTemplate _ _ := noted_unnoted _ _
  terminate _ := noted_unnoted _ _
  close := noted_unnoted _ _
  write _ _ _ _ := rfl

end Testbed
