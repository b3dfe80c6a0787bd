import Testbed.Proofs.Calls

/-!
# Properties that actions keep

A property of the state is kept by an action when it holds after it, however the action ends.
What every request to the collaborators of an instance keeps, every operation on the instance
keeps as well.
-/

namespace Testbed

set_option autoImplicit false

variable {η ρ κ σ τ α β : Type}

namespace Act

/-- Two actions in a row return only when both do. -/
theorem bind_ok {x : Act σ α} {f : α → Act σ β} {s s'' : σ} {b : β}
    (h : (x >>= f) s = (.ok b, s'')) : ∃ a s', x s = (.ok a, s') ∧ f a s' = (.ok b, s'') := by
  rcases hx : x s with ⟨e | a, s'⟩
  · rw [bind_of_error hx] at h
    cases h
  · rw [bind_of_ok hx] at h
    exact ⟨a, s', rfl, h⟩

theorem attempt_ok {x : Act σ α} {s s' : σ} {found : Except Fault α}
    (h : attempt x s = (.ok found, s')) : x s = (found, s') := by
  rcases hx : x s with ⟨e | y, t⟩
  · rw [attempt_of_error hx] at h
    split at h <;> cases h
    rfl
  · rw [attempt_of_ok hx] at h
    cases h
    rfl

theorem onFault_ok {x : Act σ α} {after : Act σ Unit} {s s' : σ} {y : α}
    (h : onFault x after s = (.ok y, s')) : x s = (.ok y, s') := by
  rcases hx : x s with ⟨e | z, t⟩
  · rcases ha : after t with ⟨d | ⟨⟩, t'⟩ <;> simp only [onFault, hx, ha] at h <;> cases h
  · rw [onFault_of_ok hx] at h
    exact h

theorem ofExcept_ok {found : Except Fault α} {s s' : σ} {y : α}
    (h : ofExcept found s = (.ok y, s')) : found = .ok y ∧ s = s' := by
  cases found with
  | error e => cases h
  | ok z =>
    cases h
    exact ⟨rfl, rfl⟩

theorem orRaise_ok {x : Act σ α} {wrap : Fault → Incident} {s s' : σ} {y : α}
    (h : orRaise x wrap s = (.ok y, s')) : x s = (.ok y, s') := by
  rw [orRaise_apply] at h
  rcases hx : x s with ⟨e | z, t⟩ <;> rw [hx] at h
  · cases h
  · exact h

/-- An action after which a property of the state still holds, whether it returns or raises. -/
def Keeps (I : σ → Prop) (x : Act σ α) : Prop := ∀ s, I s → I (x s).2

namespace Keeps

variable {I : σ → Prop}

theorem apply {x : Act σ α} (hx : Keeps I x) {s s' : σ} {r : Except Fault α}
    (h : x s = (r, s')) (hs : I s) : I s' := by
  have hs' := hx s hs
  rw [h] at hs'
  exact hs'

theorem pure (a : α) : Keeps I (Pure.pure a : Act σ α) := fun _ h => h

theorem fail (e : Fault) : Keeps I (Act.fail e : Act σ α) := fun _ h => h

theorem read (f : σ → α) : Keeps I (Act.read f) := fun _ h => h

theorem update {f : σ → σ} (h : ∀ s, I s → I (f s)) : Keeps I (Act.update f) := h

theorem ofExcept (r : Except Fault α) : Keeps I (Act.ofExcept r) := by
  cases r with
  | ok a => exact .pure a
  | error e => exact .fail e

/-- The second action must keep the property only for what the first can return. -/
theorem bind_of_result {x : Act σ α} {f : α → Act σ β} (hx : Keeps I x)
    (hf : ∀ s a s', x s = (.ok a, s') → Keeps I (f a)) : Keeps I (x >>= f) := by
  intro s hs
  have hs' := hx s hs
  rcases h : x s with ⟨e | a, s'⟩ <;> rw [h] at hs'
  · rw [bind_of_error h]
    exact hs'
  · rw [bind_of_ok h]
    exact hf s a s' h s' hs'

theorem bind {x : Act σ α} {f : α → Act σ β} (hx : Keeps I x) (hf : ∀ a, Keeps I (f a)) :
    Keeps I (x >>= f) := bind_of_result hx fun _ a _ _ => hf a

theorem attempt {x : Act σ α} (hx : Keeps I x) : Keeps I (Act.attempt x) := by
  intro s hs
  have hs' := hx s hs
  rcases h : x s with ⟨e | a, s'⟩ <;> rw [h] at hs'
  · rw [attempt_of_error h]
    split <;> exact hs'
  · rw [attempt_of_ok h]
    exact hs'

theorem orRaise {x : Act σ α} (hx : Keeps I x) (wrap : Fault → Incident) :
    Keeps I (Act.orRaise x wrap) := by
  refine .bind hx.attempt fun r => ?_
  cases r with
  | ok a => exact .pure a
  | error e => exact .fail _

theorem onFault {x : Act σ α} {after : Act σ Unit} (hx : Keeps I x) (ha : Keeps I after) :
    Keeps I (Act.onFault x after) := by
  intro s hs
  have hs' := hx s hs
  rcases h : x s with ⟨e | a, s'⟩ <;> rw [h] at hs'
  · have hs'' := ha s' hs'
    rcases h' : after s' with ⟨e' | ⟨⟩, s''⟩ <;> rw [h'] at hs'' <;>
      simp only [Act.onFault, h, h'] <;> exact hs''
  · rw [onFault_of_ok h]
    exact hs'

theorem ite {c : Prop} [Decidable c] {x y : Act σ α} (hx : Keeps I x) (hy : Keeps I y) :
    Keeps I (if c then x else y) := by
  split
  · exact hx
  · exact hy

/-- An action that is done first under a condition. -/
theorem first {c : Prop} [Decidable c] {x : Act σ Unit} {f : Unit → Act σ α} (hx : Keeps I x)
    (hf : ∀ u, Keeps I (f u)) : Keeps I (if c then x >>= f else f ()) :=
  ite (bind hx hf) (hf ())

theorem outside {I : τ → Prop} {x : Act τ α} (hx : Keeps I x) :
    Keeps (σ := σ × τ) (I ∘ Prod.snd) (Act.outside x) := by
  intro s hs
  exact hx s.2 hs

end Keeps

/-- An action that leads from one property of the state to another one, however it ends. -/
def Leads (P Q : σ → Prop) (x : Act σ α) : Prop := ∀ s, P s → Q (x s).2

namespace Leads

variable {P Q R : σ → Prop}

theorem bind {x : Act σ α} {f : α → Act σ β} (hx : Leads P Q x) (hf : ∀ a, Keeps Q (f a)) :
    Leads P Q (x >>= f) := by
  intro s hs
  have hs' := hx s hs
  rcases h : x s with ⟨e | a, s'⟩ <;> rw [h] at hs'
  · rw [bind_of_error h]
    exact hs'
  · rw [bind_of_ok h]
    exact hf a s' hs'

/-- An update does not fail. -/
theorem update {u : σ → σ} {f : Unit → Act σ α} (hu : ∀ s, P s → Q (u s))
    (hf : Leads Q R (f ())) : Leads P R (Act.update u >>= f) := fun s hs => hf (u s) (hu s hs)

theorem attempt {x : Act σ α} (hx : Leads P Q x) : Leads P Q (Act.attempt x) := by
  intro s hs
  have hs' := hx s hs
  rcases h : x s with ⟨e | a, s'⟩ <;> rw [h] at hs'
  · rw [attempt_of_error h]
    split <;> exact hs'
  · rw [attempt_of_ok h]
    exact hs'

end Leads

end Act

open Act FamilyAct

/-! Waiting. -/

/-- A property that every probe, every sleep and every entry of a wait keeps. -/
structure Polling.Keeps (p : Polling τ σ) (I : σ → Prop) : Prop where
  probe : ∀ endpoint, Act.Keeps I (p.probe endpoint)
  sleep : ∀ n, Act.Keeps I (p.clock.sleep n)
  write : ∀ level topic text s, I s → I (p.diary.write level topic text s)

namespace Polling

variable {I : σ → Prop}

theorem pause_keeps {p : Polling τ σ} (h : p.Keeps I) (attempt : Nat) (remaining : τ)
    (last : Fault) : Act.Keeps I (p.pause attempt remaining last) := by
  refine .bind (.ofExcept _) fun brief => .bind (.update fun s => h.write _ _ _ s) fun _ => ?_
  exact h.sleep _

theorem poll_keeps {p : Polling τ σ} (h : p.Keeps I) (deadline : τ) (fuel attempt : Nat) :
    Act.Keeps I (p.poll deadline fuel attempt) := by
  induction fuel generalizing attempt with
  | zero => exact .fail _
  | succ fuel ih =>
    refine .bind (h.probe _).attempt fun r => ?_
    cases r with
    | ok a => exact .update fun s => h.write _ _ _ s
    | error f =>
      refine .ite ?_ (.fail _)
      refine .bind (.read _) fun now => .bind (.ofExcept _) fun left => .ite (.fail _) ?_
      exact .bind (pause_keeps h _ _ _) fun _ => ih _

theorem awaitReady_keeps {p : Polling τ σ} (h : p.Keeps I) : Act.Keeps I p.awaitReady :=
  .bind (.read _) fun _ => .bind (.ofExcept _) fun _ => poll_keeps h _ _ _

end Polling

/-! Operations on instances. -/

/-- A property that every request made while an instance is closed keeps. -/
structure Backing.KeepsClosing (b : Backing η ρ κ σ) (I : σ → Prop) : Prop where
  closeClient : ∀ client, Act.Keeps I (b.service.closeClient client)
  setTemplate : ∀ h flag, Act.Keeps I (b.service.setTemplate h flag)
  terminate : ∀ c, Act.Keeps I (b.runtime.terminate c)
  close : Act.Keeps I b.runtime.close
  write : ∀ level topic text s, I s → I (b.around.diary.write level topic text s)

/-- A property that the requests for an instance and its clones keep, but for those that make a new
clone. -/
structure Backing.KeepsServing (b : Backing η ρ κ σ) (I : σ → Prop) : Prop
    extends b.KeepsClosing I where
  connectTo : ∀ info, Act.Keeps I (b.service.connectTo info)
  dropCopy : ∀ info, Act.Keeps I (b.service.dropCopy info)

/-- A property that the requests for an instance keep from its launch on, but for those that make a
new clone. -/
structure Backing.KeepsReadying (b : Backing η ρ κ σ) (I : σ → Prop) : Prop
    extends b.KeepsServing I where
  probe : ∀ client, Act.Keeps I (b.service.probe client)
  scheduleExpiry : ∀ c n, Act.Keeps I (b.runtime.scheduleExpiry c n)
  endpoint : ∀ c port, Act.Keeps I (b.runtime.endpoint c port)
  sleep : ∀ n, Act.Keeps I (b.around.clock.sleep n)

/-- A property that every request to what stands behind an instance keeps. -/
structure Backing.Keeps (b : Backing η ρ κ σ) (I : σ → Prop) : Prop extends b.KeepsClosing I where
  launchSpec : ∀ name o, Act.Keeps I (b.service.launchSpec name o)
  connectTo : ∀ info, Act.Keeps I (b.service.connectTo info)
  probe : ∀ client, Act.Keeps I (b.service.probe client)
  createCopy : ∀ h name, Act.Keeps I (b.service.createCopy h name)
  dropCopy : ∀ info, Act.Keeps I (b.service.dropCopy info)
  ping : Act.Keeps I b.runtime.ping
  launch : ∀ spec, Act.Keeps I (b.runtime.launch spec)
  scheduleExpiry : ∀ c n, Act.Keeps I (b.runtime.scheduleExpiry c n)
  endpoint : ∀ c port, Act.Keeps I (b.runtime.endpoint c port)
  sleep : ∀ n, Act.Keeps I (b.around.clock.sleep n)
  stamp : Act.Keeps I b.around.stamp

section Operations

variable {b : Backing η ρ κ σ} {I : σ → Prop}

theorem Backing.Keeps.serving (h : b.Keeps I) : b.KeepsServing I where
  toKeepsClosing := h.toKeepsClosing
  connectTo := h.connectTo
  dropCopy := h.dropCopy

theorem Backing.Keeps.readying (h : b.Keeps I) : b.KeepsReadying I where
  toKeepsServing := h.serving
  probe := h.probe
  scheduleExpiry := h.scheduleExpiry
  endpoint := h.endpoint
  sleep := h.sleep

theorem setHandle_keeps (u : Handle ρ κ → Handle ρ κ) :
    Keeps (I ∘ Prod.snd) (setHandle u : FamilyAct ρ κ σ Unit) := fun _ h => h

theorem debug_keeps (h : b.KeepsClosing I) (topic : Topic) (text : String) :
    Keeps (I ∘ Prod.snd) (debug b topic text) := .outside (.update fun s => h.write _ _ _ s)

theorem warn_keeps (h : b.KeepsClosing I) (topic : Topic) (text : String) :
    Keeps (I ∘ Prod.snd) (warn b topic text) := .outside (.update fun s => h.write _ _ _ s)

theorem terminate_keeps (h : b.KeepsClosing I) : Keeps (I ∘ Prod.snd) (terminate b) := by
  refine .bind (.read _) fun hd => .bind (.outside ((h.terminate _).orRaise _)) fun _ => ?_
  exact .bind (setHandle_keeps _) fun _ => .ite (.outside h.close) (.pure _)

theorem closeClient_keeps (h : b.KeepsClosing I) : Keeps (I ∘ Prod.snd) (closeClient b) := by
  refine .bind (.read _) fun hd => ?_
  cases hd.client with
  | none => exact .pure _
  | some c =>
    refine .bind (.outside (h.closeClient c).attempt) fun r => ?_
    cases r with
    | ok _ => exact .pure _
    | error e => exact warn_keeps h _ _

theorem revertTemplate_keeps (h : b.KeepsClosing I) : Keeps (I ∘ Prod.snd) (revertTemplate b) := by
  refine .bind (.read _) fun hd => .ite ?_ (.pure _)
  refine .bind (.outside (h.setTemplate hd false).attempt) fun r => ?_
  cases r with
  | ok _ => exact setHandle_keeps _
  | error e => exact .ite (.bind (warn_keeps h _ _) fun _ => setHandle_keeps _) (.fail _)

theorem keepOrTerminate_keeps (h : b.KeepsClosing I) : Keeps (I ∘ Prod.snd) (keepOrTerminate b) := by
  refine .bind (.read _) fun hd => .ite (terminate_keeps h) ?_
  refine .bind (.bind (.read _) fun _ => .pure _) fun name => ?_
  exact .bind (.outside (.update fun s => h.write _ _ _ s)) fun _ => setHandle_keeps _

theorem closeInstance_keeps (h : b.KeepsClosing I) : Keeps (I ∘ Prod.snd) (closeInstance b) := by
  refine .bind (.read _) fun hd => .ite (.ite (terminate_keeps h) (.pure _)) ?_
  refine .bind (revertTemplate_keeps h) fun _ => .bind (keepOrTerminate_keeps h) fun _ => ?_
  refine .bind (setHandle_keeps _) fun _ => .bind (closeClient_keeps h) fun _ => ?_
  exact .bind (.bind (.read _) fun _ => .pure _) fun name => debug_keeps h _ _

theorem releaseClone_keeps (h : b.KeepsClosing I) (id : CloneId) :
    Keeps (I ∘ Prod.snd) (releaseClone b id) := by
  refine .bind (setHandle_keeps _) fun _ => .bind (.read _) fun hd => .ite ?_ (.pure _)
  refine .bind (.bind (.read _) fun _ => .pure _) fun name => ?_
  exact .bind (debug_keeps h _ _) fun _ => terminate_keeps h

theorem dropStore_keeps (h : b.KeepsServing I) (c : Clone κ) : Keeps I (dropStore b.service c) :=
  Keeps.orRaise (.bind (h.closeClient _) fun _ => h.dropCopy _) _

theorem retireClone_keeps (h : b.KeepsServing I) (id : CloneId) :
    Keeps (I ∘ Prod.snd) (retireClone b id) := by
  refine .bind (.read _) fun c? => ?_
  cases c? with
  | none => exact .pure _
  | some c =>
    refine .ite (.pure _) (.bind (.outside (dropStore_keeps h c)) fun _ => ?_)
    exact .bind (fun _ hs => hs) fun _ => .pure _

/-- What follows once a clone is closed. -/
theorem afterRetiring_keeps (h : b.KeepsClosing I) (id : CloneId) : Keeps (I ∘ Prod.snd) (do
    match ← clone? id with
    | none => pure ()
    | some c => debug b .templates s!"Closed {c.label}"
    releaseClone b id) := by
  refine .bind (.read _) fun c? => ?_
  cases c? with
  | none => exact releaseClone_keeps h id
  | some c => exact .bind (debug_keeps h _ _) fun _ => releaseClone_keeps h id

theorem closeClone_keeps (h : b.KeepsServing I) (id : CloneId) :
    Keeps (I ∘ Prod.snd) (closeClone b id) :=
  .bind (retireClone_keeps h id) fun _ => .ite (afterRetiring_keeps h.toKeepsClosing id) (.pure _)

theorem checkOpen_keeps : Keeps (I ∘ Prod.snd) (checkOpen : FamilyAct ρ κ σ Unit) :=
  .bind (.read _) fun _ => .ite (.fail _) (.pure _)

theorem promote_keeps (h : b.KeepsClosing I) : Keeps (I ∘ Prod.snd) (promote b) := by
  refine .first (.fail _) fun _ => .bind checkOpen_keeps fun _ => .bind (.read _) fun hd => ?_
  refine .ite (.bind (.outside ((h.setTemplate hd true).orRaise _)) fun _ => ?_) (.pure _)
  exact .bind (setHandle_keeps _) fun _ =>
    .bind (.bind (.read _) fun _ => .pure _) fun name => debug_keeps h _ _

theorem connectCopy_keeps (h : b.KeepsServing I) (info : ConnectionInfo) :
    Keeps I (connectCopy b info) := by
  refine .bind (h.connectTo info).attempt fun r => ?_
  cases r with
  | ok client => exact .pure _
  | error e =>
    refine .bind (h.dropCopy info).attempt fun d => ?_
    cases d with
    | ok _ => exact .fail _
    | error d => exact .bind (.update fun s => h.write _ _ _ s) fun _ => .fail _

theorem newName_keeps (h : b.Keeps I) (start : String) : Keeps I (b.around.newName start) :=
  .bind h.stamp fun _ => .pure _

theorem cloneTemplate_keeps (h : b.Keeps I) : Keeps (I ∘ Prod.snd) (cloneTemplate b) := by
  refine .bind checkOpen_keeps fun _ => .bind (.read _) fun hd => .first (.fail _) fun _ => ?_
  refine .bind (.outside (newName_keeps h _)) fun name => ?_
  refine .bind (.outside ((h.createCopy hd name).orRaise _)) fun _ => ?_
  refine .bind (.ofExcept _) fun info => ?_
  refine .bind (.outside (connectCopy_keeps h.serving _)) fun client => ?_
  refine .bind (fun _ hs => hs) fun id => .bind (.bind (.read _) fun _ => .pure _) fun name => ?_
  exact .bind (debug_keeps h.toKeepsClosing _ _) fun _ => .pure _

/-! Steps of a start. -/

theorem findEndpoint_keeps (h : b.KeepsReadying I) (o : StartOptions η) :
    Keeps (I ∘ Prod.snd) (findEndpoint b o) := by
  refine .bind (.read _) fun hd => .bind (.outside ((h.scheduleExpiry _ _).orRaise _)) fun _ => ?_
  exact .bind (.outside (h.endpoint _ _)) fun _ => setHandle_keeps _

theorem connect_keeps (h : b.KeepsReadying I) (hd : Handle ρ κ) : Keeps I (b.service.connect hd) :=
  .bind (.ofExcept _) fun info => h.connectTo info

theorem attemptProbe_keeps (h : b.KeepsReadying I) (endpoint : String) :
    Keeps (I ∘ Prod.snd) (attemptProbe b endpoint) := by
  refine .bind (.bind (.read _) fun hd => .ite ?_ (.pure _)) fun _ => .bind (.read _) fun hd => ?_
  · exact .bind (.outside (connect_keeps h hd)) fun client => setHandle_keeps _
  · refine .bind (.outside (h.probe _).attempt) fun r => ?_
    cases r with
    | ok _ => exact .pure _
    | error e =>
      refine .bind (setHandle_keeps _) fun _ => ?_
      cases hd.client with
      | none => exact .fail _
      | some c =>
        refine .bind (.outside (h.closeClient c).attempt) fun r => ?_
        cases r with
        | ok _ => exact .fail _
        | error d => exact .bind (debug_keeps h.toKeepsClosing _ _) fun _ => .fail _

theorem discard_keeps (h : b.KeepsClosing I) : Keeps (I ∘ Prod.snd) (discard b) := by
  refine .bind (closeInstance_keeps h).attempt fun r => ?_
  cases r with
  | ok _ => exact .pure _
  | error e =>
    dsimp only
    split
    · exact warn_keeps h _ _
    · exact .fail _

theorem labelledSpec_keeps (h : b.Keeps I) (o : StartOptions η) (logicalName : String) :
    Keeps I (labelledSpec b.around b.service o logicalName) := by
  refine .bind (newName_keeps h _) fun name => .bind (h.launchSpec name o) fun spec => ?_
  exact .bind (.read _) fun _ => .bind (.ofExcept _) fun _ => .pure _

theorem launchStep_keeps (h : b.Keeps I) (o : StartOptions η) (logicalName : String)
    (owned : Bool) : Keeps I (launchStep b o logicalName owned) := by
  refine .onFault (.bind h.ping fun _ => ?_) (.ite h.close (.pure _))
  exact .bind (labelledSpec_keeps h o logicalName) fun spec => (h.launch spec).orRaise _

end Operations

/-! Recorded collaborators. -/

theorem Act.Keeps.noted {N : Type} {x : Act σ α} {note : Except Fault α → N}
    {I : List N × σ → Prop} (h : ∀ l s, I (l, s) → I (l ++ [note (x s).1], (x s).2)) :
    Keeps I (x.noted note) := fun s hs => h s.1 s.2 hs

theorem noted_keeps {N : Type} {I : σ → Prop} {x : Act σ α} (hx : Keeps I x)
    (note : Except Fault α → N) : Keeps (I ∘ Prod.snd) (x.noted note) :=
  .noted fun _ s hs => hx s hs

theorem Backing.KeepsServing.recorded {b : Backing η ρ κ σ} {I : σ → Prop}
    (h : b.KeepsServing I) : b.recorded.KeepsServing (I ∘ Prod.snd) where
  closeClient client := noted_keeps (h.closeClient client) _
  setTemplate hd flag := noted_keeps (h.setTemplate hd flag) _
  terminate c := noted_keeps (h.terminate c) _
  close := noted_keeps h.close _
  write level topic text s hs := h.write level topic text s.2 hs
  connectTo info := noted_keeps (h.connectTo info) _
  dropCopy info := noted_keeps (h.dropCopy info) _

/-- Recording calls changes nothing else. -/
theorem Backing.Keeps.recorded {b : Backing η ρ κ σ} {I : σ → Prop} (h : b.Keeps I) :
    b.recorded.Keeps (I ∘ Prod.snd) where
  toKeepsClosing := h.serving.recorded.toKeepsClosing
  launchSpec name o := noted_keeps (h.launchSpec name o) _
  connectTo info := noted_keeps (h.connectTo info) _
  probe client := noted_keeps (h.probe client) _
  createCopy hd name := noted_keeps (h.createCopy hd name) _
  dropCopy info := noted_keeps (h.dropCopy info) _
  ping := noted_keeps h.ping _
  launch spec := noted_keeps (h.launch spec) _
  scheduleExpiry c n := noted_keeps (h.scheduleExpiry c n) _
  endpoint c port := noted_keeps (h.endpoint c port) _
  sleep n := .outside (h.sleep n)
  stamp := .outside h.stamp

/-! Starts. -/

section Starts

variable {I : σ → Prop}

theorem around_keeps {x : Act σ α} (hx : Keeps I x) :
    Keeps (I ∘ Estate.outside) (Estate.around x : EstateAct ρ κ σ α) := fun s hs => hx s.outside hs

theorem onFamily_keeps {x : FamilyAct ρ κ σ α} (hx : Keeps (I ∘ Prod.snd) x) (id : InstanceId) :
    Keeps (I ∘ Estate.outside) (Estate.onFamily id x) := by
  intro s hs
  unfold Estate.onFamily
  cases s.families[id]? with
  | none => exact hs
  | some f => exact hx (f, s.outside) hs

variable {p : Provisioner η ρ κ σ} {b : Backing η ρ κ σ}

theorem waitReady_keeps (h : b.KeepsReadying I) (hp : p.around = b.around) (timeout : Num) :
    Keeps (I ∘ Prod.snd) (waitReady p b timeout) := by
  refine .bind (.read _) fun hd => .bind (.attempt (Polling.awaitReady_keeps ?_)) fun r => ?_
  · exact {
      probe := attemptProbe_keeps h
      sleep := fun n => .outside (by rw [hp]; exact h.sleep n)
      write := fun level topic text s => by
        change I s.2 → I (p.around.diary.write level topic text s.2)
        rw [hp]
        exact h.write level topic text s.2 }
  · cases r with
    | ok _ => exact .pure _
    | error e => exact .ite (.fail _) (.fail _)

/-- What every hook keeps of the instances and of the state around them, all of them keep. -/
theorem runHooks_keeps {J : Estate ρ κ σ → Prop} (id : InstanceId) (hooks : List η)
    (h : ∀ hook ∈ hooks, Keeps J (p.runHook b hook id)) : Keeps J (runHooks p b id hooks) := by
  induction hooks with
  | nil => exact .pure _
  | cons hook rest ih =>
    refine .bind ((h hook List.mem_cons_self).orRaise _) fun _ => ih fun hook hh => ?_
    exact h hook (List.mem_cons_of_mem _ hh)

theorem bringUp_keeps (h : b.KeepsReadying I) (hp : p.around = b.around) (o : StartOptions η)
    (deadline : Num) (id : InstanceId)
    (hh : ∀ hook ∈ o.hooks, Keeps (I ∘ Estate.outside) (p.runHook b hook id)) :
    Keeps (I ∘ Estate.outside) (bringUp p b o deadline id) := by
  refine .bind (onFamily_keeps (findEndpoint_keeps h o) id) fun _ => ?_
  refine .bind (around_keeps (.bind (.read _) fun _ => .ofExcept _)) fun timeout => ?_
  refine .bind (onFamily_keeps (waitReady_keeps h hp timeout) id) fun _ => ?_
  refine .bind (runHooks_keeps id o.hooks hh) fun _ => ?_
  exact .ite (onFamily_keeps (promote_keeps h.toKeepsClosing) id) (.pure _)

theorem establish_keeps {l : Launched η ρ κ σ} (h : l.backing.KeepsReadying I)
    (hp : p.around = l.backing.around) (o : StartOptions η)
    (hh : ∀ hook ∈ o.hooks, ∀ id, Keeps (I ∘ Estate.outside) (p.runHook l.backing hook id)) :
    Keeps (I ∘ Estate.outside) (establish p l o) := by
  refine .bind (fun _ hs => hs) fun id => ?_
  refine .bind (.onFault (bringUp_keeps h hp o l.deadline id fun hook hm => hh hook hm id)
    (onFamily_keeps (discard_keeps h.toKeepsClosing) id)) fun _ => ?_
  refine .bind (onFamily_keeps (.bind (.read _) fun _ => .pure _) id) fun name => ?_
  refine .bind (around_keeps (.update fun s => ?_)) fun _ => .pure _
  rw [hp]
  exact h.write _ _ _ s

/-- What a launched instance consists of. -/
theorem launchInstance_ok {s : Service η ρ κ σ} {o : StartOptions η}
    {runtime : Option (Runtime ρ σ)} {t t' : σ} {l : Launched η ρ κ σ}
    (h : launchInstance p s o runtime t = (.ok l, t')) :
    ∃ used c, l.backing = ⟨s, used, p.around⟩ ∧
      l.handle = { container := c, logicalName := o.nameOr s.defaultLogicalName,
                   ownsRuntime := runtime.isNone } ∧
      (∀ r, runtime = some r → used = r) ∧
      (runtime = none → ∃ t₁ t₂, p.newRuntime t₁ = (.ok used, t₂)) := by
  obtain ⟨d, t₁, -, h⟩ := bind_ok h
  cases runtime with
  | none =>
    obtain ⟨used, t₂, hn, h⟩ := bind_ok h
    obtain ⟨c, t₃, -, h⟩ := bind_ok h
    cases h
    exact ⟨used, c, rfl, rfl, by simp, fun _ => ⟨t₁, t₂, hn⟩⟩
  | some r =>
    obtain ⟨used, t₂, hn, h⟩ := bind_ok h
    cases hn
    obtain ⟨c, t₃, -, h⟩ := bind_ok h
    cases h
    exact ⟨r, c, rfl, rfl, by simp, by simp⟩

/-- The runtime of an instance is the one that is given, or one that is created for it. -/
def Provisioner.Uses (p : Provisioner η ρ κ σ) (runtime : Option (Runtime ρ σ))
    (used : Runtime ρ σ) : Prop :=
  runtime = some used ∨ runtime = none ∧ ∃ t t', p.newRuntime t = (.ok used, t')

/-- Launching keeps a property when creating a runtime does and the launch on every runtime that
can be used. -/
theorem launchInstance_keeps {s : Service η ρ κ σ} {runtime : Option (Runtime ρ σ)}
    {o : StartOptions η} (hn : runtime = none → Keeps I p.newRuntime)
    (h : ∀ used, p.Uses runtime used → ∀ logicalName,
      Keeps I (launchStep ⟨s, used, p.around⟩ o logicalName runtime.isNone)) :
    Keeps I (launchInstance p s o runtime) := by
  refine .bind (.bind (.read _) fun _ => .ofExcept _) fun deadline => ?_
  cases runtime with
  | none =>
    refine .bind_of_result (hn rfl) fun t used t' hu => ?_
    exact .bind (h used (.inr ⟨rfl, t, t', hu⟩) _) fun _ => .pure _
  | some r =>
    refine .bind_of_result (.pure r) fun _ used _ hu => ?_
    cases hu
    exact .bind (h r (.inl rfl) _) fun _ => .pure _

theorem around_ok {x : Act σ α} {st st' : Estate ρ κ σ} {a : α}
    (h : Estate.around x st = (.ok a, st')) :
    x st.outside = (.ok a, st'.outside) ∧ st'.families = st.families := by
  unfold Estate.around at h
  rcases hx : x st.outside with ⟨r, t⟩
  rw [hx] at h
  cases h
  exact ⟨rfl, rfl⟩

/-- A start keeps what its launch keeps and all that follows on the runtime used. -/
theorem start_keeps_of_used {s : Service η ρ κ σ} {runtime : Option (Runtime ρ σ)}
    {o : StartOptions η} {register : Option (InstanceId → EstateAct ρ κ σ Unit)}
    (hn : runtime = none → Keeps I p.newRuntime)
    (hl : ∀ used, p.Uses runtime used → ∀ logicalName,
      Keeps I (launchStep ⟨s, used, p.around⟩ o logicalName runtime.isNone))
    (hb : ∀ used, p.Uses runtime used → Backing.KeepsReadying ⟨s, used, p.around⟩ I)
    (hh : ∀ used, p.Uses runtime used → ∀ hook ∈ o.hooks, ∀ id,
      Keeps (I ∘ Estate.outside) (p.runHook ⟨s, used, p.around⟩ hook id))
    (hr : ∀ f ∈ register, ∀ id, Keeps (I ∘ Estate.outside) (f id)) :
    Keeps (I ∘ Estate.outside) (start p s o runtime register) := by
  refine .first (.fail _) fun _ => .bind_of_result (around_keeps (launchInstance_keeps hn hl))
    fun st l st' hx => ?_
  obtain ⟨used, c, hback, -, hgiven, hnew⟩ := launchInstance_ok (around_ok hx).1
  have hu : p.Uses runtime used := by
    cases runtime with
    | none => exact .inr ⟨rfl, hnew rfl⟩
    | some r => exact .inl (congrArg some (hgiven r rfl).symm)
  have established : Keeps (I ∘ Estate.outside) (establish p l o) := by
    refine establish_keeps ?_ ?_ o ?_ <;> rw [hback]
    · exact hb used hu
    · exact hh used hu
  refine .bind established fun id => ?_
  cases register with
  | none => exact .pure _
  | some f => exact .bind (hr f rfl id) fun _ => .pure _

/-- A start on a given runtime keeps what its steps keep. -/
theorem start_keeps {s : Service η ρ κ σ} {r : Runtime ρ σ}
    (h : Backing.Keeps ⟨s, r, p.around⟩ I) (o : StartOptions η)
    (register : Option (InstanceId → EstateAct ρ κ σ Unit))
    (hh : ∀ hook ∈ o.hooks, ∀ id, Keeps (I ∘ Estate.outside) (p.runHook ⟨s, r, p.around⟩ hook id))
    (hr : ∀ f ∈ register, ∀ id, Keeps (I ∘ Estate.outside) (f id)) :
    Keeps (I ∘ Estate.outside) (start p s o (some r) register) := by
  have same {used : Runtime ρ σ} (hu : p.Uses (some r) used) : r = used := by
    rcases hu with hu | ⟨hu, -⟩
    · exact Option.some.inj hu
    · cases hu
  refine start_keeps_of_used nofun ?_ ?_ ?_ hr <;> rintro used hu <;> cases same hu
  · exact fun logicalName => launchStep_keeps h o logicalName false
  · exact h.readying
  · exact hh

end Starts

end Testbed
