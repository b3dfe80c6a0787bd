import Testbed.Proofs.Calls

/-!
# The courses of the operations on instances

Everything that an operation on an instance or a clone can do, for every outcome of the calls it
makes: its result, the family it leaves behind, and its calls in order.  One relation says it for
each operation, and the operation on recorded collaborators takes no other course.
-/

namespace Testbed

set_option autoImplicit false

open FamilyAct

variable {η ρ κ σ α β : Type}

/-- What an action on a family can do: its result, the family it leaves, and its calls. -/
abbrev Course (ρ κ α : Type) :=
  Family ρ κ → Except Fault α → Family ρ κ → List (Call ρ κ) → Prop

/-- A recorded action takes no course but the given ones. -/
def Takes (x : FamilyAct ρ κ (Recorded ρ κ σ) α) (c : Course ρ κ α) : Prop :=
  ∀ f l s, ∃ r f' calls s', x (f, (l, s)) = (r, (f', (l ++ calls, s'))) ∧ c f r f' calls

theorem Takes.mono {x : FamilyAct ρ κ (Recorded ρ κ σ) α} {c d : Course ρ κ α} (h : Takes x c)
    (hcd : ∀ f r f' calls, c f r f' calls → d f r f' calls) : Takes x d := by
  intro f l s
  obtain ⟨r, f', calls, s', hx, t⟩ := h f l s
  exact ⟨r, f', calls, s', hx, hcd _ _ _ _ t⟩

def Family.onHandle (f : Family ρ κ) (g : Handle ρ κ → Handle ρ κ) : Family ρ κ :=
  { f with handle := g f.handle }

namespace Family

@[simp] theorem onHandle_handle (f : Family ρ κ) (g : Handle ρ κ → Handle ρ κ) :
    (f.onHandle g).handle = g f.handle := rfl

@[simp] theorem onHandle_clones (f : Family ρ κ) (g : Handle ρ κ → Handle ρ κ) :
    (f.onHandle g).clones = f.clones := rfl

end Family

/-! The incidents that operations raise from failed calls. -/

namespace Handle

def cannotTerminate (h : Handle ρ κ) (e : Fault) : Incident :=
  .teardown s!"Could not terminate instance '{h.logicalName}': {e.message}"

def cannotUnmark (h : Handle ρ κ) (e : Fault) : Incident :=
  .teardown s!"Could not unmark template '{h.logicalName}': {e.message}"

def cannotPromote (h : Handle ρ κ) (e : Fault) : Incident :=
  .setup .template .template s!"Could not make '{h.logicalName}' a template: {e.message}"

def cannotClone (h : Handle ρ κ) (name : String) (e : Fault) : Incident :=
  .setup .template .template s!"Could not clone '{h.logicalName}' to '{name}': {e.message}"

def alreadyClosed (h : Handle ρ κ) : Fault :=
  Fault.of (.instanceClosed s!"Instance '{h.logicalName}' is already closed.")

end Handle

def Clone.cannotRemove (c : Clone κ) (e : Fault) : Incident :=
  .teardown s!"Could not remove clone '{c.info.database}': {e.message}"

def ConnectionInfo.cannotConnect (info : ConnectionInfo) (e : Fault) : Incident :=
  .setup .template .template s!"Could not connect to clone '{info.database}': {e.message}"

namespace FamilyAct

theorem handle_bind (g : Handle ρ κ → FamilyAct ρ κ σ α) (f : Family ρ κ) (o : σ) :
    (handle >>= g) (f, o) = g f.handle (f, o) := rfl

theorem setHandle_bind (u : Handle ρ κ → Handle ρ κ) (g : Unit → FamilyAct ρ κ σ α)
    (f : Family ρ κ) (o : σ) : (setHandle u >>= g) (f, o) = g () (f.onHandle u, o) := rfl

theorem label_bind (b : Backing η ρ κ σ) (g : String → FamilyAct ρ κ σ α) (f : Family ρ κ)
    (o : σ) : (label b >>= g) (f, o) = g (f.handle.label b.service.name) (f, o) := rfl

theorem clone?_bind (id : CloneId) (g : Option (Clone κ) → FamilyAct ρ κ σ α) (f : Family ρ κ)
    (o : σ) : (clone? id >>= g) (f, o) = g f.clones[id]? (f, o) := rfl

end FamilyAct

/-! Closing instances. -/

inductive Terminating : Course ρ κ Unit
  | failed {f : Family ρ κ} (e : Fault) :
      Terminating f (.error (Act.wrapped f.handle.cannotTerminate e)) f
        [.terminate f.handle.container (.error e)]
  | done {f : Family ρ κ} : f.handle.ownsRuntime = false →
      Terminating f (.ok ()) (f.onHandle fun h => { h with terminatePending := false })
        [.terminate f.handle.container (.ok ())]
  | ownRuntime {f : Family ρ κ} (r : Except Fault Unit) : f.handle.ownsRuntime = true →
      Terminating f r (f.onHandle fun h => { h with terminatePending := false })
        [.terminate f.handle.container (.ok ()), .closeRuntime r]

inductive Reverting : Course ρ κ Unit
  | unmarked {f : Family ρ κ} : f.handle.isTemplate = false → Reverting f (.ok ()) f []
  | done {f : Family ρ κ} : f.handle.isTemplate = true →
      Reverting f (.ok ()) (f.onHandle fun h => { h with isTemplate := false })
        [.setTemplate f.handle false (.ok ())]
  | unreachable {f : Family ρ κ} (e : Fault) : f.handle.isTemplate = true →
      e.isOrdinary = true → e.isTransport = true →
      Reverting f (.ok ()) (f.onHandle fun h => { h with isTemplate := false })
        [.setTemplate f.handle false (.error e)]
  | failed {f : Family ρ κ} (e : Fault) : f.handle.isTemplate = true →
      (e.isOrdinary = true → e.isTransport = false) →
      Reverting f (.error (Act.wrapped f.handle.cannotUnmark e)) f
        [.setTemplate f.handle false (.error e)]

/-- Keeping the container for the live clones, or destroying it. -/
inductive Ending : Course ρ κ Unit
  | kept {f : Family ρ κ} : f.handle.liveClones ≠ [] →
      Ending f (.ok ()) (f.onHandle fun h => { h with terminatePending := true }) []
  | ended {f f' : Family ρ κ} {r : Except Fault Unit} {calls : List (Call ρ κ)} :
      f.handle.liveClones = [] → Terminating f r f' calls → Ending f r f' calls

/-- Closing the client; an ordinary fault of it is only reported. -/
inductive Dismissing : Course ρ κ Unit
  | absent {f : Family ρ κ} : f.handle.client = none → Dismissing f (.ok ()) f []
  | closed {f : Family ρ κ} {c : κ} (r : Except Fault Unit) : f.handle.client = some c →
      (∀ e, r = .error e → e.isOrdinary = true) →
      Dismissing f (.ok ()) f [.closeClient c r]
  | interrupted {f : Family ρ κ} {c : κ} (e : Fault) : f.handle.client = some c →
      e.isOrdinary = false → Dismissing f (.error e) f [.closeClient c (.error e)]

inductive Closing : Course ρ κ Unit
  | again {f : Family ρ κ} : f.handle.closed = true →
      (f.handle.terminatePending = true → f.handle.liveClones ≠ []) → Closing f (.ok ()) f []
  | retried {f f' : Family ρ κ} {r : Except Fault Unit} {calls : List (Call ρ κ)} :
      f.handle.closed = true → f.handle.terminatePending = true → f.handle.liveClones = [] →
      Terminating f r f' calls → Closing f r f' calls
  | refused {f f' : Family ρ κ} {e : Fault} {calls : List (Call ρ κ)} :
      f.handle.closed = false → Reverting f (.error e) f' calls → Closing f (.error e) f' calls
  | failed {f f₁ f' : Family ρ κ} {e : Fault} {calls calls' : List (Call ρ κ)} :
      f.handle.closed = false → Reverting f (.ok ()) f₁ calls →
      Ending f₁ (.error e) f' calls' → Closing f (.error e) f' (calls ++ calls')
  | done {f f₁ f₂ f' : Family ρ κ} {r : Except Fault Unit}
      {calls calls' calls'' : List (Call ρ κ)} :
      f.handle.closed = false → Reverting f (.ok ()) f₁ calls → Ending f₁ (.ok ()) f₂ calls' →
      Dismissing (f₂.onHandle fun h => { h with closed := true }) r f' calls'' →
      Closing f r f' (calls ++ calls' ++ calls'')

/-! Closing clones. -/

/-- Removing the store of a clone. -/
inductive Dropping (c : Clone κ) : Except Fault Unit → List (Call ρ κ) → Prop
  | clientFailed (e : Fault) :
      Dropping c (.error (Act.wrapped c.cannotRemove e)) [.closeClient c.client (.error e)]
  | storeFailed (e : Fault) :
      Dropping c (.error (Act.wrapped c.cannotRemove e))
        [.closeClient c.client (.ok ()), .dropCopy c.info (.error e)]
  | done : Dropping c (.ok ()) [.closeClient c.client (.ok ()), .dropCopy c.info (.ok ())]

def Family.retire (f : Family ρ κ) (id : CloneId) (c : Clone κ) : Family ρ κ :=
  { f with clones := f.clones.set id { c with closed := true } }

/-- The first half of closing a clone. -/
inductive Retiring (id : CloneId) : Course ρ κ Bool
  | idle {f : Family ρ κ} : (∀ c, f.clones[id]? = some c → c.closed = true) →
      Retiring id f (.ok false) f []
  | failed {f : Family ρ κ} {c : Clone κ} {e : Fault} {calls : List (Call ρ κ)} :
      f.clones[id]? = some c → c.closed = false → Dropping c (.error e) calls →
      Retiring id f (.error e) f calls
  | done {f : Family ρ κ} {c : Clone κ} {calls : List (Call ρ κ)} :
      f.clones[id]? = some c → c.closed = false → Dropping c (.ok ()) calls →
      Retiring id f (.ok true) (f.retire id c) calls

def Family.forget (f : Family ρ κ) (id : CloneId) : Family ρ κ :=
  f.onHandle fun h => { h with liveClones := h.liveClones.filter (· != id) }

/-- The second half of closing a clone. -/
inductive Releasing (id : CloneId) : Course ρ κ Unit
  | kept {f : Family ρ κ} :
      (f.handle.terminatePending = true → (f.forget id).handle.liveClones ≠ []) →
      Releasing id f (.ok ()) (f.forget id) []
  | last {f f' : Family ρ κ} {r : Except Fault Unit} {calls : List (Call ρ κ)} :
      f.handle.terminatePending = true → (f.forget id).handle.liveClones = [] →
      Terminating (f.forget id) r f' calls → Releasing id f r f' calls

inductive ClosingClone (id : CloneId) : Course ρ κ Unit
  | idle {f f' : Family ρ κ} {calls : List (Call ρ κ)} :
      Retiring id f (.ok false) f' calls → ClosingClone id f (.ok ()) f' calls
  | failed {f f' : Family ρ κ} {e : Fault} {calls : List (Call ρ κ)} :
      Retiring id f (.error e) f' calls → ClosingClone id f (.error e) f' calls
  | done {f f₁ f' : Family ρ κ} {r : Except Fault Unit} {calls calls' : List (Call ρ κ)} :
      Retiring id f (.ok true) f₁ calls → Releasing id f₁ r f' calls' →
      ClosingClone id f r f' (calls ++ calls')

/-! Templates and clones. -/

/-- Marking an instance as a template; `noTemplates` is the fault of a service without them. -/
inductive Promoting (noTemplates : Option Fault) : Course ρ κ Unit
  | unsupported {f : Family ρ κ} {e : Fault} : noTemplates = some e →
      Promoting noTemplates f (.error e) f []
  | closed {f : Family ρ κ} : noTemplates = none → f.handle.closed = true →
      Promoting noTemplates f (.error f.handle.alreadyClosed) f []
  | already {f : Family ρ κ} : noTemplates = none → f.handle.closed = false →
      f.handle.isTemplate = true → Promoting noTemplates f (.ok ()) f []
  | failed {f : Family ρ κ} (e : Fault) : noTemplates = none → f.handle.closed = false →
      f.handle.isTemplate = false →
      Promoting noTemplates f (.error (Act.wrapped f.handle.cannotPromote e)) f
        [.setTemplate f.handle true (.error e)]
  | done {f : Family ρ κ} : noTemplates = none → f.handle.closed = false →
      f.handle.isTemplate = false →
      Promoting noTemplates f (.ok ()) (f.onHandle fun h => { h with isTemplate := true })
        [.setTemplate f.handle true (.ok ())]

/-- Connecting to a new copy.  A copy to which no client can be had is removed again, whatever
comes of it; only an interruption is let through at once. -/
inductive Connecting (info : ConnectionInfo) : Except Fault κ → List (Call ρ κ) → Prop
  | done (client : κ) : Connecting info (.ok client) [.connect info (.ok client)]
  | interrupted (e : Fault) : e.isOrdinary = false →
      Connecting info (.error e) [.connect info (.error e)]
  | removed (e : Fault) (r : Except Fault Unit) : e.isOrdinary = true →
      (∀ d, r = .error d → d.isOrdinary = true) →
      Connecting info (.error (Fault.raisedFrom (info.cannotConnect e) e))
        [.connect info (.error e), .dropCopy info r]
  | removalInterrupted (e d : Fault) : e.isOrdinary = true → d.isOrdinary = false →
      Connecting info (.error d) [.connect info (.error e), .dropCopy info (.error d)]

/-- A family with one more clone, which is open and live. -/
def Family.addClone (f : Family ρ κ) (c : Clone κ) : Family ρ κ where
  handle := { f.handle with liveClones := f.handle.liveClones ++ [f.clones.length] }
  clones := f.clones ++ [c]

/-- Making a clone; `info?` tells the connection details of an instance. -/
inductive Cloning (info? : Handle ρ κ → Except Fault ConnectionInfo) : Course ρ κ CloneId
  | closed {f : Family ρ κ} : f.handle.closed = true →
      Cloning info? f (.error f.handle.alreadyClosed) f []
  | notTemplate {f : Family ρ κ} : f.handle.closed = false → f.handle.isTemplate = false →
      Cloning info? f (.error (notTemplate f.handle.logicalName)) f []
  | unnamed {f : Family ρ κ} (e : Fault) : f.handle.closed = false →
      f.handle.isTemplate = true → Cloning info? f (.error e) f []
  | copyFailed {f : Family ρ κ} (name : String) (e : Fault) : f.handle.closed = false →
      f.handle.isTemplate = true →
      Cloning info? f (.error (Act.wrapped (f.handle.cannotClone name) e)) f
        [.createCopy f.handle name (.error e)]
  | noInfo {f : Family ρ κ} (name : String) (e : Fault) : f.handle.closed = false →
      f.handle.isTemplate = true → info? f.handle = .error e →
      Cloning info? f (.error e) f [.createCopy f.handle name (.ok ())]
  | notConnected {f : Family ρ κ} (name : String) {info : ConnectionInfo} {e : Fault}
      {calls : List (Call ρ κ)} : f.handle.closed = false → f.handle.isTemplate = true →
      info? f.handle = .ok info → Connecting { info with database := name } (.error e) calls →
      Cloning info? f (.error e) f (.createCopy f.handle name (.ok ()) :: calls)
  | done {f : Family ρ κ} (name : String) {info : ConnectionInfo} {client : κ}
      {calls : List (Call ρ κ)} : f.handle.closed = false → f.handle.isTemplate = true →
      info? f.handle = .ok info → Connecting { info with database := name } (.ok client) calls →
      Cloning info? f (.ok f.clones.length)
        (f.addClone { info := { info with database := name }, client })
        (.createCopy f.handle name (.ok ()) :: calls)

/-! No operation takes another course. -/

open Act

theorem terminate_takes (b : Backing η ρ κ σ) : Takes (terminate b.recorded) Terminating := by
  intro f l s
  rcases h : b.runtime.terminate f.handle.container s with ⟨e | ⟨⟩, s₁⟩
  · have ht : b.recorded.runtime.terminate f.handle.container (l, s) = _ := noted_of_eq _ l h
    refine ⟨_, f, _, s₁, ?_, .failed e⟩
    rw [terminate, handle_bind]
    exact bind_of_error (outside_of_eq f (orRaise_of_error _ ht))
  · have ht : b.recorded.runtime.terminate f.handle.container (l, s) = _ := noted_of_eq _ l h
    cases ho : f.handle.ownsRuntime with
    | false =>
      refine ⟨.ok (), _, _, s₁, ?_, .done ho⟩
      rw [terminate, handle_bind, bind_of_ok (outside_of_eq f (orRaise_of_ok _ ht)),
        setHandle_bind, ho]
      rfl
    | true =>
      rcases hr : b.runtime.close s₁ with ⟨r, s₂⟩
      have hc : b.recorded.runtime.close (_, s₁) = _ :=
        noted_of_eq _ (l ++ [.terminate f.handle.container (.ok ())]) hr
      refine ⟨r, _, _, s₂, ?_, .ownRuntime r ho⟩
      rw [terminate, handle_bind, bind_of_ok (outside_of_eq f (orRaise_of_ok _ ht)),
        setHandle_bind, ho, if_pos rfl]
      rw [List.append_assoc] at hc
      exact outside_of_eq _ hc

theorem revertTemplate_takes (b : Backing η ρ κ σ) :
    Takes (revertTemplate b.recorded) Reverting := by
  intro f l s
  cases ht : f.handle.isTemplate with
  | false =>
    refine ⟨.ok (), f, [], s, ?_, .unmarked ht⟩
    rw [revertTemplate, handle_bind, ht, List.append_nil]
    rfl
  | true =>
    rcases h : b.service.setTemplate f.handle false s with ⟨e | ⟨⟩, s₁⟩
    · have hs : b.recorded.service.setTemplate f.handle false (l, s) = _ := noted_of_eq _ l h
      cases ho : e.isOrdinary with
      | false =>
        refine ⟨_, f, _, s₁, ?_, .failed e ht (by simp [ho])⟩
        rw [revertTemplate, handle_bind, ht, if_pos rfl,
          bind_of_error (outside_of_eq f (attempt_of_interruption hs ho)), wrapped, ho]
        rfl
      | true =>
        rw [revertTemplate, handle_bind, ht, if_pos rfl,
          bind_of_ok (outside_of_eq f (attempt_of_ordinary hs ho))]
        cases hr : e.isTransport with
        | false =>
          refine ⟨_, f, _, s₁, ?_, .failed e ht (fun _ => hr)⟩
          simp only [hr, wrapped, ho]
          rfl
        | true =>
          exact ⟨_, _, _, _, by simp only [hr, if_true]; rfl, .unreachable e ht ho hr⟩
    · have hs : b.recorded.service.setTemplate f.handle false (l, s) = _ := noted_of_eq _ l h
      refine ⟨_, _, _, s₁, ?_, .done ht⟩
      rw [revertTemplate, handle_bind, ht, if_pos rfl,
        bind_of_ok (outside_of_eq f (attempt_of_ok hs))]
      rfl

theorem keepOrTerminate_takes (b : Backing η ρ κ σ) :
    Takes (keepOrTerminate b.recorded) Ending := by
  intro f l s
  by_cases hl : f.handle.liveClones = []
  · obtain ⟨r, f', calls, s', h, ht⟩ := terminate_takes b f l s
    refine ⟨r, f', calls, s', ?_, .ended hl ht⟩
    rw [keepOrTerminate, handle_bind, hl]
    exact h
  · rw [keepOrTerminate, handle_bind, if_neg (by simpa using hl)]
    exact ⟨.ok (), _, [], _, by rw [List.append_nil]; rfl, .kept hl⟩

theorem closeClient_takes (b : Backing η ρ κ σ) :
    Takes (closeClient b.recorded) Dismissing := by
  intro f l s
  cases hc : f.handle.client with
  | none =>
    refine ⟨.ok (), f, [], s, ?_, .absent hc⟩
    rw [closeClient, handle_bind, hc, List.append_nil]
    rfl
  | some c =>
    rcases h : b.service.closeClient c s with ⟨e | ⟨⟩, s₁⟩
    · have hs : b.recorded.service.closeClient c (l, s) = _ := noted_of_eq _ l h
      cases ho : e.isOrdinary with
      | false =>
        refine ⟨_, f, _, s₁, ?_, .interrupted e hc ho⟩
        rw [closeClient, handle_bind, hc]
        exact bind_of_error (outside_of_eq f (attempt_of_interruption hs ho))
      | true =>
        rw [closeClient, handle_bind, hc]
        exact ⟨.ok (), f, _, _, bind_of_ok (outside_of_eq f (attempt_of_ordinary hs ho)),
          .closed (.error e) hc (by simp [ho])⟩
    · have hs : b.recorded.service.closeClient c (l, s) = _ := noted_of_eq _ l h
      refine ⟨.ok (), f, _, s₁, ?_, .closed (.ok ()) hc (by simp)⟩
      rw [closeClient, handle_bind, hc]
      exact bind_of_ok (outside_of_eq f (attempt_of_ok hs))

theorem closeInstance_takes (b : Backing η ρ κ σ) :
    Takes (closeInstance b.recorded) Closing := by
  intro f l s
  cases hc : f.handle.closed with
  | true =>
    by_cases hp : f.handle.terminatePending = true ∧ f.handle.liveClones = []
    · obtain ⟨r, f', calls, s', h, ht⟩ := terminate_takes b f l s
      refine ⟨r, f', calls, s', ?_, .retried hc hp.1 hp.2 ht⟩
      rw [closeInstance, handle_bind, hc, if_pos rfl, hp.1, hp.2]
      exact h
    · refine ⟨.ok (), f, [], s, ?_, .again hc (by simpa using hp)⟩
      rw [closeInstance, handle_bind, hc, if_pos rfl, if_neg (by simpa using hp),
        List.append_nil]
      rfl
  | false =>
    rw [closeInstance, handle_bind, hc, if_neg Bool.false_ne_true]
    obtain ⟨r₁, f₁, c₁, s₁, h₁, t₁⟩ := revertTemplate_takes b f l s
    rcases r₁ with e | ⟨⟩
    · exact ⟨.error e, f₁, c₁, s₁, bind_of_error h₁, .refused hc t₁⟩
    rw [bind_of_ok h₁]
    obtain ⟨r₂, f₂, c₂, s₂, h₂, t₂⟩ := keepOrTerminate_takes b f₁ (l ++ c₁) s₁
    rcases r₂ with e | ⟨⟩
    · exact ⟨.error e, f₂, c₁ ++ c₂, s₂, by rw [bind_of_error h₂, List.append_assoc],
        .failed hc t₁ t₂⟩
    rw [bind_of_ok h₂, setHandle_bind]
    obtain ⟨r₃, f₃, c₃, s₃, h₃, t₃⟩ := closeClient_takes b
      (f₂.onHandle fun h => { h with closed := true }) (l ++ c₁ ++ c₂) s₂
    rcases r₃ with e | ⟨⟩
    · exact ⟨.error e, f₃, c₁ ++ c₂ ++ c₃, s₃,
        by rw [bind_of_error h₃, List.append_assoc, List.append_assoc, List.append_assoc],
        .done hc t₁ t₂ t₃⟩
    rw [bind_of_ok h₃, label_bind]
    exact ⟨.ok (), f₃, c₁ ++ c₂ ++ c₃, _,
      by rw [List.append_assoc, List.append_assoc, ← List.append_assoc c₁]; rfl,
      .done hc t₁ t₂ t₃⟩

theorem releaseClone_takes (b : Backing η ρ κ σ) (id : CloneId) :
    Takes (releaseClone b.recorded id) (Releasing id) := by
  intro f l s
  rw [releaseClone, setHandle_bind, handle_bind]
  change ∃ r f' calls s', (if (f.forget id).handle.terminatePending &&
    (f.forget id).handle.liveClones.isEmpty then _ else _ : FamilyAct ρ κ _ Unit)
      (f.forget id, (l, s)) = _ ∧ _
  by_cases hp : f.handle.terminatePending = true ∧ (f.forget id).handle.liveClones = []
  · have hd : ((f.forget id).handle.terminatePending &&
        (f.forget id).handle.liveClones.isEmpty) = true := by
      rw [hp.2]
      exact (Bool.and_true _).trans hp.1
    rw [if_pos hd, label_bind]
    obtain ⟨r, f', calls, s', h, ht⟩ := terminate_takes b (f.forget id) l
      (b.around.diary.write .debug .instances
        s!"Last clone of {(f.forget id).handle.label b.service.name} closed, terminating the container" s)
    exact ⟨r, f', calls, s', h, .last hp.1 hp.2 ht⟩
  · refine ⟨.ok (), _, [], s, ?_, .kept fun h h' => hp ⟨h, h'⟩⟩
    rw [if_neg, List.append_nil]
    · rfl
    · intro hd
      simp only [Bool.and_eq_true, List.isEmpty_iff] at hd
      exact hp hd

theorem dropStore_recorded (b : Backing η ρ κ σ) (c : Clone κ) (l : List (Call ρ κ)) (s : σ) :
    ∃ r calls s', dropStore b.recorded.service c (l, s) = (r, (l ++ calls, s')) ∧
      Dropping c r calls := by
  rcases h : b.service.closeClient c.client s with ⟨e | ⟨⟩, s₁⟩
  · have hs : b.recorded.service.closeClient c.client (l, s) = _ := noted_of_eq _ l h
    exact ⟨_, _, s₁, orRaise_of_error _ (bind_of_error hs), .clientFailed e⟩
  · have hs : b.recorded.service.closeClient c.client (l, s) = _ := noted_of_eq _ l h
    rcases h' : b.service.dropCopy c.info s₁ with ⟨e | ⟨⟩, s₂⟩
    · have hd : b.recorded.service.dropCopy c.info (_, s₁) = _ :=
        noted_of_eq _ (l ++ [.closeClient c.client (.ok ())]) h'
      rw [List.append_assoc] at hd
      exact ⟨_, _, s₂, orRaise_of_error _ ((bind_of_ok hs).trans hd), .storeFailed e⟩
    · have hd : b.recorded.service.dropCopy c.info (_, s₁) = _ :=
        noted_of_eq _ (l ++ [.closeClient c.client (.ok ())]) h'
      rw [List.append_assoc] at hd
      exact ⟨_, _, s₂, orRaise_of_ok _ ((bind_of_ok hs).trans hd), .done⟩

theorem retireClone_takes (b : Backing η ρ κ σ) (id : CloneId) :
    Takes (retireClone b.recorded id) (Retiring id) := by
  intro f l s
  rw [retireClone, clone?_bind]
  cases hc : f.clones[id]? with
  | none =>
    exact ⟨.ok false, f, [], s, by rw [List.append_nil]; rfl, .idle (by simp [hc])⟩
  | some c =>
    cases ho : c.closed with
    | true =>
      refine ⟨.ok false, f, [], s, ?_, .idle (by simp [hc, ho])⟩
      simp only [ho, List.append_nil]
      rfl
    | false =>
      simp only [ho, Bool.false_eq_true, if_false]
      obtain ⟨r, calls, s', h, hd⟩ := dropStore_recorded b c l s
      rcases r with e | ⟨⟩
      · exact ⟨.error e, f, calls, s', bind_of_error (outside_of_eq f h), .failed hc ho hd⟩
      · exact ⟨.ok true, _, calls, s', bind_of_ok (outside_of_eq f h), .done hc ho hd⟩

theorem retireClone_open (b : Backing η ρ κ σ) {f : Family ρ κ} {id : CloneId} {c : Clone κ}
    (hc : f.clones[id]? = some c) (ho : c.closed = false) (s : σ) :
    retireClone b id (f, s) = match dropStore b.service c s with
      | (.ok _, s') => (.ok true, (f.retire id c, s'))
      | (.error e, s') => (.error e, (f, s')) := by
  rw [retireClone, clone?_bind, hc]
  dsimp only
  rw [ho, if_neg Bool.false_ne_true]
  rcases hd : dropStore b.service c s with ⟨e | ⟨⟩, s'⟩
  · exact bind_of_error (outside_of_eq f hd)
  · exact bind_of_ok (outside_of_eq f hd)

theorem closeClone_takes (b : Backing η ρ κ σ) (id : CloneId) :
    Takes (closeClone b.recorded id) (ClosingClone id) := by
  intro f l s
  obtain ⟨r, f₁, c₁, s₁, h₁, t₁⟩ := retireClone_takes b id f l s
  rw [closeClone]
  rcases r with e | ⟨_ | _⟩
  · exact ⟨.error e, f₁, c₁, s₁, bind_of_error h₁, .failed t₁⟩
  · exact ⟨.ok (), f₁, c₁, s₁, bind_of_ok h₁, .idle t₁⟩
  · rw [bind_of_ok h₁, if_pos rfl, clone?_bind]
    cases hc : f₁.clones[id]? with
    | none =>
      obtain ⟨r, f₂, c₂, s₂, h₂, t₂⟩ := releaseClone_takes b id f₁ (l ++ c₁) s₁
      exact ⟨r, f₂, c₁ ++ c₂, s₂, by rw [← List.append_assoc]; exact h₂, .done t₁ t₂⟩
    | some c =>
      obtain ⟨r, f₂, c₂, s₂, h₂, t₂⟩ := releaseClone_takes b id f₁ (l ++ c₁)
        (b.around.diary.write .debug .templates s!"Closed {c.label}" s₁)
      exact ⟨r, f₂, c₁ ++ c₂, s₂, by rw [← List.append_assoc]; exact h₂, .done t₁ t₂⟩

theorem checkOpen_of_closed {f : Family ρ κ} (o : σ) (h : f.handle.closed = true) :
    checkOpen (f, o) = (.error f.handle.alreadyClosed, (f, o)) := by
  rw [checkOpen, handle_bind, h]
  rfl

theorem checkOpen_of_open {f : Family ρ κ} (o : σ) (h : f.handle.closed = false) :
    checkOpen (f, o) = (.ok (), (f, o)) := by
  rw [checkOpen, handle_bind, h]
  rfl

theorem promote_takes (b : Backing η ρ κ σ) : Takes (promote b.recorded)
    (Promoting (if b.service.supportsTemplates then none
      else some (Service.noTemplates b.service.name))) := by
  intro f l s
  rw [promote]
  cases hn : b.service.supportsTemplates with
  | false =>
    rw [show b.recorded.service.supportsTemplates = false from hn]
    exact ⟨.error (Service.noTemplates b.service.name), f, [], s, by rw [List.append_nil]; rfl,
      .unsupported rfl⟩
  | true =>
    rw [show b.recorded.service.supportsTemplates = true from hn]
    cases hc : f.handle.closed with
    | true =>
      refine ⟨.error f.handle.alreadyClosed, f, [], s, ?_, .closed rfl hc⟩
      rw [List.append_nil]
      exact bind_of_error (checkOpen_of_closed (l, s) hc)
    | false =>
      change ∃ r f' calls s', (checkOpen >>= _) (f, (l, s)) = _ ∧ _
      rw [bind_of_ok (checkOpen_of_open (l, s) hc), handle_bind]
      cases ht : f.handle.isTemplate with
      | true =>
        exact ⟨.ok (), f, [], s, by rw [List.append_nil]; rfl, .already rfl hc ht⟩
      | false =>
        rcases h : b.service.setTemplate f.handle true s with ⟨e | ⟨⟩, s₁⟩
        · have hs : b.recorded.service.setTemplate f.handle true (l, s) = _ := noted_of_eq _ l h
          exact ⟨_, f, _, s₁, bind_of_error (outside_of_eq f (orRaise_of_error _ hs)),
            .failed e rfl hc ht⟩
        · have hs : b.recorded.service.setTemplate f.handle true (l, s) = _ := noted_of_eq _ l h
          exact ⟨.ok (), _, _, _, bind_of_ok (outside_of_eq f (orRaise_of_ok _ hs)),
            .done rfl hc ht⟩

theorem connectCopy_recorded (b : Backing η ρ κ σ) (info : ConnectionInfo)
    (l : List (Call ρ κ)) (s : σ) :
    ∃ r calls s', connectCopy b.recorded info (l, s) = (r, (l ++ calls, s')) ∧
      Connecting info r calls := by
  rw [connectCopy]
  rcases h : b.service.connectTo info s with ⟨e | client, s₁⟩
  · have hs : b.recorded.service.connectTo info (l, s) = _ := noted_of_eq _ l h
    cases ho : e.isOrdinary with
    | false => exact ⟨_, _, s₁, bind_of_error (attempt_of_interruption hs ho), .interrupted e ho⟩
    | true =>
      rw [bind_of_ok (attempt_of_ordinary hs ho)]
      rcases h' : b.service.dropCopy info s₁ with ⟨d | ⟨⟩, s₂⟩
      · have hd : b.recorded.service.dropCopy info (_, s₁) = _ :=
          noted_of_eq _ (l ++ [.connect info (.error e)]) h'
        rw [List.append_assoc] at hd
        cases hi : d.isOrdinary with
        | false =>
          exact ⟨_, _, s₂, bind_of_error (attempt_of_interruption hd hi),
            .removalInterrupted e d ho hi⟩
        | true =>
          exact ⟨_, _, _, bind_of_ok (attempt_of_ordinary hd hi),
            .removed e (.error d) ho (by simp [hi])⟩
      · have hd : b.recorded.service.dropCopy info (_, s₁) = _ :=
          noted_of_eq _ (l ++ [.connect info (.error e)]) h'
        rw [List.append_assoc] at hd
        exact ⟨_, _, _, bind_of_ok (attempt_of_ok hd), .removed e (.ok ()) ho (by simp)⟩
  · have hs : b.recorded.service.connectTo info (l, s) = _ := noted_of_eq _ l h
    exact ⟨.ok client, _, s₁, bind_of_ok (attempt_of_ok hs), .done client⟩

theorem cloneTemplate_takes (b : Backing η ρ κ σ) :
    Takes (cloneTemplate b.recorded) (Cloning b.service.connectionInfo) := by
  intro f l s
  rw [cloneTemplate]
  cases hc : f.handle.closed with
  | true =>
    refine ⟨.error f.handle.alreadyClosed, f, [], s, ?_, .closed hc⟩
    rw [List.append_nil]
    exact bind_of_error (checkOpen_of_closed (l, s) hc)
  | false =>
    rw [bind_of_ok (checkOpen_of_open (l, s) hc), handle_bind]
    cases ht : f.handle.isTemplate with
    | false =>
      exact ⟨.error (notTemplate f.handle.logicalName), f, [], s, by rw [List.append_nil]; rfl,
        .notTemplate hc ht⟩
    | true =>
      change ∃ r f' calls s', (outside (b.recorded.around.newName f.handle.logicalName) >>= _)
        (f, (l, s)) = _ ∧ _
      rcases hn : b.around.newName f.handle.logicalName s with ⟨e | name, s₁⟩
      · have hw : b.recorded.around.newName f.handle.logicalName (l, s) = _ :=
          newName_beside _ _ l hn
        exact ⟨_, f, [], s₁, by rw [bind_of_error (outside_of_eq f hw), List.append_nil],
          .unnamed e hc ht⟩
      have hw : b.recorded.around.newName f.handle.logicalName (l, s) = _ :=
        newName_beside _ _ l hn
      rw [bind_of_ok (outside_of_eq f hw)]
      rcases h₂ : b.service.createCopy f.handle name s₁ with ⟨e | ⟨⟩, s₂⟩
      · have hs : b.recorded.service.createCopy f.handle name (l, s₁) = _ := noted_of_eq _ l h₂
        exact ⟨_, f, _, s₂, bind_of_error (outside_of_eq f (orRaise_of_error _ hs)),
          .copyFailed name e hc ht⟩
      have hs : b.recorded.service.createCopy f.handle name (l, s₁) = _ := noted_of_eq _ l h₂
      rw [bind_of_ok (outside_of_eq f (orRaise_of_ok _ hs))]
      change ∃ r f' calls s', (ofExcept (b.service.connectionInfo f.handle) >>= _)
        (f, (l ++ [.createCopy f.handle name (.ok ())], s₂)) = _ ∧ _
      cases hi : b.service.connectionInfo f.handle with
      | error e => exact ⟨_, f, _, s₂, bind_of_error rfl, .noInfo name e hc ht hi⟩
      | ok info =>
        rw [bind_of_ok (x := ofExcept (.ok info)) rfl]
        obtain ⟨r, calls, s₃, h₃, t₃⟩ := connectCopy_recorded b { info with database := name }
          (l ++ [.createCopy f.handle name (.ok ())]) s₂
        rw [List.append_assoc] at h₃
        rcases r with e | client
        · exact ⟨_, f, _, s₃, bind_of_error (outside_of_eq f h₃),
            .notConnected name hc ht hi t₃⟩
        · rw [bind_of_ok (outside_of_eq f h₃)]
          exact ⟨_, _, _, _, rfl, .done name hc ht hi t₃⟩

end Testbed
