import Testbed.Proofs.Instance.HandleInvariant
import Testbed.Proofs.Start.Launching

/-!
# Who closes the runtime

A runtime that was created for an instance is closed together with the container of the instance,
or when the container could not be launched.  A runtime that was given is never closed.
-/

namespace Testbed

set_option autoImplicit false

open Act

variable {η ρ κ σ α : Type}

def Call.isRuntimeClose : Call ρ κ → Bool
  | .closeRuntime _ => true
  | _ => false

/-- The number of calls that asked a runtime to close. -/
def closes (calls : List (Call ρ κ)) : Nat := calls.countP Call.isRuntimeClose

@[simp] theorem closes_nil : closes ([] : List (Call ρ κ)) = 0 := rfl

@[simp] theorem closes_append (l m : List (Call ρ κ)) : closes (l ++ m) = closes l + closes m :=
  List.countP_append

@[simp] theorem closes_cons (c : Call ρ κ) (l : List (Call ρ κ)) :
    closes (c :: l) = closes l + if c.isRuntimeClose then 1 else 0 := List.countP_cons

theorem closes_eq_zero {calls : List (Call ρ κ)} :
    closes calls = 0 ↔ ∀ r, .closeRuntime r ∉ calls := by
  unfold closes
  rw [List.countP_eq_zero]
  constructor
  · intro h r hr
    exact h _ hr rfl
  · intro h c hc hclose
    cases c with
    | closeRuntime r => exact h r hc
    | _ => cases hclose

/-- An own runtime is closed as often as the container is destroyed, another one never. -/
def Settles (owned : Bool) (calls : List (Call ρ κ)) : Prop :=
  closes calls = if owned = true then ends calls else 0

theorem Settles.append {owned : Bool} {l m : List (Call ρ κ)} (hl : Settles owned l)
    (hm : Settles owned m) : Settles owned (l ++ m) := by
  unfold Settles at *
  rw [closes_append, ends_append, hl, hm]
  cases owned <;> rfl

theorem Settles.of_none {owned : Bool} {calls : List (Call ρ κ)} (hc : closes calls = 0)
    (he : ends calls = 0) : Settles owned calls := by
  unfold Settles
  rw [hc, he]
  cases owned <;> rfl

/-! The courses of the operations. -/

section Courses

variable {f f' : Family ρ κ} {calls : List (Call ρ κ)}

theorem Terminating.settles {r : Except Fault Unit} (h : Terminating f r f' calls) :
    Settles f.handle.ownsRuntime calls := by
  cases h with
  | failed e => exact .of_none rfl rfl
  | done ho =>
    rw [ho]
    rfl
  | ownRuntime r ho =>
    rw [ho]
    rfl

theorem Reverting.settles {r : Except Fault Unit} (h : Reverting f r f' calls) (owned : Bool) :
    Settles owned calls := by
  refine .of_none (closes_eq_zero.mpr fun q hq => ?_) h.ends_eq
  obtain ⟨flag, r', hr⟩ := h.outcome.2 _ hq
  cases hr

theorem Ending.settles {r : Except Fault Unit} (h : Ending f r f' calls) :
    Settles f.handle.ownsRuntime calls := by
  cases h with
  | kept _ => exact .of_none rfl rfl
  | ended _ ht => exact ht.settles

theorem Dismissing.settles {r : Except Fault Unit} (h : Dismissing f r f' calls) (owned : Bool) :
    Settles owned calls := by
  refine .of_none (closes_eq_zero.mpr fun q hq => ?_) h.ends_eq
  obtain ⟨c, r', hr⟩ := h.outcome.2 _ hq
  cases hr

theorem Closing.settles {r : Except Fault Unit} (h : Closing f r f' calls) :
    Settles f.handle.ownsRuntime calls := by
  cases h with
  | again _ _ => exact .of_none rfl rfl
  | retried _ _ _ ht => exact ht.settles
  | refused _ hr => exact hr.settles _
  | failed _ hr he =>
    have hsame := hr.ownsRuntime_eq
    rw [← hsame]
    exact (hr.settles _).append he.settles
  | done _ hr he hd =>
    have hsame := hr.ownsRuntime_eq
    rw [← hsame]
    exact ((hr.settles _).append he.settles).append (hd.settles _)

theorem Releasing.settles {id : CloneId} {r : Except Fault Unit} (h : Releasing id f r f' calls) :
    Settles f.handle.ownsRuntime calls := by
  cases h with
  | kept _ => exact .of_none rfl rfl
  | last _ _ ht => exact ht.settles

theorem Dropping.closes_eq {c : Clone κ} {r : Except Fault Unit} (h : Dropping c r calls) :
    closes calls = 0 := by
  cases h <;> rfl

theorem Retiring.settles {id : CloneId} {r : Except Fault Bool} (h : Retiring id f r f' calls)
    (owned : Bool) : Settles owned calls := by
  cases h with
  | idle _ => exact .of_none rfl rfl
  | failed _ _ hd => exact .of_none hd.closes_eq hd.not_terminates.1
  | done _ _ hd => exact .of_none hd.closes_eq hd.not_terminates.1

theorem Retiring.ownsRuntime_eq {id : CloneId} {r : Except Fault Bool}
    (h : Retiring id f r f' calls) : f'.handle.ownsRuntime = f.handle.ownsRuntime := by
  obtain ⟨⟨-, rfl⟩ | ⟨-, c, -, -, rfl⟩, -⟩ := h.outcome <;> rfl

theorem ClosingClone.settles {id : CloneId} {r : Except Fault Unit}
    (h : ClosingClone id f r f' calls) : Settles f.handle.ownsRuntime calls := by
  cases h with
  | idle ht => exact ht.settles _
  | failed ht => exact ht.settles _
  | done ht hl =>
    have hsame := ht.ownsRuntime_eq
    rw [← hsame]
    exact (ht.settles _).append hl.settles

theorem ClosingClone.terminates {id : CloneId} {r : Except Fault Unit}
    (h : ClosingClone id f r f' calls) {c : ρ} {r' : Except Fault Unit}
    (hc : .terminate c r' ∈ calls) : c = f.handle.container := by
  obtain ⟨-, -, hnot⟩ | ⟨k, first, second, rfl, -, hnot, -, -, hl⟩ := h.outcome
  · exact absurd hc (hnot c r')
  · exact (hl.terminates ((List.mem_append.mp hc).resolve_left (hnot c r'))).1

theorem Connecting.closes_eq {info : ConnectionInfo} {r : Except Fault κ}
    (h : Connecting (ρ := ρ) info r calls) : closes calls = 0 := by
  cases h <;> rfl

theorem Cloning.closes_eq {info? : Handle ρ κ → Except Fault ConnectionInfo}
    {r : Except Fault CloneId} (h : Cloning info? f r f' calls) : closes calls = 0 := by
  cases h with
  | notConnected name _ _ _ hk =>
    rw [closes_cons, hk.closes_eq]
    rfl
  | done name _ _ _ hk =>
    rw [closes_cons, hk.closes_eq]
    rfl
  | _ => rfl

theorem Promoting.closes_eq {e? : Option Fault} {r : Except Fault Unit}
    (h : Promoting e? f r f' calls) : closes calls = 0 := by
  cases h <;> rfl

end Courses

/-- A family whose flags and clones are as before is as sound as before. -/
theorem Family.Sound.of_same {f f' : Family ρ κ} {w : List CloneId} {n : Nat} (h : f.Sound w n)
    (hs : f.Still f') (hc : f'.handle.closed = f.handle.closed)
    (ht : f'.handle.isTemplate = f.handle.isTemplate)
    (hp : f'.handle.terminatePending = f.handle.terminatePending) : f'.Sound w n where
  unmarked := by rw [hc, ht]; exact h.unmarked
  marked := by rw [hc, ht, hs.live]; exact h.marked
  kept := by rw [hc, hp, hs.live]; exact h.kept
  closed := by rw [hc, hp]; exact h.closed
  ended := by rw [hc, hp]; exact h.ended
  live := by rw [hs.live, hs.clones]; exact h.live
  waiting_closed := by rw [hs.clones]; exact h.waiting_closed

/-- What everything that is done with an instance does to its family, with its calls. -/
structure Tidy (f f' : Family ρ κ) (calls : List (Call ρ κ)) : Prop where
  host : f.SameHost f'
  settles : Settles f.handle.ownsRuntime calls
  terminates : ∀ c r, .terminate c r ∈ calls → c = f.handle.container
  sound : Smooth f calls → ∀ n, f.Sound [] n → f'.Sound [] (n + ends calls)

section Courses

variable {f f' : Family ρ κ} {calls : List (Call ρ κ)}

/-- Calls that neither destroy a container nor close a runtime, on a family whose flags and clones
stay as they are. -/
theorem Tidy.of_same (hs : f.Still f') (hc : f'.handle.closed = f.handle.closed)
    (ht : f'.handle.isTemplate = f.handle.isTemplate)
    (hp : f'.handle.terminatePending = f.handle.terminatePending) (hcl : closes calls = 0)
    (he : ends calls = 0) (hn : ∀ c r, .terminate c r ∉ calls) : Tidy f f' calls where
  host := hs.host
  settles := .of_none hcl he
  terminates c r hm := absurd hm (hn c r)
  sound _ n hf := by
    rw [he]
    exact hf.of_same hs hc ht hp

theorem Promoting.tidy {e? : Option Fault} {r : Except Fault Unit}
    (h : Promoting e? f r f' calls) : Tidy f f' calls where
  host := h.still.host
  settles := .of_none h.closes_eq h.outcome.2.1
  terminates c r hm := absurd hm (h.outcome.2.2 c r)
  sound _ _ hf := h.sound hf

theorem Cloning.tidy {info? : Handle ρ κ → Except Fault ConnectionInfo}
    {r : Except Fault CloneId} (h : Cloning info? f r f' calls) : Tidy f f' calls where
  host := h.sameHost
  settles := .of_none h.closes_eq h.outcome.2.1
  terminates c r hm := absurd hm (h.outcome.2.2 c r)
  sound _ _ hf := h.sound hf

theorem Closing.tidy {r : Except Fault Unit} (h : Closing f r f' calls) : Tidy f f' calls where
  host := h.still.host
  settles := h.settles
  terminates _ _ hm := (h.terminates hm).1
  sound hs _ hf := h.sound hs hf

theorem ClosingClone.tidy {id : CloneId} {r : Except Fault Unit}
    (h : ClosingClone id f r f' calls) : Tidy f f' calls where
  host := h.sameHost
  settles := h.settles
  terminates _ _ hm := h.terminates hm
  sound hs _ hf := h.sound hs hf

theorem Ensuring.tidy {r : Except Fault Unit} (h : Ensuring f r f' calls) : Tidy f f' calls := by
  have hs := h.still
  cases h <;> exact .of_same hs rfl rfl rfl rfl rfl (by simp)

theorem Probing.tidy {r : Except Fault Unit} (h : Probing f r f' calls) : Tidy f f' calls := by
  have hs := h.still
  cases h <;> exact .of_same hs rfl rfl rfl rfl rfl (by simp)

end Courses

/-! From the launched container on. -/

/-- The family of a launched instance after some calls. -/
structure Family.Owned (hd : Handle ρ κ) (f : Family ρ κ) (l : List (Call ρ κ)) : Prop where
  container : f.handle.container = hd.container
  ownsRuntime : f.handle.ownsRuntime = hd.ownsRuntime
  settles : Settles hd.ownsRuntime l
  terminates : ∀ c r, .terminate c r ∈ l → c = hd.container
  sound : (∀ e, .closeRuntime (.error e) ∉ l) → f.Sound [] (ends l)

theorem Family.Owned.next {hd : Handle ρ κ} {f f' : Family ρ κ} {l calls : List (Call ρ κ)}
    (h : f.Owned hd l) (ht : Tidy f f' calls) : f'.Owned hd (l ++ calls) where
  container := ht.host.1.trans h.container
  ownsRuntime := ht.host.2.trans h.ownsRuntime
  settles := by
    have hs := ht.settles
    rw [h.ownsRuntime] at hs
    exact h.settles.append hs
  terminates c r hm := by
    rcases List.mem_append.mp hm with hm | hm
    · exact h.terminates c r hm
    · exact (ht.terminates c r hm).trans h.container
  sound hno := by
    have before := h.sound fun e he => hno e (List.mem_append_left _ he)
    have smooth : Smooth f calls := fun _ e he => hno e (List.mem_append_right _ he)
    rw [ends_append]
    exact ht.sound smooth _ before

theorem owned_lasting (hd : Handle ρ κ) : Lasting (Family.Owned hd) where
  promoting _ _ _ _ _ _ t h := h.next t.tidy
  cloning _ _ _ _ _ _ t h := h.next t.tidy
  closing _ _ _ _ _ t h := h.next t.tidy
  closingClone _ _ _ _ _ _ t h := h.next t.tidy
  ensuring _ _ _ _ _ t h := h.next t.tidy
  probing _ _ _ _ _ t h := h.next t.tidy
  located f l endpoint h := by
    have hsame : Tidy f (f.onHandle fun h => { h with endpoint }) ([] : List (Call ρ κ)) :=
      .of_same ⟨rfl, rfl, rfl, rfl⟩ rfl rfl rfl rfl rfl (by simp)
    have hnext := h.next hsame
    rwa [List.append_nil] at hnext
  scheduled _ _ _ _ _ h := h.next (.of_same ⟨rfl, rfl, rfl, rfl⟩ rfl rfl rfl rfl rfl (by simp))
  asked _ _ _ _ _ h := h.next (.of_same ⟨rfl, rfl, rfl, rfl⟩ rfl rfl rfl rfl rfl (by simp))

theorem Family.Owned.fresh {hd : Handle ρ κ} (hc : hd.closed = false)
    (hp : hd.terminatePending = false) (hl : hd.liveClones = []) :
    Family.Owned hd { handle := hd } [] where
  container := rfl
  ownsRuntime := rfl
  settles := .of_none rfl rfl
  terminates _ _ hm := by cases hm
  sound _ := .fresh hc hp hl rfl

/-- A launch that failed has closed an own runtime, and there is no container. -/
theorem LaunchingOn.failed {owned : Bool} {e : Fault} {calls : List (Call ρ κ)}
    (h : LaunchingOn owned (.error e) calls) :
    (closes calls = if owned then 1 else 0) ∧ ∀ spec c, .launch spec (.ok c) ∉ calls := by
  cases h with
  | kept ho h =>
    refine ⟨?_, fun spec c hm => by cases (h.launched c).mp ⟨spec, hm⟩⟩
    rw [ho, closes_eq_zero.mpr h.closes]
    rfl
  | closed q ho h =>
    refine ⟨?_, fun spec c hm => ?_⟩
    · rw [ho, closes_append, closes_eq_zero.mpr h.closes]
      rfl
    · cases (h.launched c).mp ⟨spec, by simpa using hm⟩

/-- A start gets as far as to its runtime: there are templates when one is wanted, and the deadline
is in the range of the clock. -/
def StartOptions.Admitted (o : StartOptions η) (s : Service η ρ κ σ) (now : Num) : Prop :=
  (o.wantsTemplate && !s.supportsTemplates) = false ∧ ∃ d, numScale.later now o.timeout = .ok d

def Estate.recording (st : Estate ρ κ σ) : Estate ρ κ (Recorded ρ κ σ) :=
  { families := st.families, outside := ([], st.outside) }

section Start

variable {p : Provisioner η ρ κ (Recorded ρ κ σ)} {a : Surroundings σ} {new : Act σ (Runtime ρ σ)}
  {s : Service η ρ κ σ} {o : StartOptions η} {runtime : Option (Runtime ρ σ)} {used : Runtime ρ σ}

theorem establish_id {p : Provisioner η ρ κ σ} {l : Launched η ρ κ σ} {st st' : Estate ρ κ σ}
    {id : InstanceId} (h : establish p l o st = (.ok id, st')) : id = st.families.length := by
  obtain ⟨_, _, hid, h⟩ := bind_ok h
  cases hid
  obtain ⟨_, _, -, h⟩ := bind_ok h
  obtain ⟨_, _, -, h⟩ := bind_ok h
  obtain ⟨_, _, -, h⟩ := bind_ok h
  cases h
  rfl

def Estate.Lacks (id : InstanceId) (calls : List (Call ρ κ)) (st : Estate ρ κ (Recorded ρ κ σ)) :
    Prop := st.families[id]? = none ∧ st.outside.1 = calls

/-- The instance of a container that these calls launched. -/
def Estate.Has (id : InstanceId) (owned : Bool) (st : Estate ρ κ (Recorded ρ κ σ)) : Prop :=
  ∃ hd first, hd.ownsRuntime = owned ∧ Launching (.ok hd.container) first ∧
    st.After id (Family.Owned hd) first

/-- What a start leaves: nothing, the calls of a launch that failed, or a launched instance. -/
inductive StartLeaves (admitted : Prop) (owned : Bool) (id : InstanceId) :
    Except Fault InstanceId → Estate ρ κ (Recorded ρ κ σ) → Prop
  | nothing {r : Except Fault InstanceId} {st : Estate ρ κ (Recorded ρ κ σ)} : ¬ admitted →
      st.Lacks id [] → StartLeaves admitted owned id r st
  | unlaunched {r : Except Fault InstanceId} {e : Fault} {calls : List (Call ρ κ)}
      {st : Estate ρ κ (Recorded ρ κ σ)} : admitted → r = .error e →
      LaunchingOn owned (.error e) calls → st.Lacks id calls → StartLeaves admitted owned id r st
  | launched {r : Except Fault InstanceId} {st : Estate ρ κ (Recorded ρ κ σ)} : admitted →
      st.Has id owned → StartLeaves admitted owned id r st

/-- From the launched container on, everything is done with an instance that owns what it should. -/
theorem start_of_launched_owned (hp : p.Records a new)
    (ht : (o.wantsTemplate && !s.supportsTemplates) = false)
    {register : Option (InstanceId → EstateAct ρ κ (Recorded ρ κ σ) Unit)}
    (hr : ∀ f ∈ register, ∀ id, HookProgram (Backing.recorded ⟨s, used, a⟩) id Unnoted (f id))
    {owned : Bool} {d : Num} {c : ρ} {first : List (Call ρ κ)}
    {st st₁ : Estate ρ κ (Recorded ρ κ σ)} (hfirst : st₁.outside.1 = first)
    (hl : Estate.around (launchInstance p s.recorded o (runtime.map Runtime.recorded)) st =
      (.ok (Launched.on ⟨s, used, a⟩ o owned d c), st₁)) :
    (start p s.recorded o (runtime.map Runtime.recorded) register st).2.After st₁.families.length
      (Family.Owned (Launched.on ⟨s, used, a⟩ o owned d c).handle) first := by
  have lasting := owned_lasting (Launched.on (⟨s, used, a⟩ : Backing η ρ κ σ) o owned d c).handle
  have plain {β : Type} {x : Act (Recorded ρ κ σ) β} (hx : Unnoted x) :
      ∃ y : Act σ β, x = Act.outside y := hx
  have after := establish_after (b := ⟨s, used, a⟩) (s := st₁) lasting hp.around rfl o
    (.fresh rfl rfl rfl) fun hook _ => (hp.hooks _ hook _).after lasting plain
  rw [hfirst] at after
  rcases he : establish p (Launched.on ⟨s, used, a⟩ o owned d c) o st₁ with ⟨e | id, st₂⟩ <;>
    rw [he] at after
  · have hstart : start p s.recorded o (runtime.map Runtime.recorded) register st =
        (.error e, st₂) := by
      unfold start
      rw [show (o.wantsTemplate && !s.recorded.supportsTemplates) = false from ht,
        if_neg Bool.false_ne_true]
      exact (bind_of_ok hl).trans (bind_of_error he)
    rw [hstart]
    exact after
  · obtain rfl := establish_id he
    cases hreg : register with
    | none =>
      rw [start_of_established (s := s.recorded) ht hl he]
      exact after
    | some f =>
      rcases hf : f st₁.families.length st₂ with ⟨q, st₃⟩
      rw [start_of_told (s := s.recorded) ht hl he hf]
      have hkept := (hr f hreg st₁.families.length).after lasting plain _ after
      rw [hf] at hkept
      exact hkept

theorem start_leaves (hp : p.Records a new) (st : Estate ρ κ σ)
    (hu : runtime.elim (new st.outside).1 Except.ok = .ok used)
    {register : Option (InstanceId → EstateAct ρ κ (Recorded ρ κ σ) Unit)}
    (hr : ∀ f ∈ register, ∀ id, HookProgram (Backing.recorded ⟨s, used, a⟩) id Unnoted (f id)) :
    let run := start p s.recorded o (runtime.map Runtime.recorded) register st.recording
    StartLeaves (o.Admitted s (a.clock.now st.outside)) runtime.isNone st.families.length
      run.1 run.2 := by
  intro run
  have absent : st.families[st.families.length]? = none := List.getElem?_eq_none le_rfl
  cases ht : o.wantsTemplate && !s.supportsTemplates with
  | true =>
    have hrun : run = (.error (Service.noTemplates s.name), st.recording) := by
      unfold run start
      rw [show (o.wantsTemplate && !s.recorded.supportsTemplates) = true from ht, if_pos rfl]
      rfl
    rw [hrun]
    refine .nothing (fun hadm => ?_) ⟨absent, rfl⟩
    cases ht.symm.trans hadm.1
  | false =>
    rcases launchInstance_launching (s := s) (o := o) hp st.outside hu with
      ⟨e, hd, hl⟩ | ⟨d, q, calls, t', hd, hl, h⟩
    · have hrun : run = (.error e, st.recording) :=
        start_of_unlaunched (s := s.recorded) ht (around_of_eq hl) register
      rw [hrun]
      refine .nothing (fun hadm => ?_) ⟨absent, rfl⟩
      obtain ⟨d, hd'⟩ := hadm.2
      rw [hd] at hd'
      cases hd'
    · have admitted : o.Admitted s (a.clock.now st.outside) := ⟨ht, d, hd⟩
      rcases q with e | c
      · have hrun := start_of_unlaunched (s := s.recorded) ht
          (around_of_eq (s := st.recording) hl) register
        unfold run
        rw [hrun]
        exact .unlaunched admitted rfl h ⟨absent, rfl⟩
      · refine .launched admitted ?_
        cases h with
        | launched h =>
          have after := start_of_launched_owned hp ht hr rfl (around_of_eq (s := st.recording) hl)
          exact ⟨_, calls, rfl, h, after⟩

end Start

/-! Operations after a start. -/

def Operation.on (b : Backing η ρ κ σ) (id : InstanceId) : Operation → EstateAct ρ κ σ Unit
  | .promote => Estate.onFamily id (Testbed.promote b)
  | .clone => do
    let _ ← Estate.onFamily id (cloneTemplate b)
    pure ()
  | .close => Estate.onFamily id (closeInstance b)
  | .closeClone c => Estate.onFamily id (Testbed.closeClone b c)

/-- Operations on one instance, one after the other, whatever each of them raises. -/
def Estate.performed (b : Backing η ρ κ σ) (id : InstanceId) (st : Estate ρ κ σ)
    (xs : List Operation) : Estate ρ κ σ :=
  xs.foldl (fun st x => (x.on b id st).2) st

section Operations

variable {b : Backing η ρ κ σ} {id : InstanceId}

theorem performed_keeps {I : Estate ρ κ σ → Prop} (h : ∀ x : Operation, Keeps I (x.on b id))
    (xs : List Operation) {st : Estate ρ κ σ} (hst : I st) : I (st.performed b id xs) := by
  unfold Estate.performed
  induction xs generalizing st with
  | nil => exact hst
  | cons x xs ih => exact ih (h x st hst)

theorem Operation.on_program {K : {β : Type} → Act σ β → Prop} (x : Operation) :
    HookProgram b id K (x.on b id) := by
  cases x with
  | promote => exact .promote
  | clone => exact .bind .clone fun _ => .pure _
  | close => exact .close
  | closeClone c => exact .closeClone c

theorem onFamily_lacks {calls : List (Call ρ κ)} (x : FamilyAct ρ κ (Recorded ρ κ σ) α) :
    Keeps (Estate.Lacks id calls) (Estate.onFamily id x) := by
  rintro st ⟨hf, hc⟩
  unfold Estate.onFamily
  rw [hf]
  exact ⟨hf, hc⟩

theorem Operation.on_lacks {b : Backing η ρ κ (Recorded ρ κ σ)} {calls : List (Call ρ κ)}
    (x : Operation) : Keeps (Estate.Lacks id calls) (x.on b id) := by
  cases x with
  | clone => exact .bind (onFamily_lacks _) fun _ => .pure _
  | _ => exact onFamily_lacks _

theorem Operation.on_has {owned : Bool} (x : Operation) :
    Keeps (Estate.Has id owned) (x.on b.recorded id) := by
  rintro st ⟨hd, first, ho, hl, hst⟩
  have program : HookProgram b.recorded id Unnoted (x.on b.recorded id) := x.on_program
  exact ⟨hd, first, ho, hl, program.after (owned_lasting hd) (fun hx => hx) st hst⟩

theorem StartLeaves.performed {admitted : Prop} {owned : Bool} {r : Except Fault InstanceId}
    {st : Estate ρ κ (Recorded ρ κ σ)} (h : StartLeaves admitted owned id r st)
    (xs : List Operation) : StartLeaves admitted owned id r (st.performed b.recorded id xs) := by
  cases h with
  | nothing ha hst => exact .nothing ha (performed_keeps Operation.on_lacks xs hst)
  | unlaunched ha he hl hst =>
    exact .unlaunched ha he hl (performed_keeps Operation.on_lacks xs hst)
  | launched ha hst => exact .launched ha (performed_keeps Operation.on_has xs hst)

end Operations

/-! The own runtime. -/

section Owned

variable {f : Family ρ κ} {hd : Handle ρ κ} {l first : List (Call ρ κ)}

theorem Family.Owned.closes_eq (h : f.Owned hd l) (ho : hd.ownsRuntime = true)
    (hf : Launching (.ok hd.container) first) : closes (first ++ l) = ends l := by
  have hs := h.settles
  unfold Settles at hs
  rw [if_pos ho] at hs
  rw [closes_append, closes_eq_zero.mpr hf.closes, Nat.zero_add, hs]

theorem Family.Owned.ends_le (h : f.Owned hd l) (hno : ∀ e, .closeRuntime (.error e) ∉ l) :
    ends l ≤ 1 := by
  rw [(h.sound hno).ended]
  split <;> decide

theorem Family.Owned.live (h : f.Owned hd l) (hno : ∀ e, .closeRuntime (.error e) ∉ l)
    (hl : f.handle.liveClones ≠ []) : ends l = 0 := by
  have sound := h.sound hno
  rw [sound.ended, if_neg]
  rintro ⟨hc, hp⟩
  exact Bool.false_ne_true (hp.symm.trans (sound.kept hc hl))

/-- The container that was destroyed is the one that was launched. -/
theorem Family.Owned.ends_eq_one_iff (h : f.Owned hd l) (hno : ∀ e, .closeRuntime (.error e) ∉ l)
    (hf : Launching (.ok hd.container) first) : ends l = 1 ↔
      ∃ spec c, .launch spec (.ok c) ∈ first ++ l ∧ .terminate c (.ok ()) ∈ first ++ l := by
  have one : ends l = 1 ↔ ends l ≠ 0 := by
    have := h.ends_le hno
    omega
  rw [one, ends_ne_zero]
  constructor
  · rintro ⟨c, hc⟩
    obtain rfl := h.terminates c _ hc
    obtain ⟨spec, hs⟩ := (hf.launched hd.container).mpr rfl
    exact ⟨spec, hd.container, List.mem_append_left _ hs, List.mem_append_right _ hc⟩
  · rintro ⟨-, c, -, hc⟩
    exact ⟨c, (List.mem_append.mp hc).resolve_left (hf.terminates c _)⟩

end Owned

/-- A runtime that was created for an instance is closed once, with its container: when the start
failed before there was one, or when it was destroyed, and never under a live clone.  A runtime
that was given is never closed. -/
theorem runtime_closed_with_container {p : Provisioner η ρ κ (Recorded ρ κ σ)}
    {a : Surroundings σ} {new : Act σ (Runtime ρ σ)} (hp : p.Records a new)
    (s : Service η ρ κ σ) (o : StartOptions η) (runtime : Option (Runtime ρ σ))
    (st : Estate ρ κ σ) {used : Runtime ρ σ}
    (hu : runtime.elim (new st.outside).1 Except.ok = .ok used)
    (register : Option (InstanceId → EstateAct ρ κ (Recorded ρ κ σ) Unit))
    (hr : ∀ f ∈ register, ∀ id, HookProgram (Backing.recorded ⟨s, used, a⟩) id Unnoted (f id))
    (xs : List Operation) :
    let id := st.families.length
    let run := start p s.recorded o (runtime.map Runtime.recorded) register st.recording
    let last := run.2.performed (Backing.recorded ⟨s, used, a⟩) id xs
    let calls := last.outside.1
    (runtime = none → (∀ e, .closeRuntime (.error e) ∉ calls) →
      closes calls ≤ 1 ∧
      (closes calls = 1 ↔
        (o.Admitted s (a.clock.now st.outside) ∧ (∃ e, run.1 = .error e) ∧
          ∀ spec c, .launch spec (.ok c) ∉ calls) ∨
        ∃ spec c, .launch spec (.ok c) ∈ calls ∧ .terminate c (.ok ()) ∈ calls) ∧
      ∀ f ∈ last.families[id]?, f.handle.liveClones ≠ [] → closes calls = 0) ∧
    (runtime.isSome = true → closes calls = 0) := by
  intro id run last calls
  have leaves : StartLeaves (o.Admitted s (a.clock.now st.outside)) runtime.isNone id run.1 last :=
    (start_leaves hp st hu hr).performed xs
  -- what a start leaves decides who closes the runtime: nobody, the start, or the instance
  cases leaves with
  | nothing hadm hst =>
    have hcalls : calls = [] := hst.2
    have none_closed : closes calls = 0 := by
      rw [hcalls]
      rfl
    refine ⟨fun _ _ => ⟨by omega, ?_, fun _ _ _ => none_closed⟩, fun _ => none_closed⟩
    rw [none_closed, hcalls]
    constructor
    · intro h
      cases h
    · rintro (⟨hadm', -⟩ | ⟨_, _, hm, -⟩)
      · exact absurd hadm' hadm
      · cases hm
  | unlaunched hadm he h hst =>
    obtain ⟨hc, hnot⟩ := h.failed
    rw [← hst.2] at hc hnot
    refine ⟨fun hnone _ => ?_, fun hsome => ?_⟩
    · have closed : closes calls = 1 := by
        rw [hc, hnone]
        rfl
      refine ⟨closed.le, ⟨fun _ => .inl ⟨hadm, ⟨_, he⟩, hnot⟩, fun _ => closed⟩, ?_⟩
      intro f hf
      cases hst.1.symm.trans hf
    · rw [hc, Option.isNone_eq_false_iff.mpr hsome]
      rfl
  | launched hadm hst =>
    obtain ⟨hd, first, ho, hl, f, hf, l, hcalls, howned⟩ := hst
    have same : calls = first ++ l := hcalls
    rw [same]
    refine ⟨fun hnone hno => ?_, fun hsome => ?_⟩
    · have hown : hd.ownsRuntime = true := by rw [ho, hnone]; rfl
      have hno' : ∀ e, .closeRuntime (.error e) ∉ l :=
        fun e he => hno e (List.mem_append_right _ he)
      rw [howned.closes_eq hown hl]
      refine ⟨howned.ends_le hno', ?_, fun f' hf' hlive => ?_⟩
      · rw [howned.ends_eq_one_iff hno' hl]
        refine ⟨.inr, ?_⟩
        rintro (⟨-, -, hnot⟩ | h)
        · obtain ⟨spec, hs⟩ := (hl.launched _).mpr rfl
          exact absurd (List.mem_append_left _ hs) (hnot spec _)
        · exact h
      · obtain rfl : f = f' := Option.some.inj (hf.symm.trans hf')
        exact howned.live hno' hlive
    · have hown : hd.ownsRuntime = false := by rw [ho, Option.isNone_eq_false_iff]; exact hsome
      have hs := howned.settles
      unfold Settles at hs
      rw [hown, if_neg Bool.false_ne_true] at hs
      rw [closes_append, closes_eq_zero.mpr hl.closes, hs]

/-- Starts without hooks that do anything. -/
def Provisioner.recording (a : Surroundings σ) (new : Act σ (Runtime ρ σ)) :
    Provisioner η ρ κ (Recorded ρ κ σ) where
  around := a.beside
  newRuntime := do
    let r ← Act.outside new
    pure r.recorded
  runHook _ _ _ := pure ()
  hookLabel _ := ""
  pollInterval := .int 1
  maxBackoff := .int 1
  furtherProbes := 10

theorem Provisioner.recording_records (a : Surroundings σ) (new : Act σ (Runtime ρ σ)) :
    (Provisioner.recording a new : Provisioner η ρ κ (Recorded ρ κ σ)).Records a new :=
  ⟨rfl, rfl, fun _ _ _ => .pure ()⟩

def StartOptions.template : StartOptions Unit := { timeout := .real 30, isTemplate := some true }

/-- A start of a template on a runtime of its own. -/
def Host.startedTemplate :
    Except Fault InstanceId × Estate Container Unit (Recorded Container Unit (Watch × Unit)) :=
  let b := Host.willing.backing 0 Service.copied
  start (Provisioner.recording b.around (pure b.runtime)) b.service.recorded .template none none
    (Estate.recording { families := [], outside := ({}, ()) })

def Host.usedTemplate (xs : List Operation) :
    Estate Container Unit (Recorded Container Unit (Watch × Unit)) :=
  Host.startedTemplate.2.performed (Host.willing.backing 0 Service.copied).recorded 0 xs

/-- The runtime of an instance is open until its last clone is closed. -/
theorem runtime_closed_with_last_clone :
    closes (Host.usedTemplate [.clone, .close]).outside.1 = 0 ∧
    closes (Host.usedTemplate [.clone, .close, .closeClone 0]).outside.1 = 1 ∧
    ∃ c, .terminate c (.ok ()) ∈ (Host.usedTemplate [.clone, .close, .closeClone 0]).outside.1 := by
  have once (xs : List Operation) :
      (∀ e, .closeRuntime (.error e) ∉ (Host.usedTemplate xs).outside.1) →
      _ ∧ (closes (Host.usedTemplate xs).outside.1 = 1 ↔
        (_ ∧ (∃ e, Host.startedTemplate.1 = .error e) ∧ _) ∨
        ∃ spec c, .launch spec (.ok c) ∈ (Host.usedTemplate xs).outside.1 ∧
          .terminate c (.ok ()) ∈ (Host.usedTemplate xs).outside.1) ∧
      ∀ f ∈ (Host.usedTemplate xs).families[0]?, f.handle.liveClones ≠ [] →
        closes (Host.usedTemplate xs).outside.1 = 0 := (runtime_closed_with_container
    (Provisioner.recording_records (Host.willing.backing 0 Service.copied).around
      (pure (Host.willing.backing 0 Service.copied).runtime))
    (Host.willing.backing 0 Service.copied).service .template none
    { families := [], outside := ({}, ()) } rfl none (fun _ hf => by cases hf) xs).1 rfl
  have quiet : (Host.usedTemplate [.clone, .close]).outside.1.all
      (fun c => c.fault?.isNone) = true := by decide +kernel
  have quiet' : (Host.usedTemplate [.clone, .close, .closeClone 0]).outside.1.all
      (fun c => c.fault?.isNone) = true := by decide +kernel
  have left : (Host.usedTemplate [.clone, .close]).families[0]?.map
      (fun f => f.handle.liveClones) = some [0] := by decide +kernel
  have started : Host.startedTemplate.1.isOk = true := by decide +kernel
  have closed : closes (Host.usedTemplate [.clone, .close, .closeClone 0]).outside.1 = 1 := by
    decide +kernel
  refine ⟨?_, closed, ?_⟩
  · obtain ⟨-, -, live⟩ := once [.clone, .close] fun e he => by
      cases List.all_eq_true.mp quiet _ he
    obtain ⟨f, hf, hlive⟩ := Option.map_eq_some_iff.mp left
    exact live f hf (by rw [hlive]; decide)
  · obtain ⟨-, ended, -⟩ := once [.clone, .close, .closeClone 0] fun e he => by
      cases List.all_eq_true.mp quiet' _ he
    rcases ended.mp closed with ⟨-, ⟨e, he⟩, -⟩ | ⟨-, c, -, hc⟩
    · rw [he] at started
      cases started
    · exact ⟨c, hc⟩

end Testbed
