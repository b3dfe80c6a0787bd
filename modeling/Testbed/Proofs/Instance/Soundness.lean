import Testbed.Proofs.Instance.Course
import Testbed.Proofs.Invariant

/-!
# Handles and their clones

One invariant ties the flags of a handle, the clones made from it and the calls that destroy its
container together.  Every course of an operation keeps it, and so does either half of closing a
clone.
-/

namespace Testbed

set_option autoImplicit false

variable {η ρ κ σ : Type}

/-- A call that destroyed a container. -/
def Call.isEnd : Call ρ κ → Bool
  | .terminate _ (.ok _) => true
  | _ => false

/-- The number of calls that destroyed a container. -/
def ends (calls : List (Call ρ κ)) : Nat := calls.countP Call.isEnd

@[simp] theorem ends_nil : ends ([] : List (Call ρ κ)) = 0 := rfl

@[simp] theorem ends_append (l m : List (Call ρ κ)) : ends (l ++ m) = ends l + ends m :=
  List.countP_append

@[simp] theorem ends_cons (c : Call ρ κ) (l : List (Call ρ κ)) :
    ends (c :: l) = ends l + if c.isEnd then 1 else 0 := List.countP_cons

/-- No runtime that belongs to the instance failed to close. -/
def Smooth (f : Family ρ κ) (calls : List (Call ρ κ)) : Prop :=
  f.handle.ownsRuntime = true → ∀ e, Call.closeRuntime (.error e) ∉ calls

/-- What ties a handle to its clones and to the calls of the runtime.  Clones in `waiting` are
closed and are still to be released. -/
structure Family.Sound (f : Family ρ κ) (waiting : List CloneId) (n : Nat) : Prop where
  unmarked : f.handle.closed = true → f.handle.isTemplate = false
  marked : f.handle.closed = false → f.handle.liveClones ≠ [] → f.handle.isTemplate = true
  kept : f.handle.closed = true → f.handle.liveClones ≠ [] → f.handle.terminatePending = true
  closed : f.handle.terminatePending = true → f.handle.closed = true
  ended : n = if f.handle.closed = true ∧ f.handle.terminatePending = false then 1 else 0
  live : ∀ id, id ∈ f.handle.liveClones ↔
    ∃ c, f.clones[id]? = some c ∧ (c.closed = false ∨ id ∈ waiting)
  waiting_closed : ∀ id ∈ waiting, ∃ c, f.clones[id]? = some c ∧ c.closed = true

/-! What the steps of closing leave behind. -/

def Family.unkept (f : Family ρ κ) : Family ρ κ :=
  f.onHandle fun h => { h with terminatePending := false }

def Family.unmark (f : Family ρ κ) : Family ρ κ :=
  f.onHandle fun h => { h with isTemplate := false }

theorem Family.unmark_of_unmarked {f : Family ρ κ} (ht : f.handle.isTemplate = false) :
    f.unmark = f := by
  obtain ⟨⟨c, e, n, o, cl, t, cd, l, p⟩, clones⟩ := f
  cases ht
  rfl

/-- A family whose instance was closed; the container is kept for live clones. -/
def Family.close (f : Family ρ κ) : Family ρ κ :=
  f.onHandle fun h => { h with isTemplate := false, closed := true,
                               terminatePending := !h.liveClones.isEmpty }

theorem Terminating.outcome {f f' : Family ρ κ} {r : Except Fault Unit} {calls : List (Call ρ κ)}
    (h : Terminating f r f' calls) (hs : Smooth f calls) :
    (∃ e, r = .error e ∧ f' = f ∧ ends calls = 0) ∨
      (r = .ok () ∧ f' = f.unkept ∧ ends calls = 1) := by
  cases h with
  | failed e => exact .inl ⟨_, rfl, rfl, rfl⟩
  | done _ => exact .inr ⟨rfl, rfl, rfl⟩
  | ownRuntime r ho =>
    cases r with
    | ok _ => exact .inr ⟨rfl, rfl, rfl⟩
    | error e => exact absurd (by simp) (hs ho e)

theorem Reverting.outcome {f f' : Family ρ κ} {r : Except Fault Unit} {calls : List (Call ρ κ)}
    (h : Reverting f r f' calls) : ((∃ e, r = .error e ∧ f' = f) ∨ (r = .ok () ∧ f' = f.unmark)) ∧
      ∀ c ∈ calls, ∃ flag r', c = .setTemplate f.handle flag r' := by
  cases h with
  | unmarked ht => exact ⟨.inr ⟨rfl, (Family.unmark_of_unmarked ht).symm⟩, by simp⟩
  | done _ => exact ⟨.inr ⟨rfl, rfl⟩, by simp⟩
  | unreachable e _ _ _ => exact ⟨.inr ⟨rfl, rfl⟩, by simp⟩
  | failed e _ _ => exact ⟨.inl ⟨_, rfl, rfl⟩, by simp⟩

theorem Dismissing.outcome {f f' : Family ρ κ} {r : Except Fault Unit} {calls : List (Call ρ κ)}
    (h : Dismissing f r f' calls) : f' = f ∧ ∀ c ∈ calls, ∃ client r', c = .closeClient client r' := by
  cases h <;> simp

theorem Terminating.terminates {f f' : Family ρ κ} {r : Except Fault Unit}
    {calls : List (Call ρ κ)} (h : Terminating f r f' calls) :
    (∃ r' rest, calls = .terminate f.handle.container r' :: rest) ∧
      ∀ c r', .terminate c r' ∈ calls → c = f.handle.container := by
  cases h <;> simp

theorem ends_eq_zero {calls : List (Call ρ κ)} (h : ∀ c ∈ calls, c.isEnd = false) :
    ends calls = 0 := by
  unfold ends
  rw [List.countP_eq_zero]
  intro c hc
  rw [h c hc]
  exact Bool.false_ne_true

theorem Reverting.ends_eq {f f' : Family ρ κ} {r : Except Fault Unit} {calls : List (Call ρ κ)}
    (h : Reverting f r f' calls) : ends calls = 0 := by
  refine ends_eq_zero fun c hc => ?_
  obtain ⟨flag, r', rfl⟩ := h.outcome.2 c hc
  rfl

theorem Dismissing.ends_eq {f f' : Family ρ κ} {r : Except Fault Unit} {calls : List (Call ρ κ)}
    (h : Dismissing f r f' calls) : ends calls = 0 := by
  refine ends_eq_zero fun c hc => ?_
  obtain ⟨client, r', rfl⟩ := h.outcome.2 c hc
  rfl

/-- The outcomes of closing an instance: nothing, the termination that was still to be done, a
failure, or a closed instance. -/
theorem Closing.outcome {f f' : Family ρ κ} {r : Except Fault Unit} {calls : List (Call ρ κ)}
    (h : Closing f r f' calls) (hs : Smooth f calls) :
    (f.handle.closed = true ∧ f' = f ∧ ends calls = 0) ∨
    (f.handle.closed = true ∧ f.handle.terminatePending = true ∧ f.handle.liveClones = [] ∧
      f' = f.unkept ∧ ends calls = 1) ∨
    (f.handle.closed = false ∧ (f' = f ∨ f.handle.liveClones = [] ∧ f' = f.unmark) ∧
      ends calls = 0) ∨
    (f.handle.closed = false ∧ f' = f.close ∧
      ends calls = if f.handle.liveClones = [] then 1 else 0) := by
  cases h with
  | again hc _ => exact .inl ⟨hc, rfl, rfl⟩
  | retried hc hp hl ht =>
    rcases ht.outcome hs with ⟨e, -, rfl, hn⟩ | ⟨-, rfl, hn⟩
    · exact .inl ⟨hc, rfl, hn⟩
    · exact .inr (.inl ⟨hc, hp, hl, rfl, hn⟩)
  | refused hc hr =>
    rcases hr.outcome.1 with ⟨e, -, rfl⟩ | ⟨hr', -⟩
    · exact .inr (.inr (.inl ⟨hc, .inl rfl, hr.ends_eq⟩))
    · cases hr'
  | failed hc hr he =>
    rcases hr.outcome.1 with ⟨e, hr', -⟩ | ⟨-, rfl⟩
    · cases hr'
    cases he with
    | ended hl ht =>
      rcases ht.outcome fun ho e he => hs ho e (List.mem_append_right _ he) with
        ⟨e, -, rfl, hn⟩ | ⟨hr', -⟩
      · exact .inr (.inr (.inl ⟨hc, .inr ⟨hl, rfl⟩, by rw [ends_append, hr.ends_eq, hn]⟩))
      · cases hr'
  | done hc hr he hd =>
    obtain ⟨rfl, -⟩ := hd.outcome
    rcases hr.outcome.1 with ⟨e, hr', -⟩ | ⟨-, rfl⟩
    · cases hr'
    refine .inr (.inr (.inr ⟨hc, ?_⟩))
    rw [ends_append, ends_append, hr.ends_eq, hd.ends_eq]
    cases he with
    | kept hl =>
      replace hl : f.handle.liveClones ≠ [] := hl
      simp [Family.close, Family.unmark, Family.onHandle, hl]
    | ended hl ht =>
      rcases ht.outcome fun ho e he => hs ho e (by simp [he]) with
        ⟨e, hr', -⟩ | ⟨-, rfl, hn⟩
      · cases hr'
      · replace hl : f.handle.liveClones = [] := hl
        simp [Family.close, Family.unmark, Family.unkept, Family.onHandle, hl, hn]

theorem Ending.terminates {f f' : Family ρ κ} {r : Except Fault Unit} {calls : List (Call ρ κ)}
    (h : Ending f r f' calls) {c : ρ} {r' : Except Fault Unit} (hc : .terminate c r' ∈ calls) :
    c = f.handle.container ∧ f.handle.liveClones = [] := by
  cases h with
  | kept _ => cases hc
  | ended hl ht => exact ⟨ht.terminates.2 c r' hc, hl⟩

theorem Reverting.not_terminates {f f' : Family ρ κ} {r : Except Fault Unit}
    {calls : List (Call ρ κ)} (h : Reverting f r f' calls) (c : ρ) (r' : Except Fault Unit) :
    .terminate c r' ∉ calls := by
  intro hm
  obtain ⟨flag, r'', hm'⟩ := h.outcome.2 _ hm
  cases hm'

theorem Reverting.frame {f f' : Family ρ κ} {r : Except Fault Unit} {calls : List (Call ρ κ)}
    (h : Reverting f r f' calls) : f'.handle.container = f.handle.container ∧
      f'.handle.liveClones = f.handle.liveClones := by
  rcases h.outcome.1 with ⟨e, -, rfl⟩ | ⟨-, rfl⟩ <;> exact ⟨rfl, rfl⟩

theorem Closing.terminates {f f' : Family ρ κ} {r : Except Fault Unit} {calls : List (Call ρ κ)}
    (h : Closing f r f' calls) {c : ρ} {r' : Except Fault Unit}
    (hc : .terminate c r' ∈ calls) : c = f.handle.container ∧ f.handle.liveClones = [] := by
  cases h with
  | again _ _ => cases hc
  | retried _ _ hl ht => exact ⟨ht.terminates.2 c r' hc, hl⟩
  | refused _ hr => exact absurd hc (hr.not_terminates c r')
  | failed _ hr he =>
    rw [← hr.frame.1, ← hr.frame.2]
    exact he.terminates ((List.mem_append.mp hc).resolve_left (hr.not_terminates c r'))
  | done _ hr he hd =>
    rw [← hr.frame.1, ← hr.frame.2]
    rw [List.mem_append, List.mem_append] at hc
    rcases hc with (hc | hc) | hc
    · exact absurd hc (hr.not_terminates c r')
    · exact he.terminates hc
    · obtain ⟨client, r'', hm⟩ := hd.outcome.2 _ hc
      cases hm

/-! The invariant through the single changes. -/

namespace Family.Sound

variable {f : Family ρ κ} {w : List CloneId} {n : Nat}

theorem fresh {f : Family ρ κ} (hc : f.handle.closed = false)
    (hp : f.handle.terminatePending = false) (hl : f.handle.liveClones = []) (hn : f.clones = []) :
    f.Sound [] 0 where
  unmarked h := by simp [hc] at h
  marked _ h := absurd hl h
  kept _ h := absurd hl h
  closed h := by simp [hp] at h
  ended := by simp [hc]
  live id := by simp [hl, hn]
  waiting_closed id h := by cases h

theorem open_ended (h : f.Sound w n) (hc : f.handle.closed = false) :
    f.handle.terminatePending = false ∧ n = 0 := by
  have hp : f.handle.terminatePending = false := by
    cases hp : f.handle.terminatePending with
    | false => rfl
    | true =>
      rw [h.closed hp] at hc
      cases hc
  exact ⟨hp, by simpa [hc] using h.ended⟩

/-- No clone is open and none is to be released when none is live. -/
theorem closed_of_live (h : f.Sound w n) (hl : f.handle.liveClones = []) {id : CloneId}
    {c : Clone κ} (hc : f.clones[id]? = some c) : c.closed = true := by
  cases ho : c.closed with
  | true => rfl
  | false =>
    have : id ∈ f.handle.liveClones := (h.live id).mpr ⟨c, hc, .inl ho⟩
    rw [hl] at this
    cases this

theorem unkept (h : f.Sound w n) (hc : f.handle.closed = true)
    (hp : f.handle.terminatePending = true) (hl : f.handle.liveClones = []) :
    f.unkept.Sound w (n + 1) where
  unmarked := h.unmarked
  marked := h.marked
  kept _ hl' := absurd hl hl'
  closed hp' := by cases hp'
  ended := by
    have hn := h.ended
    simp [hc, hp] at hn
    simp [Family.unkept, hc, hn]
  live := h.live
  waiting_closed := h.waiting_closed

theorem unmark (h : f.Sound w n) (hl : f.handle.liveClones = []) :
    f.unmark.Sound w n where
  unmarked _ := rfl
  marked _ hl' := absurd hl hl'
  kept := h.kept
  closed := h.closed
  ended := h.ended
  live := h.live
  waiting_closed := h.waiting_closed

theorem close (h : f.Sound w n) (hc : f.handle.closed = false) :
    f.close.Sound w (n + if f.handle.liveClones = [] then 1 else 0) where
  unmarked _ := rfl
  marked hc' _ := by cases hc'
  kept _ hl := by simpa [Family.close] using hl
  closed _ := rfl
  ended := by
    rw [(h.open_ended hc).2]
    by_cases hl : f.handle.liveClones = [] <;> simp [Family.close, hl]
  live := h.live
  waiting_closed := h.waiting_closed

theorem mark (h : f.Sound w n) (hc : f.handle.closed = false) :
    (f.onHandle fun h => { h with isTemplate := true }).Sound w n where
  unmarked hc' := by
    rw [show f.handle.closed = true from hc'] at hc
    cases hc
  marked _ _ := rfl
  kept := h.kept
  closed := h.closed
  ended := h.ended
  live := h.live
  waiting_closed := h.waiting_closed

theorem addClone (h : f.Sound w n) (hc : f.handle.closed = false)
    (ht : f.handle.isTemplate = true) {c : Clone κ} (ho : c.closed = false) :
    (f.addClone c).Sound w n where
  unmarked := h.unmarked
  marked _ _ := ht
  kept hc' := by
    rw [show f.handle.closed = true from hc'] at hc
    cases hc
  closed := h.closed
  ended := h.ended
  live id := by
    have hl := h.live id
    simp only [Family.addClone, List.mem_append, List.mem_singleton, hl]
    constructor
    · rintro (⟨d, hd, h'⟩ | rfl)
      · exact ⟨d, by rw [List.getElem?_append_left (List.getElem?_eq_some_iff.mp hd).1, hd], h'⟩
      · exact ⟨c, by simp, .inl ho⟩
    · rintro ⟨d, hd, h'⟩
      rw [List.getElem?_append] at hd
      split at hd
      · exact .inl ⟨d, hd, h'⟩
      · rename_i hlt
        have hlt' : id - f.clones.length < 1 := (List.getElem?_eq_some_iff.mp hd).1
        exact .inr (Nat.le_antisymm (Nat.le_of_sub_eq_zero (Nat.lt_one_iff.mp hlt'))
          (Nat.le_of_not_lt hlt))
  waiting_closed id hw := by
    obtain ⟨d, hd, hdc⟩ := h.waiting_closed id hw
    exact ⟨d, (List.getElem?_append_left (List.getElem?_eq_some_iff.mp hd).1).trans hd, hdc⟩

theorem retire (h : f.Sound w n) {id : CloneId} {c : Clone κ} (hc : f.clones[id]? = some c)
    (ho : c.closed = false) : (f.retire id c).Sound (w ++ [id]) n where
  unmarked := h.unmarked
  marked := h.marked
  kept := h.kept
  closed := h.closed
  ended := h.ended
  live i := by
    have hlt := (List.getElem?_eq_some_iff.mp hc).1
    by_cases hi : id = i
    · subst hi
      have : id ∈ f.handle.liveClones := (h.live id).mpr ⟨c, hc, .inl ho⟩
      simp [Family.retire, this, hlt]
    · have hl := h.live i
      simp [Family.retire, hl, List.getElem?_set_ne hi, Ne.symm hi]
  waiting_closed i hw := by
    have hlt := (List.getElem?_eq_some_iff.mp hc).1
    by_cases hi : id = i
    · subst hi
      simp [Family.retire, hlt]
    · simp only [List.mem_append, List.mem_singleton, Ne.symm hi, or_false] at hw
      simpa [Family.retire, List.getElem?_set_ne hi] using h.waiting_closed i hw

theorem forget (h : f.Sound w n) {id : CloneId} (hw : id ∈ w) :
    (f.forget id).Sound (w.filter (· != id)) n where
  unmarked := h.unmarked
  marked hc hl := h.marked hc fun hl' => hl (by simp [Family.forget, hl'])
  kept hc hl := h.kept hc fun hl' => hl (by simp [Family.forget, hl'])
  closed := h.closed
  ended := h.ended
  live i := by
    have hl := h.live i
    simp only [Family.forget, Family.onHandle_handle, Family.onHandle_clones, List.mem_filter, hl]
    by_cases hi : i = id
    · subst hi
      obtain ⟨c, hc, hcc⟩ := h.waiting_closed i hw
      simp [hc, hcc]
    · simp [hi]
  waiting_closed i hi := h.waiting_closed i ((List.mem_filter.mp hi).1)

end Family.Sound

/-! The invariant through the operations. -/

section Steps

variable {f f' : Family ρ κ} {calls : List (Call ρ κ)} {w : List CloneId} {n : Nat}

theorem Closing.sound {r : Except Fault Unit} (h : Closing f r f' calls) (hs : Smooth f calls)
    (hf : f.Sound w n) : f'.Sound w (n + ends calls) := by
  rcases h.outcome hs with ⟨-, rfl, hn⟩ | ⟨hc, hp, hl, rfl, hn⟩ | ⟨hc, hf', hn⟩ | ⟨hc, rfl, hn⟩
  · rw [hn]
    exact hf
  · rw [hn]
    exact hf.unkept hc hp hl
  · rw [hn]
    rcases hf' with rfl | ⟨hl, rfl⟩
    · exact hf
    · exact hf.unmark hl
  · rw [hn]
    exact hf.close hc

theorem Closing.frame {r : Except Fault Unit} (h : Closing f r f' calls) (hs : Smooth f calls) :
    f'.clones = f.clones ∧ f'.handle.container = f.handle.container ∧
      f'.handle.ownsRuntime = f.handle.ownsRuntime ∧
      (f.handle.closed = true → f'.handle.closed = true) := by
  rcases h.outcome hs with ⟨hc, rfl, -⟩ | ⟨hc, -, -, rfl, -⟩ | ⟨hc, rfl | ⟨-, rfl⟩, -⟩ | ⟨-, rfl, -⟩
  · exact ⟨rfl, rfl, rfl, id⟩
  · exact ⟨rfl, rfl, rfl, id⟩
  · exact ⟨rfl, rfl, rfl, id⟩
  · exact ⟨rfl, rfl, rfl, id⟩
  · exact ⟨rfl, rfl, rfl, fun _ => rfl⟩

/-- The outcomes of releasing a clone: it is forgotten, and the container that waited only for it
may be destroyed. -/
theorem Releasing.outcome {id : CloneId} {r : Except Fault Unit} (h : Releasing id f r f' calls)
    (hs : Smooth f calls) :
    (f' = f.forget id ∧ ends calls = 0) ∨
    (f.handle.terminatePending = true ∧ (f.forget id).handle.liveClones = [] ∧
      f' = (f.forget id).unkept ∧ ends calls = 1) := by
  cases h with
  | kept _ => exact .inl ⟨rfl, rfl⟩
  | last hp hl ht =>
    rcases ht.outcome hs with ⟨e, -, rfl, hn⟩ | ⟨-, rfl, hn⟩
    · exact .inl ⟨rfl, hn⟩
    · exact .inr ⟨hp, hl, rfl, hn⟩

theorem Releasing.sound {id : CloneId} {r : Except Fault Unit} (h : Releasing id f r f' calls)
    (hs : Smooth f calls) (hf : f.Sound w n) (hw : id ∈ w) :
    f'.Sound (w.filter (· != id)) (n + ends calls) := by
  rcases h.outcome hs with ⟨rfl, hn⟩ | ⟨hp, hl, rfl, hn⟩
  · rw [hn]
    exact hf.forget hw
  · rw [hn]
    exact (hf.forget hw).unkept (hf.closed hp) hp hl

theorem Releasing.frame {id : CloneId} {r : Except Fault Unit} (h : Releasing id f r f' calls)
    (hs : Smooth f calls) :
    f'.clones = f.clones ∧ f'.handle.container = f.handle.container ∧
      f'.handle.ownsRuntime = f.handle.ownsRuntime ∧ f'.handle.closed = f.handle.closed := by
  rcases h.outcome hs with ⟨rfl, -⟩ | ⟨-, -, rfl, -⟩ <;> exact ⟨rfl, rfl, rfl, rfl⟩

theorem Releasing.terminates {id : CloneId} {r : Except Fault Unit}
    (h : Releasing id f r f' calls) {c : ρ} {r' : Except Fault Unit}
    (hc : .terminate c r' ∈ calls) :
    c = f.handle.container ∧ (f.forget id).handle.liveClones = [] := by
  cases h with
  | kept _ => cases hc
  | last _ hl ht => exact ⟨ht.terminates.2 c r' hc, hl⟩

theorem Dropping.not_terminates {c : Clone κ} {r : Except Fault Unit}
    (h : Dropping c r calls) : ends calls = 0 ∧ ∀ d r', .terminate d r' ∉ calls := by
  cases h <;> simp [Call.isEnd]

/-- The outcomes of the first half of closing a clone: nothing changes, or an open clone is
closed. -/
theorem Retiring.outcome {id : CloneId} {r : Except Fault Bool} (h : Retiring id f r f' calls) :
    ((r ≠ .ok true ∧ f' = f) ∨
      (r = .ok true ∧ ∃ c, f.clones[id]? = some c ∧ c.closed = false ∧ f' = f.retire id c)) ∧
    ends calls = 0 ∧ ∀ d r', .terminate d r' ∉ calls := by
  cases h with
  | idle _ => exact ⟨.inl ⟨by simp, rfl⟩, rfl, by simp⟩
  | failed _ _ hd => exact ⟨.inl ⟨by simp, rfl⟩, hd.not_terminates⟩
  | done hc ho hd => exact ⟨.inr ⟨rfl, _, hc, ho, rfl⟩, hd.not_terminates⟩

/-- The outcomes of a promotion: nothing changes, or an open instance is marked. -/
theorem Promoting.outcome {e? : Option Fault} {r : Except Fault Unit}
    (h : Promoting e? f r f' calls) :
    (f' = f ∨ f.handle.closed = false ∧ f' = f.onHandle fun h => { h with isTemplate := true }) ∧
    ends calls = 0 ∧ ∀ d r', .terminate d r' ∉ calls := by
  cases h with
  | done _ hc _ => exact ⟨.inr ⟨hc, rfl⟩, rfl, by simp⟩
  | unsupported _ => exact ⟨.inl rfl, rfl, by simp⟩
  | closed _ _ => exact ⟨.inl rfl, rfl, by simp⟩
  | already _ _ _ => exact ⟨.inl rfl, rfl, by simp⟩
  | failed e _ _ _ => exact ⟨.inl rfl, rfl, by simp⟩

theorem Promoting.sound {e? : Option Fault} {r : Except Fault Unit}
    (h : Promoting e? f r f' calls) (hf : f.Sound w n) : f'.Sound w (n + ends calls) := by
  obtain ⟨hf', hn, -⟩ := h.outcome
  rw [hn]
  rcases hf' with rfl | ⟨hc, rfl⟩
  · exact hf
  · exact hf.mark hc

theorem Connecting.not_terminates {info : ConnectionInfo} {r : Except Fault κ}
    (h : Connecting info r calls) : ends calls = 0 ∧ ∀ d r', .terminate d r' ∉ calls := by
  cases h <;> simp [Call.isEnd]

/-- The outcomes of making a clone: nothing changes, or a clone of an open template is added. -/
theorem Cloning.outcome {info? : Handle ρ κ → Except Fault ConnectionInfo}
    {r : Except Fault CloneId} (h : Cloning info? f r f' calls) :
    (((∃ e, r = .error e) ∧ f' = f) ∨
      (r = .ok f.clones.length ∧ f.handle.closed = false ∧ f.handle.isTemplate = true ∧
        ∃ c, c.closed = false ∧ f' = f.addClone c)) ∧
    ends calls = 0 ∧ ∀ d r', .terminate d r' ∉ calls := by
  cases h with
  | closed _ => exact ⟨.inl ⟨⟨_, rfl⟩, rfl⟩, rfl, by simp⟩
  | notTemplate _ _ => exact ⟨.inl ⟨⟨_, rfl⟩, rfl⟩, rfl, by simp⟩
  | unnamed e _ _ => exact ⟨.inl ⟨⟨_, rfl⟩, rfl⟩, rfl, by simp⟩
  | copyFailed name e _ _ => exact ⟨.inl ⟨⟨_, rfl⟩, rfl⟩, rfl, by simp⟩
  | noInfo name e _ _ _ => exact ⟨.inl ⟨⟨_, rfl⟩, rfl⟩, rfl, by simp⟩
  | notConnected name _ _ _ hk =>
    obtain ⟨hn, ht⟩ := hk.not_terminates
    exact ⟨.inl ⟨⟨_, rfl⟩, rfl⟩, by simp [hn, Call.isEnd], by simp [ht]⟩
  | done name hc ht _ hk =>
    obtain ⟨hn, ht'⟩ := hk.not_terminates
    exact ⟨.inr ⟨rfl, hc, ht, _, rfl, rfl⟩, by simp [hn, Call.isEnd], by simp [ht']⟩

theorem Cloning.sound {info? : Handle ρ κ → Except Fault ConnectionInfo} {r : Except Fault CloneId}
    (h : Cloning info? f r f' calls) (hf : f.Sound w n) : f'.Sound w (n + ends calls) := by
  obtain ⟨hf', hn, -⟩ := h.outcome
  rw [hn]
  rcases hf' with ⟨-, rfl⟩ | ⟨-, hc, ht, c, ho, rfl⟩
  · exact hf
  · exact hf.addClone hc ht ho

/-- The outcomes of closing a clone: nothing changes, or an open clone is closed and released. -/
theorem ClosingClone.outcome {id : CloneId} {r : Except Fault Unit}
    (h : ClosingClone id f r f' calls) :
    (f' = f ∧ ends calls = 0 ∧ ∀ d r', .terminate d r' ∉ calls) ∨
    ∃ c first second, calls = first ++ second ∧ ends first = 0 ∧
      (∀ d r', .terminate d r' ∉ first) ∧ f.clones[id]? = some c ∧ c.closed = false ∧
      Releasing id (f.retire id c) r f' second := by
  cases h with
  | idle ht =>
    obtain ⟨⟨-, rfl⟩ | ⟨hr, -⟩, hn⟩ := ht.outcome
    · exact .inl ⟨rfl, hn⟩
    · cases hr
  | failed ht =>
    obtain ⟨⟨-, rfl⟩ | ⟨hr, -⟩, hn⟩ := ht.outcome
    · exact .inl ⟨rfl, hn⟩
    · cases hr
  | done ht hl =>
    obtain ⟨⟨hr, -⟩ | ⟨-, c, hc, ho, rfl⟩, hn, hnt⟩ := ht.outcome
    · exact absurd rfl hr
    · exact .inr ⟨c, _, _, rfl, hn, hnt, hc, ho, hl⟩

theorem ClosingClone.sound {id : CloneId} {r : Except Fault Unit}
    (h : ClosingClone id f r f' calls) (hs : Smooth f calls) (hf : f.Sound [] n) :
    f'.Sound [] (n + ends calls) := by
  obtain ⟨rfl, hn, -⟩ | ⟨c, first, second, rfl, hn, -, hc, ho, t⟩ := h.outcome
  · rw [hn]
    exact hf
  · have hs' : Smooth (f.retire id c) second := fun ho e he =>
      hs ho e (List.mem_append_right _ he)
    have hf' := t.sound hs' (hf.retire hc ho) (by simp)
    rw [ends_append, hn, Nat.zero_add]
    simpa using hf'

end Steps

end Testbed
