import Testbed.Proofs.Instance.Lifetime
import Testbed.Proofs.Start.Teardown

/-!
# Closing again

Closing an instance that fails leaves everything but its template flag as it was, so it can be
tried again.  Once it returned, the instance stays closed in every run: nothing is promoted or
cloned any more, and closing it again makes no call but a termination that is still to be done.
-/

namespace Testbed

set_option autoImplicit false

open Act

variable {η ρ κ σ α N : Type}

/-- Whatever the calls that close an instance raise is an ordinary fault. -/
structure Backing.ClosesOrdinarily (b : Backing η ρ κ σ) : Prop where
  setTemplate : ∀ h flag s e, (b.service.setTemplate h flag s).1 = .error e → e.isOrdinary = true
  terminate : ∀ c s e, (b.runtime.terminate c s).1 = .error e → e.isOrdinary = true
  closeClient : ∀ c s e, (b.service.closeClient c s).1 = .error e → e.isOrdinary = true

/-- The template flag was taken back by some calls, or the server that keeps it was not there. -/
def Reverted (h : Handle ρ κ) (calls : List (Call ρ κ)) : Prop :=
  ∃ r, .setTemplate h false r ∈ calls ∧ ∀ e, r = .error e → e.isTransport = true

/-- Some call took a template flag back, or tried to. -/
def Unmarks (calls : List (Call ρ κ)) : Prop := ∃ h r, .setTemplate h false r ∈ calls

/-- Some call made an instance a template. -/
def Promotes (calls : List (Call ρ κ)) : Prop := ∃ h, .setTemplate h true (.ok ()) ∈ calls

/-! What is noted after some earlier calls. -/

def Since (first : List N) (P : N → Prop) (o : List N × σ) : Prop :=
  ∃ l, o.1 = first ++ l ∧ ∀ n ∈ l, P n

theorem noted_since {first : List N} {P : N → Prop} {x : Act σ α} {note : Except Fault α → N}
    (h : ∀ s, P (note (x s).1)) : Keeps (Since first P) (x.noted note) := by
  refine .noted fun m s => ?_
  rintro ⟨l, rfl, hl⟩
  refine ⟨l ++ [note (x s).1], List.append_assoc _ _ _, fun n hn => ?_⟩
  rcases List.mem_append.mp hn with hn | hn
  · exact hl n hn
  · rw [List.mem_singleton.mp hn]
    exact h s

variable {b : Backing η ρ κ σ}

/-- The calls that close an instance raise ordinary faults, the own runtime apart. -/
theorem Backing.ClosesOrdinarily.since (ho : b.ClosesOrdinarily) (first : List (Call ρ κ)) :
    b.recorded.KeepsClosing (Since first fun c =>
      ∀ e, c.fault? = some e → e.isOrdinary = true ∨ c = .closeRuntime (.error e)) where
  closeClient c := noted_since fun s e he => by
    rcases h : (b.service.closeClient c s).1 with d | ⟨⟩ <;> rw [h] at he <;> cases he
    exact .inl (ho.closeClient c s _ h)
  setTemplate hd flag := noted_since fun s e he => by
    rcases h : (b.service.setTemplate hd flag s).1 with d | ⟨⟩ <;> rw [h] at he <;> cases he
    exact .inl (ho.setTemplate hd flag s _ h)
  terminate c := noted_since fun s e he => by
    rcases h : (b.runtime.terminate c s).1 with d | ⟨⟩ <;> rw [h] at he <;> cases he
    exact .inl (ho.terminate c s _ h)
  close := noted_since fun s e he => by
    rcases h : (b.runtime.close s).1 with d | ⟨⟩ <;> rw [h] at he <;> cases he
    exact .inr rfl
  write _ _ _ _ hs := hs

/-- A runtime that closes says so each time. -/
theorem close_since (hb : ∀ s, (b.runtime.close s).1 = .ok ()) (first : List (Call ρ κ)) :
    b.recorded.KeepsClosing (Since first fun c => ∀ e, c ≠ .closeRuntime (.error e)) where
  closeClient _ := noted_since fun _ _ => nofun
  setTemplate _ _ := noted_since fun _ _ => nofun
  terminate _ := noted_since fun _ _ => nofun
  close := noted_since fun s e h => by
    rw [hb s] at h
    cases h
  write _ _ _ _ hs := hs

/-! One closing. -/

section Closing

variable {f f' : Family ρ κ} {r : Except Fault Unit} {e : Fault} {calls : List (Call ρ κ)}
  {c : Call ρ κ}

theorem Terminating.calls_eq (h : Terminating f r f' calls) (hc : c ∈ calls) :
    (∃ q, c = .terminate f.handle.container q) ∨
      f.handle.ownsRuntime = true ∧ ∃ q, c = .closeRuntime q := by
  cases h with
  | failed d => exact .inl ⟨_, List.mem_singleton.mp hc⟩
  | done _ => exact .inl ⟨_, List.mem_singleton.mp hc⟩
  | ownRuntime q ho =>
    rcases List.mem_pair.mp hc with rfl | rfl
    · exact .inl ⟨_, rfl⟩
    · exact .inr ⟨ho, _, rfl⟩

theorem Ending.calls_eq (h : Ending f r f' calls) (hc : c ∈ calls) :
    (∃ q, c = .terminate f.handle.container q) ∨
      f.handle.ownsRuntime = true ∧ ∃ q, c = .closeRuntime q := by
  cases h with
  | kept _ => cases hc
  | ended _ ht => exact ht.calls_eq hc

theorem Reverting.calls_eq (h : Reverting f r f' calls) (hc : c ∈ calls) :
    f.handle.isTemplate = true ∧ ∃ q, c = .setTemplate f.handle false q := by
  cases h with
  | unmarked _ => cases hc
  | done ht => exact ⟨ht, _, List.mem_singleton.mp hc⟩
  | unreachable _ ht _ _ => exact ⟨ht, _, List.mem_singleton.mp hc⟩
  | failed _ ht _ => exact ⟨ht, _, List.mem_singleton.mp hc⟩

/-- Closing the client raises nothing but an interruption of that call. -/
theorem Dismissing.calls_eq (h : Dismissing f r f' calls) (hc : c ∈ calls) :
    (∃ client q, c = .closeClient client q) ∧
      ∀ e, r = .error e → c.fault? = some e ∧ e.isOrdinary = false := by
  cases h with
  | absent _ => cases hc
  | closed q _ _ =>
    obtain rfl := List.mem_singleton.mp hc
    exact ⟨⟨_, q, rfl⟩, fun e he => by cases he⟩
  | interrupted d _ hi =>
    obtain rfl := List.mem_singleton.mp hc
    refine ⟨⟨_, _, rfl⟩, fun e he => ?_⟩
    cases he
    exact ⟨rfl, hi⟩

theorem Reverting.ownsRuntime_eq (h : Reverting f r f' calls) :
    f'.handle.ownsRuntime = f.handle.ownsRuntime := by
  cases h <;> rfl

/-- What each call of a closing is. -/
theorem Closing.calls_eq (h : Closing f r f' calls) (hc : c ∈ calls) :
    (f.handle.isTemplate = true ∧ ∃ q, c = .setTemplate f.handle false q) ∨
    (∃ q, c = .terminate f.handle.container q) ∨
    (f.handle.ownsRuntime = true ∧ ∃ q, c = .closeRuntime q) ∨
    ((∃ client q, c = .closeClient client q) ∧
      ∀ e, r = .error e → c.fault? = some e ∧ e.isOrdinary = false) := by
  cases h with
  | again _ _ => cases hc
  | retried _ _ _ ht => exact .inr ((ht.calls_eq hc).imp_right .inl)
  | refused _ hr => exact .inl (hr.calls_eq hc)
  | failed _ hr he =>
    rcases List.mem_append.mp hc with hc | hc
    · exact .inl (hr.calls_eq hc)
    · rw [← hr.frame.1, ← hr.ownsRuntime_eq]
      exact .inr ((he.calls_eq hc).imp_right .inl)
  | done _ hr he hd =>
    rcases List.mem_append.mp hc with hc | hc
    · rcases List.mem_append.mp hc with hc | hc
      · exact .inl (hr.calls_eq hc)
      · rw [← hr.frame.1, ← hr.ownsRuntime_eq]
        exact .inr ((he.calls_eq hc).imp_right .inl)
    · exact .inr (.inr (.inr (hd.calls_eq hc)))

/-- Only an own runtime is closed with an instance. -/
theorem Closing.ownsRuntime (h : Closing f r f' calls) {q : Except Fault Unit}
    (hq : .closeRuntime q ∈ calls) : f.handle.ownsRuntime = true := by
  obtain ⟨-, _, hc⟩ | ⟨_, hc⟩ | ⟨ho, -⟩ | ⟨⟨_, _, hc⟩, -⟩ := h.calls_eq hq
  · cases hc
  · cases hc
  · exact ho
  · cases hc

/-- Reverting that returns leaves no template: the flag was not set, or it was taken back. -/
theorem Reverting.returned (h : Reverting f (.ok ()) f' calls) :
    f'.handle.isTemplate = false ∧
      (f' = f ∨ f.handle.isTemplate = true ∧ Reverted f.handle calls ∧ f' = f.unmark) := by
  cases h with
  | unmarked ht => exact ⟨ht, .inl rfl⟩
  | done ht => exact ⟨rfl, .inr ⟨ht, ⟨_, List.mem_cons_self, fun e he => by cases he⟩, rfl⟩⟩
  | unreachable e ht _ hr =>
    refine ⟨rfl, .inr ⟨ht, ⟨_, List.mem_cons_self, fun d hd => ?_⟩, rfl⟩⟩
    cases hd
    exact hr

/-- Terminating that fails changes nothing, unless the own runtime failed to close. -/
theorem Terminating.raised (h : Terminating f (.error e) f' calls)
    (hr : ∀ d, .closeRuntime (.error d) ∉ calls) : f' = f := by
  cases h with
  | failed _ => rfl
  | ownRuntime q _ => exact absurd (by simp) (hr e)

theorem Terminating.isTemplate_eq (h : Terminating f r f' calls) :
    f'.handle.isTemplate = f.handle.isTemplate := by
  cases h <;> rfl

theorem Ending.isTemplate_eq (h : Ending f r f' calls) :
    f'.handle.isTemplate = f.handle.isTemplate := by
  cases h with
  | kept _ => rfl
  | ended _ ht => exact ht.isTemplate_eq

/-- Closing that fails changes nothing, or has only taken the template flag back.  The client is
not closed. -/
theorem Closing.raised (h : Closing f (.error e) f' calls)
    (ho : ∀ c ∈ calls, ∀ d, c.fault? = some d → d.isOrdinary = true)
    (hr : ∀ d, .closeRuntime (.error d) ∉ calls) :
    (∀ c q, .closeClient c q ∉ calls) ∧
      (f' = f ∨ f.handle.isTemplate = true ∧ Reverted f.handle calls ∧ f' = f.unmark) := by
  have closeClient : ∀ c q, .closeClient c q ∉ calls := by
    intro c q hm
    obtain ⟨-, _, hc⟩ | ⟨_, hc⟩ | ⟨-, _, hc⟩ | ⟨-, hi⟩ := h.calls_eq hm
    · cases hc
    · cases hc
    · cases hc
    · obtain ⟨hf, hi⟩ := hi e rfl
      rw [ho _ hm e hf] at hi
      cases hi
  refine ⟨closeClient, ?_⟩
  cases h with
  | retried _ _ _ ht => exact .inl (ht.raised hr)
  | refused _ hrev =>
    cases hrev with
    | failed _ _ _ => exact .inl rfl
  | failed _ hrev he =>
    cases he with
    | ended _ ht =>
      obtain rfl := ht.raised fun d hd => hr d (List.mem_append_right _ hd)
      rcases hrev.returned.2 with rfl | ⟨hm, ⟨q, hq, hq'⟩, rfl⟩
      · exact .inl rfl
      · exact .inr ⟨hm, ⟨q, List.mem_append_left _ hq, hq'⟩, rfl⟩
  | done _ _ _ hd =>
    cases hd with
    | interrupted _ _ _ =>
      exact absurd (List.mem_append_right _ List.mem_cons_self) (closeClient _ _)

/-- Closing that returns leaves a closed instance. -/
theorem Closing.returned (h : Closing f (.ok ()) f' calls) : f'.handle.closed = true := by
  cases h with
  | again hc _ => exact hc
  | retried hc _ _ ht => cases ht <;> exact hc
  | done _ _ _ hd =>
    obtain ⟨rfl, -⟩ := hd.outcome
    rfl

/-- Closing a closed instance makes no call but the termination that is still to be done. -/
theorem Closing.of_closed (h : Closing f r f' calls) (hc : f.handle.closed = true) :
    if f.handle.terminatePending = true ∧ f.handle.liveClones = [] then Terminating f r f' calls
    else r = .ok () ∧ f' = f ∧ calls = [] := by
  cases h with
  | again _ hp =>
    rw [if_neg fun h => hp h.1 h.2]
    exact ⟨rfl, rfl, rfl⟩
  | retried _ hp hl ht =>
    rw [if_pos ⟨hp, hl⟩]
    exact ht
  | refused ho _ => simp [hc] at ho
  | failed ho _ _ => simp [hc] at ho
  | done ho _ _ _ => simp [hc] at ho

/-- After a closing that took the template flag back, the instance is no template. -/
theorem Closing.unmarked (h : Closing f r f' calls)
    (ho : ∀ c ∈ calls, ∀ d, c.fault? = some d → d.isOrdinary = true)
    (hr : Reverted f.handle calls) : f'.handle.isTemplate = false := by
  obtain ⟨q, hm, hq⟩ := hr
  cases h with
  | again _ _ => cases hm
  | retried _ _ _ ht => obtain ⟨_, hc⟩ | ⟨-, _, hc⟩ := ht.calls_eq hm <;> cases hc
  | refused _ hrev =>
    cases hrev with
    | failed e _ hn =>
      cases List.mem_singleton.mp hm
      have hi := hn (ho _ hm e rfl)
      rw [hq e rfl] at hi
      cases hi
  | failed _ hrev he => exact he.isTemplate_eq.trans hrev.returned.1
  | done _ hrev he hd =>
    obtain ⟨rfl, -⟩ := hd.outcome
    exact he.isTemplate_eq.trans hrev.returned.1

end Closing

/-- One closing, with what is known of its calls. -/
theorem closeInstance_ordinary (ho : b.ClosesOrdinarily) {f : Family ρ κ}
    (hb : f.handle.ownsRuntime = true → ∀ s, (b.runtime.close s).1 = .ok ())
    (l : List (Call ρ κ)) (s : σ) :
    ∃ r f' calls s', closeInstance b.recorded (f, (l, s)) = (r, (f', (l ++ calls, s'))) ∧
      Closing f r f' calls ∧ (∀ c ∈ calls, ∀ e, c.fault? = some e → e.isOrdinary = true) ∧
      ∀ e, .closeRuntime (.error e) ∉ calls := by
  obtain ⟨r, f', calls, s', h, t⟩ := closeInstance_takes b f l s
  have start (P : Call ρ κ → Prop) : Since l P (l, s) :=
    ⟨[], (List.append_nil _).symm, fun _ hc => by cases hc⟩
  have closes : ∀ e, .closeRuntime (.error e) ∉ calls := by
    intro e he
    have hs := closeInstance_keeps (close_since (hb (t.ownsRuntime he)) l) (f, (l, s)) (start _)
    rw [h] at hs
    obtain ⟨_, hl, hc⟩ := hs
    rw [← List.append_cancel_left hl] at hc
    exact hc _ he e rfl
  have hs := closeInstance_keeps (ho.since l) (f, (l, s)) (start _)
  rw [h] at hs
  obtain ⟨_, hl, hc⟩ := hs
  rw [← List.append_cancel_left hl] at hc
  refine ⟨r, f', calls, s', h, t, fun c hm e he => ?_, closes⟩
  rcases hc c hm e he with hi | rfl
  · exact hi
  · exact absurd hm (closes e)

/-! The template flag in a run. -/

/-- An instance that is no template stays so unless some call makes it one, and its flag is not
taken back. -/
def StaysUnmarked (f f' : Family ρ κ) (calls : List (Call ρ κ)) : Prop :=
  f.handle.isTemplate = false → ¬ Promotes calls →
    f'.handle.isTemplate = false ∧ ¬ Unmarks calls

namespace StaysUnmarked

variable {f f' f'' : Family ρ κ} {calls calls' : List (Call ρ κ)}

/-- Calls that do not touch the flag. -/
theorem of_eq (hf : f'.handle.isTemplate = f.handle.isTemplate)
    (hc : ∀ h flag r, .setTemplate h flag r ∉ calls) : StaysUnmarked f f' calls :=
  fun ht _ => ⟨hf.trans ht, fun ⟨h, r, hm⟩ => hc h false r hm⟩

theorem trans (h : StaysUnmarked f f' calls) (h' : StaysUnmarked f' f'' calls') :
    StaysUnmarked f f'' (calls ++ calls') := by
  intro ht hp
  obtain ⟨ht', hu⟩ := h ht fun ⟨hd, hm⟩ => hp ⟨hd, List.mem_append_left _ hm⟩
  obtain ⟨ht'', hu'⟩ := h' ht' fun ⟨hd, hm⟩ => hp ⟨hd, List.mem_append_right _ hm⟩
  refine ⟨ht'', fun ⟨hd, r, hm⟩ => ?_⟩
  rcases List.mem_append.mp hm with hm | hm
  · exact hu ⟨hd, r, hm⟩
  · exact hu' ⟨hd, r, hm⟩

end StaysUnmarked

section Courses

variable {f f' : Family ρ κ} {calls : List (Call ρ κ)}

theorem Promoting.staysUnmarked {e? : Option Fault} {r : Except Fault Unit}
    (h : Promoting e? f r f' calls) : StaysUnmarked f f' calls := by
  cases h with
  | unsupported _ => exact .of_eq rfl (by simp)
  | closed _ _ => exact .of_eq rfl (by simp)
  | already _ _ _ => exact .of_eq rfl (by simp)
  | failed e _ _ _ =>
    intro ht _
    refine ⟨ht, fun ⟨hd, q, hm⟩ => ?_⟩
    cases List.mem_singleton.mp hm
  | done _ _ _ => exact fun _ hp => absurd ⟨_, List.mem_cons_self⟩ hp

theorem Connecting.not_setTemplate {info : ConnectionInfo} {r : Except Fault κ}
    (h : Connecting info r calls) (hd : Handle ρ κ) (flag : Bool) (q : Except Fault Unit) :
    .setTemplate hd flag q ∉ calls := by
  cases h <;> simp

theorem Cloning.staysUnmarked {info? : Handle ρ κ → Except Fault ConnectionInfo}
    {r : Except Fault CloneId} (h : Cloning info? f r f' calls) : StaysUnmarked f f' calls := by
  cases h with
  | closed _ => exact .of_eq rfl (by simp)
  | notTemplate _ _ => exact .of_eq rfl (by simp)
  | unnamed e _ _ => exact .of_eq rfl (by simp)
  | copyFailed name e _ _ => exact .of_eq rfl (by simp)
  | noInfo name e _ _ _ => exact .of_eq rfl (by simp)
  | notConnected name _ _ _ hk => exact .of_eq rfl (by simpa using hk.not_setTemplate)
  | done name _ _ _ hk => exact .of_eq rfl (by simpa using hk.not_setTemplate)

theorem Terminating.staysUnmarked {r : Except Fault Unit} (h : Terminating f r f' calls) :
    StaysUnmarked f f' calls := by
  refine .of_eq h.isTemplate_eq fun hd flag q hm => ?_
  obtain ⟨_, hc⟩ | ⟨-, _, hc⟩ := h.calls_eq hm <;> cases hc

theorem Closing.staysUnmarked {r : Except Fault Unit} (h : Closing f r f' calls) :
    StaysUnmarked f f' calls := by
  intro ht _
  refine ⟨?_, fun ⟨hd, q, hm⟩ => ?_⟩
  · cases h with
    | again _ _ => exact ht
    | retried _ _ _ hte => exact hte.isTemplate_eq.trans ht
    | refused _ hr =>
      cases hr with
      | failed _ _ _ => exact ht
    | failed _ hr he => exact he.isTemplate_eq.trans hr.returned.1
    | done _ hr he hd =>
      obtain ⟨rfl, -⟩ := hd.outcome
      exact he.isTemplate_eq.trans hr.returned.1
  · obtain ⟨ht', -⟩ | ⟨_, hc⟩ | ⟨-, _, hc⟩ | ⟨⟨_, _, hc⟩, -⟩ := h.calls_eq hm
    · rw [ht] at ht'
      cases ht'
    · cases hc
    · cases hc
    · cases hc

theorem Retiring.staysUnmarked {id : CloneId} {r : Except Fault Bool}
    (h : Retiring id f r f' calls) : StaysUnmarked f f' calls := by
  have dropping {c : Clone κ} {q : Except Fault Unit} (hd : Dropping c q calls)
      (hd' : Handle ρ κ) (flag : Bool) (q' : Except Fault Unit) :
      .setTemplate hd' flag q' ∉ calls := by
    cases hd <;> simp
  cases h with
  | idle _ => exact .of_eq rfl (by simp)
  | failed _ _ hd => exact .of_eq rfl (dropping hd)
  | done _ _ hd => exact .of_eq rfl (dropping hd)

theorem Releasing.staysUnmarked {id : CloneId} {r : Except Fault Unit}
    (h : Releasing id f r f' calls) : StaysUnmarked f f' calls := by
  cases h with
  | kept _ => exact .of_eq rfl (by simp)
  | last _ _ ht => exact ht.staysUnmarked

/-- A closed instance is not promoted, and no call is made for it. -/
theorem Promoting.of_closed {e? : Option Fault} {r : Except Fault Unit}
    (h : Promoting e? f r f' calls) (hc : f.handle.closed = true) :
    (∃ e, r = .error e) ∧ calls = [] := by
  cases h with
  | unsupported _ => exact ⟨⟨_, rfl⟩, rfl⟩
  | closed _ _ => exact ⟨⟨_, rfl⟩, rfl⟩
  | already _ ho _ => simp [hc] at ho
  | failed _ _ ho _ => simp [hc] at ho
  | done _ ho _ => simp [hc] at ho

theorem Cloning.of_closed {info? : Handle ρ κ → Except Fault ConnectionInfo}
    {r : Except Fault CloneId} (h : Cloning info? f r f' calls) (hc : f.handle.closed = true) :
    r = .error f.handle.alreadyClosed ∧ calls = [] := by
  cases h with
  | closed _ => exact ⟨rfl, rfl⟩
  | notTemplate ho _ => simp [hc] at ho
  | unnamed _ ho _ => simp [hc] at ho
  | copyFailed _ _ ho _ => simp [hc] at ho
  | noInfo _ _ ho _ _ => simp [hc] at ho
  | notConnected _ ho _ _ _ => simp [hc] at ho
  | done _ ho _ _ _ => simp [hc] at ho

end Courses

namespace Moment

/-- A closed instance stays closed in every run. -/
theorem run_closed (b : Backing η ρ κ σ) {m : Moment ρ κ (Recorded ρ κ σ)}
    (hb : RuntimeCloses b m) (h : m.Sound) (hc : m.family.handle.closed = true)
    (xs : List Section) : (m.run b.recorded xs).family.handle.closed = true := by
  induction xs generalizing m with
  | nil => exact hc
  | cons x xs ih =>
    obtain ⟨calls, hx⟩ := after_step b hb h x
    exact ih (fun ho => hb (hx.ownsRuntime ▸ ho)) (hx.sound_after b hb h) (hx.closed hc).1

/-- One section, whichever it is. -/
theorem after_staysUnmarked (b : Backing η ρ κ σ) (m : Moment ρ κ (Recorded ρ κ σ)) (x : Section) :
    ∃ calls, (m.after b.recorded x).outside.1 = m.outside.1 ++ calls ∧
      StaysUnmarked m.family (m.after b.recorded x).family calls := by
  cases x with
  | promote =>
    obtain ⟨r, f', calls, s', hx, t⟩ := promote_takes b m.family m.outside.1 m.outside.2
    exact ⟨calls, by simp only [after, hx, moved], by simp only [after, hx]; exact t.staysUnmarked⟩
  | clone =>
    obtain ⟨r, f', calls, s', hx, t⟩ := cloneTemplate_takes b m.family m.outside.1 m.outside.2
    refine ⟨calls, ?_, ?_⟩ <;> rcases r with e | id <;> simp only [after, hx, moved]
    · exact t.staysUnmarked
    · exact t.staysUnmarked
  | close =>
    obtain ⟨r, f', calls, s', hx, t⟩ := closeInstance_takes b m.family m.outside.1 m.outside.2
    exact ⟨calls, by simp only [after, hx, moved], by simp only [after, hx]; exact t.staysUnmarked⟩
  | retire id =>
    obtain ⟨r, f', calls, s', hx, t⟩ := retireClone_takes b id m.family m.outside.1 m.outside.2
    refine ⟨calls, ?_, ?_⟩ <;> rcases r with e | _ | _ <;> simp only [after, hx, moved]
    · exact t.staysUnmarked
    · exact t.staysUnmarked
    · exact t.staysUnmarked
  | release id =>
    by_cases hw : id ∈ m.waiting
    · obtain ⟨r, f', calls, s', hx, t⟩ := releaseClone_takes b id m.family m.outside.1 m.outside.2
      refine ⟨calls, ?_, ?_⟩ <;> simp only [after, if_pos hw, hx, moved]
      exact t.staysUnmarked
    · refine ⟨[], ?_, ?_⟩ <;> simp only [after, if_neg hw]
      · exact (List.append_nil _).symm
      · exact .of_eq rfl (by simp)

theorem run_staysUnmarked (b : Backing η ρ κ σ) (m : Moment ρ κ (Recorded ρ κ σ))
    (xs : List Section) : ∃ calls, (m.run b.recorded xs).outside.1 = m.outside.1 ++ calls ∧
      StaysUnmarked m.family (m.run b.recorded xs).family calls := by
  induction xs generalizing m with
  | nil => exact ⟨[], (List.append_nil _).symm, .of_eq rfl (by simp)⟩
  | cons x xs ih =>
    obtain ⟨first, hf, h⟩ := after_staysUnmarked b m x
    obtain ⟨rest, hr, h'⟩ := ih (m.after b.recorded x)
    exact ⟨first ++ rest, by rw [← List.append_assoc, ← hf, ← hr]; rfl, h.trans h'⟩

end Moment

open Moment

/-- Closing can be retried and takes effect once, after every sequence of sections and for every
outcome of the calls.  When it fails, nothing has changed but that the template flag may have been
taken back.  When it returns, the instance is closed, and it stays so in every run; then nothing
is promoted or cloned, and closing makes no call but the termination that is still to be done.
Once the template flag was taken back, it is not taken back again unless the instance was made a
template in between. -/
theorem close_retryable (b : Backing η ρ κ σ) (f : Family ρ κ) (s : σ) (xs : List Section)
    (hf : f.Fresh) (ho : b.ClosesOrdinarily) (hb : RuntimeCloses b (fresh f s)) :
    let m := (fresh f s).run b.recorded xs
    let h := m.family.handle
    (∃ r f' calls s', closeInstance b.recorded (m.family, m.outside) =
        (r, (f', (m.outside.1 ++ calls, s'))) ∧
      (∀ e, r = .error e → e.IsTeardown ∧ (∀ c q, .closeClient c q ∉ calls) ∧
        (f' = m.family ∨ h.isTemplate = true ∧ Reverted h calls ∧ f' = m.family.unmark)) ∧
      (r = .ok () → f'.handle.closed = true) ∧
      (h.closed = true →
        if h.terminatePending = true ∧ h.liveClones = [] then Terminating m.family r f' calls
        else r = .ok () ∧ f' = m.family ∧ calls = []) ∧
      ∀ ys, ∃ later,
        ((m.after b.recorded .close).run b.recorded ys).outside.1 =
          m.outside.1 ++ calls ++ later ∧
        (Reverted h calls → ¬ Promotes later → ¬ Unmarks later)) ∧
    (h.closed = true →
      (∀ ys, (m.run b.recorded ys).family.handle.closed = true) ∧
      (∃ e, (promote b.recorded (m.family, m.outside)).1 = .error e ∧
        (m.after b.recorded .promote).outside.1 = m.outside.1) ∧
      (cloneTemplate b.recorded (m.family, m.outside)).1 = .error h.alreadyClosed ∧
      (m.after b.recorded .clone).outside.1 = m.outside.1) := by
  intro m h
  obtain ⟨hm, hr, -, -⟩ : m.Sound ∧ RuntimeCloses b m ∧ _ := run_sound b hb (hf.sound s) xs
  refine ⟨?_, fun hc => ⟨fun ys => ?_, ?_, ?_⟩⟩
  · obtain ⟨r, f', calls, s', hx, t, hcalls, hcloses⟩ :=
      closeInstance_ordinary ho hr m.outside.1 m.outside.2
    refine ⟨r, f', calls, s', hx, ?_, ?_, t.of_closed, fun ys => ?_⟩
    · rintro e rfl
      exact ⟨t.isTeardown hcalls hcloses, t.raised hcalls hcloses⟩
    · rintro rfl
      exact t.returned
    · obtain ⟨later, hl, hu⟩ := run_staysUnmarked b (m.after b.recorded .close) ys
      have hclose : m.after b.recorded .close = m.moved (f', (m.outside.1 ++ calls, s')) := by
        simp only [after, hx]
      rw [hclose] at hl hu ⊢
      exact ⟨later, hl, fun hrev hp => (hu (t.unmarked hcalls hrev) hp).2⟩
  · exact run_closed b hr hm hc ys
  · obtain ⟨r, f', calls, s', hx, t⟩ := promote_takes b m.family m.outside.1 m.outside.2
    obtain ⟨⟨e, rfl⟩, rfl⟩ := t.of_closed hc
    refine ⟨e, by rw [hx], ?_⟩
    simp only [after, hx, moved, List.append_nil]
  · obtain ⟨r, f', calls, s', hx, t⟩ := cloneTemplate_takes b m.family m.outside.1 m.outside.2
    obtain ⟨rfl, rfl⟩ := t.of_closed hc
    refine ⟨by rw [hx], ?_⟩
    simp only [after, hx, moved, List.append_nil]

/-- A backing whose runtime never destroys a container. -/
def Backing.stuck : Backing Unit Unit Unit Unit :=
  { Backing.willing with
    runtime := {
      Backing.willing.runtime with
      terminate := fun _ => Act.raise (.daemon .api "busy" none none) } }

/-- A template whose container is not destroyed is no template any more, and it is still open. -/
theorem close_retryable_of_stuck : ∃ e f' o,
    closeInstance Backing.stuck.recorded (Family.template, ([], ())) = (.error e, (f', o)) ∧
      e.IsTeardown ∧ f' = Family.template.unmark := by
  have ordinary : Backing.stuck.ClosesOrdinarily := {
    setTemplate := fun _ _ _ e h => by cases h
    terminate := fun _ _ e h => by
      cases h
      rfl
    closeClient := fun _ _ e h => by cases h }
  obtain ⟨⟨r, f', calls, s', hx, raised, -⟩, -⟩ := close_retryable Backing.stuck Family.template ()
    [] Family.template_fresh ordinary fun _ _ => rfl
  rcases r with e | ⟨⟩
  · obtain ⟨ht, -, hf⟩ := raised e rfl
    refine ⟨e, f', _, hx, ht, ?_⟩
    rcases hf with rfl | ⟨-, -, hf⟩
    · cases hx
    · exact hf
  · cases hx

end Testbed
