import Testbed.Proofs.Instance.Retry

/-!
# What a section does

Every call that is noted was answered by the collaborator it was made to.  A section takes the
course of its operation, and its calls were answered.
-/

namespace Testbed

set_option autoImplicit false

open Act

variable {η ρ κ σ α : Type}

/-- A call that can end as it did in some state of the collaborators. -/
def Backing.Answers (b : Backing η ρ κ σ) : Call ρ κ → Prop
  | .ping r => ∃ s, (b.runtime.ping s).1 = r
  | .launch spec r => ∃ s, (b.runtime.launch spec s).1 = r
  | .scheduleExpiry c n r => ∃ s, (b.runtime.scheduleExpiry c n s).1 = r
  | .endpoint c port r => ∃ s, (b.runtime.endpoint c port s).1 = r
  | .terminate c r => ∃ s, (b.runtime.terminate c s).1 = r
  | .closeRuntime r => ∃ s, (b.runtime.close s).1 = r
  | .launchSpec name r => ∃ o s, (b.service.launchSpec name o s).1 = r
  | .connect info r => ∃ s, (b.service.connectTo info s).1 = r
  | .probe client r => ∃ s, (b.service.probe client s).1 = r
  | .closeClient client r => ∃ s, (b.service.closeClient client s).1 = r
  | .setTemplate h flag r => ∃ s, (b.service.setTemplate h flag s).1 = r
  | .createCopy h name r => ∃ s, (b.service.createCopy h name s).1 = r
  | .dropCopy info r => ∃ s, (b.service.dropCopy info s).1 = r

theorem Backing.recorded_answers (b : Backing η ρ κ σ) (first : List (Call ρ κ)) :
    b.recorded.Keeps (Since first b.Answers) where
  launchSpec _ o := noted_since fun s => ⟨o, s, rfl⟩
  connectTo _ := noted_since fun s => ⟨s, rfl⟩
  probe _ := noted_since fun s => ⟨s, rfl⟩
  closeClient _ := noted_since fun s => ⟨s, rfl⟩
  setTemplate _ _ := noted_since fun s => ⟨s, rfl⟩
  createCopy _ _ := noted_since fun s => ⟨s, rfl⟩
  dropCopy _ := noted_since fun s => ⟨s, rfl⟩
  ping := noted_since fun s => ⟨s, rfl⟩
  launch _ := noted_since fun s => ⟨s, rfl⟩
  scheduleExpiry _ _ := noted_since fun s => ⟨s, rfl⟩
  endpoint _ _ := noted_since fun s => ⟨s, rfl⟩
  terminate _ := noted_since fun s => ⟨s, rfl⟩
  close := noted_since fun s => ⟨s, rfl⟩
  sleep _ := fun _ h => h
  stamp := fun _ h => h
  write _ _ _ _ h := h

/-- The calls of an operation were answered. -/
theorem answered {b : Backing η ρ κ σ} {x : FamilyAct ρ κ (Recorded ρ κ σ) α}
    (hk : ∀ I, b.recorded.Keeps I → Keeps (I ∘ Prod.snd) x) {f f' : Family ρ κ}
    {l calls : List (Call ρ κ)} {s s' : σ} {r : Except Fault α}
    (h : x (f, (l, s)) = (r, (f', (l ++ calls, s')))) : ∀ c ∈ calls, b.Answers c := by
  have start : Since l b.Answers (l, s) := ⟨[], (List.append_nil l).symm, fun c hc => by cases hc⟩
  have after := hk _ (b.recorded_answers l) (f, (l, s)) start
  rw [h] at after
  obtain ⟨later, hl, hc⟩ := after
  rw [List.append_cancel_left hl]
  exact hc

namespace Moment

/-- What a section leaves behind and calls: the course of its operation, or nothing at all when a
clone is to be released that does not wait for it. -/
inductive Passing (b : Backing η ρ κ σ) (m : Moment ρ κ (Recorded ρ κ σ)) :
    Section → Family ρ κ → List (Call ρ κ) → Prop
  | promote {r : Except Fault Unit} {f' : Family ρ κ} {calls : List (Call ρ κ)} :
      Promoting (if b.service.supportsTemplates then none
        else some (Service.noTemplates b.service.name)) m.family r f' calls →
      Passing b m .promote f' calls
  | clone {r : Except Fault CloneId} {f' : Family ρ κ} {calls : List (Call ρ κ)} :
      Cloning b.service.connectionInfo m.family r f' calls → Passing b m .clone f' calls
  | close {r : Except Fault Unit} {f' : Family ρ κ} {calls : List (Call ρ κ)} :
      Closing m.family r f' calls → Passing b m .close f' calls
  | retire {id : CloneId} {r : Except Fault Bool} {f' : Family ρ κ} {calls : List (Call ρ κ)} :
      Retiring id m.family r f' calls → Passing b m (.retire id) f' calls
  | release {id : CloneId} {r : Except Fault Unit} {f' : Family ρ κ} {calls : List (Call ρ κ)} :
      id ∈ m.waiting → Releasing id m.family r f' calls → Passing b m (.release id) f' calls
  | idle {id : CloneId} : id ∉ m.waiting → Passing b m (.release id) m.family []

theorem after_passes (b : Backing η ρ κ σ) (m : Moment ρ κ (Recorded ρ κ σ)) (x : Section) :
    ∃ calls, (m.after b.recorded x).outside.1 = m.outside.1 ++ calls ∧
      Passing b m x (m.after b.recorded x).family calls ∧ ∀ c ∈ calls, b.Answers c := by
  cases x with
  | promote =>
    obtain ⟨r, f', calls, s', hx, t⟩ := promote_takes b m.family m.outside.1 m.outside.2
    have ha := answered (b := b) (fun I hI => promote_keeps hI.toKeepsClosing) hx
    refine ⟨calls, ?_, ?_, ha⟩ <;> simp only [after, hx, moved]
    exact .promote t
  | clone =>
    obtain ⟨r, f', calls, s', hx, t⟩ := cloneTemplate_takes b m.family m.outside.1 m.outside.2
    have ha := answered (b := b) (fun I hI => cloneTemplate_keeps hI) hx
    refine ⟨calls, ?_, ?_, ha⟩ <;> rcases r with e | id <;> simp only [after, hx, moved]
    · exact .clone t
    · exact .clone t
  | close =>
    obtain ⟨r, f', calls, s', hx, t⟩ := closeInstance_takes b m.family m.outside.1 m.outside.2
    have ha := answered (b := b) (fun I hI => closeInstance_keeps hI.toKeepsClosing) hx
    refine ⟨calls, ?_, ?_, ha⟩ <;> simp only [after, hx, moved]
    exact .close t
  | retire id =>
    obtain ⟨r, f', calls, s', hx, t⟩ := retireClone_takes b id m.family m.outside.1 m.outside.2
    have ha := answered (b := b) (fun I hI => retireClone_keeps hI.serving id) hx
    refine ⟨calls, ?_, ?_, ha⟩ <;> rcases r with e | _ | _ <;> simp only [after, hx, moved]
    · exact .retire t
    · exact .retire t
    · exact .retire t
  | release id =>
    by_cases hw : id ∈ m.waiting
    · obtain ⟨r, f', calls, s', hx, t⟩ :=
        releaseClone_takes b id m.family m.outside.1 m.outside.2
      have ha := answered (b := b) (fun I hI => releaseClone_keeps hI.toKeepsClosing id) hx
      refine ⟨calls, ?_, ?_, ha⟩ <;> simp only [after, if_pos hw, hx, moved]
      exact .release hw t
    · refine ⟨[], ?_, ?_, fun c hc => by cases hc⟩ <;> simp only [after, if_neg hw]
      · exact (List.append_nil _).symm
      · exact .idle hw

end Moment

end Testbed
