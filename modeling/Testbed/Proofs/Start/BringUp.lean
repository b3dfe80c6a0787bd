import Testbed.Proofs.Hooks
import Testbed.Proofs.Start.Clients

/-!
# Bringing instances up

From the launched container to the open instance: whatever the steps do and however they end, the
instance stays in its container, and no client that was opened on the way is lost.
-/

namespace Testbed

set_option autoImplicit false

open FamilyAct Act

variable {η ρ κ σ α : Type}

/-- The family of a launched instance after some calls: it is in the container of the launched
handle, no live clone is closed, and every client that the calls opened is held or was passed on. -/
structure Family.Tracked (hd : Handle ρ κ) (f : Family ρ κ) (calls : List (Call ρ κ)) : Prop where
  live : f.LiveOpen
  clients : opened calls ≤ passed calls + f.held
  container : f.handle.container = hd.container
  ownsRuntime : f.handle.ownsRuntime = hd.ownsRuntime

theorem Family.Tracked.next {hd : Handle ρ κ} {f f' : Family ρ κ} {l calls : List (Call ρ κ)}
    (h : f.Tracked hd l) (hl : f'.LiveOpen) (hb : Balanced f f' calls) (hh : f.SameHost f') :
    f'.Tracked hd (l ++ calls) where
  live := hl
  clients := by
    rw [opened_append, passed_append, add_assoc]
    calc opened l + opened calls
        ≤ passed l + f.held + opened calls := add_le_add_left h.clients _
      _ = passed l + (opened calls + f.held) := by rw [add_assoc, add_comm f.held]
      _ ≤ passed l + (passed calls + f'.held) := add_le_add_right hb _
  container := hh.1.trans h.container
  ownsRuntime := hh.2.trans h.ownsRuntime

/-- The family is tracked by the calls made after some earlier ones. -/
def Follows (hd : Handle ρ κ) (first : List (Call ρ κ)) (s : Family ρ κ × Recorded ρ κ σ) : Prop :=
  ∃ l, s.2.1 = first ++ l ∧ s.1.Tracked hd l

/-! Properties that the courses keep. -/

/-- A property of a family and of its calls that a course keeps. -/
def Course.Keeps (c : Course ρ κ α) (P : Family ρ κ → List (Call ρ κ) → Prop) : Prop :=
  ∀ f r f' calls l, c f r f' calls → P f l → P f' (l ++ calls)

/-- A property that everything done with a launched instance keeps. -/
structure Lasting (P : Family ρ κ → List (Call ρ κ) → Prop) : Prop where
  promoting : ∀ e?, (Promoting e?).Keeps P
  cloning : ∀ info?, (Cloning info?).Keeps P
  closing : Closing.Keeps P
  closingClone : ∀ id, (ClosingClone id).Keeps P
  ensuring : Ensuring.Keeps P
  probing : Probing.Keeps P
  located : ∀ f l endpoint, P f l → P (f.onHandle fun h => { h with endpoint }) l
  scheduled : ∀ f l c n r, P f l → P f (l ++ [.scheduleExpiry c n r])
  asked : ∀ f l c port r, P f l → P f (l ++ [.endpoint c port r])

/-- A property that a family has with the calls made after some earlier ones. -/
def After (P : Family ρ κ → List (Call ρ κ) → Prop) (first : List (Call ρ κ))
    (s : Family ρ κ × Recorded ρ κ σ) : Prop :=
  ∃ l, s.2.1 = first ++ l ∧ P s.1 l

/-- An instance has such a property. -/
def Estate.After (id : InstanceId) (P : Family ρ κ → List (Call ρ κ) → Prop)
    (first : List (Call ρ κ)) (st : Estate ρ κ (Recorded ρ κ σ)) : Prop :=
  ∃ f, st.families[id]? = some f ∧ Testbed.After P first (f, st.outside)

section After

variable {P : Family ρ κ → List (Call ρ κ) → Prop} {first : List (Call ρ κ)}

theorem Takes.after {x : FamilyAct ρ κ (Recorded ρ κ σ) α} {c : Course ρ κ α} (h : Takes x c)
    (hc : c.Keeps P) : Keeps (After P first) x := by
  rintro ⟨f, l, s⟩ ⟨l', rfl, hp⟩
  obtain ⟨r, f', calls, s', hx, t⟩ := h f (first ++ l') s
  rw [hx]
  exact ⟨l' ++ calls, List.append_assoc _ _ _, hc f r f' calls l' t hp⟩

theorem outside_after {x : Act (Recorded ρ κ σ) α}
    (h : ∀ f : Family ρ κ, Keeps (fun o => After P first (f, o)) x) :
    Keeps (After P first) (Act.outside x) := fun s hs => h s.1 s.2 hs

theorem noted_after {x : Act σ α} {note : Except Fault α → Call ρ κ} {f : Family ρ κ}
    (h : ∀ l r, P f l → P f (l ++ [note r])) :
    Keeps (fun o => After P first (f, o)) (x.noted note) := by
  refine .noted fun l s => ?_
  rintro ⟨l', rfl, hp⟩
  exact ⟨l' ++ [note (x s).1], List.append_assoc _ _ _, h l' _ hp⟩

/-- What is not noted makes no calls. -/
theorem unnoted_after (x : Act σ α) (f : Family ρ κ) :
    Keeps (fun o : Recorded ρ κ σ => After P first (f, o)) (Act.outside x) := by
  intro o ho
  exact ho

variable {b : Backing η ρ κ σ}

theorem closeInstance_after (h : Lasting P) :
    Keeps (After P first) (closeInstance b.recorded) :=
  (closeInstance_takes b).after h.closing

theorem attemptProbe_after (h : Lasting P) (endpoint : String) :
    Keeps (After P first) (attemptProbe b.recorded endpoint) := by
  refine .bind ?_ fun _ => ?_
  · exact (ensureClient_takes b).after h.ensuring
  · exact (probeClient_takes b endpoint).after h.probing

theorem setEndpoint_after (h : Lasting P) (endpoint : String) :
    Keeps (After P first)
      (setHandle fun h => { h with endpoint } : FamilyAct ρ κ (Recorded ρ κ σ) Unit) := by
  rintro s ⟨l, hl, hp⟩
  exact ⟨l, hl, h.located s.1 l endpoint hp⟩

theorem findEndpoint_after (h : Lasting P) (o : StartOptions η) :
    Keeps (After P first) (findEndpoint b.recorded o) := by
  refine .bind (.read _) fun hd => .bind (outside_after fun f => ?_) fun _ => ?_
  · exact (noted_after fun l r => h.scheduled f l _ _ r).orRaise _
  · refine .bind (outside_after fun f => ?_) (setEndpoint_after h)
    exact noted_after fun l r => h.asked f l _ _ r

theorem discard_after (h : Lasting P) : Keeps (After P first) (discard b.recorded) := by
  refine .bind (closeInstance_after h).attempt fun r => ?_
  cases r with
  | ok _ => exact .pure _
  | error e =>
    dsimp only
    split
    · exact outside_after fun f => unnoted_after (b.around.diary.warning .provisioner _) f
    · exact .fail _

variable {p : Provisioner η ρ κ (Recorded ρ κ σ)}

theorem waitReady_after (h : Lasting P) (hp : p.around = b.recorded.around) (timeout : Num) :
    Keeps (After P first) (waitReady p b.recorded timeout) := by
  refine .bind (.read _) fun hd => .bind (.attempt (Polling.awaitReady_keeps ?_)) fun r => ?_
  · exact {
      probe := attemptProbe_after h
      sleep := fun n => outside_after fun f => by
        rw [hp]
        exact unnoted_after _ f
      write := fun level topic text s hs => by
        change After P first (s.1, p.around.diary.write level topic text s.2)
        rw [hp]
        exact hs }
  · cases r with
    | ok _ => exact .pure _
    | error e => exact .ite (.fail _) (.fail _)

/-! Bringing an instance up. -/

variable {id : InstanceId}

theorem onFamily_after {x : FamilyAct ρ κ (Recorded ρ κ σ) α} (hx : Keeps (After P first) x) :
    Keeps (Estate.After id P first) (Estate.onFamily id x) := by
  rintro st ⟨f, hf, hs⟩
  have hx' := hx (f, st.outside) hs
  unfold Estate.onFamily
  rw [hf]
  refine ⟨(x (f, st.outside)).2.1, ?_, hx'⟩
  exact List.getElem?_set_self (List.getElem?_eq_some_iff.mp hf).1

theorem around_after {x : Act (Recorded ρ κ σ) α}
    (hx : ∀ f : Family ρ κ, Keeps (fun o => After P first (f, o)) x) :
    Keeps (Estate.After id P first) (Estate.around x) := by
  rintro st ⟨f, hf, hs⟩
  exact ⟨f, hf, hx f st.outside hs⟩

/-- A hook keeps what lasts when its other actions make no calls. -/
theorem HookProgram.after (h : Lasting P) {K : {β : Type} → Act (Recorded ρ κ σ) β → Prop}
    (hK : ∀ {β : Type} {x : Act (Recorded ρ κ σ) β}, K x → ∃ y : Act σ β, x = Act.outside y)
    {x : EstateAct ρ κ (Recorded ρ κ σ) α} (hx : HookProgram b.recorded id K x) :
    Keeps (Estate.After id P first) x := by
  induction hx with
  | pure a => exact .pure a
  | fail e => exact .fail e
  | around hk =>
    obtain ⟨y, rfl⟩ := hK hk
    exact around_after (unnoted_after y)
  | look f => exact onFamily_after (.read _)
  | promote => exact onFamily_after ((promote_takes b).after (h.promoting _))
  | clone => exact onFamily_after ((cloneTemplate_takes b).after (h.cloning _))
  | close => exact onFamily_after (closeInstance_after h)
  | closeClone c => exact onFamily_after ((closeClone_takes b c).after (h.closingClone c))
  | bind _ _ hx hf => exact .bind hx hf
  | caught _ hx => exact hx

theorem bringUp_after (h : Lasting P) (hp : p.around = b.recorded.around) (o : StartOptions η)
    (deadline : Num)
    (hh : ∀ hook ∈ o.hooks, Keeps (Estate.After id P first) (p.runHook b.recorded hook id)) :
    Keeps (Estate.After id P first) (bringUp p b.recorded o deadline id) := by
  refine .bind (onFamily_after (findEndpoint_after h o)) fun _ => ?_
  refine .bind (around_after fun f => .bind (.read _) fun _ => .ofExcept _) fun timeout => ?_
  refine .bind (onFamily_after (waitReady_after h hp timeout)) fun _ => ?_
  refine .bind (runHooks_keeps id o.hooks hh) fun _ => .ite ?_ (.pure _)
  exact onFamily_after ((promote_takes b).after (h.promoting _))

/-- The instance of a launched container is as before, or closed, when its start ends. -/
theorem establish_after (h : Lasting P) (hp : p.around = b.recorded.around)
    {l : Launched η ρ κ (Recorded ρ κ σ)} (hb : l.backing = b.recorded) (o : StartOptions η)
    {s : Estate ρ κ (Recorded ρ κ σ)} (hl : P { handle := l.handle } [])
    (hh : ∀ hook ∈ o.hooks, Keeps (Estate.After s.families.length P s.outside.1)
      (p.runHook b.recorded hook s.families.length)) :
    (establish p l o s).2.After s.families.length P s.outside.1 := by
  have enrolled : (Estate.enroll l.handle s).2.After s.families.length P s.outside.1 :=
    ⟨_, List.getElem?_concat_length, [], (List.append_nil _).symm, hl⟩
  refine Keeps.bind (x := Act.onFault (bringUp p l.backing o l.deadline s.families.length) _) ?_
    (fun _ => ?_) _ enrolled
  · rw [hb]
    exact .onFault (bringUp_after h hp o l.deadline hh) (onFamily_after (discard_after h))
  · refine .bind (onFamily_after (.bind (.read _) fun hd => .pure _)) fun name => ?_
    refine .bind (around_after fun f => ?_) fun _ => .pure _
    rw [hp]
    exact unnoted_after (b.around.diary.info .provisioner _) f

end After

/-! Following an instance. -/

theorem Family.Tracked.still {hd : Handle ρ κ} {f f' : Family ρ κ} {l calls : List (Call ρ κ)}
    (h : f.Tracked hd l) (hs : f.Still f') (hb : Balanced f f' calls) :
    f'.Tracked hd (l ++ calls) := h.next (hs.liveOpen h.live) hb hs.host

theorem tracked_lasting (hd : Handle ρ κ) : Lasting (Family.Tracked hd) where
  promoting _ _ _ _ _ _ t h := h.still t.still t.balanced
  cloning _ _ _ _ _ _ t h := h.next (t.liveOpen h.live) t.balanced t.sameHost
  closing _ _ _ _ _ t h := h.still t.still t.balanced
  closingClone _ _ _ _ _ _ t h := h.next (t.liveOpen h.live) t.balanced t.sameHost
  ensuring _ _ _ _ _ t h := h.still t.still t.balanced
  probing _ _ _ _ _ t h := h.still t.still t.balanced
  located _ _ _ h := ⟨h.live, h.clients, h.container, h.ownsRuntime⟩
  scheduled _ _ _ _ _ h := h.next h.live (.of_held_eq rfl rfl) ⟨rfl, rfl⟩
  asked _ _ _ _ _ h := h.next h.live (.of_held_eq rfl rfl) ⟨rfl, rfl⟩

/-- An instance is tracked by the calls made after some earlier ones. -/
def Estate.Tracks (id : InstanceId) (hd : Handle ρ κ) (first : List (Call ρ κ))
    (st : Estate ρ κ (Recorded ρ κ σ)) : Prop :=
  ∃ f, st.families[id]? = some f ∧ Follows hd first (f, st.outside)

section Follows

variable {hd : Handle ρ κ} {first : List (Call ρ κ)} {id : InstanceId} {b : Backing η ρ κ σ}

/-- A hook keeps its instance tracked when its other actions make no calls. -/
theorem HookProgram.tracks {K : {β : Type} → Act (Recorded ρ κ σ) β → Prop}
    (hK : ∀ {β : Type} {x : Act (Recorded ρ κ σ) β}, K x → ∃ y : Act σ β, x = Act.outside y)
    {x : EstateAct ρ κ (Recorded ρ κ σ) α} (h : HookProgram b.recorded id K x) :
    Keeps (Estate.Tracks id hd first) x := h.after (tracked_lasting hd) hK

theorem bringUp_tracks {p : Provisioner η ρ κ (Recorded ρ κ σ)}
    (hp : p.around = b.recorded.around) (o : StartOptions η) (deadline : Num)
    (hh : ∀ hook ∈ o.hooks, Keeps (Estate.Tracks id hd first) (p.runHook b.recorded hook id)) :
    Keeps (Estate.Tracks id hd first) (bringUp p b.recorded o deadline id) :=
  bringUp_after (tracked_lasting hd) hp o deadline hh

end Follows

end Testbed
