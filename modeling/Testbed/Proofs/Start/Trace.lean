import Testbed.Proofs.Projection
import Testbed.Proofs.Start.Teardown

/-!
# Traces of a start

Besides the calls of collaborators, a start runs hooks and tells whoever wants to know of the new
instance.  A trace notes all of it in one list, in the order in which it happens.  Operations that
are known on recorded collaborators do the same calls on traced ones.
-/

namespace Testbed

set_option autoImplicit false

open FamilyAct Act

variable {η ρ κ σ N α β : Type}

/-- What happens during a start. -/
inductive StartEvent (η ρ κ : Type) where
  | call (c : Call ρ κ)
  | hook (hook : η) (result : Except Fault Unit)
  /-- Somebody was told of the new instance. -/
  | register (id : InstanceId) (result : Except Fault Unit)

/-- The state of traced collaborators: what happened so far, and their own state. -/
abbrev Traced (η ρ κ σ : Type) := List (StartEvent η ρ κ) × σ

def Runtime.traced (r : Runtime ρ σ) : Runtime ρ (Traced η ρ κ σ) where
  ping := r.ping.noted fun q => .call (.ping q)
  launch spec := (r.launch spec).noted fun q => .call (.launch spec q)
  scheduleExpiry c n := (r.scheduleExpiry c n).noted fun q => .call (.scheduleExpiry c n q)
  endpoint c port := (r.endpoint c port).noted fun q => .call (.endpoint c port q)
  terminate c := (r.terminate c).noted fun q => .call (.terminate c q)
  close := r.close.noted fun q => .call (.closeRuntime q)

def Service.traced (s : Service η ρ κ σ) : Service η ρ κ (Traced η ρ κ σ) where
  name := s.name
  containerPort := s.containerPort
  defaultLogicalName := s.defaultLogicalName
  supportsTemplates := s.supportsTemplates
  launchSpec name o := (s.launchSpec name o).noted fun q => .call (.launchSpec name q)
  connectTo info := (s.connectTo info).noted fun q => .call (.connect info q)
  probe c := (s.probe c).noted fun q => .call (.probe c q)
  closeClient c := (s.closeClient c).noted fun q => .call (.closeClient c q)
  isTransient := s.isTransient
  connectionInfo := s.connectionInfo
  setTemplate h flag := (s.setTemplate h flag).noted fun q => .call (.setTemplate h flag q)
  createCopy h name := (s.createCopy h name).noted fun q => .call (.createCopy h name q)
  dropCopy info := (s.dropCopy info).noted fun q => .call (.dropCopy info q)

def Backing.traced (b : Backing η ρ κ σ) : Backing η ρ κ (Traced η ρ κ σ) where
  service := b.service.traced
  runtime := b.runtime.traced
  around := b.around.beside

/-- A call of a traced collaborator. -/
theorem called_of_eq {x : Act σ α} {s s' : σ} {r : Except Fault α}
    (note : Except Fault α → Call ρ κ) (l : List (StartEvent η ρ κ)) (h : x s = (r, s')) :
    x.noted (fun q => StartEvent.call (note q)) (l, s) = (r, (l ++ [.call (note r)], s')) :=
  noted_of_eq _ l h

/-- The state of traced collaborators that made the calls of recorded ones after some events. -/
def traceAfter (first : List (StartEvent η ρ κ)) (o : Recorded ρ κ σ) : Traced η ρ κ σ :=
  (first ++ o.1.map .call, o.2)

theorem noted_maps (first : List (StartEvent η ρ κ)) (x : Act σ α)
    (note : Except Fault α → Call ρ κ) :
    Act.Maps (traceAfter first) (x.noted note) (x.noted fun q => .call (note q)) := by
  intro s
  simp only [noted, traceAfter, List.map_append, List.append_assoc]
  rfl

theorem Backing.recorded_maps (b : Backing η ρ κ σ) (first : List (StartEvent η ρ κ)) :
    b.recorded.Maps (traceAfter first) b.traced where
  name := rfl
  supportsTemplates := rfl
  connectionInfo := rfl
  connectTo _ := noted_maps _ _ _
  probe _ := noted_maps _ _ _
  closeClient _ := noted_maps _ _ _
  setTemplate _ _ := noted_maps _ _ _
  terminate _ := noted_maps _ _ _
  close := noted_maps _ _ _
  write _ _ _ _ := rfl

/-- A traced action takes no course but the given ones. -/
def TakesTraced (x : FamilyAct ρ κ (Traced η ρ κ σ) α) (c : Course ρ κ α) : Prop :=
  ∀ f l s, ∃ r f' calls s', x (f, (l, s)) = (r, (f', (l ++ calls.map .call, s'))) ∧ c f r f' calls

/-- What is known of recorded collaborators is known of traced ones. -/
theorem Takes.traced {x : FamilyAct ρ κ (Recorded ρ κ σ) α}
    {y : FamilyAct ρ κ (Traced η ρ κ σ) α} {c : Course ρ κ α} (h : Takes x c)
    (hm : ∀ first, Act.Maps (besideFamily (traceAfter first)) x y) : TakesTraced y c := by
  intro f l s
  obtain ⟨r, f', calls, s', hx, t⟩ := h f [] s
  have hy := hm l (f, ([], s))
  rw [hx] at hy
  have hstart : besideFamily (traceAfter l) (f, (([] : List (Call ρ κ)), s)) = (f, (l, s)) :=
    congrArg (fun l => (f, (l, s))) (List.append_nil l)
  rw [hstart] at hy
  exact ⟨r, f', calls, s', hy, t⟩

namespace TakesTraced

variable {x : FamilyAct ρ κ (Traced η ρ κ σ) α} {c : Course ρ κ α}

theorem mono {d : Course ρ κ α} (h : TakesTraced x c)
    (hcd : ∀ f r f' calls, c f r f' calls → d f r f' calls) : TakesTraced x d := by
  intro f l s
  obtain ⟨r, f', calls, s', hx, t⟩ := h f l s
  exact ⟨r, f', calls, s', hx, hcd _ _ _ _ t⟩

end TakesTraced

/-- Two actions in a row: the second only when the first returns. -/
inductive Course.Then (c : Course ρ κ α) (d : α → Course ρ κ β) : Course ρ κ β
  | failed {f f' : Family ρ κ} {e : Fault} {calls : List (Call ρ κ)} :
      c f (.error e) f' calls → Course.Then c d f (.error e) f' calls
  | next {f f₁ f' : Family ρ κ} {a : α} {r : Except Fault β} {calls calls' : List (Call ρ κ)} :
      c f (.ok a) f₁ calls → d a f₁ r f' calls' → Course.Then c d f r f' (calls ++ calls')

theorem Takes.bind {x : FamilyAct ρ κ (Recorded ρ κ σ) α}
    {g : α → FamilyAct ρ κ (Recorded ρ κ σ) β} {c : Course ρ κ α} {d : α → Course ρ κ β}
    (hx : Takes x c) (hg : ∀ a, Takes (g a) (d a)) : Takes (x >>= g) (c.Then d) := by
  intro f l s
  obtain ⟨r, f₁, calls, s₁, hx, t⟩ := hx f l s
  rcases r with e | a
  · exact ⟨.error e, f₁, calls, s₁, bind_of_error hx, .failed t⟩
  · obtain ⟨r, f', calls', s', hg, t'⟩ := hg a f₁ (l ++ calls) s₁
    refine ⟨r, f', calls ++ calls', s', ?_, .next t t'⟩
    rw [bind_of_ok hx, hg, List.append_assoc]

theorem TakesTraced.bind {x : FamilyAct ρ κ (Traced η ρ κ σ) α}
    {g : α → FamilyAct ρ κ (Traced η ρ κ σ) β} {c : Course ρ κ α} {d : α → Course ρ κ β}
    (hx : TakesTraced x c) (hg : ∀ a, TakesTraced (g a) (d a)) :
    TakesTraced (x >>= g) (c.Then d) := by
  intro f l s
  obtain ⟨r, f₁, calls, s₁, hx, t⟩ := hx f l s
  rcases r with e | a
  · exact ⟨.error e, f₁, calls, s₁, bind_of_error hx, .failed t⟩
  · obtain ⟨r, f', calls', s', hg, t'⟩ := hg a f₁ (l ++ calls.map .call) s₁
    refine ⟨r, f', calls ++ calls', s', ?_, .next t t'⟩
    rw [bind_of_ok hx, hg, List.map_append, List.append_assoc]

/-- What changes nothing about an instance and makes no calls. -/
def Course.Idle : Course ρ κ α := fun f _ f' calls => f' = f ∧ calls = []

theorem outside_idle (x : Act σ α) :
    TakesTraced (Act.outside (Act.outside x) : FamilyAct ρ κ (Traced η ρ κ σ) α) Course.Idle :=
  fun f l s => ⟨_, f, [], _, by rw [List.map_nil, List.append_nil]; rfl, rfl, rfl⟩

end Testbed
