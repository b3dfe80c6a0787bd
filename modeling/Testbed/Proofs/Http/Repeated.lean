import Testbed.Http.Redirect
import Testbed.Proofs.Calls
import Testbed.Proofs.Dsn.Query

/-!
# Repeated requests

A request that may be repeated is sent again as long as the server is busy and repetitions are left.
Whatever else happens ends it, and so does a link that breaks: nothing is sent after that.
-/

namespace Testbed.Http

set_option autoImplicit false

open Act

variable {σ : Type}

/-! Outcomes. -/

theorem isTransport_urlFault (kind : HttpKind) (text : String) :
    (urlFault kind text).isTransport = kind.isTransport := Bool.or_false _

/-- A link that breaks is a failure to reach the server, however it breaks. -/
theorem LinkFault.fault_eq (req : Request) (f : LinkFault) :
    ∃ kind text, f.fault req = urlFault kind text ∧ kind.isTransport = true := by
  unfold LinkFault.fault
  dsimp only
  split
  · split
    · exact ⟨_, _, rfl, rfl⟩
    · exact ⟨_, _, rfl, rfl⟩
  · refine ⟨_, _, rfl, ?_⟩
    split <;> rfl

theorem bind_error {ε α β : Type} {x : Except ε α} {f : α → Except ε β} {e : ε}
    (h : x >>= f = .error e) : x = .error e ∨ ∃ a, x = .ok a ∧ f a = .error e := by
  cases x with
  | error _ =>
    cases h
    exact .inl rfl
  | ok a => exact .inr ⟨a, rfl, h⟩

theorem statedLength_error {text : String} {e : Fault} (h : statedLength text = .error e) :
    ∃ kind text, e = urlFault kind text := by
  unfold statedLength at h
  split at h
  · cases h
  · split at h <;> cases h
    exact ⟨_, _, rfl⟩

theorem Reply.length?_error {method : String} {r : Reply} {e : Fault}
    (h : r.length? method = .error e) : ∃ kind text, e = urlFault kind text := by
  unfold length? at h
  dsimp only at h
  split at h
  · cases h
  next text _ =>
  split at h
  · cases h
  · cases hs : statedLength text with
    | error e' =>
      rw [hs] at h
      cases h
      exact statedLength_error hs
    | ok n =>
      rw [hs] at h
      cases h

theorem Reply.content_error {length : Option Int} {r : Reply} {e : Fault}
    (h : r.content length = .error e) : ∃ kind text, e = urlFault kind text := by
  unfold content at h
  dsimp only at h
  split at h
  · cases h
    exact ⟨_, _, rfl⟩
  · rcases bind_error h with h | ⟨content, -, h⟩
    · cases hu : unpackAll r.codings r.body with
      | error c =>
        rw [hu] at h
        cases h
        exact ⟨_, _, rfl⟩
      | ok content =>
        rw [hu] at h
        cases h
    · split at h <;> cases h
      exact ⟨_, _, rfl⟩

/-- A reply that neither says when to come back nor sends its request elsewhere. -/
structure Reply.IsPlain (r : Reply) : Prop where
  undated : r.header? "Retry-After" = none
  unmoved : r.location? = .ok none

/-- A reply of a busy server whose headers agree on its length. -/
structure Reply.IsBusy (method : String) (r : Reply) : Prop where
  status : r.status ∈ busyStatuses
  length : ∃ n, r.length? method = .ok n

theorem Reply.IsPlain.isRetried {r : Reply} (h : r.IsPlain) (method : String) :
    isRetried method r = (repeatable.contains method && busyStatuses.contains r.status) := by
  rw [Http.isRetried, headerOr, h.undated]
  change (_ && (_ || (false && _))) = _
  rw [Bool.false_and, Bool.or_false]

/-- What is read of a reply to a request. -/
def Reply.read (guess : List UInt8 → Option String) (method : String) (r : Reply) :
    Except Fault Response := do
  (Arrival.mk r (← r.length? method)).response guess

theorem Reply.read_status {guess : List UInt8 → Option String} {method : String} {r : Reply}
    {response : Response} (h : r.read guess method = .ok response) :
    response.status = .int r.status := by
  obtain ⟨n, -, h⟩ := Dsn.bind_ok h
  obtain ⟨body, -, h⟩ := Dsn.bind_ok h
  cases h
  rfl

namespace Outcome

def IsBusy (method : String) : Outcome → Prop
  | broken _ => False
  | reply r => r.IsBusy method

def arrival (req : Request) : Outcome → Except Fault Arrival
  | broken f => .error (f.fault req)
  | reply r => (r.length? req.method).map (Arrival.mk r)

/-- What a request returns or raises after its last exchange. -/
def result (guess : List UInt8 → Option String) (req : Request) : Outcome → Except Fault Response
  | broken f => .error (f.fault req)
  | reply r => r.read guess req.method

variable {guess : List UInt8 → Option String}

/-- A request fails with an error of its own kind. -/
theorem result_error {req : Request} {o : Outcome} {e : Fault}
    (h : o.result guess req = .error e) : ∃ kind text, e = urlFault kind text := by
  cases o with
  | broken f =>
    cases h
    obtain ⟨kind, text, hf, -⟩ := f.fault_eq req
    exact ⟨kind, text, hf⟩
  | reply r =>
    rcases bind_error h with h | ⟨n, -, h⟩
    · exact Reply.length?_error h
    · rcases bind_error h with h | ⟨body, -, h⟩
      · exact Reply.content_error h
      · cases h

theorem result_eq (req : Request) (o : Outcome) :
    o.result guess req = o.arrival req >>= Arrival.response guess := by
  cases o with
  | broken f => rfl
  | reply r =>
    rw [result, Reply.read, arrival]
    cases r.length? req.method <;> rfl

end Outcome

/-! Exchanges. -/

/-- An exchange with its outcome. -/
abbrev Exchange : Type := Request × Except Fault Outcome

/-- The wire with its exchanges noted. -/
def Wire.watched (w : Wire σ) : Wire (List Exchange × σ) where
  exchange req := (w.exchange req).noted (req, ·)
  sleep n := Act.outside (w.sleep n)
  date s := w.date s.2
  guess := w.guess

/-- In every exchange the link breaks or a plain reply comes, and sleeps end. -/
structure Wire.Answers (w : Wire σ) : Prop where
  exchange : ∀ req s, ∃ o t, w.exchange req s = (.ok o, t) ∧ ∀ r, o = .reply r → r.IsPlain
  sleep : ∀ n s, ∃ t, w.sleep n s = (.ok (), t)

/-- How a request ends that may be repeated a number of times. -/
inductive Repeating (method : String) : Nat → List Outcome → Outcome → Prop
  | ended {left : Nat} {last : Outcome} :
      (last.IsBusy method → method ∈ repeatable → left = 0) →
      Repeating method left [] last
  | again {left : Nat} {busy last : Outcome} {outcomes : List Outcome} :
      method ∈ repeatable → busy.IsBusy method → Repeating method left outcomes last →
      Repeating method (left + 1) (busy :: outcomes) last

/-- The exchanges of a request before its last one, of which there are no more than repetitions. -/
structure Repeated (method : String) (limit : Nat) (outcomes : List Outcome) (last : Outcome) :
    Prop where
  busy : ∀ o ∈ outcomes, o.IsBusy method
  bounded : outcomes.length ≤ limit
  once : method ∉ repeatable → outcomes = []
  usedUp : method ∈ repeatable → last.IsBusy method → outcomes.length = limit

theorem Repeating.repeated {method : String} {left : Nat} {outcomes : List Outcome} {last : Outcome}
    (h : Repeating method left outcomes last) : Repeated method left outcomes last := by
  induction h with
  | ended hend =>
    exact ⟨nofun, Nat.zero_le _, fun _ => rfl, fun hm hb => (hend hb hm).symm⟩
  | again hm hb _ ih =>
    exact ⟨List.forall_mem_cons.mpr ⟨hb, ih.busy⟩, Nat.succ_le_succ ih.bounded,
      fun hn => absurd hm hn,
      fun hm hb => congrArg Nat.succ (ih.usedUp hm hb)⟩

section Runs

variable {w : Wire σ} {req : Request} {r : Reply} {o : Outcome} {s t : σ}

theorem receive_watched (h : w.exchange req s = (.ok o, t)) (l : List Exchange) :
    receive w.watched req (l, s) = (o.arrival req, (l ++ [(req, .ok o)], t)) := by
  have exchanged : w.watched.exchange req (l, s) = (.ok o, (l ++ [(req, .ok o)], t)) :=
    noted_of_eq _ l h
  rw [receive, bind_of_ok exchanged]
  cases o with
  | broken f => rfl
  | reply r =>
    dsimp only [Outcome.arrival]
    cases r.length? req.method <;> rfl

theorem pauseBefore_watched (hw : w.Answers) (hr : r.IsPlain) (n : Nat) (l : List Exchange)
    (s : σ) : ∃ t, pauseBefore w.watched r n (l, s) = (.ok (), (l, t)) := by
  have pause : ∀ now, pauseAfter r now n = .ok (growingPause n) := by
    intro now
    rw [pauseAfter, Reply.askedPause, hr.undated]
    rfl
  rw [pauseBefore, read_bind, pause]
  cases growingPause n with
  | none => exact ⟨s, rfl⟩
  | some p =>
    obtain ⟨t, ht⟩ := hw.sleep p s
    exact ⟨t, outside_of_eq l ht⟩

theorem exchangeRepeatedly_ends {left : Nat} (h : w.exchange req s = (.ok o, t))
    (hplain : ∀ r, o = .reply r → r.IsPlain)
    (hend : o.IsBusy req.method → req.method ∈ repeatable → left = 0)
    (l : List Exchange) : exchangeRepeatedly w.watched req left (l, s) =
      (o.arrival req, (l ++ [(req, .ok o)], t)) := by
  have received := receive_watched h l
  cases left with
  | zero => exact received
  | succ left =>
    rw [exchangeRepeatedly]
    cases harrival : o.arrival req with
    | error e =>
      rw [harrival] at received
      exact bind_of_error received
    | ok a =>
      have final : isRetried req.method a.reply = false := by
        cases o with
        | broken f => cases harrival
        | reply r =>
          obtain ⟨n, hn, rfl⟩ := Dsn.map_ok harrival
          rw [(hplain r rfl).isRetried, Bool.eq_false_iff]
          intro hretried
          obtain ⟨hm, hstatus⟩ := Bool.and_eq_true_iff.mp hretried
          cases hend ⟨List.contains_iff_mem.mp hstatus, n, hn⟩ (List.contains_iff_mem.mp hm)
      rw [harrival] at received
      rw [bind_of_ok received, final]
      rfl

theorem exchangeRepeatedly_again (hw : w.Answers) (h : w.exchange req s = (.ok (.reply r), t))
    (hplain : r.IsPlain) (hm : req.method ∈ repeatable) (hb : r.IsBusy req.method)
    (left : Nat) (l : List Exchange) :
    ∃ u, exchangeRepeatedly w.watched req (left + 1) (l, s) =
      exchangeRepeatedly w.watched req left (l ++ [(req, .ok (.reply r))], u) := by
  obtain ⟨n, hn⟩ := hb.length
  have received := receive_watched h l
  rw [Outcome.arrival, hn] at received
  obtain ⟨u, hu⟩ := pauseBefore_watched hw hplain (maxRetries - left)
    (l ++ [(req, .ok (.reply r))]) t
  refine ⟨u, ?_⟩
  rw [exchangeRepeatedly, bind_of_ok received]
  dsimp only
  rw [hplain.isRetried, List.contains_iff_mem.mpr hm, List.contains_iff_mem.mpr hb.status,
    Bool.and_self, if_pos rfl, bind_of_ok hu]

theorem exchangeRepeatedly_repeats (hw : w.Answers) (req : Request) (left : Nat)
    (l : List Exchange) (s : σ) :
    ∃ outcomes last t, exchangeRepeatedly w.watched req left (l, s) =
        (last.arrival req, (l ++ (outcomes ++ [last]).map fun o => (req, .ok o), t)) ∧
      Repeating req.method left outcomes last ∧ ∀ r, last = .reply r → r.IsPlain := by
  induction left generalizing l s with
  | zero =>
    obtain ⟨o, t, h, hplain⟩ := hw.exchange req s
    exact ⟨[], o, t, receive_watched h l, .ended fun _ _ => rfl, hplain⟩
  | succ left ih =>
    obtain ⟨o, t, h, hplain⟩ := hw.exchange req s
    by_cases hagain : o.IsBusy req.method ∧ req.method ∈ repeatable
    · obtain ⟨hb, hm⟩ := hagain
      cases o with
      | broken f => exact hb.elim
      | reply r =>
        obtain ⟨u, hu⟩ := exchangeRepeatedly_again hw h (hplain r rfl) hm hb left l
        obtain ⟨outcomes, last, t', hrun, hrest, hlast⟩ := ih (l ++ [(req, .ok (.reply r))]) u
        refine ⟨.reply r :: outcomes, last, t', ?_, .again hm hb hrest, hlast⟩
        rw [hu, hrun, List.append_assoc]
        rfl
    · have hend (hb : o.IsBusy req.method) (hm : req.method ∈ repeatable) : left + 1 = 0 :=
        absurd ⟨hb, hm⟩ hagain
      exact ⟨[], o, t, exchangeRepeatedly_ends h hplain hend l, .ended hend, hplain⟩

/-- A request is sent until something other than a busy reply comes, or no repetition is left.  The
last outcome decides what it returns or raises. -/
theorem send_repeats (hw : w.Answers) (req : Request) (l : List Exchange) (s : σ) :
    ∃ outcomes last t, send w.watched req (l, s) =
        (last.result w.guess req, (l ++ (outcomes ++ [last]).map fun o => (req, .ok o), t)) ∧
      Repeated req.method maxRetries outcomes last := by
  obtain ⟨outcomes, last, t, hrun, hrepeating, hplain⟩ :=
    exchangeRepeatedly_repeats hw req maxRetries l s
  refine ⟨outcomes, last, t, ?_, hrepeating.repeated⟩
  rw [send]
  cases harrival : last.arrival req with
  | error e =>
    have result : last.result w.guess req = .error e := by
      rw [Outcome.result_eq, harrival]
      rfl
    rw [harrival] at hrun
    rw [bind_of_error hrun, result]
  | ok a =>
    have result : last.result w.guess req = a.response w.guess := by
      rw [Outcome.result_eq, harrival, ok_bind]
    have unmoved : a.reply.location? = .ok none := by
      cases last with
      | broken f => cases harrival
      | reply r =>
        obtain ⟨n, -, rfl⟩ := Dsn.map_ok harrival
        exact (hplain r rfl).unmoved
    rw [harrival] at hrun
    rw [bind_of_ok hrun, unmoved, bind_of_ok (ofExcept_apply _ _), result]
    exact ofExcept_apply (a.response w.guess) _

end Runs

end Testbed.Http
