import Testbed.Postgres.Service
import Testbed.Proofs.Invariant

/-!
# Requests to a database client

The requests to a database client can be recorded like the calls of collaborators.  An operational
fault of the administration is then the fault of one of the requests.
-/

namespace Testbed.Postgres

set_option autoImplicit false

open Act

variable {η ρ κ σ α β : Type}

/-- One request to a database client, with how it ended. -/
inductive Request (κ : Type) where
  | connect (settings : Dsn.Settings) (result : Except Fault κ)
  | autocommit (connection : κ) (result : Except Fault Unit)
  | execute (connection : κ) (statement : Statement) (result : Except Fault Bool)
  | close (connection : κ) (result : Except Fault Unit)

def Request.fault? : Request κ → Option Fault
  | .connect _ (.error e) | .autocommit _ (.error e) | .execute _ _ (.error e)
  | .close _ (.error e) => some e
  | _ => none

/-- The state of a recorded database client: the requests made so far, and its own state. -/
abbrev Logged (κ σ : Type) := List (Request κ) × σ

def SqlAccess.recorded (a : SqlAccess κ σ) : SqlAccess κ (Logged κ σ) where
  connect settings := (a.connect settings).noted (.connect settings)
  autocommit c := (a.autocommit c).noted (.autocommit c)
  execute c x := (a.execute c x).noted (.execute c x)
  close c := (a.close c).noted (.close c)
  diary := a.diary.beside

/-- A fault that the drop of a clone passes over. -/
def forgiven (f : Fault) : Bool := isOperational f && f.isTransport

/-! Where faults come from. -/

theorem blamed_left {requests : List (Request κ)} {f : Fault} (more : List (Request κ))
    (h : ∃ q ∈ requests, q.fault? = some f) : ∃ q ∈ requests ++ more, q.fault? = some f := by
  obtain ⟨q, hq, hqf⟩ := h
  exact ⟨q, List.mem_append_left more hq, hqf⟩

theorem blamed_right {requests : List (Request κ)} {f : Fault} (more : List (Request κ))
    (h : ∃ q ∈ requests, q.fault? = some f) : ∃ q ∈ more ++ requests, q.fault? = some f := by
  obtain ⟨q, hq, hqf⟩ := h
  exact ⟨q, List.mem_append_right more hq, hqf⟩

/-- An action makes some requests, and an operational fault that leaves it is known or is that of a
request. -/
def Blames (known : Fault → Prop) (x : Act (Logged κ σ) α) : Prop :=
  ∀ l s, ∃ r requests s', x (l, s) = (r, (l ++ requests, s')) ∧
    ∀ f, r = .error f → isOperational f = true → known f ∨ ∃ q ∈ requests, q.fault? = some f

namespace Blames

variable {known : Fault → Prop}

theorem pure (a : α) : Blames known (Pure.pure a : Act (Logged κ σ) α) :=
  fun l s => ⟨.ok a, [], s, by rw [List.append_nil]; rfl, fun f hf => by cases hf⟩

theorem fail {e : Fault} (h : isOperational e = true → known e) :
    Blames known (Act.fail e : Act (Logged κ σ) α) := by
  intro l s
  refine ⟨.error e, [], s, by rw [List.append_nil]; rfl, fun f hf ho => ?_⟩
  cases hf
  exact .inl (h ho)

theorem ofExcept {r : Except Fault α} (h : ∀ e, r = .error e → isOperational e = false) :
    Blames known (Act.ofExcept r : Act (Logged κ σ) α) := by
  cases r with
  | ok a => exact .pure a
  | error e =>
    refine .fail fun ho => ?_
    rw [h e rfl] at ho
    cases ho

theorem noted {x : Act σ α} {note : Except Fault α → Request κ}
    (h : ∀ e, (note (.error e)).fault? = some e) : Blames known (x.noted note) := by
  intro l s
  refine ⟨(x s).1, [note (x s).1], (x s).2, rfl, fun f hf _ => .inr ⟨_, List.mem_cons_self, ?_⟩⟩
  rw [hf]
  exact h f

theorem update {u : σ → σ} : Blames known (Act.update (fun o : Logged κ σ => (o.1, u o.2))) :=
  fun l s => ⟨.ok (), [], u s, by rw [List.append_nil]; rfl, fun f hf => by cases hf⟩

theorem bind {x : Act (Logged κ σ) α} {g : α → Act (Logged κ σ) β} (hx : Blames known x)
    (hg : ∀ a, Blames known (g a)) : Blames known (x >>= g) := by
  intro l s
  obtain ⟨r, requests, s₁, h, hf⟩ := hx l s
  rcases r with e | a
  · refine ⟨.error e, requests, s₁, bind_of_error h, fun f hr ho => ?_⟩
    cases hr
    exact hf e rfl ho
  · obtain ⟨r, more, s₂, h', hf'⟩ := hg a (l ++ requests) s₁
    rw [List.append_assoc] at h'
    refine ⟨r, requests ++ more, s₂, (bind_of_ok h).trans h', fun f hr ho => ?_⟩
    exact (hf' f hr ho).imp_right (blamed_right requests)

/-- An ordinary fault that is looked at may be raised again. -/
theorem attempt_bind {x : Act (Logged κ σ) α} {g : Except Fault α → Act (Logged κ σ) β}
    (hx : Blames known x) (hok : ∀ a, Blames known (g (.ok a)))
    (herr : ∀ e, Blames (fun f => f = e ∨ known f) (g (.error e))) :
    Blames known (Act.attempt x >>= g) := by
  intro l s
  obtain ⟨r, requests, s₁, h, hf⟩ := hx l s
  rcases r with e | a
  · cases hi : e.isOrdinary with
    -- an interruption is not handed over, so it is still that of the first action
    | false =>
      refine ⟨.error e, requests, s₁, bind_of_error (attempt_of_interruption h hi), ?_⟩
      intro f hr ho
      cases hr
      exact hf e rfl ho
    | true =>
      obtain ⟨r, more, s₂, h', hf'⟩ := herr e (l ++ requests) s₁
      rw [List.append_assoc] at h'
      refine ⟨r, requests ++ more, s₂, (bind_of_ok (attempt_of_ordinary h hi)).trans h', ?_⟩
      intro f hr ho
      rcases hf' f hr ho with (rfl | hk) | hq
      · exact (hf f rfl ho).imp_right (blamed_left more)
      · exact .inl hk
      · exact .inr (blamed_right requests hq)
  · obtain ⟨r, more, s₂, h', hf'⟩ := hok a (l ++ requests) s₁
    rw [List.append_assoc] at h'
    refine ⟨r, requests ++ more, s₂, (bind_of_ok (attempt_of_ok h)).trans h', ?_⟩
    intro f hr ho
    exact (hf' f hr ho).imp_right (blamed_right requests)

theorem onFault {x : Act (Logged κ σ) α} {after : Act (Logged κ σ) Unit} (hx : Blames known x)
    (ha : Blames known after) : Blames known (Act.onFault x after) := by
  intro l s
  obtain ⟨r, requests, s₁, h, hf⟩ := hx l s
  rcases r with e | a
  · obtain ⟨r, more, s₂, h', hf'⟩ := ha (l ++ requests) s₁
    rw [List.append_assoc] at h'
    rcases r with d | ⟨⟩
    · refine ⟨.error d, requests ++ more, s₂, by simp only [Act.onFault, h, h'], ?_⟩
      intro f hr ho
      cases hr
      exact (hf' d rfl ho).imp_right (blamed_right requests)
    · refine ⟨.error e, requests ++ more, s₂, by simp only [Act.onFault, h, h'], ?_⟩
      intro f hr ho
      cases hr
      exact (hf e rfl ho).imp_right (blamed_left more)
  · exact ⟨.ok a, requests, s₁, onFault_of_ok h, fun f hr => by cases hr⟩

theorem always {x : Act (Logged κ σ) α} {after : Act (Logged κ σ) Unit} (hx : Blames known x)
    (ha : Blames known after) : Blames known (Act.always x after) :=
  .bind (.onFault hx ha) fun _ => .bind ha fun _ => .pure _

theorem ite {c : Prop} [Decidable c] {x y : Act (Logged κ σ) α} (hx : Blames known x)
    (hy : Blames known y) : Blames known (if c then x else y) := by
  split
  · exact hx
  · exact hy

end Blames

/-! The administration of databases. -/

section Administration

variable (a : SqlAccess κ σ) {known : Fault → Prop}

theorem badDsn_not_operational (p : Dsn.Problem) : isOperational (badDsn p) = false := by
  cases p <;> rfl

theorem settingsOf_not_operational {dsn : String} {e : Fault} (h : settingsOf dsn = .error e) :
    isOperational e = false := by
  unfold settingsOf at h
  cases hp : Dsn.parse dsn with
  | ok settings =>
    rw [hp] at h
    cases h
  | error p =>
    rw [hp] at h
    cases h
    exact badDsn_not_operational p

theorem databaseName_not_operational {dsn : String} {e : Fault}
    (h : databaseName dsn = .error e) : isOperational e = false := by
  unfold databaseName at h
  cases hs : settingsOf dsn with
  | error d =>
    rw [hs] at h
    cases h
    exact settingsOf_not_operational hs
  | ok settings =>
    rw [hs] at h
    change (if (settings.value "dbname").isEmpty = true then _ else _) = _ at h
    split at h
    · cases h
      rfl
    · cases h

theorem execute_blames (c : κ) (x : Statement) : Blames known (a.recorded.execute c x) :=
  .noted fun _ => rfl

theorem close_blames (c : κ) : Blames known (a.recorded.close c) := .noted fun _ => rfl

theorem openChecked_blames (settings : Dsn.Settings) (timeout : Option Int) :
    Blames known (a.recorded.openChecked settings timeout) := by
  have opened (settings : Dsn.Settings) : Blames known (a.recorded.connect settings) :=
    .noted fun _ => rfl
  have prepared (c : κ) : Blames known (a.recorded.autocommit c) := .noted fun _ => rfl
  refine .bind (opened _) fun c => .bind (prepared c) fun _ => ?_
  refine .attempt_bind (.bind (execute_blames a c .ping) fun _ => .pure _) (fun _ => .pure c) ?_
  intro e
  have again : Blames (fun f => f = e ∨ known f) (Act.fail e : Act (Logged κ σ) κ) :=
    .fail fun _ => .inl rfl
  exact .ite (.bind (close_blames a c) fun _ => again) again

theorem withMaintenance_blames {body : κ → Act (Logged κ σ) α} (timeout : Int) (dsn : String)
    (hb : ∀ c, Blames known (body c)) :
    Blames known (a.recorded.withMaintenance timeout dsn body) := by
  refine .bind (.ofExcept fun e he => settingsOf_not_operational he) fun settings => ?_
  exact .bind (openChecked_blames a _ _) fun c => .always (hb c) (close_blames a c)

theorem executeUnless_blames (c : κ) (x : Statement) (done : Subject → Bool) :
    Blames known (a.recorded.executeUnless c x done) := by
  refine .attempt_bind (execute_blames a c x) (fun _ => .pure true) fun e => ?_
  exact .ite (.pure false) (.fail fun _ => .inl rfl)

theorem dropIfExists_blames (timeout : Int) (dsn : String) :
    Blames known (a.recorded.dropIfExists timeout dsn) := by
  refine .bind (.ofExcept fun e he => databaseName_not_operational he) fun name => ?_
  refine .bind (withMaintenance_blames a timeout dsn fun c => executeUnless_blames a c _ _) ?_
  intro dropped
  have noting : Blames known (a.recorded.diary.debug .postgresDb s!"Dropped database '{name}'.") :=
    .update
  cases dropped with
  | true => exact .bind noting fun _ => .pure _
  | false => exact .pure _

end Administration

end Testbed.Postgres
