import Mathlib.Data.Set.Insert
import Testbed.Proofs.Postgres.Requests
import Testbed.Proofs.Postgres.Vanished

/-!
# The laws of the database administration

A server executes the commands that it reads from the texts of statements.  On a server that
executes what it does not refuse, an operation on a database tells what it did, leaves all other
databases alone and closes every connection that it opened.
-/

namespace Testbed.Postgres

set_option autoImplicit false

open Act

variable {κ σ α : Type}

/-! What a server reads. -/

/-- The name in a quoted identifier behind its first quote, and the rest of the text.  Two quotes
stand for one, and a single quote ends the identifier. -/
def readQuoted : List Char → Option (List Char × List Char)
  | [] => none
  | '"' :: '"' :: cs => (readQuoted cs).map fun (name, rest) => ('"' :: name, rest)
  | '"' :: cs => some ([], cs)
  | c :: cs => (readQuoted cs).map fun (name, rest) => (c :: name, rest)

def named? (start stop text : String) : Option String := do
  let behind ← start.toList.isPrefixOf? text.toList
  let cs ← ['"'].isPrefixOf? behind
  let (name, rest) ← readQuoted cs
  if rest = stop.toList then some (String.ofList name) else none

inductive Command where
  | create (name : String)
  | drop (name : String)

/-- The command in the text of a statement, when it has the form of one. -/
def Statement.command? (x : Statement) : Option Command :=
  (named? "CREATE DATABASE " ";" x.text).map .create <|>
    (named? "DROP DATABASE " " WITH (FORCE);" x.text).map .drop

def quoted (cs : List Char) : List Char :=
  cs.flatMap fun c => if c == '"' then ['"', '"'] else [c]

theorem readQuoted_quoted (cs : List Char) {rest : List Char} (hr : rest.head? ≠ some '"') :
    readQuoted (quoted cs ++ '"' :: rest) = some (cs, rest) := by
  -- with a quote in front of the rest, the closing quote would be read as half of a pair
  induction cs with
  | nil =>
    cases rest with
    | nil => rfl
    | cons c rest =>
      have hc : c ≠ '"' := fun he => hr (congrArg some he)
      simp [quoted, readQuoted, hc]
  | cons c cs ih =>
    by_cases hc : c = '"'
    · subst hc
      have hq : quoted ('"' :: cs) = '"' :: '"' :: quoted cs := rfl
      rw [hq, List.cons_append, List.cons_append, readQuoted, ih]
      rfl
    · have hq : quoted (c :: cs) = c :: quoted cs := by simp [quoted, hc]
      rw [hq, List.cons_append, readQuoted, ih]
      · rfl
      · exact fun _ h _ => hc h
      · exact fun h => hc h

theorem isPrefixOf?_append (start rest : List Char) :
    start.isPrefixOf? (start ++ rest) = some rest := by
  induction start with
  | nil => cases rest <;> rfl
  | cons c start ih => simp [List.isPrefixOf?, ih]

theorem named?_quoteName (start name stop : String) (hs : stop.toList.head? ≠ some '"') :
    named? start stop (start ++ quoteName name ++ stop) = some name := by
  have hname : (quoteName name).toList = ['"'] ++ (quoted name.toList ++ ['"']) :=
    String.toList_ofList
  have ht : (start ++ quoteName name ++ stop).toList =
      start.toList ++ (['"'] ++ (quoted name.toList ++ '"' :: stop.toList)) := by
    rw [String.toList_append, String.toList_append, hname]
    simp only [List.append_assoc, List.cons_append, List.nil_append]
  rw [named?, ht, isPrefixOf?_append, Option.bind_eq_bind, Option.bind_some, isPrefixOf?_append,
    Option.bind_some, readQuoted_quoted _ hs]
  simp

theorem command?_create (name : String) :
    (Statement.createDatabase name).command? = some (.create name) := by
  have hn : named? "CREATE DATABASE " ";" (Statement.createDatabase name).text = some name :=
    named?_quoteName "CREATE DATABASE " name ";" (by decide)
  rw [Statement.command?, hn]
  rfl

theorem command?_drop (name : String) :
    (Statement.dropDatabase name).command? = some (.drop name) := by
  have hn : named? "DROP DATABASE " " WITH (FORCE);" (Statement.dropDatabase name).text =
      some name := named?_quoteName "DROP DATABASE " name " WITH (FORCE);" (by decide)
  have hc : named? "CREATE DATABASE " ";" (Statement.dropDatabase name).text = none := by
    change named? _ _ ("DROP DATABASE " ++ quoteName name ++ " WITH (FORCE);") = none
    have hstart (rest : List Char) : "CREATE DATABASE ".toList.isPrefixOf?
        ("DROP DATABASE ".toList ++ rest) = none := rfl
    rw [named?, String.toList_append, String.toList_append, List.append_assoc, hstart]
    rfl
  rw [Statement.command?, hn, hc]
  rfl

/-! Servers. -/

/-- A name that a server takes as it is; longer ones are cut. -/
def IsName (name : String) : Prop := name ≠ "" ∧ name.utf8ByteSize ≤ 63

def serverFault (kind : SqlKind) (code : Option String) (detail : String) : Fault :=
  Fault.of (.sql kind code detail)

/-- A client of a server with some databases.  The server executes a statement exactly when it
reports success, and two codes say that there was nothing to do. -/
structure Administers (a : SqlAccess κ σ) (databases : σ → Set String) : Prop where
  connect : ∀ settings s, databases (a.connect settings s).2 = databases s
  autocommit : ∀ c s, ∃ s', a.autocommit c s = (.ok (), s') ∧ databases s' = databases s
  close : ∀ c s, ∃ s', a.close c s = (.ok (), s') ∧ databases s' = databases s
  noted : ∀ level topic text s, databases (a.diary.write level topic text s) = databases s
  failed : ∀ c x s f s', a.execute c x s = (.error f, s') →
    databases s' = databases s ∧ ∃ kind code detail, f = serverFault kind code detail
  pinged : ∀ c s row s', a.execute c .ping s = (.ok row, s') → databases s' = databases s
  found : ∀ c name s row s', IsName name → a.execute c (.findDatabase name) s = (.ok row, s') →
    databases s' = databases s ∧ (row = true ↔ name ∈ databases s)
  created : ∀ c x name s row s', x.command? = some (.create name) → IsName name →
    a.execute c x s = (.ok row, s') →
    name ∉ databases s ∧ databases s' = insert name (databases s)
  duplicate : ∀ c x name s kind detail s', x.command? = some (.create name) → IsName name →
    a.execute c x s = (.error (serverFault kind (some duplicateDatabaseCode) detail), s') →
    name ∈ databases s
  dropped : ∀ c x name s row s', x.command? = some (.drop name) → IsName name →
    a.execute c x s = (.ok row, s') → name ∈ databases s ∧ databases s' = databases s \ {name}
  missing : ∀ c x name s kind detail s', x.command? = some (.drop name) → IsName name →
    a.execute c x s = (.error (serverFault kind (some missingDatabaseCode) detail), s') →
    name ∉ databases s

theorem serverFault_ordinary (kind : SqlKind) (code : Option String) (detail : String) :
    (serverFault kind code detail).isOrdinary = true := rfl

theorem serverFault_isSql (kind : SqlKind) (code : Option String) (detail : String) :
    isSqlFault (serverFault kind code detail) = true := rfl

theorem serverFault_hasSqlCode (kind : SqlKind) (code : Option String) (detail wanted : String) :
    (Subject.fault (serverFault kind code detail)).hasSqlCode wanted = (code == some wanted) :=
  Bool.or_false _

/-! What passes between the client and the server. -/

/-- Opening a connection and checking it. -/
inductive Opening (a : SqlAccess κ σ) (settings : Dsn.Settings) :
    σ → Except Fault κ → List (Request κ) → σ → Prop
  | refused {s s' : σ} {f : Fault} : a.connect settings s = (.error f, s') →
      Opening a settings s (.error f) [.connect settings (.error f)] s'
  | unanswered {s s₁ s₂ s₃ s' : σ} {c : κ} {f : Fault} : a.connect settings s = (.ok c, s₁) →
      a.autocommit c s₁ = (.ok (), s₂) → a.execute c .ping s₂ = (.error f, s₃) →
      a.close c s₃ = (.ok (), s') →
      Opening a settings s (.error f)
        [.connect settings (.ok c), .autocommit c (.ok ()), .execute c .ping (.error f),
          .close c (.ok ())] s'
  | opened {s s₁ s₂ s' : σ} {c : κ} {row : Bool} : a.connect settings s = (.ok c, s₁) →
      a.autocommit c s₁ = (.ok (), s₂) → a.execute c .ping s₂ = (.ok row, s') →
      Opening a settings s (.ok c)
        [.connect settings (.ok c), .autocommit c (.ok ()), .execute c .ping (.ok row)] s'

/-- Executing one statement with a connection of its own. -/
inductive Dialogue (a : SqlAccess κ σ) (settings : Dsn.Settings) (x : Statement)
    (reading : Except Fault Bool → Except Fault Bool) :
    σ → Except Fault Bool → List (Request κ) → σ → Prop
  | unopened {s s' : σ} {f : Fault} {log : List (Request κ)} :
      Opening a settings s (.error f) log s' → Dialogue a settings x reading s (.error f) log s'
  | executed {s s₁ s₂ s' : σ} {c : κ} {q : Except Fault Bool} {log : List (Request κ)} :
      Opening a settings s (.ok c) log s₁ → a.execute c x s₁ = (q, s₂) →
      a.close c s₂ = (.ok (), s') →
      Dialogue a settings x reading s (reading q) (log ++ [.execute c x q, .close c (.ok ())]) s'

/-- Every connection that was opened was closed later on. -/
def AllClosed : List (Request κ) → Prop
  | [] => True
  | .connect _ (.ok c) :: rest => .close c (.ok ()) ∈ rest ∧ AllClosed rest
  | _ :: rest => AllClosed rest

section Dialogue

variable {a : SqlAccess κ σ} {databases : σ → Set String} {settings : Dsn.Settings}
  {x : Statement} {reading : Except Fault Bool → Except Fault Bool} {s s' : σ}
  {log : List (Request κ)}

theorem always_of_eq {y : Act σ α} {after : Act σ Unit} {s₁ s₂ : σ} {r : Except Fault α}
    (h : y s = (r, s₁)) (ha : after s₁ = (.ok (), s₂)) : Act.always y after s = (r, s₂) := by
  cases r with
  | ok b =>
    rw [Act.always, bind_of_ok (onFault_of_ok h), bind_of_ok ha]
    rfl
  | error e =>
    have hy : Act.onFault y after s = (.error e, s₂) := by simp only [Act.onFault, h, ha]
    exact bind_of_error hy

theorem SqlAccess.ping_of_eq {c : κ} {r : Except Fault Bool}
    (h : a.execute c .ping s = (r, s')) : a.ping c s = (r.map fun _ => (), s') := by
  cases r with
  | ok row => exact bind_of_ok h
  | error f => exact bind_of_error h

theorem openChecked_opening (h : Administers a databases) (settings : Dsn.Settings) (timeout : Int)
    (s : σ) : ∃ r log s', a.recorded.openChecked settings (some timeout) ([], s) = (r, (log, s')) ∧
      Opening a (Entries.put "connect_timeout" (Decimal.ofInt timeout) settings) s r log s' := by
  set used := Entries.put "connect_timeout" (Decimal.ofInt timeout) settings
  rcases hc : a.connect used s with ⟨f | c, s₁⟩
  · have hc' : a.recorded.connect used ([], s) = (.error f, ([.connect used (.error f)], s₁)) :=
      noted_of_eq _ [] hc
    exact ⟨.error f, _, s₁, bind_of_error hc', .refused hc⟩
  · have hc' : a.recorded.connect used ([], s) = (.ok c, ([.connect used (.ok c)], s₁)) :=
      noted_of_eq _ [] hc
    obtain ⟨s₂, ha, -⟩ := h.autocommit c s₁
    have ha' : a.recorded.autocommit c ([.connect used (.ok c)], s₁) =
        (.ok (), ([.connect used (.ok c), .autocommit c (.ok ())], s₂)) := noted_of_eq _ _ ha
    rcases hp : a.execute c .ping s₂ with ⟨f | row, s₃⟩
    · have hp' : a.recorded.execute c .ping ([.connect used (.ok c), .autocommit c (.ok ())], s₂) =
          (.error f, ([.connect used (.ok c), .autocommit c (.ok ()),
            .execute c .ping (.error f)], s₃)) := noted_of_eq _ _ hp
      obtain ⟨-, kind, code, detail, rfl⟩ := h.failed c .ping s₂ f s₃ hp
      obtain ⟨s₄, hx, -⟩ := h.close c s₃
      have hx' : a.recorded.close c ([.connect used (.ok c), .autocommit c (.ok ()),
          .execute c .ping (.error (serverFault kind code detail))], s₃) = _ := noted_of_eq _ _ hx
      have hping := attempt_of_ordinary (SqlAccess.ping_of_eq hp')
        (serverFault_ordinary kind code detail)
      refine ⟨_, _, s₄, ?_, .unanswered hc ha hp hx⟩
      exact (bind_of_ok hc').trans ((bind_of_ok ha').trans ((bind_of_ok hping).trans
        (bind_of_ok hx')))
    · have hp' : a.recorded.execute c .ping ([.connect used (.ok c), .autocommit c (.ok ())], s₂) =
          (.ok row, ([.connect used (.ok c), .autocommit c (.ok ()),
            .execute c .ping (.ok row)], s₃)) := noted_of_eq _ _ hp
      have hping := attempt_of_ok (SqlAccess.ping_of_eq hp')
      refine ⟨.ok c, _, s₃, ?_, .opened hc ha hp⟩
      exact (bind_of_ok hc').trans ((bind_of_ok ha').trans (bind_of_ok hping))

theorem withMaintenance_dialogue (h : Administers a databases)
    (reading : Except Fault Bool → Except Fault Bool) {dsn : String}
    (hs : settingsOf dsn = .ok settings) (timeout : Int) {body : κ → Act (Logged κ σ) Bool}
    (hb : ∀ c l s q s', a.execute c x s = (q, s') →
      body c (l, s) = (reading q, (l ++ [.execute c x q], s'))) (s : σ) :
    ∃ settings r log s', a.recorded.withMaintenance timeout dsn body ([], s) = (r, (log, s')) ∧
      Dialogue a settings x reading s r log s' := by
  obtain ⟨r, log, s₁, ho, hopening⟩ := openChecked_opening h
    (Entries.put "dbname" maintenanceDatabase settings) timeout s
  have hrun : a.recorded.withMaintenance timeout dsn body ([], s) =
      (a.recorded.openChecked (Entries.put "dbname" maintenanceDatabase settings) (some timeout)
        >>= fun c => Act.always (body c) (a.recorded.close c)) ([], s) := by
    rw [SqlAccess.withMaintenance, hs]
    exact bind_of_ok rfl
  rw [hrun]
  cases r with
  | error f => exact ⟨_, .error f, log, s₁, bind_of_error ho, .unopened hopening⟩
  | ok c =>
    rcases hx : a.execute c x s₁ with ⟨q, s₂⟩
    obtain ⟨s₃, hclose, -⟩ := h.close c s₂
    have hclose' : a.recorded.close c (_, s₂) = _ :=
      noted_of_eq _ (log ++ [.execute c x q]) hclose
    rw [List.append_assoc] at hclose'
    refine ⟨_, reading q, _, s₃, ?_, .executed hopening hx hclose⟩
    exact (bind_of_ok ho).trans (always_of_eq (hb c log s₁ q s₂ hx) hclose')

theorem Administers.connect_eq (h : Administers a databases) {r : Except Fault κ}
    (hc : a.connect settings s = (r, s')) : databases s' = databases s := by
  have hu := h.connect settings s
  rwa [hc] at hu

theorem Administers.autocommit_eq (h : Administers a databases) {c : κ} {r : Except Fault Unit}
    (ha : a.autocommit c s = (r, s')) : databases s' = databases s := by
  obtain ⟨t, ha', hu⟩ := h.autocommit c s
  cases ha.symm.trans ha'
  exact hu

theorem Administers.close_eq (h : Administers a databases) {c : κ} {r : Except Fault Unit}
    (hx : a.close c s = (r, s')) : databases s' = databases s := by
  obtain ⟨t, hx', hu⟩ := h.close c s
  cases hx.symm.trans hx'
  exact hu

theorem Opening.unchanged (h : Administers a databases) {r : Except Fault κ}
    (ho : Opening a settings s r log s') : databases s' = databases s := by
  cases ho with
  | refused hc => exact h.connect_eq hc
  | unanswered hc ha hp hx =>
    rw [h.close_eq hx, (h.failed _ _ _ _ _ hp).1, h.autocommit_eq ha, h.connect_eq hc]
  | opened hc ha hp => rw [h.pinged _ _ _ _ hp, h.autocommit_eq ha, h.connect_eq hc]

theorem Opening.blamed {f : Fault} (ho : Opening a settings s (.error f) log s') :
    ∃ q ∈ log, q.fault? = some f := by
  cases ho with
  | refused _ => exact ⟨_, List.mem_cons_self, rfl⟩
  | unanswered _ _ _ _ =>
    exact ⟨_, List.mem_cons_of_mem _ (List.mem_cons_of_mem _ List.mem_cons_self), rfl⟩

theorem Dialogue.allClosed {r : Except Fault Bool} (hd : Dialogue a settings x reading s r log s') :
    AllClosed log := by
  cases hd with
  | unopened ho => cases ho <;> simp [AllClosed]
  | executed ho _ _ => cases ho with | opened _ _ _ => simp [AllClosed]

theorem Dialogue.told {r : Except Fault Bool} (hd : Dialogue a settings x reading s r log s')
    (hx : x ≠ .ping) {c : κ} {q : Except Fault Bool} (hm : .execute c x q ∈ log) :
    r = reading q := by
  cases hd with
  | unopened ho => cases ho <;> simp [hx] at hm
  | executed ho _ _ =>
    cases ho with
    | opened _ _ _ =>
      obtain ⟨rfl, rfl⟩ : c = _ ∧ q = _ := by simpa [hx] using hm
      rfl

/-- Either the statement was executed with an open connection, or nothing was done. -/
theorem Dialogue.outcome (h : Administers a databases) {r : Except Fault Bool}
    (hd : Dialogue a settings x reading s r log s') :
    (∃ f, r = .error f ∧ databases s' = databases s ∧ ∃ q ∈ log, q.fault? = some f) ∨
      ∃ c t q t', databases t = databases s ∧ a.execute c x t = (q, t') ∧
        databases s' = databases t' ∧ r = reading q ∧ .execute c x q ∈ log := by
  cases hd with
  | unopened ho => exact .inl ⟨_, rfl, ho.unchanged h, ho.blamed⟩
  | executed ho hx hclose =>
    exact .inr ⟨_, _, _, _, ho.unchanged h, hx, h.close_eq hclose, rfl, by simp⟩

/-- How the result of a statement is read that may find its work done already. -/
def effectUnless (done : Subject → Bool) : Except Fault Bool → Except Fault Bool
  | .ok _ => .ok true
  | .error f => if isSqlFault f && done (.fault f) then .ok false else .error f

/-- A statement took effect, found its work done already, or was not executed. -/
theorem Dialogue.effect (h : Administers a databases) {code : String} {r : Except Fault Bool}
    (hd : Dialogue a settings x (effectUnless (·.hasSqlCode code)) s r log s') :
    (r = .ok true ∧ ∃ c t row t', databases t = databases s ∧ a.execute c x t = (.ok row, t') ∧
        databases s' = databases t') ∨
      (r = .ok false ∧ databases s' = databases s ∧ ∃ c t kind detail t',
        databases t = databases s ∧
          a.execute c x t = (.error (serverFault kind (some code) detail), t')) ∨
      ∃ f, r = .error f ∧ databases s' = databases s ∧ ∃ q ∈ log, q.fault? = some f := by
  rcases hd.outcome h with hf | ⟨c, t, q, t', ht, hx, hs, rfl, hmem⟩
  · exact .inr (.inr hf)
  · cases q with
    | ok row => exact .inl ⟨rfl, c, t, row, t', ht, hx, hs⟩
    | error f =>
      obtain ⟨hu, kind, found, detail, rfl⟩ := h.failed _ _ _ _ _ hx
      have hread : effectUnless (·.hasSqlCode code) (.error (serverFault kind found detail)) =
          if found == some code then .ok false else .error (serverFault kind found detail) := by
        rw [effectUnless, serverFault_isSql, serverFault_hasSqlCode, Bool.true_and]
      rw [hread]
      by_cases hc : found = some code
      · subst hc
        rw [beq_self_eq_true, if_pos rfl]
        exact .inr (.inl ⟨rfl, hs.trans (hu.trans ht), c, t, kind, detail, t', ht, hx⟩)
      · rw [if_neg (by simpa using hc)]
        exact .inr (.inr ⟨_, rfl, hs.trans (hu.trans ht), _, hmem, rfl⟩)

theorem executeUnless_of_eq (h : Administers a databases) (done : Subject → Bool) (c : κ)
    (l : List (Request κ)) (t : σ) (q : Except Fault Bool) (t' : σ)
    (hx : a.execute c x t = (q, t')) : a.recorded.executeUnless c x done (l, t) =
      (effectUnless done q, (l ++ [.execute c x q], t')) := by
  have hx' : a.recorded.execute c x (l, t) = (q, (l ++ [.execute c x q], t')) := noted_of_eq _ l hx
  cases q with
  | ok row => exact bind_of_ok (attempt_of_ok hx')
  | error f =>
    obtain ⟨-, kind, code, detail, rfl⟩ := h.failed _ _ _ _ _ hx
    refine (bind_of_ok (attempt_of_ordinary hx' (serverFault_ordinary kind code detail))).trans ?_
    dsimp only
    rw [effectUnless]
    split <;> rfl

theorem report_of_eq (h : Administers a databases) {y : Act (Logged κ σ) Bool} (text : String)
    {r : Except Fault Bool} (hy : y ([], s) = (r, (log, s'))) :
    ∃ t, (do
      let made ← y
      if made then a.recorded.diary.debug .postgresDb text
      pure made) ([], s) = (r, (log, t)) ∧ databases t = databases s' := by
  cases r with
  | error f => exact ⟨s', bind_of_error hy, rfl⟩
  | ok made =>
    rw [bind_of_ok hy]
    cases made with
    | false => exact ⟨s', rfl, rfl⟩
    | true => exact ⟨_, rfl, h.noted .debug .postgresDb text s'⟩

end Dialogue

/-! The operations. -/

/-- What an operation tells that has something to do when `due` holds of the databases. -/
structure Effected (databases : σ → Set String) (due : Set String → Prop) (x : Statement)
    (done : Subject → Bool) (s : σ) (r : Except Fault Bool) (log : List (Request κ)) (s' : σ) :
    Prop where
  changed : r = .ok true ↔ due (databases s) ∧ ¬ due (databases s')
  idle : ∀ b, r = .ok b → (b = false ↔ ¬ due (databases s))
  kept : r = .ok false → databases s' = databases s
  told : ∀ c q, .execute c x q ∈ log → r = effectUnless done q

structure Confined (databases : σ → Set String) (name : String) (s : σ) (r : Except Fault Bool)
    (log : List (Request κ)) (s' : σ) : Prop where
  others : ∀ other, other ≠ name → (other ∈ databases s' ↔ other ∈ databases s)
  raised : ∀ f, r = .error f → databases s' = databases s ∧ ∃ q ∈ log, q.fault? = some f
  closed : AllClosed log

section Operations

variable {a : SqlAccess κ σ} {databases : σ → Set String} {settings : Dsn.Settings} {dsn : String}
  {name : String} {s s' t : σ} {log : List (Request κ)} {r : Except Fault Bool}

theorem settingsOf_of_parse (h : Dsn.parse dsn = .ok settings) : settingsOf dsn = .ok settings := by
  rw [settingsOf, h]
  rfl

/-- A statement that makes a set of databases `next` where there is something to do, and that is
refused with a code where there is not. -/
theorem Dialogue.effected (h : Administers a databases) {x : Statement} {code : String}
    (hd : Dialogue a settings x (effectUnless (·.hasSqlCode code)) s r log t)
    (hx : x ≠ .ping) (hs' : databases s' = databases t) (name : String)
    (due : Set String → Prop) (next : Set String → Set String)
    (hdone : ∀ c t row t', a.execute c x t = (.ok row, t') →
      due (databases t) ∧ databases t' = next (databases t))
    (hidle : ∀ c t kind detail t', a.execute c x t =
      (.error (serverFault kind (some code) detail), t') → ¬ due (databases t))
    (hnext : ∀ names, ¬ due (next names))
    (hothers : ∀ names other, other ≠ name → (other ∈ next names ↔ other ∈ names)) :
    Effected databases due x (·.hasSqlCode code) s r log s' ∧
      Confined databases name s r log s' := by
  have hclosed := hd.allClosed
  have htold (c : κ) (q : Except Fault Bool) (hm : .execute c x q ∈ log) :
      r = effectUnless (·.hasSqlCode code) q := hd.told hx hm
  rcases hd.effect h with ⟨rfl, c, t, row, t', ht, hx, hu⟩ |
    ⟨rfl, hu, c, t, kind, detail, t', ht, hx⟩ | ⟨f, rfl, hu, hf⟩
  · obtain ⟨hdue, hn⟩ := hdone c t row t' hx
    rw [ht] at hdue hn
    have hafter : databases s' = next (databases s) := by rw [hs', hu, hn]
    refine ⟨⟨⟨fun _ => ⟨hdue, ?_⟩, fun _ => rfl⟩, ?_, by rintro ⟨⟩, htold⟩, ?_, by rintro _ ⟨⟩,
      hclosed⟩
    · rw [hafter]
      exact hnext _
    · rintro _ ⟨⟩
      exact ⟨by rintro ⟨⟩, fun hn => absurd hdue hn⟩
    · intro other hother
      rw [hafter]
      exact hothers _ other hother
  · have hidle := hidle c t kind detail t' hx
    rw [ht] at hidle
    have hsame : databases s' = databases s := hs'.trans hu
    refine ⟨⟨⟨by rintro ⟨⟩, fun hdue => absurd hdue.1 hidle⟩, ?_, fun _ => hsame, htold⟩, ?_,
      by rintro _ ⟨⟩, hclosed⟩
    · rintro _ ⟨⟩
      exact ⟨fun _ => hidle, fun _ => rfl⟩
    · intro other _
      rw [hsame]
  · have hsame : databases s' = databases s := hs'.trans hu
    refine ⟨⟨⟨by rintro ⟨⟩, fun hdue => ?_⟩, by rintro _ ⟨⟩, by rintro ⟨⟩, htold⟩, ?_, ?_, hclosed⟩
    · rw [hsame] at hdue
      exact absurd hdue.1 hdue.2
    · intro other _
      rw [hsame]
    · rintro _ ⟨⟩
      exact ⟨hsame, hf⟩

theorem createIfMissing_effected (h : Administers a databases) (hs : settingsOf dsn = .ok settings)
    (hn : databaseName dsn = .ok name) (hname : IsName name) (timeout : Int) (s : σ) :
    ∃ r log s', a.recorded.createIfMissing timeout dsn ([], s) = (r, (log, s')) ∧
      Effected databases (name ∉ ·) (.createDatabase name) Subject.isDuplicateDatabase s r log s' ∧
      Confined databases name s r log s' := by
  obtain ⟨used, r, log, t, hrun, hd⟩ := withMaintenance_dialogue h _ hs timeout
    (executeUnless_of_eq (x := .createDatabase name) h Subject.isDuplicateDatabase) s
  obtain ⟨s', hreport, hs'⟩ := report_of_eq h s!"Created database '{name}'." hrun
  refine ⟨r, log, s', ?_, ?_⟩
  · rw [SqlAccess.createIfMissing, hn]
    exact (bind_of_ok rfl).trans hreport
  · refine hd.effected h (by rintro ⟨⟩) hs' name (name ∉ ·) (insert name) ?_ ?_ ?_ ?_
    · exact fun c t row t' hx => h.created c _ name t row t' (command?_create name) hname hx
    · intro c t kind detail t' hx hdue
      exact hdue (h.duplicate c _ name t kind detail t' (command?_create name) hname hx)
    · exact fun names hdue => hdue (Set.mem_insert name names)
    · exact fun names other hother => Set.mem_insert_iff.trans (or_iff_right hother)

theorem dropIfExists_effected (h : Administers a databases) (hs : settingsOf dsn = .ok settings)
    (hn : databaseName dsn = .ok name) (hname : IsName name) (timeout : Int) (s : σ) :
    ∃ r log s', a.recorded.dropIfExists timeout dsn ([], s) = (r, (log, s')) ∧
      Effected databases (name ∈ ·) (.dropDatabase name) Subject.isDatabaseMissing s r log s' ∧
      Confined databases name s r log s' := by
  obtain ⟨used, r, log, t, hrun, hd⟩ := withMaintenance_dialogue h _ hs timeout
    (executeUnless_of_eq (x := .dropDatabase name) h Subject.isDatabaseMissing) s
  obtain ⟨s', hreport, hs'⟩ := report_of_eq h s!"Dropped database '{name}'." hrun
  refine ⟨r, log, s', ?_, ?_⟩
  · rw [SqlAccess.dropIfExists, hn]
    exact (bind_of_ok rfl).trans hreport
  · refine hd.effected h (by rintro ⟨⟩) hs' name (name ∈ ·) (· \ {name}) ?_ ?_ ?_ ?_
    · exact fun c t row t' hx => h.dropped c _ name t row t' (command?_drop name) hname hx
    · exact fun c t kind detail t' hx =>
        h.missing c _ name t kind detail t' (command?_drop name) hname hx
    · exact fun names hdue => hdue.2 rfl
    · exact fun names other hother => and_iff_left hother

theorem databaseExists_confined (h : Administers a databases) (hs : settingsOf dsn = .ok settings)
    (hn : databaseName dsn = .ok name) (hname : IsName name) (timeout : Int) (s : σ) :
    ∃ r log s', a.recorded.databaseExists timeout dsn ([], s) = (r, (log, s')) ∧
      (∀ b, r = .ok b → (b = true ↔ name ∈ databases s)) ∧ databases s' = databases s ∧
      (∀ c q, .execute c (.findDatabase name) q ∈ log → r = q) ∧
      Confined databases name s r log s' := by
  obtain ⟨used, r, log, s', hrun, hd⟩ := withMaintenance_dialogue h id hs timeout
    (fun c l t q t' hx => noted_of_eq (.execute c (.findDatabase name)) l hx) s
  have hclosed := hd.allClosed
  have htold (c : κ) (q : Except Fault Bool) (hm : .execute c (.findDatabase name) q ∈ log) :
      r = q := hd.told (by rintro ⟨⟩) hm
  refine ⟨r, log, s', ?_, ?_⟩
  · rw [SqlAccess.databaseExists, hn]
    exact (bind_of_ok rfl).trans hrun
  · rcases hd.outcome h with ⟨f, rfl, hu, hf⟩ | ⟨c, t, q, t', ht, hx, hu, rfl, hmem⟩
    · refine ⟨by rintro _ ⟨⟩, hu, htold, fun other _ => by rw [hu], ?_, hclosed⟩
      rintro _ ⟨⟩
      exact ⟨hu, hf⟩
    · cases r with
      | ok row =>
        obtain ⟨hsame, hrow⟩ := h.found c name t row t' hname hx
        rw [ht] at hsame hrow
        have hsame := hu.trans hsame
        refine ⟨?_, hsame, htold, fun other _ => by rw [hsame], by rintro _ ⟨⟩, hclosed⟩
        rintro _ ⟨⟩
        exact hrow
      | error f =>
        have hsame := hu.trans ((h.failed _ _ _ _ _ hx).1.trans ht)
        refine ⟨by rintro _ ⟨⟩, hsame, htold, fun other _ => by rw [hsame], ?_, hclosed⟩
        rintro _ ⟨⟩
        exact ⟨hsame, _, hmem, rfl⟩

end Operations

/-- Creating, dropping and looking for the database that a connection string names, on a server that
executes what it does not refuse. -/
theorem administration_lawful {a : SqlAccess κ σ} {databases : σ → Set String}
    (h : Administers a databases) {dsn name : String} {settings : Dsn.Settings}
    (hparse : Dsn.parse dsn = .ok settings) (hvalue : settings.value "dbname" = name)
    (hname : IsName name) (timeout : Int) (s : σ) :
    (∃ r log s', a.recorded.createIfMissing timeout dsn ([], s) = (r, (log, s')) ∧
      (r = .ok true ↔ name ∉ databases s ∧ name ∈ databases s') ∧
      (∀ b, r = .ok b → (b = false ↔ name ∈ databases s)) ∧
      (r = .ok false → databases s' = databases s) ∧
      (∀ c q, .execute c (.createDatabase name) q ∈ log →
        r = effectUnless Subject.isDuplicateDatabase q) ∧
      Confined databases name s r log s') ∧
    (∃ r log s', a.recorded.dropIfExists timeout dsn ([], s) = (r, (log, s')) ∧
      (r = .ok true ↔ name ∈ databases s ∧ name ∉ databases s') ∧
      (∀ b, r = .ok b → (b = false ↔ name ∉ databases s)) ∧
      (r = .ok false → databases s' = databases s) ∧
      (∀ c q, .execute c (.dropDatabase name) q ∈ log →
        r = effectUnless Subject.isDatabaseMissing q) ∧
      Confined databases name s r log s') ∧
    ∃ r log s', a.recorded.databaseExists timeout dsn ([], s) = (r, (log, s')) ∧
      (∀ b, r = .ok b → (b = true ↔ name ∈ databases s)) ∧ databases s' = databases s ∧
      (∀ c q, .execute c (.findDatabase name) q ∈ log → r = q) ∧
      Confined databases name s r log s' := by
  subst hvalue
  have hs := settingsOf_of_parse hparse
  have hn := databaseName_of_settings hs hname.1
  refine ⟨?_, ?_, databaseExists_confined h hs hn hname timeout s⟩
  · obtain ⟨r, log, s', hrun, he, hc⟩ := createIfMissing_effected h hs hn hname timeout s
    have hchanged := he.changed
    have hidle := he.idle
    rw [not_not] at hchanged hidle
    exact ⟨r, log, s', hrun, hchanged, hidle, he.kept, he.told, hc⟩
  · obtain ⟨r, log, s', hrun, he, hc⟩ := dropIfExists_effected h hs hn hname timeout s
    exact ⟨r, log, s', hrun, he.changed, he.idle, he.kept, he.told, hc⟩

namespace Registry

def existing (name : String) : Fault :=
  serverFault (.condition .duplicateDatabase) (some duplicateDatabaseCode) name

def absent (name : String) : Fault :=
  serverFault (.condition .invalidCatalogName) (some missingDatabaseCode) name

def obey (c : Command) : Act (List String) Bool := fun s =>
  match c with
  | .create name => if name ∈ s then (.error (existing name), s) else (.ok false, name :: s)
  | .drop name =>
    if name ∈ s then (.ok false, s.filter (· != name)) else (.error (absent name), s)

def holds (s : List String) : Statement → Bool
  | .findDatabase name => decide (name ∈ s)
  | _ => true

/-- A server that holds nothing but names. -/
def execute (x : Statement) : Act (List String) Bool :=
  match x.command? with
  | some c => obey c
  | none => fun s => (.ok (holds s x), s)

def access : SqlAccess Unit (List String) where
  connect _ := pure ()
  autocommit _ := pure ()
  execute _ := execute
  close _ := pure ()
  diary := { write := fun _ _ _ s => s }

theorem execute_of_command {x : Statement} {c : Command} (hx : x.command? = some c)
    (s : List String) : execute x s = obey c s := by
  rw [execute, hx]

theorem command?_find (name : String) : (Statement.findDatabase name).command? = none := by
  have hc : named? "CREATE DATABASE " ";" (Statement.findDatabase name).text = none := by
    have hn : (named? "CREATE DATABASE " ";"
        "SELECT 1 FROM pg_database WHERE datname = %s;").isNone = true := by decide +kernel
    exact Option.isNone_iff_eq_none.mp hn
  have hd : named? "DROP DATABASE " " WITH (FORCE);" (Statement.findDatabase name).text = none := by
    have hn : (named? "DROP DATABASE " " WITH (FORCE);"
        "SELECT 1 FROM pg_database WHERE datname = %s;").isNone = true := by decide +kernel
    exact Option.isNone_iff_eq_none.mp hn
  rw [Statement.command?, hc, hd]
  rfl

theorem obey_failed {c : Command} {s s' : List String} {f : Fault}
    (h : obey c s = (.error f, s')) : s' = s ∧
      ((∃ name, c = .create name ∧ name ∈ s ∧ f = existing name) ∨
        ∃ name, c = .drop name ∧ name ∉ s ∧ f = absent name) := by
  cases c with
  | create name =>
    simp only [obey] at h
    split at h <;> cases h
    exact ⟨rfl, .inl ⟨name, rfl, by assumption, rfl⟩⟩
  | drop name =>
    simp only [obey] at h
    split at h <;> cases h
    exact ⟨rfl, .inr ⟨name, rfl, by assumption, rfl⟩⟩

theorem administers : Administers access fun s => {name | name ∈ s} where
  connect _ _ := rfl
  autocommit _ s := ⟨s, rfl, rfl⟩
  close _ s := ⟨s, rfl, rfl⟩
  noted _ _ _ _ := rfl
  failed _ x s f s' h := by
    cases hx : x.command? with
    | none =>
      have hrun : execute x s = (.ok (holds s x), s) := by rw [execute, hx]
      cases hrun.symm.trans h
    | some c =>
      obtain ⟨rfl, ⟨name, -, -, rfl⟩ | ⟨name, -, -, rfl⟩⟩ :=
        obey_failed ((execute_of_command hx s).symm.trans h)
      · exact ⟨rfl, _, _, _, rfl⟩
      · exact ⟨rfl, _, _, _, rfl⟩
  pinged _ s row s' h := by
    cases h
    rfl
  found _ name s row s' _ h := by
    have hrun : execute (.findDatabase name) s = (.ok (decide (name ∈ s)), s) := by
      rw [execute, command?_find]
      rfl
    cases hrun.symm.trans h
    exact ⟨rfl, decide_eq_true_iff⟩
  created _ x name s row s' hx _ h := by
    have h := (execute_of_command hx s).symm.trans h
    simp only [obey] at h
    split at h <;> cases h
    exact ⟨by assumption, by ext; simp⟩
  duplicate _ x name s kind detail s' hx _ h := by
    obtain ⟨-, ⟨other, he, hm, -⟩ | ⟨other, he, -⟩⟩ :=
      obey_failed ((execute_of_command hx s).symm.trans h)
    · cases he
      exact hm
    · cases he
  dropped _ x name s row s' hx _ h := by
    have h := (execute_of_command hx s).symm.trans h
    simp only [obey] at h
    split at h <;> cases h
    exact ⟨by assumption, by ext; simp⟩
  missing _ x name s kind detail s' hx _ h := by
    obtain ⟨-, ⟨other, he, -⟩ | ⟨other, he, hm, -⟩⟩ :=
      obey_failed ((execute_of_command hx s).symm.trans h)
    · cases he
    · cases he
      exact hm

end Registry

/-- Dropping a database that there is, next to the maintenance database. -/
theorem administration_lawful_of_registry : ∃ log s',
    Registry.access.recorded.dropIfExists 8 "postgres://postgres@localhost/orders"
      ([], ["postgres", "orders"]) = (.ok true, (log, s')) ∧
    AllClosed log ∧ "orders" ∉ s' ∧ "postgres" ∈ s' := by
  have hread : (Dsn.parse "postgres://postgres@localhost/orders").toOption.map
      (·.value "dbname") = some "orders" := by decide +kernel
  have hname : IsName "orders" := ⟨by decide, by decide⟩
  cases hparse : Dsn.parse "postgres://postgres@localhost/orders" with
  | error p =>
    rw [hparse] at hread
    cases hread
  | ok settings =>
    rw [hparse] at hread
    obtain ⟨-, ⟨r, log, s', hrun, htrue, -, -, -, hconfined⟩, -⟩ := administration_lawful
      Registry.administers hparse (Option.some.inj hread) hname 8 ["postgres", "orders"]
    have hok : (Registry.access.recorded.dropIfExists 8 "postgres://postgres@localhost/orders"
        ([], ["postgres", "orders"])).1.toOption = some true := by decide +kernel
    rw [hrun] at hok
    cases r with
    | error f => cases hok
    | ok b =>
      cases hok
      have hpostgres := (hconfined.others "postgres" (by decide)).mpr (by simp)
      exact ⟨log, s', hrun, hconfined.closed, (htrue.mp rfl).2, hpostgres⟩

end Testbed.Postgres
