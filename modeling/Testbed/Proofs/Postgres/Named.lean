import Testbed.Proofs.Dsn.Names
import Testbed.Proofs.Postgres.Administration
import Testbed.Proofs.Postgres.Dropped

/-!
# Databases that are named in connection strings

The administration takes the name of a database from a connection string.  It works on the database
that the connection string was made for when the name is read back from it.
-/

namespace Testbed.Postgres

set_option autoImplicit false

open Act

variable {κ σ : Type}

/-! One statement with a connection of its own. -/

/-- A request that executes at most a check of a connection or one statement. -/
def Request.Speaks (x : Statement) : Request κ → Prop
  | .execute _ y _ => y = .ping ∨ y = x
  | _ => True

def Speaks (x : Statement) (o : Logged κ σ) : Prop := ∀ q ∈ o.1, q.Speaks x

/-- An operation that executes one statement, and has executed it when it returns. -/
structure Performs (x : Statement) (y : Act (Logged κ σ) Bool) : Prop where
  only : Keeps (Speaks x) y
  done : ∀ o b o', y o = (.ok b, o') → ∃ c q, .execute c x q ∈ o'.1

section Performs

variable {a : SqlAccess κ σ} {x : Statement}

theorem execute_speaks {y : Statement} (hy : y = .ping ∨ y = x) (c : κ) :
    Keeps (Speaks x) (a.recorded.execute c y) := noted_keeps_all fun _ => hy

theorem close_speaks (c : κ) : Keeps (Speaks x) (a.recorded.close c) :=
  noted_keeps_all fun _ => trivial

theorem executed {c : κ} {q : Except Fault Bool} {o o' : Logged κ σ}
    (h : a.recorded.execute c x o = (q, o')) : .execute c x q ∈ o'.1 := by
  rw [noted_list h]
  exact List.mem_append_right _ (List.mem_singleton_self _)

theorem openChecked_speaks (settings : Dsn.Settings) (timeout : Option Int) :
    Keeps (Speaks x) (a.recorded.openChecked settings timeout) := by
  have opened (settings : Dsn.Settings) : Keeps (Speaks x) (a.recorded.connect settings) :=
    noted_keeps_all fun _ => trivial
  have prepared (c : κ) : Keeps (Speaks x) (a.recorded.autocommit c) :=
    noted_keeps_all fun _ => trivial
  refine .bind (opened _) fun c => .bind (prepared c) fun _ => ?_
  have pinged : Keeps (Speaks x) (a.recorded.ping c) :=
    .bind (execute_speaks (.inl rfl) c) fun _ => .pure ()
  refine .bind pinged.attempt fun answered => ?_
  cases answered with
  | ok _ => exact .pure c
  | error e => exact .first (close_speaks c) fun _ => .fail e

theorem withMaintenance_performs {body : κ → Act (Logged κ σ) Bool}
    (hb : ∀ c, Performs x (body c)) (timeout : Int) (dsn : String) :
    Performs x (a.recorded.withMaintenance timeout dsn body) where
  only := by
    refine .bind (.ofExcept _) fun settings => .bind (openChecked_speaks _ _) fun c => ?_
    exact .bind (.onFault (hb c).only (close_speaks c)) fun _ =>
      .bind (close_speaks c) fun _ => .pure _
  done o b o' h := by
    obtain ⟨settings, o₁, -, h⟩ := bind_ok h
    obtain ⟨c, o₂, -, h⟩ := bind_ok h
    obtain ⟨b', o₃, hbody, h⟩ := bind_ok h
    obtain ⟨⟨⟩, o₄, hclose, h⟩ := bind_ok h
    cases h
    obtain ⟨c', q, hm⟩ := (hb c).done _ _ _ (onFault_ok hbody)
    have hgrows : o₃.1 <+: o'.1 := by
      rw [noted_list hclose]
      exact List.prefix_append _ _
    exact ⟨c', q, hgrows.subset hm⟩

theorem execute_performs (c : κ) : Performs x (a.recorded.execute c x) where
  only := execute_speaks (.inr rfl) c
  done _ _ _ h := ⟨c, _, executed h⟩

theorem executeUnless_performs (done : Subject → Bool) (c : κ) :
    Performs x (a.recorded.executeUnless c x done) where
  only := by
    refine .bind (execute_speaks (.inr rfl) c).attempt fun answered => ?_
    cases answered with
    | ok _ => exact .pure true
    | error e => exact .ite (.pure false) (.fail e)
  done o b o' h := by
    obtain ⟨answered, o₁, hx, h⟩ := bind_ok h
    have hsame : o₁ = o' := by
      cases answered with
      | ok _ =>
        cases h
        rfl
      | error e =>
        dsimp only at h
        split at h <;> cases h
        rfl
    exact ⟨c, _, hsame ▸ executed (attempt_ok hx)⟩

theorem Performs.reported {y : Act (Logged κ σ) Bool} (h : Performs x y) (text : String) :
    Performs x (do
      let made ← y
      if made then a.recorded.diary.debug .postgresDb text
      pure made) where
  only := by
    refine .bind h.only fun made => ?_
    cases made with
    | true => exact .bind (.update fun _ hs => hs) fun _ => .pure _
    | false => exact .pure _
  done o b o' hr := by
    obtain ⟨made, o₁, hy, hr⟩ := bind_ok hr
    obtain ⟨c, q, hm⟩ := h.done o made o₁ hy
    refine ⟨c, q, ?_⟩
    cases made with
    | true =>
      cases hr
      exact hm
    | false =>
      cases hr
      exact hm

end Performs

theorem databaseName_of_names {dsn name : String} (hn : name ≠ "")
    (h : ∃ settings, Dsn.parse dsn = .ok settings ∧ settings.value "dbname" = name) :
    databaseName dsn = .ok name := by
  obtain ⟨settings, hread, rfl⟩ := h
  exact databaseName_of_settings (settingsOf_of_parse hread) hn

/-- A connection string names the database that it was made for exactly when its name holds neither
a percent sign nor a question mark, and then the administration works on this database. -/
theorem database_survives {c : ConnectionInfo} (h : c.Regular) (hn : c.database ≠ "")
    (hz : '\x00' ∉ c.database.toList) :
    connectionString c.host c.port c.database c.user c.password c.sslMode = c.dsn ∧
    ((∃ settings, Dsn.parse c.dsn = .ok settings ∧ settings.value "dbname" = c.database) ↔
      '%' ∉ c.database.toList ∧ '?' ∉ c.database.toList) ∧
    ('%' ∉ c.database.toList → '?' ∉ c.database.toList →
      ∀ (a : SqlAccess κ σ) (timeout : Int),
        Performs (.findDatabase c.database) (a.recorded.databaseExists timeout c.dsn) ∧
        Performs (.createDatabase c.database) (a.recorded.createIfMissing timeout c.dsn) ∧
        Performs (.dropDatabase c.database) (a.recorded.dropIfExists timeout c.dsn)) := by
  have hnames := ConnectionInfo.names_database_iff h hn hz
  refine ⟨?_, hnames, fun hp hm a timeout => ?_⟩
  · rw [connectionString, ← h.scheme]
  · have hname := databaseName_of_names hn (hnames.mpr ⟨hp, hm⟩)
    have hknown (f : String → Act (Logged κ σ) Bool) :
        Act.ofExcept (.ok c.database) >>= f = f c.database := rfl
    rw [SqlAccess.databaseExists, SqlAccess.createIfMissing, SqlAccess.dropIfExists, hname, hknown,
      hknown, hknown]
    exact ⟨withMaintenance_performs execute_performs timeout c.dsn,
      (withMaintenance_performs (executeUnless_performs _) timeout c.dsn).reported _,
      (withMaintenance_performs (executeUnless_performs _) timeout c.dsn).reported _⟩

/-- A database whose name holds most of the separators. -/
def punctuated : ConnectionInfo where
  host := "localhost"
  port := 5432
  database := "ördérs @/:&=#[2]"
  user := superuser
  password := superuser

theorem punctuated_regular : punctuated.Regular where
  scheme := rfl
  named := by decide
  host := by simp [punctuated]
  user := by decide
  password := by decide
  mode := by decide

theorem database_survives_punctuated :
    (∃ settings, Dsn.parse punctuated.dsn = .ok settings ∧
      settings.value "dbname" = "ördérs @/:&=#[2]") ∧
    Performs (.createDatabase "ördérs @/:&=#[2]")
      (Registry.access.recorded.createIfMissing 8 punctuated.dsn) := by
  have hp : '%' ∉ punctuated.database.toList := by decide
  have hm : '?' ∉ punctuated.database.toList := by decide
  obtain ⟨-, hnames, hperforms⟩ :=
    database_survives punctuated_regular (by decide) (by decide)
  exact ⟨hnames.mpr ⟨hp, hm⟩, (hperforms hp hm Registry.access 8).2.1⟩

/-- Three characters of a name are read as one, and a question mark ends what is read as a name. -/
theorem escaped_name_lost :
    (Dsn.parse (connectionString "localhost" 5432 "orders%41" "postgres" "postgres"
      "disable")).toOption.map (·.value "dbname") = some "ordersA" ∧
    (Dsn.parse (connectionString "localhost" 5432 "orders?" "postgres" "postgres"
      "disable")).toOption = none := by
  decide +kernel

end Testbed.Postgres
