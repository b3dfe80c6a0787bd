import Testbed.Proofs.Dsn.Parts

/-!
# The credentials of a connection string

The user and the password of a connection string are read back as they were, whatever characters
they hold, and so are the parts around them when the database stands for itself.
-/

namespace Testbed.ConnectionInfo

set_option autoImplicit false

open Dsn Text

variable {c : ConnectionInfo}

/-- A database that is written as it is and ends in front of the query. -/
structure Verbatim (c : ConnectionInfo) : Prop extends c.Regular where
  database_named : c.database ≠ ""
  database_nonzero : '\x00' ∉ c.database.toList
  database_unescaped : '%' ∉ c.database.toList
  database_unmarked : '?' ∉ c.database.toList

/-- The options that are set, in the order in which they are told. -/
def settings (c : ConnectionInfo) : Dsn.Settings :=
  c.login ++ [("dbname", c.database), ("host", c.host), ("port", Decimal.ofInt c.port)] ++
    if c.sslMode = "" then [] else [("sslmode", c.sslMode)]

theorem settings_of_mode_empty (hm : c.sslMode = "") :
    inOrder optionNames (Entries.put "dbname" c.database c.place) = c.settings := by
  rw [settings, if_pos hm, place, login]
  split
  · simp [inOrder, optionNames, Entries.put, Entries.get?]
  · split <;> simp [inOrder, optionNames, Entries.put, Entries.get?]

theorem settings_of_mode (hm : c.sslMode ≠ "") :
    inOrder optionNames (Entries.put "sslmode" c.sslMode
      (Entries.put "dbname" c.database c.place)) = c.settings := by
  rw [settings, if_neg hm, place, login]
  split
  · simp [inOrder, optionNames, Entries.put, Entries.get?]
  · split <;> simp [inOrder, optionNames, Entries.put, Entries.get?]

/-- A connection string is read as the options that it was put together from. -/
theorem Verbatim.parse_dsn (h : c.Verbatim) : parse c.dsn = .ok c.settings := by
  have hname : storeToken (encoded c.place) "dbname" c.database.toList =
      .ok (encoded (Entries.put "dbname" c.database c.place)) :=
    storeToken_encoded _ (by decide) (by decide) (by simpa using h.database_named)
      (decode_verbatim h.database_unescaped)
  rw [ConnectionInfo.parse_dsn h.toRegular h.database_nonzero, modeChars]
  rcases List.mem_cons.mp h.mode with hm | hm
  · rw [if_pos hm, List.append_nil, readPath_whole h.database_unmarked, readNamed]
    simp only [hname, bind, Except.bind, parameters_nil, settings_encoded,
      settings_of_mode_empty hm]
  · have hne : c.sslMode ≠ "" := (mode_chars _ hm).1
    rw [if_neg hne, modeQuery, readPath_cut h.database_unmarked, readNamed]
    simp only [hname, bind, Except.bind, parameters_mode hm, put_encoded, settings_encoded,
      settings_of_mode hne]

theorem value_user (c : ConnectionInfo) : c.settings.value "user" = c.user := by
  rw [settings, login]
  split
  · next hu => split <;> simp [Dsn.Settings.value, Entries.get?, hu]
  · split <;> simp [Dsn.Settings.value, Entries.get?]

theorem value_password (hu : c.user ≠ "") : c.settings.value "password" = c.password := by
  rw [settings, login, if_neg hu]
  split
  · next hp => split <;> simp [Dsn.Settings.value, Entries.get?, hp]
  · simp [Dsn.Settings.value, Entries.get?]

theorem value_dbname (c : ConnectionInfo) : c.settings.value "dbname" = c.database := by
  rw [settings, login]
  split
  · simp [Dsn.Settings.value, Entries.get?]
  · split <;> simp [Dsn.Settings.value, Entries.get?]

/-- Connection details with a user, and with a database that is a word. -/
structure Personal (c : ConnectionInfo) : Prop extends c.Regular where
  user_named : c.user ≠ ""
  database_named : c.database ≠ ""
  database_word : ∀ x ∈ c.database.toList, x.isAlphanum = true ∨ x = '_'

theorem Personal.verbatim (h : c.Personal) : c.Verbatim := by
  have hword : ∀ x ∈ c.database.toList, isUnreserved x = true := by
    intro x hx
    rcases h.database_word x hx with ha | rfl
    · simp [isUnreserved, ha]
    · rfl
  exact {
    toRegular := h.toRegular
    database_named := h.database_named
    database_nonzero := fun hm => ne_of_isUnreserved (hword _ hm) rfl rfl
    database_unescaped := fun hm => ne_of_isUnreserved (hword _ hm) rfl rfl
    database_unmarked := fun hm => ne_of_isUnreserved (hword _ hm) rfl rfl }

/-- The reader tells the user, the password and all other parts of a connection string as they were
given, so connection strings for different users or passwords are different. -/
theorem credentials_survive (h : c.Personal) :
    parse c.dsn = .ok ([("user", c.user)] ++
      (if c.password = "" then [] else [("password", c.password)]) ++
      [("dbname", c.database), ("host", c.host), ("port", Decimal.ofInt c.port)] ++
      if c.sslMode = "" then [] else [("sslmode", c.sslMode)]) ∧
    ∀ other : ConnectionInfo, other.Personal →
      (c.user ≠ other.user ∨ c.password ≠ other.password) → c.dsn ≠ other.dsn := by
  have hread := h.verbatim.parse_dsn
  constructor
  · rw [hread, settings, login, if_neg h.user_named]
    split <;> rfl
  · intro other ho hne he
    have hsame : c.settings = other.settings := by
      rw [he, ho.verbatim.parse_dsn] at hread
      exact (Except.ok.inj hread).symm
    rcases hne with hne | hne
    · rw [← value_user c, hsame, value_user] at hne
      exact hne rfl
    · rw [← value_password h.user_named, hsame, value_password ho.user_named] at hne
      exact hne rfl

/-- A user and a password that hold every separator of a connection string. -/
def separators : ConnectionInfo where
  host := "db-1.local"
  port := 5432
  database := "orders_2"
  user := "a@b:c/d?e"
  password := "é%41#&="
  sslMode := "verify-full"

theorem separators_personal : separators.Personal where
  scheme := rfl
  named := by decide
  host := by simp [separators]
  user := by decide
  password := by decide
  mode := by decide
  user_named := by decide
  database_named := by decide
  database_word := by simp [separators]

theorem separators_survive : parse separators.dsn = .ok [("user", "a@b:c/d?e"),
      ("password", "é%41#&="), ("dbname", "orders_2"), ("host", "db-1.local"), ("port", "5432"),
      ("sslmode", "verify-full")] ∧
    separators.dsn ≠ { separators with password := "éA#&=" }.dsn := by
  have hother : ({ separators with password := "éA#&=" } : ConnectionInfo).Personal :=
    { separators_personal with password := by decide }
  obtain ⟨hread, hdiffers⟩ := credentials_survive separators_personal
  exact ⟨hread, hdiffers _ hother (.inr (by decide))⟩

end Testbed.ConnectionInfo
