import Testbed.Proofs.Dsn.Credentials

/-!
# The name of the database in a connection string

The database is written into a connection string as it is.  It is read back unless a percent sign
or a question mark stands in its name, and with one of these it never is: what is read is shorter
than the name, if it can be read.
-/

namespace Testbed

set_option autoImplicit false

namespace Dsn

theorem cutFirst_cases (c : Char) (cs : List Char) :
    c ∉ cs ∧ Text.cutFirst c cs = (cs, none) ∨
      ∃ before rest, cs = before ++ c :: rest ∧ Text.cutFirst c cs = (before, some rest) := by
  by_cases hc : c ∈ cs
  · obtain ⟨before, rest, rfl, hb⟩ := List.eq_append_cons_of_mem hc
    exact .inr ⟨before, rest, rfl, cutFirst_append hb rest⟩
  · exact .inl ⟨hc, cutFirst_of_not_mem hc⟩

/-! A database of few bytes. -/

/-- The database, if one is set, has fewer bytes than a number. -/
def Short (n : Nat) (stored : Stored) : Prop :=
  ∀ bytes, Entries.get? "dbname" stored = some bytes → bytes.length < n

section Short

variable {n : Nat} {stored stored' : Stored}

theorem Short.put_other (h : Short n stored) {name : String} (hn : name ≠ "dbname")
    (value : List UInt8) : Short n (Entries.put name value stored) := by
  intro bytes hb
  rw [Entries.get?_put_other value stored hn] at hb
  exact h bytes hb

theorem Short.store (h : Short n stored) {name : String} {value : List UInt8}
    {unknown : String → Problem} (hv : name = "dbname" → value.length < n)
    (hs : Dsn.store stored name value unknown = .ok stored') : Short n stored' := by
  have hrespelled : (respell name value).1 = "dbname" → (respell name value).2.length < n := by
    rw [respell]
    have hmode : "sslmode" ≠ "dbname" := by decide
    split
    · exact fun hn => absurd hn hmode
    · exact hv
  unfold Dsn.store at hs
  rcases hr : respell name value with ⟨name', value'⟩
  rw [hr] at hs hrespelled
  dsimp only at hs hrespelled
  split at hs <;> cases hs
  by_cases hn : name' = "dbname"
  · subst hn
    intro bytes hb
    rw [Entries.get?_put_same] at hb
    cases hb
    exact hrespelled rfl
  · exact h.put_other hn _

theorem Short.parameter (h : Short n stored) {cs : List Char}
    (hc : (cs.flatMap String.utf8EncodeChar).length < n)
    (hp : Dsn.parameter stored cs = .ok stored') : Short n stored' := by
  rcases cutFirst_cases '=' cs with ⟨-, hcut⟩ | ⟨name, value, rfl, hcut⟩
  · rw [Dsn.parameter, hcut] at hp
    cases hp
  · rw [Dsn.parameter, hcut] at hp
    dsimp only at hp
    split at hp
    · cases hp
    · obtain ⟨nameBytes, -, hp⟩ := bind_ok hp
      obtain ⟨valueBytes, hv, hp⟩ := bind_ok hp
      refine h.store ?_ hp
      have hle := (length_percentBytes hv).1
      rw [respellParameter]
      split
      · have hmode : Text.ofUtf8Lossy (Text.utf8Bytes "sslmode") ≠ "dbname" := by
          rw [Text.utf8Bytes_eq]
          decide +kernel
        exact fun hn => absurd hn hmode
      · intro _
        simp only [List.flatMap_append, List.flatMap_cons, List.length_append] at hc
        change valueBytes.length < n
        omega

theorem Short.parameters (h : Short n stored) {fuel : Nat} {cs : List Char}
    (hc : (cs.flatMap String.utf8EncodeChar).length < n)
    (hp : Dsn.parameters fuel stored cs = .ok stored') : Short n stored' := by
  induction fuel generalizing stored cs with
  | zero =>
    cases hp
    exact h
  | succ fuel ih =>
    by_cases hcs : cs = []
    · rw [hcs, parameters_nil] at hp
      cases hp
      exact h
    · rw [parameters_of_ne_nil hcs] at hp
      obtain ⟨stored₁, hone, hp⟩ := bind_ok hp
      rcases cutFirst_cases '&' cs with ⟨-, hcut⟩ | ⟨one, more, rfl, hcut⟩ <;>
        rw [hcut] at hone hp
      · rw [Option.getD_none, parameters_nil] at hp
        cases hp
        exact h.parameter hc hone
      · simp only [List.flatMap_append, List.flatMap_cons, List.length_append] at hc
        have hone' : (one.flatMap String.utf8EncodeChar).length < n := by omega
        have hmore : (more.flatMap String.utf8EncodeChar).length < n := by omega
        exact ih (h.parameter hone' hone) hmore hp

theorem get?_settings_of_none {name : String} (hs : Entries.get? name stored = none)
    {names : List String} {settings : Settings} (h : stored.settings names = .ok settings) :
    Entries.get? name settings = none := by
  induction names generalizing settings with
  | nil =>
    cases h
    rfl
  | cons other names ih =>
    rw [Stored.settings] at h
    cases hg : Entries.get? other stored with
    | none =>
      rw [hg] at h
      exact ih h
    | some bytes =>
      rw [hg] at h
      obtain ⟨text, -, h⟩ := bind_ok h
      obtain ⟨others, hr, h⟩ := bind_ok h
      cases h
      have hne : other ≠ name := by
        rintro rfl
        cases hs.symm.trans hg
      rw [Entries.get?, if_neg (by simpa using hne)]
      exact ih hr

theorem Short.value (h : Short n stored) (hn : 0 < n) {settings : Settings}
    (hs : stored.settings optionNames = .ok settings) :
    (Text.utf8Bytes (settings.value "dbname")).length < n := by
  cases hg : Entries.get? "dbname" stored with
  | none =>
    rw [Settings.value, get?_settings_of_none hg hs, Option.getD_none, Text.utf8Bytes_eq]
    exact hn
  | some bytes =>
    obtain ⟨text, ht, hv⟩ := Stored.settings_value hg (by decide) hs
    rw [hv]
    exact Nat.lt_of_le_of_lt (Text.length_of_ofUtf8 ht) (h bytes hg)

end Short

end Dsn

namespace ConnectionInfo

open Dsn Text

variable {c : ConnectionInfo}

theorem place_short (n : Nat) (c : ConnectionInfo) : Short n (encoded c.place) := by
  have hnone : Entries.get? "dbname" c.place = none := by
    rw [place, login]
    split
    · simp [Entries.get?]
    · split <;> simp [Entries.get?]
  intro bytes hb
  rw [get?_encoded, hnone] at hb
  cases hb

theorem storeToken_short {n : Nat} {stored stored' : Stored} {token : List Char}
    (h : Short n stored) (hd : ∀ bytes, decode token = .ok bytes → bytes.length < n)
    (hs : storeToken stored "dbname" token = .ok stored') : Short n stored' := by
  rw [storeToken] at hs
  split at hs
  · cases hs
    exact h
  · obtain ⟨bytes, hb, hs⟩ := bind_ok hs
    exact h.store (fun _ => hd bytes hb) hs

theorem readNamed_ok {values : Dsn.Settings} {name query : List Char} {settings : Dsn.Settings}
    (h : readNamed values name query = .ok settings) : ∃ stored stored',
      storeToken (encoded values) "dbname" name = .ok stored ∧
      parameters (query.length + 1) stored query = .ok stored' ∧
      stored'.settings optionNames = .ok settings := by
  obtain ⟨stored, hname, h⟩ := bind_ok h
  obtain ⟨stored', hquery, h⟩ := bind_ok h
  exact ⟨stored, stored', hname, hquery, h⟩

/-- A question mark ends the name, and what follows it cannot make up for it. -/
theorem readPath_marked {before rest : List Char} {mode : String} (hm : mode ∈ "" :: sslModes)
    (hb : '?' ∉ before) {settings : Dsn.Settings}
    (h : readPath c.place ((before ++ '?' :: rest) ++ modeChars mode) = .ok settings) :
    (utf8Bytes (settings.value "dbname")).length <
      ((before ++ '?' :: rest).flatMap String.utf8EncodeChar).length := by
  have hmark : (String.utf8EncodeChar '?').length = 1 := by decide
  simp only [List.flatMap_append, List.flatMap_cons, List.length_append, hmark]
  rw [List.append_assoc, List.cons_append, readPath_cut hb] at h
  obtain ⟨stored, stored', hname, hquery, hset⟩ := readNamed_ok h
  rcases List.mem_cons.mp hm with rfl | hm
  · -- what follows the mark is read as a query, in which no value is long enough
    rw [modeChars, if_pos rfl, List.append_nil] at hquery
    have hshort : Short ((before.flatMap String.utf8EncodeChar).length +
        (1 + (rest.flatMap String.utf8EncodeChar).length)) stored := by
      refine storeToken_short (place_short _ c) (fun bytes hd => ?_) hname
      have hle := (length_percentBytes hd).1
      omega
    exact (hshort.parameters (by omega) hquery).value (by omega) hset
  · -- the mark of the query becomes a part of it, and it cannot be read
    rw [modeChars, if_neg (mode_chars mode hm).1] at hquery
    exact absurd hquery (query_marked (mode_chars mode hm).2.2.1 (mode_chars mode hm).2.1)

/-- A percent sign takes the two digits behind it with it. -/
theorem readPath_escaped {name : List Char} {mode : String} (hm : mode ∈ "" :: sslModes)
    (hp : '%' ∈ name) (hb : '?' ∉ name) {settings : Dsn.Settings}
    (h : readPath c.place (name ++ modeChars mode) = .ok settings) :
    (utf8Bytes (settings.value "dbname")).length <
      (name.flatMap String.utf8EncodeChar).length := by
  have hshort {stored : Stored} (hs : storeToken (encoded c.place) "dbname" name = .ok stored) :
      Short (name.flatMap String.utf8EncodeChar).length stored :=
    storeToken_short (place_short _ c) (fun bytes hd => (length_percentBytes hd).2 hp) hs
  have hpos : 0 < (name.flatMap String.utf8EncodeChar).length := by
    obtain ⟨p, q, rfl⟩ := List.append_of_mem hp
    have hpercent : (String.utf8EncodeChar '%').length = 1 := by decide
    simp only [List.flatMap_append, List.flatMap_cons, List.length_append, hpercent]
    omega
  rw [modeChars] at h
  rcases List.mem_cons.mp hm with rfl | hm
  · rw [if_pos rfl, List.append_nil, readPath_whole hb] at h
    obtain ⟨stored, stored', hname, hquery, hset⟩ := readNamed_ok h
    cases (parameters_nil _ _).symm.trans hquery
    exact (hshort hname).value hpos hset
  · rw [if_neg (mode_chars mode hm).1, modeQuery, readPath_cut hb] at h
    obtain ⟨stored, stored', hname, hquery, hset⟩ := readNamed_ok h
    cases (parameters_mode hm stored _).symm.trans hquery
    exact ((hshort hname).put_other (by decide) _).value hpos hset

/-- The database that a connection string names is the one it was made for exactly when neither a
percent sign nor a question mark stands in the name. -/
theorem names_database_iff (h : c.Regular) (hn : c.database ≠ "")
    (hz : '\x00' ∉ c.database.toList) :
    (∃ settings, parse c.dsn = .ok settings ∧ settings.value "dbname" = c.database) ↔
      '%' ∉ c.database.toList ∧ '?' ∉ c.database.toList := by
  constructor
  · rintro ⟨settings, hread, hvalue⟩
    rw [parse_dsn h hz] at hread
    have hlength : (utf8Bytes (settings.value "dbname")).length =
        (c.database.toList.flatMap String.utf8EncodeChar).length := by
      rw [hvalue, utf8Bytes_eq]
    have hmark : '?' ∉ c.database.toList := by
      intro hm
      obtain ⟨before, rest, hname, hb⟩ := List.eq_append_cons_of_mem hm
      rw [hname] at hread hlength
      exact Nat.ne_of_lt (readPath_marked h.mode hb hread) hlength
    refine ⟨fun hp => ?_, hmark⟩
    exact Nat.ne_of_lt (readPath_escaped h.mode hp hmark hread) hlength
  · rintro ⟨hp, hm⟩
    have hv : c.Verbatim := { h with
      database_named := hn, database_nonzero := hz
      database_unescaped := hp, database_unmarked := hm }
    exact ⟨c.settings, hv.parse_dsn, value_dbname c⟩

end ConnectionInfo

end Testbed
