import Testbed.Container.Engine
import Testbed.Postgres.Service
import Testbed.Proofs.Container.Reaping
import Testbed.Proofs.Dsn.Names
import Testbed.Proofs.Http.Host
import Testbed.Proofs.Invariant
import Testbed.Proofs.Number.Whole

/-!
# The address in a connection string

The host of the daemon becomes the host of an endpoint and then of a connection string.  It is read
back from there when it is a name or a dotted address.  An address of groups is cut at its first
colon: it is never the host that is read.
-/

namespace Testbed

set_option autoImplicit false

variable {η ρ κ σ : Type}

namespace ConnectionInfo

open Dsn Text

variable {c : ConnectionInfo}

/-- The database and a query that sets the mode leave all other options as they are. -/
theorem readPath_value {values : Dsn.Settings} {path : List Char} {mode : String}
    (hm : mode ∈ sslModes) (option : String) (ho : option ∈ optionNames) (hd : option ≠ "dbname")
    (hs : option ≠ "sslmode") {settings : Dsn.Settings}
    (h : readPath values (path ++ modeChars mode) = .ok settings) :
    settings.value option = values.value option := by
  obtain ⟨hne, hand, heq, -, -⟩ := mode_chars mode hm
  rw [modeChars, if_neg hne] at h
  by_cases hmark : '?' ∈ path
  · -- the mark of the query becomes a part of it, and it cannot be read
    obtain ⟨before, rest, rfl, hb⟩ := List.eq_append_cons_of_mem hmark
    rw [List.append_assoc, List.cons_append, readPath_cut hb] at h
    obtain ⟨_, _, -, hquery, -⟩ := readNamed_ok h
    exact absurd hquery (query_marked heq hand)
  · rw [modeQuery, readPath_cut hmark] at h
    obtain ⟨stored, stored', hname, hquery, hset⟩ := readNamed_ok h
    cases (parameters_mode hm stored _).symm.trans hquery
    have hkept : Entries.get? option stored = (Entries.get? option values).map utf8Bytes := by
      rw [← get?_encoded]
      rw [storeToken] at hname
      split at hname
      · cases hname
        rfl
      · obtain ⟨bytes, -, hname⟩ := bind_ok hname
        cases (store_known (by decide) (by decide) (encoded values) bytes _).symm.trans hname
        exact Entries.get?_put_other _ _ (Ne.symm hd)
    rw [← Entries.get?_put_other (utf8Bytes mode) stored (Ne.symm hs)] at hkept
    cases hv : Entries.get? option values with
    | none =>
      rw [hv] at hkept
      rw [Settings.value, get?_settings_of_none hkept hset, Settings.value, hv]
    | some text =>
      rw [hv] at hkept
      obtain ⟨text', ht, hvalue⟩ := Stored.settings_value hkept ho hset
      rw [ofUtf8_utf8Bytes] at ht
      cases ht
      rw [hvalue, Settings.value, hv]
      rfl

theorem value_placeAt (c : ConnectionInfo) (name port : String) :
    (c.placeAt name port).value "host" = name ∧ (c.placeAt name port).value "port" = port := by
  have hlogin : Entries.get? "host" c.login = none := by
    rw [login]
    split
    · rfl
    · split <;> rfl
  rw [Dsn.Settings.value, Dsn.Settings.value, placeAt_eq,
    Entries.get?_put_other _ _ (by decide), Entries.get?_put_same]
  refine ⟨?_, rfl⟩
  split
  · next hn => rw [hlogin, hn, Option.getD_none]
  · rw [Entries.get?_put_same, Option.getD_some]

/-- The host that is read ends at the first colon of the address, so a host that holds one is not
read. -/
theorem Located.host_read (h : c.Located) (hm : c.sslMode ∈ sslModes)
    (hz : '\x00' ∉ c.database.toList) {settings : Dsn.Settings}
    (hread : parse c.dsn = .ok settings) :
    settings.value "host" = c.host ∧ settings.value "port" = Decimal.ofInt c.port ↔
      ':' ∉ c.host.toList := by
  obtain ⟨name, port, hcut, hn, hne, hplain⟩ := address_cut c
  rw [parse_located h hz hcut hn hne] at hread
  have hhost := readPath_value hm "host" (by decide) (by decide) (by decide) hread
  have hport := readPath_value hm "port" (by decide) (by decide) (by decide) hread
  rw [hhost, hport, (value_placeAt c name port).1, (value_placeAt c name port).2]
  constructor
  · rintro ⟨rfl, -⟩
    exact hn
  · exact hplain

theorem Located.readable (h : c.Located) (hm : c.sslMode ∈ sslModes)
    (hz : '\x00' ∉ c.database.toList) (hpercent : '%' ∉ c.database.toList)
    (hmark : '?' ∉ c.database.toList) : ∃ settings, parse c.dsn = .ok settings := by
  obtain ⟨name, port, hcut, hn, hne, -⟩ := address_cut c
  rw [parse_located h hz hcut hn hne, modeChars, if_neg (mode_chars _ hm).1, modeQuery,
    readPath_cut hmark, readNamed]
  have hname : ∃ values, storeToken (encoded (c.placeAt name port)) "dbname" c.database.toList =
      .ok (encoded values) := by
    by_cases hd : c.database = ""
    · exact ⟨_, by rw [hd]; rfl⟩
    · exact ⟨_, storeToken_encoded _ (by decide) (by decide) (by simpa using hd)
        (decode_verbatim hpercent)⟩
  obtain ⟨values, hname⟩ := hname
  simp only [hname, bind, Except.bind, parameters_mode hm, put_encoded, settings_encoded]
  exact ⟨_, rfl⟩

end ConnectionInfo

namespace Endpoint

theorem toList_join (host port : String) :
    (join host port).toList = host.toList ++ ':' :: port.toList := by
  rw [join, String.toList_append, String.toList_append, List.append_assoc]
  rfl

theorem host_join {port : String} (h : ':' ∉ port.toList) (host : String) :
    Endpoint.host (join host port) = host := by
  rw [Endpoint.host, toList_join, Dsn.cutLast_append h]
  exact String.ofList_toList

theorem port_join {port : String} (h : ':' ∉ port.toList) (host : String) :
    Endpoint.port (join host port) = Numeral.whole port := by
  rw [Endpoint.port, toList_join, Dsn.cutLast_append h]
  exact congrArg Numeral.whole String.ofList_toList

end Endpoint

namespace Engine

/-- An endpoint is made of the host of the engine and of the first port that an inspection shows. -/
theorem findEndpoint_ok {e : Engine σ} {c : Container} {port endpoint : String} {n : Nat}
    {s t : σ} (h : e.findEndpoint c port n s = (.ok endpoint, t)) :
    ∃ u u' attributes first others, e.daemon.inspect c u = (.ok attributes, u') ∧
      published attributes port = .ok (first :: others) ∧
      endpoint = Endpoint.join e.hostname first := by
  induction n generalizing s with
  | zero => cases h
  | succ n ih =>
    rw [findEndpoint] at h
    obtain ⟨found, u, hx, h⟩ := Act.bind_ok h
    have hinspect := Act.attempt_ok hx
    cases found with
    | error f =>
      dsimp only at h
      split at h <;> cases h
    | ok attributes =>
      obtain ⟨ports, u', hx, h⟩ := Act.bind_ok h
      obtain ⟨hports, -⟩ := Act.ofExcept_ok hx
      cases ports with
      | cons first others =>
        cases h
        exact ⟨s, u, attributes, first, others, hinspect, hports, rfl⟩
      | nil =>
        obtain ⟨-, u'', -, h⟩ := Act.bind_ok h
        exact ih h

end Engine

namespace Postgres

/-- A host that can be derived from the URL of a daemon. -/
theorem located {host : String} (hhost : Http.IsName host.toList ∨ Http.IsGroups host.toList)
    (port : Int) (database : String) : ConnectionInfo.Located
      { host, port, database, user := superuser, password := superuser } where
  scheme := rfl
  host x hx := hhost.elim (fun h => .inl (h.isUnreserved x hx)) fun h => h.isUnreserved x hx
  user := (by decide : '\x00' ∉ superuser.toList)
  password := (by decide : '\x00' ∉ superuser.toList)
  mode := (by decide : "disable" ∈ "" :: Dsn.sslModes)

theorem connectionInfo_join {h : Handle ρ κ} {host : String} {p : Nat} (hp : p ≤ 65535)
    (he : h.endpoint = Endpoint.join host (Decimal.ofInt p)) :
    connectionInfo h = .ok { host, port := p, database := h.logicalName, user := superuser
                             password := superuser } := by
  have hcolon : ':' ∉ (Decimal.ofInt p).toList := fun hm =>
    absurd (Decimal.mem_ofInt hm) (by decide)
  have hdigits : (Decimal.digits (p : Int).natAbs).length ≤ Parse.digitLimit := by
    have hfew : (Decimal.digits p).length ≤ 5 :=
      (Nat.length_toDigits_le_iff (by decide) (by decide)).mpr (by omega)
    exact Nat.le_trans hfew (by decide)
  rw [connectionInfo, Handle.port, Handle.host, he, Endpoint.port_join hcolon,
    Endpoint.host_join hcolon, Numeral.whole, Parse.int?_ofInt hdigits]
  rfl

/-- Where the daemon is reached under a name or an address, the PostgreSQL instances of its
containers are given just that host, and the ports that the daemon publishes.  Both are read back
from their connection strings unless the host is an address of groups. -/
theorem daemon_address {env : Environment} {host : String}
    (hgiven : env.get? "EPHEMERAL_DOCKER_HOSTNAME" = none)
    (hderived : Settings.hostnameOf env = .ok host)
    (hhost : Http.IsName host.toList ∨ Http.IsGroups host.toList) :
    (∀ u : Http.DaemonUrl, u.Proper → env.get? "DOCKER_HOST" = some u.text →
      host = Text.lower (String.ofList u.host)) ∧
    ∀ (e : Engine σ) (c : Container) (n : Nat) (s t : σ) (endpoint : String), e.hostname = host →
      e.findEndpoint c port n s = (.ok endpoint, t) → ∃ u u' attributes first others,
        e.daemon.inspect c u = (.ok attributes, u') ∧
        Engine.published attributes port = .ok (first :: others) ∧
        endpoint = Endpoint.join host first ∧
        ∀ p : Nat, p ≤ 65535 → first = Decimal.ofInt p →
          ∀ h : Handle ρ κ, h.endpoint = endpoint → '\x00' ∉ h.logicalName.toList →
            ∃ info, connectionInfo h = .ok info ∧ info.host = host ∧ info.port = p ∧
              (∀ settings, Dsn.parse info.dsn = .ok settings →
                (settings.value "host" = host ∧ settings.value "port" = Decimal.ofInt p ↔
                  Http.IsName host.toList)) ∧
              ('%' ∉ h.logicalName.toList → '?' ∉ h.logicalName.toList →
                ∃ settings, Dsn.parse info.dsn = .ok settings) := by
  have hname : ':' ∉ host.toList ↔ Http.IsName host.toList := by
    constructor
    · exact fun hc => hhost.resolve_right fun hg => hc hg.colon
    · exact fun hn hm => absurd (hn.isUnreserved _ hm) (by decide)
  constructor
  · intro u hu hdaemon
    exact Except.ok.inj (hderived.symm.trans (hu.hostnameOf hgiven hdaemon))
  · rintro e c n s t endpoint he hfound
    obtain ⟨u, u', attributes, first, others, hinspect, hports, hjoin⟩ :=
      Engine.findEndpoint_ok hfound
    rw [he] at hjoin
    refine ⟨u, u', attributes, first, others, hinspect, hports, hjoin, ?_⟩
    rintro p hp rfl h hendpoint hz
    rw [hjoin] at hendpoint
    have hlocated := located hhost p h.logicalName
    have hmode : "disable" ∈ Dsn.sslModes := by decide
    refine ⟨_, connectionInfo_join hp hendpoint, rfl, rfl, fun settings hread => ?_,
      fun hpercent hmark => hlocated.readable hmode hz hpercent hmark⟩
    rw [← hname]
    exact hlocated.host_read hmode hz hread

/-! A daemon on another machine. -/

namespace Remote

def env : Environment := [("DOCKER_HOST", "tcp://admin@Docker-1.example.com:2375/v1.43?all")]

def engine : Engine ExpiryBoard :=
  { Engine.Leftovers.engine with
    hostname := "docker-1.example.com"
    daemon := { Engine.Leftovers.engine.daemon with
      inspect _ := pure (.dict [("NetworkSettings", .dict [("Ports", .dict [
        ("5432/tcp", .list [
          .dict [("HostIp", .text "0.0.0.0"), ("HostPort", .text "49153")]])])])]) } }

def handle (endpoint : String) : Handle Container Unit :=
  { container := default, endpoint, logicalName := "orders", ownsRuntime := true, client := none
    isTemplate := false }

end Remote

theorem daemon_address_of_name : ∃ endpoint t info settings,
    Remote.engine.findEndpoint default port 1 {} = (.ok endpoint, t) ∧
    connectionInfo (Remote.handle endpoint) = .ok info ∧ Dsn.parse info.dsn = .ok settings ∧
    settings.value "host" = "docker-1.example.com" ∧ settings.value "port" = "49153" := by
  have hname : Http.IsName "docker-1.example.com".toList := by decide
  have hderived : Settings.hostnameOf Remote.env = .ok "docker-1.example.com" := by rfl
  have hfound : Remote.engine.findEndpoint default port 1 {} =
      (.ok "docker-1.example.com:49153", {}) := by rfl
  obtain ⟨-, hreached⟩ := daemon_address (by rfl) hderived (.inl hname)
  obtain ⟨u, u', attributes, first, others, hinspect, hports, -, hread⟩ :=
    hreached Remote.engine default 1 {} {} _ rfl hfound
  cases hinspect
  cases hports
  obtain ⟨info, hinfo, -, -, hsettings, hreadable⟩ :=
    hread 49153 (by decide) rfl (Remote.handle _) rfl (by decide)
  obtain ⟨settings, hparse⟩ := hreadable (by decide) (by decide)
  obtain ⟨hhost, hport⟩ := (hsettings settings hparse).mpr hname
  exact ⟨_, _, info, settings, hfound, hinfo, hparse, hhost, hport⟩

/-- An address in brackets loses them, and what is read is cut at its first colon. -/
theorem grouped_address_lost :
    (Settings.hostnameOf [("DOCKER_HOST", "tcp://[::1]:2375")]).toOption = some "::1" ∧
    (connectionInfo (Remote.handle (Endpoint.join "::1" "49153"))).toOption.map (·.dsn) =
      some "postgres://postgres:postgres@::1:49153/orders?sslmode=disable" ∧
    (Dsn.parse "postgres://postgres:postgres@::1:49153/orders?sslmode=disable").toOption.map
      (fun settings => (settings.value "host", settings.value "port")) =
      some ("", ":1:49153") := by
  decide +kernel

end Postgres

end Testbed
