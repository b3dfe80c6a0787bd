import Testbed.Fault.Classify
import Testbed.Proofs.Fault.Causes
import Testbed.Proofs.Json.Keys
import Testbed.Search.ErrorPayload

/-!
# Payloads of errors

Every reply that is an error is decoded.  The reason and the kind that it gives are kept, whether
the record of details is accepted as it stands or reduced to these two.
-/

namespace Testbed.Search

set_option autoImplicit false

open ErrorDetails

/-! Renamed keys. -/

/-- A dot in a key stands for an underscore. -/
def renamed (key : String) : String :=
  String.ofList (key.toList.map fun c => if c == '.' then '_' else c)

/-- A key that no other key is renamed to. -/
def IsOwn (name : String) : Prop := '.' ∉ name.toList ∧ '_' ∉ name.toList

instance (name : String) : Decidable (IsOwn name) :=
  inferInstanceAs (Decidable ('.' ∉ name.toList ∧ _))

theorem renamed_eq_iff {name : String} (h : IsOwn name) (key : String) :
    renamed key = name ↔ key = name := by
  have hmap (cs : List Char) : cs.map (fun c => if c == '.' then '_' else c) = name.toList ↔
      cs = name.toList := by
    have plain : ∀ x ∈ name.toList, (if x == '.' then '_' else x) = x := by
      intro x hx
      rw [if_neg]
      rintro hd
      exact h.1 (beq_iff_eq.mp hd ▸ hx)
    constructor
    · intro he
      refine (List.map_congr_left fun c hc => ?_).trans (List.map_id cs) |>.symm.trans he
      split
      · exact absurd (he ▸ List.mem_map.mpr ⟨c, hc, by rw [if_pos ‹_›]⟩) h.2
      · rfl
    · rintro rfl
      exact (List.map_congr_left plain).trans (List.map_id _)
  rw [renamed, ← String.toList_inj, ← String.toList_inj, String.toList_ofList, hmap]

/-- The entry of a name in what was renamed is the last one of that name, or one from before. -/
theorem get?_foldl_put {name : String} (h : IsOwn name) {es : List (String × Value)}
    (hn : (es.map Prod.fst).Nodup) (acc : List (String × Value)) :
    Entries.get? name (es.foldl (fun acc (k, v) => Entries.put (renamed k) v acc) acc) =
      (Entries.get? name es).or (Entries.get? name acc) := by
  induction es generalizing acc with
  | nil => rfl
  | cons e rest ih =>
    obtain ⟨key, v⟩ := e
    obtain ⟨hkey, hrest⟩ := List.nodup_cons.mp hn
    rw [List.foldl_cons, ih hrest, Entries.get?]
    dsimp only
    by_cases hk : key = name
    · subst hk
      rw [(renamed_eq_iff h key).mpr rfl, Entries.get?_put_same, if_pos (beq_self_eq_true key),
        Entries.get?_of_not_mem hkey]
      rfl
    · have hother : renamed key ≠ name := mt (renamed_eq_iff h key).mp hk
      rw [Entries.get?_put_other v acc hother, if_neg (by simpa using hk)]

theorem get?_renameKeys {name : String} (h : IsOwn name) {es : List (String × Value)}
    (hn : (es.map Prod.fst).Nodup) : Entries.get? name (renameKeys es) = Entries.get? name es := by
  refine (get?_foldl_put h hn []).trans ?_
  rw [Entries.get?, Option.or_none]

/-! Details. -/

theorem ofEntries?_fields {es : List (String × Value)} {d : ErrorDetails}
    (h : ofEntries? es = some d) :
    field? es "type" "" text? = some d.kind ∧ field? es "reason" "" text? = some d.reason := by
  obtain ⟨kind, hkind, h⟩ := Option.bind_eq_some_iff.mp h
  obtain ⟨reason, hreason, h⟩ := Option.bind_eq_some_iff.mp h
  -- the fields after these two
  iterate 12 obtain ⟨_, -, h⟩ := Option.bind_eq_some_iff.mp h
  cases h
  exact ⟨hkind, hreason⟩

theorem looseText_text {es : List (String × Value)} {name s : String}
    (h : Entries.get? name es = some (.text s)) : looseText es name = s := by
  rw [looseText, h]
  by_cases hs : s = ""
  · rw [hs]
    rfl
  · have hv : (Value.text s).isVacant = false := by simpa [Value.isVacant] using hs
    dsimp only
    rw [hv]
    rfl

theorem field?_text {es : List (String × Value)} {name s found : String}
    (h : Entries.get? name es = some (.text s)) (hf : field? es name "" text? = some found) :
    found = s := by
  rw [field?, h] at hf
  exact (Option.some.inj hf).symm

/-- A record of details keeps a reason and a kind that are texts, whatever else it holds. -/
theorem details?_dict {es : List (String × Value)} (hn : (es.map Prod.fst).Nodup) :
    ∃ d, details? (some (.dict es)) = some d ∧
      (∀ s, Entries.get? "reason" es = some (.text s) → d.reason = s) ∧
      ∀ s, Entries.get? "type" es = some (.text s) → d.kind = s := by
  have hreason := get?_renameKeys (by decide : IsOwn "reason") hn
  have hkind := get?_renameKeys (by decide : IsOwn "type") hn
  cases hd : ofEntries? (renameKeys es) with
  | some d =>
    refine ⟨d, by rw [details?, hd], fun s hs => ?_, fun s hs => ?_⟩
    · exact field?_text (hreason.trans hs) (ofEntries?_fields hd).2
    · exact field?_text (hkind.trans hs) (ofEntries?_fields hd).1
  | none =>
    refine ⟨_, by rw [details?, hd], fun s hs => ?_, fun s hs => ?_⟩
    · exact looseText_text (hreason.trans hs)
    · exact looseText_text (hkind.trans hs)

/-- The reason of an error that has details is the reason in these. -/
theorem reason_of_details (status : Reported) (d : ErrorDetails) :
    (Subject.fault (Fault.of (.search status (some d)))).reason = d.reason := by
  have hchain : (Fault.of (.search status (some d))).chain = [.search status (some d)] := rfl
  rw [Subject.reason, Subject.evidence_fault, hchain]
  rfl

/-! Replies. -/

/-- The value of a key in the payload of a reply, if the payload is a dictionary. -/
def payloadValue? (r : Http.Response) (key : String) : Option Value :=
  match r.json with
  | .ok (.dict payload) => Entries.get? key payload
  | _ => none

/-- What an error holds that was decoded from a reply. -/
structure Decodes (r : Http.Response) (status : Reported) (details : Option ErrorDetails) :
    Prop where
  whole : ∀ i, payloadValue? r "status" = some (.num (.int i)) → status = .number (.int i)
  /-- A status that is neither a whole number nor a truth value does not count. -/
  other : (∀ i, payloadValue? r "status" ≠ some (.num (.int i))) →
    (∀ b, payloadValue? r "status" ≠ some (.bool b)) → status = .number r.status
  text : ∀ s, payloadValue? r "error" = some (.text s) → details.map (·.reason) = some s
  reason : ∀ es s, payloadValue? r "error" = some (.dict es) →
    Entries.get? "reason" es = some (.text s) →
    (Subject.fault (Fault.of (.search status details))).reason = s
  kind : ∀ es s, payloadValue? r "error" = some (.dict es) →
    Entries.get? "type" es = some (.text s) → details.map (·.kind) = some s
  none : (∀ s, payloadValue? r "error" ≠ some (.text s)) →
    (∀ es, payloadValue? r "error" ≠ some (.dict es)) → details = none

theorem json_keyed {r : Http.Response} {v : Value} (h : r.json = .ok v) : v.Keyed := by
  rw [Http.Response.json] at h
  cases hc : r.jsonCharacters with
  | error p =>
    rw [hc] at h
    cases h
  | ok cs =>
    rw [hc] at h
    cases hr : Json.read cs with
    | error f => simp [bind, Except.bind, hr, Except.mapError] at h
    | ok u =>
      have he : u = v := by simpa [bind, Except.bind, hr, Except.mapError] using h
      exact he ▸ Json.read_keyed hr

theorem payloadStatus?_other {v : Option Value} (hi : ∀ i, v ≠ some (.num (.int i)))
    (hb : ∀ b, v ≠ some (.bool b)) : payloadStatus? v = none := by
  unfold payloadStatus?
  split
  · exact absurd rfl (hb _)
  · exact absurd rfl (hi _)
  · rfl

theorem details?_other {v : Option Value} (ht : ∀ s, v ≠ some (.text s))
    (hd : ∀ es, v ≠ some (.dict es)) : details? v = none := by
  unfold details?
  split
  · exact absurd rfl (ht _)
  · exact absurd rfl (hd _)
  · rfl

/-- A payload that is not there, or not a dictionary, leaves only the status of the reply. -/
theorem decodes_bare {r : Http.Response} (h : ∀ payload, r.json ≠ .ok (.dict payload)) :
    Decodes r (.number r.status) none := by
  have hentry (key : String) : payloadValue? r key = Option.none := by
    unfold payloadValue?
    split
    · next hj => exact absurd hj (h _)
    · rfl
  constructor <;> simp [hentry]

theorem decodes_dict {r : Http.Response} {payload : List (String × Value)}
    (h : r.json = .ok (.dict payload)) :
    Decodes r ((payloadStatus? (Entries.get? "status" payload)).getD (.number r.status))
      (details? (Entries.get? "error" payload)) := by
  have hentry (key : String) : payloadValue? r key = Entries.get? key payload := by
    rw [payloadValue?, h]
  have hkeyed (es : List (String × Value)) (he : Entries.get? "error" payload = some (.dict es)) :
      (es.map Prod.fst).Nodup := by
    cases json_keyed h with
    | dict _ heach =>
      cases heach _ (Entries.mem_of_get? he) with
      | dict hn _ => exact hn
  exact {
    whole := fun i hi => by
      rw [hentry] at hi
      rw [hi]
      rfl
    other := fun hi hb => by
      simp only [hentry] at hi hb
      rw [payloadStatus?_other hi hb, Option.getD_none]
    text := fun s hs => by
      rw [hentry] at hs
      rw [hs]
      rfl
    reason := fun es s he hs => by
      rw [hentry] at he
      obtain ⟨d, hd, hreason, -⟩ := details?_dict (hkeyed es he)
      rw [he, hd, reason_of_details, hreason s hs]
    kind := fun es s he hs => by
      rw [hentry] at he
      obtain ⟨d, hd, -, hkind⟩ := details?_dict (hkeyed es he)
      rw [he, hd, Option.map_some, hkind s hs]
    none := fun ht hd => by
      simp only [hentry] at ht hd
      exact details?_other ht hd }

/-- Every reply that is an error is decoded, unless its payload is nested too deeply, and what is
decoded keeps the status, the reason and the kind that the payload gives. -/
theorem error_decoded : errorOfReply? none = .ok none ∧ ∀ r : Http.Response,
    (r.status.below (.int 300) = true → errorOfReply? (some r) = .ok none) ∧
    (r.status.below (.int 300) = false → (∀ p, r.json = .error p → isTooDeep p = false) →
      ∃ status details, errorOfReply? (some r) = .ok (some (.search status details)) ∧
        Decodes r status details) := by
  refine ⟨rfl, fun r => ⟨fun hlow => ?_, fun herror hreadable => ?_⟩⟩
  · rw [errorOfReply?, errorOf?, if_pos hlow]
  · rw [errorOfReply?, errorOf?, herror]
    cases hj : r.json with
    | error p =>
      refine ⟨_, _, ?_, decodes_bare fun payload hp => by cases hj.symm.trans hp⟩
      simp [hreadable p hj]
    | ok v =>
      cases v with
      | dict payload => exact ⟨_, _, rfl, decodes_dict hj⟩
      | _ => exact ⟨_, _, rfl, decodes_bare fun payload hp => by cases hj.symm.trans hp⟩

/-- A reply whose details have a repeated reason, fields of other types and keys that clash. -/
def clashing : Http.Response where
  status := 400
  body := ("\x7b\"status\": 404, \"error\": \x7b\"reason\": \"first\", \"resource.id\": 7, " ++
    "\"grouped\": \"maybe\", \"type\": \"missing\", \"resource_id\": [], " ++
    "\"reason\": \"no index\", \"x\": null\x7d\x7d").toList.map fun c => c.toNat.toUInt8

/-- A number that is whole as it is. -/
def int? : Value → Option Int
  | .num (.int i) => some i
  | _ => none

section Shapes

variable {v : Value}

theorem text?_eq_some {s : String} (h : text? v = some s) : v = .text s := by
  cases v <;> cases h
  rfl

theorem dict?_eq_some {es : List (String × Value)} (h : dict? v = some es) : v = .dict es := by
  cases v <;> cases h
  rfl

theorem int?_eq_some {i : Int} (h : int? v = some i) : v = .num (.int i) := by
  cases v with
  | num n => cases n <;> cases h; rfl
  | _ => cases h

end Shapes

theorem error_decoded_of_clashing : ∃ d, errorOfReply? (some clashing) =
      .ok (some (.search (.number (.int 404)) (some d))) ∧
    d.reason = "no index" ∧ d.kind = "missing" := by
  have hread : clashing.json.toBool = true := by decide +kernel
  have hstatus : (payloadValue? clashing "status").bind int? = some 404 := by decide +kernel
  have herror : ((payloadValue? clashing "error").bind dict?).map (fun es =>
      ((Entries.get? "reason" es).bind text?, (Entries.get? "type" es).bind text?)) =
      some (some "no index", some "missing") := by decide +kernel
  obtain ⟨status, details, hdecoded, h⟩ := (error_decoded.2 clashing).2 (by decide +kernel)
    fun p hp => by
      rw [hp] at hread
      cases hread
  obtain ⟨v, hv, hi⟩ := Option.bind_eq_some_iff.mp hstatus
  obtain ⟨es, hdict, hentries⟩ := Option.map_eq_some_iff.mp herror
  obtain ⟨w, hw, hes⟩ := Option.bind_eq_some_iff.mp hdict
  obtain ⟨hreason, hkind⟩ := Prod.mk.inj hentries
  obtain ⟨r, hr, hreason⟩ := Option.bind_eq_some_iff.mp hreason
  obtain ⟨k, hk, hkind⟩ := Option.bind_eq_some_iff.mp hkind
  rw [int?_eq_some hi] at hv
  rw [dict?_eq_some hes] at hw
  rw [text?_eq_some hreason] at hr
  rw [text?_eq_some hkind] at hk
  obtain ⟨d, rfl, hd⟩ := Option.map_eq_some_iff.mp (h.kind es _ hw hk)
  have htold := h.reason es _ hw hr
  rw [reason_of_details] at htold
  rw [h.whole 404 hv] at hdecoded
  exact ⟨d, hdecoded, htold, hd⟩

end Testbed.Search
