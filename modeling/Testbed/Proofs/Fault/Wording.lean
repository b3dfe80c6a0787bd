import Mathlib.Data.List.Infix
import Testbed.Fault.Classify

/-!
# Wordings of refused sessions

A server that refuses a session reports it in a message that names a user or a database, and that
other reports can surround.  Whether such a message is taken for one of a server that cannot be
reached depends on the name and on the text around the report, and on nothing in the report.
-/

namespace Testbed

set_option autoImplicit false

/-! Texts inside of texts. -/

namespace Text

variable {needle xs ys cs : List Char} {c : Char}

theorem holdsChars_iff : holdsChars needle cs = true ↔ needle <:+: cs := by
  induction cs with
  | nil =>
    rw [holdsChars, List.isEmpty_iff]
    exact List.infix_nil.symm
  | cons c cs ih =>
    rw [holdsChars, Bool.or_eq_true, ih, List.isPrefixOf_iff_prefix, List.infix_cons_iff]

/-- A text does not reach over a character that it does not hold. -/
theorem infix_around_iff (hc : c ∉ needle) :
    needle <:+: xs ++ c :: ys ↔ needle <:+: xs ∨ needle <:+: ys := by
  have hstart {t : List Char} (ht : t ≠ []) (hp : t <+: c :: ys) : c ∈ t := by
    obtain ⟨d, t, rfl⟩ := List.exists_cons_of_ne_nil ht
    obtain ⟨rest, hr⟩ := hp
    rw [(List.cons.inj hr).1]
    exact List.mem_cons_self
  constructor
  · intro h
    rcases List.infix_append_iff_ne_nil.mp h with hx | hy | ⟨t₁, t₂, -, ht₂, rfl, -, hp⟩
    · exact .inl hx
    · rcases List.infix_cons_iff.mp hy with hp | hy
      · by_cases hn : needle = []
        · exact .inl (hn ▸ List.nil_infix)
        · exact absurd (hstart hn hp) hc
      · exact .inr hy
    · exact absurd (List.mem_append_right _ (hstart ht₂ hp)) hc
  · rintro (hx | hy)
    · exact hx.trans (List.prefix_append _ _).isInfix
    · exact hy.trans ((List.suffix_cons _ _).trans (List.suffix_append _ _)).isInfix

/-- A text does not reach into another when no end of it is a start of the other. -/
theorem infix_append_iff_left (hys : ¬ needle <:+: ys)
    (hends : ∀ t, t <:+ needle → t <+: ys → t = []) : needle <:+: xs ++ ys ↔ needle <:+: xs := by
  constructor
  · intro h
    rcases List.infix_append_iff_ne_nil.mp h with hx | hy | ⟨t₁, t₂, -, ht₂, rfl, -, hp⟩
    · exact hx
    · exact absurd hy hys
    · exact absurd (hends t₂ (List.suffix_append _ _) hp) ht₂
  · exact fun hx => hx.trans (List.prefix_append _ _).isInfix

end Text

/-! Wordings. -/

def lowered (s : String) : List Char := s.toList.map Char.toLower

theorem lowered_append (s t : String) : lowered (s ++ t) = lowered s ++ lowered t := by
  rw [lowered, String.toList_append, List.map_append]
  rfl

theorem hasTransportWording_iff {s : String} :
    hasTransportWording s = true ↔ ∃ w ∈ transportWordings, w.toList <:+: lowered s := by
  rw [hasTransportWording, List.any_eq_true]
  simp only [Text.holdsChars_iff]
  rfl

theorem hasTransportWording_append_left {s : String} (h : hasTransportWording s = true)
    (t : String) : hasTransportWording (s ++ t) = true := by
  obtain ⟨w, hw, hs⟩ := hasTransportWording_iff.mp h
  refine hasTransportWording_iff.mpr ⟨w, hw, ?_⟩
  rw [lowered_append]
  exact hs.trans (List.prefix_append _ _).isInfix

theorem quote_not_mem_wording : ∀ w ∈ transportWordings, '"' ∉ w.toList := by decide

/-- A report that a server refused a session, by the name in it. -/
inductive Refusal where
  | password (user : String)
  | database (name : String)
  | role (name : String)

namespace Refusal

def opening : Refusal → String
  | password _ => "FATAL:  password authentication failed for user "
  | database _ => "FATAL:  database "
  | role _ => "FATAL:  role "

def name : Refusal → String
  | password n | database n | role n => n

def ending : Refusal → String
  | password _ => ""
  | database _ | role _ => " does not exist"

def text (r : Refusal) : String := r.opening ++ "\"" ++ r.name ++ "\"" ++ r.ending

theorem opening_mem (r : Refusal) : r.opening ∈
    [(password "").opening, (database "").opening, (role "").opening] := by
  cases r <;> simp [opening]

/-- No wording stands in the opening of a report, and none ends where one begins. -/
theorem opening_apart : ∀ o ∈ [(password "").opening, (database "").opening, (role "").opening],
    ∀ w ∈ transportWordings, Text.holdsChars w.toList (lowered o) = false ∧
      ∀ t ∈ w.toList.tails, t.isPrefixOf (lowered o) = true → t = [] := by
  decide +kernel

theorem infix_opening_iff (r : Refusal) {w : String} (hw : w ∈ transportWordings)
    (before : List Char) : w.toList <:+: before ++ lowered r.opening ↔ w.toList <:+: before := by
  obtain ⟨hin, hends⟩ := opening_apart _ r.opening_mem w hw
  refine Text.infix_append_iff_left ?_ fun t ht hp => ?_
  · rw [← Text.holdsChars_iff, hin]
    exact Bool.false_ne_true
  · exact hends t ((List.mem_tails _ _).mpr ht) (List.isPrefixOf_iff_prefix.mpr hp)

theorem infix_message_iff (r : Refusal) {w : String} (hw : w ∈ transportWordings)
    (before after : String) : w.toList <:+: lowered (before ++ r.text ++ after) ↔
      w.toList <:+: lowered before ∨ w.toList <:+: lowered r.name ∨
        w.toList <:+: lowered (r.ending ++ after) := by
  have hmessage : lowered (before ++ r.text ++ after) = (lowered before ++ lowered r.opening) ++
      '"' :: (lowered r.name ++ '"' :: lowered (r.ending ++ after)) := by
    have hquote : lowered "\"" = ['"'] := rfl
    simp only [text, lowered_append, hquote, List.append_assoc, List.cons_append,
      List.nil_append]
  -- the quotes keep the name apart from what surrounds it
  have hq := quote_not_mem_wording w hw
  rw [hmessage, Text.infix_around_iff hq, infix_opening_iff r hw, Text.infix_around_iff hq]

/-- A message with a report in it has a wording in front of the report, in its name, or from its
ending on. -/
theorem hasTransportWording_eq (r : Refusal) (before after : String) :
    hasTransportWording (before ++ r.text ++ after) =
      (hasTransportWording before || hasTransportWording r.name ||
        hasTransportWording (r.ending ++ after)) := by
  rw [Bool.eq_iff_iff]
  simp only [Bool.or_eq_true, hasTransportWording_iff]
  constructor
  · rintro ⟨w, hw, h⟩
    rcases (r.infix_message_iff hw before after).mp h with h | h | h
    · exact .inl (.inl ⟨w, hw, h⟩)
    · exact .inl (.inr ⟨w, hw, h⟩)
    · exact .inr ⟨w, hw, h⟩
  · rintro ((⟨w, hw, h⟩ | ⟨w, hw, h⟩) | ⟨w, hw, h⟩)
    · exact ⟨w, hw, (r.infix_message_iff hw before after).mpr (.inl h)⟩
    · exact ⟨w, hw, (r.infix_message_iff hw before after).mpr (.inr (.inl h))⟩
    · exact ⟨w, hw, (r.infix_message_iff hw before after).mpr (.inr (.inr h))⟩

end Refusal

/-- A connection that could not be opened is judged by its message alone. -/
theorem isTransport_of_uncoded {kind : SqlKind} (hk : kind.toGroup = .operational)
    (message : String) :
    (Fault.of (.sql kind none message)).isTransport = hasTransportWording message := by
  have hevidence : (Fault.of (.sql kind none message)).isTransport =
      (Evidence.incident (.sql kind none message)).isTransport := Bool.or_false _
  have hcode : connectionClass.toList.isPrefixOf ((none : Option String).getD "").toList = false ∧
      unavailableCodes.contains ((none : Option String).getD "") = false := by decide
  rw [hevidence, Evidence.isTransport, hk]
  simp only [isSqlTransport, hcode.1, hcode.2, Bool.false_or]

end Testbed
