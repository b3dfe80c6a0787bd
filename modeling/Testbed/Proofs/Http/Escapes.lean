import Testbed.Http.Url
import Testbed.Proofs.Dsn.Percent
import Testbed.Proofs.Http.Host

/-!
# Escapes in URLs

Parts of a URL are escaped before the URL is put together, and the whole is quoted again after
that.  Escapes that are well formed are kept by both, so a part that was escaped does not touch what
stands in front of it.
-/

namespace Testbed.Http

set_option autoImplicit false

variable {a b c : Char} {cs : List Char}

theorem allEscaped_other (hc : c ≠ '%') (cs : List Char) :
    allEscaped (c :: cs) = allEscaped cs := by
  rw [allEscaped]
  · exact fun _ _ _ h => absurd h hc
  · exact fun h => absurd h hc

theorem allEscaped_escape (ha : isHexDigit a = true) (hb : isHexDigit b = true) (cs : List Char) :
    allEscaped ('%' :: a :: b :: cs) = allEscaped cs := by
  rw [allEscaped, ha, hb, Bool.true_and, Bool.true_and]

theorem allEscaped_append (h : allEscaped cs = true) (rest : List Char) :
    allEscaped (cs ++ rest) = allEscaped rest := by
  fun_induction allEscaped cs with
  | case1 => rfl
  | case2 a b cs ih =>
    simp only [Bool.and_eq_true] at h
    obtain ⟨⟨ha, hb⟩, h⟩ := h
    rw [List.cons_append, List.cons_append, List.cons_append, allEscaped_escape ha hb, ih h]
  | case3 => cases h
  | case4 c cs _ hc ih =>
    rw [List.cons_append, allEscaped_other (fun he => hc he), ih h]

theorem isHexDigit_ne (h : isHexDigit a = true) : a ≠ '%' := by
  rintro rfl
  cases h

theorem looksLikeDigit_of_hex (h : isHexDigit a = true) : looksLikeDigit a = true := by
  rw [looksLikeDigit, isAlphanum_of_isHexDigit h, Bool.true_or]

theorem escapeDigit?_of_hex (h : isHexDigit a = true) : ∃ n, escapeDigit? a = some n := by
  have value : ∃ n, Json.hexValue? a = some n := by
    simp only [isHexDigit, Bool.or_eq_true] at h
    unfold Json.hexValue?
    split
    · exact ⟨_, rfl⟩
    · split
      · exact ⟨_, rfl⟩
      · rw [if_pos (h.resolve_left (not_or.mpr ⟨‹_›, ‹_›⟩))]
        exact ⟨_, rfl⟩
  obtain ⟨n, hn⟩ := value
  exact ⟨n, by rw [escapeDigit?, hn, Option.some_or]⟩

theorem unescapeUnreserved_other (hc : c ≠ '%') (cs : List Char) :
    unescapeUnreserved (c :: cs) = (unescapeUnreserved cs).map (c :: ·) := by
  rw [unescapeUnreserved]
  exact fun _ _ _ h => absurd h hc

/-- Where every percent sign starts an escape, the escapes can be undone. -/
theorem unescapeUnreserved_of_allEscaped (h : allEscaped cs = true) :
    ∃ plain, unescapeUnreserved cs = some plain := by
  fun_induction allEscaped cs with
  | case1 => exact ⟨[], rfl⟩
  | case2 a b cs ih =>
    simp only [Bool.and_eq_true] at h
    obtain ⟨⟨ha, hb⟩, h⟩ := h
    obtain ⟨plain, hplain⟩ := ih h
    obtain ⟨hi, hhi⟩ := escapeDigit?_of_hex ha
    obtain ⟨lo, hlo⟩ := escapeDigit?_of_hex hb
    have taken : (a != '%' && b != '%' && looksLikeDigit a && looksLikeDigit b) = true := by
      simp [isHexDigit_ne ha, isHexDigit_ne hb, looksLikeDigit_of_hex ha, looksLikeDigit_of_hex hb]
    rw [unescapeUnreserved, if_pos taken, hhi, hlo, hplain]
    exact ⟨_, rfl⟩
  | case3 => cases h
  | case4 c cs _ hc ih =>
    obtain ⟨plain, hplain⟩ := ih h
    rw [unescapeUnreserved_other (fun he => hc he), hplain]
    exact ⟨_, rfl⟩

/-- A percent sign before two characters of which one looks like no digit stands for itself. -/
theorem unescapeUnreserved_literal (h : looksLikeDigit a = false ∨ looksLikeDigit b = false)
    (cs : List Char) : unescapeUnreserved ('%' :: a :: b :: cs) =
      (unescapeUnreserved (a :: b :: cs)).map ('%' :: ·) := by
  rw [unescapeUnreserved, if_neg]
  rcases h with h | h <;> simp [h]

theorem unescapeUnreserved_percent_slash (cs : List Char) :
    unescapeUnreserved ('%' :: '/' :: cs) = (unescapeUnreserved ('/' :: cs)).map ('%' :: ·) := by
  cases cs with
  | nil => rfl
  | cons c cs => exact unescapeUnreserved_literal (.inl (by decide)) cs

/-- A slash belongs to no escape. -/
theorem unescapeUnreserved_slash (front rest : List Char) :
    unescapeUnreserved (front ++ '/' :: rest) = (unescapeUnreserved front).bind fun x =>
      (unescapeUnreserved rest).map fun y => x ++ '/' :: y := by
  fun_induction unescapeUnreserved front with
  | case1 =>
    rw [List.nil_append, unescapeUnreserved_other (by decide)]
    rfl
  | case2 a b cs taken hi lo hlo hhi _ ih =>
    simp only [List.cons_append]
    rw [unescapeUnreserved, if_pos taken, hhi, hlo, ih]
    cases unescapeUnreserved cs <;> cases unescapeUnreserved rest <;>
      simp only [Option.bind_none, Option.map_none, Option.bind_some, Option.map_some]
    split <;> rfl
  | case3 a b cs taken unread =>
    simp only [List.cons_append]
    rw [unescapeUnreserved, if_pos taken]
    split
    · next hhi hlo => exact absurd hlo (fun hlo => unread _ _ hhi hlo)
    · rfl
  | case4 a b cs kept ih =>
    simp only [List.cons_append] at ih ⊢
    rw [unescapeUnreserved, if_neg kept, ih]
    cases unescapeUnreserved (a :: b :: cs) <;> cases unescapeUnreserved rest <;> rfl
  | case5 c cs short ih =>
    have literal : unescapeUnreserved (c :: (cs ++ '/' :: rest)) =
        (unescapeUnreserved (cs ++ '/' :: rest)).map (c :: ·) := by
      by_cases hc : c = '%'
      · subst hc
        match cs with
        | [] => exact unescapeUnreserved_percent_slash rest
        | [a] => exact unescapeUnreserved_literal (.inr (by decide)) rest
        | a :: b :: cs => exact (short a b cs rfl rfl).elim
      · exact unescapeUnreserved_other hc _
    rw [List.cons_append, literal, ih]
    cases unescapeUnreserved cs <;> cases unescapeUnreserved rest <;> rfl

theorem percentChars_append (safe : Char → Bool) (cs ds : List Char) :
    Text.percentChars safe (cs ++ ds) = Text.percentChars safe cs ++ Text.percentChars safe ds :=
  List.flatMap_append

theorem percentChars_safe {safe : Char → Bool} (h : ∀ c ∈ cs, c.toNat < 128 ∧ safe c = true) :
    Text.percentChars safe cs = cs := by
  induction cs with
  | nil => rfl
  | cons c cs ih =>
    obtain ⟨hc, hs⟩ := h c List.mem_cons_self
    rw [Text.percentChars, List.flatMap_cons, decide_eq_true hc, hs]
    exact congrArg (c :: ·) (ih fun d hd => h d (List.mem_cons_of_mem _ hd))

/-- What stands before a slash is quoted by itself when all escapes behind it are well formed. -/
theorem requote_slash {rest : List Char} (h : allEscaped rest = true) (front : List Char) :
    ∃ quoted, requote (front ++ '/' :: rest) = requote front ++ '/' :: quoted := by
  obtain ⟨plain, hplain⟩ := unescapeUnreserved_of_allEscaped h
  have quote (safe : Char → Bool) (hs : safe '/' = true) (cs ds : List Char) :
      Text.percentChars safe (cs ++ '/' :: ds) =
        Text.percentChars safe cs ++ '/' :: Text.percentChars safe ds := by
    have slash : Text.percentChars safe ['/'] = ['/'] := percentChars_safe (by simpa using hs)
    rw [percentChars_append, ← List.singleton_append, percentChars_append safe ['/'] ds, slash]
    rfl
  unfold requote
  rw [unescapeUnreserved_slash, hplain]
  cases unescapeUnreserved front with
  | none => exact ⟨_, quote _ (by decide) _ _⟩
  | some x => exact ⟨_, quote _ (by decide) _ _⟩

/-- What needs no quoting stays in front of what is quoted. -/
theorem requote_plain {front : List Char}
    (h : ∀ c ∈ front, c ≠ '%' ∧ c.toNat < 128 ∧ isReservedOrSafe c = true) (rest : List Char) :
    requote (front ++ rest) = front ++ requote rest := by
  have unescaped : unescapeUnreserved (front ++ rest) =
      (unescapeUnreserved rest).map (front ++ ·) := by
    induction front with
    | nil => simp
    | cons c front ih =>
      rw [List.cons_append, unescapeUnreserved_other (h c List.mem_cons_self).1,
        ih fun d hd => h d (List.mem_cons_of_mem _ hd), Option.map_map]
      rfl
  unfold requote
  rw [unescaped]
  cases unescapeUnreserved rest with
  | none =>
    change Text.percentChars _ (front ++ rest) = _
    rw [percentChars_append, percentChars_safe fun c hc => (h c hc).2]
  | some plain =>
    change Text.percentChars _ (front ++ plain) = _
    rw [percentChars_append, percentChars_safe fun c hc => ⟨(h c hc).2.1, by simp [(h c hc).2.2]⟩]

theorem isHexDigit_of_hexValue? {n : Nat} (h : Json.hexValue? a = some n) :
    isHexDigit a = true := by
  rw [isHexDigit, Bool.or_eq_true, Bool.or_eq_true]
  unfold Json.hexValue? at h
  split at h
  · exact .inl (.inl ‹_›)
  · split at h
    · exact .inl (.inr ‹_›)
    · split at h
      · exact .inr ‹_›
      · cases h

theorem allEscaped_bytes (bytes : List UInt8) (rest : List Char) :
    allEscaped (bytes.flatMap Text.percentByte ++ rest) = allEscaped rest := by
  induction bytes with
  | nil => rfl
  | cons b bytes ih =>
    obtain ⟨x, y, hb, hx, hy, -, -⟩ := Text.percentByte_eq b
    rw [List.flatMap_cons, List.append_assoc, hb, List.cons_append, List.cons_append,
      List.cons_append, List.nil_append,
      allEscaped_escape (isHexDigit_of_hexValue? hx) (isHexDigit_of_hexValue? hy), ih]

theorem allEscaped_percentChars_cons {safe : Char → Bool} (hc : safe c = true → c ≠ '%')
    (cs : List Char) : allEscaped (Text.percentChars safe (c :: cs)) =
      allEscaped (Text.percentChars safe cs) := by
  rw [Text.percentChars, List.flatMap_cons]
  split
  · next hs => exact allEscaped_other (hc (Bool.and_eq_true_iff.mp hs).2) _
  · exact allEscaped_bytes _ _

/-- Percent signs that are encoded leave well-formed escapes. -/
theorem allEscaped_of_unsafe {safe : Char → Bool} (hp : safe '%' = false) (cs : List Char) :
    allEscaped (Text.percentChars safe cs) = true := by
  induction cs with
  | nil => rfl
  | cons c cs ih =>
    have hc (hs : safe c = true) : c ≠ '%' := by
      rintro rfl
      cases hp.symm.trans hs
    rw [allEscaped_percentChars_cons hc, ih]

/-- Escapes that are well formed are so after the rest was encoded. -/
theorem allEscaped_of_kept {safe : Char → Bool} (hp : safe '%' = true)
    (hu : ∀ c, Text.isUnreserved c = true → safe c = true) (h : allEscaped cs = true) :
    allEscaped (Text.percentChars safe cs) = true := by
  fun_induction allEscaped cs with
  | case1 => rfl
  | case2 a b cs ih =>
    simp only [Bool.and_eq_true] at h
    obtain ⟨⟨ha, hb⟩, h⟩ := h
    have digit {d : Char} (hd : isHexDigit d = true) : d.toNat < 128 ∧ safe d = true :=
      have hd := isUnreserved_of_isHexDigit hd
      ⟨toNat_of_isUnreserved hd, hu d hd⟩
    have stays : ∀ c ∈ ['%', a, b], c.toNat < 128 ∧ safe c = true := by
      simp only [List.forall_mem_cons]
      exact ⟨⟨by decide, hp⟩, digit ha, digit hb, nofun⟩
    change allEscaped (Text.percentChars safe (['%', a, b] ++ cs)) = true
    rw [percentChars_append, percentChars_safe stays]
    exact (allEscaped_escape ha hb _).trans (ih h)
  | case3 => cases h
  | case4 c cs _ hc ih => rw [allEscaped_percentChars_cons fun _ he => hc he, ih h]

/-- What was escaped has well-formed escapes only. -/
theorem escapeInvalid_allEscaped {allowed : Char → Bool}
    (ha : ∀ c, Text.isUnreserved c = true → allowed c = true) (hp : allowed '%' = false)
    (cs : List Char) : allEscaped (escapeInvalid allowed cs) = true := by
  unfold escapeInvalid
  generalize upperEscapes cs = upper
  cases kept : allEscaped upper with
  | false => exact allEscaped_of_unsafe (by simp [hp, kept]) upper
  | true => exact allEscaped_of_kept (by simp [kept]) (fun c hc => by simp [ha c hc]) kept

theorem isPathChar_unreserved (h : Text.isUnreserved c = true) : isPathChar c = true := by
  simp [isPathChar, isUserChar, h]

theorem isQueryChar_unreserved (h : Text.isUnreserved c = true) : isQueryChar c = true := by
  simp [isQueryChar, isPathChar_unreserved h]

/-- The path of a request is escaped and not empty. -/
theorem path_escaped (path : List Char) : ∃ path', path' ≠ [] ∧ allEscaped path' = true ∧
    (if (escapeInvalid isPathChar path).isEmpty then ['/'] else escapeInvalid isPathChar path) =
      path' := by
  refine ⟨_, ?_, ?_, rfl⟩ <;> split
  · exact List.cons_ne_nil _ _
  · next hp => exact fun he => hp (List.isEmpty_iff.mpr he)
  · rfl
  · exact escapeInvalid_allEscaped (fun _ => isPathChar_unreserved) (by decide) _

theorem part_escaped (part : Option (List Char)) :
    allEscaped ((part.map (escapeInvalid isQueryChar)).getD []) = true := by
  cases part with
  | none => rfl
  | some part => exact escapeInvalid_allEscaped (fun _ => isQueryChar_unreserved) (by decide) part

end Testbed.Http
