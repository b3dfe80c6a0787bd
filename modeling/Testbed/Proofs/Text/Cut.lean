import Testbed.Text.Cut

/-!
# Cutting what was joined

A text that was joined from parts is cut into these parts again when the joint does not begin
inside of a part.  A text is made of its lines, and what is added after a whole line adds lines.
-/

namespace Testbed.Text

set_option autoImplicit false

variable {needle head before after cs rest line : List Char} {c h : Char}

/-! Cutting around a text. -/

theorem dropHead?_eq_some : dropHead? head cs = some rest ↔ cs = head ++ rest := by
  induction head generalizing cs with
  | nil =>
    rw [dropHead?, Option.some.injEq]
    rfl
  | cons h head ih =>
    cases cs with
    | nil => simp [dropHead?]
    | cons c cs =>
      by_cases hc : h = c
      · simp [dropHead?, hc, ih]
      · simp [dropHead?, hc, Ne.symm hc]

/-- The parts of a text that was cut make up the text. -/
theorem cutAround?_eq_some (hcut : cutAround? needle cs = some (before, after)) :
    cs = before ++ needle ++ after := by
  induction cs generalizing before with
  | nil =>
    rw [cutAround?, Option.map_eq_some_iff] at hcut
    obtain ⟨rest, hd, he⟩ := hcut
    cases he
    exact dropHead?_eq_some.mp hd
  | cons c cs ih =>
    rw [cutAround?] at hcut
    split at hcut
    · next rest hd =>
      cases hcut
      exact dropHead?_eq_some.mp hd
    · rw [Option.map_eq_some_iff] at hcut
      obtain ⟨⟨b, a⟩, hb, he⟩ := hcut
      cases he
      rw [ih hb]
      rfl

/-- The text that was cut out does not begin inside of the part before it. -/
theorem cutAround?_first (hn : needle ≠ []) (hcut : cutAround? needle cs = some (before, after)) :
    ¬ needle <:+: before ++ needle.dropLast := by
  have short : ¬ needle <:+: needle.dropLast := by
    intro hi
    have lengths := hi.length_le
    have positive := List.length_pos_iff.mpr hn
    rw [List.length_dropLast] at lengths
    omega
  induction cs generalizing before with
  | nil =>
    rw [cutAround?, Option.map_eq_some_iff] at hcut
    obtain ⟨rest, -, he⟩ := hcut
    cases he
    exact short
  | cons c cs ih =>
    rw [cutAround?] at hcut
    split at hcut
    · cases hcut
      exact short
    · next hd =>
      rw [Option.map_eq_some_iff] at hcut
      obtain ⟨⟨b, a⟩, hb, he⟩ := hcut
      cases he
      rw [List.cons_append, List.infix_cons_iff]
      rintro (hp | hi)
      · have longer : c :: (b ++ needle.dropLast) <+: c :: cs := by
          rw [cutAround?_eq_some hb, List.append_assoc, List.prefix_cons_inj,
            List.prefix_append_right_inj]
          exact (List.dropLast_prefix needle).trans (List.prefix_append _ _)
        obtain ⟨rest, hr⟩ := hp.trans longer
        rw [dropHead?_eq_some.mpr hr.symm] at hd
        cases hd
      · exact ih hb hi

theorem cutAround?_eq_none (hn : ¬ needle <:+: cs) : cutAround? needle cs = none := by
  cases hcut : cutAround? needle cs with
  | none => rfl
  | some parts => exact absurd ⟨parts.1, parts.2, (cutAround?_eq_some hcut).symm⟩ hn

theorem cutAround?_cons (hd : dropHead? needle (c :: cs) = none) :
    cutAround? needle (c :: cs) =
      (cutAround? needle cs).map fun (before, after) => (c :: before, after) := by
  rw [cutAround?, hd]

theorem cutAround?_self (hn : needle ≠ []) (after : List Char) :
    cutAround? needle (needle ++ after) = some ([], after) := by
  cases needle with
  | nil => exact absurd rfl hn
  | cons h t =>
    have hd : dropHead? (h :: t) (h :: (t ++ after)) = some after := dropHead?_eq_some.mpr rfl
    rw [List.cons_append, cutAround?, hd]

/-- A text is cut at a joint that does not begin inside of the part before it. -/
theorem cutAround?_append (hn : ¬ needle <:+: before ++ needle.dropLast) (after : List Char) :
    cutAround? needle (before ++ needle ++ after) = some (before, after) := by
  have nonempty : needle ≠ [] := by
    rintro rfl
    exact hn List.nil_infix
  induction before with
  | nil => exact cutAround?_self nonempty after
  | cons c before ih =>
    have hd : dropHead? needle (c :: (before ++ needle ++ after)) = none := by
      cases hd : dropHead? needle (c :: (before ++ needle ++ after)) with
      | none => rfl
      | some rest =>
        refine absurd (List.IsPrefix.isInfix ?_) hn
        have whole : needle <+: c :: (before ++ needle ++ after) :=
          ⟨rest, (dropHead?_eq_some.mp hd).symm⟩
        have part : c :: before ++ needle.dropLast <+: c :: (before ++ needle ++ after) := by
          refine ⟨[needle.getLast nonempty] ++ after, ?_⟩
          rw [← List.append_assoc, List.append_assoc _ needle.dropLast,
            List.dropLast_concat_getLast nonempty]
          rfl
        refine List.prefix_of_prefix_length_le whole part ?_
        rw [List.length_append, List.length_cons, List.length_dropLast]
        omega
    have tail : ¬ needle <:+: before ++ needle.dropLast := fun hi =>
      hn (hi.trans (List.suffix_cons c _).isInfix)
    rw [List.cons_append, List.cons_append, cutAround?_cons hd, ih tail]
    rfl

/-- A text is cut at a joint whose first character is not in the part before it. -/
theorem cutAround?_append_of_not_mem (hb : h ∉ before) (t after : List Char) :
    cutAround? (h :: t) (before ++ (h :: t) ++ after) = some (before, after) := by
  induction before with
  | nil => exact cutAround?_self (List.cons_ne_nil h t) after
  | cons c before ih =>
    simp only [List.mem_cons, not_or] at hb
    obtain ⟨hc, hb⟩ := hb
    have hd : dropHead? (h :: t) (c :: (before ++ (h :: t) ++ after)) = none := by
      simp [dropHead?, hc]
    rw [List.cons_append, List.cons_append, cutAround?_cons hd, ih hb]
    rfl

/-- Where there is a joint a text is cut there, or earlier. -/
theorem cutAround?_append_exists (hn : needle ≠ []) (before after : List Char) :
    ∃ first more, cutAround? needle (before ++ needle ++ after) = some (first, more ++ after) := by
  induction before with
  | nil => exact ⟨[], [], cutAround?_self hn after⟩
  | cons c before ih =>
    obtain ⟨first, more, hcut⟩ := ih
    cases hd : dropHead? needle (c :: (before ++ needle ++ after)) with
    | none =>
      refine ⟨c :: first, more, ?_⟩
      rw [List.cons_append, List.cons_append, cutAround?_cons hd, hcut]
      rfl
    | some rest =>
      have whole := dropHead?_eq_some.mp hd
      have suffix : after <:+ rest := by
        have ends : after <:+ c :: (before ++ needle ++ after) := ⟨c :: (before ++ needle), rfl⟩
        refine List.suffix_of_suffix_length_le ends ⟨needle, whole.symm⟩ ?_
        have lengths := congrArg List.length whole
        simp only [List.length_cons, List.length_append] at lengths
        omega
      obtain ⟨more, rfl⟩ := suffix
      refine ⟨[], more, ?_⟩
      rw [List.cons_append, List.cons_append, cutAround?, hd]

theorem not_infix_append_of_not_mem {t : List Char} (hb : h ∉ before) (ha : ¬ h :: t <:+: after) :
    ¬ h :: t <:+: before ++ after := by
  induction before with
  | nil => exact ha
  | cons c before ih =>
    simp only [List.mem_cons, not_or] at hb
    obtain ⟨hc, hb⟩ := hb
    rw [List.cons_append, List.infix_cons_iff]
    rintro (⟨rest, he⟩ | hi)
    · exact hc (List.cons.inj he).1
    · exact ih hb hi

/-- A character that is not in a text does not complete it. -/
theorem infix_of_concat (hn : needle ≠ []) (hc : c ∉ needle) (h : needle <:+: cs ++ [c]) :
    needle <:+: cs := by
  rcases List.infix_concat_iff.mp h with hs | hi
  · rcases List.suffix_concat_iff.mp hs with he | ⟨start, rfl, -⟩
    · exact absurd he hn
    · exact absurd (List.mem_append_right _ List.mem_cons_self) hc
  · exact hi

/-! Lines. -/

/-- A text without ends of lines. -/
def OneLine (cs : List Char) : Prop := '\n' ∉ cs ∧ '\r' ∉ cs

instance (cs : List Char) : Decidable (OneLine cs) :=
  inferInstanceAs (Decidable ('\n' ∉ cs ∧ '\r' ∉ cs))

theorem OneLine.append (hb : OneLine before) (ha : OneLine after) : OneLine (before ++ after) where
  left hm := (List.mem_append.mp hm).elim hb.1 ha.1
  right hm := (List.mem_append.mp hm).elim hb.2 ha.2

theorem linesFrom_cons (hn : c ≠ '\n') (hr : c ≠ '\r') (start rest : List Char) :
    linesFrom start (c :: rest) = linesFrom (c :: start) rest := by
  rw [linesFrom]
  · simp [hn, hr]
  · rintro rest' rfl
    exact absurd rfl hr

theorem linesFrom_one (hl : OneLine line) (start : List Char) :
    linesFrom start (line ++ ['\n']) = [start.reverse ++ line] := by
  induction line generalizing start with
  | nil =>
    rw [List.append_nil]
    rfl
  | cons c line ih =>
    simp only [OneLine, List.mem_cons, not_or] at hl
    obtain ⟨⟨hn, hln⟩, hr, hlr⟩ := hl
    rw [List.cons_append, linesFrom_cons (Ne.symm hn) (Ne.symm hr), ih ⟨hln, hlr⟩]
    simp

theorem lines_one (hl : OneLine line) : lines (line ++ ['\n']) = [line] := linesFrom_one hl []

/-- A line break that is not the first of two characters of one ends a line. -/
theorem linesFrom_break (hb : c = '\n' ∨ c = '\r')
    (hr : ∀ rest', c = '\r' → rest ≠ '\n' :: rest') (start : List Char) :
    linesFrom start (c :: rest) = start.reverse :: linesFrom [] rest := by
  rw [linesFrom]
  · rcases hb with rfl | rfl <;> rfl
  · exact hr

/-- What is added after a whole line adds its lines. -/
theorem linesFrom_append (start cs added : List Char) :
    linesFrom start (cs ++ '\n' :: added) = linesFrom start (cs ++ ['\n']) ++ lines added := by
  fun_induction linesFrom start cs with
  | case1 start h => rfl
  | case2 start h => rfl
  | case3 start rest ih =>
    simp only [List.cons_append, linesFrom, ih]
  | case4 start c rest hne hb ih =>
    -- a carriage return at the end is one break together with the line feed after it
    by_cases hcr : c = '\r' ∧ rest = []
    · obtain ⟨rfl, rfl⟩ := hcr
      rfl
    · have apart (more : List Char) : ∀ rest', c = '\r' → rest ++ '\n' :: more ≠ '\n' :: rest' := by
        intro rest' hc he
        cases rest with
        | nil => exact hcr ⟨hc, rfl⟩
        | cons d rest =>
          cases (List.cons.inj he).1
          exact hne rest hc rfl
      have hb' : c = '\n' ∨ c = '\r' := by simpa using hb
      rw [List.cons_append, List.cons_append, linesFrom_break hb' (apart added),
        linesFrom_break hb' (apart []), ih]
      rfl
  | case5 start c rest hne hb ih =>
    simp only [Bool.or_eq_true, beq_iff_eq, not_or] at hb
    rw [List.cons_append, List.cons_append, linesFrom_cons hb.1 hb.2, linesFrom_cons hb.1 hb.2, ih]

/-- A text whose last line is ended. -/
def Ended (cs : List Char) : Prop := cs = [] ∨ ∃ start, cs = start ++ ['\n']

theorem lines_append (h : Ended cs) (added : List Char) :
    lines (cs ++ added) = lines cs ++ lines added := by
  rcases h with rfl | ⟨start, rfl⟩
  · rfl
  · rw [List.append_assoc]
    exact linesFrom_append [] start added

theorem linesFrom_infix (start cs : List Char) :
    ∀ line ∈ linesFrom start cs, line <:+: start.reverse ++ cs := by
  fun_induction linesFrom start cs with
  | case1 start h => exact fun line hl => by cases hl
  | case2 start h =>
    intro line hl
    rw [List.mem_singleton.mp hl]
    exact (List.prefix_append _ _).isInfix
  | case3 start rest ih =>
    intro line hl
    rcases List.mem_cons.mp hl with rfl | hl
    · exact (List.prefix_append _ _).isInfix
    · exact (ih line hl).trans ⟨start.reverse ++ ['\r', '\n'], [], by simp⟩
  | case4 start c rest hne hb ih =>
    intro line hl
    rcases List.mem_cons.mp hl with rfl | hl
    · exact (List.prefix_append _ _).isInfix
    · exact (ih line hl).trans ⟨start.reverse ++ [c], [], by simp⟩
  | case5 start c rest hne hb ih =>
    intro line hl
    have whole := ih line hl
    rw [List.reverse_cons, List.append_assoc] at whole
    exact whole

/-! Words. -/

theorem wordsFrom_not_blank (start cs : List Char) (hs : ∀ c ∈ start, isBlank c = false) :
    ∀ word ∈ wordsFrom start cs, ∀ c ∈ word, isBlank c = false := by
  fun_induction wordsFrom start cs with
  | case1 start h => exact fun word hw => by cases hw
  | case2 start h =>
    intro word hw c hc
    rw [List.mem_singleton.mp hw, List.mem_reverse] at hc
    exact hs c hc
  | case3 start c rest hb he ih => exact ih nofun
  | case4 start c rest hb he ih =>
    intro word hw d hd
    rcases List.mem_cons.mp hw with rfl | hw
    · exact hs d (List.mem_reverse.mp hd)
    · exact ih nofun word hw d hd
  | case5 start c rest hb ih =>
    refine ih fun d hd => ?_
    rcases List.mem_cons.mp hd with rfl | hd
    · exact Bool.eq_false_iff.mpr hb
    · exact hs d hd

theorem mem_intercalate {joint : List Char} {parts : List (List Char)}
    (hc : c ∈ joint.intercalate parts) : c ∈ joint ∨ ∃ part ∈ parts, c ∈ part := by
  induction parts with
  | nil => cases hc
  | cons part parts ih =>
    cases parts with
    | nil =>
      rw [List.intercalate_singleton] at hc
      exact .inr ⟨part, List.mem_cons_self, hc⟩
    | cons next parts =>
      rw [List.intercalate_cons_cons, List.append_assoc, List.mem_append, List.mem_append] at hc
      rcases hc with hc | hc | hc
      · exact .inr ⟨part, List.mem_cons_self, hc⟩
      · exact .inl hc
      · rcases ih hc with hj | ⟨p, hp, hm⟩
        · exact .inl hj
        · exact .inr ⟨p, List.mem_cons_of_mem _ hp, hm⟩

end Testbed.Text
