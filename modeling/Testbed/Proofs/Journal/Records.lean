import Mathlib.Data.List.Forall2
import Testbed.Journal.Basic
import Testbed.Proofs.Names
import Testbed.Proofs.Text.Cut

/-!
# Records read back

A setup failure is written as one line of the journal.  Every such line is read back as one
failure, with the same fields when no bar begins in the first three of them.
-/

namespace Testbed

set_option autoImplicit false

open Text (OneLine cutAround?)

namespace SetupFailure

variable {f g : SetupFailure}

/-- No bar begins in a field, not even one that is completed by the bar after it. -/
def Barless (field : String) : Prop := ¬ bar.toList <:+: field.toList ++ bar.toList.dropLast

instance (field : String) : Decidable (Barless field) :=
  inferInstanceAs (Decidable (¬ bar.toList <:+: field.toList ++ bar.toList.dropLast))

/-- No bar begins in a field before the message. -/
structure Plain (f : SetupFailure) : Prop where
  testId : Barless f.testId
  service : Barless f.service
  step : Barless f.step

instance (f : SetupFailure) : Decidable f.Plain :=
  decidable_of_iff (Barless f.testId ∧ Barless f.service ∧ Barless f.step)
    ⟨fun h => ⟨h.1, h.2.1, h.2.2⟩, fun h => ⟨h.testId, h.service, h.step⟩⟩

/-- The fields of a record, with the bars between them. -/
def fields (f : SetupFailure) : List Char :=
  f.testId.toList ++ bar.toList ++ (f.service.toList ++ bar.toList ++
    (f.step.toList ++ bar.toList ++ f.message.toList))

theorem record_toList (f : SetupFailure) :
    f.record.toList = (tag ++ bar).toList ++ f.fields := by
  rw [record, String.toList_intercalate, String.toList_append]
  simp [List.intercalate_cons_cons, fields]

theorem ofFields?_eq_some {cs : List Char} (h : ofFields? cs = some g) :
    g.fields = cs ∧ g.Plain := by
  have bars : bar.toList ≠ [] := by decide
  simp only [ofFields?, Option.bind_eq_bind, Option.bind_eq_some_iff] at h
  obtain ⟨⟨testId, cs₁⟩, h₁, ⟨service, cs₂⟩, h₂, ⟨step, message⟩, h₃, hg⟩ := h
  cases hg
  have barless {field after cs : List Char} (hcut : cutAround? bar.toList cs = some (field, after)) :
      Barless (String.ofList field) := by
    rw [Barless, String.toList_ofList]
    exact Text.cutAround?_first bars hcut
  refine ⟨?_, barless h₁, barless h₂, barless h₃⟩
  simp only [fields, String.toList_ofList]
  rw [← Text.cutAround?_eq_some h₃, ← Text.cutAround?_eq_some h₂, ← Text.cutAround?_eq_some h₁]

theorem ofFields?_fields (f : SetupFailure) : ∃ g, ofFields? f.fields = some g := by
  have bars : bar.toList ≠ [] := by decide
  obtain ⟨testId, more, h₁⟩ := Text.cutAround?_append_exists bars f.testId.toList
    (f.service.toList ++ bar.toList ++ (f.step.toList ++ bar.toList ++ f.message.toList))
  obtain ⟨service, more', h₂⟩ := Text.cutAround?_append_exists bars (more ++ f.service.toList)
    (f.step.toList ++ bar.toList ++ f.message.toList)
  obtain ⟨step, message, h₃⟩ := Text.cutAround?_append_exists bars (more' ++ f.step.toList)
    f.message.toList
  simp only [List.append_assoc] at h₁ h₂ h₃
  simp only [ofFields?, fields, List.append_assoc, h₁, h₂, h₃, Option.bind_eq_bind, Option.bind_some]
  exact ⟨_, rfl⟩

theorem ofFields?_of_plain (h : f.Plain) : ofFields? f.fields = some f := by
  simp only [ofFields?, fields, Text.cutAround?_append h.testId, Text.cutAround?_append h.service,
    Text.cutAround?_append h.step, Option.bind_eq_bind, Option.bind_some, String.ofList_toList]
  rfl

/-- A failure that is read back from the record of another one.  It has the same record, and of
all failures with that record it is the plain one. -/
structure ReadAs (f g : SetupFailure) : Prop where
  record : g.record = f.record
  plain : g.Plain

/-- A failure is read back as it was recorded exactly if it is plain. -/
theorem ReadAs.eq_iff (h : f.ReadAs g) : g = f ↔ f.Plain := by
  constructor
  · rintro rfl
    exact h.plain
  · intro hf
    have same : g.fields = f.fields := by
      have whole := congrArg String.toList h.record
      rw [record_toList, record_toList] at whole
      exact List.append_cancel_left whole
    have read := ofFields?_of_plain h.plain
    rw [same, ofFields?_of_plain hf] at read
    exact (Option.some.inj read).symm

theorem ReadAs.eq_iff_of_all {written read : List SetupFailure}
    (h : List.Forall₂ ReadAs written read) : read = written ↔ ∀ f ∈ written, f.Plain := by
  induction h with
  | nil => simp
  | cons hf _ ih => rw [List.cons.injEq, hf.eq_iff, ih, List.forall_mem_cons]

/-- The line of a record is read as one failure. -/
theorem ofLine?_record (f : SetupFailure) {before : List Char} (hb : 'S' ∉ before) :
    ∃ g, ofLine? (before ++ f.record.toList) = some g ∧ f.ReadAs g := by
  obtain ⟨t, ht⟩ : ∃ t, (tag ++ bar).toList = 'S' :: t := ⟨_, rfl⟩
  have hline : ofLine? (before ++ f.record.toList) = ofFields? f.fields := by
    rw [ofLine?, record_toList, ← List.append_assoc, ht, Text.cutAround?_append_of_not_mem hb]
    rfl
  obtain ⟨g, hg⟩ := ofFields?_fields f
  obtain ⟨same, plain⟩ := ofFields?_eq_some hg
  refine ⟨g, hline.trans hg, ?_, plain⟩
  rw [← String.toList_inj, record_toList, record_toList, same]

theorem ofLine?_eq_none {line : List Char} (h : ¬ (tag ++ bar).toList <:+: line) :
    ofLine? line = none := by
  rw [ofLine?, Text.cutAround?_eq_none h]
  rfl

/-! Records are single lines. -/

theorem collapse_oneLine (s : String) : OneLine (collapse s).toList := by
  have absent {c : Char} (hc : Text.isBlank c = true) (hs : c ∉ " ".toList) :
      c ∉ (collapse s).toList := by
    intro hm
    rw [collapse, String.toList_ofList] at hm
    rcases Text.mem_intercalate hm with hm | ⟨word, hw, hm⟩
    · exact hs hm
    · rw [Text.wordsFrom_not_blank [] s.toList nofun word hw c hm] at hc
      cases hc
  exact ⟨absent (by decide) (by decide), absent (by decide) (by decide)⟩

/-- All fields but the message stand on one line. -/
structure InLine (f : SetupFailure) : Prop where
  testId : OneLine f.testId.toList
  service : OneLine f.service.toList
  step : OneLine f.step.toList

instance (f : SetupFailure) : Decidable f.InLine :=
  decidable_of_iff (OneLine f.testId.toList ∧ OneLine f.service.toList ∧ OneLine f.step.toList)
    ⟨fun h => ⟨h.1, h.2.1, h.2.2⟩, fun h => ⟨h.testId, h.service, h.step⟩⟩

theorem record_oneLine (h : f.InLine) (hm : OneLine f.message.toList) :
    OneLine f.record.toList := by
  have bars : OneLine bar.toList := by decide
  rw [record_toList, fields]
  refine .append (by decide) ?_
  exact (h.testId.append bars).append
    ((h.service.append bars).append ((h.step.append bars).append hm))

end SetupFailure

/-! Dates. -/

theorem Date.mem_text {d : Date} {c : Char} (hc : c ∈ d.text.toList) :
    c.isDigit = true ∨ c ∈ "- :".toList := by
  have number {n : Int} (hn : c ∈ (Decimal.ofInt n).toList) :
      c.isDigit = true ∨ c ∈ "- :".toList := by
    rcases Decimal.mem_ofInt hn with rfl | hd
    · exact .inr (by decide)
    · exact .inl hd
  have padded {n : Int} (hn : c ∈ (Decimal.paddedInt 2 n).toList) :
      c.isDigit = true ∨ c ∈ "- :".toList := by
    rcases Decimal.mem_paddedInt hn with rfl | hd
    · exact .inr (by decide)
    · exact .inl hd
  have mark (s : String) (hs : s.toList ⊆ "- :".toList) (hm : c ∈ s.toList) :
      c.isDigit = true ∨ c ∈ "- :".toList := .inr (hs hm)
  simp only [text, String.toList_append, List.mem_append] at hc
  rcases hc with (((((hc | hc) | hc) | hc) | hc) | hc) | ((((hc | hc) | hc) | hc) | hc)
  · exact number hc
  · exact mark "-" (by simp) hc
  · exact padded hc
  · exact mark "-" (by simp) hc
  · exact padded hc
  · exact mark " " (by simp) hc
  · exact padded hc
  · exact mark ":" (by simp) hc
  · exact padded hc
  · exact mark ":" (by simp) hc
  · exact padded hc

theorem mem_stampOf {moment : Float} {c : Char} (hc : c ∈ (stampOf moment).toList) :
    c.isDigit = true ∨ c ∈ "- :,".toList := by
  rw [stampOf, String.toList_append, String.toList_append, List.mem_append, List.mem_append] at hc
  rcases hc with (hc | hc) | hc
  · rcases Date.mem_text hc with hd | hm
    · exact .inl hd
    · exact .inr (List.mem_append_left [','] hm)
  · exact .inr (List.mem_append_right "- :".toList hc)
  · rcases Decimal.mem_paddedInt hc with rfl | hd
    · exact .inr (by decide)
    · exact .inl hd

theorem dateOf?_eq_some {moment : Float} {date : String} (h : dateOf? moment = .ok (some date)) :
    date = stampOf moment := by
  rw [dateOf?] at h
  split at h
  · cases h
  · cases h
  · split at h <;> cases h
    rfl

/-! Entries of a journal. -/

namespace Journal

def entryLine (date : String) (level : Level) (entry : String) : List Char :=
  date.toList ++ ' ' :: level.text.toList ++ [' '] ++ entry.toList

variable {j : Journal} {moment : Float} {date : String}

/-- Writing an entry adds the failures of its lines. -/
theorem write_failures (hj : Text.Ended j.text.toList) (hd : dateOf? moment = .ok (some date))
    (level : Level) (entry : String) : ∃ j', j.write moment level entry = .ok j' ∧
      Text.Ended j'.text.toList ∧ j'.failures = j.failures ++
        (Text.lines (entryLine date level entry ++ ['\n'])).filterMap SetupFailure.ofLine? := by
  refine ⟨{ text := j.text ++ date ++ " " ++ level.text ++ " " ++ entry ++ "\n" }, ?_, ?_, ?_⟩
  · rw [write, hd]
    rfl
  · refine .inr ⟨j.text.toList ++ entryLine date level entry, ?_⟩
    simp [entryLine]
  · have whole : (j.text ++ date ++ " " ++ level.text ++ " " ++ entry ++ "\n").toList =
        j.text.toList ++ (entryLine date level entry ++ ['\n']) := by
      simp [entryLine]
    rw [failures, failures, whole, Text.lines_append hj, List.filterMap_append]

/-- What stands before an entry is on one line, and the tag does not begin in it. -/
theorem before_entry (hd : dateOf? moment = .ok (some date)) (level : Level) :
    OneLine (date.toList ++ ' ' :: level.text.toList ++ [' ']) ∧
      'S' ∉ date.toList ++ ' ' :: level.text.toList ++ [' '] := by
  have absent {c : Char} (hdigit : c.isDigit = false) (hmark : c ∉ "- :,".toList)
      (hlevel : ∀ level : Level, c ∉ level.text.toList) :
      c ∉ date.toList ++ ' ' :: level.text.toList ++ [' '] := by
    have space : c ≠ ' ' := by
      rintro rfl
      exact hmark (by decide)
    rw [dateOf?_eq_some hd]
    intro hm
    simp only [List.mem_append, List.mem_cons, List.not_mem_nil, or_false] at hm
    rcases hm with (hm | hm | hm) | hm
    · rcases mem_stampOf hm with h | h
      · rw [hdigit] at h
        cases h
      · exact hmark h
    · exact space hm
    · exact hlevel level hm
    · exact space hm
  refine ⟨⟨absent rfl (by decide) fun level => ?_, absent rfl (by decide) fun level => ?_⟩,
    absent rfl (by decide) fun level => ?_⟩ <;> cases level <;> decide

theorem record_failures (hj : Text.Ended j.text.toList) (hd : dateOf? moment = .ok (some date))
    {f : SetupFailure} (hf : f.InLine) (hm : OneLine f.message.toList) :
    ∃ j' g, j.write moment .error f.record = .ok j' ∧ Text.Ended j'.text.toList ∧
      j'.failures = j.failures ++ [g] ∧ f.ReadAs g := by
  obtain ⟨j', hw, hj', hfail⟩ := write_failures hj hd .error f.record
  obtain ⟨oneLine, untagged⟩ := before_entry hd .error
  obtain ⟨g, hg, hread⟩ := SetupFailure.ofLine?_record f untagged
  refine ⟨j', g, hw, hj', ?_, hread⟩
  rw [hfail, entryLine, Text.lines_one (oneLine.append (SetupFailure.record_oneLine hf hm)),
    List.filterMap_cons, hg]
  rfl

/-- An entry without the tag adds no failures, whatever lines it has. -/
theorem note_failures (hj : Text.Ended j.text.toList) (hd : dateOf? moment = .ok (some date))
    {text : String} (ht : ¬ (SetupFailure.tag ++ SetupFailure.bar).toList <:+: text.toList)
    (level : Level) : ∃ j', j.write moment level text = .ok j' ∧ Text.Ended j'.text.toList ∧
      j'.failures = j.failures := by
  obtain ⟨j', hw, hj', hfail⟩ := write_failures hj hd level text
  refine ⟨j', hw, hj', ?_⟩
  obtain ⟨t, he⟩ : ∃ t, (SetupFailure.tag ++ SetupFailure.bar).toList = 'S' :: t := ⟨_, rfl⟩
  -- the tag neither runs into the end of the last line nor begins before the entry
  have ended : ¬ (SetupFailure.tag ++ SetupFailure.bar).toList <:+: text.toList ++ ['\n'] :=
    fun hi => ht (Text.infix_of_concat (by decide) (by decide) hi)
  have none : (Text.lines (entryLine date level text ++ ['\n'])).filterMap
      SetupFailure.ofLine? = [] := by
    rw [List.filterMap_eq_nil_iff]
    intro line hline
    refine SetupFailure.ofLine?_eq_none fun hi => ?_
    have whole := hi.trans (Text.linesFrom_infix [] _ line hline)
    rw [List.reverse_nil, List.nil_append, entryLine, List.append_assoc, he] at whole
    rw [he] at ended
    exact Text.not_infix_append_of_not_mem (before_entry hd level).2 ended whole
  rw [hfail, none, List.append_nil]

end Journal

end Testbed
