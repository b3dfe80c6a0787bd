import Mathlib.Data.Fintype.Option
import Mathlib.Data.Fintype.Pigeonhole
import Testbed.Fault.Classify

/-!
# Classification through causes

The walk along the causes of a fault stops at a place where it has been.  A question about the
fault is answered all the same as if the links were followed to the full depth: by the first
sixteen incidents that the links lead to, each asked by itself.
-/

namespace Testbed

set_option autoImplicit false

namespace Fault

variable {f : Fault}

/-! What a walk meets. -/

theorem walk_of_seen {seen : List Nat} (hs : ∀ q < f.chain.length, q ∈ seen) (limit : Nat)
    (at? : Option Nat) : f.walk limit seen at? = [] := by
  cases limit with
  | zero => rfl
  | succ limit =>
    cases at? with
    | none => rfl
    | some p =>
      rw [walk]
      by_cases hp : p ∈ seen
      · rw [if_pos hp]
      · have hout : f.chain[p]? = none :=
          List.getElem?_eq_none (Nat.le_of_not_lt fun hlt => hp (hs p hlt))
        rw [if_neg hp, hout]

theorem walk_eq_take {limit p : Nat} {seen : List Nat} (hp : p < f.chain.length)
    (hs : ∀ q, q ∈ seen ↔ q < p) : f.walk limit seen (some p) = (f.chain.drop p).take limit := by
  -- the places that were seen are those in front of the one where the walk is
  induction limit generalizing p seen with
  | zero => rfl
  | succ limit ih =>
    have hnew : p ∉ seen := fun hm => Nat.lt_irrefl p ((hs p).mp hm)
    have hseen : ∀ q, q ∈ p :: seen ↔ q < p + 1 := by
      intro q
      rw [List.mem_cons, hs q]
      omega
    have hrest : f.walk limit (p :: seen) (f.next? p) = (f.chain.drop (p + 1)).take limit := by
      rw [next?]
      by_cases hn : p + 1 < f.chain.length
      · rw [if_pos hn]
        exact ih hn hseen
      · have hall : ∀ q < f.chain.length, q ∈ p :: seen := fun q hq => (hseen q).mpr (by omega)
        rw [if_neg hn, walk_of_seen hall, List.drop_eq_nil_of_le (Nat.le_of_not_lt hn),
          List.take_nil]
    rw [walk, if_neg hnew, List.getElem?_eq_getElem hp, List.drop_eq_getElem_cons hp,
      List.take_succ_cons, ← hrest]

theorem walk_start (f : Fault) (limit : Nat) : f.walk limit [] (some 0) = f.chain.take limit :=
  walk_eq_take (Nat.succ_pos _) (by simp)

/-! Following links. -/

theorem place?_of_lt {n : Nat} (hn : n < f.chain.length) : f.place? n = some n := by
  induction n with
  | zero => rfl
  | succ n ih =>
    rw [place?, ih (Nat.lt_of_succ_lt hn), Option.bind_some, next?, if_pos hn]

/-- Links never lead deeper into the chain than they were followed. -/
theorem place?_le {n p : Nat} (h : f.place? n = some p) (hp : p < f.chain.length) : p ≤ n := by
  induction n generalizing p with
  | zero =>
    cases h
    exact Nat.le_refl 0
  | succ n ih =>
    rw [place?, Option.bind_eq_some_iff] at h
    obtain ⟨q, hq, h⟩ := h
    rw [next?] at h
    split at h
    · next hlt =>
      cases h
      exact Nat.succ_le_succ (ih hq (Nat.lt_of_succ_lt hlt))
    · next hend =>
      by_cases hlt : q < f.chain.length
      · have := ih hq hlt
        omega
      · -- a link out of the chain can only have led out of it before
        cases n with
        | zero =>
          cases hq
          exact absurd (Nat.succ_pos _) hlt
        | succ n =>
          rw [place?, Option.bind_eq_some_iff] at hq
          obtain ⟨q', -, hq'⟩ := hq
          rw [next?] at hq'
          split at hq'
          · cases hq'
            exact absurd (by assumption) hlt
          · cases h.symm.trans hq'
            exact absurd hp hlt

theorem cause?_of_lt {n : Nat} (hn : n < f.chain.length) : f.cause? n = f.chain[n]? := by
  rw [cause?, place?_of_lt hn, Option.bind_some]

theorem exists_of_cause? {n : Nat} {i : Incident} (h : f.cause? n = some i) :
    ∃ p ≤ n, f.chain[p]? = some i := by
  rw [cause?, Option.bind_eq_some_iff] at h
  obtain ⟨p, hp, hi⟩ := h
  exact ⟨p, place?_le hp (List.getElem?_eq_some_iff.mp hi).1, hi⟩

theorem mem_take_chain_iff {i : Incident} {limit : Nat} :
    i ∈ f.chain.take limit ↔ ∃ n < limit, f.cause? n = some i := by
  constructor
  · intro h
    obtain ⟨n, hn⟩ := List.getElem?_of_mem h
    obtain ⟨hlimit, hn⟩ : n < limit ∧ f.chain[n]? = some i := by
      rw [List.getElem?_take] at hn
      split at hn
      · next hlt => exact ⟨hlt, hn⟩
      · cases hn
    exact ⟨n, hlimit, (cause?_of_lt (List.getElem?_eq_some_iff.mp hn).1).trans hn⟩
  · rintro ⟨n, hn, h⟩
    obtain ⟨p, hp, hi⟩ := exists_of_cause? h
    refine List.mem_of_getElem? (i := p) ?_
    rw [List.getElem?_take_of_lt (Nat.lt_of_le_of_lt hp hn)]
    exact hi

/-! Raising one fault from another. -/

theorem next?_raisedFrom (w : Incident) (p : Nat) :
    (raisedFrom w f).next? (p + 1) = (f.next? p).map (· + 1) := by
  have hlength : (raisedFrom w f).chain.length = f.chain.length + 1 := rfl
  rw [next?, next?, hlength]
  by_cases h : p + 1 < f.chain.length
  · rw [if_pos h, if_pos (Nat.succ_lt_succ h)]
    rfl
  · rw [if_neg h, if_neg fun h' => h (Nat.lt_of_succ_lt_succ h')]
    rfl

theorem place?_raisedFrom (w : Incident) (n : Nat) :
    (raisedFrom w f).place? (n + 1) = (f.place? n).map (· + 1) := by
  induction n with
  | zero =>
    have hnext : 0 + 1 < (raisedFrom w f).chain.length := Nat.succ_lt_succ (Nat.succ_pos _)
    have hstart : (raisedFrom w f).place? 1 = (raisedFrom w f).next? 0 := rfl
    rw [hstart, next?, if_pos hnext]
    rfl
  | succ n ih =>
    rw [place?, ih, place?]
    cases f.place? n with
    | none => rfl
    | some p => exact next?_raisedFrom w p

theorem cause?_raisedFrom_succ (w : Incident) (n : Nat) :
    (raisedFrom w f).cause? (n + 1) = f.cause? n := by
  rw [cause?, place?_raisedFrom, cause?]
  cases f.place? n <;> rfl

/-- A fault that further incidents were raised from, the last of them first. -/
def wrap (wrappers : List Incident) (f : Fault) : Fault := wrappers.foldr raisedFrom f

theorem cause?_wrap (wrappers : List Incident) (f : Fault) (n : Nat) :
    (f.wrap wrappers).cause? n =
      if n < wrappers.length then wrappers[n]? else f.cause? (n - wrappers.length) := by
  induction wrappers generalizing n with
  | nil => rfl
  | cons w wrappers ih =>
    cases n with
    | zero => rfl
    | succ n =>
      have hw : wrap (w :: wrappers) f = raisedFrom w (f.wrap wrappers) := rfl
      rw [hw, cause?_raisedFrom_succ, ih]
      simp

end Fault

/-! Errors that are linked to their causes in any way. -/

/-- Finitely many errors, each with a cause or without. -/
structure Links (n : Nat) where
  incident : Fin n → Incident
  cause : Fin n → Option (Fin n)

namespace Links

variable {n : Nat} (g : Links n) (x : Fin n)

/-- The error reached after following a number of links. -/
def after : Nat → Option (Fin n)
  | 0 => some x
  | k + 1 => (after k).bind g.cause

/-- The links end, or they lead back to an error where they led before. -/
theorem after_repeats : ∃ m back, (∀ k ≤ m, (g.after x k).isSome) ∧
    (∀ b, back = some b → b ≤ m) ∧ g.after x (m + 1) = Option.bind back (g.after x) := by
  by_cases hend : ∃ k, g.after x k = none
  · obtain ⟨m, hm⟩ : ∃ m, Nat.find hend = m + 1 :=
      Nat.exists_eq_succ_of_ne_zero fun h0 => by
        have hnone := Nat.find_spec hend
        rw [h0] at hnone
        cases hnone
    refine ⟨m, none, fun k hk => ?_, nofun, ?_⟩
    · exact Option.isSome_iff_ne_none.mpr (Nat.find_min hend (by omega))
    · rw [← hm]
      exact Nat.find_spec hend
  · have hsome : ∀ k, (g.after x k).isSome := fun k =>
      Option.isSome_iff_ne_none.mpr fun hk => hend ⟨k, hk⟩
    obtain ⟨i, j, hne, hij⟩ := Finite.exists_ne_map_eq_of_infinite (g.after x)
    -- the later of the two visits is one link behind the last new error
    obtain ⟨b, m, hb, hbm⟩ : ∃ b m, b ≤ m ∧ g.after x (m + 1) = g.after x b := by
      rcases Nat.lt_or_gt_of_ne hne with h | h
      · exact ⟨i, j - 1, by omega, by rw [Nat.sub_add_cancel (by omega), hij]⟩
      · exact ⟨j, i - 1, by omega, by rw [Nat.sub_add_cancel (by omega), hij]⟩
    refine ⟨m, some b, fun k _ => hsome k, ?_, hbm⟩
    rintro _ ⟨⟩
    exact hb

/-- Whatever an error is linked to, it is a fault. -/
theorem exists_fault : ∃ f : Fault, ∀ k, f.cause? k = (g.after x k).map g.incident := by
  obtain ⟨m, back, hsome, hback, hlast⟩ := g.after_repeats x
  let node (k : Nat) : Incident := g.incident ((g.after x k).getD x)
  let f : Fault := {
    head := node 0
    causes := (List.range m).map fun k => node (k + 1)
    back }
  have hlength : f.chain.length = m + 1 := by simp [f, Fault.chain]
  have hchain : ∀ p ≤ m, f.chain[p]? = (g.after x p).map g.incident := by
    intro p hp
    obtain ⟨y, hy⟩ := Option.isSome_iff_exists.mp (hsome p hp)
    have hnode : node p = g.incident y := by simp only [node, hy, Option.getD_some]
    rw [hy, Option.map_some, ← hnode]
    cases p with
    | zero => rfl
    | succ p => simp [f, Fault.chain, Nat.lt_of_succ_le hp]
  -- the place reached stands for the error reached
  have hplace (k : Nat) : (f.place? k).bind (g.after x) = g.after x k ∧
      ∀ p, f.place? k = some p → p ≤ m := by
    induction k with
    | zero =>
      refine ⟨rfl, fun p hp => ?_⟩
      cases hp
      exact Nat.zero_le m
    | succ k ih =>
      obtain ⟨hk, hle⟩ := ih
      rw [Fault.place?, after, ← hk]
      cases hp : f.place? k with
      | none => exact ⟨rfl, nofun⟩
      | some p =>
        have hpm := hle p hp
        rw [Option.bind_some, Option.bind_some, Fault.next?, hlength]
        by_cases hnext : p + 1 < m + 1
        · rw [if_pos hnext]
          refine ⟨rfl, fun q hq => ?_⟩
          cases hq
          omega
        · obtain rfl : p = m := by omega
          rw [if_neg hnext]
          exact ⟨hlast.symm, hback⟩
  refine ⟨f, fun k => ?_⟩
  obtain ⟨hk, hle⟩ := hplace k
  rw [Fault.cause?, ← hk]
  cases hp : f.place? k with
  | none => rfl
  | some p => exact hchain p (hle p hp)

end Links

/-! Questions. -/

/-- What can be asked about an error. -/
inductive Question where
  | status (code : Num)
  | sqlCode (code : String)
  | notFound
  | timeout
  | conflict
  | unauthorized
  | forbidden
  | foreignKeyViolation
  | duplicate
  | permissionDenied
  | duplicateDatabase
  | databaseMissing
  | duplicateUser
  | transport

def Question.holds : Question → Subject → Bool
  | status code, s => s.hasStatus code
  | sqlCode code, s => s.hasSqlCode code
  | notFound, s => s.isNotFound
  | timeout, s => s.isTimeout
  | conflict, s => s.isConflict
  | unauthorized, s => s.isUnauthorized
  | forbidden, s => s.isForbidden
  | foreignKeyViolation, s => s.isForeignKeyViolation
  | duplicate, s => s.isDuplicate
  | permissionDenied, s => s.isPermissionDenied
  | duplicateDatabase, s => s.isDuplicateDatabase
  | databaseMissing, s => s.isDatabaseMissing
  | duplicateUser, s => s.isDuplicateUser
  | transport, s => s.isTransport

namespace Evidence

def bearsStatus (code : Num) (e : Evidence) : Bool :=
  match e.status? with
  | some c => c.same code
  | none => false

def bearsSqlCode (code : String) (e : Evidence) : Bool := e.sqlCode? == some code

end Evidence

/-- Whether one thing that is looked at answers a question by itself. -/
def Question.fits : Question → Evidence → Bool
  | status code, e => e.bearsStatus code
  | sqlCode code, e => e.bearsSqlCode code
  | notFound, e => e.bearsStatus 404 || e.isMissingRecord
  | timeout, e => e.bearsStatus 408
  | conflict, e => e.bearsStatus 409
  | unauthorized, e => e.bearsStatus 401
  | forbidden, e => e.bearsStatus 403
  | foreignKeyViolation, e => e.bearsSqlCode foreignKeyCode
  | duplicate, e => e.bearsSqlCode uniqueCode
  | permissionDenied, e => e.bearsSqlCode privilegeCode
  | duplicateDatabase, e => e.bearsSqlCode duplicateDatabaseCode
  | databaseMissing, e => e.bearsSqlCode missingDatabaseCode
  | duplicateUser, e => e.bearsSqlCode duplicateObjectCode
  | transport, e => e.isTransport

theorem Question.holds_eq_any (q : Question) (s : Subject) : q.holds s = s.evidence.any q.fits := by
  cases q with
  | notFound =>
    have hstatus : s.hasStatus 404 = s.evidence.any (·.bearsStatus 404) := rfl
    rw [holds, Subject.isNotFound, hstatus, Bool.eq_iff_iff]
    simp only [fits, Bool.or_eq_true, List.any_eq_true, and_or_left, exists_or]
  | _ => rfl

/-- One thing without the causes that it may have. -/
def Evidence.alone : Evidence → Subject
  | incident i => .fault (.of i)
  | response r => .response r
  | value v => .value v

theorem Question.holds_alone (q : Question) (e : Evidence) : q.holds e.alone = q.fits e := by
  rw [q.holds_eq_any]
  cases e with
  | incident i => exact Bool.or_false _
  | response r => exact Bool.or_false _
  | value v =>
    cases v with
    | null => cases q <;> rfl
    | _ => exact Bool.or_false _

namespace Subject

/-- What is met after following a number of causes.  Only a fault has causes. -/
def cause? : Subject → Nat → Option Evidence
  | fault f, i => (f.cause? i).map .incident
  | s, 0 => s.evidence.head?
  | _, _ + 1 => none

theorem evidence_fault (f : Fault) :
    (fault f).evidence = (f.chain.take maxDepth).map .incident := by
  rw [evidence, Fault.walk_start]

/-- Of what is no fault there is nothing to look at but itself. -/
theorem length_evidence_le_one {s : Subject} (hs : ∀ f, s ≠ fault f) : s.evidence.length ≤ 1 := by
  cases s with
  | fault f => exact absurd rfl (hs f)
  | nothing => exact Nat.zero_le 1
  | response r => exact Nat.le_refl 1
  | value v =>
    cases v with
    | null => exact Nat.zero_le 1
    | _ => exact Nat.le_refl 1

theorem length_evidence_le (s : Subject) : s.evidence.length ≤ maxDepth := by
  by_cases hs : ∃ f, s = fault f
  · obtain ⟨f, rfl⟩ := hs
    rw [evidence_fault, List.length_map]
    exact List.length_take_le _ _
  · have hone : s.evidence.length ≤ 1 := length_evidence_le_one fun f hf => hs ⟨f, hf⟩
    exact Nat.le_trans hone (by decide)

theorem cause?_of_lt {s : Subject} {i : Nat} (hi : i < s.evidence.length) :
    s.cause? i = s.evidence[i]? := by
  by_cases hs : ∃ f, s = fault f
  · obtain ⟨f, rfl⟩ := hs
    rw [evidence_fault, List.length_map, List.length_take] at hi
    rw [cause?, evidence_fault, List.getElem?_map, List.getElem?_take_of_lt (by omega),
      Fault.cause?_of_lt (by omega)]
  · have hone : s.evidence.length ≤ 1 := length_evidence_le_one fun f hf => hs ⟨f, hf⟩
    obtain rfl : i = 0 := by omega
    rw [← List.head?_eq_getElem?]
    cases s with
    | fault f => exact absurd ⟨f, rfl⟩ hs
    | _ => rfl

theorem mem_evidence_iff {s : Subject} {e : Evidence} :
    e ∈ s.evidence ↔ ∃ i < maxDepth, s.cause? i = some e := by
  constructor
  · intro h
    obtain ⟨i, hi⟩ := List.getElem?_of_mem h
    have hlt := (List.getElem?_eq_some_iff.mp hi).1
    exact ⟨i, Nat.lt_of_lt_of_le hlt s.length_evidence_le, (cause?_of_lt hlt).trans hi⟩
  · rintro ⟨i, hi, h⟩
    cases s with
    | fault f =>
      obtain ⟨incident, hf, rfl⟩ := Option.map_eq_some_iff.mp h
      rw [evidence_fault]
      exact List.mem_map_of_mem (Fault.mem_take_chain_iff.mpr ⟨i, hi, hf⟩)
    | _ =>
      cases i with
      | zero => exact List.mem_of_head? h
      | succ i => cases h

theorem holds_iff {q : Question} {s : Subject} :
    q.holds s = true ↔ ∃ i < maxDepth, ∃ e, s.cause? i = some e ∧ q.fits e = true := by
  rw [q.holds_eq_any, List.any_eq_true]
  constructor
  · rintro ⟨e, he, hq⟩
    obtain ⟨i, hi, h⟩ := mem_evidence_iff.mp he
    exact ⟨i, hi, e, h, hq⟩
  · rintro ⟨i, hi, e, h, hq⟩
    exact ⟨e, mem_evidence_iff.mpr ⟨i, hi, h⟩, hq⟩

/-- The details of the error met after following a number of causes. -/
def details? (s : Subject) (i : Nat) : Option Search.ErrorDetails :=
  (s.cause? i).bind (·.details?)

theorem reason_cases (s : Subject) :
    (∃ i < maxDepth, ∃ d, s.details? i = some d ∧ (∀ j < i, s.details? j = none) ∧
      s.reason = d.reason) ∨
    (∀ i < maxDepth, s.details? i = none) ∧ s.reason = "" := by
  cases hd : s.evidence.findSome? (·.details?) with
  | none =>
    refine .inr ⟨fun i hi => ?_, by rw [reason, hd]⟩
    rw [List.findSome?_eq_none_iff] at hd
    rw [details?]
    cases hc : s.cause? i with
    | none => rfl
    | some e => exact hd e (mem_evidence_iff.mpr ⟨i, hi, hc⟩)
  | some d =>
    obtain ⟨before, e, after, he, hfound, hbefore⟩ := List.findSome?_eq_some_iff.mp hd
    have hlt : before.length < s.evidence.length := by
      rw [he, List.length_append, List.length_cons]
      omega
    refine .inl ⟨before.length, Nat.lt_of_lt_of_le hlt s.length_evidence_le, d, ?_, ?_, ?_⟩
    · rw [details?, cause?_of_lt hlt, he, List.getElem?_append_right (Nat.le_refl _),
        Nat.sub_self]
      exact hfound
    · intro j hj
      rw [details?, cause?_of_lt (Nat.lt_trans hj hlt), he, List.getElem?_append_left hj,
        List.getElem?_eq_getElem hj]
      exact hbefore _ (List.getElem_mem hj)
    · rw [reason, hd]

theorem holds_wrap_iff {q : Question} {f : Fault} (wrappers : List Incident) :
    q.holds (.fault (f.wrap wrappers)) = true ↔
      (∃ w ∈ wrappers.take maxDepth, q.fits (.incident w) = true) ∨
      ∃ i < maxDepth - wrappers.length, ∃ e, (fault f).cause? i = some e ∧ q.fits e = true := by
  rw [holds_iff]
  constructor
  · rintro ⟨i, hi, e, h, hq⟩
    obtain ⟨incident, hf, rfl⟩ := Option.map_eq_some_iff.mp h
    rw [Fault.cause?_wrap] at hf
    split at hf
    · refine .inl ⟨incident, List.mem_of_getElem? (i := i) ?_, hq⟩
      rw [List.getElem?_take_of_lt hi]
      exact hf
    · refine .inr ⟨i - wrappers.length, by omega, _, ?_, hq⟩
      rw [cause?, hf]
      rfl
  · rintro (⟨w, hw, hq⟩ | ⟨i, hi, e, h, hq⟩)
    · obtain ⟨i, hi⟩ := List.getElem?_of_mem hw
      rw [List.getElem?_take] at hi
      split at hi
      · next hlimit =>
        refine ⟨i, hlimit, _, ?_, hq⟩
        rw [cause?, Fault.cause?_wrap, if_pos (List.getElem?_eq_some_iff.mp hi).1, hi]
        rfl
      · cases hi
    · refine ⟨i + wrappers.length, by omega, e, ?_, hq⟩
      rw [cause?, Fault.cause?_wrap, if_neg (by omega), Nat.add_sub_cancel]
      exact h

end Subject

/-- Every question about an error is answered by the first sixteen things that the links to the
causes lead to, however these are linked, and by no others. -/
theorem classified_through_causes :
    (∀ {n : Nat} (g : Links n) (x : Fin n), ∃ f : Fault,
      ∀ k, f.cause? k = (g.after x k).map g.incident) ∧
    (∀ (q : Question) (e : Evidence), q.holds e.alone = q.fits e) ∧
    (∀ (q : Question) (s : Subject), q.holds s = true ↔
      ∃ i < maxDepth, ∃ e, s.cause? i = some e ∧ q.fits e = true) ∧
    (∀ s : Subject,
      (∃ i < maxDepth, ∃ d, s.details? i = some d ∧ (∀ j < i, s.details? j = none) ∧
        s.reason = d.reason) ∨
      (∀ i < maxDepth, s.details? i = none) ∧ s.reason = "") ∧
    ∀ (q : Question) (f : Fault) (wrappers : List Incident),
      q.holds (.fault (f.wrap wrappers)) = true ↔
        (∃ w ∈ wrappers.take maxDepth, q.fits (.incident w) = true) ∨
        ∃ i < maxDepth - wrappers.length, ∃ e,
          (Subject.fault f).cause? i = some e ∧ q.fits e = true :=
  ⟨fun g x => g.exists_fault x, Question.holds_alone, fun _ _ => Subject.holds_iff,
    Subject.reason_cases, fun _ _ wrappers => Subject.holds_wrap_iff wrappers⟩

end Testbed
