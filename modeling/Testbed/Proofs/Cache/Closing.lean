import Testbed.Proofs.Cache
import Testbed.Proofs.Instance.Sections

/-!
# Closing the cache

Closing a cache closes its instances in order and stops at the first that fails.  The cache is then
as it was, and closing it again goes on where it stopped.  However often it is closed, no container
is destroyed twice.
-/

namespace Testbed

set_option autoImplicit false

open Act Moment

variable {η ρ κ σ : Type}

/-- The container that a call destroyed. -/
def Call.destroyed? : Call ρ κ → Option ρ
  | .terminate c (.ok _) => some c
  | _ => none

def destroyed (calls : List (Call ρ κ)) : List ρ := calls.filterMap Call.destroyed?

theorem destroyed_append (l m : List (Call ρ κ)) :
    destroyed (l ++ m) = destroyed l ++ destroyed m := List.filterMap_append

/-- A family that some run of an instance leads to; its container was destroyed `n` times. -/
def Family.Reached (f : Family ρ κ) (n : Nat) : Prop :=
  ∃ (η σ : Type) (b : Backing η ρ κ σ) (f₀ : Family ρ κ) (s : σ) (xs : List Section), f₀.Fresh ∧
    RuntimeCloses b (fresh f₀ s) ∧ f = ((fresh f₀ s).run b.recorded xs).family ∧
    n = ends ((fresh f₀ s).run b.recorded xs).outside.1

theorem Family.Reached.sound {f : Family ρ κ} {n : Nat} (h : f.Reached n) : ∃ w, f.Sound w n := by
  obtain ⟨η, σ, b, f₀, s, xs, hf, hb, rfl, rfl⟩ := h
  exact ⟨_, (run_sound b hb (hf.sound s) xs).1.family⟩

/-- Closes a cached instance. -/
def closeCached (b : InstanceId → Backing η ρ κ σ) (id : InstanceId) :
    EstateAct ρ κ (Recorded ρ κ σ) Unit :=
  Estate.onFamily id (closeInstance (b id).recorded)

def closeCache (d : Diary σ) (b : InstanceId → Backing η ρ κ σ) :
    CacheAct ρ κ (Recorded ρ κ σ) Unit :=
  InstanceCache.close d.beside (closeCached b)

/-- What is left after a cache was closed a number of times, however that ended. -/
def afterClosings (d : Diary σ) (b : InstanceId → Backing η ρ κ σ)
    (s : InstanceCache × Estate ρ κ (Recorded ρ κ σ)) :
    Nat → InstanceCache × Estate ρ κ (Recorded ρ κ σ)
  | 0 => s
  | k + 1 => (closeCache d b (afterClosings d b s k)).2

/-- Instances are closed one after the other, up to the first that fails. -/
inductive Pass (b : InstanceId → Backing η ρ κ σ) : InstanceCache → List (Family ρ κ) →
    Except Fault Unit → List (Family ρ κ) → List (Call ρ κ) → Prop
  | done {fs : List (Family ρ κ)} : Pass b [] fs (.ok ()) fs []
  | failed {key : String} {id : InstanceId} {rest : InstanceCache} {fs : List (Family ρ κ)}
      {f f' : Family ρ κ} {e : Fault} {calls : List (Call ρ κ)} : fs[id]? = some f →
      Closing f (.error e) f' calls → (∀ q ∈ calls, (b id).Answers q) →
      Pass b ((key, id) :: rest) fs (.error e) (fs.set id f') calls
  | next {key : String} {id : InstanceId} {rest : InstanceCache} {fs fs' : List (Family ρ κ)}
      {f f' : Family ρ κ} {r : Except Fault Unit} {calls later : List (Call ρ κ)} :
      fs[id]? = some f → Closing f (.ok ()) f' calls → (∀ q ∈ calls, (b id).Answers q) →
      Pass b rest (fs.set id f') r fs' later →
      Pass b ((key, id) :: rest) fs r fs' (calls ++ later)

/-- All instances before an entry were closed, and closing that one failed. -/
inductive Stops (b : InstanceId → Backing η ρ κ σ) (before : InstanceCache)
    (entry : String × InstanceId) (fs : List (Family ρ κ)) (e : Fault) :
    List (Family ρ κ) → List (Call ρ κ) → Prop
  | intro {fs₁ : List (Family ρ κ)} {f f' : Family ρ κ} {first last : List (Call ρ κ)} :
      Pass b before fs (.ok ()) fs₁ first → fs₁[entry.2]? = some f →
      Closing f (.error e) f' last → Stops b before entry fs e (fs₁.set entry.2 f') (first ++ last)

def ClosedIn (fs : List (Family ρ κ)) (id : InstanceId) : Prop :=
  ∃ f, fs[id]? = some f ∧ f.handle.closed = true

namespace Pass

variable {b : InstanceId → Backing η ρ κ σ} {entries : InstanceCache} {fs fs' : List (Family ρ κ)}
  {r : Except Fault Unit} {calls : List (Call ρ κ)}

/-- Instances that are not to be closed are left as they are. -/
theorem frame (h : Pass b entries fs r fs' calls) {i : InstanceId}
    (hi : i ∉ entries.map Prod.snd) : fs'[i]? = fs[i]? := by
  induction h with
  | done => rfl
  | failed _ _ _ =>
    refine List.getElem?_set_ne ?_
    rintro rfl
    exact hi List.mem_cons_self
  | next _ _ _ _ ih =>
    rw [ih fun hm => hi (List.mem_cons_of_mem _ hm)]
    refine List.getElem?_set_ne ?_
    rintro rfl
    exact hi List.mem_cons_self

theorem closedIn_set {f f' : Family ρ κ} {id i : InstanceId} {calls : List (Call ρ κ)}
    (hf : fs[id]? = some f) (ht : Closing f r f' calls) (h : ClosedIn fs i) :
    ClosedIn (fs.set id f') i := by
  obtain ⟨g, hg, hc⟩ := h
  by_cases hi : id = i
  · subst hi
    cases hf.symm.trans hg
    exact ⟨f', List.getElem?_set_self (List.getElem?_eq_some_iff.mp hf).1, ht.stays hc⟩
  · exact ⟨g, (List.getElem?_set_ne hi).trans hg, hc⟩

theorem lasting (h : Pass b entries fs r fs' calls) {i : InstanceId} (hi : ClosedIn fs i) :
    ClosedIn fs' i := by
  induction h with
  | done => exact hi
  | failed hf ht _ => exact closedIn_set hf ht hi
  | next hf ht _ _ ih => exact ih (closedIn_set hf ht hi)

theorem returned (h : Pass b entries fs (.ok ()) fs' calls) : ∀ x ∈ entries, ClosedIn fs' x.2 := by
  generalize hr : Except.ok () = r at h
  induction h with
  | done => exact fun x hx => by cases hx
  | failed _ _ _ => cases hr
  | next hf ht _ later ih =>
    intro x hx
    rcases List.mem_cons.mp hx with rfl | hx
    · have there := (List.getElem?_eq_some_iff.mp hf).1
      exact later.lasting ⟨_, List.getElem?_set_self there, ht.returned⟩
    · exact ih hr x hx

theorem stopped {e : Fault} (h : Pass b entries fs (.error e) fs' calls) :
    ∃ before entry after, entries = before ++ entry :: after ∧
      Stops b before entry fs e fs' calls := by
  generalize hr : Except.error e = r at h
  induction h with
  | done => cases hr
  | @failed key id rest _ _ _ _ _ hf ht _ =>
    cases hr
    exact ⟨[], (key, id), rest, rfl, .intro .done hf ht⟩
  | @next key id _ _ _ _ _ _ _ _ hf ht ha _ ih =>
    obtain ⟨before, entry, after, rfl, hp, hg, hs⟩ := ih hr
    refine ⟨(key, id) :: before, entry, after, rfl, ?_⟩
    rw [← List.append_assoc]
    exact .intro (.next hf ht ha hp) hg hs

end Pass

section Stops

variable {b : InstanceId → Backing η ρ κ σ} {before : InstanceCache} {entry : String × InstanceId}
  {fs fs' : List (Family ρ κ)} {e : Fault} {calls : List (Call ρ κ)}

theorem Stops.closed (h : Stops b before entry fs e fs' calls) :
    ∀ x ∈ before, ClosedIn fs' x.2 := by
  cases h with
  | intro hp hf ht => exact fun x hx => Pass.closedIn_set hf ht (hp.returned x hx)

theorem Stops.frame (h : Stops b before entry fs e fs' calls) {i : InstanceId}
    (hi : i ∉ (before ++ [entry]).map Prod.snd) : fs'[i]? = fs[i]? := by
  rw [List.map_append] at hi
  cases h with
  | intro hp _ _ =>
    rw [← hp.frame fun hm => hi (List.mem_append_left _ hm)]
    refine List.getElem?_set_ne ?_
    rintro rfl
    exact hi (List.mem_append_right _ List.mem_cons_self)

end Stops

section Closings

variable {d : Diary σ} {b : InstanceId → Backing η ρ κ σ}

theorem closeCached_closing (st : Estate ρ κ (Recorded ρ κ σ)) {id : InstanceId} {f : Family ρ κ}
    (hf : st.families[id]? = some f) : ∃ r f' calls st', closeCached b id st = (r, st') ∧
      st'.families = st.families.set id f' ∧ st'.outside.1 = st.outside.1 ++ calls ∧
      Closing f r f' calls ∧ ∀ q ∈ calls, (b id).Answers q := by
  obtain ⟨r, f', calls, s', hx, t⟩ := closeInstance_takes (b id) f st.outside.1 st.outside.2
  have ha := answered (b := b id) (fun I hI => closeInstance_keeps hI.toKeepsClosing) hx
  refine ⟨r, f', calls, ⟨st.families.set id f', (st.outside.1 ++ calls, s')⟩, ?_, rfl, rfl, t, ha⟩
  unfold closeCached Estate.onFamily
  rw [hf]
  dsimp only
  rw [hx]

theorem closeAll_passes (entries cache : InstanceCache) (st : Estate ρ κ (Recorded ρ κ σ))
    (hst : ∀ x ∈ entries, ∃ f, st.families[x.2]? = some f) :
    ∃ r st' calls, InstanceCache.closeAll d.beside (closeCached b) entries (cache, st) =
        (r, (cache, st')) ∧ st'.outside.1 = st.outside.1 ++ calls ∧
      Pass b entries st.families r st'.families calls := by
  induction entries generalizing st with
  | nil => exact ⟨.ok (), st, [], rfl, (List.append_nil _).symm, .done⟩
  | cons entry rest ih =>
    obtain ⟨key, id⟩ := entry
    obtain ⟨f, hf⟩ := hst (key, id) List.mem_cons_self
    -- the entry in the diary changes neither the instances nor the calls
    obtain ⟨st₁, h₁, hfamilies, houtside⟩ : ∃ st₁ : Estate ρ κ (Recorded ρ κ σ),
        InstanceCache.debug d.beside s!"Closing cached instance '{key}'." (cache, st) =
          (.ok (), (cache, st₁)) ∧ st₁.families = st.families ∧
        st₁.outside.1 = st.outside.1 := ⟨_, rfl, rfl, rfl⟩
    rw [← hfamilies] at hf
    obtain ⟨r₂, f', calls, st₂, h₂, hset, hnoted, t, ha⟩ := closeCached_closing (b := b) st₁ hf
    have h₂' : Act.outside (closeCached b id) (cache, st₁) = (r₂, (cache, st₂)) :=
      outside_of_eq cache h₂
    rw [InstanceCache.closeAll, bind_of_ok h₁]
    rw [hfamilies] at hf hset
    rw [houtside] at hnoted
    rcases r₂ with e | ⟨⟩
    · refine ⟨.error e, st₂, calls, bind_of_error h₂', hnoted, ?_⟩
      rw [hset]
      exact .failed hf t ha
    · have rest : ∀ x ∈ rest, ∃ f, st₂.families[x.2]? = some f := by
        intro x hx
        obtain ⟨g, hg⟩ := hst x (List.mem_cons_of_mem _ hx)
        have there : x.2 < st₂.families.length := by
          rw [hset, List.length_set]
          exact (List.getElem?_eq_some_iff.mp hg).1
        exact ⟨_, List.getElem?_eq_getElem there⟩
      obtain ⟨r₃, st₃, later, h₃, hnoted', hp⟩ := ih st₂ rest
      rw [hset] at hp
      refine ⟨r₃, st₃, calls ++ later, (bind_of_ok h₂').trans h₃, ?_, .next hf t ha hp⟩
      rw [hnoted', hnoted, List.append_assoc]

end Closings

/-! Containers that are destroyed. -/

theorem Call.destroyed?_eq {q : Call ρ κ} {c : ρ} (h : ∀ d r, q = .terminate d r → d = c) :
    q.destroyed? = if q.isEnd then some c else none := by
  cases q with
  | terminate d r =>
    rw [h d r rfl]
    cases r <;> rfl
  | _ => rfl

/-- Calls that terminate one container only. -/
theorem destroyed_eq {calls : List (Call ρ κ)} {c : ρ} (h : ∀ d r, .terminate d r ∈ calls → d = c) :
    destroyed calls = List.replicate (ends calls) c := by
  induction calls with
  | nil => rfl
  | cons q rest ih =>
    have head := q.destroyed?_eq fun d r hq => h d r (hq ▸ List.mem_cons_self)
    rw [destroyed, List.filterMap_cons, head, ends_cons]
    have tail : rest.filterMap Call.destroyed? = List.replicate (ends rest) c :=
      ih fun d r hm => h d r (List.mem_cons_of_mem _ hm)
    cases q.isEnd with
    | false => simpa using tail
    | true => simpa [List.replicate_succ] using tail

/-- The instance is closed and its container is not kept any more. -/
def Family.Ended (f : Family ρ κ) : Prop :=
  f.handle.closed = true ∧ f.handle.terminatePending = false

theorem Family.Sound.ended_iff {f : Family ρ κ} {w : List CloneId} {n : Nat} (h : f.Sound w n) :
    f.Ended ↔ n = 1 := by
  rw [h.ended]
  unfold Family.Ended
  split
  · rename_i he
    exact ⟨fun _ => rfl, fun _ => he⟩
  · rename_i he
    exact ⟨fun hf => absurd hf he, fun hn => by cases hn⟩

/-- What keeps the closings of a cache apart: each instance has a container of its own. -/
structure Holding (b : InstanceId → Backing η ρ κ σ) (cache : InstanceCache)
    (fs : List (Family ρ κ)) : Prop where
  sound : ∀ x ∈ cache, ∃ f w n, fs[x.2]? = some f ∧ f.Sound w n
  apart : ∀ x ∈ cache, ∀ y ∈ cache, ∀ f g, fs[x.2]? = some f → fs[y.2]? = some g →
    f.handle.container = g.handle.container → x.2 = y.2
  closes : ∀ x ∈ cache, ∀ f, fs[x.2]? = some f → f.handle.ownsRuntime = true →
    ∀ s, ((b x.2).runtime.close s).1 = .ok ()

/-- The container of a cached instance that has ended. -/
def EndedIn (cache : InstanceCache) (fs : List (Family ρ κ)) (c : ρ) : Prop :=
  ∃ x ∈ cache, ∃ f, fs[x.2]? = some f ∧ f.handle.container = c ∧ f.Ended

/-- Some containers were destroyed, each once and none that was gone already. -/
structure Destroys (cache : InstanceCache) (fs : List (Family ρ κ)) (l : List ρ)
    (fs' : List (Family ρ κ)) : Prop where
  once : l.Nodup
  there : ∀ c ∈ l, ¬ EndedIn cache fs c
  gone : ∀ c ∈ l, EndedIn cache fs' c
  lasting : ∀ c, EndedIn cache fs c → EndedIn cache fs' c

section Destroying

variable {b : InstanceId → Backing η ρ κ σ} {cache entries : InstanceCache}
  {fs fs' fs'' : List (Family ρ κ)} {r : Except Fault Unit} {calls : List (Call ρ κ)}

theorem Destroys.refl (cache : InstanceCache) (fs : List (Family ρ κ)) :
    Destroys cache fs [] fs where
  once := List.nodup_nil
  there c hc := by cases hc
  gone c hc := by cases hc
  lasting c hc := hc

theorem Destroys.trans {l l' : List ρ} (h : Destroys cache fs l fs')
    (h' : Destroys cache fs' l' fs'') : Destroys cache fs (l ++ l') fs'' where
  once := by
    refine List.nodup_append.mpr ⟨h.once, h'.once, fun c hc d hd => ?_⟩
    rintro rfl
    exact h'.there c hd (h.gone c hc)
  there c hc := by
    rcases List.mem_append.mp hc with hc | hc
    · exact h.there c hc
    · exact fun he => h'.there c hc (h.lasting c he)
  gone c hc := by
    rcases List.mem_append.mp hc with hc | hc
    · exact h'.lasting c (h.gone c hc)
    · exact h'.gone c hc
  lasting c hc := h'.lasting c (h.lasting c hc)

/-- One closing destroys the container of its instance, or none. -/
theorem Closing.destroys (h : Holding b cache fs) {x : String × InstanceId} (hx : x ∈ cache)
    {f f' : Family ρ κ} (hf : fs[x.2]? = some f) (ht : Closing f r f' calls)
    (ha : ∀ q ∈ calls, (b x.2).Answers q) :
    Holding b cache (fs.set x.2 f') ∧
      Destroys cache fs (destroyed calls) (fs.set x.2 f') := by
  have smooth : Smooth f calls := by
    intro ho e he
    obtain ⟨s, hs⟩ := ha _ he
    rw [h.closes x hx f hf ho s] at hs
    cases hs
  obtain ⟨-, container, owns, -⟩ := ht.frame smooth
  have inside := (List.getElem?_eq_some_iff.mp hf).1
  -- each cached instance is the one that was closed, or it is as it was
  have before {y : String × InstanceId} {g : Family ρ κ} (hg : (fs.set x.2 f')[y.2]? = some g) :
      ∃ g₀, fs[y.2]? = some g₀ ∧ g.handle.container = g₀.handle.container ∧
        g.handle.ownsRuntime = g₀.handle.ownsRuntime := by
    by_cases hi : x.2 = y.2
    · rw [← hi, List.getElem?_set_self inside] at hg
      cases hg
      exact ⟨f, hi ▸ hf, container, owns⟩
    · exact ⟨g, (List.getElem?_set_ne hi).symm.trans hg, rfl, rfl⟩
  obtain ⟨f₀, w, n, hf₀, sound⟩ := h.sound x hx
  cases hf.symm.trans hf₀
  have sound' := ht.sound smooth sound
  have containers : destroyed calls = List.replicate (ends calls) f.handle.container :=
    destroyed_eq fun d r hm => (ht.terminates hm).1
  constructor
  · refine ⟨fun y hy => ?_, fun y hy z hz g g' hg hg' hc => ?_, fun y hy g hg ho => ?_⟩
    · by_cases hi : x.2 = y.2
      · exact ⟨f', w, _, hi ▸ List.getElem?_set_self inside, sound'⟩
      · obtain ⟨g, w', m, hg, hs⟩ := h.sound y hy
        exact ⟨g, w', m, (List.getElem?_set_ne hi).trans hg, hs⟩
    · obtain ⟨g₀, hg₀, hc₀, -⟩ := before hg
      obtain ⟨g₁, hg₁, hc₁, -⟩ := before hg'
      exact h.apart y hy z hz g₀ g₁ hg₀ hg₁ (hc₀.symm.trans (hc.trans hc₁))
    · obtain ⟨g₀, hg₀, -, ho₀⟩ := before hg
      exact h.closes y hy g₀ hg₀ (ho₀ ▸ ho)
  · have count : f'.Ended ↔ n + ends calls = 1 := sound'.ended_iff
    have bound : n + ends calls ≤ 1 := by
      rw [sound'.ended]
      split <;> decide
    have only {c : ρ} (hc : c ∈ destroyed calls) :
        c = f.handle.container ∧ ends calls = 1 ∧ n = 0 := by
      rw [containers, List.mem_replicate] at hc
      obtain ⟨hn, rfl⟩ := hc
      exact ⟨rfl, by omega, by omega⟩
    refine ⟨?_, fun c hc => ?_, fun c hc => ?_, fun c hc => ?_⟩
    · rw [containers]
      rcases Nat.le_one_iff_eq_zero_or_eq_one.mp (Nat.le_trans (Nat.le_add_left _ n) bound) with
        hn | hn <;> rw [hn] <;> simp
    · obtain ⟨rfl, -, hn⟩ := only hc
      rintro ⟨y, hy, g, hg, hcon, hend⟩
      have same := h.apart x hx y hy f g hf hg hcon.symm
      rw [← same] at hg
      cases hf.symm.trans hg
      rw [sound.ended_iff.mp hend] at hn
      cases hn
    · obtain ⟨rfl, hone, hn⟩ := only hc
      exact ⟨x, hx, f', List.getElem?_set_self inside, container, count.mpr (by omega)⟩
    · obtain ⟨y, hy, g, hg, hcon, hend⟩ := hc
      by_cases hi : x.2 = y.2
      · rw [← hi] at hg
        cases hf.symm.trans hg
        have ended := sound.ended_iff.mp hend
        exact ⟨x, hx, f', List.getElem?_set_self inside, container.trans hcon,
          count.mpr (by omega)⟩
      · exact ⟨y, hy, g, (List.getElem?_set_ne hi).trans hg, hcon, hend⟩

theorem Pass.destroys (hp : Pass b entries fs r fs' calls) (h : Holding b cache fs)
    (hsub : ∀ x ∈ entries, x ∈ cache) :
    Holding b cache fs' ∧ Destroys cache fs (destroyed calls) fs' := by
  induction hp with
  | done => exact ⟨h, .refl cache _⟩
  | failed hf ht ha => exact ht.destroys h (hsub _ List.mem_cons_self) hf ha
  | next hf ht ha _ ih =>
    obtain ⟨held, first⟩ := ht.destroys h (hsub _ List.mem_cons_self) hf ha
    obtain ⟨held', rest⟩ := ih held fun x hx => hsub x (List.mem_cons_of_mem _ hx)
    rw [destroyed_append]
    exact ⟨held', first.trans rest⟩

end Destroying

section Resuming

variable {d : Diary σ} {b : InstanceId → Backing η ρ κ σ}

/-- The cache is emptied by a pass that closes all instances, and is kept by any other one. -/
def InstanceCache.left (cache : InstanceCache) : Except Fault Unit → InstanceCache
  | .ok _ => []
  | .error _ => cache

theorem closeCache_passes (cache : InstanceCache) (st : Estate ρ κ (Recorded ρ κ σ))
    (hst : ∀ x ∈ cache, ∃ f, st.families[x.2]? = some f) :
    ∃ r st' calls, closeCache d b (cache, st) = (r, (cache.left r, st')) ∧
      st'.outside.1 = st.outside.1 ++ calls ∧ Pass b cache st.families r st'.families calls := by
  obtain ⟨r, st', calls, hx, hnoted, hp⟩ := closeAll_passes (d := d) cache cache st hst
  refine ⟨r, st', calls, ?_, hnoted, hp⟩
  rw [closeCache, InstanceCache.close, read_bind]
  rcases r with e | ⟨⟩
  · exact bind_of_error hx
  · exact bind_of_ok hx

/-- What is true of a cache and its instances after some closings of the cache. -/
structure Resumed (b : InstanceId → Backing η ρ κ σ) (cache : InstanceCache)
    (st : Estate ρ κ (Recorded ρ κ σ)) (s : InstanceCache × Estate ρ κ (Recorded ρ κ σ)) :
    Prop where
  entries : s.1 = cache ∨ s.1 = []
  holding : Holding b cache s.2.families
  noted : ∃ calls, s.2.outside.1 = st.outside.1 ++ calls ∧
    Destroys cache st.families (destroyed calls) s.2.families

theorem Resumed.sub {cache : InstanceCache} {st : Estate ρ κ (Recorded ρ κ σ)}
    {s : InstanceCache × Estate ρ κ (Recorded ρ κ σ)} (h : Resumed b cache st s) :
    ∀ x ∈ s.1, x ∈ cache := by
  rcases h.entries with he | he <;> rw [he]
  · exact fun x hx => hx
  · exact fun x hx => by cases hx

theorem Resumed.there {cache : InstanceCache} {st : Estate ρ κ (Recorded ρ κ σ)}
    {s : InstanceCache × Estate ρ κ (Recorded ρ κ σ)} (h : Resumed b cache st s) :
    ∀ x ∈ s.1, ∃ f, s.2.families[x.2]? = some f := by
  intro x hx
  obtain ⟨f, -, -, hf, -⟩ := h.holding.sound x (h.sub x hx)
  exact ⟨f, hf⟩

theorem afterClosings_resumed {cache : InstanceCache} {st : Estate ρ κ (Recorded ρ κ σ)}
    (h : Holding b cache st.families) (k : Nat) :
    Resumed b cache st (afterClosings d b (cache, st) k) := by
  induction k with
  | zero => exact ⟨.inl rfl, h, [], (List.append_nil _).symm, .refl cache _⟩
  | succ k ih =>
    obtain ⟨calls, hcalls, destroys⟩ := ih.noted
    obtain ⟨r, st', later, hx, hnoted, hp⟩ := closeCache_passes (d := d) _ _ ih.there
    have next : afterClosings d b (cache, st) (k + 1) =
        ((afterClosings d b (cache, st) k).1.left r, st') :=
      congrArg Prod.snd hx
    obtain ⟨held, more⟩ := hp.destroys ih.holding ih.sub
    rw [next]
    refine ⟨?_, held, calls ++ later, ?_, ?_⟩
    · cases r with
      | ok _ => exact .inr rfl
      | error e => exact ih.entries
    · rw [hnoted, hcalls, List.append_assoc]
    · rw [destroyed_append]
      exact destroys.trans more

end Resuming

/-- Closing a cache of distinct instances, in whatever states they were led to, stops cleanly and
can be resumed, however often it was tried and whatever the calls came to.  It closes the instances
in order; the first fault is passed on, and then the cache is as it was, those before are closed and
nothing is done to those after it.  When it returns, the cache is empty and all are closed.  No
container is destroyed twice, nor is one that was gone at the start. -/
theorem cache_close_resumes (d : Diary σ) (b : InstanceId → Backing η ρ κ σ)
    (cache : InstanceCache) (st : Estate ρ κ (Recorded ρ κ σ))
    (distinct : (cache.map Prod.snd).Nodup)
    (reached : ∀ x ∈ cache, ∃ f n, st.families[x.2]? = some f ∧ f.Reached n)
    (apart : ∀ x ∈ cache, ∀ y ∈ cache, ∀ f g, st.families[x.2]? = some f →
      st.families[y.2]? = some g → f.handle.container = g.handle.container → x.2 = y.2)
    (closes : ∀ x ∈ cache, ∀ f, st.families[x.2]? = some f → f.handle.ownsRuntime = true →
      ∀ s, ((b x.2).runtime.close s).1 = .ok ()) (k : Nat) :
    let s := afterClosings d b (cache, st) k
    (∃ r cache' st' calls, closeCache d b s = (r, (cache', st')) ∧
      st'.outside.1 = s.2.outside.1 ++ calls ∧ Pass b s.1 s.2.families r st'.families calls ∧
      (∀ e, r = .error e → cache' = s.1 ∧ ∃ before entry after, s.1 = before ++ entry :: after ∧
        Stops b before entry s.2.families e st'.families calls ∧
        (∀ x ∈ before, st'.HasClosed x.2) ∧
        ∀ x ∈ after, st'.families[x.2]? = s.2.families[x.2]?) ∧
      (r = .ok () → cache' = [] ∧ ∀ x ∈ s.1, st'.HasClosed x.2)) ∧
    ∃ calls, s.2.outside.1 = st.outside.1 ++ calls ∧ (destroyed calls).Nodup ∧
      ∀ x ∈ cache, ∀ f, st.families[x.2]? = some f → f.Reached 1 →
        f.handle.container ∉ destroyed calls := by
  intro s
  have holding : Holding b cache st.families := by
    refine ⟨fun x hx => ?_, apart, closes⟩
    obtain ⟨f, n, hf, hn⟩ := reached x hx
    obtain ⟨w, hs⟩ := hn.sound
    exact ⟨f, w, n, hf, hs⟩
  have resumed : Resumed b cache st s := afterClosings_resumed holding k
  constructor
  · obtain ⟨r, st', calls, hx, hnoted, hp⟩ := closeCache_passes (d := d) s.1 s.2 resumed.there
    refine ⟨r, _, st', calls, hx, hnoted, hp, ?_, ?_⟩
    · rintro e rfl
      obtain ⟨before, entry, after, he, stops⟩ := hp.stopped
      refine ⟨rfl, before, entry, after, he, stops, stops.closed, fun x hx => stops.frame ?_⟩
      have nodup : (s.1.map Prod.snd).Nodup := by
        rcases resumed.entries with h | h <;> rw [h]
        · exact distinct
        · exact List.nodup_nil
      rw [he, List.append_cons, List.map_append, List.nodup_append] at nodup
      exact fun hm => nodup.2.2 _ hm _ (List.mem_map_of_mem hx) rfl
    · rintro rfl
      exact ⟨rfl, hp.returned⟩
  · obtain ⟨calls, hcalls, destroys⟩ := resumed.noted
    refine ⟨calls, hcalls, destroys.once, fun x hx f hf hone hm => destroys.there _ hm ?_⟩
    obtain ⟨w, hs⟩ := hone.sound
    exact ⟨x, hx, f, hf, rfl, hs.ended_iff.mpr rfl⟩

/-- A backing that does not destroy the container numbered one when it is first asked to. -/
def Backing.sluggish : Backing Unit Nat Unit Bool where
  service := Service.abstract "store"
  runtime := {
    ping := pure ()
    launch _ := pure 0
    scheduleExpiry _ _ := pure ()
    endpoint _ _ := pure "localhost:5432"
    terminate c := fun asked =>
      if c = 1 ∧ asked = false then (.error (Fault.of (.daemon .api "busy" none none)), true)
      else (.ok (), asked)
    close := pure () }
  around := {
    clock := { now := fun _ => .int 0, sleep := fun _ => pure () }
    date _ := .int 0
    stamp := pure 0
    diary := { write := fun _ _ _ s => s } }

def Estate.pair : Estate Nat Unit (Recorded Nat Unit Bool) where
  families := [{ handle := { container := 0, logicalName := "orders" } },
    { handle := { container := 1, logicalName := "bills" } }]
  outside := ([], false)

/-- The first closing stops at the second instance, and the second one goes on there. -/
theorem cache_close_resumes_of_pair :
    let cache : InstanceCache := [("orders", 0), ("bills", 1)]
    let after := afterClosings Backing.sluggish.around.diary (fun _ => Backing.sluggish)
      (cache, Estate.pair)
    (after 1).1 = cache ∧ (after 2).1 = [] ∧
      ∃ calls, (after 2).2.outside.1 = calls ∧ (destroyed calls).Nodup ∧ calls.length = 3 := by
  intro cache after
  have reached (c : Nat) (name : String) :
      Family.Reached { handle := { container := c, logicalName := name } : Family Nat Unit } 0 :=
    ⟨Unit, Bool, Backing.sluggish, _, false, [], ⟨rfl, rfl, rfl, rfl⟩, fun _ _ => rfl, rfl, rfl⟩
  obtain ⟨-, calls, hcalls, once, -⟩ := cache_close_resumes Backing.sluggish.around.diary
    (fun _ => Backing.sluggish) cache Estate.pair (by decide) (fun x hx => by
      rcases List.mem_pair.mp hx with rfl | rfl
      · exact ⟨_, 0, rfl, reached 0 "orders"⟩
      · exact ⟨_, 0, rfl, reached 1 "bills"⟩) (fun x hx y hy f g hf hg hc => by
      rcases List.mem_pair.mp hx with rfl | rfl <;> rcases List.mem_pair.mp hy with rfl | rfl <;>
        cases hf <;> cases hg <;> first | rfl | cases hc) (fun _ _ _ _ _ _ => rfl) 2
  have noted : (after 2).2.outside.1 = calls := hcalls.trans (List.nil_append calls)
  refine ⟨rfl, rfl, calls, noted, once, ?_⟩
  rw [← noted]
  rfl

end Testbed
