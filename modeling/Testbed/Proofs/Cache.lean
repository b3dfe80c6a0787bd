import Mathlib.Data.List.Nodup
import Testbed.Cache
import Testbed.Proofs.Container.Safeguard
import Testbed.Proofs.Entries
import Testbed.Proofs.Instance.Retry
import Testbed.Proofs.Projection
import Testbed.Proofs.Start.Apart

/-!
# The cache creates once and loses nothing

Instances are taken from the cache, looked up, closed through it and closed behind its back, in any
order.  Every call of a creator is noted with what came of it.
-/

namespace Testbed

set_option autoImplicit false

open Act

variable {η ρ κ σ N α : Type}

/-! Closing an instance that is not recorded. -/

theorem closeInstance_closing (b : Backing η ρ κ σ) (f : Family ρ κ) (s : σ) :
    ∃ r f' calls s', closeInstance b (f, s) = (r, (f', s')) ∧ Closing f r f' calls := by
  obtain ⟨r, f', calls, s', hx, t⟩ := closeInstance_takes b f [] s
  have hm := closeInstance_maps b.unrecorded_maps (f, ([], s))
  rw [hx] at hm
  exact ⟨r, f', calls, s', hm, t⟩

theorem Closing.stays {f f' : Family ρ κ} {r : Except Fault Unit} {calls : List (Call ρ κ)}
    (h : Closing f r f' calls) (hc : f.handle.closed = true) : f'.handle.closed = true := by
  have hclosed := h.of_closed hc
  split at hclosed
  · cases hclosed <;> exact hc
  · rw [hclosed.2.1]
    exact hc

namespace Estate

def HasClosed (id : InstanceId) (st : Estate ρ κ σ) : Prop :=
  ∃ f, st.families[id]? = some f ∧ f.handle.closed = true

/-- An action on the instances with a list beside them, to which notes on its result are added. -/
def beside (x : EstateAct ρ κ σ α) (note : Except Fault α → List N) :
    EstateAct ρ κ (List N × σ) α := fun st =>
  match x { families := st.families, outside := st.outside.2 } with
  | (r, st') => (r, { families := st'.families,
                      outside := (st.outside.1 ++ note r, st'.outside) })

theorem beside_hasClosed {x : EstateAct ρ κ σ α} {id : InstanceId} (h : Keeps (HasClosed id) x)
    (note : Except Fault α → List N) : Keeps (HasClosed id) (beside x note) :=
  fun st hst => h { families := st.families, outside := st.outside.2 } hst

theorem closeInstance_hasClosed (b : Backing η ρ κ σ) (i j : InstanceId) :
    Keeps (HasClosed j) (onFamily i (closeInstance b)) := by
  rintro st ⟨f, hf, hc⟩
  by_cases hij : i = j
  · subst hij
    obtain ⟨r, f', calls, s', hx, t⟩ := closeInstance_closing b f st.outside
    have hlt := (List.getElem?_eq_some_iff.mp hf).1
    refine ⟨f', ?_, t.stays hc⟩
    simp only [onFamily, hf, hx]
    exact List.getElem?_set_self hlt
  · exact ⟨f, onFamily_apart _ hij st hf, hc⟩

theorem closeInstance_ok (b : Backing η ρ κ σ) {i : InstanceId} {st st' : Estate ρ κ σ}
    (h : onFamily i (closeInstance b) st = (.ok (), st')) : st'.HasClosed i := by
  unfold onFamily at h
  cases hf : st.families[i]? with
  | none =>
    rw [hf] at h
    cases h
  | some f =>
    obtain ⟨r, f', calls, s', hx, t⟩ := closeInstance_closing b f st.outside
    simp only [hf, hx] at h
    cases h
    have hlt := (List.getElem?_eq_some_iff.mp hf).1
    exact ⟨f', List.getElem?_set_self hlt, t.returned⟩

end Estate

open Estate (HasClosed)

/-! What is done with a cache. -/

/-- What creates instances; it may close others, and opens none that is closed. -/
structure Creator (ρ κ σ : Type) where
  create : EstateAct ρ κ σ InstanceId
  lasting : ∀ id, Keeps (HasClosed id) create

/-- A start whose hooks work on the new instance is a creator. -/
def Creator.starting (p : Provisioner η ρ κ σ)
    (hp : ∀ b hook id, HookProgram b id (fun _ => True) (p.runHook b hook id))
    (s : Service η ρ κ σ) (o : StartOptions η) (runtime : Option (Runtime ρ σ)) :
    Creator ρ κ σ where
  create := start p s o runtime none
  lasting j := by
    rintro st ⟨f, hf, hc⟩
    refine ⟨f, start_apart s o runtime none ?_ ?_ st hf, hc⟩
    · intro b hook _ id hj
      exact (hp b hook id).apart hj
    · intro r hr
      cases hr

structure Creation where
  key : String
  result : Except Fault InstanceId

/-- The entry that a creation makes when it returns. -/
def Creation.cached? (c : Creation) : Option (String × InstanceId) :=
  match c.result with
  | .ok id => some (c.key, id)
  | .error _ => none

def Creator.noted (c : Creator ρ κ σ) (key : String) :
    EstateAct ρ κ (List Creation × σ) InstanceId :=
  Estate.beside c.create fun r => [⟨key, r⟩]

inductive CacheMove (ρ κ σ : Type) where
  | getOrCreate (key : String) (c : Creator ρ κ σ)
  | get (key : String)
  | contains (key : String)
  | size
  | close
  /-- An instance is closed without the cache. -/
  | closeInstance (id : InstanceId)

/-- A cache and its instances between two moves, and what became of it. -/
structure CacheMoment (ρ κ σ : Type) where
  cache : InstanceCache := []
  estate : Estate ρ κ (List Creation × σ)
  /-- What was returned by asking for a key. -/
  returned : List (String × InstanceId) := []
  /-- How often closing the cache returned. -/
  emptied : Nat := 0
  /-- The creations that were made before closing the cache returned last. -/
  earlier : List Creation := []

namespace CacheMoment

def state (m : CacheMoment ρ κ σ) : InstanceCache × Estate ρ κ (List Creation × σ) :=
  (m.cache, m.estate)

def creations (m : CacheMoment ρ κ σ) : List Creation := m.estate.outside.1

def moved (m : CacheMoment ρ κ σ) (s : InstanceCache × Estate ρ κ (List Creation × σ)) :
    CacheMoment ρ κ σ :=
  { m with cache := s.1, estate := s.2 }

variable (d : Diary σ) (b : InstanceId → Backing η ρ κ σ)

def asking (key : String) (c : Creator ρ κ σ) : CacheAct ρ κ (List Creation × σ) InstanceId :=
  InstanceCache.getOrCreate d.beside key (c.noted key)

def closeOne (id : InstanceId) : EstateAct ρ κ (List Creation × σ) Unit :=
  Estate.beside (Estate.onFamily id (closeInstance (b id))) fun _ => []

def after (m : CacheMoment ρ κ σ) : CacheMove ρ κ σ → CacheMoment ρ κ σ
  | .getOrCreate key c =>
    match asking d key c m.state with
    | (.ok id, s) => { m.moved s with returned := m.returned ++ [(key, id)] }
    | (.error _, s) => m.moved s
  | .get key => m.moved (InstanceCache.get? key m.state).2
  | .contains key => m.moved (InstanceCache.contains key m.state).2
  | .size => m.moved (InstanceCache.size m.state).2
  | .close =>
    match InstanceCache.close d.beside (closeOne b) m.state with
    | (.ok _, s) => { m.moved s with emptied := m.emptied + 1, earlier := s.2.outside.1 }
    | (.error _, s) => m.moved s
  | .closeInstance id => m.moved (Act.outside (closeOne b id) m.state).2

def run (m : CacheMoment ρ κ σ) (moves : List (CacheMove ρ κ σ)) : CacheMoment ρ κ σ :=
  moves.foldl (after d b) m

/-- Later the given creations were noted, and what was closed is still closed. -/
structure Later (new : List Creation) (st st' : Estate ρ κ (List Creation × σ)) : Prop where
  noted : st'.outside.1 = st.outside.1 ++ new
  lasting : ∀ id, st.HasClosed id → st'.HasClosed id

/-- All that a move can do. -/
inductive Changes (m : CacheMoment ρ κ σ) : CacheMove ρ κ σ → CacheMoment ρ κ σ → Prop
  | shared {key : String} {c : Creator ρ κ σ} {id : InstanceId} :
      Entries.get? key m.cache = some id →
      Changes m (.getOrCreate key c) { m with returned := m.returned ++ [(key, id)] }
  | created {key : String} {c : Creator ρ κ σ} {id : InstanceId}
      {st' : Estate ρ κ (List Creation × σ)} : Entries.get? key m.cache = none →
      Later [⟨key, .ok id⟩] m.estate st' →
      Changes m (.getOrCreate key c) { m with cache := m.cache ++ [(key, id)], estate := st',
                                              returned := m.returned ++ [(key, id)] }
  | refused {key : String} {c : Creator ρ κ σ} {e : Fault}
      {st' : Estate ρ κ (List Creation × σ)} : Entries.get? key m.cache = none →
      Later [⟨key, .error e⟩] m.estate st' →
      Changes m (.getOrCreate key c) { m with estate := st' }
  | got {key : String} : Changes m (.get key) m
  | looked {key : String} : Changes m (.contains key) m
  | sized : Changes m .size m
  | emptied {st' : Estate ρ κ (List Creation × σ)} : Later [] m.estate st' →
      (∀ e ∈ m.cache, st'.HasClosed e.2) →
      Changes m .close { m with cache := [], estate := st', emptied := m.emptied + 1,
                                earlier := st'.outside.1 }
  | stuck {st' : Estate ρ κ (List Creation × σ)} : Later [] m.estate st' →
      Changes m .close { m with estate := st' }
  | closed {id : InstanceId} {st' : Estate ρ κ (List Creation × σ)} : Later [] m.estate st' →
      Changes m (.closeInstance id) { m with estate := st' }

section Moves

variable {d : Diary σ} {b : InstanceId → Backing η ρ κ σ}
  {st st' st'' : Estate ρ κ (List Creation × σ)}

theorem Later.trans {new new' : List Creation} (h : Later new st st') (h' : Later new' st' st'') :
    Later (new ++ new') st st'' where
  noted := by rw [h'.noted, h.noted, List.append_assoc]
  lasting id hid := h'.lasting id (h.lasting id hid)

theorem closeOne_later (id : InstanceId) (st : Estate ρ κ (List Creation × σ)) :
    ∃ r st', closeOne b id st = (r, st') ∧ Later [] st st' ∧ (r = .ok () → st'.HasClosed id) := by
  have hk : ∀ j, Keeps (HasClosed j) (closeOne b id) := fun j =>
    Estate.beside_hasClosed (Estate.closeInstance_hasClosed (b id) id j) _
  rcases hx : closeOne b id st with ⟨r, st'⟩
  refine ⟨r, st', rfl, ⟨?_, fun j hj => ?_⟩, fun hr => ?_⟩
  · have hnoted : (closeOne b id st).2.outside.1 = st.outside.1 ++ [] := rfl
    rw [hx] at hnoted
    exact hnoted
  · have hj' := hk j st hj
    rw [hx] at hj'
    exact hj'
  · rw [hr] at hx
    rcases hc : Estate.onFamily id (closeInstance (b id))
      { families := st.families, outside := st.outside.2 } with ⟨r', st₁⟩
    simp only [closeOne, Estate.beside, hc] at hx
    cases hx
    exact Estate.closeInstance_ok (b id) hc

theorem debug_later (text : String) (cache : InstanceCache)
    (st : Estate ρ κ (List Creation × σ)) : ∃ st',
      InstanceCache.debug d.beside text (cache, st) = (.ok (), (cache, st')) ∧ Later [] st st' :=
  ⟨_, rfl, (List.append_nil _).symm, fun _ h => h⟩

/-- Closing in order: the cache is as it was, and when all closings return all are closed. -/
theorem closeAll_later (entries cache : InstanceCache) (st : Estate ρ κ (List Creation × σ)) :
    ∃ r st', InstanceCache.closeAll d.beside (closeOne b) entries (cache, st) = (r, (cache, st')) ∧
      Later [] st st' ∧ (r = .ok () → ∀ e ∈ entries, st'.HasClosed e.2) := by
  induction entries generalizing st with
  | nil =>
    exact ⟨.ok (), st, rfl, ⟨(List.append_nil _).symm, fun _ h => h⟩, fun _ e he => by cases he⟩
  | cons entry rest ih =>
    obtain ⟨key, id⟩ := entry
    obtain ⟨st₁, h₁, l₁⟩ := debug_later (d := d) s!"Closing cached instance '{key}'." cache st
    obtain ⟨r₂, st₂, h₂, l₂, hc₂⟩ := closeOne_later (b := b) id st₁
    have h₂' : Act.outside (closeOne b id) (cache, st₁) = (r₂, (cache, st₂)) :=
      outside_of_eq cache h₂
    rw [InstanceCache.closeAll, bind_of_ok h₁]
    rcases r₂ with e | ⟨⟩
    · exact ⟨.error e, st₂, bind_of_error h₂', l₁.trans l₂, fun he => by cases he⟩
    · obtain ⟨r₃, st₃, h₃, l₃, hc₃⟩ := ih st₂
      refine ⟨r₃, st₃, (bind_of_ok h₂').trans h₃, (l₁.trans l₂).trans l₃, fun hr e he => ?_⟩
      rcases List.mem_cons.mp he with rfl | he
      -- what was closed first is not opened by the closings after it
      · exact l₃.lasting id (hc₂ rfl)
      · exact hc₃ hr e he

theorem asking_of_hit {key : String} {id : InstanceId} {cache : InstanceCache}
    (h : Entries.get? key cache = some id) (c : Creator ρ κ σ) :
    asking d key c (cache, st) = (.ok id, (cache, st)) := by
  rw [asking, InstanceCache.getOrCreate, read_bind]
  dsimp only
  rw [h]
  rfl

/-- A creator that is called is noted; what it returns is cached, and its fault is passed on. -/
theorem asking_of_miss {key : String} {cache : InstanceCache} (h : Entries.get? key cache = none)
    (c : Creator ρ κ σ) (st : Estate ρ κ (List Creation × σ)) :
    ∃ r st', asking d key c (cache, st) =
        (r, (cache ++ ((⟨key, r⟩ : Creation).cached?).toList, st')) ∧
      Later [⟨key, r⟩] st st' := by
  obtain ⟨st₁, h₁, l₁⟩ := debug_later (d := d)
    s!"No cached instance for '{key}', creating a new one." cache st
  have hlast : ∀ j, Keeps (HasClosed j) (c.noted key) := fun j =>
    Estate.beside_hasClosed (c.lasting j) _
  rcases hx : c.noted key st₁ with ⟨r, st₂⟩
  have hx' : Act.outside (c.noted key) (cache, st₁) = (r, (cache, st₂)) := outside_of_eq cache hx
  have l₂ : Later [⟨key, r⟩] st₁ st₂ := by
    constructor
    · have hnoted : (c.noted key st₁).2.outside.1 = st₁.outside.1 ++ [⟨key, (c.noted key st₁).1⟩] :=
        rfl
      rw [hx] at hnoted
      exact hnoted
    · intro j hj
      have hj' := hlast j st₁ hj
      rw [hx] at hj'
      exact hj'
  rw [asking, InstanceCache.getOrCreate, read_bind]
  dsimp only
  rw [h]
  dsimp only
  rw [bind_of_ok h₁]
  rcases r with e | id
  · refine ⟨.error e, st₂, ?_, l₁.trans l₂⟩
    rw [bind_of_error hx']
    simp [Creation.cached?]
  · refine ⟨.ok id, st₂, ?_, l₁.trans l₂⟩
    rw [bind_of_ok hx']
    change (Except.ok id, (Entries.put key id cache, st₂)) = _
    rw [Entries.put_of_absent h]
    rfl

theorem after_changes (m : CacheMoment ρ κ σ) (x : CacheMove ρ κ σ) :
    m.Changes x (m.after d b x) := by
  cases x with
  | getOrCreate key c =>
    cases h : Entries.get? key m.cache with
    | some id =>
      have hx : asking d key c m.state = (.ok id, m.state) := asking_of_hit h c
      simp only [after, hx]
      exact .shared h
    | none =>
      obtain ⟨r, st', hx, hl⟩ := asking_of_miss (d := d) h c m.estate
      have hx' : asking d key c m.state = _ := hx
      rcases r with e | id
      · simp only [after, hx', moved, Creation.cached?, Option.toList_none, List.append_nil]
        exact .refused h hl
      · simp only [after, hx', moved, Creation.cached?, Option.toList_some]
        exact .created h hl
  | get key => exact .got
  | contains key => exact .looked
  | size => exact .sized
  | close =>
    obtain ⟨r, st', hx, hl, hc⟩ := closeAll_later (d := d) (b := b) m.cache m.cache m.estate
    rcases r with e | ⟨⟩
    · have hclose : InstanceCache.close d.beside (closeOne b) m.state =
          (.error e, (m.cache, st')) := by
        rw [InstanceCache.close, read_bind]
        exact bind_of_error hx
      simp only [after, hclose, moved]
      exact .stuck hl
    · have hclose : InstanceCache.close d.beside (closeOne b) m.state = (.ok (), ([], st')) := by
        rw [InstanceCache.close, read_bind]
        exact bind_of_ok hx
      simp only [after, hclose, moved]
      exact .emptied hl (hc rfl)
  | closeInstance id =>
    obtain ⟨r, st', hx, hl, -⟩ := closeOne_later (b := b) id m.estate
    have hx' : Act.outside (closeOne b id) m.state = (r, (m.cache, st')) :=
      outside_of_eq m.cache hx
    simp only [after, hx', moved]
    exact .closed hl

end Moves

/-- What is true of every moment that is reached. -/
structure Sound (m : CacheMoment ρ κ σ) : Prop where
  /-- The cache holds what creators returned since it was emptied. -/
  created : ∃ recent, m.creations = m.earlier ++ recent ∧
    m.cache = recent.filterMap Creation.cached?
  keys : (m.cache.map (·.1)).Nodup
  kept : ∀ key id, (key, id) ∈ m.returned → (key, id) ∈ m.cache ∨ m.estate.HasClosed id

section Sound

variable {d : Diary σ} {b : InstanceId → Backing η ρ κ σ} {m m' : CacheMoment ρ κ σ}
  {x : CacheMove ρ κ σ}

theorem sound_fresh (st : Estate ρ κ σ) :
    Sound { estate := { families := st.families, outside := ([], st.outside) } } where
  created := ⟨[], rfl, rfl⟩
  keys := List.nodup_nil
  kept _ _ h := by cases h

/-- Noting a creation that failed, or none, leaves what the cache holds as it was. -/
theorem Sound.later (h : m.Sound) {new : List Creation} {st' : Estate ρ κ (List Creation × σ)}
    (hl : Later new m.estate st') (hn : new.filterMap Creation.cached? = []) :
    Sound { m with estate := st' } := by
  obtain ⟨recent, hr, hc⟩ := h.created
  refine ⟨⟨recent ++ new, ?_, ?_⟩, h.keys, fun key id hid => ?_⟩
  · rw [← List.append_assoc, ← hr]
    exact hl.noted
  · rw [List.filterMap_append, hn, List.append_nil]
    exact hc
  · exact (h.kept key id hid).imp_right (hl.lasting id)

theorem Sound.creation (h : m.Sound) {key : String} {id : InstanceId}
    {st' : Estate ρ κ (List Creation × σ)} (hk : Entries.get? key m.cache = none)
    (hl : Later [⟨key, .ok id⟩] m.estate st') :
    Sound { m with cache := m.cache ++ [(key, id)], estate := st',
                   returned := m.returned ++ [(key, id)] } := by
  obtain ⟨recent, hr, hc⟩ := h.created
  refine ⟨⟨recent ++ [⟨key, .ok id⟩], ?_, ?_⟩, ?_, fun k i hi => ?_⟩
  · rw [← List.append_assoc, ← hr]
    exact hl.noted
  · rw [List.filterMap_append, ← hc]
    rfl
  · have hnot := Entries.not_mem_keys hk
    simp only [List.map_append, List.map_cons, List.map_nil]
    rw [← List.concat_eq_append]
    exact h.keys.concat hnot
  · rcases List.mem_append.mp hi with hi | hi
    · rcases h.kept k i hi with hm | hclosed
      · exact .inl (List.mem_append_left _ hm)
      · exact .inr (hl.lasting i hclosed)
    · exact .inl (List.mem_append_right _ hi)

/-- Emptying the cache loses only instances that are closed. -/
theorem Sound.emptied (h : m.Sound) {st' : Estate ρ κ (List Creation × σ)}
    (hl : Later [] m.estate st') (hc : ∀ e ∈ m.cache, st'.HasClosed e.2) :
    Sound { m with cache := [], estate := st', emptied := m.emptied + 1,
                   earlier := st'.outside.1 } where
  created := ⟨[], (List.append_nil _).symm, rfl⟩
  keys := List.nodup_nil
  kept key id hid := by
    rcases h.kept key id hid with hm | hclosed
    · exact .inr (hc _ hm)
    · exact .inr (hl.lasting id hclosed)

theorem Sound.shared (h : m.Sound) {key : String} {id : InstanceId}
    (hk : Entries.get? key m.cache = some id) :
    Sound { m with returned := m.returned ++ [(key, id)] } := by
  refine ⟨h.created, h.keys, fun k i hi => ?_⟩
  rcases List.mem_append.mp hi with hi | hi
  · exact h.kept k i hi
  · rw [List.mem_singleton.mp hi]
    exact .inl (Entries.mem_of_get? hk)

theorem Changes.sound (hc : m.Changes x m') (h : m.Sound) : m'.Sound := by
  cases hc with
  | shared hk => exact h.shared hk
  | created hk hl => exact h.creation hk hl
  | refused _ hl => exact h.later hl rfl
  | got => exact h
  | looked => exact h
  | sized => exact h
  | emptied hl hall => exact h.emptied hl hall
  | stuck hl => exact h.later hl rfl
  | closed hl => exact h.later hl rfl

/-- Until closing the cache returns, it keeps its entries. -/
theorem Changes.keeps (hc : m.Changes x m') :
    m'.emptied = m.emptied ∧ (∀ e ∈ m.cache, e ∈ m'.cache) ∨ m'.emptied = m.emptied + 1 := by
  cases hc with
  | created _ _ => exact .inl ⟨rfl, fun e he => List.mem_append_left _ he⟩
  | emptied _ _ => exact .inr rfl
  | _ => exact .inl ⟨rfl, fun e he => he⟩

theorem run_sound (h : m.Sound) (moves : List (CacheMove ρ κ σ)) : (m.run d b moves).Sound := by
  induction moves generalizing m with
  | nil => exact h
  | cons x moves ih => exact ih ((after_changes m x).sound h)

theorem run_keeps (m : CacheMoment ρ κ σ) (moves : List (CacheMove ρ κ σ)) :
    m.emptied ≤ (m.run d b moves).emptied ∧
      ((m.run d b moves).emptied = m.emptied → ∀ e ∈ m.cache, e ∈ (m.run d b moves).cache) := by
  induction moves generalizing m with
  | nil => exact ⟨Nat.le_refl _, fun _ e he => he⟩
  | cons x moves ih =>
    obtain ⟨hle, hkeep⟩ := ih (m.after d b x)
    change m.emptied ≤ ((m.after d b x).run d b moves).emptied ∧
      (((m.after d b x).run d b moves).emptied = m.emptied →
        ∀ e ∈ m.cache, e ∈ ((m.after d b x).run d b moves).cache)
    rcases (after_changes (d := d) (b := b) m x).keeps with ⟨he, hc⟩ | he
    · rw [he] at hle hkeep
      exact ⟨hle, fun heq e hm => hkeep heq e (hc e hm)⟩
    -- the count only grows, so it is not the same in the end
    · rw [he] at hle
      refine ⟨Nat.le_of_succ_le hle, fun heq => ?_⟩
      omega

end Sound

end CacheMoment

open CacheMoment in
/-- After every sequence of moves, whatever the creators and the closings come to: the cache holds
what creators returned since closing it returned last, once for each key.  Until it returns again,
whoever asks for such a key gets the same instance and no creator is called.  A creator that is
called is noted, its fault is passed on, and only what it returns is added to the cache.  What was
ever returned for a key is in the cache under the key, or closed. -/
theorem created_once_and_not_lost (d : Diary σ) (b : InstanceId → Backing η ρ κ σ)
    (st : Estate ρ κ σ) (moves : List (CacheMove ρ κ σ)) :
    let start : CacheMoment ρ κ σ :=
      { estate := { families := st.families, outside := ([], st.outside) } }
    let m := start.run d b moves
    (∃ recent, m.creations = m.earlier ++ recent ∧ m.cache = recent.filterMap Creation.cached? ∧
      (m.cache.map (·.1)).Nodup) ∧
    (∀ key id, (key, id) ∈ m.cache → ∀ later, (m.run d b later).emptied = m.emptied →
      InstanceCache.get? key (m.run d b later).state = (.ok (some id), (m.run d b later).state) ∧
      ∀ c, asking d key c (m.run d b later).state = (.ok id, (m.run d b later).state)) ∧
    (∀ key c, Entries.get? key m.cache = none → ∃ r st', asking d key c m.state =
        (r, (m.cache ++ ((⟨key, r⟩ : Creation).cached?).toList, st')) ∧
      st'.outside.1 = m.creations ++ [⟨key, r⟩]) ∧
    ∀ key id, (key, id) ∈ m.returned → (key, id) ∈ m.cache ∨ m.estate.HasClosed id := by
  intro start m
  have hm : m.Sound := run_sound (sound_fresh st) moves
  refine ⟨?_, ?_, ?_, hm.kept⟩
  · obtain ⟨recent, hr, hc⟩ := hm.created
    exact ⟨recent, hr, hc, hm.keys⟩
  · intro key id hid later he
    have hmem := (run_keeps (d := d) (b := b) m later).2 he (key, id) hid
    have hget := Entries.get?_of_mem (run_sound (d := d) (b := b) hm later).keys hmem
    refine ⟨?_, fun c => asking_of_hit hget c⟩
    exact congrArg (fun v => (Except.ok v, (m.run d b later).state)) hget
  · intro key c hk
    obtain ⟨r, st', hx, hl⟩ := asking_of_miss (d := d) hk c m.estate
    exact ⟨r, st', hx, hl.noted⟩

/-- Starts an instance of a service that is ready at once, on a daemon that removes nothing. -/
def Creator.stubborn : Creator Container Unit (Watch × Unit) :=
  .starting Host.stubborn.plain (fun _ _ _ => .pure ()) Service.ready.beside .brief
    (some (Host.stubborn.runtime 0))

def CacheMoment.runStubborn (m : CacheMoment Container Unit (Watch × Unit))
    (moves : List (CacheMove Container Unit (Watch × Unit))) :
    CacheMoment Container Unit (Watch × Unit) :=
  m.run Host.stubborn.surroundings.diary (fun _ => Host.stubborn.backing 0 Service.ready) moves

/-- Two instances were made; the first was closed, and then the cache: in vain. -/
def CacheMoment.stubborn : CacheMoment Container Unit (Watch × Unit) :=
  CacheMoment.runStubborn { estate := { families := [], outside := ([], {}, ()) } }
    [.getOrCreate "orders" .stubborn, .closeInstance 0, .close, .getOrCreate "bills" .stubborn]

/-- An instance that could not be closed is still handed out under its key. -/
theorem created_once_though_stuck :
    CacheMoment.stubborn.cache = [("orders", 0), ("bills", 1)] ∧
      (CacheMoment.stubborn.runStubborn [.close]).emptied = CacheMoment.stubborn.emptied ∧
      ∀ c, CacheMoment.asking Host.stubborn.surroundings.diary "orders" c
          (CacheMoment.stubborn.runStubborn [.close]).state =
        (.ok 0, (CacheMoment.stubborn.runStubborn [.close]).state) := by
  have hcache : CacheMoment.stubborn.cache = [("orders", 0), ("bills", 1)] := by decide +kernel
  have hstuck : (CacheMoment.stubborn.runStubborn [.close]).emptied =
      CacheMoment.stubborn.emptied := by decide +kernel
  have hmem : ("orders", 0) ∈ CacheMoment.stubborn.cache := by
    rw [hcache]
    exact List.mem_cons_self
  obtain ⟨-, hshared, -⟩ := created_once_and_not_lost Host.stubborn.surroundings.diary
    (fun _ => Host.stubborn.backing 0 Service.ready) { families := [], outside := ({}, ()) }
    [.getOrCreate "orders" .stubborn, .closeInstance 0, .close, .getOrCreate "bills" .stubborn]
  exact ⟨hcache, hstuck, (hshared "orders" 0 hmem [.close] hstuck).2⟩

end Testbed
