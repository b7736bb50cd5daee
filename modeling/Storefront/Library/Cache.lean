import Storefront.Library.Run

/-!
# Read-through caches

A read that is answered from a store of expiring entries, or computed and stored. The store
(`TtlStore`) is abstract: it hands out what was stored under a key while it has not expired,
and may lose entries at any time. Any number of requests are in flight: each looks its key up
(`hit` or `miss`), computes its answer from the world at a later moment (`fetch`, or `fail`
when that raises), and stores and returns it at a later moment still (`finish`). A lookup that
goes wrong or is skipped is a `miss`, a store that goes wrong or is skipped is a `finish` that
does not store. In between the world changes in any way.

Two things happen at one moment here. A `hit` is answered as it is looked up: what a request
takes to return an entry is not counted. And `fetch` reads the world in one step: an answer that
is computed from several queries is the answer at a moment only if these see one state.

* `Moment` — a state that a run passes;
* `Fresh` — the invariant: every entry of the store was the answer at a moment that is, when
  the entry expires, no older than the time to live and the time a request takes;
* `answer_of_moment` — hence every answer was the answer at a moment of the run that is no
  older, for a world that changes all the time.

The one assumption on the keys is that requests with the same key have the same answer.
-/

namespace Storefront

/-! ### Moments -/

section Moment

variable {S A : Type} {step : S → A → S → Prop}

/-- The run of `as` from `s₀` to `s` passes `m`. -/
def Moment (step : S → A → S → Prop) (s₀ : S) (as : List A) (s m : S) : Prop :=
  ∃ as₁ as₂, as = as₁ ++ as₂ ∧ Run step s₀ as₁ m ∧ Run step m as₂ s

theorem Moment.last {s₀ s : S} {as : List A} (h : Run step s₀ as s) : Moment step s₀ as s s :=
  ⟨as, [], (List.append_nil as).symm, h, .nil s⟩

/-- What a run has passed it passes when it goes on. -/
theorem Moment.snoc {s₀ s s' m : S} {as : List A} {a : A} (h : Moment step s₀ as s m)
    (h_step : step s a s') : Moment step s₀ (as ++ [a]) s' m := by
  obtain ⟨as₁, as₂, rfl, hbefore, hafter⟩ := h
  exact ⟨as₁, as₂ ++ [a], List.append_assoc as₁ as₂ [a], hbefore, hafter.snoc h_step⟩

end Moment

/-! ### The store -/

/-- A store of entries with a time to live. An entry that was set is handed out until its time
is over, or not. -/
structure TtlStore (K V : Type) where
  Store : Type
  empty : Store
  get : Store → K → Nat → Option V
  set : Store → K → V → Nat → Nat → Store
  get_empty : ∀ k t, get empty k t = none
  /-- Under a key there is what was set last, or what was there before. -/
  get_set : ∀ s k v expire now k' t w, get (set s k v expire now) k' t = some w →
    (k' = k ∧ w = v ∧ t < now + expire) ∨ get s k' t = some w

/-- The entries in a list, with the time each expires at. -/
def TtlStore.entries (K V : Type) [DecidableEq K] : TtlStore K V where
  Store := List (K × V × Nat)
  empty := []
  get s k t := (s.find? fun e => e.1 = k ∧ t < e.2.2).map fun e => e.2.1
  set s k v expire now := (k, v, now + expire) :: s
  get_empty _ _ := rfl
  get_set s k v expire now k' t w h := by
    rw [List.find?_cons] at h
    split at h
    · next hfound =>
      obtain ⟨hk, ht⟩ := of_decide_eq_true hfound
      exact .inl ⟨hk.symm, (Option.some.inj h).symm, ht⟩
    · exact .inr h

/-! ### The cache -/

variable {K V E R W : Type}

/-- What is cached: the store, the key and the answer of a request, and the time to live. -/
structure CachedRead (K V E R W : Type) extends TtlStore K V where
  key : R → K
  answer : R → W → Except E V
  expire : Nat
  /-- Requests with the same key have the same answer. -/
  answer_eq : ∀ r r' w, key r = key r' → answer r w = answer r' w

/-- The time, the world, the store, the requests that wait for their answer to be computed,
and those whose answer was computed, with the time it was. -/
structure CacheState (C : CachedRead K V E R W) where
  now : Nat
  world : W
  store : C.Store
  waiting : List R
  fetched : List (R × V × Nat)

inductive CacheAction (V R W : Type)
  | tick (seconds : Nat)
  | write (world : W)
  | lose
  | hit (request : R) (value : V)
  | miss (request : R)
  | fetch (request : R)
  | fail (request : R)
  | finish (request : R) (value : V) (stored : Bool)

/-- What an action answers, and to which request. -/
def CacheAction.answer? : CacheAction V R W → Option (R × V)
  | .hit r v => some (r, v)
  | .finish r v _ => some (r, v)
  | _ => none

namespace CachedRead

variable (C : CachedRead K V E R W)

/-- Before any request. -/
def start (now : Nat) (world : W) : CacheState C := ⟨now, world, C.empty, [], []⟩

/-- What a request or the world does. An answer is stored by a `finish` that stores, and by
nothing else: a request whose answer cannot be computed (`fail`) waits no longer, and leaves the
store as it is. -/
inductive Step : CacheState C → CacheAction V R W → CacheState C → Prop
  | tick (s : CacheState C) (seconds : Nat) :
      Step s (.tick seconds) { s with now := s.now + seconds }
  | write (s : CacheState C) (world : W) : Step s (.write world) { s with world }
  | lose (s : CacheState C) (store : C.Store)
      (h : ∀ k t v, C.get store k t = some v → C.get s.store k t = some v) :
      Step s .lose { s with store }
  | hit (s : CacheState C) (r : R) (v : V) (h : C.get s.store (C.key r) s.now = some v) :
      Step s (.hit r v) s
  | miss (s : CacheState C) (r : R) : Step s (.miss r) { s with waiting := r :: s.waiting }
  | fetch (s : CacheState C) (before after : List R) (r : R) (v : V)
      (h : s.waiting = before ++ r :: after) (hv : C.answer r s.world = .ok v) :
      Step s (.fetch r)
        { s with waiting := before ++ after, fetched := (r, v, s.now) :: s.fetched }
  | fail (s : CacheState C) (before after : List R) (r : R) (e : E)
      (h : s.waiting = before ++ r :: after) (he : C.answer r s.world = .error e) :
      Step s (.fail r) { s with waiting := before ++ after }
  | finish (s : CacheState C) (before after : List (R × V × Nat)) (r : R) (v : V) (t : Nat)
      (stored : Bool) (h : s.fetched = before ++ (r, v, t) :: after) :
      Step s (.finish r v stored)
        { s with
          fetched := before ++ after
          store := if stored then C.set s.store (C.key r) v C.expire s.now else s.store }

/-- Every answer is returned within `D` seconds of its computation. -/
def Prompt (D : Nat) (s : CacheState C) (_ : CacheAction V R W) : Prop :=
  ∀ p ∈ s.fetched, s.now ≤ p.2.2 + D

/-- The step relation of a cache whose requests take no longer than `D`. -/
abbrev PromptStep (D : Nat) : CacheState C → CacheAction V R W → CacheState C → Prop :=
  guarded (C.Prompt D) C.Step

/-- The invariant of a run: what is stored, and what is about to be returned, was the answer at
a moment of the run. -/
structure Fresh (D : Nat) (s₀ : CacheState C) (as : List (CacheAction V R W))
    (s : CacheState C) : Prop where
  run : Run (C.PromptStep D) s₀ as s
  stored : ∀ k t v, C.get s.store k t = some v →
    ∃ m, Moment (C.PromptStep D) s₀ as s m ∧ t < m.now + D + C.expire ∧
      ∀ r, C.key r = k → C.answer r m.world = .ok v
  fetched : ∀ p ∈ s.fetched, ∃ m, Moment (C.PromptStep D) s₀ as s m ∧ m.now = p.2.2 ∧
    C.answer p.1 m.world = .ok p.2.1

variable {C} {D : Nat} {s₀ s s' : CacheState C} {as : List (CacheAction V R W)}
  {a : CacheAction V R W}

theorem Fresh.start (now : Nat) (world : W) :
    C.Fresh D (C.start now world) [] (C.start now world) where
  run := .nil _
  stored k t v h := by
    have hnone : C.get C.empty k t = none := C.get_empty k t
    rw [show (C.start now world).store = C.empty from rfl, hnone] at h
    cases h
  fetched p hp := absurd hp List.not_mem_nil

/-- What is kept of the store and of the computed answers keeps its moment. -/
theorem Fresh.mono (h : C.Fresh D s₀ as s) (h_step : C.PromptStep D s a s')
    (h_store : ∀ k t v, C.get s'.store k t = some v → C.get s.store k t = some v)
    (h_fetched : ∀ p ∈ s'.fetched, p ∈ s.fetched) : C.Fresh D s₀ (as ++ [a]) s' where
  run := h.run.snoc h_step
  stored k t v hget := by
    obtain ⟨m, hm, hrest⟩ := h.stored k t v (h_store k t v hget)
    exact ⟨m, hm.snoc h_step, hrest⟩
  fetched p hp := by
    obtain ⟨m, hm, hrest⟩ := h.fetched p (h_fetched p hp)
    exact ⟨m, hm.snoc h_step, hrest⟩

theorem Fresh.step (h : C.Fresh D s₀ as s) (h_step : C.PromptStep D s a s') :
    C.Fresh D s₀ (as ++ [a]) s' := by
  have hguarded := h_step
  obtain ⟨hprompt, hs⟩ := h_step
  cases hs with
  -- these steps store nothing and finish no computation
  | tick seconds => exact h.mono hguarded (fun _ _ _ hv => hv) fun _ hp => hp
  | write world => exact h.mono hguarded (fun _ _ _ hv => hv) fun _ hp => hp
  | lose store hlose => exact h.mono hguarded hlose fun _ hp => hp
  | hit r v hget => exact h.mono hguarded (fun _ _ _ hv => hv) fun _ hp => hp
  | miss r => exact h.mono hguarded (fun _ _ _ hv => hv) fun _ hp => hp
  | fail before after r e hw he => exact h.mono hguarded (fun _ _ _ hv => hv) fun _ hp => hp
  -- a computed answer waits to be stored; the store itself is as before
  | fetch before after r v hw hv =>
    refine ⟨h.run.snoc hguarded, ?_, ?_⟩
    · intro k t w hget
      obtain ⟨m, hm, hrest⟩ := h.stored k t w hget
      exact ⟨m, hm.snoc hguarded, hrest⟩
    · intro p hp
      rcases List.mem_cons.mp hp with rfl | hp
      -- the answer that was computed now
      · exact ⟨s, (Moment.last h.run).snoc hguarded, rfl, hv⟩
      · obtain ⟨m, hm, hrest⟩ := h.fetched p hp
        exact ⟨m, hm.snoc hguarded, hrest⟩
  -- the computation ends: its answer may be stored, and it waits no more
  | finish before after r v t stored hf =>
    have hmem : (r, v, t) ∈ s.fetched := hf ▸ List.mem_append_right _ List.mem_cons_self
    obtain ⟨m, hm, hnow, hv⟩ := h.fetched _ hmem
    refine ⟨h.run.snoc hguarded, ?_, ?_⟩
    · intro k t' w hget
      have hcases : (k = C.key r ∧ w = v ∧ t' < s.now + C.expire) ∨
          C.get s.store k t' = some w := by
        cases stored with
        | true => exact C.get_set _ _ _ _ _ _ _ _ hget
        | false => exact .inr hget
      rcases hcases with ⟨rfl, rfl, ht⟩ | hget
      -- the entry that is stored now was computed within the last `D` seconds
      · have hlate : s.now ≤ t + D := hprompt _ hmem
        refine ⟨m, hm.snoc hguarded, ?_, ?_⟩
        · have hnow' : m.now = t := hnow
          omega
        · intro r' hkey
          rw [C.answer_eq r' r m.world hkey]
          exact hv
      · obtain ⟨m', hm', hrest⟩ := h.stored k t' w hget
        exact ⟨m', hm'.snoc hguarded, hrest⟩
    · intro p hp
      have hp' : p ∈ s.fetched := by
        rw [hf]
        rcases List.mem_append.mp hp with hp | hp
        · exact List.mem_append_left _ hp
        · exact List.mem_append_right _ (List.mem_cons_of_mem _ hp)
      obtain ⟨m', hm', hrest⟩ := h.fetched p hp'
      exact ⟨m', hm'.snoc hguarded, hrest⟩

theorem fresh_of_run {now : Nat} {world : W} (h : Run (C.PromptStep D) (C.start now world) as s) :
    C.Fresh D (C.start now world) as s :=
  h.history (Fresh.start now world) fun _ _ _ _ hI hs => hI.step hs

/-- **Every answer was the answer a little earlier**: at a moment of the run that is no older
than the time to live and the time a request takes. -/
theorem answer_of_moment {now : Nat} {world : W} {r : R} {v : V}
    (h : Run (C.PromptStep D) (C.start now world) as s) (h_step : C.PromptStep D s a s')
    (h_answer : a.answer? = some (r, v)) :
    ∃ m, Moment (C.PromptStep D) (C.start now world) as s m ∧
      s.now ≤ m.now + D + C.expire ∧ C.answer r m.world = .ok v := by
  have hfresh := fresh_of_run h
  obtain ⟨hprompt, hs⟩ := h_step
  cases hs with
  -- an entry answers for its key, so for this request
  | hit r' v' hget =>
    obtain ⟨rfl, rfl⟩ := Prod.mk.inj (Option.some.inj h_answer)
    obtain ⟨m, hm, hlate, hv⟩ := hfresh.stored _ _ _ hget
    exact ⟨m, hm, hlate.le, hv r' rfl⟩
  | finish before after r' v' t stored hf =>
    obtain ⟨rfl, rfl⟩ := Prod.mk.inj (Option.some.inj h_answer)
    have hmem : (r', v', t) ∈ s.fetched := hf ▸ List.mem_append_right _ List.mem_cons_self
    obtain ⟨m, hm, hnow, hv⟩ := hfresh.fetched _ hmem
    have hlate : s.now ≤ t + D := hprompt _ hmem
    have hnow' : m.now = t := hnow
    exact ⟨m, hm, by omega, hv⟩
  -- no other step answers
  | tick _ | write _ | lose _ _ | miss _ | fetch _ _ _ _ _ _ | fail _ _ _ _ _ _ =>
    cases h_answer

end CachedRead

end Storefront
