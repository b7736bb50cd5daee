import Storefront.Library.Run

/-!
# Sequences of updates

A state that is updated by a function, message after message: `List.foldl`, and what says how
much the order of the messages matters.

* `lastWrite` is the value of a register after messages that may each write it, the last
  write winning; `lastWrite_concat` is its step and `lastWrite_append_self` says that
  reading the same messages once more, in order, changes nothing;
* `recorded` is a system with such a register beside its state (`Run.exists_recorded`);
* `SameByKey` relates two interleavings of the same sequences, one for each key;
  `SameByKey.foldl_eq` — updates of different keys that commute lead all interleavings to
  one state;
* `run_iff_foldl` — the runs of a system whose steps are a function.
-/

namespace Storefront

variable {A K S V : Type}

/-! ### Registers -/

/-- The last value written by the messages, or the initial one. -/
def lastWrite (write : A → Option V) (v : V) (as : List A) : V :=
  (as.filterMap write).getLast?.getD v

section LastWrite

variable {write : A → Option V} {v : V} {as : List A}

theorem lastWrite_concat (a : A) :
    lastWrite write v (as ++ [a]) = (write a).getD (lastWrite write v as) := by
  unfold lastWrite
  rw [List.filterMap_append]
  cases h : write a with
  | none => simp [h]
  | some w => simp [h]

/-- A value after the messages is the initial one, if none of them writes, or written by one. -/
theorem lastWrite_cases (write : A → Option V) (v : V) (as : List A) :
    ((∀ a ∈ as, write a = none) ∧ lastWrite write v as = v) ∨
      ∃ a ∈ as, write a = some (lastWrite write v as) := by
  unfold lastWrite
  cases h : (as.filterMap write).getLast? with
  | none =>
    refine .inl ⟨fun a ha => ?_, rfl⟩
    have hnil := List.getLast?_eq_none_iff.mp h
    exact (List.filterMap_eq_nil_iff.mp hnil) a ha
  | some w =>
    right
    obtain ⟨a, ha, hw⟩ := List.mem_filterMap.mp (List.mem_of_getLast? h)
    exact ⟨a, ha, hw⟩

/-- Messages read once more in their order leave the value they had left. -/
theorem lastWrite_append_self : lastWrite write v (as ++ as) = lastWrite write v as := by
  unfold lastWrite
  rw [List.filterMap_append, List.getLast?_append]
  cases (as.filterMap write).getLast? <;> rfl

/-- Where the writes are those of some of the messages, the last of these counts. -/
theorem lastWrite_of_filter {p : A → Prop} [DecidablePred p] {f : A → V}
    (h : ∀ a, write a = if p a then some (f a) else none) :
    lastWrite write v as = ((as.filter fun a => p a).getLast?.map f).getD v := by
  have hwrites : as.filterMap write = (as.filter fun a => p a).map f := by
    rw [← List.filterMap_eq_map, List.filterMap_filter]
    refine List.filterMap_congr fun a _ => ?_
    rw [h a]
    simp only [decide_eq_true_eq, Function.comp_apply]
  unfold lastWrite
  rw [hwrites, List.getLast?_map]

end LastWrite

/-- A step of a system beside which the last value is kept that a step has marked. -/
def recorded (step : S → A → S → Prop) (mark : S → A → Option V) (x : S × Option V) (a : A)
    (x' : S × Option V) : Prop :=
  step x.1 a x'.1 ∧ x'.2 = (mark x.1 a).or x.2

/-- Every run records a value, or none. -/
theorem Run.exists_recorded {step : S → A → S → Prop} {s s' : S} {as : List A}
    (h : Run step s as s') (mark : S → A → Option V) (v : Option V) :
    ∃ v', Run (recorded step mark) (s, v) as (s', v') := by
  induction h with
  | nil => exact ⟨v, .nil _⟩
  | snoc _ hstep ih =>
    obtain ⟨v', hrun⟩ := ih
    exact ⟨_, hrun.snoc ⟨hstep, rfl⟩⟩

/-! ### Interleavings -/

/-- The two lists have the same messages of each key, in the same order. -/
def SameByKey [DecidableEq K] (key : A → K) (as bs : List A) : Prop :=
  ∀ k, as.filter (fun a => key a = k) = bs.filter fun b => key b = k

section SameByKey

variable {key : A → K} {f : S → A → S}

/-- An update commutes past updates of other keys. -/
theorem foldl_past (h_comm : ∀ s a b, key a ≠ key b → f (f s a) b = f (f s b) a) {a : A}
    {bs : List A} (h : ∀ b ∈ bs, key b ≠ key a) (s : S) :
    f (bs.foldl f s) a = bs.foldl f (f s a) := by
  induction bs generalizing s with
  | nil => rfl
  | cons b bs ih =>
    obtain ⟨hb, hbs⟩ := List.forall_mem_cons.mp h
    rw [List.foldl_cons, List.foldl_cons, ih hbs, h_comm s b a hb]

/-- **Interleavings agree** when updates of different keys commute. -/
theorem SameByKey.foldl_eq [DecidableEq K]
    (h_comm : ∀ s a b, key a ≠ key b → f (f s a) b = f (f s b) a)
    {as bs : List A} (h : SameByKey key as bs) (s : S) : as.foldl f s = bs.foldl f s := by
  induction as generalizing bs s with
  | nil =>
    cases bs with
    | nil => rfl
    | cons b bs =>
      have hb := h (key b)
      rw [List.filter_cons_of_pos (by simp)] at hb
      cases hb
  | cons a as ih =>
    -- the first message of the key of `a` in the other list is `a`
    have ha := h (key a)
    rw [List.filter_cons_of_pos (by simp)] at ha
    obtain ⟨front, back, rfl, hfront, -, hback⟩ := List.filter_eq_cons_iff.mp ha.symm
    have hother : ∀ b ∈ front, key b ≠ key a := fun b hb heq => hfront b hb (decide_eq_true heq)
    -- without it the two lists still agree on every key
    have hrest : SameByKey key as (front ++ back) := by
      intro k
      have hk := h k
      by_cases hka : key a = k
      · subst hka
        have hnil : front.filter (fun b => key b = key a) = [] :=
          List.filter_eq_nil_iff.mpr hfront
        rw [List.filter_append, hnil, List.nil_append, hback]
      · rw [List.filter_cons_of_neg (by simpa using hka), List.filter_append,
          List.filter_cons_of_neg (by simpa using hka)] at hk
        rw [hk, List.filter_append]
    -- so `a` can be moved to the front, past messages of other keys
    rw [List.foldl_cons, ih hrest, List.foldl_append, List.foldl_append, List.foldl_cons,
      foldl_past h_comm hother]

end SameByKey

/-- The runs of a system whose steps are a function. -/
theorem run_iff_foldl {f : S → A → S} {s s' : S} {as : List A} :
    Run (fun s a s' => s' = f s a) s as s' ↔ s' = as.foldl f s := by
  refine ⟨?_, ?_⟩
  · intro h
    induction h with
    | nil => rfl
    | snoc _ hs ih => rw [hs, ih, List.foldl_concat]
  · rintro rfl
    induction as using List.reverseRecOn with
    | nil => exact .nil s
    | append_singleton as a ih => exact ih.snoc (by rw [List.foldl_concat])

end Storefront
