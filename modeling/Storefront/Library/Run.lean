import Mathlib

/-!
# Labelled runs

A system is a relation `step : S → A → S → Prop`. `Run step s as s'` says that the
actions `as`, taken in this order, lead from `s` to `s'`. A condition on the steps of a
run is expressed by running the restricted relation `guarded P step`, whose steps are
those of `step` taken where `P` holds of the state and the action.

* `Run.invariant` — what every step preserves holds at the end of every run;
* `Run.history` — the same for a property that also reads the actions taken so far;
* `Run.monotone` — a preorder that every step respects relates the two ends of a run;
* `Run.leaves` — what each step leaves behind, and later steps keep, is there at the end;
* `Run.congr_of_invariant` — systems whose steps agree where an invariant holds have the
  same runs;
* `Run.split` and `Run.deterministic` — a run through a list of actions goes through its
  prefixes, and where steps are functions so are runs;
* `run_of_exec` — a run of a system whose steps are computed is found by computing it.
-/

namespace Storefront

variable {S A : Type}

/-- `Run step s as s'`: the actions `as` lead from `s` to `s'`, one `step` each. -/
inductive Run (step : S → A → S → Prop) : S → List A → S → Prop
  | nil (s : S) : Run step s [] s
  | snoc {s s' s'' : S} {as : List A} {a : A} :
      Run step s as s' → step s' a s'' → Run step s (as ++ [a]) s''

/-- The steps of `step` taken where `P` holds of the state before and the action. -/
def guarded (P : S → A → Prop) (step : S → A → S → Prop) (s : S) (a : A) (s' : S) : Prop :=
  P s a ∧ step s a s'

variable {step : S → A → S → Prop}

/-- **History rule.** A property of the actions so far and the state, true at the start
and preserved by every step, holds at the end of every run. -/
theorem Run.history {I : List A → S → Prop} {s s' : S} {as : List A}
    (h : Run step s as s') (h_init : I [] s)
    (h_step : ∀ as s a s', I as s → step s a s' → I (as ++ [a]) s') : I as s' := by
  induction h with
  | nil => exact h_init
  | snoc _ hs ih => exact h_step _ _ _ _ ih hs

/-- **Invariant rule.** What holds at the start and is preserved by every step holds at
the end of every run. -/
theorem Run.invariant {I : S → Prop} {s s' : S} {as : List A}
    (h : Run step s as s') (h_init : I s)
    (h_step : ∀ s a s', I s → step s a s' → I s') : I s' :=
  h.history (I := fun _ t => I t) h_init fun _ => h_step

/-- A preorder that every step respects, from states that meet an invariant, relates the
two ends of every run. -/
theorem Run.monotone {I : S → Prop} {r : S → S → Prop} (h_refl : ∀ s, r s s)
    (h_trans : ∀ {a b c}, r a b → r b c → r a c) {s s' : S} {as : List A}
    (h : Run step s as s') (h_init : I s)
    (h_step : ∀ s a s', I s → step s a s' → I s' ∧ r s s') : r s s' := by
  have hboth : I s' ∧ r s s' := by
    induction h with
    | nil => exact ⟨h_init, h_refl _⟩
    | snoc _ hs ih =>
      obtain ⟨hI, hr⟩ := ih
      obtain ⟨hI', hr'⟩ := h_step _ _ _ hI hs
      exact ⟨hI', h_trans hr hr'⟩
  exact hboth.2

/-- **Records.** What a step leaves behind in the state, and every later step keeps, is there at
the end of the run for each of its actions. -/
theorem Run.leaves {I : S → Prop} {Q : A → S → Prop} {s s' : S} {as : List A}
    (h : Run step s as s') (h_init : I s) (h_step : ∀ s a s', I s → step s a s' → I s' ∧ Q a s')
    (h_keep : ∀ s a s' b, I s → step s a s' → Q b s → Q b s') : I s' ∧ ∀ a ∈ as, Q a s' := by
  refine h.history (I := fun as t => I t ∧ ∀ a ∈ as, Q a t) ⟨h_init, nofun⟩ ?_
  rintro as s a s' ⟨hI, hall⟩ hs
  obtain ⟨hI', hlast⟩ := h_step s a s' hI hs
  refine ⟨hI', List.forall_mem_append.mpr ⟨fun b hb => ?_, List.forall_mem_singleton.mpr hlast⟩⟩
  exact h_keep s a s' b hI hs (hall b hb)

/-- **Exchange rule.** Two systems with the same steps, from states that meet an invariant of
the first, have the same runs. -/
theorem Run.congr_of_invariant {I : S → Prop} {step₁ step₂ : S → A → S → Prop} {s s' : S}
    {as : List A} (h_init : I s) (h_iff : ∀ s a s', I s → (step₁ s a s' ↔ step₂ s a s'))
    (h_step : ∀ s a s', I s → step₁ s a s' → I s') : Run step₁ s as s' ↔ Run step₂ s as s' := by
  refine ⟨?_, ?_⟩
  · intro h
    -- the invariant comes along, since the steps agree only under it
    have hboth : Run step₂ s as s' ∧ I s' := by
      induction h with
      | nil => exact ⟨.nil _, h_init⟩
      | snoc _ hs ih =>
        obtain ⟨hrun, hI⟩ := ih
        exact ⟨hrun.snoc ((h_iff _ _ _ hI).mp hs), h_step _ _ _ hI hs⟩
    exact hboth.1
  · intro h
    have hboth : Run step₁ s as s' ∧ I s' := by
      induction h with
      | nil => exact ⟨.nil _, h_init⟩
      | snoc _ hs ih =>
        obtain ⟨hrun, hI⟩ := ih
        have hs₁ := (h_iff _ _ _ hI).mpr hs
        exact ⟨hrun.snoc hs₁, h_step _ _ _ hI hs₁⟩
    exact hboth.1

/-- Two runs, the second from where the first ends, are one run. -/
theorem Run.append {s s' s'' : S} {as bs : List A} (h₁ : Run step s as s')
    (h₂ : Run step s' bs s'') : Run step s (as ++ bs) s'' := by
  induction h₂ with
  | nil => simpa using h₁
  | snoc _ hs ih =>
    rw [← List.append_assoc]
    exact ih.snoc hs

/-- A run of no actions goes nowhere. -/
theorem Run.of_nil {s s' : S} (h : Run step s [] s') : s' = s := by
  generalize hnil : ([] : List A) = as at h
  cases h with
  | nil => rfl
  | snoc _ _ => exact absurd hnil (by simp)

/-- The last step of a run. -/
theorem Run.of_snoc {s s'' : S} {as : List A} {a : A} (h : Run step s (as ++ [a]) s'') :
    ∃ s', Run step s as s' ∧ step s' a s'' := by
  generalize hcs : as ++ [a] = cs at h
  cases h with
  | nil => exact absurd hcs (by simp)
  | snoc hrun hstep =>
    obtain ⟨rfl, hlast⟩ := List.append_inj' hcs rfl
    cases hlast
    exact ⟨_, hrun, hstep⟩

/-- A run is a run of its first actions and then one of the others. -/
theorem Run.split {s s'' : S} {as bs : List A} (h : Run step s (as ++ bs) s'') :
    ∃ s', Run step s as s' ∧ Run step s' bs s'' := by
  induction bs using List.reverseRecOn generalizing s'' with
  | nil => exact ⟨s'', List.append_nil as ▸ h, .nil _⟩
  | append_singleton bs b ih =>
    rw [← List.append_assoc] at h
    obtain ⟨s₁, hinit, hstep⟩ := h.of_snoc
    obtain ⟨s', hfirst, hrest⟩ := ih hinit
    exact ⟨s', hfirst, hrest.snoc hstep⟩

/-- The runs of a system with more steps. -/
theorem Run.weaken {step' : S → A → S → Prop} (h_step : ∀ s a s', step s a s' → step' s a s')
    {s s' : S} {as : List A} (h : Run step s as s') : Run step' s as s' := by
  induction h with
  | nil => exact .nil _
  | snoc _ hs ih => exact ih.snoc (h_step _ _ _ hs)

/-- Where a step leads to one state only, so does a run. -/
theorem Run.deterministic {s s₁ s₂ : S} {as : List A} (h₁ : Run step s as s₁)
    (h₂ : Run step s as s₂) (h_step : ∀ s a s₁ s₂, step s a s₁ → step s a s₂ → s₁ = s₂) :
    s₁ = s₂ := by
  induction h₁ generalizing s₂ with
  | nil => exact h₂.of_nil.symm
  | snoc _ hs ih =>
    obtain ⟨t, hrun, hlast⟩ := h₂.of_snoc
    obtain rfl := ih hrun
    exact h_step _ _ _ _ hs hlast

/-- One step, then a run, is a run. -/
theorem Run.cons {s s' s'' : S} {a : A} {as : List A} (h₁ : step s a s')
    (h₂ : Run step s' as s'') : Run step s (a :: as) s'' :=
  ((Run.nil s).snoc h₁).append h₂

/-- Take the actions one by one, where `next` says what each leads to. -/
def exec (next : S → A → Option S) : S → List A → Option S
  | s, [] => some s
  | s, a :: as => (next s a).bind fun s' => exec next s' as

/-- What the computed steps lead to is reached by a run. -/
theorem run_of_exec {next : S → A → Option S} {s s' : S} {as : List A}
    (h : exec next s as = some s') : Run (fun s a s' => next s a = some s') s as s' := by
  induction as generalizing s with
  | nil =>
    cases h
    exact .nil _
  | cons a as ih =>
    obtain ⟨s₁, hs₁, h'⟩ := Option.bind_eq_some_iff.mp h
    exact .cons hs₁ (ih h')

end Storefront
