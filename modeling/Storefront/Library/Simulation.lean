import Storefront.Library.Run

/-!
# Two servers, request by request

A server answers a request and goes on in a new state. `responses` are its answers to a list
of requests. Two servers are compared through a third, abstract machine, which has a state of
its own and a condition on the requests it is sent: `Along cond next m rs` says that the
condition holds of every request of `rs`, in the state the abstract machine has reached.

* `along_iff` — this means a condition on every request, in the state after those before it;
* `Run.simulates` — the runs of a system whose steps follow an abstract machine follow it;
* `forall₂_responses_iff` — two servers whose states represent the same abstract state answer
  a list of requests alike exactly when the condition holds along it.
-/

namespace Storefront

variable {R A B S T M : Type}

/-- The answers to a list of requests, one after the other. -/
def responses (serve : S → R → A × S) : S → List R → List A
  | _, [] => []
  | s, r :: rs => (serve s r).1 :: responses serve (serve s r).2 rs

/-- The condition holds of every request, in the state reached by those before it. -/
def Along (cond : M → R → Prop) (next : M → R → M) : M → List R → Prop
  | _, [] => True
  | m, r :: rs => cond m r ∧ Along cond next (next m r) rs

section Along

variable {cond : M → R → Prop} {next : M → R → M}

theorem along_iff {m : M} {rs : List R} :
    Along cond next m rs ↔
      ∀ before r after, rs = before ++ r :: after → cond (before.foldl next m) r := by
  induction rs generalizing m with
  | nil =>
    refine iff_of_true trivial ?_
    intro before r after h
    exact absurd h.symm (List.append_ne_nil_of_right_ne_nil _ (List.cons_ne_nil _ _))
  | cons r rs ih =>
    have hunfold : Along cond next m (r :: rs) ↔ cond m r ∧ Along cond next (next m r) rs :=
      Iff.rfl
    rw [hunfold, ih]
    refine ⟨?_, fun h => ⟨h [] r rs rfl, fun before r' after heq => ?_⟩⟩
    · rintro ⟨hr, hrs⟩ before r' after heq
      -- the request is the first one, or one of the others
      cases before with
      | nil =>
        cases heq
        exact hr
      | cons b before =>
        cases heq
        exact hrs before r' after rfl
    · exact h (r :: before) r' after (congrArg (r :: ·) heq)

theorem along_concat {m : M} {rs : List R} {r : R} :
    Along cond next m (rs ++ [r]) ↔ Along cond next m rs ∧ cond (rs.foldl next m) r := by
  induction rs generalizing m with
  | nil => exact and_comm
  | cons r' rs ih =>
    show cond m r' ∧ Along cond next (next m r') (rs ++ [r]) ↔
      (cond m r' ∧ Along cond next (next m r') rs) ∧ cond (rs.foldl next (next m r')) r
    rw [ih, and_assoc]

/-- **Forward simulation.** If every step from a state that represents `m` meets what the abstract
machine says of it in `m`, and leads to a state that represents the next one, then so do runs. -/
theorem Run.simulates {step : S → R → S → Prop} {Rel : M → S → Prop} {m : M} {s s' : S}
    {rs : List R} (h : Run step s rs s') (h_init : Rel m s)
    (h_step : ∀ m s r s', Rel m s → step s r s' → cond m r ∧ Rel (next m r) s') :
    Rel (rs.foldl next m) s' ∧ Along cond next m rs := by
  refine h.history (I := fun rs s => Rel (rs.foldl next m) s ∧ Along cond next m rs)
    ⟨h_init, trivial⟩ fun rs s r s' ⟨hrel, halong⟩ hs => ?_
  obtain ⟨hcond, hnext⟩ := h_step _ _ _ _ hrel hs
  rw [List.foldl_concat]
  exact ⟨hnext, along_concat.mpr ⟨halong, hcond⟩⟩

instance instDecidableAlong [∀ m r, Decidable (cond m r)] :
    ∀ m rs, Decidable (Along cond next m rs)
  | _, [] => .isTrue trivial
  | m, r :: rs =>
    have : Decidable (Along cond next (next m r) rs) := instDecidableAlong (next m r) rs
    inferInstanceAs (Decidable (_ ∧ _))

end Along

/-- **Simulation, with the exact condition.** `Rel rs m s t` says that `s` and `t` represent
`m` while the requests `rs` are still to come. If related servers answer a request alike
exactly when the condition holds, and are related again afterwards when it does, then they
answer all requests alike exactly when the condition holds along them. -/
theorem forall₂_responses_iff {f : S → R → A × S} {g : T → R → B × T} {cond : M → R → Prop}
    {next : M → R → M} {Same : A → B → Prop} {Rel : List R → M → S → T → Prop}
    (h_same : ∀ {r rs m s t}, Rel (r :: rs) m s t → (Same (f s r).1 (g t r).1 ↔ cond m r))
    (h_next : ∀ {r rs m s t}, Rel (r :: rs) m s t → cond m r →
      Rel rs (next m r) (f s r).2 (g t r).2)
    {rs : List R} {m : M} {s : S} {t : T} (h : Rel rs m s t) :
    List.Forall₂ Same (responses f s rs) (responses g t rs) ↔ Along cond next m rs := by
  induction rs generalizing m s t with
  | nil => exact iff_of_true .nil trivial
  | cons r rs ih =>
    have hanswers : List.Forall₂ Same (responses f s (r :: rs)) (responses g t (r :: rs)) ↔
        Same (f s r).1 (g t r).1 ∧
          List.Forall₂ Same (responses f (f s r).2 rs) (responses g (g t r).2 rs) :=
      List.forall₂_cons
    rw [hanswers, h_same h]
    exact and_congr_right fun hcond => ih (h_next h hcond)

end Storefront
