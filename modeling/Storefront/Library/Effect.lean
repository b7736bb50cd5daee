import Mathlib

/-!
# Computations that raise and keep their state

`EStateM ε σ` is a computation over a state `σ` that may raise an `ε`. A raised exception
keeps the state reached so far: nothing is undone by raising, which is how an exception
behaves in a language with mutable objects. This file collects the rules such
computations are read with: how a sequence of two runs, how `try … catch` and
`try … finally` run, and the inversion of a sequence that returned.
-/

namespace Storefront

variable {ε σ α β : Type}

/-- The state a computation ends in, whether it returns or raises. -/
def endState : EStateM.Result ε σ α → σ
  | .ok _ s => s
  | .error _ s => s

@[simp] theorem endState_ok (a : α) (s : σ) :
    endState (.ok a s : EStateM.Result ε σ α) = s := rfl

@[simp] theorem endState_error (e : ε) (s : σ) :
    endState (.error e s : EStateM.Result ε σ α) = s := rfl

/-! ### Sequencing -/

theorem run_bind_ok {x : EStateM ε σ α} {f : α → EStateM ε σ β} {s s' : σ} {a : α}
    (h : x.run s = .ok a s') : (x >>= f).run s = (f a).run s' := by
  rw [EStateM.run_bind, h]

theorem run_bind_error {x : EStateM ε σ α} {f : α → EStateM ε σ β} {s s' : σ} {e : ε}
    (h : x.run s = .error e s') : (x >>= f).run s = .error e s' := by
  rw [EStateM.run_bind, h]

/-- **Inversion of a sequence.** A sequence returns exactly when its first part returns
and its second part, run on the result, returns. -/
theorem bind_eq_ok {x : EStateM ε σ α} {f : α → EStateM ε σ β} {s s'' : σ} {b : β} :
    (x >>= f).run s = .ok b s'' ↔
      ∃ a s', x.run s = .ok a s' ∧ (f a).run s' = .ok b s'' := by
  rw [EStateM.run_bind]
  cases hx : x.run s with
  | ok a s' => simp
  | error e s' => simp

/-- A sequence ends where its first part ends, when that raises, and where its second part
ends otherwise. -/
theorem endState_bind_cases (x : EStateM ε σ α) (f : α → EStateM ε σ β) (s : σ) :
    endState ((x >>= f).run s) = endState (x.run s) ∨
      ∃ a s', x.run s = .ok a s' ∧ endState ((x >>= f).run s) = endState ((f a).run s') := by
  cases hx : x.run s with
  | error e s' =>
    left
    rw [run_bind_error hx]
    rfl
  | ok a s' => exact .inr ⟨a, s', rfl, by rw [run_bind_ok hx]⟩

/-- A second part that keeps what `f` sees of the state leaves it as the first part did. -/
theorem frame_bind {τ : Type} (f : σ → τ) {x : EStateM ε σ α} {k : α → EStateM ε σ β}
    (hk : ∀ a s, f (endState ((k a).run s)) = f s) (s : σ) :
    f (endState ((x >>= k).run s)) = f (endState (x.run s)) := by
  rcases endState_bind_cases x k s with h | ⟨a, s', hrun, h⟩
  · rw [h]
  · rw [h, hk a s', hrun, endState_ok]

/-- A sequence of parts that leave the state alone leaves it alone. -/
theorem endState_bind_eq {x : EStateM ε σ α} {f : α → EStateM ε σ β} {s : σ}
    (hx : endState (x.run s) = s) (hf : ∀ a, endState ((f a).run s) = s) :
    endState ((x >>= f).run s) = s := by
  rcases endState_bind_cases x f s with h | ⟨a, s', hrun, h⟩
  · exact h.trans hx
  · rw [hrun] at hx
    obtain rfl : s' = s := hx
    exact h.trans (hf a)

/-- Inversion of a sequence whose first part has no result. -/
theorem seq_eq_ok {x : EStateM ε σ Unit} {y : EStateM ε σ β} {s s'' : σ} {b : β} :
    (do x; y).run s = .ok b s'' ↔ ∃ s', x.run s = .ok () s' ∧ y.run s' = .ok b s'' := by
  rw [bind_eq_ok]
  exact ⟨fun ⟨_, s', h⟩ => ⟨s', h⟩, fun ⟨s', h⟩ => ⟨(), s', h⟩⟩

theorem run_map_ok (f : α → β) {x : EStateM ε σ α} {s s' : σ} {a : α} (h : x.run s = .ok a s') :
    (f <$> x).run s = .ok (f a) s' := by
  rw [map_eq_pure_bind, run_bind_ok h]
  rfl

theorem run_map_error (f : α → β) {x : EStateM ε σ α} {s s' : σ} {e : ε}
    (h : x.run s = .error e s') : (f <$> x).run s = .error e s' := by
  rw [map_eq_pure_bind, run_bind_error h]

theorem run_throw (e : ε) (s : σ) : (throw e : EStateM ε σ α).run s = .error e s := rfl

/-- Inversion of a sequence of pure computations that may raise. -/
theorem except_bind_eq_ok {x : Except ε α} {f : α → Except ε β} {b : β} :
    (x >>= f) = .ok b ↔ ∃ a, x = .ok a ∧ f a = .ok b := by
  cases x with
  | error e => simp [bind, Except.bind]
  | ok a => simp [bind, Except.bind]

theorem except_bind_eq_error {x : Except ε α} {f : α → Except ε β} {e : ε} :
    (x >>= f) = .error e ↔ x = .error e ∨ ∃ a, x = .ok a ∧ f a = .error e := by
  cases x with
  | error e => simp [bind, Except.bind]
  | ok a => simp [bind, Except.bind]

/-- A value that is made of a returned one is returned when that is. -/
theorem exists_map_eq_ok {x : Except ε α} {f : α → β} :
    (∃ b, x.map f = .ok b) ↔ ∃ a, x = .ok a := by
  cases x with
  | error e => exact iff_of_false nofun nofun
  | ok a => exact iff_of_true ⟨_, rfl⟩ ⟨_, rfl⟩

/-- What is made of a value that may be missing. -/
theorem exists_elim_eq_ok {o : Option α} {b : β} {f : α → Except ε β} :
    (∃ b', o.elim (.ok b) f = .ok b') ↔ ∀ a ∈ o, ∃ b', f a = .ok b' := by
  cases o with
  | none => exact iff_of_true ⟨b, rfl⟩ nofun
  | some a => simp only [Option.elim_some, Option.mem_def, Option.some.injEq, forall_eq']

/-- A pure computation that may raise leaves the state alone. -/
theorem run_liftExcept (x : Except ε α) (s : σ) :
    (liftExcept x : EStateM ε σ α).run s =
      match x with
      | .ok a => .ok a s
      | .error e => .error e s := by
  cases x <;> rfl

theorem liftExcept_eq_ok {x : Except ε α} {s s' : σ} {a : α} :
    (liftExcept x : EStateM ε σ α).run s = .ok a s' ↔ x = .ok a ∧ s' = s := by
  rw [run_liftExcept]
  cases x with
  | ok a' => simp [eq_comm]
  | error e => simp

theorem endState_liftExcept (x : Except ε α) (s : σ) :
    endState ((liftExcept x : EStateM ε σ α).run s) = s := by
  cases x <;> rfl

/-- `if p: raise e`. -/
def raiseIf (p : Prop) [Decidable p] (e : ε) : EStateM ε σ Unit := if p then throw e else pure ()

/-- It returns exactly when `p` fails, and does nothing then. -/
theorem raiseIf_eq_ok {p : Prop} [Decidable p] {e : ε} {s s' : σ} {u : Unit} :
    (raiseIf p e : EStateM ε σ Unit).run s = .ok u s' ↔ ¬ p ∧ s' = s := by
  unfold raiseIf
  split
  · next h => simp [run_throw, h]
  · next h => simp [h, eq_comm]

theorem run_raiseIf_of_not {p : Prop} [Decidable p] (h : ¬ p) (e : ε) (s : σ) :
    (raiseIf p e : EStateM ε σ Unit).run s = .ok () s :=
  raiseIf_eq_ok.mpr ⟨h, rfl⟩

theorem run_raiseIf_of_pos {p : Prop} [Decidable p] (h : p) (e : ε) (s : σ) :
    (raiseIf p e : EStateM ε σ Unit).run s = .error e s := by
  unfold raiseIf
  rw [if_pos h, run_throw]

theorem endState_raiseIf (p : Prop) [Decidable p] (e : ε) (s : σ) :
    endState ((raiseIf p e : EStateM ε σ Unit).run s) = s := by
  unfold raiseIf
  split <;> rfl

/-! ### Traversals -/

theorem mapM_cons_eq_ok {f : α → Except ε β} {a : α} {l : List α} {bs : List β} :
    (a :: l).mapM f = .ok bs ↔
      ∃ b bs', f a = .ok b ∧ l.mapM f = .ok bs' ∧ b :: bs' = bs := by
  rw [List.mapM_cons, except_bind_eq_ok]
  simp only [except_bind_eq_ok, pure, Except.pure, Except.ok.injEq, exists_and_left]

/-- A traversal returns exactly when every element does. -/
theorem exists_mapM_eq_ok {f : α → Except ε β} {l : List α} :
    (∃ bs, l.mapM f = .ok bs) ↔ ∀ a ∈ l, ∃ b, f a = .ok b := by
  induction l with
  | nil => exact ⟨fun _ _ h => absurd h List.not_mem_nil, fun _ => ⟨[], rfl⟩⟩
  | cons a l ih =>
    rw [List.forall_mem_cons, ← ih]
    simp only [mapM_cons_eq_ok]
    exact ⟨fun ⟨_, b, bs', ha, hl, _⟩ => ⟨⟨b, ha⟩, bs', hl⟩,
      fun ⟨⟨b, ha⟩, bs', hl⟩ => ⟨_, b, bs', ha, hl, rfl⟩⟩

/-- What a traversal returns has the values that its function gives element by element. -/
theorem map_of_mapM_ok {γ : Type} {f : α → Except ε β} {g : β → γ} {g' : α → γ}
    (hf : ∀ a b, f a = .ok b → g b = g' a) {l : List α} {bs : List β} (h : l.mapM f = .ok bs) :
    bs.map g = l.map g' := by
  induction l generalizing bs with
  | nil =>
    cases h
    rfl
  | cons a l ih =>
    obtain ⟨b, bs', ha, hl, rfl⟩ := mapM_cons_eq_ok.mp h
    rw [List.map_cons, List.map_cons, hf a b ha, ih hl]

/-- A traversal returns what its function gives, element by element. -/
theorem mapM_eq_ok_iff_forall₂ {f : α → Except ε β} {l : List α} {bs : List β} :
    l.mapM f = .ok bs ↔ List.Forall₂ (fun a b => f a = .ok b) l bs := by
  induction l generalizing bs with
  | nil =>
    rw [List.forall₂_nil_left_iff]
    exact ⟨fun h => (Except.ok.inj h).symm, fun h => h ▸ rfl⟩
  | cons a l ih =>
    rw [mapM_cons_eq_ok, List.forall₂_cons_left_iff]
    simp only [ih]
    refine exists_congr fun b => exists_congr fun bs' => ?_
    rw [eq_comm (a := bs)]

/-- Every element of one list stands beside one of the other. -/
theorem exists_mem_zip_of_forall₂ {R : α → β → Prop} {l : List α} {bs : List β}
    (h : List.Forall₂ R l bs) {a : α} (ha : a ∈ l) : ∃ b, (a, b) ∈ l.zip bs ∧ R a b := by
  obtain ⟨hlen, hzip⟩ := List.forall₂_iff_zip.mp h
  obtain ⟨i, hi, rfl⟩ := List.getElem_of_mem ha
  have hi' : i < bs.length := hlen ▸ hi
  have hmem : (l[i], bs[i]) ∈ l.zip bs := by
    have hlt : i < (l.zip bs).length := by
      rw [List.length_zip]
      exact lt_min hi hi'
    rw [← List.getElem_zip (h := hlt)]
    exact List.getElem_mem hlt
  exact ⟨_, hmem, hzip hmem⟩

/-- What is asked of all elements of related lists. -/
theorem forall_mem_iff_of_forall₂ {R : α → β → Prop} {p : α → Prop} {q : β → Prop}
    (h_iff : ∀ a b, R a b → (p a ↔ q b)) {as : List α} {bs : List β} (h : List.Forall₂ R as bs) :
    (∀ a ∈ as, p a) ↔ ∀ b ∈ bs, q b := by
  induction h with
  | nil => exact iff_of_true nofun nofun
  | cons hab _ ih => rw [List.forall_mem_cons, List.forall_mem_cons, h_iff _ _ hab, ih]

/-- Lists that are related through a third one. -/
theorem forall₂_comp {γ : Type} {R : α → β → Prop} {S : β → γ → Prop} {T : α → γ → Prop}
    (h_comp : ∀ a b c, R a b → S b c → T a c) {as : List α} {bs : List β} {cs : List γ}
    (h : List.Forall₂ R as bs) (h' : List.Forall₂ S bs cs) : List.Forall₂ T as cs := by
  induction h generalizing cs with
  | nil =>
    cases h'
    exact .nil
  | cons hab _ ih =>
    cases h' with
    | cons hbc hrest => exact .cons (h_comp _ _ _ hab hbc) (ih hrest)

theorem exists_of_mapM_ok {f : α → Except ε β} {l : List α} {bs : List β}
    (h : l.mapM f = .ok bs) {a : α} (ha : a ∈ l) : ∃ b ∈ bs, f a = .ok b := by
  obtain ⟨b, hmem, hf⟩ := exists_mem_zip_of_forall₂ (mapM_eq_ok_iff_forall₂.mp h) ha
  exact ⟨b, (List.of_mem_zip hmem).2, hf⟩

/-- A traversal that raises does so at an element. -/
theorem mapM_eq_error {f : α → Except ε β} {l : List α} {e : ε} (h : l.mapM f = .error e) :
    ∃ a ∈ l, f a = .error e := by
  induction l with
  | nil => cases h
  | cons a l ih =>
    rw [List.mapM_cons] at h
    rcases except_bind_eq_error.mp h with ha | ⟨b, -, hrest⟩
    · exact ⟨a, List.mem_cons_self, ha⟩
    · rcases except_bind_eq_error.mp hrest with hl | ⟨bs, -, hpure⟩
      · obtain ⟨a', ha', hf⟩ := ih hl
        exact ⟨a', List.mem_cons_of_mem _ ha', hf⟩
      · cases hpure

/-- A traversal whose steps go on or not whatever the state returns exactly when every step
does. -/
theorem exists_run_mapM_eq_ok {f : α → EStateM ε σ β} {p : α → Prop} {l : List α}
    (h : ∀ a ∈ l, ∀ s, (∃ b s', (f a).run s = .ok b s') ↔ p a) (s : σ) :
    (∃ bs s', (l.mapM f).run s = .ok bs s') ↔ ∀ a ∈ l, p a := by
  induction l generalizing s with
  | nil => exact ⟨fun _ _ h => absurd h List.not_mem_nil, fun _ => ⟨[], s, rfl⟩⟩
  | cons a l ih =>
    obtain ⟨ha, hl⟩ := List.forall_mem_cons.mp h
    rw [List.forall_mem_cons, ← ha s, List.mapM_cons]
    simp only [bind_eq_ok]
    refine ⟨?_, ?_⟩
    · rintro ⟨_, s'', b, s₁, hfirst, bs, s₂, hrest, -⟩
      exact ⟨⟨b, s₁, hfirst⟩, (ih hl s₁).mp ⟨bs, s₂, hrest⟩⟩
    · rintro ⟨⟨b, s₁, hfirst⟩, hall⟩
      obtain ⟨bs, s₂, hrest⟩ := (ih hl s₁).mpr hall
      exact ⟨b :: bs, s₂, b, s₁, hfirst, bs, s₂, hrest, rfl⟩

/-- What every turn of a traversal keeps, the traversal keeps, whether it returns or raises. -/
theorem endState_mapM_preserves {f : α → EStateM ε σ β} {I : σ → Prop} {l : List α}
    (h : ∀ a ∈ l, ∀ s, I s → I (endState ((f a).run s))) {s : σ} (h_init : I s) :
    I (endState ((l.mapM f).run s)) := by
  induction l generalizing s with
  | nil => exact h_init
  | cons a l ih =>
    obtain ⟨ha, hl⟩ := List.forall_mem_cons.mp h
    have hfirst : I (endState ((f a).run s)) := ha s h_init
    rw [List.mapM_cons]
    rcases endState_bind_cases (f a) (fun b => do return b :: (← l.mapM f)) s with
      hraised | ⟨b, s', hrun, hrest⟩
    · -- the first call raised, and the rest is not reached
      rw [hraised]
      exact hfirst
    · rw [hrun, endState_ok] at hfirst
      have hend : endState ((do return b :: (← l.mapM f) : EStateM ε σ (List β)).run s') =
          endState ((l.mapM f).run s') :=
        frame_bind (fun s => s) (fun _ _ => rfl) s'
      rw [hrest, hend]
      exact ih hl hfirst

/-- **What the turns of a traversal establish** holds of all of them at the end, if every turn
keeps what those before it have established. -/
theorem forall₂_of_run_mapM {f : α → EStateM ε σ β} {Q : α → β → σ → Prop} {l : List α}
    (h_run : ∀ a ∈ l, ∀ s b s', (f a).run s = .ok b s' → Q a b s')
    (h_keep : l.Pairwise fun a a' => ∀ b s, Q a b s → Q a b (endState ((f a').run s)))
    {s s' : σ} {bs : List β} (h : (l.mapM f).run s = .ok bs s') :
    List.Forall₂ (fun a b => Q a b s') l bs := by
  induction l generalizing s bs with
  | nil =>
    cases h
    exact .nil
  | cons a l ih =>
    obtain ⟨ha, hl⟩ := List.forall_mem_cons.mp h_run
    obtain ⟨hkeep, hkeep'⟩ := List.pairwise_cons.mp h_keep
    rw [List.mapM_cons] at h
    obtain ⟨b, s₁, hrun, hrest⟩ := bind_eq_ok.mp h
    obtain ⟨bs', s₂, hmap, hpure⟩ := bind_eq_ok.mp hrest
    cases hpure
    -- the other turns keep what the first has established
    have hlater : Q a b (endState ((l.mapM f).run s₁)) :=
      endState_mapM_preserves (fun a' ha' s hs => hkeep a' ha' b s hs) (ha s b s₁ hrun)
    rw [hmap] at hlater
    exact .cons hlater (ih hl hkeep' hmap)

theorem exists_of_mem_mapM {f : α → Except ε β} {l : List α} {bs : List β}
    (h : l.mapM f = .ok bs) {b : β} (hb : b ∈ bs) : ∃ a ∈ l, f a = .ok b := by
  induction l generalizing bs with
  | nil =>
    cases h
    cases hb
  | cons a l ih =>
    obtain ⟨b', bs', ha, hl, rfl⟩ := mapM_cons_eq_ok.mp h
    rcases List.mem_cons.mp hb with rfl | hb
    · exact ⟨a, List.mem_cons_self, ha⟩
    · obtain ⟨a', ha', hf⟩ := ih hl hb
      exact ⟨a', List.mem_cons_of_mem _ ha', hf⟩

/-- The two halves of a list of alternatives have all of it between them. -/
theorem partition_perm {γ : Type} (f : α → γ) (g : β → γ) (vs : List (α ⊕ β)) :
    ((vs.filterMap Sum.getLeft?).map f ++ (vs.filterMap Sum.getRight?).map g).Perm
      (vs.map (Sum.elim f g)) := by
  induction vs with
  | nil => exact .refl _
  | cons v vs ih =>
    cases v with
    | inl a => exact ih.cons (f a)
    | inr b => exact List.perm_middle.trans (ih.cons (g b))

/-- And each half is in the order of the list. -/
theorem partition_sublist {γ : Type} (f : α → γ) (g : β → γ) (vs : List (α ⊕ β)) :
    ((vs.filterMap Sum.getRight?).map g).Sublist (vs.map (Sum.elim f g)) := by
  induction vs with
  | nil => exact .slnil
  | cons v vs ih =>
    cases v with
    | inl a => exact ih.cons (f a)
    | inr b => exact ih.cons_cons (g b)

/-! ### Handlers -/

/-- A handler sees the exception in the state it was raised in. -/
theorem run_tryCatch (x : EStateM ε σ α) (handle : ε → EStateM ε σ α) (s : σ) :
    (tryCatch x handle).run s =
      match x.run s with
      | .ok a s' => .ok a s'
      | .error e s' => (handle e).run s' := by
  change EStateM.tryCatch x handle s = _
  unfold EStateM.tryCatch EStateM.run
  cases x s <;> rfl

/-- A finaliser that never raises runs after either outcome and keeps it. -/
theorem run_tryFinally (x : EStateM ε σ α) {finalizer : EStateM ε σ β} {b : σ → β} {g : σ → σ}
    (h : ∀ s, finalizer.run s = .ok (b s) (g s)) (s : σ) :
    (tryFinally x finalizer).run s =
      match x.run s with
      | .ok a s' => .ok a (g s')
      | .error e s' => .error e (g s') := by
  unfold tryFinally
  rw [map_eq_pure_bind, EStateM.run_bind]
  have hfin : (tryFinally' x fun _ => finalizer).run s =
      match x.run s with
      | .ok a s' => .ok (a, b s') (g s')
      | .error e s' => .error e (g s') := by
    simp only [EStateM.run] at h ⊢
    simp only [tryFinally']
    cases x s <;> simp only [h]
  rw [hfin]
  cases x.run s <;> rfl

end Storefront
