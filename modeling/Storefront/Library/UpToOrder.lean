import Storefront.Library.Effect

/-!
# Lists that are related up to order

A query without an `ORDER BY` returns its rows in some order, which another query, or the same one
later, need not keep. What two such results have in common is a relation of their elements, each
with one of the other list: `UpToOrder`. It composes (`UpToOrder.comp`), also with a traversal of
the second list (`UpToOrder.mapM`), and what is asked of all elements does not depend on the order
(`UpToOrder.forall_mem_iff`).
-/

namespace Storefront

variable {ε α β γ δ : Type}

/-- The lists are related element by element, up to the order of the second. -/
def UpToOrder (R : α → β → Prop) (as : List α) (bs : List β) : Prop :=
  ∃ bs', List.Forall₂ R as bs' ∧ bs'.Perm bs

namespace UpToOrder

variable {R : α → β → Prop} {S : β → γ → Prop} {T : α → γ → Prop} {as : List α} {bs : List β}
  {cs : List γ}

theorem of_forall₂ (h : List.Forall₂ R as bs) : UpToOrder R as bs := ⟨bs, h, .refl _⟩

theorem refl {R : α → α → Prop} (h_refl : ∀ a, R a a) (as : List α) : UpToOrder R as as :=
  .of_forall₂ (List.forall₂_same.mpr fun a _ => h_refl a)

theorem imp {R' : α → β → Prop} (h_imp : ∀ a b, R a b → R' a b) (h : UpToOrder R as bs) :
    UpToOrder R' as bs := by
  obtain ⟨ordered, hordered, hperm⟩ := h
  exact ⟨ordered, hordered.imp fun a b => h_imp a b, hperm⟩

/-- What is so of the elements of the first list is so beside those of the second. -/
theorem and_left {p : α → Prop} (h_all : ∀ a ∈ as, p a) (h : UpToOrder R as bs) :
    UpToOrder (fun a b => p a ∧ R a b) as bs := by
  obtain ⟨ordered, hordered, hperm⟩ := h
  exact ⟨ordered, (List.forall₂_and_left _ _).mpr ⟨h_all, hordered⟩, hperm⟩

/-- **Related lists are related through a third one.** -/
theorem comp (h_comp : ∀ a b c, R a b → S b c → T a c) (h : UpToOrder R as bs)
    (h' : UpToOrder S bs cs) : UpToOrder T as cs := by
  obtain ⟨bs', hbs, hperm⟩ := h
  obtain ⟨cs', hcs, hperm'⟩ := h'
  -- the second relation is read in the order of the first
  obtain ⟨ordered, hordered, hcs'⟩ := List.perm_comp_forall₂ hperm hcs
  exact ⟨ordered, forall₂_comp h_comp hbs hordered, hcs'.trans hperm'⟩

theorem trans {R : α → α → Prop} {as as' as'' : List α}
    (h_trans : ∀ {a b c}, R a b → R b c → R a c) (h : UpToOrder R as as')
    (h' : UpToOrder R as' as'') : UpToOrder R as as'' :=
  comp (R := R) (S := R) (fun _ _ _ => h_trans) h h'

theorem map_left_iff {f : δ → α} {ds : List δ} :
    UpToOrder R (ds.map f) bs ↔ UpToOrder (fun d b => R (f d) b) ds bs := by
  unfold UpToOrder
  simp only [List.forall₂_map_left_iff]

theorem map_right {f : β → γ} (h_map : ∀ a b, R a b → T a (f b)) (h : UpToOrder R as bs) :
    UpToOrder T as (bs.map f) := by
  obtain ⟨ordered, hordered, hperm⟩ := h
  refine ⟨ordered.map f, ?_, hperm.map f⟩
  rw [List.forall₂_map_right_iff]
  exact hordered.imp fun a b => h_map a b

theorem filter {p : α → Bool} {q : β → Bool} (h_iff : ∀ a b, R a b → (p a = true ↔ q b = true))
    (h : UpToOrder R as bs) : UpToOrder R (as.filter p) (bs.filter q) := by
  obtain ⟨ordered, hordered, hperm⟩ := h
  exact ⟨ordered.filter q, List.rel_filter (fun a b hab => h_iff a b hab) hordered,
    hperm.filter q⟩

/-- Every element of one list is related to one of the other. -/
theorem exists_mem (h : UpToOrder R as bs) {a : α} (h_mem : a ∈ as) : ∃ b ∈ bs, R a b := by
  obtain ⟨ordered, hordered, hperm⟩ := h
  obtain ⟨b, hzip, hab⟩ := exists_mem_zip_of_forall₂ hordered h_mem
  exact ⟨b, hperm.mem_iff.mp (List.of_mem_zip hzip).2, hab⟩

/-- What is asked of all elements of related lists. -/
theorem forall_mem_iff {p : α → Prop} {q : β → Prop} (h_iff : ∀ a b, R a b → (p a ↔ q b))
    (h : UpToOrder R as bs) : (∀ a ∈ as, p a) ↔ ∀ b ∈ bs, q b := by
  obtain ⟨ordered, hordered, hperm⟩ := h
  calc (∀ a ∈ as, p a)
      ↔ ∀ b ∈ ordered, q b := forall_mem_iff_of_forall₂ h_iff hordered
    _ ↔ ∀ b ∈ bs, q b := forall_congr' fun b => imp_congr_left hperm.mem_iff

/-- A traversal of the second list. -/
theorem mapM {f : β → Except ε γ} (h_comp : ∀ a b c, R a b → f b = .ok c → T a c)
    (h : UpToOrder R as bs) (h_map : bs.mapM f = .ok cs) : UpToOrder T as cs :=
  h.comp h_comp (.of_forall₂ (mapM_eq_ok_iff_forall₂.mp h_map))

end UpToOrder

end Storefront
