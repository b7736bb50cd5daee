import Mathlib

/-!
# Texts joined in the order of their keys

`joinByKey` sorts keyed texts by key and concatenates the texts. Where keys are distinct the
order in which the texts are given makes no difference (`joinByKey_perm`), and leaving texts
out changes nothing exactly when they are empty (`joinByKey_eq_filter_iff`): the length of the
whole is the sum of the lengths, so no text can make up for another.

Joined texts are cut again behind the last character of a kind (`append_inj_of_trailing`).
-/

namespace Storefront

variable {K : Type} [LinearOrder K]

/-- The order of keyed texts. -/
def KeyLE (p q : K × String) : Prop := p.1 ≤ q.1

instance : DecidableRel (KeyLE (K := K)) := fun p q => inferInstanceAs (Decidable (p.1 ≤ q.1))

instance : Std.Total (KeyLE (K := K)) := ⟨fun p q => le_total p.1 q.1⟩

instance : IsTrans (K × String) KeyLE := ⟨fun _ _ _ h h' => le_trans h h'⟩

/-- `''.join(text for _, text in sorted(members, key=lambda x: x[0]))` -/
def joinByKey (members : List (K × String)) : String :=
  String.join ((members.insertionSort KeyLE).map Prod.snd)

/-- Members in the order of their keys are joined as they stand. -/
theorem joinByKey_of_pairwise {l : List (K × String)} (h : l.Pairwise KeyLE) :
    joinByKey l = String.join (l.map Prod.snd) := by
  unfold joinByKey
  rw [h.insertionSort_eq]

/-- Sorted lists of the same members with distinct keys are the same. -/
theorem eq_of_perm_of_pairwise {l l' : List (K × String)} (h_nodup : (l.map Prod.fst).Nodup)
    (h : l.Perm l') (hl : l.Pairwise KeyLE) (hl' : l'.Pairwise KeyLE) : l = l' :=
  h.eq_of_pairwise (fun _ _ hp hq hle hle' =>
    List.inj_on_of_nodup_map h_nodup hp (h.mem_iff.mpr hq) (le_antisymm hle hle')) hl hl'

theorem nodup_keys_insertionSort {l : List (K × String)} (h : (l.map Prod.fst).Nodup) :
    ((l.insertionSort KeyLE).map Prod.fst).Nodup :=
  ((l.perm_insertionSort KeyLE).map Prod.fst).nodup_iff.mpr h

/-- **The order of the members makes no difference.** -/
theorem joinByKey_perm {l l' : List (K × String)} (h_nodup : (l.map Prod.fst).Nodup)
    (h : l.Perm l') : joinByKey l = joinByKey l' := by
  have hperm : (l.insertionSort KeyLE).Perm (l'.insertionSort KeyLE) :=
    calc (l.insertionSort KeyLE).Perm l := l.perm_insertionSort KeyLE
      List.Perm _ l' := h
      List.Perm _ (l'.insertionSort KeyLE) := (l'.perm_insertionSort KeyLE).symm
  unfold joinByKey
  rw [eq_of_perm_of_pairwise (nodup_keys_insertionSort h_nodup) hperm
    (l.pairwise_insertionSort KeyLE) (l'.pairwise_insertionSort KeyLE)]

/-- The length of the whole is the sum of the lengths. -/
theorem length_joinByKey (l : List (K × String)) :
    (joinByKey l).length = (l.map fun p => p.2.length).sum := by
  unfold joinByKey
  rw [String.length_join, List.map_map]
  exact ((l.perm_insertionSort KeyLE).map _).sum_eq

omit [LinearOrder K] in
/-- Empty texts can be left out. -/
theorem join_filter {l : List (K × String)} {keep : K × String → Bool}
    (h : ∀ p ∈ l, keep p = false → p.2 = "") :
    String.join ((l.filter keep).map Prod.snd) = String.join (l.map Prod.snd) := by
  rw [← String.toList_inj, String.toList_join, String.toList_join]
  induction l with
  | nil => rfl
  | cons p l ih =>
    have ih := ih fun q hq => h q (List.mem_cons_of_mem _ hq)
    cases hkeep : keep p with
    | true => rw [List.filter_cons_of_pos hkeep, List.map_cons, List.map_cons,
        List.flatMap_cons, List.flatMap_cons, ih]
    | false =>
      -- what is dropped has no text
      have hempty : p.2.toList = [] := by
        rw [h p List.mem_cons_self hkeep]
        rfl
      rw [List.filter_cons_of_neg (by simp [hkeep]), List.map_cons, List.flatMap_cons, hempty,
        List.nil_append, ih]

/-- **When members can be left out.** Those that `keep` drops make no difference exactly when
their texts are empty. -/
theorem joinByKey_eq_filter_iff {l : List (K × String)} (h_nodup : (l.map Prod.fst).Nodup)
    (keep : K × String → Bool) :
    joinByKey l = joinByKey (l.filter keep) ↔ ∀ p ∈ l, keep p = false → p.2 = "" := by
  refine ⟨?_, ?_⟩
  -- the texts left out have no length
  · intro heq p hp hdrop
    have hlen := congrArg String.length heq
    rw [length_joinByKey, length_joinByKey,
      ← ((List.filter_append_perm keep l).map fun p => p.2.length).sum_eq, List.map_append,
      List.sum_append] at hlen
    have hdropped : p ∈ l.filter fun q => !keep q := List.mem_filter.mpr ⟨hp, by simp [hdrop]⟩
    have hzero := List.single_le_sum (l := (l.filter fun q => !keep q).map fun p => p.2.length)
      (fun _ _ => Nat.zero_le _) _ (List.mem_map_of_mem hdropped)
    exact String.length_eq_zero_iff.mp (by omega)
  -- sorting and leaving out is leaving out and sorting
  · intro h
    have hsorted : (l.insertionSort KeyLE).filter keep = (l.filter keep).insertionSort KeyLE :=
      eq_of_perm_of_pairwise
        ((nodup_keys_insertionSort h_nodup).sublist (List.filter_sublist.map _))
        (((l.perm_insertionSort KeyLE).filter keep).trans
          ((l.filter keep).perm_insertionSort KeyLE).symm)
        ((l.pairwise_insertionSort KeyLE).filter keep) (List.pairwise_insertionSort KeyLE _)
    unfold joinByKey
    rw [← hsorted]
    exact (join_filter fun p hp => h p ((List.mem_insertionSort KeyLE).mp hp)).symm

/-! ### Cutting texts -/

section Trailing

variable {α : Type} {p : α → Bool}

theorem reverse_takeWhile_of_trailing {l d : List α} {a : α} (ha : p a = false)
    (hd : ∀ b ∈ d, p b = true) : (l ++ a :: d).reverse.takeWhile p = d.reverse := by
  rw [List.reverse_append, List.reverse_cons, List.append_assoc,
    List.takeWhile_append_of_pos fun b hb => hd b (List.mem_reverse.mp hb), List.singleton_append,
    List.takeWhile_cons_of_neg (by simp [ha]), List.append_nil]

/-- A text is cut in one way only behind its last character that fails `p`. -/
theorem append_inj_of_trailing {l l' d d' : List α} {a a' : α}
    (h : l ++ a :: d = l' ++ a' :: d') (ha : p a = false) (ha' : p a' = false)
    (hd : ∀ b ∈ d, p b = true) (hd' : ∀ b ∈ d', p b = true) :
    l ++ [a] = l' ++ [a'] ∧ d = d' := by
  have hsame : d = d' := by
    refine List.reverse_injective ?_
    rw [← reverse_takeWhile_of_trailing ha hd, h, reverse_takeWhile_of_trailing ha' hd']
  refine ⟨?_, hsame⟩
  rw [hsame, List.append_cons, List.append_cons l'] at h
  exact List.append_cancel_right h

/-- Where one fails there is a last one that fails. -/
theorem exists_trailing {l : List α} (h : ∃ a ∈ l, p a = false) :
    ∃ front a d, l = front ++ a :: d ∧ p a = false ∧ ∀ b ∈ d, p b = true := by
  induction l with
  | nil =>
    obtain ⟨a, ha, -⟩ := h
    cases ha
  | cons b l ih =>
    by_cases hl : ∃ a ∈ l, p a = false
    · obtain ⟨front, a, d, rfl, ha, hd⟩ := ih hl
      exact ⟨b :: front, a, d, rfl, ha, hd⟩
    · -- all that follow pass, so it is the first
      push Not at hl
      obtain ⟨a, hmem, ha⟩ := h
      obtain rfl | hmem := List.mem_cons.mp hmem
      · exact ⟨[], a, l, rfl, ha, fun c hc => Bool.eq_true_of_not_eq_false (hl c hc)⟩
      · exact absurd ha (hl a hmem)

/-- A field of characters that meet `p`, not empty, ends where one begins that has none; where the
text before it has one that does not meet `p`, its beginning is known as well. -/
theorem field_inj {l l' w k k' d d' : List α} (h : l ++ w ++ k ++ d = l' ++ w ++ k' ++ d')
    (hw : ∃ a ∈ w, p a = false) (hne : k ≠ []) (hne' : k' ≠ [])
    (hk : ∀ b ∈ k, p b = true) (hk' : ∀ b ∈ k', p b = true)
    (hd : ∀ b ∈ d, p b = false) (hd' : ∀ b ∈ d', p b = false) : k = k' ∧ d = d' := by
  -- the last character that meets `p`
  have hend : l ++ w ++ k = l' ++ w ++ k' ∧ d = d' := by
    rw [← List.dropLast_concat_getLast hne, ← List.dropLast_concat_getLast hne'] at h ⊢
    simp only [← List.append_assoc] at h ⊢
    rw [← List.append_cons, ← List.append_cons] at h
    exact append_inj_of_trailing (p := fun b => !p b) h
      (by simp [hk _ (List.getLast_mem hne)]) (by simp [hk' _ (List.getLast_mem hne')])
      (fun b hb => by simp [hd b hb]) (fun b hb => by simp [hd' b hb])
  refine ⟨?_, hend.2⟩
  -- and the last one before it that does not
  obtain ⟨front, a, rest, rfl, ha, hrest⟩ := exists_trailing hw
  have hcut : (l ++ front) ++ a :: (rest ++ k) = (l' ++ front) ++ a :: (rest ++ k') := by
    simpa only [List.append_assoc, List.cons_append] using hend.1
  have hpass : ∀ {k : List α}, (∀ b ∈ k, p b = true) → ∀ b ∈ rest ++ k, p b = true := by
    intro k hk b hb
    exact (List.mem_append.mp hb).elim (hrest b) (hk b)
  exact List.append_cancel_left
    (append_inj_of_trailing hcut ha ha (hpass hk) (hpass hk')).2

end Trailing

/-- The text of a number. -/
theorem isDigit_of_mem_toString {n : Int} (h : 0 ≤ n) {c : Char} (hc : c ∈ (toString n).toList) :
    c.isDigit := by
  obtain ⟨m, rfl⟩ := Int.eq_ofNat_of_zero_le h
  have hrepr : toString (m : Int) = Nat.repr m := rfl
  rw [hrepr, Nat.toList_repr] at hc
  exact Nat.isDigit_of_mem_toDigits (by decide) (by decide) hc

theorem toList_toString_ne_nil (n : Int) : (toString n).toList ≠ [] := by
  intro h
  have hempty : Int.repr n = "" := String.toList_eq_nil_iff.mp h
  cases n with
  | ofNat m => exact Nat.repr_ne_empty hempty
  | negSucc m =>
    have hlen := congrArg String.length hempty
    simp [Int.repr] at hlen

end Storefront
