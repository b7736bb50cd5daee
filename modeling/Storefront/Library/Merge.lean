import Storefront.Library.Table

/-!
# Rows merged by their keys

A session that merges an object copies it onto the stored row with the same primary key, or adds
a row for it (`Table.merge`). Objects are merged one after the other (`Table.mergeAll`), so that
the last one with a key decides what is kept under it (`find?_mergeAll`): a stored row stays as
it is exactly when the last object with its key says the same (`find?_mergeAll_eq_iff`).

What is sent to the database are the rows that the merged table does not share with the stored
one. Sent in any order they lead to the merged table (`find?_mergeAll_of_differs`); another
column that is to be unique is checked with each of them (`nodup_map_merge`).
-/

namespace Storefront

namespace Table

variable {Row K : Type} {key : Row → K} [DecidableEq K]

/-- A row that takes the place of the one with its key keeps the keys. -/
theorem nodup_replace (t : Table key) (row : Row) :
    ((t.rows.map fun r => if key r = key row then row else r).map key).Nodup := by
  have hkeys : (t.rows.map fun r => if key r = key row then row else r).map key =
      t.rows.map key := by
    rw [List.map_map]
    refine List.map_congr_left ?_
    intro r _
    simp only [Function.comp_apply]
    split
    · next heq => exact heq.symm
    · rfl
  rw [hkeys]
  exact t.nodup

/-- The table with `row` under its key. -/
def merge (t : Table key) (row : Row) : Table key :=
  if h : key row ∈ t.keys then
    ⟨t.rows.map fun r => if key r = key row then row else r, nodup_replace t row⟩
  else ⟨t.rows ++ [row], nodup_append_row h⟩

/-- The rows merged one after the other. -/
def mergeAll (t : Table key) (rows : List Row) : Table key := rows.foldl merge t

variable {t : Table key}

theorem mem_merge {row r : Row} :
    r ∈ (t.merge row).rows ↔ r = row ∨ (r ∈ t.rows ∧ key r ≠ key row) := by
  unfold merge
  by_cases h : key row ∈ t.keys
  · rw [dif_pos h]
    refine ⟨?_, ?_⟩
    · intro hr
      obtain ⟨r', hr', rfl⟩ := List.mem_map.mp hr
      split
      · exact .inl rfl
      · next hne => exact .inr ⟨hr', hne⟩
    · rintro (rfl | ⟨hr, hne⟩)
      -- the row that was there gives way
      · obtain ⟨old, hold, heq⟩ := mem_keys.mp h
        exact List.mem_map.mpr ⟨old, hold, if_pos heq⟩
      · exact List.mem_map.mpr ⟨r, hr, if_neg hne⟩
  · rw [dif_neg h, List.mem_append, List.mem_singleton, or_comm]
    refine or_congr_right (iff_self_and.mpr fun hr heq => ?_)
    exact h (heq ▸ mem_keys_of_mem hr)

/-- A row with a new key is put behind the others. -/
theorem keys_merge_of_notMem {row : Row} (h : key row ∉ t.keys) :
    (t.merge row).keys = t.keys ++ [key row] := by
  unfold merge
  rw [dif_neg h]
  exact List.map_append

theorem find?_merge (row : Row) (k : K) :
    (t.merge row).find? k = if k = key row then some row else t.find? k := by
  by_cases hk : k = key row
  · rw [if_pos hk, find?_eq_some]
    exact ⟨mem_merge.mpr (.inl rfl), hk.symm⟩
  · rw [if_neg hk]
    ext r
    rw [find?_eq_some, find?_eq_some, mem_merge]
    refine ⟨?_, fun ⟨hr, heq⟩ => ⟨.inr ⟨hr, fun hrow => hk (heq.symm.trans hrow)⟩, heq⟩⟩
    rintro ⟨rfl | ⟨hr, -⟩, heq⟩
    · exact absurd heq.symm hk
    · exact ⟨hr, heq⟩

/-- **The last row with a key is kept**, or else the one that was there. -/
theorem find?_mergeAll (rows : List Row) (k : K) :
    (t.mergeAll rows).find? k = (rows.reverse.find? fun r => key r = k).or (t.find? k) := by
  induction rows generalizing t with
  | nil => rfl
  | cons row rows ih =>
    calc (t.mergeAll (row :: rows)).find? k
        = ((t.merge row).mergeAll rows).find? k := rfl
      _ = (rows.reverse.find? fun r => key r = k).or ((t.merge row).find? k) := ih
      _ = ((row :: rows).reverse.find? fun r => key r = k).or (t.find? k) := by
        rw [find?_merge, List.reverse_cons, List.find?_append, Option.or_assoc]
        by_cases hk : k = key row
        · simp [hk]
        · simp [hk, Ne.symm hk]

/-- **When a row stays as it is.** -/
theorem find?_mergeAll_eq_iff {rows : List Row} {row : Row} (h : row ∈ t.rows) :
    (t.mergeAll rows).find? (key row) = some row ↔
      ∀ last ∈ rows.reverse.find? fun r => key r = key row, last = row := by
  rw [find?_mergeAll, find?_of_mem h]
  cases rows.reverse.find? fun r => key r = key row with
  | none => exact iff_of_true rfl nofun
  | some last => simp

/-- The last element that passes, before and after a map. -/
theorem find?_reverse_map {α β : Type} {f : α → β} {p : β → Bool} {q : α → Bool}
    (h : ∀ a, p (f a) = q a) (l : List α) :
    (l.map f).reverse.find? p = (l.reverse.find? q).map f := by
  rw [← List.map_reverse, List.find?_map]
  exact congrArg (Option.map f) (congrArg (List.find? · _) (funext h))

/-- The last row of a list with the key of `row` is `row` if and only if what the last element
with the key says of it holds. -/
theorem last_kept_iff {α β : Type} {row : Row} {f : α → Row} {named : α → Bool} {said : α → β}
    {P : β → Prop} (h_named : ∀ a, key (f a) = key row ↔ named a = true)
    (h_row : ∀ a, named a = true → (f a = row ↔ P (said a))) (l : List α) :
    (∀ last ∈ (l.map f).reverse.find? fun r => key r = key row, last = row) ↔
      ∀ b ∈ (l.reverse.find? named).map said, P b := by
  have hkey : ∀ a, decide (key (f a) = key row) = named a := by
    intro a
    rw [Bool.eq_iff_iff, decide_eq_true_iff, h_named]
  rw [find?_reverse_map (p := fun r => decide (key r = key row)) hkey]
  cases hlast : l.reverse.find? named with
  | none => exact iff_of_true nofun nofun
  | some a =>
    simp only [Option.map_some, Option.mem_def, Option.some.injEq, forall_eq']
    exact h_row a (List.find?_some hlast)

/-- No key is lost. -/
theorem keys_subset_mergeAll (rows : List Row) : t.keys ⊆ (t.mergeAll rows).keys := by
  intro k hk
  by_contra hnot
  have hnone := find?_eq_none.mpr hnot
  rw [find?_mergeAll] at hnone
  exact find?_eq_none.mp (Option.or_eq_none_iff.mp hnone).2 hk

/-- **The rows in which two tables differ lead from one to the other**, in any order. -/
theorem find?_mergeAll_of_differs {t' : Table key} {rows : List Row} (h_keys : t.keys ⊆ t'.keys)
    (h_rows : ∀ r, r ∈ rows ↔ r ∈ t'.rows ∧ r ∉ t.rows) (k : K) :
    (t.mergeAll rows).find? k = t'.find? k := by
  rw [find?_mergeAll]
  cases hlast : rows.reverse.find? fun r => key r = k with
  | some last =>
    have hmem := ((h_rows last).mp (List.mem_reverse.mp (List.mem_of_find?_eq_some hlast))).1
    have hkey : key last = k := by simpa using List.find?_some hlast
    rw [Option.some_or, eq_comm, find?_eq_some]
    exact ⟨hmem, hkey⟩
  | none =>
    have hnone : ∀ r ∈ rows, key r ≠ k := fun r hr => by
      simpa using List.find?_eq_none.mp hlast r (List.mem_reverse.mpr hr)
    rw [Option.none_or]
    cases hnew : t'.find? k with
    -- what is in neither list of rows is in neither table
    | none => exact find?_eq_none.mpr fun hk => find?_eq_none.mp hnew (h_keys hk)
    | some row =>
      obtain ⟨hrow, hk⟩ := find?_eq_some.mp hnew
      have hold : row ∈ t.rows := by
        by_contra hnot
        exact hnone row ((h_rows row).mpr ⟨hrow, hnot⟩) hk
      exact find?_eq_some.mpr ⟨hold, hk⟩

/-- A column stays unique when no row of another key has the value. -/
theorem nodup_map_merge {β : Type} {f : Row → β} {row : Row} (h : (t.rows.map f).Nodup)
    (h_row : ∀ r ∈ t.rows, f r = f row → key r = key row) :
    ((t.merge row).rows.map f).Nodup := by
  refine List.Nodup.map_on (fun r hr r' hr' heq => ?_) (t.merge row).nodup.of_map
  rcases mem_merge.mp hr with rfl | ⟨hold, hne⟩
  · rcases mem_merge.mp hr' with rfl | ⟨hold', hne'⟩
    · rfl
    · exact absurd (h_row r' hold' heq.symm) hne'
  · rcases mem_merge.mp hr' with rfl | ⟨hold', -⟩
    · exact absurd (h_row r hold heq) hne
    · exact List.inj_on_of_nodup_map h hold hold' heq

end Table

end Storefront
