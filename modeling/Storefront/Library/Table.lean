import Mathlib

/-!
# Keyed tables and insertion-ordered dictionaries

A `Table key` is a list of rows no two of which have the same `key`, in the order they
were inserted: a database table with a primary key. Uniqueness is a field, so every table
that can be written down has it, and the operations below keep it.

* `Table.find?` looks a row up by its key, `Table.insert?` adds a row and fails on a key
  already present, `Table.modify` rewrites the row of one key, `Table.filter` deletes rows;
* `Dict K V` is the table of pairs keyed by the first component, with `Dict.set` keeping
  the position of a key that is overwritten and appending a new one.
-/

namespace Storefront

variable {Row K V : Type}

/-- Rows with pairwise distinct keys, in insertion order. -/
structure Table (key : Row → K) where
  rows : List Row
  nodup : (rows.map key).Nodup

namespace Table

variable {key : Row → K}

@[ext] theorem ext {t t' : Table key} (h : t.rows = t'.rows) : t = t' := by
  cases t; cases t'; congr

/-- The table without rows. -/
def empty : Table key := ⟨[], List.nodup_nil⟩

/-- The keys in use, in insertion order. -/
def keys (t : Table key) : List K := t.rows.map key

theorem mem_keys {t : Table key} {k : K} : k ∈ t.keys ↔ ∃ r ∈ t.rows, key r = k :=
  List.mem_map

theorem mem_keys_of_mem {t : Table key} {r : Row} (h : r ∈ t.rows) : key r ∈ t.keys :=
  List.mem_map_of_mem h

/-- A key determines its row. -/
theorem eq_of_mem {t : Table key} {r r' : Row} (h : r ∈ t.rows) (h' : r' ∈ t.rows)
    (hk : key r = key r') : r = r' :=
  List.inj_on_of_nodup_map t.nodup h h' hk

/-- A row with a new key can stand behind the others. -/
theorem nodup_append_row {t : Table key} {r : Row} (h : key r ∉ t.keys) :
    ((t.rows ++ [r]).map key).Nodup := by
  rw [List.map_append, List.map_singleton]
  refine List.nodup_append.mpr ⟨t.nodup, List.nodup_singleton _, ?_⟩
  rintro a ha b hb rfl
  rw [List.mem_singleton] at hb
  exact h (hb ▸ ha)

/-- The rows `p` holds of. -/
def filter (t : Table key) (p : Row → Bool) : Table key where
  rows := t.rows.filter p
  nodup := t.nodup.sublist (List.filter_sublist.map key)

@[simp] theorem rows_filter (t : Table key) (p : Row → Bool) :
    (t.filter p).rows = t.rows.filter p := rfl

/-- A filter that only the key of one row passes. -/
theorem filter_key_eq {t : Table key} {r : Row} {p : Row → Bool} (h : r ∈ t.rows)
    (hp : ∀ r' ∈ t.rows, p r' = true ↔ key r' = key r) : t.rows.filter p = [r] := by
  have hperm : (t.rows.filter p).Perm [r] := by
    refine (List.perm_ext_iff_of_nodup (t.nodup.of_map.filter p) (List.nodup_singleton r)).mpr ?_
    intro r'
    rw [List.mem_filter, List.mem_singleton]
    refine ⟨?_, ?_⟩
    · rintro ⟨hr', hpr'⟩
      exact eq_of_mem hr' h ((hp r' hr').mp hpr')
    · rintro rfl
      exact ⟨h, (hp r' h).mpr rfl⟩
  exact List.perm_singleton.mp hperm

/-- What is in the table after an insertion was not there before. -/
theorem notMem_keys_of_append {t t' : Table key} {row : Row}
    {rows : List Row} (h : t'.rows = t.rows ++ rows) (h_row : row ∈ rows) : key row ∉ t.keys := by
  have hnodup := t'.nodup
  rw [h, List.map_append] at hnodup
  intro hmem
  exact (List.nodup_append.mp hnodup).2.2 _ hmem _ (List.mem_map_of_mem h_row) rfl

section Lookup

variable [DecidableEq K]

/-- The row with key `k`. -/
def find? (t : Table key) (k : K) : Option Row :=
  t.rows.find? fun r => key r = k

theorem find?_eq_some {t : Table key} {k : K} {r : Row} :
    t.find? k = some r ↔ r ∈ t.rows ∧ key r = k := by
  refine ⟨?_, ?_⟩
  · intro h
    exact ⟨List.mem_of_find?_eq_some h, by simpa using List.find?_some h⟩
  · rintro ⟨hr, rfl⟩
    cases hf : t.find? (key r) with
    | none =>
      have hne := List.find?_eq_none.mp hf r hr
      simp at hne
    | some r' =>
      have hr' : r' ∈ t.rows := List.mem_of_find?_eq_some hf
      have hk : key r' = key r := by simpa using List.find?_some hf
      rw [eq_of_mem hr' hr hk]

theorem find?_of_mem {t : Table key} {r : Row} (h : r ∈ t.rows) : t.find? (key r) = some r :=
  find?_eq_some.mpr ⟨h, rfl⟩

theorem find?_eq_none {t : Table key} {k : K} : t.find? k = none ↔ k ∉ t.keys := by
  refine ⟨?_, ?_⟩
  · intro h hk
    obtain ⟨r, hr, rfl⟩ := mem_keys.mp hk
    rw [find?_of_mem hr] at h
    cases h
  · intro h
    cases hf : t.find? k with
    | none => rfl
    | some r =>
      obtain ⟨hr, rfl⟩ := find?_eq_some.mp hf
      exact absurd (mem_keys_of_mem hr) h

/-- Where the rows were rewritten one by one without touching keys, a lookup finds the
rewritten row. -/
theorem find?_of_rows_map {t t' : Table key} {g : Row → Row} (h : t'.rows = t.rows.map g)
    (hg : ∀ r, key (g r) = key r) (k : K) : t'.find? k = (t.find? k).map g := by
  cases hfind : t.find? k with
  | none =>
    rw [Option.map_none, find?_eq_none, mem_keys]
    rintro ⟨r', hr', hk⟩
    rw [h] at hr'
    obtain ⟨r, hr, rfl⟩ := List.mem_map.mp hr'
    rw [hg] at hk
    exact find?_eq_none.mp hfind (mem_keys.mpr ⟨r, hr, hk⟩)
  | some r =>
    obtain ⟨hr, hk⟩ := find?_eq_some.mp hfind
    rw [Option.map_some, find?_eq_some, h]
    exact ⟨List.mem_map_of_mem hr, by rw [hg, hk]⟩

/-- Insertion; fails when the key is taken. -/
def insert? (t : Table key) (r : Row) : Option (Table key) :=
  if h : key r ∈ t.keys then none else some ⟨t.rows ++ [r], nodup_append_row h⟩

theorem insert?_eq_some {t t' : Table key} {r : Row} :
    t.insert? r = some t' ↔ key r ∉ t.keys ∧ t'.rows = t.rows ++ [r] := by
  unfold insert?
  split
  · next h => exact ⟨fun h' => (by cases h'), fun h' => absurd h h'.1⟩
  · next h =>
    rw [Option.some.injEq]
    exact ⟨fun h' => ⟨h, by rw [← h']⟩, fun h' => Table.ext h'.2.symm⟩

/-- A row with a new key can be inserted. -/
theorem exists_insert? {t : Table key} {r : Row} (h : key r ∉ t.keys) :
    ∃ t', t.insert? r = some t' ∧ t'.rows = t.rows ++ [r] := by
  unfold insert?
  rw [dif_neg h]
  exact ⟨_, rfl, rfl⟩

/-- Rewrite the row of key `k` by a function that keeps keys. -/
def modify (t : Table key) (k : K) (f : Row → Row) (hf : ∀ r, key (f r) = key r) :
    Table key where
  rows := t.rows.map fun r => if key r = k then f r else r
  nodup := by
    have h : (t.rows.map fun r => if key r = k then f r else r).map key = t.rows.map key := by
      rw [List.map_map]
      refine List.map_congr_left ?_
      intro r _
      simp only [Function.comp_apply]
      split
      · exact hf r
      · rfl
    rw [h]
    exact t.nodup

section Modify

variable (t : Table key) (k : K) (f : Row → Row) (hf : ∀ r, key (f r) = key r)

@[simp] theorem rows_modify :
    (t.modify k f hf).rows = t.rows.map fun r => if key r = k then f r else r := rfl

@[simp] theorem keys_modify : (t.modify k f hf).keys = t.keys := by
  unfold keys
  rw [rows_modify, List.map_map]
  refine List.map_congr_left ?_
  intro r _
  simp only [Function.comp_apply]
  split
  · exact hf r
  · rfl

/-- Rows of different keys are rewritten in any order. -/
theorem modify_comm {k k' : K} (hne : k ≠ k') {f g : Row → Row} (hf : ∀ r, key (f r) = key r)
    (hg : ∀ r, key (g r) = key r) :
    (t.modify k f hf).modify k' g hg = (t.modify k' g hg).modify k f hf := by
  refine Table.ext ?_
  rw [rows_modify, rows_modify, rows_modify, rows_modify, List.map_map, List.map_map]
  refine List.map_congr_left ?_
  intro r _
  simp only [Function.comp_apply]
  by_cases hk : key r = k
  · have hk' : key r ≠ k' := hk ▸ hne
    rw [if_pos hk, if_neg hk', if_pos hk, if_neg (hf r ▸ hk')]
  · rw [if_neg hk]
    by_cases hk' : key r = k'
    · rw [if_pos hk', if_neg (hg r ▸ hk)]
    · rw [if_neg hk', if_neg hk]

theorem mem_modify {r' : Row} :
    r' ∈ (t.modify k f hf).rows ↔
      ∃ r ∈ t.rows, r' = if key r = k then f r else r := by
  rw [rows_modify, List.mem_map]
  exact exists_congr fun r => and_congr_right fun _ => eq_comm

theorem find?_modify (k' : K) :
    (t.modify k f hf).find? k' =
      if k' = k then (t.find? k').map f else t.find? k' := by
  have hkey : ∀ r, key (if key r = k then f r else r) = key r := by
    intro r
    split
    · exact hf r
    · rfl
  rw [find?_of_rows_map (rows_modify t k f hf) hkey]
  cases hfind : t.find? k' with
  | none => simp
  | some r =>
    rw [← (find?_eq_some.mp hfind).2, Option.map_some]
    split <;> rfl

end Modify

end Lookup

end Table

/-! ### Dictionaries -/

/-- A dictionary in insertion order. -/
abbrev Dict (K V : Type) := Table (Prod.fst : K × V → K)

namespace Dict

variable [DecidableEq K]

/-- `d.get(k)`. -/
def get? (d : Dict K V) (k : K) : Option V := (d.find? k).map Prod.snd

/-- `d[k] = v`: a key already present keeps its position. -/
def set (d : Dict K V) (k : K) (v : V) : Dict K V :=
  (d.insert? (k, v)).getD (d.modify k (fun p => (p.1, v)) fun _ => rfl)

/-- `{k: v for k, v in l}`. -/
def ofList (l : List (K × V)) : Dict K V :=
  l.foldl (fun d p => set d p.1 p.2) Table.empty

/-- The values, in insertion order. -/
def values (d : Dict K V) : List V := d.rows.map Prod.snd

theorem get?_eq_some {d : Dict K V} {k : K} {v : V} : d.get? k = some v ↔ (k, v) ∈ d.rows := by
  unfold get?
  rw [Option.map_eq_some_iff]
  refine ⟨?_, ?_⟩
  · rintro ⟨p, hp, rfl⟩
    obtain ⟨hmem, rfl⟩ := Table.find?_eq_some.mp hp
    exact hmem
  · intro hmem
    exact ⟨(k, v), Table.find?_eq_some.mpr ⟨hmem, rfl⟩, rfl⟩

theorem get?_eq_none {d : Dict K V} {k : K} : d.get? k = none ↔ k ∉ d.keys := by
  unfold get?
  rw [Option.map_eq_none_iff, Table.find?_eq_none]

theorem get?_set (d : Dict K V) (k k' : K) (v : V) :
    (d.set k v).get? k' = if k' = k then some v else d.get? k' := by
  unfold set get?
  cases h : d.insert? (k, v) with
  | some d' =>
    -- a new key goes to the end
    obtain ⟨hk, hrows⟩ := Table.insert?_eq_some.mp h
    change (d'.find? k').map Prod.snd = _
    unfold Table.find?
    rw [hrows, List.find?_append]
    by_cases hkk : k' = k
    · subst hkk
      have hnone : d.rows.find? (fun p => p.1 = k') = none := Table.find?_eq_none.mpr hk
      rw [hnone]
      simp
    · simp [hkk, Ne.symm hkk]
  | none =>
    -- a key that is there keeps its place
    have hk : k ∈ d.keys := by
      by_contra hk
      unfold Table.insert? at h
      rw [dif_neg hk] at h
      cases h
    change ((d.modify k (fun p => (p.1, v)) fun _ => rfl).find? k').map Prod.snd = _
    rw [Table.find?_modify]
    split
    · next hkk =>
      subst hkk
      obtain ⟨p, hp, rfl⟩ := Table.mem_keys.mp hk
      rw [Table.find?_of_mem hp]
      rfl
    · rfl

@[simp] theorem get?_empty (k : K) : get? (Table.empty : Dict K V) k = none := rfl

theorem rows_set_of_notMem {d : Dict K V} {k : K} {v : V} (h : k ∉ d.keys) :
    (d.set k v).rows = d.rows ++ [(k, v)] := by
  unfold set
  cases hins : d.insert? (k, v) with
  | some d' => exact (Table.insert?_eq_some.mp hins).2
  | none =>
    unfold Table.insert? at hins
    rw [dif_neg h] at hins
    cases hins

/-- Setting what is there already changes nothing. -/
theorem set_of_mem {d : Dict K V} {k : K} {v : V} (h : (k, v) ∈ d.rows) : d.set k v = d := by
  have hins : d.insert? (k, v) = none := by
    unfold Table.insert?
    exact dif_pos (Table.mem_keys_of_mem h)
  unfold set
  rw [hins, Option.getD_none]
  refine Table.ext ?_
  rw [Table.rows_modify]
  refine (List.map_congr_left fun p hp => ?_).trans (List.map_id' _)
  split
  · next hk => exact (Table.eq_of_mem hp h hk).symm ▸ rfl
  · rfl

theorem keys_set_of_notMem {d : Dict K V} {k : K} {v : V} (h : k ∉ d.keys) :
    (d.set k v).keys = d.keys ++ [k] := by
  unfold Table.keys
  rw [rows_set_of_notMem h, List.map_append]
  rfl

/-- A dictionary built from pairs with distinct keys lists exactly these pairs. -/
theorem rows_ofList {l : List (K × V)} (h : (l.map Prod.fst).Nodup) : (ofList l).rows = l := by
  -- the pairs are added one by one to what is there
  suffices hgen : ∀ (l : List (K × V)) (d : Dict K V),
      ((d.rows ++ l).map Prod.fst).Nodup →
      (l.foldl (fun d p => set d p.1 p.2) d).rows = d.rows ++ l from hgen l Table.empty h
  intro l
  induction l with
  | nil => intro d _; simp
  | cons p l ih =>
    intro d hd
    have hp : p.1 ∉ d.keys := by
      rw [List.map_append, List.map_cons] at hd
      exact fun hmem => (List.nodup_append.mp hd).2.2 _ hmem _ List.mem_cons_self rfl
    have hrows := rows_set_of_notMem (v := p.2) hp
    rw [List.foldl_cons, ih _ (by rw [hrows]; simpa using hd), hrows]
    simp

theorem values_ofList {l : List (K × V)} (h : (l.map Prod.fst).Nodup) :
    (ofList l).values = l.map Prod.snd := by
  unfold values
  rw [rows_ofList h]

theorem keys_ofList {l : List (K × V)} (h : (l.map Prod.fst).Nodup) :
    (ofList l).keys = l.map Prod.fst := by
  unfold Table.keys
  rw [rows_ofList h]

theorem get?_ofList {l : List (K × V)} (h : (l.map Prod.fst).Nodup) {k : K} {v : V} :
    (ofList l).get? k = some v ↔ (k, v) ∈ l := by
  rw [get?_eq_some, rows_ofList h]

/-- The values under one key add up to the value there, or to zero. -/
theorem sum_filter_key [AddCommMonoid V] (d : Dict K V) (k : K) :
    ((d.rows.filter fun p => p.1 = k).map Prod.snd).sum = (d.get? k).getD 0 := by
  cases h : d.get? k with
  | none =>
    have hnil : (d.rows.filter fun p => p.1 = k) = [] := by
      refine List.filter_eq_nil_iff.mpr ?_
      intro p hp
      have hk : k ∉ d.keys := get?_eq_none.mp h
      simpa using fun heq : p.1 = k => hk (heq ▸ Table.mem_keys_of_mem hp)
    rw [hnil]
    rfl
  | some v =>
    -- keys are distinct, so there is one entry
    have hone : (d.rows.filter fun p => p.1 = k) = [(k, v)] :=
      Table.filter_key_eq (get?_eq_some.mp h) fun p _ => by simp
    rw [hone]
    simp

theorem get?_ofList_singleton (k : K) (v : V) : (ofList [(k, v)]).get? k = some v :=
  (get?_ofList (by simp)).mpr (List.mem_singleton.mpr rfl)

end Dict

end Storefront
