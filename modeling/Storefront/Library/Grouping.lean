import Storefront.Library.Table

/-!
# Groups in the order of their keys

A loop over a list that keeps a group for each key in an insertion-ordered dictionary, starts
one for a key it has not met and adds every element to the group of its key
(`Dict.groupBy`). It is a stable partition: the keys come in the order in which they occur
first (`pairwise_keys_groupBy`), and each group has been made of the elements with its key, in
their order (`get?_groupBy`), which together are all of them (`perm_flatMap_filter_key`). A
list that comes in blocks of one key each is taken apart again (`rows_groupBy_flatMap`).
-/

namespace Storefront

variable {α G K : Type} [DecidableEq K]

namespace Dict

theorem keys_set_of_mem {V : Type} {d : Dict K V} {k : K} {v : V} (h : k ∈ d.keys) :
    (d.set k v).keys = d.keys := by
  have hins : d.insert? (k, v) = none := by
    unfold Table.insert?
    exact dif_pos h
  unfold set
  rw [hins, Option.getD_none, Table.keys_modify]

/-- The groups of a list: `start` begins the group of a new key with its first element, which
`add` then adds like the later ones. -/
def groupBy (key : α → K) (start : α → G) (add : G → α → G) (l : List α) : Dict K G :=
  l.foldl (fun groups a =>
    groups.set (key a) (add ((groups.get? (key a)).getD (start a)) a)) Table.empty

section GroupBy

variable (key : α → K) (start : α → G) (add : G → α → G)

theorem groupBy_append_singleton (l : List α) (a : α) :
    groupBy key start add (l ++ [a]) =
      (groupBy key start add l).set (key a)
        (add (((groupBy key start add l).get? (key a)).getD (start a)) a) := by
  unfold groupBy
  rw [List.foldl_append]
  rfl

/-- There is a group for each key that occurs, and for no other. -/
theorem mem_keys_groupBy (l : List α) (k : K) :
    k ∈ (groupBy key start add l).keys ↔ k ∈ l.map key := by
  induction l using List.reverseRecOn with
  | nil => exact Iff.rfl
  | append_singleton l a ih =>
    rw [groupBy_append_singleton, List.map_append, List.map_singleton, List.mem_append,
      List.mem_singleton, ← ih]
    by_cases hmem : key a ∈ (groupBy key start add l).keys
    · rw [keys_set_of_mem hmem]
      refine ⟨.inl, ?_⟩
      rintro (hk | rfl)
      · exact hk
      · exact hmem
    · rw [keys_set_of_notMem hmem, List.mem_append, List.mem_singleton]

/-- **The group of a key** is made of the elements with it, in their order. -/
theorem get?_groupBy (l : List α) (k : K) :
    (groupBy key start add l).get? k =
      (l.find? fun a => key a = k).map fun first =>
        (l.filter fun a => key a = k).foldl add (start first) := by
  induction l using List.reverseRecOn with
  | nil => rfl
  | append_singleton l a ih =>
    rw [groupBy_append_singleton, get?_set, List.find?_append, List.filter_append]
    simp only [List.foldl_append]
    -- the last element falls in the group of its key and in no other
    by_cases hk : k = key a
    · subst hk
      rw [if_pos rfl, ih]
      have hone : ([a].filter fun b => key b = key a) = [a] := by simp
      rw [hone]
      cases hfind : l.find? fun b => key b = key a with
      | none =>
        -- the first with its key
        have hnil : (l.filter fun b => key b = key a) = [] :=
          List.filter_eq_nil_iff.mpr (List.find?_eq_none.mp hfind)
        rw [hnil]
        simp
      | some first => rfl
    · have hnone : ([a].filter fun b => key b = k) = [] := by simpa using Ne.symm hk
      have hfind : ([a].find? fun b => key b = k) = none := by simpa using Ne.symm hk
      rw [if_neg hk, ih, hnone, hfind, Option.or_none]
      rfl

/-- **The keys come in the order in which they occur first.** -/
theorem pairwise_keys_groupBy (l : List α) :
    (groupBy key start add l).keys.Pairwise fun k k' =>
      (l.map key).idxOf k < (l.map key).idxOf k' := by
  induction l using List.reverseRecOn with
  | nil => exact List.Pairwise.nil
  | append_singleton l a ih =>
    rw [groupBy_append_singleton, List.map_append, List.map_singleton]
    -- what occurs before has its first place there
    have hold : ∀ k ∈ (groupBy key start add l).keys,
        (l.map key ++ [key a]).idxOf k = (l.map key).idxOf k :=
      fun k hk => List.idxOf_append_of_mem ((mem_keys_groupBy key start add l k).mp hk)
    have hkeys : (groupBy key start add l).keys.Pairwise fun k k' =>
        (l.map key ++ [key a]).idxOf k < (l.map key ++ [key a]).idxOf k' := by
      refine ih.imp_of_mem fun {k k'} hk hk' hlt => ?_
      rw [hold k hk, hold k' hk']
      exact hlt
    by_cases hmem : key a ∈ (groupBy key start add l).keys
    · -- a key that is there keeps its place
      rw [keys_set_of_mem hmem]
      exact hkeys
    · -- a new key comes last, and first occurs at the end of the list
      rw [keys_set_of_notMem hmem]
      refine List.pairwise_append.mpr ⟨hkeys, List.pairwise_singleton _ _, ?_⟩
      intro k hk k' hk'
      obtain rfl := List.mem_singleton.mp hk'
      have hnew : key a ∉ l.map key := fun h => hmem ((mem_keys_groupBy key start add l _).mpr h)
      rw [hold k hk, List.idxOf_append_of_notMem hnew]
      have hlt : (l.map key).idxOf k < (l.map key).length :=
        List.idxOf_lt_length_iff.mpr ((mem_keys_groupBy key start add l k).mp hk)
      exact Nat.lt_add_right _ hlt

/-- Setting the last key of a dictionary rewrites its last row. -/
theorem rows_set_last {V : Type} {d : Dict K V} {init : List (K × V)} {k : K} {v v' : V}
    (h : d.rows = init ++ [(k, v)]) : (d.set k v').rows = init ++ [(k, v')] := by
  have hmem : (k, v) ∈ d.rows := h ▸ List.mem_append_right _ List.mem_cons_self
  have hins : d.insert? (k, v') = none := by
    unfold Table.insert?
    exact dif_pos (Table.mem_keys_of_mem hmem)
  -- the rows before the last have other keys
  have hother : ∀ p ∈ init, p.1 ≠ k := by
    have hnodup := d.nodup
    rw [h, List.map_append] at hnodup
    exact fun p hp => (List.nodup_append.mp hnodup).2.2 _ (List.mem_map_of_mem hp) _
      List.mem_cons_self
  unfold set
  rw [hins, Option.getD_none, Table.rows_modify, h, List.map_append]
  congr 1
  · refine (List.map_congr_left fun p hp => ?_).trans (List.map_id' _)
    rw [if_neg (hother p hp)]
  · rw [List.map_singleton, if_pos rfl]

/-- **A block of elements with one new key** adds one group, made of the block. -/
theorem rows_groupBy_append {l : List α} {first : α} {rest : List α} {k : K}
    (h_new : k ∉ l.map key) (h_key : ∀ a ∈ first :: rest, key a = k) :
    (groupBy key start add (l ++ first :: rest)).rows =
      (groupBy key start add l).rows ++ [(k, (first :: rest).foldl add (start first))] := by
  have hnew : k ∉ (groupBy key start add l).keys := fun hk =>
    h_new ((mem_keys_groupBy key start add l k).mp hk)
  induction rest using List.reverseRecOn with
  | nil =>
    have hfirst : key first = k := h_key first List.mem_cons_self
    rw [groupBy_append_singleton, hfirst, get?_eq_none.mpr hnew, rows_set_of_notMem hnew]
    rfl
  | append_singleton rest a ih =>
    have hrows := ih fun b hb => h_key b (by
      rw [← List.cons_append]
      exact List.mem_append_left _ hb)
    have ha : key a = k := h_key a (by simp)
    -- the group of the block so far is the last one
    have hget : (groupBy key start add (l ++ first :: rest)).get? k =
        some ((first :: rest).foldl add (start first)) :=
      get?_eq_some.mpr (hrows ▸ List.mem_append_right _ List.mem_cons_self)
    rw [← List.cons_append, ← List.append_assoc, groupBy_append_singleton, ha, hget,
      rows_set_last hrows, List.foldl_concat]
    rfl

/-- **Blocks with distinct keys**, some of them empty: one group for each that is not. -/
theorem rows_groupBy_flatMap {β : Type} {f : β → List α} {k : β → K} {blocks : List β}
    (h_key : ∀ b ∈ blocks, ∀ a ∈ f b, key a = k b)
    (h_distinct : (blocks.filter fun b => f b ≠ []).Pairwise fun b b' => k b ≠ k b') :
    (groupBy key start add (blocks.flatMap f)).rows =
      blocks.filterMap fun b =>
        (f b).head?.map fun first => (k b, (f b).foldl add (start first)) := by
  induction blocks using List.reverseRecOn with
  | nil => rfl
  | append_singleton blocks b ih =>
    rw [List.filter_append] at h_distinct
    obtain ⟨hbefore, -, hlast⟩ := List.pairwise_append.mp h_distinct
    have hrows := ih (fun b' hb' => h_key b' (List.mem_append_left _ hb')) hbefore
    rw [List.flatMap_append, List.filterMap_append, ← hrows, List.flatMap_singleton]
    -- an empty block has no key, so it makes no row
    cases hblock : f b with
    | nil => simp [hblock]
    | cons first rest =>
      have hb : ∀ a ∈ first :: rest, key a = k b := fun a ha =>
        h_key b (List.mem_append_right _ List.mem_cons_self) a (hblock ▸ ha)
      -- the key of the block occurs in none before it
      have hnew : k b ∉ (blocks.flatMap f).map key := by
        intro hmem
        obtain ⟨a, ha, hka⟩ := List.mem_map.mp hmem
        obtain ⟨b', hb', hab'⟩ := List.mem_flatMap.mp ha
        have hka' : key a = k b' := h_key b' (List.mem_append_left _ hb') a hab'
        refine hlast b' (List.mem_filter.mpr ⟨hb', ?_⟩) b ?_ (hka'.symm.trans hka)
        · exact decide_eq_true (List.ne_nil_of_mem hab')
        · simp [hblock]
      rw [rows_groupBy_append key start add hnew hb]
      simp [hblock]

end GroupBy

/-- The elements taken key by key are all of them. -/
theorem perm_flatMap_filter_key {key : α → K} {keys : List K} (h : keys.Nodup) {l : List α}
    (h_mem : ∀ a ∈ l, key a ∈ keys) :
    (keys.flatMap fun k => l.filter fun a => key a = k).Perm l := by
  induction keys generalizing l with
  | nil =>
    cases l with
    | nil => exact .refl _
    | cons a l => exact absurd (h_mem a List.mem_cons_self) List.not_mem_nil
  | cons k keys ih =>
    obtain ⟨hk, hkeys⟩ := List.nodup_cons.mp h
    -- those with the first key, and the rest
    have hrest : ∀ a ∈ l.filter (fun a => !decide (key a = k)), key a ∈ keys := by
      intro a ha
      obtain ⟨hmem, hne⟩ := List.mem_filter.mp ha
      refine (List.mem_cons.mp (h_mem a hmem)).resolve_left ?_
      simpa using hne
    -- the other keys find all of theirs in the rest
    have hsame : (keys.flatMap fun k' => l.filter fun a => key a = k') =
        keys.flatMap fun k' => (l.filter fun a => !decide (key a = k)).filter
          fun a => key a = k' := by
      refine List.flatMap_congr ?_
      intro k' hk'
      rw [List.filter_filter]
      refine List.filter_congr ?_
      intro a _
      by_cases hak : key a = k'
      · have hne : key a ≠ k := fun heq => hk (heq ▸ hak ▸ hk')
        simp [hak, hak ▸ hne]
      · simp [hak]
    rw [List.flatMap_cons, hsame]
    exact ((ih hkeys hrest).append_left _).trans (List.filter_append_perm _ l)

end Dict

end Storefront
