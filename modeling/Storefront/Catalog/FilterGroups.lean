import Storefront.Catalog.Publications
import Storefront.Library.Grouping

/-!
# Filter groups

`prepare_filter_groups` (`services/catalog/utils.py`), which every view of a product rests on:
its loop is `Dict.groupBy`, by the titles of the groups.

* `prepareFilterGroups_grouped` — the groups are a stable partition of the filters.
-/

namespace Storefront

/-- `FilterDTO(id=filter.id, value=filter.value)` -/
def filterView (filter : FilterORM) : FilterDTO := ⟨some filter.id, filter.value⟩

/-- The filters whose group has the title, in the order of the list. -/
def withTitle (filters : List FilterORM) (title : String) : List FilterORM :=
  filters.filter fun filter => filter.group.title = title

/-- A stable partition of filters by the titles of their groups. -/
structure Grouped (filters : List FilterORM) (groups : List FilterGroup) : Prop where
  titles_distinct : (groups.map (·.title)).Nodup
  titles : ∀ title, title ∈ groups.map (·.title) ↔ title ∈ filters.map (·.group.title)
  titles_order : (groups.map (·.title)).Pairwise fun title title' =>
    (filters.map (·.group.title)).idxOf title < (filters.map (·.group.title)).idxOf title'
  group : ∀ group ∈ groups, ∃ first rest, withTitle filters group.title = first :: rest ∧
    group.id = some first.group.id ∧ group.filters = (first :: rest).map filterView
  all : (groups.flatMap (·.filters)).Perm (filters.map filterView)

section Grouped

variable (filters : List FilterORM)

/-- A group as it is begun, with the filters that are added to it. -/
theorem foldl_addFilter (group : FilterGroup) :
    filters.foldl (fun group filter =>
        { group with filters := group.filters ++ [filterView filter] }) group =
      { group with filters := group.filters ++ filters.map filterView } := by
  induction filters generalizing group with
  | nil => rw [List.foldl_nil, List.map_nil, List.append_nil]
  | cons filter filters ih =>
    rw [List.foldl_cons, ih, List.map_cons, List.append_assoc]
    rfl

/-- The dictionary that the loop builds. -/
def filterGroupsDict : Dict String FilterGroup :=
  Dict.groupBy (fun filter : FilterORM => filter.group.title)
    (fun filter => { id := some filter.group.id, title := filter.group.title, filters := [] })
    (fun group filter => { group with filters := group.filters ++ [filterView filter] }) filters

theorem prepareFilterGroups_eq :
    prepareFilterGroups filters = (filterGroupsDict filters).values := rfl

/-- What is kept under a title. -/
theorem exists_of_mem_filterGroupsDict {p : String × FilterGroup}
    (h : p ∈ (filterGroupsDict filters).rows) :
    ∃ first rest, withTitle filters p.1 = first :: rest ∧
      p.2 = ⟨some first.group.id, p.1, (first :: rest).map filterView⟩ := by
  have hget : (filterGroupsDict filters).get? p.1 = some p.2 := Dict.get?_eq_some.mpr h
  unfold filterGroupsDict at hget
  rw [Dict.get?_groupBy] at hget
  obtain ⟨first, hfirst, hgroup⟩ := Option.map_eq_some_iff.mp hget
  have htitle : first.group.title = p.1 := by simpa using List.find?_some hfirst
  -- the first filter with the title begins those with it
  have hhead : (withTitle filters p.1).head? = some first := by
    unfold withTitle
    rw [List.head?_filter]
    exact hfirst
  obtain ⟨rest, hrest⟩ := List.head?_eq_some_iff.mp hhead
  refine ⟨first, rest, hrest, ?_⟩
  rw [foldl_addFilter, htitle] at hgroup
  rw [← hgroup, ← hrest]
  rfl

/-- The titles of the groups are the keys of the dictionary. -/
theorem title_prepareFilterGroups :
    (prepareFilterGroups filters).map (·.title) = (filterGroupsDict filters).keys := by
  rw [prepareFilterGroups_eq]
  unfold Dict.values Table.keys
  rw [List.map_map]
  refine List.map_congr_left ?_
  intro p hp
  obtain ⟨first, rest, -, hgroup⟩ := exists_of_mem_filterGroupsDict filters hp
  exact congrArg FilterGroup.title hgroup

/-- **Grouping filters loses nothing.** -/
theorem prepareFilterGroups_grouped : Grouped filters (prepareFilterGroups filters) where
  titles_distinct := by
    rw [title_prepareFilterGroups]
    exact (filterGroupsDict filters).nodup
  titles title := by
    rw [title_prepareFilterGroups]
    exact Dict.mem_keys_groupBy _ _ _ filters title
  titles_order := by
    rw [title_prepareFilterGroups]
    exact Dict.pairwise_keys_groupBy _ _ _ filters
  group group hgroup := by
    rw [prepareFilterGroups_eq] at hgroup
    obtain ⟨p, hp, rfl⟩ := List.mem_map.mp hgroup
    obtain ⟨first, rest, hrest, heq⟩ := exists_of_mem_filterGroupsDict filters hp
    rw [heq]
    exact ⟨first, rest, hrest, rfl, rfl⟩
  all := by
    -- group by group, the filters are those with its title
    have hgroups : (prepareFilterGroups filters).flatMap (·.filters) =
        ((filterGroupsDict filters).keys.flatMap (withTitle filters)).map filterView := by
      rw [prepareFilterGroups_eq, List.map_flatMap]
      unfold Dict.values Table.keys
      rw [List.flatMap_map, List.flatMap_map]
      refine List.flatMap_congr ?_
      intro p hp
      obtain ⟨first, rest, hrest, heq⟩ := exists_of_mem_filterGroupsDict filters hp
      rw [heq, hrest]
    rw [hgroups]
    refine List.Perm.map _ (Dict.perm_flatMap_filter_key (filterGroupsDict filters).nodup ?_)
    intro filter hfilter
    refine (Dict.mem_keys_groupBy _ _ _ filters _).mpr ?_
    exact List.mem_map_of_mem hfilter

end Grouped

/-- Two groups that are interleaved. -/
example : prepareFilterGroups [⟨1, "a", ⟨7, "x"⟩⟩, ⟨2, "b", ⟨8, "y"⟩⟩, ⟨3, "c", ⟨7, "x"⟩⟩] =
    [⟨some 7, "x", [⟨some 1, "a"⟩, ⟨some 3, "c"⟩]⟩, ⟨some 8, "y", [⟨some 2, "b"⟩]⟩] := by
  decide

end Storefront
