import Mathlib.Data.List.Sort
import Storefront.Database.Listing
import Storefront.Library.Merge

/-!
# Products and filters

The tables of `database/models.py` that products are created in and shown from. A filter group
belongs to a category and a filter to a group; products are associated with filters, which they
share.

A product is stored by `Session.merge`, which follows the relationships that cascade it,
`ProductORM.filters` and `FilterORM.group`: each object is copied onto the stored row with its
primary key, in the order in which the objects are reached. `ProductTables.mergeProduct` is the
merge with the flush after it, and `mergeProduct_merged` its inversion.
-/

namespace Storefront

/-! ### Rows -/

structure FilterGroupRow where
  id : UUID
  productCategoryId : UUID
  title : String
  deriving DecidableEq, Repr

structure FilterRow where
  id : UUID
  filterGroupId : UUID
  value : String
  deriving DecidableEq, Repr

structure ProductFilterRow where
  filterId : UUID
  productId : UUID
  deriving DecidableEq, Repr

/-- A row of the table of products, with its attachments. -/
structure StoredProduct extends ProductORM where
  createdAt : Int
  updatedAt : Option Int
  description : Option String
  physicalProperties : Option PhysicalPropertiesDTO
  categoryId : UUID
  deriving DecidableEq

/-! ### Tables -/

/-- The filter groups, whose titles are unique. -/
structure FilterGroups where
  table : Table FilterGroupRow.id
  unique_title : (table.rows.map (·.title)).Nodup

/-- The tables, with their constraints. -/
structure ProductTables where
  categories : Table ProductCategoryORM.id
  groups : FilterGroups
  filters : Table FilterRow.id
  products : Table fun row : StoredProduct => row.id
  productFilters : List ProductFilterRow
  items : Table CatalogItemORM.id
  unique_link : (categories.rows.map (·.link)).Nodup
  category_fk : ∀ group ∈ groups.table.rows, group.productCategoryId ∈ categories.keys
  group_fk : ∀ filter ∈ filters.rows, filter.filterGroupId ∈ groups.table.keys
  product_category_fk : ∀ product ∈ products.rows, product.categoryId ∈ categories.keys
  filter_fk : ∀ row ∈ productFilters, row.filterId ∈ filters.keys
  product_fk : ∀ row ∈ productFilters, row.productId ∈ products.keys

/-! ### Objects -/

/-- A `FilterORM(…)` with its group, before it is merged. -/
structure FilterObject where
  id : UUID
  value : String
  filterGroupId : Option UUID
  group : FilterGroupRow
  deriving DecidableEq, Repr

/-- A `ProductORM(…)` with its filters, before it is merged. -/
structure ProductObject where
  product : StoredProduct
  filters : List FilterObject

/-- The row of a filter. A flush sets the column of a foreign key from the relationship, whatever
was given for the column. -/
def FilterObject.row (filter : FilterObject) : FilterRow where
  id := filter.id
  filterGroupId := filter.group.id
  value := filter.value

/-- The attributes that are given, on the stored row if there is one. -/
def StoredProduct.copiedOnto (product : StoredProduct) : Option StoredProduct → StoredProduct
  | some stored =>
    { product with attachments := stored.attachments, createdAt := stored.createdAt }
  | none => product

/-! ### The merge of a product -/

namespace FilterGroups

variable (groups : FilterGroups)

/-- An `UPDATE` or an `INSERT` of one group. -/
def write (row : FilterGroupRow) : Except PyExc FilterGroups :=
  if h : ∀ other ∈ groups.table.rows, other.title = row.title → other.id = row.id then
    .ok ⟨groups.table.merge row, Table.nodup_map_merge groups.unique_title h⟩
  else .error (.integrityError PyExc.uniqueViolation)

/-- What a flush sends for merged groups: the rows that have changed, by their primary keys, and
then the new ones as they were added. -/
def statements (merged : Table FilterGroupRow.id) : List FilterGroupRow :=
  (merged.rows.filter fun row => row.id ∈ groups.table.keys ∧ row ∉ groups.table.rows).insertionSort
      (fun row row' => row.id.bits ≤ row'.id.bits) ++
    merged.rows.filter fun row => row.id ∉ groups.table.keys

def flush (merged : Table FilterGroupRow.id) : Except PyExc FilterGroups :=
  (groups.statements merged).foldlM write groups

variable {groups}

/-- The rows that are sent are those that are not stored yet. -/
theorem mem_statements {merged : Table FilterGroupRow.id} {row : FilterGroupRow} :
    row ∈ groups.statements merged ↔ row ∈ merged.rows ∧ row ∉ groups.table.rows := by
  unfold statements
  rw [List.mem_append, List.mem_insertionSort, List.mem_filter, List.mem_filter,
    decide_eq_true_iff, decide_eq_true_iff, ← and_or_left]
  refine and_congr_right fun _ => ⟨?_, fun hnew => ?_⟩
  · rintro (⟨-, hnew⟩ | hkey)
    · exact hnew
    · exact fun hmem => hkey (Table.mem_keys_of_mem hmem)
  · by_cases hkey : row.id ∈ groups.table.keys
    · exact .inl ⟨hkey, hnew⟩
    · exact .inr hkey

/-- Statements that go through merge their rows. -/
theorem table_foldlM_write {rows : List FilterGroupRow} {groups' : FilterGroups}
    (h : rows.foldlM write groups = .ok groups') :
    groups'.table = groups.table.mergeAll rows := by
  induction rows generalizing groups with
  | nil =>
    cases h
    rfl
  | cons row rows ih =>
    have hstep : (write groups row >>= fun next => rows.foldlM write next) = .ok groups' := h
    obtain ⟨next, hwrite, hrest⟩ := except_bind_eq_ok.mp hstep
    -- a row that is written passed the unique titles; the table is merged as without them
    have hnext : next.table = groups.table.merge row := by
      unfold write at hwrite
      split at hwrite
      · cases hwrite
        rfl
      · cases hwrite
    rw [ih hrest, hnext]
    rfl

/-- **A flush that goes through stores what was merged.** -/
theorem find?_flush {rows : List FilterGroupRow} {groups' : FilterGroups}
    (h : groups.flush (groups.table.mergeAll rows) = .ok groups') (id : UUID) :
    groups'.table.find? id = (groups.table.mergeAll rows).find? id := by
  rw [table_foldlM_write h]
  exact Table.find?_mergeAll_of_differs (Table.keys_subset_mergeAll rows)
    (fun _ => mem_statements) id

end FilterGroups

/-- The associations of a product, when its collection is set to the filters with the ids. -/
def associate (rows : List ProductFilterRow) (productId : UUID) (filterIds : List UUID) :
    List ProductFilterRow :=
  rows.filter (fun row => row.productId ≠ productId ∨ row.filterId ∈ filterIds) ++
    (filterIds.filter fun id => ⟨id, productId⟩ ∉ rows).map fun id => ⟨id, productId⟩

/-- The associations of the other products are as they were. -/
theorem filter_associate {rows : List ProductFilterRow} {productId other : UUID}
    {filterIds : List UUID} (h : other ≠ productId) :
    (associate rows productId filterIds).filter (fun row => row.productId = other) =
      rows.filter fun row => row.productId = other := by
  unfold associate
  rw [List.filter_append, List.filter_filter]
  -- all new associations are of the one product
  have hnew : ((filterIds.filter fun id => ⟨id, productId⟩ ∉ rows).map
      fun id => (⟨id, productId⟩ : ProductFilterRow)).filter (fun row => row.productId = other) =
        [] := by
    refine List.filter_eq_nil_iff.mpr ?_
    intro row hrow heq
    obtain ⟨id, -, rfl⟩ := List.mem_map.mp hrow
    exact h (of_decide_eq_true heq).symm
  rw [hnew, List.append_nil]
  refine List.filter_congr ?_
  intro row _
  by_cases hother : row.productId = other
  · simp [hother, h]
  · simp [hother]

/-- `Session.merge` of a product, and the flush after it. -/
def ProductTables.mergeProduct (t : ProductTables) (object : ProductObject) :
    Except PyExc ProductTables := do
  let groups ← t.groups.flush (t.groups.table.mergeAll (object.filters.map (·.group)))
  let filters := t.filters.mergeAll (object.filters.map (·.row))
  let products :=
    t.products.merge (object.product.copiedOnto (t.products.find? object.product.id))
  let productFilters :=
    associate t.productFilters object.product.id (object.filters.map (·.id))
  if h : (∀ group ∈ groups.table.rows, group.productCategoryId ∈ t.categories.keys) ∧
      (∀ filter ∈ filters.rows, filter.filterGroupId ∈ groups.table.keys) ∧
      (∀ product ∈ products.rows, product.categoryId ∈ t.categories.keys) ∧
      (∀ row ∈ productFilters, row.filterId ∈ filters.keys) ∧
      ∀ row ∈ productFilters, row.productId ∈ products.keys then
    return {
      categories := t.categories
      groups
      filters
      products
      productFilters
      items := t.items
      unique_link := t.unique_link
      category_fk := h.1
      group_fk := h.2.1
      product_category_fk := h.2.2.1
      filter_fk := h.2.2.2.1
      product_fk := h.2.2.2.2 }
  else throw (.integrityError PyExc.foreignKeyViolation)

/-- The tables with a merged product. -/
structure ProductTables.Merged (t : ProductTables) (object : ProductObject) (t' : ProductTables) :
    Prop where
  categories : t'.categories = t.categories
  groups : ∀ id, t'.groups.table.find? id =
    (t.groups.table.mergeAll (object.filters.map (·.group))).find? id
  filters : t'.filters = t.filters.mergeAll (object.filters.map (·.row))
  products : t'.products =
    t.products.merge (object.product.copiedOnto (t.products.find? object.product.id))
  productFilters : t'.productFilters =
    associate t.productFilters object.product.id (object.filters.map (·.id))
  items : t'.items = t.items

/-- **Inversion of the merge of a product.** -/
theorem mergeProduct_merged {t t' : ProductTables} {object : ProductObject}
    (h : t.mergeProduct object = .ok t') : t.Merged object t' := by
  unfold ProductTables.mergeProduct at h
  obtain ⟨groups, hgroups, hrest⟩ := except_bind_eq_ok.mp h
  dsimp only at hrest
  split at hrest
  · cases hrest
    exact ⟨rfl, FilterGroups.find?_flush hgroups, rfl, rfl, rfl, rfl⟩
  · cases hrest

/-- The database of the application, with the products that are merged into it. -/
def productBackend : Backend ProductTables ProductObject PyExc where
  apply object t := t.mergeProduct object
  pendingRollback := .pendingRollbackError

end Storefront
