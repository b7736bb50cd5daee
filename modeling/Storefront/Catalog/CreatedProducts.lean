import Storefront.Catalog.FilterGroups
import Storefront.Catalog.ProductImages

/-!
# A created product is shown as it was entered

`create_product_entrypoint` stores the product of a form with its filters and its images, and
`CatalogService.get_product` shows it. In between stand a merge, the associations of products and
filters, which `prepare_filter_groups` turns into groups again, and the order of the relation
`ProductORM.attachments`. `get_product` shows no product with a physical property missing, and the
form lets none through.

* `loadFilters_created` — the filters of a new product are loaded as they were requested, each
  with its group;
* `attachmentsOf_created` — its images in the order they were sent in;
* `created_product_shown` — so it is shown as it was entered, without the groups that have no
  filter, or the form is refused.
-/

namespace Storefront

variable {Bytes Image : Type}

/-! ### What is read -/

namespace AdminTables

variable (t : AdminTables)

/-- `product.attachments`: those of the product, by their indices. All are of one type. -/
def attachmentsOf (productId : UUID) : List AttachmentORM :=
  ((t.attachments.filter fun row => row.productId = productId).insertionSort
    fun row row' => row.index ≤ row'.index).map fun row => ⟨row.type, row.url⟩

/-- A row of the table of products with the relation loaded. -/
def withAttachments (product : StoredProduct) : StoredProduct :=
  { product with attachments := t.attachmentsOf product.id }

/-- The tables, with the attachments of every product. -/
def loaded : ProductTables where
  categories := t.products.categories
  groups := t.products.groups
  filters := t.products.filters
  products := ⟨t.products.products.rows.map t.withAttachments, by
    rw [List.map_map]
    exact t.products.products.nodup⟩
  productFilters := t.products.productFilters
  items := t.products.items
  unique_link := t.products.unique_link
  category_fk := t.products.category_fk
  group_fk := t.products.group_fk
  product_category_fk := List.forall_mem_map.mpr t.products.product_category_fk
  filter_fk := t.products.filter_fk
  product_fk := by
    intro row hrow
    show row.productId ∈ (t.products.products.rows.map t.withAttachments).map _
    rw [List.map_map]
    exact t.products.product_fk row hrow

theorem loadFilters_loaded (productId : UUID) :
    t.loaded.loadFilters productId = t.products.loadFilters productId := rfl

theorem find?_loaded (productId : UUID) :
    t.loaded.products.find? productId =
      (t.products.products.find? productId).map t.withAttachments := by
  show (t.products.products.rows.map t.withAttachments).find? _ = _
  rw [List.find?_map]
  rfl

end AdminTables

/-! ### What was requested -/

/-- The id of the group of a request at a position, and of a filter in it. -/
def groupIdOf (drawn : ProductDraw) (group : FilterGroup × ℕ) : UUID :=
  group.1.id.getD (drawn.groupId group.2)

def filterIdOf (drawn : ProductDraw) (p : (FilterGroup × ℕ) × (FilterDTO × ℕ)) : UUID :=
  p.2.1.id.getD (drawn.filterId p.1.2 p.2.2)

/-- The groups that are requested, with the ids that are drawn for what has none. A group without
a filter is not stored. -/
def requestedGroups (drawn : ProductDraw) (productDto : CreateProductDTO) : List FilterGroup :=
  (productDto.filterGroups.zipIdx.filter fun group => group.1.filters ≠ []).map fun group =>
    { id := some (groupIdOf drawn group)
      title := group.1.title
      filters := group.1.filters.zipIdx.map fun filter =>
        ⟨some (filterIdOf drawn (group, filter)), filter.1.value⟩ }

/-- The request names no two groups and no two filters by one id. -/
structure DistinctIds (drawn : ProductDraw) (productDto : CreateProductDTO) : Prop where
  groups : ∀ p ∈ productDto.positions, ∀ p' ∈ productDto.positions,
    groupIdOf drawn p.1 = groupIdOf drawn p'.1 → p.1 = p'.1
  filters : (productDto.positions.map (filterIdOf drawn)).Nodup

/-- A filter as it is loaded. -/
def requestedFilter (drawn : ProductDraw) (p : (FilterGroup × ℕ) × (FilterDTO × ℕ)) : FilterORM :=
  ⟨filterIdOf drawn p, p.2.1.value, ⟨groupIdOf drawn p.1, p.1.1.title⟩⟩

section Filters

variable {drawn : ProductDraw} {productDto : CreateProductDTO} {category : ProductCategoryORM}
  {properties : PhysicalPropertiesDTO} {t t' : ProductTables}

/-- The last of the rows with the key of one of them is that row, when they have distinct keys. -/
theorem find?_reverse_of_nodup {Row K : Type} [DecidableEq K] {key : Row → K} {rows : List Row}
    (h : (rows.map key).Nodup) {row : Row} (h_row : row ∈ rows) :
    (rows.reverse.find? fun r => key r = key row) = some row := by
  have hnodup : (rows.reverse.map key).Nodup := by
    rw [List.map_reverse]
    exact List.nodup_reverse.mpr h
  exact Table.find?_of_mem (t := (⟨rows.reverse, hnodup⟩ : Table key))
    (List.mem_reverse.mpr h_row)

/-- A filter of the request is stored with its group. -/
theorem loadFilter_created (h_ids : DistinctIds drawn productDto)
    (h : t.Merged (productObject drawn productDto category properties) t')
    {p : (FilterGroup × ℕ) × (FilterDTO × ℕ)} (h_p : p ∈ productDto.positions) :
    t'.loadFilter (filterIdOf drawn p) = some (requestedFilter drawn p) := by
  have hrows : (productObject drawn productDto category properties).filters.map (·.row) =
      productDto.positions.map fun p => (dbFilter drawn category p).row := List.map_map
  have hgroups : (productObject drawn productDto category properties).filters.map (·.group) =
      productDto.positions.map fun p => dbFilterGroup drawn category p.1 := List.map_map
  have hfilter : t'.filters.find? (filterIdOf drawn p) =
      some ⟨filterIdOf drawn p, groupIdOf drawn p.1, p.2.1.value⟩ := by
    have hnodup : ((productDto.positions.map fun p =>
        (dbFilter drawn category p).row).map FilterRow.id).Nodup := by
      rw [List.map_map]
      exact h_ids.filters
    -- no other filter of the request has this id, so none overwrites it
    have hlast := find?_reverse_of_nodup hnodup (List.mem_map_of_mem h_p)
    rw [h.filters, hrows, Table.find?_mergeAll]
    exact congrArg (Option.or · _) hlast
  have hgroup : t'.groups.table.find? (groupIdOf drawn p.1) =
      some ⟨groupIdOf drawn p.1, category.id, p.1.1.title⟩ := by
    rw [h.groups, hgroups, Table.find?_mergeAll]
    -- every row of the request with this id is that of the group
    cases hlast : (productDto.positions.map fun p =>
        dbFilterGroup drawn category p.1).reverse.find? fun row =>
          row.id = groupIdOf drawn p.1 with
    | none =>
      have hnone := List.find?_eq_none.mp hlast (dbFilterGroup drawn category p.1)
        (List.mem_reverse.mpr (List.mem_map_of_mem h_p))
      exact absurd (decide_eq_true rfl) hnone
    | some row =>
      have hid : row.id = groupIdOf drawn p.1 := by simpa using List.find?_some hlast
      obtain ⟨p', hp', rfl⟩ :=
        List.mem_map.mp (List.mem_reverse.mp (List.mem_of_find?_eq_some hlast))
      have hsame : p'.1 = p.1 := h_ids.groups p' hp' p h_p hid
      rw [hsame]
      rfl
  unfold ProductTables.loadFilter
  rw [hfilter]
  show (t'.groups.table.find? (groupIdOf drawn p.1) >>= _) = _
  rw [hgroup]
  rfl

/-- Different elements are all kept. -/
theorem eraseDups_of_nodup {α : Type} [BEq α] [LawfulBEq α] {l : List α} (h : l.Nodup) :
    l.eraseDups = l := by
  induction l with
  | nil => rfl
  | cons a l ih =>
    obtain ⟨ha, hl⟩ := List.nodup_cons.mp h
    have hrest : l.filter (fun b => !b == a) = l := by
      refine List.filter_eq_self.mpr fun b hb => ?_
      have hne : b ≠ a := fun heq => ha (heq ▸ hb)
      simpa using hne
    rw [List.eraseDups_cons, hrest, ih hl]

/-- **The filters of a new product** are loaded as they were requested. -/
theorem loadFilters_created (h_new : drawn.productId ∉ t.products.keys)
    (h_ids : DistinctIds drawn productDto)
    (h : t.Merged (productObject drawn productDto category properties) t') :
    t'.loadFilters drawn.productId = productDto.positions.map (requestedFilter drawn) := by
  have hids : (productObject drawn productDto category properties).filters.map (·.id) =
      productDto.positions.map (filterIdOf drawn) := List.map_map
  -- nothing is associated with a new product
  have hnone : ∀ row ∈ t.productFilters, row.productId ≠ drawn.productId := fun row hrow heq =>
    h_new (heq ▸ t.product_fk row hrow)
  have hassociations : (t'.productFilters.filter fun row => row.productId = drawn.productId) =
      productDto.positions.map fun p => ⟨filterIdOf drawn p, drawn.productId⟩ := by
    rw [h.productFilters, hids]
    show (associate t.productFilters drawn.productId _).filter _ = _
    unfold associate
    -- so all of its associations are those of the request
    have hold : (t.productFilters.filter fun row => row.productId ≠ drawn.productId ∨
        row.filterId ∈ productDto.positions.map (filterIdOf drawn)).filter
          (fun row => row.productId = drawn.productId) = [] := by
      refine List.filter_eq_nil_iff.mpr fun row hrow => ?_
      simpa using hnone row (List.mem_filter.mp hrow).1
    have hall : (productDto.positions.map (filterIdOf drawn)).filter
        (fun id => ⟨id, drawn.productId⟩ ∉ t.productFilters) =
          productDto.positions.map (filterIdOf drawn) := by
      refine List.filter_eq_self.mpr fun id _ => ?_
      exact decide_eq_true fun hmem => hnone _ hmem rfl
    rw [List.filter_append, hold, hall, List.nil_append, List.map_map]
    refine List.filter_eq_self.mpr fun row hrow => ?_
    obtain ⟨p, -, rfl⟩ := List.mem_map.mp hrow
    exact decide_eq_true rfl
  have hdistinct : (productDto.positions.map fun p =>
      (⟨filterIdOf drawn p, drawn.productId⟩ : ProductFilterRow)).Nodup := by
    refine List.Nodup.of_map ProductFilterRow.filterId ?_
    rw [List.map_map]
    exact h_ids.filters
  unfold ProductTables.loadFilters
  rw [hassociations, eraseDups_of_nodup hdistinct, List.filterMap_map]
  calc productDto.positions.filterMap
        ((fun row : ProductFilterRow => t'.loadFilter row.filterId) ∘ fun p =>
          ⟨filterIdOf drawn p, drawn.productId⟩)
      = productDto.positions.filterMap (some ∘ requestedFilter drawn) :=
        List.filterMap_congr fun p hp => loadFilter_created h_ids h hp
    _ = productDto.positions.map (requestedFilter drawn) := congrFun List.filterMap_eq_map _

/-- Groups that have a filter have different titles in the tables. -/
theorem titles_of_merged (h_ids : DistinctIds drawn productDto)
    (h : t.Merged (productObject drawn productDto category properties) t')
    {p p' : (FilterGroup × ℕ) × (FilterDTO × ℕ)} (h_p : p ∈ productDto.positions)
    (h_p' : p' ∈ productDto.positions) (h_title : p.1.1.title = p'.1.1.title) : p.1 = p'.1 := by
  -- every group of the request ends up as a stored row with its title
  have hstored : ∀ p ∈ productDto.positions, ∃ row ∈ t'.groups.table.rows,
      row.id = groupIdOf drawn p.1 ∧ row.title = p.1.1.title := by
    intro p hp
    have hload := loadFilter_created h_ids h hp
    unfold ProductTables.loadFilter at hload
    obtain ⟨filter, hfilter, hrest⟩ := Option.bind_eq_some_iff.mp hload
    obtain ⟨group, hgroup, heq⟩ := Option.bind_eq_some_iff.mp hrest
    have hloaded := congrArg FilterORM.group (Option.some.inj heq)
    have hid : group.id = groupIdOf drawn p.1 := congrArg (·.id) hloaded
    have htitle : group.title = p.1.1.title := congrArg (·.title) hloaded
    exact ⟨group, (Table.find?_eq_some.mp hgroup).1, hid, htitle⟩
  obtain ⟨row, hrow, hid, htitle⟩ := hstored p h_p
  obtain ⟨row', hrow', hid', htitle'⟩ := hstored p' h_p'
  -- a title is unique among the stored groups
  have hsame : row = row' := List.inj_on_of_nodup_map t'.groups.unique_title hrow hrow'
    (htitle.trans (h_title.trans htitle'.symm))
  exact h_ids.groups p h_p p' h_p' (hid.symm.trans (hsame ▸ hid'))

/-- **Grouping takes the request apart as it was put together.** -/
theorem prepareFilterGroups_created (h_ids : DistinctIds drawn productDto)
    (h : t.Merged (productObject drawn productDto category properties) t') :
    prepareFilterGroups (productDto.positions.map (requestedFilter drawn)) =
      requestedGroups drawn productDto := by
  let block (group : FilterGroup × ℕ) : List FilterORM :=
    group.1.filters.zipIdx.map fun filter => requestedFilter drawn (group, filter)
  -- the filters are read group by group, each with the title of its group
  have hblocks : productDto.positions.map (requestedFilter drawn) =
      productDto.filterGroups.zipIdx.flatMap block := by
    unfold CreateProductDTO.positions
    rw [List.map_flatMap]
    refine List.flatMap_congr fun group _ => ?_
    rw [List.map_map]
    rfl
  have hempty : ∀ group, block group ≠ [] ↔ group.1.filters ≠ [] := by
    intro group
    refine not_congr ?_
    rw [List.map_eq_nil_iff, List.zipIdx_eq_nil_iff]
  have hkey : ∀ group ∈ productDto.filterGroups.zipIdx, ∀ filter ∈ block group,
      filter.group.title = group.1.title := by
    intro group _ filter hfilter
    obtain ⟨f, -, rfl⟩ := List.mem_map.mp hfilter
    rfl
  -- no two groups with a filter have one title
  have hdistinct : (productDto.filterGroups.zipIdx.filter fun group => block group ≠ []).Pairwise
      fun group group' => group.1.title ≠ group'.1.title := by
    have hnodup : productDto.filterGroups.zipIdx.Nodup :=
      List.Nodup.of_map Prod.snd (by
        rw [List.zipIdx_map_snd]
        exact List.nodup_range')
    refine (hnodup.filter _).imp_of_mem fun {group group'} hmem hmem' hne htitle => hne ?_
    -- a filter of a group stands for it: by its id two groups would be one
    have hfirst : ∀ group ∈ productDto.filterGroups.zipIdx.filter (fun g => block g ≠ []),
        ∃ filter, (group, filter) ∈ productDto.positions := by
      intro group hmem
      obtain ⟨hgroup, hblock⟩ := List.mem_filter.mp hmem
      obtain ⟨filter, hfilter⟩ := List.exists_mem_of_ne_nil _ (of_decide_eq_true hblock)
      obtain ⟨f, hf, -⟩ := List.mem_map.mp hfilter
      exact ⟨f, List.mem_flatMap.mpr ⟨group, hgroup, List.mem_map_of_mem hf⟩⟩
    obtain ⟨f, hf⟩ := hfirst group hmem
    obtain ⟨f', hf'⟩ := hfirst group' hmem'
    exact titles_of_merged h_ids h hf hf' htitle
  -- grouping by title gives the blocks back
  rw [prepareFilterGroups_eq, hblocks]
  unfold Dict.values filterGroupsDict
  rw [Dict.rows_groupBy_flatMap _ _ _ hkey hdistinct]
  unfold requestedGroups
  rw [List.map_filterMap, ← List.filterMap_eq_map, List.filterMap_filter]
  refine List.filterMap_congr fun group _ => ?_
  cases hb : block group with
  | nil =>
    have hnil : group.1.filters = [] := by
      by_contra hne
      exact (hempty group).mpr hne hb
    simp [hnil]
  | cons first rest =>
    have hne : group.1.filters ≠ [] := (hempty group).mp (by simp [hb])
    have hfirst : first ∈ block group := hb ▸ List.mem_cons_self
    obtain ⟨f, -, rfl⟩ := List.mem_map.mp hfirst
    rw [List.head?_cons, Option.map_some, Option.map_some, foldl_addFilter, ← hb]
    simp only [hne, ne_eq, not_false_eq_true, decide_true, if_true, List.nil_append]
    rw [List.map_map]
    rfl

end Filters

/-! ### The images -/

/-- The url that an image is shown by. -/
def imageUrl (publicUrl : String) (productId identifier : UUID) : String :=
  publicUrl ++ "/" ++ keyPrefix productId ++ "/" ++ identifier.str

section Images

variable {P : Pillow Bytes Image} {publicUrl : String} {productId : UUID}
  {uploadFile : Bytes → String → EStateM PyExc (Bucket Bytes) Unit}

/-- The attachment of an image at a position. -/
def imageAttachment (publicUrl : String) (productId : UUID) (image : (Bytes × UUID) × ℕ) :
    Attachment where
  productId := productId
  type := .image
  index := image.2
  url := imageUrl publicUrl productId image.1.2

/-- The attachments of images that were uploaded. -/
theorem attachments_of_run {images : List (Bytes × UUID)} {s s' : Bucket Bytes}
    {attachments : List Attachment}
    (h : (uploadProductImages P uploadFile publicUrl productId images).run s =
      .ok attachments s') :
    attachments = images.zipIdx.map (imageAttachment publicUrl productId) := by
  unfold uploadProductImages at h
  have hall : List.Forall₂ (fun image attachment =>
      imageAttachment publicUrl productId image = attachment) images.zipIdx attachments := by
    refine forall₂_of_run_mapM (Q := fun image attachment (_ : Bucket Bytes) =>
      imageAttachment publicUrl productId image = attachment) ?_ ?_ h
    · -- uploading may fail, but what it returns is fixed by the image and its place
      intro image _ s attachment s' hrun
      unfold uploadProductImage at hrun
      obtain ⟨files, s₁, -, hrest⟩ := bind_eq_ok.mp hrun
      obtain ⟨us, s₂, -, hpure⟩ := bind_eq_ok.mp hrest
      cases hpure
      rfl
    · exact List.pairwise_of_forall fun _ _ _ _ heq => heq
  have heq := List.forall₂_map_left_iff.mpr hall
  rw [List.forall₂_eq_eq_eq] at heq
  exact heq.symm

/-- **The images of a new product** are loaded in the order in which they were sent. -/
theorem attachmentsOf_created {t t' : AdminTables} {images : List (Bytes × UUID)}
    (h_new : productId ∉ t.products.products.keys)
    (h : t'.attachments = t.attachments ++
      (images.zipIdx.map (imageAttachment publicUrl productId)).map attachmentORM) :
    t'.attachmentsOf productId =
      images.map fun image => ⟨.image, imageUrl publicUrl productId image.2⟩ := by
  -- nothing is attached to a new product
  have hold : (t.attachments.filter fun row => row.productId = productId) = [] := by
    refine List.filter_eq_nil_iff.mpr fun row hrow heq => h_new ?_
    exact of_decide_eq_true heq ▸ t.product_fk row hrow
  have hrows : (t'.attachments.filter fun row => row.productId = productId) =
      images.zipIdx.map fun image => attachmentORM (imageAttachment publicUrl productId image) := by
    rw [h, List.filter_append, hold, List.nil_append, List.map_map]
    refine List.filter_eq_self.mpr fun row hrow => ?_
    obtain ⟨image, -, rfl⟩ := List.mem_map.mp hrow
    exact decide_eq_true rfl
  -- the indices are the positions
  have hsorted : (images.zipIdx.map fun image =>
      attachmentORM (imageAttachment publicUrl productId image)).Pairwise
        fun row row' => row.index ≤ row'.index := by
    refine List.pairwise_map.mpr ?_
    have hpositions : (images.zipIdx.map Prod.snd).Pairwise (· < ·) := by
      rw [List.zipIdx_map_snd]
      exact List.pairwise_lt_range'
    exact (List.pairwise_map.mp hpositions).imp le_of_lt
  unfold AdminTables.attachmentsOf
  rw [hrows, hsorted.insertionSort_eq, List.map_map]
  conv_rhs => rw [← List.zipIdx_map_fst 0 images, List.map_map]
  rfl

end Images

/-! ### The product -/

/-- A product is shown as it was entered. -/
structure ShownAsCreated (publicUrl : String) (drawn : ProductDraw)
    (product : CreateProductSchema Bytes) (category : ProductCategoryORM) (view : ProductDetailed) :
    Prop where
  id : view.id = drawn.productId
  title : view.title = product.title
  description : view.description = product.description
  category : view.category = categoryView category
  properties : view.physicalProperties = some product.physicalProperties
  filter_groups : view.filterGroups = requestedGroups drawn (createProductDTO product)
  images : view.images = product.images.map fun image =>
    imageUrl publicUrl drawn.productId image.2
  not_published : view.isPublished = false

/-- A product, as it was entered. -/
def enteredProduct (publicUrl : String) (drawn : ProductDraw) (product : CreateProductSchema Bytes)
    (category : ProductCategoryORM) : LoadedProduct where
  id := drawn.productId
  title := product.title
  attachments := product.images.map fun image =>
    ⟨.image, imageUrl publicUrl drawn.productId image.2⟩
  createdAt := drawn.now
  updatedAt := some drawn.now
  description := product.description
  physicalProperties := some product.physicalProperties.dump
  category
  filters := (createProductDTO product).positions.map (requestedFilter drawn)
  catalogItems := []

section Created

variable {P : Pillow Bytes Image} {publicUrl : String} {w : AdminWorld Bytes}
  {r : ProductRequest Bytes} {drawn : ProductDraw} {product : CreateProductSchema Bytes}
  {category : ProductCategoryORM}

/-- A product that is not stored yet is stored as it is given. -/
theorem copiedOnto_find?_of_notMem {t : ProductTables} {product : StoredProduct}
    (h : product.id ∉ t.products.keys) :
    product.copiedOnto (t.products.find? product.id) = product := by
  rw [Table.find?_eq_none.mpr h]
  rfl

/-- **A new product is loaded as it was entered.** -/
theorem loadProduct_created {t t' : AdminTables}
    (h_new : drawn.productId ∉ t.products.products.keys)
    (h_items : ∀ item ∈ t.products.items.rows, item.productId ∈ t.products.products.keys)
    (h_ids : DistinctIds drawn (createProductDTO product))
    (h_category : t.products.getCategoryByLink product.categoryLink = some category)
    (h_merged : t.products.Merged (storedObject drawn product category) t'.products)
    (h_attachments : t'.attachments = t.attachments ++ (product.images.zipIdx.map
      (imageAttachment publicUrl drawn.productId)).map attachmentORM) :
    t'.loaded.loadProduct drawn.productId =
      some (enteredProduct publicUrl drawn product category) := by
  -- a new row is merged into the table
  have hstored : t'.products.products.find? drawn.productId =
      some (storedObject drawn product category).product := by
    rw [h_merged.products, copiedOnto_find?_of_notMem h_new, Table.find?_merge]
    exact if_pos rfl
  have hrow : t'.withAttachments (storedObject drawn product category).product =
      { (storedObject drawn product category).product with
        attachments := product.images.map fun image =>
          ⟨.image, imageUrl publicUrl drawn.productId image.2⟩ } :=
    congrArg (fun attachments : List AttachmentORM =>
      { (storedObject drawn product category).product with attachments })
      (attachmentsOf_created h_new h_attachments)
  have hfind : t'.loaded.products.find? drawn.productId =
      some (t'.withAttachments (storedObject drawn product category).product) := by
    rw [t'.find?_loaded, hstored]
    rfl
  have hcategory : t'.loaded.categories.find? category.id = some category := by
    show t'.products.categories.find? category.id = some category
    rw [h_merged.categories]
    exact Table.find?_of_mem (List.mem_of_find?_eq_some h_category)
  -- an item is one of a product that is there, and this one was not
  have hitems : (t'.loaded.items.rows.filter fun item => item.productId = drawn.productId) =
      [] := by
    show (t'.products.items.rows.filter _) = []
    rw [h_merged.items]
    refine List.filter_eq_nil_iff.mpr fun item hitem heq => h_new ?_
    exact of_decide_eq_true heq ▸ h_items item hitem
  have hfilters : t'.loaded.loadFilters drawn.productId =
      (createProductDTO product).positions.map (requestedFilter drawn) :=
    (t'.loadFilters_loaded _).trans (loadFilters_created h_new h_ids h_merged)
  -- what is loaded is put together from these
  unfold ProductTables.loadProduct
  rw [hfind, hrow]
  show (t'.loaded.categories.find? category.id >>= fun category => some _) = _
  rw [hcategory]
  refine congrArg some ?_
  unfold enteredProduct
  rw [← hfilters, ← hitems]
  rfl

/-- What is shown of a product that is loaded as it was entered. -/
theorem shownAsCreated_of_view {view : ProductDetailed}
    (h_groups : prepareFilterGroups ((createProductDTO product).positions.map
      (requestedFilter drawn)) = requestedGroups drawn (createProductDTO product))
    (h : productDetailedView (enteredProduct publicUrl drawn product category) = .ok view) :
    ShownAsCreated publicUrl drawn product category view := by
  obtain ⟨shown, hshown, hview⟩ := except_bind_eq_ok.mp h
  cases hview
  obtain ⟨properties, hproperties, hproduct⟩ := except_bind_eq_ok.mp hshown
  cases hproduct
  -- all four properties are there
  have hentered : physicalPropertiesView (some product.physicalProperties.dump) =
      .ok product.physicalProperties := physicalPropertiesView_eq_ok.mpr rfl
  -- and the only attachments are the images
  have himages : getAttachmentUrlsByType (product.images.map fun image =>
      (⟨.image, imageUrl publicUrl drawn.productId image.2⟩ : AttachmentORM)) .image =
        product.images.map fun image => imageUrl publicUrl drawn.productId image.2 := by
    unfold getAttachmentUrlsByType
    have hall : ((product.images.map fun image =>
        (⟨.image, imageUrl publicUrl drawn.productId image.2⟩ : AttachmentORM)).filter
          fun att => att.type = .image) = product.images.map fun image =>
            ⟨.image, imageUrl publicUrl drawn.productId image.2⟩ := by
      refine List.filter_eq_self.mpr fun att hatt => ?_
      obtain ⟨image, -, rfl⟩ := List.mem_map.mp hatt
      rfl
    rw [hall, List.map_map]
    rfl
  exact {
    id := rfl
    title := rfl
    description := rfl
    category := rfl
    properties := congrArg some (Except.ok.inj (hproperties.symm.trans hentered))
    filter_groups := h_groups
    images := himages
    not_published := rfl }

/-- It is shown: nothing is missing of its properties. -/
theorem exists_view_entered :
    ∃ view, productDetailedView (enteredProduct publicUrl drawn product category) = .ok view := by
  have hentered : physicalPropertiesView (some product.physicalProperties.dump) =
      .ok product.physicalProperties := physicalPropertiesView_eq_ok.mpr rfl
  unfold productDetailedView productView
  show ∃ view, ((physicalPropertiesView (some product.physicalProperties.dump) >>= _) >>= _) = _
  rw [hentered]
  exact ⟨_, rfl⟩

/-- **A created product is shown as it was entered**, with all four of its physical properties, with
its groups and their filters in the order of the form, the groups without a filter left out, and
with its images in the order in which they were sent. A form without one of the properties is
refused, and changes nothing. -/
theorem created_product_shown (h_new : r.drawn.productId ∉ w.tables.products.products.keys)
    (h_items : ∀ item ∈ w.tables.products.items.rows,
      item.productId ∈ w.tables.products.products.keys)
    (h_ids : ∀ product, parceCreateProductForm r.form = .ok product →
      DistinctIds r.drawn (createProductDTO product)) :
    (∀ id c, serveProduct P publicUrl w r = .ok id c →
      ∃ product category, parceCreateProductForm r.form = .ok product ∧
        w.tables.products.getCategoryByLink product.categoryLink = some category ∧
        ∃ view, GetsProduct c.committed.loaded id view ∧
          ShownAsCreated publicUrl r.drawn product category view) ∧
    (¬ r.form.Complete → ∃ e c, serveProduct P publicUrl w r = .error e c ∧
      c.committed = w.tables ∧ c.env = w.bucket) := by
  refine ⟨fun id c h => ?_, serveProduct_incomplete⟩
  have hserved : ProductServed P publicUrl w r ⟨c.committed, c.env⟩ := by
    unfold ProductServed
    rw [h]
    rfl
  rcases productServed_cases hserved with
    ⟨⟨e, c', herror⟩, -⟩ | ⟨product, category, attachments, hform, hcategory, hupload, ⟨c', hok⟩,
      hmerged, hattachments⟩
  · -- the request was answered
    rw [h] at herror
    cases herror
  · obtain rfl : id = r.drawn.productId := (EStateM.Result.ok.inj (h.symm.trans hok)).1
    have hread : parceCreateProductForm r.form = .ok product :=
      parceCreateProductForm_eq_ok.mpr hform
    have himages : r.form.images = product.images := congrArg CreateProductForm.images hform
    -- the keys of the images are those that were drawn for them
    obtain rfl := attachments_of_run hupload
    rw [himages] at hattachments
    have hload := loadProduct_created h_new h_items (h_ids product hread) hcategory hmerged
      hattachments
    have hgroups := prepareFilterGroups_created (h_ids product hread) hmerged
    obtain ⟨view, hview⟩ := @exists_view_entered _ publicUrl r.drawn product category
    exact ⟨product, category, hread, hcategory, view,
      getsProduct_iff.mpr ⟨_, hload, hview⟩, shownAsCreated_of_view hgroups hview⟩

end Created

/-- A form of a product with all its properties, a stored filter, an empty group and two
images. -/
def pencilForm : CreateProductForm (ℕ × ℕ) :=
  { penForm with
    filterGroups := some [⟨none, "Empty", []⟩, ⟨some 5, "Colour", [⟨some 6, "red"⟩]⟩]
    images := [((30, 20), 12), ((40, 20), 11)] }

def pencilRequest : ProductRequest (ℕ × ℕ) := { penImageRequest with form := pencilForm }

/-- The product of the form. -/
def pencil : CreateProductSchema (ℕ × ℕ) where
  title := "Pencil"
  description := none
  categoryLink := "pens"
  physicalProperties := ⟨3, 2, 1, 4⟩
  filterGroups := [⟨none, "Empty", []⟩, ⟨some 5, "Colour", [⟨some 6, "red"⟩]⟩]
  images := [((30, 20), 12), ((40, 20), 11)]

theorem distinctIds_pencil {product : CreateProductSchema (ℕ × ℕ)}
    (h : parceCreateProductForm pencilForm = .ok product) :
    DistinctIds penDraw (createProductDTO product) := by
  obtain rfl : pencil = product := Except.ok.inj h
  exact ⟨by decide, by decide⟩

/-- A pencil without its weight. -/
def weightlessRequest : ProductRequest (ℕ × ℕ) :=
  { penImageRequest with
    form := { pencilForm with physicalProperties := some ⟨some 1, some 2, some 3, none⟩ } }

/-- The pencil is shown, without the empty group. Without its weight it is refused. -/
theorem created_product_shown_pencil :
    (∃ c view, serveProduct samplePillow "url" penWorld pencilRequest = .ok 8 c ∧
      GetsProduct c.committed.loaded 8 view ∧
      view.filterGroups = [⟨some 5, "Colour", [⟨some 6, "red"⟩]⟩] ∧
      view.images = [imageUrl "url" 8 12, imageUrl "url" 8 11]) ∧
    ∃ e c, serveProduct samplePillow "url" penWorld weightlessRequest = .error e c ∧
      c.committed = penWorld.tables ∧ c.env = penWorld.bucket := by
  refine ⟨?_, ?_⟩
  · have hserved : ∃ c, serveProduct samplePillow "url" penWorld pencilRequest = .ok 8 c :=
      ⟨_, rfl⟩
    obtain ⟨c, hc⟩ := hserved
    obtain ⟨product, category, hread, -, view, hview, hshown⟩ := (created_product_shown
      (by decide) (by decide) fun product => distinctIds_pencil).1 8 c hc
    obtain rfl : pencil = product := Except.ok.inj hread
    exact ⟨c, view, hc, hview, hshown.filter_groups, hshown.images⟩
  · -- nothing is read of a form without a weight
    refine (created_product_shown (by decide) (by decide) ?_).2 ?_
    · rintro product hread
      cases hread
    · rintro ⟨⟨dto, hdto, hcomplete⟩, -⟩
      obtain rfl := Option.some.inj hdto
      exact Bool.false_ne_true hcomplete.weight

end Storefront
