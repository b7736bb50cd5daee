import Storefront.Catalog.Publications
import Storefront.Database.Products

/-!
# Creating products

`CatalogService.create_product` and `CatalogService.get_product`
(`services/catalog/service.py`). The filters of a new product, and their groups, may be stored
ones: the request names them by their ids, and merging the product copies onto them whatever
else the request says.

* `getsProduct_of_merged` — a product is shown from its own associations, and the rows of its
  filters and of their groups;
* `keepsProducts_iff` — a call that goes through leaves the stored groups and filters, and what
  is shown of the other products, as they were exactly when all that the request says last of a
  stored group or filter is what is stored of it (`EditsNothing`).
-/

namespace Storefront

variable {σ : Type}

/-! ### The models of `services/catalog/models.py` -/

structure CreateProductDTO where
  title : String
  categoryLink : String
  description : Option String := none
  physicalProperties : Option PhysicalPropertiesDTO := none
  filterGroups : List FilterGroup := []
  deriving DecidableEq

structure ProductDetailed extends Product where
  isPublished : Bool
  deriving DecidableEq

/-! ### `create_product` -/

/-- The ids that are drawn for the objects, by their positions, and the time. -/
structure ProductDraw where
  productId : UUID
  groupId : Nat → UUID
  filterId : Nat → Nat → UUID
  now : Int

/-- `CatalogRepository.get_category_by_link` -/
def ProductTables.getCategoryByLink (t : ProductTables) (link : String) :
    Option ProductCategoryORM :=
  t.categories.rows.find? fun category => category.link = link

/-- `FilterGroupORM(…)` of the group of a request at a position. -/
def dbFilterGroup (drawn : ProductDraw) (category : ProductCategoryORM)
    (dtoFilterGroup : FilterGroup × Nat) : FilterGroupRow where
  id := dtoFilterGroup.1.id.getD (drawn.groupId dtoFilterGroup.2)
  productCategoryId := category.id
  title := dtoFilterGroup.1.title

/-- `FilterORM(…)` of a filter of a request, with the group it is in. -/
def dbFilter (drawn : ProductDraw) (category : ProductCategoryORM)
    (p : (FilterGroup × Nat) × (FilterDTO × Nat)) : FilterObject where
  id := p.2.1.id.getD (drawn.filterId p.1.2 p.2.2)
  value := p.2.1.value
  filterGroupId := p.1.1.id
  group := dbFilterGroup drawn category p.1

/-- The filters of a request with their groups, by their positions. -/
def CreateProductDTO.positions (productDto : CreateProductDTO) :
    List ((FilterGroup × Nat) × (FilterDTO × Nat)) :=
  productDto.filterGroups.zipIdx.flatMap fun dtoFilterGroup =>
    dtoFilterGroup.1.filters.zipIdx.map fun filter => (dtoFilterGroup, filter)

/-- `ProductORM(…)` of a request. -/
def productObject (drawn : ProductDraw) (productDto : CreateProductDTO)
    (category : ProductCategoryORM) (physicalProperties : PhysicalPropertiesDTO) :
    ProductObject where
  product :=
    { id := drawn.productId
      title := productDto.title
      attachments := []
      createdAt := drawn.now
      updatedAt := some drawn.now
      description := productDto.description
      physicalProperties := some physicalProperties
      categoryId := category.id }
  filters := productDto.positions.map (dbFilter drawn category)

/-- `CatalogService.create_product` -/
def createProduct (drawn : ProductDraw) (productDto : CreateProductDTO) :
    EStateM PyExc (Ctx ProductTables ProductObject σ) UUID := do
  let category ← Session.query productBackend (·.getCategoryByLink productDto.categoryLink)
  let category ← liftExcept (attributeOf category)
  let physicalProperties ← liftExcept (attributeOf productDto.physicalProperties)
  Session.add (productObject drawn productDto category physicalProperties)
  return drawn.productId

/-! ### `get_product` -/

/-- A product with the relations loaded with it. -/
structure LoadedProduct extends ProductRow where
  catalogItems : List CatalogItemORM

namespace ProductTables

variable (t : ProductTables)

/-- A filter with its group. -/
def loadFilter (id : UUID) : Option FilterORM := do
  let filter ← t.filters.find? id
  let group ← t.groups.table.find? filter.filterGroupId
  return ⟨filter.id, filter.value, ⟨group.id, group.title⟩⟩

/-- `product.filters`, in the order of the associations. A filter that is associated twice is
loaded once. -/
def loadFilters (productId : UUID) : List FilterORM :=
  (t.productFilters.filter fun row => row.productId = productId).eraseDups.filterMap fun row =>
    t.loadFilter row.filterId

/-- `CatalogRepository.get_product` -/
def loadProduct (productId : UUID) : Option LoadedProduct := do
  let product ← t.products.find? productId
  let category ← t.categories.find? product.categoryId
  return {
    toProductORM := product.toProductORM
    createdAt := product.createdAt
    updatedAt := product.updatedAt
    description := product.description
    physicalProperties := product.physicalProperties
    category
    filters := t.loadFilters product.id
    catalogItems := t.items.rows.filter fun item => item.productId = product.id }

end ProductTables

/-- `ProductDetailed(…)` of a product. -/
def productDetailedView (product : LoadedProduct) : Except PyExc ProductDetailed := do
  let view ← productView product.toProductRow
  return { toProduct := view, isPublished := product.catalogItems ≠ [] }

/-- `CatalogService.get_product` -/
def getProduct (productId : UUID) :
    EStateM PyExc (Ctx ProductTables ProductObject σ) ProductDetailed := do
  let product ← Session.query productBackend (·.loadProduct productId)
  let product ← liftExcept (attributeOf product)
  liftExcept (productDetailedView product)

/-! ### What is stored of a request -/

/-- The request whose product is stored, in its transaction. -/
def storeProduct (fault : Option PyExc) (drawn : ProductDraw) (productDto : CreateProductDTO) :
    EStateM PyExc (Ctx ProductTables ProductObject σ) UUID :=
  initCtxDbSession productBackend fault .post (createProduct drawn productDto)

section Stored

variable {fault : Option PyExc} {drawn : ProductDraw} {productDto : CreateProductDTO}
  {t : ProductTables} {env : σ}

/-- A call finds its category and adds its product, or it raises and does nothing. -/
theorem run_createProduct_cases :
    (∃ category properties, t.getCategoryByLink productDto.categoryLink = some category ∧
      productDto.physicalProperties = some properties ∧
      (createProduct drawn productDto).run (Ctx.start t env) = .ok drawn.productId
        ⟨t, ⟨t, [productObject drawn productDto category properties], false⟩, env⟩) ∨
    ∃ e, (createProduct drawn productDto).run (Ctx.start t env) = .error e (Ctx.start t env) := by
  have hquery : (Session.query productBackend (·.getCategoryByLink productDto.categoryLink) :
      EStateM PyExc (Ctx ProductTables ProductObject σ) _).run (Ctx.start t env) =
        .ok (t.getCategoryByLink productDto.categoryLink) (Ctx.start t env) :=
    Session.run_query_clean productBackend _ (Ctx.clean_start t env) _
  unfold createProduct
  rw [run_bind_ok hquery]
  cases hcategory : t.getCategoryByLink productDto.categoryLink with
  | none => exact .inr ⟨.attributeError, rfl⟩
  | some category =>
    cases hproperties : productDto.physicalProperties with
    | none => exact .inr ⟨.attributeError, rfl⟩
    | some properties => exact .inl ⟨category, properties, rfl, rfl, rfl⟩

/-- **What is stored of a request** that goes through. -/
theorem storeProduct_eq_ok {id : UUID} {c : Ctx ProductTables ProductObject σ}
    (h : (storeProduct fault drawn productDto).run (Ctx.start t env) = .ok id c) :
    ∃ category properties, t.getCategoryByLink productDto.categoryLink = some category ∧
      t.Merged (productObject drawn productDto category properties) c.committed := by
  obtain ⟨c₁, hrun, hcommit⟩ := initCtxDbSession_eq_ok.mp h
  rcases run_createProduct_cases with ⟨category, properties, hcategory, -, hok⟩ | ⟨e, herror⟩
  · rw [hok] at hrun
    obtain ⟨rfl, rfl⟩ := EStateM.Result.ok.inj hrun
    rcases hcommit with ⟨hget, -⟩ | ⟨-, -, -, t', happly, rfl⟩
    · cases hget
    · replace happly : productBackend.applyAll
        [productObject drawn productDto category properties] t = .ok t' := happly
      rw [Backend.applyAll_singleton] at happly
      exact ⟨category, properties, hcategory, mergeProduct_merged happly⟩
  · rw [herror] at hrun
    cases hrun

/-- A call that raises stores nothing. -/
theorem storeProduct_error {e : PyExc} {c : Ctx ProductTables ProductObject σ}
    (h : (storeProduct fault drawn productDto).run (Ctx.start t env) = .error e c) :
    c.committed = t := by
  unfold storeProduct at h
  rw [run_initCtxDbSession] at h
  -- the handler only adds; what it raises has written nothing
  rcases run_createProduct_cases with ⟨category, properties, -, -, hok⟩ | ⟨e', herror⟩
  · rw [hok] at h
    simp only [if_neg (show Method.post ≠ .get by decide)] at h
    rcases Session.run_commit_cases productBackend ⟨t, ⟨t, [productObject drawn productDto
      category properties], false⟩, env⟩ fault with
      ⟨t', -, -, -, hcommit⟩ | ⟨e', c', hcommit, hcommitted, -⟩
    · rw [hcommit] at h
      cases h
    · rw [hcommit] at h
      cases h
      exact hcommitted
  · rw [herror] at h
    cases h
    rfl

end Stored

/-! ### What a product is shown from -/

/-- `get_product` returns the view. -/
def GetsProduct (t : ProductTables) (productId : UUID) (view : ProductDetailed) : Prop :=
  (getProduct productId).run (Ctx.start t () : Ctx ProductTables ProductObject Unit) =
    .ok view (Ctx.start t ())

/-- Every stored group has its title and category, every stored filter its value and group, and
of every product the same filter groups are shown. -/
structure KeepsProducts (t t' : ProductTables) : Prop where
  groups : ∀ group ∈ t.groups.table.rows, t'.groups.table.find? group.id = some group
  filters : ∀ filter ∈ t.filters.rows, t'.filters.find? filter.id = some filter
  products : ∀ product ∈ t.products.rows, ∀ view, GetsProduct t product.id view →
    ∃ view', GetsProduct t' product.id view' ∧ view'.filterGroups = view.filterGroups

theorem KeepsProducts.refl (t : ProductTables) : KeepsProducts t t where
  groups _ h := Table.find?_of_mem h
  filters _ h := Table.find?_of_mem h
  products _ _ view h := ⟨view, h, rfl⟩

section Frame

variable {t t' : ProductTables}

/-- The filters of a product are loaded from rows that are there. -/
theorem loadFilters_frame {productId : UUID}
    (h_groups : ∀ group ∈ t.groups.table.rows, t'.groups.table.find? group.id = some group)
    (h_filters : ∀ filter ∈ t.filters.rows, t'.filters.find? filter.id = some filter)
    (h_associations : t'.productFilters.filter (fun row => row.productId = productId) =
      t.productFilters.filter fun row => row.productId = productId) :
    t'.loadFilters productId = t.loadFilters productId := by
  unfold ProductTables.loadFilters
  rw [h_associations]
  refine List.filterMap_congr ?_
  intro row hrow
  -- the foreign keys of the association and of its filter resolve
  obtain ⟨filter, hfilter, hid⟩ :=
    Table.mem_keys.mp (t.filter_fk row (List.mem_filter.mp (List.mem_eraseDups.mp hrow)).1)
  obtain ⟨group, hgroup, hgroupId⟩ := Table.mem_keys.mp (t.group_fk filter hfilter)
  unfold ProductTables.loadFilter
  rw [← hid, h_filters filter hfilter, Table.find?_of_mem hfilter]
  show (t'.groups.table.find? filter.filterGroupId >>= _) =
    (t.groups.table.find? filter.filterGroupId >>= _)
  rw [← hgroupId, h_groups group hgroup, Table.find?_of_mem hgroup]

/-- **A product is loaded from its own row**, its category, its filters and its items. -/
theorem loadProduct_frame {product : StoredProduct} (h : product ∈ t.products.rows)
    (h_product : t'.products.find? product.id = some product)
    (h_categories : t'.categories = t.categories) (h_items : t'.items = t.items)
    (h_filters : t'.loadFilters product.id = t.loadFilters product.id) :
    t'.loadProduct product.id = t.loadProduct product.id := by
  unfold ProductTables.loadProduct
  rw [h_product, Table.find?_of_mem h, h_categories, h_items]
  simp only [Option.bind_eq_bind, Option.bind_some, h_filters]

theorem getsProduct_iff {productId : UUID} {view : ProductDetailed} :
    GetsProduct t productId view ↔
      ∃ product, t.loadProduct productId = some product ∧
        productDetailedView product = .ok view := by
  have hquery : (Session.query productBackend (·.loadProduct productId) :
      EStateM PyExc (Ctx ProductTables ProductObject Unit) _).run (Ctx.start t ()) =
        .ok (t.loadProduct productId) (Ctx.start t ()) :=
    Session.run_query_clean productBackend _ (Ctx.clean_start t ()) _
  unfold GetsProduct getProduct
  rw [run_bind_ok hquery, bind_eq_ok]
  simp only [liftExcept_eq_ok, attributeOf_eq_ok]
  refine ⟨?_, ?_⟩
  · rintro ⟨product, c, ⟨hproduct, rfl⟩, hview, -⟩
    exact ⟨product, hproduct, hview⟩
  · rintro ⟨product, hproduct, hview⟩
    exact ⟨product, _, ⟨hproduct, rfl⟩, hview, rfl⟩

end Frame

/-! ### What a request says of stored rows -/

/-- The drawn ids are not in use. -/
structure ProductDraw.New (drawn : ProductDraw) (t : ProductTables) : Prop where
  product : drawn.productId ∉ t.products.keys
  group : ∀ position, drawn.groupId position ∉ t.groups.table.keys
  filter : ∀ position position', drawn.filterId position position' ∉ t.filters.keys

namespace CreateProductDTO

variable (productDto : CreateProductDTO)

/-- The filters of a request with their groups. -/
def entries : List (FilterGroup × FilterDTO) :=
  productDto.filterGroups.flatMap fun group => group.filters.map fun filter => (group, filter)

/-- The last group of a request with the id, among those that have a filter. -/
def lastOfGroup (id : UUID) : Option FilterGroup :=
  (productDto.entries.reverse.find? fun entry => entry.1.id = some id).map Prod.fst

/-- The last filter of a request with the id, and the group it is in. -/
def lastOfFilter (id : UUID) : Option (FilterGroup × FilterDTO) :=
  productDto.entries.reverse.find? fun entry => entry.2.id = some id

theorem map_positions :
    productDto.positions.map (fun p => (p.1.1, p.2.1)) = productDto.entries := by
  unfold positions entries
  rw [List.map_flatMap]
  -- the positions are dropped: of the filters in each group, then of the groups
  calc (productDto.filterGroups.zipIdx.flatMap fun group =>
        (group.1.filters.zipIdx.map fun filter => (group, filter)).map fun p => (p.1.1, p.2.1))
      = productDto.filterGroups.zipIdx.flatMap fun group =>
          group.1.filters.map fun filter => (group.1, filter) := by
        refine List.flatMap_congr ?_
        intro group _
        conv_rhs => rw [← List.zipIdx_map_fst 0 group.1.filters]
        rw [List.map_map, List.map_map]
        rfl
    _ = (productDto.filterGroups.zipIdx.map Prod.fst).flatMap fun group =>
          group.filters.map fun filter => (group, filter) := by
        rw [List.flatMap_map]
    _ = productDto.filterGroups.flatMap fun group =>
          group.filters.map fun filter => (group, filter) := by
        rw [List.zipIdx_map_fst]

end CreateProductDTO

/-- All that a request says last of a stored group or filter is what is stored of it. -/
structure EditsNothing (t : ProductTables) (productDto : CreateProductDTO) : Prop where
  groups : ∀ category ∈ t.getCategoryByLink productDto.categoryLink,
    ∀ group ∈ t.groups.table.rows, ∀ said ∈ productDto.lastOfGroup group.id,
      said.title = group.title ∧ category.id = group.productCategoryId
  filters : ∀ filter ∈ t.filters.rows, ∀ said ∈ productDto.lastOfFilter filter.id,
    said.2.value = filter.value ∧ said.1.id = some filter.filterGroupId

section Said

variable {drawn : ProductDraw} {productDto : CreateProductDTO} {category : ProductCategoryORM}
  {properties : PhysicalPropertiesDTO} {t : ProductTables}

/-- An id that is not the drawn one was given. -/
theorem getD_eq_iff {given : Option UUID} {drawn id : UUID} (h : drawn ≠ id) :
    given.getD drawn = id ↔ given = some id := by
  cases given with
  | none => exact iff_of_false h nofun
  | some _ => simp

/-- **When a stored group stays as it is.** -/
theorem group_kept_iff (h_new : drawn.New t) {group : FilterGroupRow}
    (h : group ∈ t.groups.table.rows) :
    (∀ last ∈ ((productObject drawn productDto category properties).filters.map
        (·.group)).reverse.find? fun row => row.id = group.id, last = group) ↔
      ∀ said ∈ productDto.lastOfGroup group.id,
        said.title = group.title ∧ category.id = group.productCategoryId := by
  -- both sides ask for the last entry with the id of the group
  have hentries : productDto.lastOfGroup group.id =
      (productDto.positions.reverse.find? fun p => p.1.1.id = some group.id).map (·.1.1) := by
    unfold CreateProductDTO.lastOfGroup
    rw [← CreateProductDTO.map_positions, Table.find?_reverse_map (fun _ => rfl), Option.map_map]
    rfl
  have hobjects : (productObject drawn productDto category properties).filters.map (·.group) =
      productDto.positions.map fun p => dbFilterGroup drawn category p.1 := List.map_map
  rw [hentries, hobjects]
  refine Table.last_kept_iff (fun p => ?_) (fun p hnamed => ?_) _
  · -- an id that is drawn is not that of a stored group
    rw [decide_eq_true_iff]
    exact getD_eq_iff fun heq => h_new.group p.1.2 (heq ▸ Table.mem_keys_of_mem h)
  · have hrow : dbFilterGroup drawn category p.1 = ⟨group.id, category.id, p.1.1.title⟩ := by
      unfold dbFilterGroup
      rw [of_decide_eq_true hnamed]
      rfl
    rw [hrow]
    obtain ⟨id, productCategoryId, title⟩ := group
    simp [and_comm]

/-- **When a stored filter stays as it is.** The group of a filter is not a drawn one. -/
theorem filter_kept_iff (h_new : drawn.New t) {filter : FilterRow} (h : filter ∈ t.filters.rows) :
    (∀ last ∈ ((productObject drawn productDto category properties).filters.map
        (·.row)).reverse.find? fun row => row.id = filter.id, last = filter) ↔
      ∀ said ∈ productDto.lastOfFilter filter.id,
        said.2.value = filter.value ∧ said.1.id = some filter.filterGroupId := by
  -- the last mention in the request is the last row that is merged
  have hentries : productDto.lastOfFilter filter.id =
      (productDto.positions.reverse.find? fun p => p.2.1.id = some filter.id).map
        fun p => (p.1.1, p.2.1) := by
    unfold CreateProductDTO.lastOfFilter
    rw [← CreateProductDTO.map_positions, Table.find?_reverse_map (fun _ => rfl)]
  have hobjects : (productObject drawn productDto category properties).filters.map (·.row) =
      productDto.positions.map fun p => (dbFilter drawn category p).row := List.map_map
  rw [hentries, hobjects]
  refine Table.last_kept_iff (fun p => ?_) (fun p hnamed => ?_) _
  · -- a mention names the filter by its id: a drawn id is no stored one
    rw [decide_eq_true_iff]
    exact getD_eq_iff fun heq => h_new.filter p.1.2 p.2.2 (heq ▸ Table.mem_keys_of_mem h)
  · -- and it says the same as the row where its value and its group are the same
    have hgroup : (dbFilterGroup drawn category p.1).id = filter.filterGroupId ↔
        p.1.1.id = some filter.filterGroupId :=
      getD_eq_iff fun heq => h_new.group p.1.2 (heq ▸ t.group_fk filter h)
    have hrow : (dbFilter drawn category p).row =
        ⟨filter.id, (dbFilterGroup drawn category p.1).id, p.2.1.value⟩ := by
      unfold dbFilter FilterObject.row
      rw [of_decide_eq_true hnamed]
      rfl
    rw [hrow, ← hgroup]
    obtain ⟨id, filterGroupId, value⟩ := filter
    simp [and_comm]

end Said

/-! ### What is kept -/

section Kept

variable {drawn : ProductDraw} {productDto : CreateProductDTO} {category : ProductCategoryORM}
  {properties : PhysicalPropertiesDTO} {t t' : ProductTables}

/-- **What is shown of the other products** is loaded from groups and filters, and from
associations that only the new product adds to. -/
theorem getsProduct_of_merged (h_new : drawn.New t)
    (h : t.Merged (productObject drawn productDto category properties) t')
    (h_groups : ∀ group ∈ t.groups.table.rows, t'.groups.table.find? group.id = some group)
    (h_filters : ∀ filter ∈ t.filters.rows, t'.filters.find? filter.id = some filter)
    {product : StoredProduct} (h_product : product ∈ t.products.rows) {view : ProductDetailed}
    (h_view : GetsProduct t product.id view) : GetsProduct t' product.id view := by
  -- the product is an old one, so the new one is merged beside it
  have hne : product.id ≠ drawn.productId := fun heq =>
    h_new.product (heq ▸ Table.mem_keys_of_mem h_product)
  have hfound : t'.products.find? product.id = some product := by
    have hid : ∀ stored, ((productObject drawn productDto category properties).product.copiedOnto
        stored).id = drawn.productId := fun stored => by cases stored <;> rfl
    rw [h.products, Table.find?_merge, if_neg (fun heq => hne (heq.trans (hid _)))]
    exact Table.find?_of_mem h_product
  -- the new associations are all of the new product
  have hassociations : t'.productFilters.filter (fun row => row.productId = product.id) =
      t.productFilters.filter fun row => row.productId = product.id := by
    rw [h.productFilters]
    exact filter_associate hne
  obtain ⟨loaded, hloaded, hview⟩ := getsProduct_iff.mp h_view
  refine getsProduct_iff.mpr ⟨loaded, ?_, hview⟩
  rw [loadProduct_frame h_product hfound h.categories h.items
    (loadFilters_frame h_groups h_filters hassociations)]
  exact hloaded

/-- **When creating a product keeps the others.** A call that raises changes nothing. One that
goes through keeps the stored groups and filters, and what is shown of the stored products, if
and only if all that the request says last of a stored group or filter is what is stored. -/
theorem keepsProducts_iff (fault : Option PyExc) (env : σ) (h_new : drawn.New t) :
    (∀ e c, (storeProduct fault drawn productDto).run (Ctx.start t env) = .error e c →
      KeepsProducts t c.committed) ∧
    ∀ id c, (storeProduct fault drawn productDto).run (Ctx.start t env) = .ok id c →
      (KeepsProducts t c.committed ↔ EditsNothing t productDto) := by
  refine ⟨fun e c h => ?_, fun id c h => ?_⟩
  · rw [storeProduct_error h]
    exact KeepsProducts.refl t
  -- a request that went through has merged its object
  obtain ⟨category, properties, hcategory, hmerged⟩ := storeProduct_eq_ok h
  -- a row is kept where the last row that is merged onto it is the same
  have hgroups : ∀ group ∈ t.groups.table.rows,
      c.committed.groups.table.find? group.id = some group ↔
        ∀ said ∈ productDto.lastOfGroup group.id,
          said.title = group.title ∧ category.id = group.productCategoryId := by
    intro group hgroup
    rw [hmerged.groups, Table.find?_mergeAll_eq_iff hgroup]
    exact group_kept_iff h_new hgroup
  have hfilters : ∀ filter ∈ t.filters.rows,
      c.committed.filters.find? filter.id = some filter ↔
        ∀ said ∈ productDto.lastOfFilter filter.id,
          said.2.value = filter.value ∧ said.1.id = some filter.filterGroupId := by
    intro filter hfilter
    rw [hmerged.filters, Table.find?_mergeAll_eq_iff hfilter]
    exact filter_kept_iff h_new hfilter
  refine ⟨fun hkeeps => ⟨fun category' hcategory' group hgroup => ?_, fun filter hfilter => ?_⟩,
    fun hedits => ?_⟩
  · obtain rfl : category = category' := Option.some.inj (hcategory.symm.trans hcategory')
    exact (hgroups group hgroup).mp (hkeeps.groups group hgroup)
  · exact (hfilters filter hfilter).mp (hkeeps.filters filter hfilter)
  · have hkept : ∀ group ∈ t.groups.table.rows,
        c.committed.groups.table.find? group.id = some group := fun group hgroup =>
      (hgroups group hgroup).mpr (hedits.groups category hcategory group hgroup)
    have hkept' : ∀ filter ∈ t.filters.rows,
        c.committed.filters.find? filter.id = some filter := fun filter hfilter =>
      (hfilters filter hfilter).mpr (hedits.filters filter hfilter)
    exact ⟨hkept, hkept', fun product hproduct view hview =>
      ⟨view, getsProduct_of_merged h_new hmerged hkept hkept' hproduct hview, rfl⟩⟩

end Kept

/-- A product with a filter, in a group of its category. -/
def penTables : ProductTables where
  categories := ⟨[⟨1, 0, none, "pens", "Pens"⟩], by decide⟩
  groups := ⟨⟨[⟨5, 1, "Colour"⟩], by decide⟩, by decide⟩
  filters := ⟨[⟨6, 5, "red"⟩], by decide⟩
  products := ⟨[⟨⟨7, "Pen", []⟩, 0, none, none, some ⟨some 1, some 1, some 1, some 1⟩, 1⟩],
    by decide⟩
  productFilters := [⟨6, 7⟩]
  items := ⟨[], by decide⟩
  unique_link := by decide
  category_fk := by decide
  group_fk := by decide
  product_category_fk := by decide
  filter_fk := by decide
  product_fk := by decide

/-- A request of a product with the stored filter, that gives its group a title. -/
def penRequest (title : String) : CreateProductDTO where
  title := "Pencil"
  categoryLink := "pens"
  physicalProperties := some ⟨some 1, some 2, some 3, some 4⟩
  filterGroups := [⟨some 5, title, [⟨some 6, "red"⟩]⟩]

def penDraw : ProductDraw where
  productId := 8
  groupId _ := 9
  filterId _ _ := 10
  now := 1

theorem penDraw_new : penDraw.New penTables where
  product := by decide
  group _ := show 9 ∉ penTables.groups.table.keys by decide
  filter _ _ := show 10 ∉ penTables.filters.keys by decide

/-- A request that says of the group what is stored of it. -/
theorem keepsProducts_pens : ∃ c, (storeProduct none penDraw (penRequest "Colour")).run
    (Ctx.start penTables () : Ctx ProductTables ProductObject Unit) = .ok 8 c ∧
      KeepsProducts penTables c.committed := by
  have hedits : EditsNothing penTables (penRequest "Colour") := ⟨by decide, by decide⟩
  exact ⟨_, rfl, ((keepsProducts_iff none () penDraw_new).2 8 _ rfl).mpr hedits⟩

/-- **Creating a product renames a group on the page of another product.** -/
theorem creating_edits_product : ∃ c, (storeProduct none penDraw (penRequest "Ink")).run
    (Ctx.start penTables () : Ctx ProductTables ProductObject Unit) = .ok 8 c ∧
      ¬ KeepsProducts penTables c.committed ∧
      ∃ view view', GetsProduct penTables 7 view ∧ GetsProduct c.committed 7 view' ∧
        view.filterGroups = [⟨some 5, "Colour", [⟨some 6, "red"⟩]⟩] ∧
        view'.filterGroups = [⟨some 5, "Ink", [⟨some 6, "red"⟩]⟩] := by
  refine ⟨_, rfl, fun hkeeps => ?_, _, _, rfl, rfl, rfl, rfl⟩
  have hgroup := hkeeps.groups ⟨5, 1, "Colour"⟩ List.mem_cons_self
  exact absurd hgroup (by decide)

end Storefront
