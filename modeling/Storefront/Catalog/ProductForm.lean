import Storefront.Catalog.CreatedProducts

/-!
# The form of a product

The filters of a new product are chosen from what `get_filter_groups_by_category`
(`services/catalog/service.py`) offers: the groups of its category with their filters. Products
are created from offers of any age, while others are created in between.

Creating a product merges what the request says of stored groups and filters, so that it may edit
them. A request that is put together from offers says of them what is stored, and then so does
every offer that was made before (`valid_step`); this carries the run.

* `offers_iff` — the groups of a category are offered in the order of their titles, each with its
  filters in the order of their values;
* `editsNothing_of_chosen` — what is chosen from offers edits nothing;
* `form_keeps_products` — in every run of the form, every product is shown as it was before, and
  what was ever offered is what is stored.
-/

namespace Storefront

variable {σ Bytes Image : Type}

/-! ### `get_filter_groups_by_category` -/

/-- A group with its filters. -/
structure LoadedFilterGroup extends FilterGroupRow where
  filters : List FilterRow
  deriving DecidableEq, Repr

namespace ProductTables

/-- A group of the category with the link. -/
def InCategory (t : ProductTables) (categoryLink : String) (group : FilterGroupRow) : Prop :=
  ∃ category ∈ t.categories.rows,
    category.id = group.productCategoryId ∧ category.link = categoryLink

instance (t : ProductTables) (categoryLink : String) (group : FilterGroupRow) :
    Decidable (t.InCategory categoryLink group) := by
  unfold InCategory
  infer_instance

/-- `CatalogRepository.get_filter_groups_by_category` -/
def loadFilterGroupsByCategory (t : ProductTables) (categoryLink : String) :
    List LoadedFilterGroup :=
  (t.groups.table.rows.filter fun group => t.InCategory categoryLink group).map fun group =>
    { group with filters := t.filters.rows.filter fun filter => filter.filterGroupId = group.id }

end ProductTables

/-- `FilterDTO.model_validate(filter)` -/
def filterDTO (filter : FilterRow) : FilterDTO := ⟨some filter.id, filter.value⟩

/-- `FilterGroup(…)` of a group, in `get_filter_groups_by_category`. -/
def filterGroupView (group : LoadedFilterGroup) : FilterGroup where
  id := some group.id
  title := group.title
  filters := (group.filters.map filterDTO).insertionSort fun f f' => f.value ≤ f'.value

/-- `CatalogService.get_filter_groups_by_category` -/
def getFilterGroupsByCategory (categoryLink : String) :
    EStateM PyExc (Ctx ProductTables ProductObject σ) (List FilterGroup) := do
  let filterGroups ← Session.query productBackend (·.loadFilterGroupsByCategory categoryLink)
  return (filterGroups.map filterGroupView).insertionSort fun g g' => g.title ≤ g'.title

/-- `get_filter_groups_by_category` returns the groups. -/
def Offers (t : ProductTables) (categoryLink : String) (groups : List FilterGroup) : Prop :=
  (getFilterGroupsByCategory categoryLink).run
      (Ctx.start t () : Ctx ProductTables ProductObject Unit) = .ok groups (Ctx.start t ())

section Offers

variable {t : ProductTables} {categoryLink : String} {groups : List FilterGroup}

/-- An offered group is a stored one, with filters that are stored in it. -/
structure SaysStored (t : ProductTables) (categoryLink : String) (said : FilterGroup)
    (group : FilterGroupRow) : Prop where
  stored : group ∈ t.groups.table.rows
  category : t.InCategory categoryLink group
  id : said.id = some group.id
  title : said.title = group.title
  filters : ∀ filter ∈ said.filters, ∃ row ∈ t.filters.rows,
    row.filterGroupId = group.id ∧ filter = filterDTO row

/-- What is offered is what is stored. -/
def ValidOffer (t : ProductTables) (offer : String × List FilterGroup) : Prop :=
  ∀ said ∈ offer.2, ∃ group, SaysStored t offer.1 said group

theorem offers_iff : Offers t categoryLink groups ↔
    groups = ((t.loadFilterGroupsByCategory categoryLink).map filterGroupView).insertionSort
      fun g g' => g.title ≤ g'.title := by
  have hquery : (Session.query productBackend (·.loadFilterGroupsByCategory categoryLink) :
      EStateM PyExc (Ctx ProductTables ProductObject Unit) _).run (Ctx.start t ()) =
        .ok (t.loadFilterGroupsByCategory categoryLink) (Ctx.start t ()) :=
    Session.run_query_clean productBackend _ (Ctx.clean_start t ()) _
  unfold Offers getFilterGroupsByCategory
  rw [run_bind_ok hquery]
  refine ⟨fun h => (EStateM.Result.ok.inj h).1.symm, ?_⟩
  rintro rfl
  rfl

/-- An offer is valid when it is made. -/
theorem validOffer_of_offers (h : Offers t categoryLink groups) :
    ValidOffer t (categoryLink, groups) := by
  rw [offers_iff] at h
  intro said hsaid
  replace hsaid : said ∈ groups := hsaid
  rw [h, List.mem_insertionSort] at hsaid
  obtain ⟨loaded, hloaded, rfl⟩ := List.mem_map.mp hsaid
  obtain ⟨group, hgroup, rfl⟩ := List.mem_map.mp hloaded
  obtain ⟨hstored, hcategory⟩ := List.mem_filter.mp hgroup
  refine ⟨group, hstored, of_decide_eq_true hcategory, rfl, rfl, fun filter hfilter => ?_⟩
  replace hfilter := List.mem_insertionSort _ |>.mp hfilter
  obtain ⟨row, hrow, rfl⟩ := List.mem_map.mp hfilter
  obtain ⟨hmem, hin⟩ := List.mem_filter.mp hrow
  exact ⟨row, hmem, of_decide_eq_true hin, rfl⟩

/-- The rows of an offer that stay keep it valid. -/
theorem ValidOffer.frame {t' : ProductTables} {offer : String × List FilterGroup}
    (h : ValidOffer t offer) (h_categories : t'.categories = t.categories)
    (h_groups : ∀ group ∈ t.groups.table.rows, t'.groups.table.find? group.id = some group)
    (h_filters : ∀ filter ∈ t.filters.rows, t'.filters.find? filter.id = some filter) :
    ValidOffer t' offer := by
  intro said hsaid
  obtain ⟨group, hgroup⟩ := h said hsaid
  refine ⟨group, (Table.find?_eq_some.mp (h_groups group hgroup.stored)).1, ?_, hgroup.id,
    hgroup.title, fun filter hfilter => ?_⟩
  · unfold ProductTables.InCategory
    rw [h_categories]
    exact hgroup.category
  · obtain ⟨row, hrow, hin, rfl⟩ := hgroup.filters filter hfilter
    exact ⟨row, (Table.find?_eq_some.mp (h_filters row hrow)).1, hin, rfl⟩

end Offers

/-! ### What is chosen -/

/-- A group of a request is a new one with new filters, or an offered one with filters that are
offered in it or new. -/
def ChosenIn (offered : List FilterGroup) (group : FilterGroup) : Prop :=
  (group.id = none ∧ ∀ filter ∈ group.filters, filter.id = none) ∨
    ∃ said ∈ offered, group.id = said.id ∧ group.title = said.title ∧
      ∀ filter ∈ group.filters, filter.id = none ∨ filter ∈ said.filters

/-- The groups of a request are chosen from offers for its category. -/
def ChosenFrom (offers : List (String × List FilterGroup)) (productDto : CreateProductDTO) : Prop :=
  ∀ group ∈ productDto.filterGroups, ∃ offer ∈ offers,
    offer.1 = productDto.categoryLink ∧ ChosenIn offer.2 group

section Chosen

variable {t t' : ProductTables} {offers : List (String × List FilterGroup)}
  {productDto : CreateProductDTO} {drawn : ProductDraw}

/-- A group of a request that has an id is a stored one. -/
theorem saysStored_of_chosen (h_valid : ∀ offer ∈ offers, ValidOffer t offer)
    (h : ChosenFrom offers productDto) {group : FilterGroup}
    (h_group : group ∈ productDto.filterGroups)
    (h_id : group.id ≠ none ∨ ∃ filter ∈ group.filters, filter.id ≠ none) :
    ∃ said row, SaysStored t productDto.categoryLink said row ∧ group.id = some row.id ∧
      group.title = row.title ∧
        ∀ filter ∈ group.filters, filter.id = none ∨ filter ∈ said.filters := by
  obtain ⟨offer, hoffer, hlink, hchosen⟩ := h group h_group
  rcases hchosen with ⟨hnone, hfilters⟩ | ⟨said, hsaid, hid, htitle, hfilters⟩
  · rcases h_id with hsome | ⟨filter, hfilter, hsome⟩
    · exact absurd hnone hsome
    · exact absurd (hfilters filter hfilter) hsome
  · obtain ⟨row, hrow⟩ := h_valid offer hoffer said hsaid
    exact ⟨said, row, hlink ▸ hrow, hid.trans hrow.id, htitle.trans hrow.title, hfilters⟩

theorem mem_entries {entry : FilterGroup × FilterDTO} (h : entry ∈ productDto.entries) :
    entry.1 ∈ productDto.filterGroups ∧ entry.2 ∈ entry.1.filters := by
  obtain ⟨group, hgroup, hentry⟩ := List.mem_flatMap.mp h
  obtain ⟨filter, hfilter, rfl⟩ := List.mem_map.mp hentry
  exact ⟨hgroup, hfilter⟩

/-- **What is chosen from offers that are valid edits nothing.** -/
theorem editsNothing_of_chosen (h_valid : ∀ offer ∈ offers, ValidOffer t offer)
    (h : ChosenFrom offers productDto) : EditsNothing t productDto := by
  refine ⟨fun category hcategory group hgroup said hsaid => ?_, fun filter hfilter said hsaid => ?_⟩
  · -- a stored group is given by its id only where it was offered, with its title
    obtain ⟨entry, hlast, rfl⟩ := Option.map_eq_some_iff.mp hsaid
    have hid : entry.1.id = some group.id := by simpa using List.find?_some hlast
    have hmem := (mem_entries (List.mem_reverse.mp (List.mem_of_find?_eq_some hlast))).1
    obtain ⟨offered, row, hrow, hrowId, htitle, -⟩ :=
      saysStored_of_chosen h_valid h hmem (.inl (by simp [hid]))
    obtain rfl : row = group :=
      Table.eq_of_mem hrow.stored hgroup (Option.some.inj (hrowId.symm.trans hid))
    -- links are unique
    obtain ⟨category', hmem', hcategoryId, hlink⟩ := hrow.category
    have hlink' : category.link = productDto.categoryLink := by
      simpa using List.find?_some hcategory
    obtain rfl : category' = category := List.inj_on_of_nodup_map t.unique_link hmem'
      (List.mem_of_find?_eq_some hcategory) (hlink.trans hlink'.symm)
    exact ⟨htitle, hcategoryId⟩
  · -- and a stored filter only within its group
    have hid : said.2.id = some filter.id := by simpa using List.find?_some hsaid
    obtain ⟨hmem, hin⟩ := mem_entries (List.mem_reverse.mp (List.mem_of_find?_eq_some hsaid))
    obtain ⟨offered, row, hrow, hrowId, -, hfilters⟩ :=
      saysStored_of_chosen h_valid h hmem (.inr ⟨said.2, hin, by simp [hid]⟩)
    rcases hfilters said.2 hin with hnone | hoffered
    · rw [hnone] at hid
      cases hid
    · obtain ⟨stored, hstored, hgroup, heq⟩ := hrow.filters said.2 hoffered
      rw [heq] at hid
      obtain rfl : stored = filter := Table.eq_of_mem hstored hfilter (Option.some.inj hid)
      rw [heq, hrowId, hgroup]
      exact ⟨rfl, rfl⟩

/-- A product that edits nothing leaves the stored groups and filters. -/
theorem rows_kept_of_editsNothing {category : ProductCategoryORM}
    {properties : PhysicalPropertiesDTO} (h_new : drawn.New t)
    (h_category : t.getCategoryByLink productDto.categoryLink = some category)
    (h : t.Merged (productObject drawn productDto category properties) t')
    (h_edits : EditsNothing t productDto) :
    (∀ group ∈ t.groups.table.rows, t'.groups.table.find? group.id = some group) ∧
      ∀ filter ∈ t.filters.rows, t'.filters.find? filter.id = some filter := by
  refine ⟨fun group hgroup => ?_, fun filter hfilter => ?_⟩
  · rw [h.groups, Table.find?_mergeAll_eq_iff hgroup]
    exact (group_kept_iff h_new hgroup).mpr (h_edits.groups category h_category group hgroup)
  · rw [h.filters, Table.find?_mergeAll_eq_iff hfilter]
    exact (filter_kept_iff h_new hfilter).mpr (h_edits.filters filter hfilter)

end Chosen

/-! ### The form -/

/-- The application, and the offers that have been made so far, whoever asked for them. -/
structure FormWorld (Bytes : Type) extends AdminWorld Bytes where
  offers : List (String × List FilterGroup)

inductive FormEvent (Bytes : Type)
  | lookUp (categoryLink : String)
  | send (r : ProductRequest Bytes)

/-- The step relation of the form. -/
inductive FormStep (P : Pillow Bytes Image) (publicUrl : String) :
    FormWorld Bytes → FormEvent Bytes → FormWorld Bytes → Prop
  | lookUp {w : FormWorld Bytes} {categoryLink : String} {groups : List FilterGroup} :
      Offers w.tables.products categoryLink groups →
      FormStep P publicUrl w (.lookUp categoryLink)
        ⟨w.toAdminWorld, w.offers ++ [(categoryLink, groups)]⟩
  | send {w : FormWorld Bytes} {r : ProductRequest Bytes} {w' : AdminWorld Bytes} :
      ProductServed P publicUrl w.toAdminWorld r w' →
      FormStep P publicUrl w (.send r) ⟨w', w.offers⟩

/-- A product that is sent, if its form can be read, is put together from offers, and the ids that
are drawn are new. -/
def FromOffers (w : FormWorld Bytes) : FormEvent Bytes → Prop
  | .lookUp _ => True
  | .send r => r.drawn.New w.tables.products ∧
      ∀ product, parceCreateProductForm r.form = .ok product →
        ChosenFrom w.offers (createProductDTO product)

/-- What was offered is what is stored. -/
def ValidOffers (w : FormWorld Bytes) : Prop :=
  ∀ offer ∈ w.offers, ValidOffer w.tables.products offer

/-- What is shown of every product, and every stored group and filter, stays. -/
structure ShownAlike (t t' : AdminTables) : Prop where
  groups : ∀ group ∈ t.products.groups.table.rows,
    t'.products.groups.table.find? group.id = some group
  filters : ∀ filter ∈ t.products.filters.rows,
    t'.products.filters.find? filter.id = some filter
  products : ∀ productId view, GetsProduct t.loaded productId view →
    GetsProduct t'.loaded productId view

theorem ShownAlike.refl (t : AdminTables) : ShownAlike t t where
  groups _ h := Table.find?_of_mem h
  filters _ h := Table.find?_of_mem h
  products _ _ h := h

theorem ShownAlike.trans {t t' t'' : AdminTables} (h : ShownAlike t t') (h' : ShownAlike t' t'') :
    ShownAlike t t'' where
  groups group hgroup := h'.groups group (Table.find?_eq_some.mp (h.groups group hgroup)).1
  filters filter hfilter :=
    h'.filters filter (Table.find?_eq_some.mp (h.filters filter hfilter)).1
  products productId view hview := h'.products productId view (h.products productId view hview)

section Form

variable {P : Pillow Bytes Image} {publicUrl : String}

/-- A product that is stored is loaded as before, when one with another id is created. -/
theorem loadProduct_kept {t t' : AdminTables} {drawn : ProductDraw} {productDto : CreateProductDTO}
    {category : ProductCategoryORM} {properties : PhysicalPropertiesDTO}
    {attachments : List Attachment} (h_new : drawn.productId ∉ t.products.products.keys)
    (h : t.products.Merged (productObject drawn productDto category properties) t'.products)
    (h_attachments : t'.attachments = t.attachments ++ attachments.map attachmentORM)
    (h_own : ∀ attachment ∈ attachments, attachment.productId = drawn.productId)
    (h_groups : ∀ group ∈ t.products.groups.table.rows,
      t'.products.groups.table.find? group.id = some group)
    (h_filters : ∀ filter ∈ t.products.filters.rows,
      t'.products.filters.find? filter.id = some filter)
    {product : StoredProduct} (h_product : product ∈ t.products.products.rows) :
    t'.loaded.loadProduct product.id = t.loaded.loadProduct product.id := by
  have hne : product.id ≠ drawn.productId := fun heq =>
    h_new (heq ▸ Table.mem_keys_of_mem h_product)
  -- the attachments that are added are of the new product
  have hattachments : t'.attachmentsOf product.id = t.attachmentsOf product.id := by
    unfold AdminTables.attachmentsOf
    have hnone : ((attachments.map attachmentORM).filter fun row => row.productId = product.id) =
        [] := by
      refine List.filter_eq_nil_iff.mpr fun row hrow heq => ?_
      obtain ⟨attachment, hmem, rfl⟩ := List.mem_map.mp hrow
      exact hne ((of_decide_eq_true heq).symm.trans (h_own attachment hmem))
    rw [h_attachments, List.filter_append, hnone, List.append_nil]
  have hstored : t'.products.products.find? product.id = some product := by
    rw [h.products, copiedOnto_find?_of_notMem h_new, Table.find?_merge]
    exact (if_neg hne).trans (Table.find?_of_mem h_product)
  have hloaded : t.withAttachments product ∈ t.loaded.products.rows :=
    List.mem_map_of_mem h_product
  have hsame : t'.withAttachments product = t.withAttachments product :=
    congrArg (fun attachments : List AttachmentORM => { product with attachments }) hattachments
  have hfound : t'.loaded.products.find? product.id = some (t.withAttachments product) := by
    rw [t'.find?_loaded, hstored, ← hsame]
    rfl
  -- and so are the associations
  have hassociations : t'.products.productFilters.filter (fun row => row.productId = product.id) =
      t.products.productFilters.filter fun row => row.productId = product.id := by
    rw [h.productFilters]
    exact filter_associate hne
  have hfilters : t'.loaded.loadFilters product.id = t.loaded.loadFilters product.id := by
    rw [t'.loadFilters_loaded, t.loadFilters_loaded]
    exact loadFilters_frame h_groups h_filters hassociations
  -- the rest of the product is in tables that stay
  have hframe : t'.loaded.loadProduct (t.withAttachments product).id =
      t.loaded.loadProduct (t.withAttachments product).id :=
    loadProduct_frame hloaded hfound h.categories h.items hfilters
  exact hframe

/-- **One step of the form** shows every product as before and keeps the offers valid. -/
theorem valid_step {w w' : FormWorld Bytes} {event : FormEvent Bytes}
    (h_from : FromOffers w event) (h_valid : ValidOffers w) (h : FormStep P publicUrl w event w') :
    ValidOffers w' ∧ ShownAlike w.tables w'.tables := by
  cases h with
  | @lookUp categoryLink groups hoffers =>
    refine ⟨List.forall_mem_append.mpr ⟨h_valid, List.forall_mem_singleton.mpr ?_⟩, .refl _⟩
    -- a look-up offers what is stored
    exact validOffer_of_offers hoffers
  | @send r w' hserved =>
    obtain ⟨hnew, hchosen⟩ := h_from
    rcases productServed_cases hserved with
      ⟨-, htables, -⟩ | ⟨product, category, attachments, hform, hcategory, hupload, -, hmerged,
        hattachments⟩
    · refine ⟨fun offer hoffer => ?_, htables ▸ .refl _⟩
      exact (congrArg AdminTables.products htables).symm ▸ h_valid offer hoffer
    · -- what is chosen from offers edits nothing that is stored
      have hedits := editsNothing_of_chosen h_valid
        (hchosen product (parceCreateProductForm_eq_ok.mpr hform))
      obtain ⟨hgroups, hfilters⟩ := rows_kept_of_editsNothing hnew hcategory hmerged hedits
      obtain rfl := attachments_of_run hupload
      refine ⟨fun offer hoffer => ?_, hgroups, hfilters, fun productId view hview => ?_⟩
      · exact (h_valid offer hoffer).frame hmerged.categories hgroups hfilters
      · obtain ⟨product, hproduct, hdetailed⟩ := getsProduct_iff.mp hview
        -- what is shown is stored
        obtain ⟨loaded, hloaded, -⟩ := Option.bind_eq_some_iff.mp hproduct
        obtain ⟨hmem, hid⟩ := Table.find?_eq_some.mp hloaded
        obtain ⟨row, hrow, rfl⟩ := List.mem_map.mp hmem
        replace hid : row.id = productId := hid
        subst hid
        refine getsProduct_iff.mpr ⟨product, ?_, hdetailed⟩
        rw [loadProduct_kept hnew.product hmerged hattachments ?_ hgroups hfilters hrow]
        · exact hproduct
        · intro attachment hmem
          obtain ⟨image, -, rfl⟩ := List.mem_map.mp hmem
          rfl

/-- **Products that are put together from offers edit no product.** In every run of the form,
whatever fails in it and however old the offers are, what is shown of every product, and every
stored group and filter, is at the end as it was at any time before; and everything that was ever
offered is what is stored. -/
theorem form_keeps_products {w₀ w₁ w₂ : FormWorld Bytes} {events events' : List (FormEvent Bytes)}
    (h₀ : w₀.offers = []) (h₁ : Run (guarded FromOffers (FormStep P publicUrl)) w₀ events w₁)
    (h₂ : Run (guarded FromOffers (FormStep P publicUrl)) w₁ events' w₂) :
    ShownAlike w₁.tables w₂.tables ∧ ValidOffers w₂ := by
  have hnone : ValidOffers w₀ := fun offer hoffer => absurd (h₀ ▸ hoffer) List.not_mem_nil
  have hvalid : ValidOffers w₁ :=
    h₁.invariant hnone fun _ _ _ hI hs => (valid_step hs.1 hI hs.2).1
  refine ⟨?_, h₂.invariant hvalid fun _ _ _ hI hs => (valid_step hs.1 hI hs.2).1⟩
  exact Run.monotone (I := ValidOffers) (r := fun w w' => ShownAlike w.tables w'.tables)
    (fun _ => .refl _) ShownAlike.trans h₂ hvalid fun _ _ _ hI hs => valid_step hs.1 hI hs.2

end Form

/-- What is offered for pens. -/
def penOffer : String × List FilterGroup := ("pens", [⟨some 5, "Colour", [⟨some 6, "red"⟩]⟩])

/-- A pencil in the colour that is offered. -/
theorem form_keeps_products_pen :
    ∃ w, Run (guarded FromOffers (FormStep samplePillow "url")) ⟨penWorld, []⟩
        [.lookUp "pens", .send penImageRequest] w ∧
      w.tables.products.products.keys = [7, 8] ∧ ShownAlike penWorld.tables w.tables := by
  have hoffers : Offers penTables penOffer.1 penOffer.2 := rfl
  -- the one group of the form is the offered one, with a new filter
  have hchosen : ∀ product, parceCreateProductForm penForm = .ok product →
      ChosenFrom [penOffer] (createProductDTO product) := by
    rintro product hread group hgroup
    cases hread
    obtain rfl := List.mem_singleton.mp hgroup
    refine ⟨penOffer, List.mem_cons_self, rfl, .inr ⟨_, List.mem_cons_self, rfl, rfl, ?_⟩⟩
    exact fun filter hfilter => .inr hfilter
  have hlookUp : guarded FromOffers (FormStep samplePillow "url") ⟨penWorld, []⟩
      (.lookUp "pens") ⟨penWorld, [penOffer]⟩ := ⟨trivial, .lookUp hoffers⟩
  have hsend : guarded FromOffers (FormStep samplePillow "url") ⟨penWorld, [penOffer]⟩
      (.send penImageRequest) ⟨_, [penOffer]⟩ := ⟨⟨penDraw_new, hchosen⟩, .send rfl⟩
  have hrun := Run.cons hlookUp (.cons hsend (.nil _))
  exact ⟨_, hrun, rfl, (form_keeps_products rfl (.nil _) hrun).1⟩

end Storefront
