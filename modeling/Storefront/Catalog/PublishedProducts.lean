import Storefront.Catalog.CatalogWorld

/-!
# From the product form to the catalog

What `get_publications` (`services/catalog/service.py`) shows after a run of the shop
(`Catalog/CatalogWorld.lean`) of what was entered in its forms. A publication is shown with all
others or not at all: one product without its weight takes the catalog away from everybody, and
nothing brings it back. The form lets no such product through, so that it is one that was there
at the start.

* `showable_left` and `publicationView_left` — when a publication that was requested can be shown,
  and how;
* `showable_of_run` — when there is a catalog at the end of a run;
* `published_products_shown` — and that it shows every publication as it was requested, with its
  products as they were entered.
-/

namespace Storefront

variable {Bytes Image : Type}

/-! ### What is shown -/

/-- `get_publications` returns the views. -/
def ShowsCatalog (P : ListingPydantic) (l : Listing) (views : List Publication) : Prop :=
  (getPublications P).run (Ctx.start l () : Ctx Listing PublicationObject Unit) =
    .ok views (Ctx.start l ())

section Shown

variable {P : ListingPydantic} {l l' : Listing} {row : PublicationRow}

theorem exists_showsCatalog : (∃ views, ShowsCatalog P l views) ↔ l.Showable P := by
  rw [← exists_publicationViews]
  exact exists_congr fun views => run_getPublications

/-- A publication is shown, or passed over, by what is loaded of its items. -/
theorem showable_congr (h : UpToOrder (fun item item' : ListedItem =>
      item'.row.isActive = item.row.isActive ∧ item'.product = item.product ∧
        item'.creditPlan = item.creditPlan) (l.load row).items (l'.load row).items)
    (h_preorders : l'.preorders = l.preorders) :
    ((l'.load row).Active → (l'.load row).Showable P) ↔
      ((l.load row).Active → (l.load row).Showable P) := by
  have hpassed : (∀ item ∈ (l.load row).items, ¬ item.row.isActive = true) ↔
      ∀ item ∈ (l'.load row).items, ¬ item.row.isActive = true :=
    h.forall_mem_iff fun item item' hsame => by rw [hsame.1]
  -- no item of the one is active iff none of the other is
  have hactive : (l'.load row).Active ↔ (l.load row).Active := by
    unfold ListedPublication.Active
    rw [← not_iff_not]
    simp only [not_exists, not_and]
    exact hpassed.symm
  -- an item is shown by its product and its plan, which the orders leave alone
  have hitem : ∀ item item' : ListedItem, item'.product = item.product →
      item'.creditPlan = item.creditPlan →
        (item'.Showable P.toPydantic ↔ item.Showable P.toPydantic) := by
    intro item item' hproduct hplan
    refine ⟨fun hshow => ⟨?_, ?_⟩, fun hshow => ⟨?_, ?_⟩⟩
    · exact hproduct ▸ hshow.product
    · exact hplan ▸ hshow.credit
    · rw [hproduct]
      exact hshow.product
    · rw [hplan]
      exact hshow.credit
  have hitems := h.forall_mem_iff
    (p := fun item : ListedItem => item.row.isActive = true → item.Showable P.toPydantic)
    (q := fun item : ListedItem => item.row.isActive = true → item.Showable P.toPydantic)
    fun item item' ⟨hsame, hproduct, hplan⟩ => by rw [hsame, hitem item item' hproduct hplan]
  -- the preorder is looked up in the same table
  have hpreorder : (l'.load row).preorder = (l.load row).preorder :=
    congrArg (fun preorders : Table _ => row.preorderId.bind preorders.find?) h_preorders
  rw [hactive]
  refine imp_congr_right fun _ => ⟨fun hshow => ?_, fun hshow => ?_⟩
  · exact ⟨hitems.mpr hshow.items, hpreorder ▸ hshow.preorder, hshow.delivery⟩
  · refine ⟨hitems.mp hshow.items, ?_, hshow.delivery⟩
    rw [hpreorder]
    exact hshow.preorder

/-- A publication that is kept can be shown as before. -/
theorem Listing.Keeps.showable (h : l.Keeps l') (h_row : row ∈ l.publications.rows) :
    ((l'.load row).Active → (l'.load row).Showable P) ↔
      ((l.load row).Active → (l.load row).Showable P) := by
  refine showable_congr ?_ h.preorders
  have hstored : ∀ item ∈ l.itemsOf row.id, item ∈ l.items.rows :=
    fun item hitem => (List.mem_filter.mp hitem).1
  show UpToOrder _ ((l.itemsOf row.id).map l.loadItem) ((l'.itemsOf row.id).map l'.loadItem)
  refine UpToOrder.map_left_iff.mpr (((h.items row h_row).and_left hstored).map_right ?_)
  rintro item item' ⟨hitem, hsame⟩
  refine ⟨hsame.isActive, ?_, ?_⟩
  · -- the product is stored, and stored products stay
    obtain ⟨product, hproduct, hid⟩ := Table.mem_keys.mp (l.product_fk item hitem)
    show l'.products.find? item'.productId = l.products.find? item.productId
    rw [hsame.productId, ← hid, Table.find?_of_mem hproduct]
    exact Table.find?_of_mem (h.products product hproduct)
  · show item'.creditPlanId.bind l'.creditPlans.find? = item.creditPlanId.bind l.creditPlans.find?
    rw [hsame.creditPlanId, h.creditPlans]

variable {q : PublicationRequest}

/-- The items of a publication that was requested, as they are loaded: active, without a credit
plan, and each with the product that was requested. -/
theorem loaded_items (h : UpToOrder SameOffer q.items (l.itemsOf row.id)) :
    UpToOrder (fun p (item : ListedItem) => item.row.isActive = true ∧
        item.creditPlan = none ∧ item.product = l.products.find? p.1.productId ∧
        item.row.price = p.1.price ∧ item.row.quantity = p.1.quantity ∧
        item.row.index = shownIndex q.publication.items p.2)
      q.publication.items.zipIdx (l.load row).items := by
  unfold PublicationRequest.items storedItems at h
  show UpToOrder _ _ ((l.itemsOf row.id).map l.loadItem)
  refine (UpToOrder.map_left_iff.mp h).map_right fun p item hsame =>
    ⟨hsame.isActive, ?_, ?_, hsame.price, hsame.quantity, hsame.index⟩
  · show item.creditPlanId.bind _ = none
    rw [hsame.creditPlanId]
    rfl
  · show l.products.find? item.productId = _
    rw [hsame.productId]
    rfl

/-- **When a publication that was requested can be shown**: its products have all their
properties. -/
theorem showable_left (h_stores : q.Stores row)
    (h : UpToOrder SameOffer q.items (l.itemsOf row.id)) :
    ((l.load row).Active → (l.load row).Showable P) ↔
      ∀ item ∈ q.publication.items, l.ProductComplete item.productId := by
  have hloaded := loaded_items h
  -- the items have no plan, so all depends on their products
  have hitems : (∀ item ∈ (l.load row).items,
      item.row.isActive = true → item.Showable P.toPydantic) ↔
        ∀ p ∈ q.publication.items.zipIdx, l.ProductComplete p.1.productId := by
    refine (hloaded.forall_mem_iff fun p item ⟨hactive, hplan, hproduct, _⟩ => ?_).symm
    rw [← exists_mem_find?_complete, ← hproduct]
    refine ⟨fun hcomplete _ => ⟨hcomplete, ?_⟩, fun hshow => (hshow hactive).product⟩
    rw [hplan]
    exact nofun
  rw [← forall_zipIdx_fst, ← hitems]
  refine ⟨fun hshow item hitem hactive => ?_, fun hall _ => ⟨hall, fun hpreorder => ?_, ?_⟩⟩
  · exact (hshow ⟨item, hitem, hactive⟩).items item hitem hactive
  · exact absurd (h_stores.type.symm.trans hpreorder) (by decide)
  · exact exists_deliveryCostView.mp ⟨none, h_stores.delivery⟩

/-- The product of an item is shown. -/
theorem productView_of_item {P : Pydantic} {item : ListedItem} {shown : CatalogItem}
    (h : catalogItemView P item = .ok shown) :
    ∃ product ∈ item.product, productView product = .ok shown.product := by
  unfold catalogItemView at h
  simp only [except_bind_eq_ok, attributeOf_eq_ok] at h
  obtain ⟨_, -, product, hproduct, view, hview, heq⟩ := h
  cases heq
  exact ⟨product, hproduct, hview⟩

theorem id_productView {product : ProductRow} {shown : Product}
    (h : productView product = .ok shown) : shown.id = product.id := by
  obtain ⟨properties, -, heq⟩ := except_bind_eq_ok.mp h
  cases heq
  rfl

/-- What is shown of a publication that was requested. -/
theorem publicationView_left (h_stores : q.Stores row)
    (h : UpToOrder SameOffer q.items (l.itemsOf row.id)) {shown : Publication}
    (h_view : publicationView P (l.load row) = .ok shown) :
    shown.id = row.id ∧ shown.link = q.publication.link ∧ shown.preorder = none ∧
      shown.deliveryCostIncluded = none ∧
      UpToOrder (fun p (item : CatalogItem) => item.price = p.1.price ∧
          item.quantity = p.1.quantity ∧ item.index = shownIndex q.publication.items p.2 ∧
          item.creditInfo = none ∧
          ∃ product ∈ l.products.find? p.1.productId, productView product = .ok item.product)
        q.publication.items.zipIdx shown.items := by
  obtain ⟨hid, hlink, -, hpreorder⟩ := publicationView_eq_ok h_view
  rw [preorderModelView_stored ⟨.stock, h_stores.type⟩] at hpreorder
  unfold publicationView at h_view
  simp only [except_bind_eq_ok] at h_view
  obtain ⟨items, hitems, preorder, -, delivery, hdelivery, heq⟩ := h_view
  cases heq
  -- what the publication was sent with has no delivery part
  replace hdelivery : Except.ok none = Except.ok delivery :=
    h_stores.delivery.symm.trans hdelivery
  refine ⟨hid, hlink.trans h_stores.link, (Except.ok.inj hpreorder).symm,
    (Except.ok.inj hdelivery).symm, ?_⟩
  -- all of its items are active
  have hloaded := loaded_items h
  have hactive : (l.load row).items.filter (·.row.isActive) = (l.load row).items := by
    refine List.filter_eq_self.mpr ?_
    exact (hloaded.forall_mem_iff (p := fun _ => True)
      fun p item ⟨hactive, _⟩ => iff_of_true trivial hactive).mp fun _ _ => trivial
  rw [hactive] at hitems
  refine hloaded.mapM ?_ hitems
  rintro p item shown ⟨-, hplan, hproduct, hprice, hquantity, hindex⟩ hview
  obtain ⟨hprice', hquantity', -, hindex', hcredit, -⟩ := catalogItemView_eq_ok hview
  refine ⟨hprice'.trans hprice, hquantity'.trans hquantity, hindex'.trans hindex, hcredit hplan, ?_⟩
  rw [← hproduct]
  exact productView_of_item hview

end Shown

/-! ### After any run -/

/-- An item is shown as it was requested, and its product as it was entered, where that was in the
run. -/
structure ItemFromForm (publicUrl : String) (events : List (CatalogEvent Bytes × Option UUID))
    (item : CreateCatalogItemDTO) (index : Option ℕ) (shown : CatalogItem) : Prop where
  price : shown.price = item.price
  quantity : shown.quantity = item.quantity
  index : shown.index = index
  credit_info : shown.creditInfo = none
  product : shown.product.id = item.productId
  entered : ∀ r, (.form (.send r), some item.productId) ∈ events →
    ∃ product, parceCreateProductForm r.form = .ok product ∧
      (DistinctIds r.drawn (createProductDTO product) → ∃ category,
        ShownAsCreated publicUrl r.drawn product category
          { toProduct := shown.product, isPublished := false } ∧
        ∀ s id, (.category s, some id) ∈ events → s.category.link = product.categoryLink →
          category = s.row)

/-- A publication is shown as it was requested, with its items in some order. -/
structure FromForm.Published (publicUrl : String)
    (events : List (CatalogEvent Bytes × Option UUID)) (q : PublicationRequest) (id : UUID)
    (shown : Publication) : Prop where
  id : shown.id = id
  link : shown.link = q.publication.link
  preorder : shown.preorder = none
  delivery_cost_included : shown.deliveryCostIncluded = none
  items : UpToOrder (fun p item =>
      ItemFromForm publicUrl events p.1 (shownIndex q.publication.items p.2) item)
    q.publication.items.zipIdx shown.items

section Runs

variable {P : Pillow Bytes Image} {PL : ListingPydantic} {publicUrl : String} {orm : Orm}
  {w₀ w : CatalogWorld Bytes} {events : List (CatalogEvent Bytes × Option UUID)}

/-- **Everything that was created is there**, and what is offered in the forms is what is stored. -/
theorem left_of_run (h₀ : w₀.offers = [])
    (h : Run (guarded FromForm (CatalogStep P publicUrl orm)) w₀ events w) :
    ∀ event ∈ events, Left publicUrl w event := by
  have hnone : ValidOffers w₀.toFormWorld := fun offer hoffer =>
    absurd (h₀ ▸ hoffer) List.not_mem_nil
  refine (h.leaves (I := fun w => ValidOffers w.toFormWorld)
    (Q := fun event w => Left publicUrl w event) hnone ?_ ?_).2
  · intro w event w' hvalid ⟨hfrom, hstep⟩
    obtain ⟨⟨hvalid', -⟩, hleft, -⟩ := catalog_step hfrom hvalid hstep
    exact ⟨hvalid', hleft⟩
  · intro w event w' event' hvalid ⟨hfrom, hstep⟩ hleft
    exact hleft.kept (catalog_step hfrom hvalid hstep).1.2

/-- **Everything that was there stays.** -/
theorem keeps_of_run (h₀ : w₀.offers = [])
    (h : Run (guarded FromForm (CatalogStep P publicUrl orm)) w₀ events w) : w₀.Keeps w := by
  have hnone : ValidOffers w₀.toFormWorld := fun offer hoffer =>
    absurd (h₀ ▸ hoffer) List.not_mem_nil
  refine Run.monotone (I := fun w => ValidOffers w.toFormWorld) .refl .trans h hnone ?_
  rintro w event w' hvalid ⟨hfrom, hstep⟩
  exact (catalog_step hfrom hvalid hstep).1

/-- The products and the publications are those of the start and of the events. -/
structure AddedBy (w₀ : CatalogWorld Bytes) (events : List (CatalogEvent Bytes × Option UUID))
    (w : CatalogWorld Bytes) : Prop where
  products : ∀ row ∈ w.listing.products.rows, row ∈ w₀.listing.products.rows ∨
    ∃ r, (.form (.send r), some row.id) ∈ events
  publications : ∀ row ∈ w.listing.publications.rows, row ∈ w₀.listing.publications.rows ∨
    ∃ q, (.publication q, some row.id) ∈ events

/-- **Nothing else is there.** -/
theorem addedBy_of_run (h₀ : w₀.offers = [])
    (h : Run (guarded FromForm (CatalogStep P publicUrl orm)) w₀ events w) :
    AddedBy w₀ events w := by
  have hnone : ValidOffers w₀.toFormWorld := fun offer hoffer =>
    absurd (h₀ ▸ hoffer) List.not_mem_nil
  -- offers have to stay valid for a step to add only what its form says
  have hboth : ValidOffers w.toFormWorld ∧ AddedBy w₀ events w := by
    refine h.history (I := fun events w => ValidOffers w.toFormWorld ∧ AddedBy w₀ events w)
      ⟨hnone, fun row hrow => .inl hrow, fun row hrow => .inl hrow⟩ ?_
    rintro events w event w' ⟨hvalid, hadded⟩ ⟨hfrom, hstep⟩
    obtain ⟨⟨hvalid', -⟩, -, hnew⟩ := catalog_step hfrom hvalid hstep
    refine ⟨hvalid', fun row hrow => ?_, fun row hrow => ?_⟩
    · rcases hnew.products row hrow with hold | ⟨r, rfl⟩
      · exact (hadded.products row hold).imp_right fun ⟨r, hr⟩ => ⟨r, List.mem_append_left _ hr⟩
      · exact .inr ⟨r, List.mem_append_right _ List.mem_cons_self⟩
    · rcases hnew.publications row hrow with hold | ⟨q, rfl⟩
      · exact (hadded.publications row hold).imp_right fun ⟨q, hq⟩ =>
          ⟨q, List.mem_append_left _ hq⟩
      · exact .inr ⟨q, List.mem_append_right _ List.mem_cons_self⟩
  exact hboth.2

/-- When there is a catalog: there was one at the start, and the products of everything that was
published have all their properties. -/
theorem showable_of_run (h₀ : w₀.offers = [])
    (h : Run (guarded FromForm (CatalogStep P publicUrl orm)) w₀ events w) :
    w.listing.Showable PL ↔ w₀.listing.Showable PL ∧
      ∀ q id, (.publication q, some id) ∈ events →
        ∀ item ∈ q.publication.items, w.listing.ProductComplete item.productId := by
  have hleft := left_of_run h₀ h
  have hkeeps := (keeps_of_run h₀ h).listing
  refine ⟨fun hshow => ⟨fun row hrow => ?_, fun q id hmem => ?_⟩, ?_⟩
  · exact (hkeeps.showable hrow).mp (hshow row (hkeeps.publications row hrow))
  · obtain ⟨row, hrow, -, hstores, hitems⟩ := hleft _ hmem
    exact (showable_left hstores hitems).mp (hshow row hrow)
  · rintro ⟨hshow, hcomplete⟩ row hrow
    rcases (addedBy_of_run h₀ h).publications row hrow with hold | ⟨q, hmem⟩
    · exact (hkeeps.showable hold).mpr (hshow row hold)
    · obtain ⟨row', hrow', hid, hstores, hitems⟩ := hleft _ hmem
      obtain rfl := Table.eq_of_mem hrow' hrow hid
      exact (showable_left hstores hitems).mpr (hcomplete q _ hmem)

/-- A product that was created has all its properties. -/
theorem complete_left {r : ProductRequest Bytes} {id : UUID} (h : ProductLeft publicUrl w r id)
    {row : ProductRow} (h_row : row ∈ w.listing.products.rows) (h_id : row.id = id) :
    row.Complete := by
  obtain ⟨-, product, -, -, -, -, row', hrow', hid, hphysical, -⟩ := h
  obtain rfl := Table.eq_of_mem h_row hrow' (h_id.trans hid.symm)
  exact ⟨_, hphysical, rfl, rfl, rfl, rfl⟩

/-- **Which products are not complete**: those that were not at the start. -/
theorem productComplete_iff (h₀ : w₀.offers = [])
    (h : Run (guarded FromForm (CatalogStep P publicUrl orm)) w₀ events w)
    {productId : UUID} (h_stored : productId ∈ w.listing.products.keys) :
    w.listing.ProductComplete productId ↔
      ∀ row ∈ w₀.listing.products.rows, row.id = productId → row.Complete := by
  refine ⟨?_, fun hcomplete => ?_⟩
  -- a product of the start is still there
  · rintro ⟨product, hproduct, hid, hcomplete⟩ row hrow hid'
    have hkept := (keeps_of_run h₀ h).listing.products row hrow
    obtain rfl := Table.eq_of_mem hkept hproduct (hid'.trans hid.symm)
    exact hcomplete
  · obtain ⟨row, hrow, rfl⟩ := Table.mem_keys.mp h_stored
    rcases (addedBy_of_run h₀ h).products row hrow with hold | ⟨r, hr⟩
    · exact ⟨row, hrow, rfl, hcomplete row hold rfl⟩
    · have hleft : ProductLeft publicUrl w r row.id := left_of_run h₀ h _ hr
      exact ⟨row, hrow, rfl, complete_left hleft hrow rfl⟩

/-- What is shown of the product of an item. -/
theorem shownAsCreated_left {r : ProductRequest Bytes} {id : UUID} {row : ProductRow}
    {shown : Product} (h : ProductLeft publicUrl w r id)
    (h_find : row ∈ w.listing.products.find? id) (h_view : productView row = .ok shown) :
    ∃ product, r.form = product.form ∧ (DistinctIds r.drawn (createProductDTO product) →
      ∃ category ∈ w.tables.products.categories.rows, category.link = product.categoryLink ∧
        ShownAsCreated publicUrl r.drawn product category
          { toProduct := shown, isPublished := false }) := by
  obtain ⟨-, product, hform, category, hcategory, hlink, row', hrow', hid, -, hentered⟩ := h
  refine ⟨product, hform, fun hdistinct => ⟨category, hcategory, hlink, ?_⟩⟩
  obtain ⟨rfl, hgroups⟩ := hentered hdistinct
  obtain ⟨hmem, hkey⟩ := Table.find?_eq_some.mp h_find
  obtain rfl := Table.eq_of_mem hmem hrow' (hkey.trans hid.symm)
  have hdetailed : productDetailedView (enteredProduct publicUrl r.drawn product category) =
      .ok { toProduct := shown, isPublished := false } := by
    unfold productDetailedView
    rw [h_view]
    rfl
  exact shownAsCreated_of_view hgroups hdetailed

/-- **From the product form to the catalog.** In any run of the shop that starts without offers,
whatever fails in it and whatever is ordered in between, there is a catalog if and only if there
was one and every product of the start that was published in the run has all its properties. Where
there is a catalog, every publication of the run with at least one item is in it as it was
requested, item by item but for their order, and each product of the run in it is shown as it was
entered, in the category that was created under its link, if its form named no two groups or
filters by one id. -/
theorem published_products_shown (h₀ : w₀.offers = [])
    (h : Run (guarded FromForm (CatalogStep P publicUrl orm)) w₀ events w) :
    ((∃ views, ShowsCatalog PL w.listing views) ↔
      (∃ views, ShowsCatalog PL w₀.listing views) ∧
        ∀ q id, (.publication q, some id) ∈ events → ∀ item ∈ q.publication.items,
          ∀ row ∈ w₀.listing.products.rows, row.id = item.productId → row.Complete) ∧
    ∀ views, ShowsCatalog PL w.listing views → ∀ q id, (.publication q, some id) ∈ events →
      q.publication.items ≠ [] →
        ∃ shown ∈ views, FromForm.Published publicUrl events q id shown := by
  have hleft := left_of_run h₀ h
  refine ⟨?_, ?_⟩
  · rw [exists_showsCatalog, exists_showsCatalog, showable_of_run h₀ h]
    refine and_congr_right fun _ => forall_congr' fun q => forall_congr' fun id => ?_
    refine forall_congr' fun hmem => forall₂_congr fun item hitem => productComplete_iff h₀ h ?_
    -- the product of an item that was published is stored
    obtain ⟨row, -, -, -, hitems⟩ := hleft _ hmem
    unfold PublicationRequest.items storedItems at hitems
    rw [UpToOrder.map_left_iff] at hitems
    rw [← List.zipIdx_map_fst 0 q.publication.items] at hitem
    obtain ⟨p, hp, rfl⟩ := List.mem_map.mp hitem
    obtain ⟨stored, hstored, hsame⟩ := hitems.exists_mem hp
    have hproduct := w.listing.product_fk stored (List.mem_filter.mp hstored).1
    rw [hsame.productId] at hproduct
    exact hproduct
  intro views hviews q id hmem hne
  obtain ⟨row, hrow, rfl, hstores, hitems⟩ := hleft _ hmem
  -- the publication has an active item
  have hactive : (w.listing.load row).Active := by
    obtain ⟨p, hp⟩ := List.exists_mem_of_ne_nil q.publication.items.zipIdx
      fun hnil => hne (List.zipIdx_eq_nil_iff.mp hnil)
    obtain ⟨item, hloaded, hitem, -⟩ := (loaded_items hitems).exists_mem hp
    exact ⟨item, hloaded, hitem⟩
  have hsale : w.listing.load row ∈ w.listing.onSale :=
    List.mem_filter.mpr ⟨List.mem_map_of_mem hrow, decide_eq_true hactive⟩
  have hlisted := run_getPublications.mp hviews
  rw [publicationViews_eq] at hlisted
  obtain ⟨shown, hshown, hview⟩ := exists_of_mapM_ok hlisted hsale
  obtain ⟨hid, hlink, hpreorder, hdelivery, hall⟩ := publicationView_left hstores hitems hview
  refine ⟨shown, hshown, hid, hlink, hpreorder, hdelivery, hall.imp ?_⟩
  rintro p item ⟨hprice, hquantity, hindex, hcredit, product, hproduct, hproductView⟩
  refine ⟨hprice, hquantity, hindex, hcredit, ?_, fun r hr => ?_⟩
  · exact (id_productView hproductView).trans (Table.find?_eq_some.mp hproduct).2
  · obtain ⟨entered, hform, hdistinctly⟩ :=
      shownAsCreated_left (hleft _ hr) hproduct hproductView
    refine ⟨entered, parceCreateProductForm_eq_ok.mpr hform, fun hdistinct => ?_⟩
    obtain ⟨category, hcategory, hcategoryLink, hcreated⟩ := hdistinctly hdistinct
    refine ⟨category, hcreated, fun s id hs hsame => ?_⟩
    -- links are unique
    obtain ⟨-, hstored⟩ := hleft _ hs
    exact List.inj_on_of_nodup_map w.tables.products.unique_link hcategory hstored
      (hcategoryLink.trans hsame.symm)

end Runs

/-! A shop that has published nothing, in which a pencil is put together and published. -/

theorem AdminTables.nodup_productRows (t : AdminTables) : (t.productRows.map (·.id)).Nodup := by
  rw [t.ids_productRows]
  exact t.products.products.nodup

/-- The publications' view of tables without items. -/
def AdminTables.unpublished (t : AdminTables) : Listing :=
  { sampleListing with
    products := ⟨t.productRows, t.nodup_productRows⟩
    product_fk := fun _ h => absurd h List.not_mem_nil }

def unpublishedWorld (v : FormWorld Bytes) (h : v.tables.products.items = .empty) :
    CatalogWorld Bytes := ⟨v, v.tables.unpublished, rfl, h⟩

theorem products_servePublication (l : Listing) (q : PublicationRequest) :
    (endState (servePublication l q)).committed.products = l.products := by
  rcases publicationServed_cases l q with ⟨e, c, herror, hc⟩ | ⟨c, row, hins, hok, -, hc⟩
  · rw [herror, endState_error, hc]
  · rw [hok, endState_ok, hc]
    rfl

/-- The application after a request of a publication. -/
def CatalogWorld.publish (w : CatalogWorld Bytes) (q : PublicationRequest) :
    CatalogWorld Bytes where
  tables := w.tables.withItems (endState (servePublication w.listing q)).committed.catalog.items
  bucket := w.bucket
  offers := w.offers
  listing := (endState (servePublication w.listing q)).committed
  products := by
    rw [products_servePublication, productRows_withItems]
    exact w.products
  items := rfl

/-- Two offers of the pencil. -/
def pencilPublication : PublicationRequest where
  drawn := ⟨41, fun i => ⟨BitVec.ofNat 128 (50 + i)⟩, 2⟩
  publication :=
    { link := "pencils"
      items :=
        [{ productId := 8, price := 100, quantity := some 5 }, { productId := 8, price := 90 }] }
  fault := none

theorem items_serveProduct (P : Pillow Bytes Image) (publicUrl : String) (w : AdminWorld Bytes)
    (r : ProductRequest Bytes) :
    (endState (serveProduct P publicUrl w r)).committed.products.items =
      w.tables.products.items := by
  have hserved : ProductServed P publicUrl w r ⟨_, _⟩ := rfl
  rcases productServed_cases hserved with ⟨-, htables, -⟩ | ⟨_, _, _, -, -, -, -, hmerged, -⟩
  · exact congrArg (fun t : AdminTables => t.products.items) htables
  · exact hmerged.items

/-- The application with the pencil. -/
def pencilWorld : CatalogWorld (ℕ × ℕ) :=
  unpublishedWorld
    ⟨⟨(endState (serveProduct samplePillow "url" penWorld pencilRequest)).committed,
      (endState (serveProduct samplePillow "url" penWorld pencilRequest)).env⟩, [penOffer]⟩
    (items_serveProduct samplePillow "url" penWorld pencilRequest)

/-- The pencil is in the catalog, at both of its prices. -/
theorem published_products_shown_pencil :
    ∃ w views shown, Run (guarded FromForm (CatalogStep samplePillow "url" .flattening))
        (unpublishedWorld ⟨penWorld, []⟩ rfl) [(.form (.lookUp "pens"), none),
          (.form (.send pencilRequest), some 8), (.publication pencilPublication, some 41)] w ∧
      ShowsCatalog .strict w.listing views ∧ shown ∈ views ∧
      UpToOrder (fun price (item : CatalogItem) => item.price = price ∧
          item.product.title = "Pencil" ∧
          item.product.filterGroups = [⟨some 5, "Colour", [⟨some 6, "red"⟩]⟩])
        [100, 90] shown.items := by
  have hchosen : ∀ product, parceCreateProductForm pencilForm = .ok product →
      ChosenFrom [penOffer] (createProductDTO product) := by
    rintro product hread group hgroup
    cases hread
    -- the first group is a new one; the second is the offered one with a new filter
    rcases List.mem_cons.mp hgroup with rfl | hgroup
    · exact ⟨penOffer, List.mem_cons_self, rfl, .inl ⟨rfl, nofun⟩⟩
    · obtain rfl := List.mem_singleton.mp hgroup
      refine ⟨penOffer, List.mem_cons_self, rfl, .inr ⟨_, List.mem_cons_self, rfl, rfl, ?_⟩⟩
      exact fun filter hfilter => .inr hfilter
  -- the form is looked up, sent, and its product published
  have hlookUp : guarded FromForm (CatalogStep samplePillow "url" .flattening)
      (unpublishedWorld ⟨penWorld, []⟩ rfl) (.form (.lookUp "pens"), none)
      (unpublishedWorld ⟨penWorld, [penOffer]⟩ rfl) :=
    ⟨trivial, .form (.lookUp rfl) ⟨rfl, rfl, rfl, rfl⟩, rfl⟩
  have hsend : guarded FromForm (CatalogStep samplePillow "url" .flattening)
      (unpublishedWorld ⟨penWorld, [penOffer]⟩ rfl) (.form (.send pencilRequest), some 8)
      pencilWorld :=
    ⟨⟨penDraw_new, hchosen⟩, .form (.send rfl) ⟨rfl, rfl, rfl, rfl⟩, rfl⟩
  have hpublish : guarded FromForm (CatalogStep samplePillow "url" .flattening)
      pencilWorld (.publication pencilPublication, some 41)
      (pencilWorld.publish pencilPublication) := ⟨trivial, .publication rfl rfl, rfl⟩
  have hrun := Run.cons hlookUp (.cons hsend (.cons hpublish (.nil _)))
  obtain ⟨hcatalog, hshown⟩ := published_products_shown rfl hrun
  -- the only product of the start is the pen, which is not published
  obtain ⟨views, hviews⟩ := hcatalog.mpr ⟨⟨[], rfl⟩, fun q id hmem item hitem row hrow hid => by
    obtain rfl : q = pencilPublication := by simp_all
    have hpencil : item.productId = 8 := by
      obtain rfl | rfl : item = _ ∨ item = _ := by simpa [pencilPublication] using hitem
      · rfl
      · rfl
    have hkey : row.id ∈ penWorld.tables.productRows.map (·.id) := List.mem_map_of_mem hrow
    rw [AdminTables.ids_productRows, hid, hpencil] at hkey
    exact absurd hkey (by decide)⟩
  obtain ⟨shown, hmem, hpublished⟩ := hshown views hviews pencilPublication 41 (by simp)
    (List.cons_ne_nil _ _)
  refine ⟨_, views, shown, hrun, hviews, hmem, ?_⟩
  have hpencil : ∀ p ∈ pencilPublication.publication.items.zipIdx, p.1.productId = 8 := by decide
  show UpToOrder _ (pencilPublication.publication.items.zipIdx.map fun p => p.1.price) shown.items
  refine UpToOrder.map_left_iff.mpr ((hpublished.items.and_left hpencil).imp ?_)
  rintro p item ⟨hid, hitem⟩
  obtain ⟨product, hread, hentered⟩ := hitem.entered pencilRequest (by rw [hid]; simp)
  obtain rfl : pencil = product := Except.ok.inj hread
  obtain ⟨category, hcreated, -⟩ := hentered (distinctIds_pencil hread)
  exact ⟨hitem.price, hcreated.title, hcreated.filter_groups⟩

end Storefront
