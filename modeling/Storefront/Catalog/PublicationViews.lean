import Storefront.Catalog.Publications

/-!
# The list and the single view of publications

`get_publications` lists the publications with an active item, and `get_publication` shows one.
The first asks for the type `'preorder'`, which no publication is stored with: the type of a
preorder is `'PREORDER'`. The second asks an item for a `variation_index`, which it does not
have.

* `shows_what_is_on_sale_iff` — the list is what is on sale if and only if the catalog can be
  shown and no publication in it is a preorder;
* `preorder_not_shown` — a preorder is listed without its data;
* `single_view_raises` — a publication with an active item is never shown alone;
* `single_view_differs` — one that is in the list.
-/

namespace Storefront

variable {σ : Type}

/-! ### What is on sale -/

/-- The credit of an item has the parts of its plan, in stored order. -/
def ShowsCredit (P : Pydantic) (plan : Option CreditPlanORM) (shown : Option CreditInfo) : Prop :=
  Option.Rel (fun plan info => List.Forall₂ (fun part payment =>
    payment.sum = part.sum ∧ P.str part.deadline = .ok payment.deadline) plan.parts info.payments)
    plan shown

/-- A shown item is the stored one, with its product and its credit. -/
structure ShowsListedItem (P : Pydantic) (item : ListedItem) (shown : CatalogItem) : Prop where
  id : shown.id = item.row.id
  is_active : shown.isActive = item.row.isActive
  price : shown.price = item.row.price
  quantity : shown.quantity = item.row.quantity
  index : shown.index = item.row.index
  product : shown.product.id = item.row.productId
  credit_info : ShowsCredit P item.creditPlan shown.creditInfo

/-- A shown publication is the stored one, with exactly its active items, in stored order, and
with the data of its preorder exactly where it is one. -/
structure ShowsListed (P : Pydantic) (publication : ListedPublication) (shown : Publication) :
    Prop where
  id : shown.id = publication.row.id
  link : shown.link = publication.row.link
  items : List.Forall₂ (ShowsListedItem P) (publication.items.filter (·.row.isActive)) shown.items
  preorder : shown.preorder.isSome = true ↔ publication.row.type = PublicationType.preorder.value

instance (publication : ListedPublication) : Decidable publication.Active := by
  unfold ListedPublication.Active
  infer_instance

/-- The publications with an active item, in stored order. -/
def Listing.onSale (l : Listing) : List ListedPublication :=
  (l.publications.rows.map l.load).filter fun publication => publication.Active

/-- The list has exactly these, each with what is on sale of it. -/
def ShowsOnSale (P : ListingPydantic) (l : Listing) : Prop :=
  ∃ views, (getPublications P).run (Ctx.start l () : Ctx Listing PublicationObject Unit) =
      .ok views (Ctx.start l ()) ∧
    List.Forall₂ (ShowsListed P.toPydantic) l.onSale views

section Listed

variable {P : ListingPydantic} {l : Listing}

theorem showsCredit_of_view {P : Pydantic} {plan : Option CreditPlanORM}
    {shown : Option CreditInfo} (h : creditInfoView P plan = .ok shown) :
    ShowsCredit P plan shown := by
  cases plan with
  | none =>
    cases h
    exact .none
  | some plan =>
    obtain ⟨payments, hpayments, heq⟩ := except_bind_eq_ok.mp h
    cases heq
    refine .some ((mapM_eq_ok_iff_forall₂.mp hpayments).imp fun part payment hpart => ?_)
    obtain ⟨deadline, hdeadline, heq⟩ := except_bind_eq_ok.mp hpart
    cases heq
    exact ⟨rfl, hdeadline⟩

/-- What is shown of a loaded item. -/
theorem showsListedItem_of_view {P : Pydantic} {row : CatalogItemRow} {shown : CatalogItem}
    (h : catalogItemView P (l.loadItem row) = .ok shown) :
    ShowsListedItem P (l.loadItem row) shown := by
  obtain ⟨hprice, hquantity, -, hindex, -, product, hproduct, hid⟩ := catalogItemView_eq_ok h
  unfold catalogItemView at h
  simp only [except_bind_eq_ok] at h
  obtain ⟨credit, hcredit, _, _, _, _, heq⟩ := h
  cases heq
  exact {
    id := rfl
    is_active := rfl
    price := hprice
    quantity := hquantity
    index := hindex
    product := hid.trans (Table.find?_eq_some.mp hproduct).2
    credit_info := showsCredit_of_view hcredit }

/-- What is shown of a publication, apart from its preorder. -/
theorem publicationView_eq_ok {row : PublicationRow} {shown : Publication}
    (h : publicationView P (l.load row) = .ok shown) :
    shown.id = row.id ∧ shown.link = row.link ∧
      List.Forall₂ (ShowsListedItem P.toPydantic)
        ((l.load row).items.filter (·.row.isActive)) shown.items ∧
      preorderModelView P (l.load row) = .ok shown.preorder := by
  unfold publicationView at h
  simp only [except_bind_eq_ok] at h
  obtain ⟨items, hitems, preorder, hpreorder, delivery, hdelivery, heq⟩ := h
  cases heq
  refine ⟨rfl, rfl, ?_, hpreorder⟩
  -- the active items are loaded from rows, and each view is that of its row
  have hloaded : ∀ item ∈ (l.load row).items.filter (·.row.isActive),
      ∃ stored, l.loadItem stored = item := fun item hitem => by
    obtain ⟨stored, -, heq⟩ := List.mem_map.mp (List.mem_filter.mp hitem).1
    exact ⟨stored, heq⟩
  have hboth := (List.forall₂_and_left _ _).mpr ⟨hloaded, mapM_eq_ok_iff_forall₂.mp hitems⟩
  refine hboth.imp fun item view ⟨⟨stored, heq⟩, hview⟩ => ?_
  obtain rfl := heq
  exact showsListedItem_of_view hview

/-- The data of a preorder is never shown where types are those of `PublicationType`. -/
theorem preorderModelView_stored {publication : ListedPublication}
    (h : ∃ type : PublicationType, publication.row.type = type.value) :
    preorderModelView P publication = .ok none := by
  obtain ⟨type, htype⟩ := h
  have hne : publication.row.type ≠ "preorder" := by
    rw [htype]
    cases type <;> decide
  unfold preorderModelView
  exact if_neg hne

theorem publicationViews_eq (P : ListingPydantic) (l : Listing) :
    publicationViews P (l.publications.rows.map l.load) = l.onSale.mapM (publicationView P) := by
  have hactive : ∀ publication : ListedPublication,
      publication.items.any (·.row.isActive) = decide publication.Active := fun publication =>
    Bool.eq_iff_iff.mpr (List.any_eq_true.trans decide_eq_true_iff.symm)
  unfold publicationViews Listing.onSale
  simp only [hactive]

/-- The types of a catalog are those of `PublicationType`. -/
def Listing.TypesKnown (l : Listing) : Prop :=
  ∀ row ∈ l.publications.rows, ∃ type : PublicationType, row.type = type.value

/-- What the list shows of each publication on sale, preorders apart. -/
theorem forall₂_views (h_types : l.TypesKnown) {views : List Publication}
    (h : publicationViews P (l.publications.rows.map l.load) = .ok views) :
    List.Forall₂ (fun publication shown => shown.id = publication.row.id ∧
      shown.link = publication.row.link ∧ List.Forall₂ (ShowsListedItem P.toPydantic)
        (publication.items.filter (·.row.isActive)) shown.items ∧ shown.preorder = none)
      l.onSale views := by
  rw [publicationViews_eq] at h
  have hloaded : ∀ publication ∈ l.onSale, ∃ row ∈ l.publications.rows,
      l.load row = publication := fun publication hmem =>
    List.mem_map.mp (List.mem_filter.mp hmem).1
  refine ((List.forall₂_and_left _ _).mpr ⟨hloaded, mapM_eq_ok_iff_forall₂.mp h⟩).imp ?_
  rintro publication shown ⟨⟨row, hrow, rfl⟩, hview⟩
  obtain ⟨hid, hlink, hitems, hpreorder⟩ := publicationView_eq_ok hview
  rw [preorderModelView_stored (h_types row hrow)] at hpreorder
  exact ⟨hid, hlink, hitems, (Except.ok.inj hpreorder).symm⟩

/-- In a list that is what is on sale there is no preorder. -/
theorem stock_of_showsOnSale (h_types : l.TypesKnown) (h : ShowsOnSale P l) :
    ∀ publication ∈ l.onSale, publication.row.type ≠ PublicationType.preorder.value := by
  obtain ⟨views, hrun, hlisted⟩ := h
  intro publication hmem htype
  obtain ⟨shown, hzip, hshown⟩ := exists_mem_zip_of_forall₂ hlisted hmem
  obtain ⟨-, -, -, hnone⟩ :=
    (List.forall₂_iff_zip.mp (forall₂_views h_types (run_getPublications.mp hrun))).2 hzip
  have hsome := hshown.preorder.mpr htype
  rw [hnone] at hsome
  exact Bool.false_ne_true hsome

end Listed

/-- **When the list is what is on sale.** In a catalog whose publications have types from
`PublicationType`, the list has exactly the publications with an active item, each with its
active items, their credits and the data of its preorder, if and only if the catalog can be
shown and none of these publications is a preorder. -/
theorem shows_what_is_on_sale_iff (P : ListingPydantic) (l : Listing) (h_types : l.TypesKnown) :
    ShowsOnSale P l ↔ l.Showable P ∧ ∀ publication ∈ l.onSale,
      publication.row.type ≠ PublicationType.preorder.value := by
  refine ⟨fun h => ⟨?_, stock_of_showsOnSale h_types h⟩, fun ⟨hshowable, hstock⟩ => ?_⟩
  · obtain ⟨views, hrun, -⟩ := h
    exact exists_publicationViews.mp ⟨views, run_getPublications.mp hrun⟩
  · obtain ⟨views, hviews⟩ := exists_publicationViews.mpr hshowable
    have hboth := (List.forall₂_and_left _ _).mpr ⟨hstock, forall₂_views h_types hviews⟩
    refine ⟨views, run_getPublications.mpr hviews, hboth.imp ?_⟩
    rintro publication shown ⟨hne, hid, hlink, hitems, hnone⟩
    refine ⟨hid, hlink, hitems, iff_of_false ?_ hne⟩
    rw [hnone]
    exact Bool.false_ne_true

/-! One publication with one item, of either type. -/

def saleItem : CatalogItemRow where
  id := 1
  publicationId := 2
  productId := 3
  creditPlanId := none
  price := 100
  isActive := true
  quantity := some 5
  orderedQuantity := 0
  createdAt := 0
  updatedAt := some 0
  index := none

def salePublication (type : PublicationType) : PublicationRow where
  id := 2
  preorderId := some 6
  createdAt := 0
  updatedAt := some 0
  type := type.value
  link := "link"
  deliveryCostIncluded := none

def salePreorder : PreorderRow where
  id := 6
  createdAt := 0
  expectedArrival := none
  status := "open"
  updatedAt := none
  title := "preorder"

def saleListing (type : PublicationType) : Listing where
  preorders := ⟨[salePreorder], List.nodup_singleton _⟩
  publications := ⟨[salePublication type], List.nodup_singleton _⟩
  products := sampleListing.products
  creditPlans := .empty
  items := ⟨[saleItem], List.nodup_singleton _⟩
  unique_link := List.nodup_singleton _
  preorder_fk := List.forall_mem_singleton.mpr fun _ h => by
    cases h
    exact List.mem_cons_self
  publication_fk := List.forall_mem_singleton.mpr List.mem_cons_self
  product_fk := List.forall_mem_singleton.mpr List.mem_cons_self
  credit_plan_fk := List.forall_mem_singleton.mpr nofun
  quantity_limit := List.forall_mem_singleton.mpr (by decide)

theorem typesKnown_saleListing (type : PublicationType) : (saleListing type).TypesKnown := by
  intro row hrow
  obtain rfl : row = salePublication type := List.mem_singleton.mp hrow
  exact ⟨type, rfl⟩

/-- A publication of the stock is shown. -/
theorem stock_on_sale : ShowsOnSale .strict (saleListing .stock) := by
  have hviews : ∃ views, (getPublications .strict).run
      (Ctx.start (saleListing .stock) () : Ctx Listing PublicationObject Unit) =
        .ok views (Ctx.start (saleListing .stock) ()) := ⟨_, rfl⟩
  obtain ⟨views, hrun⟩ := hviews
  refine (shows_what_is_on_sale_iff .strict _ (typesKnown_saleListing .stock)).mpr ⟨?_, ?_⟩
  · exact exists_publicationViews.mp ⟨views, run_getPublications.mp hrun⟩
  · intro publication hmem
    obtain ⟨row, hrow, rfl⟩ := List.mem_map.mp (List.mem_filter.mp hmem).1
    obtain rfl : row = salePublication .stock := List.mem_singleton.mp hrow
    decide

/-- **A preorder is listed without its data.** -/
theorem preorder_not_shown :
    ∃ views, (getPublications .strict).run
        (Ctx.start (saleListing .preorder) () : Ctx Listing PublicationObject Unit) =
          .ok views (Ctx.start (saleListing .preorder) ()) ∧
      views.map (fun view => (view.id, view.preorder)) = [(2, none)] ∧
      ¬ ShowsOnSale .strict (saleListing .preorder) := by
  have hviews : ∃ views, (getPublications .strict).run
      (Ctx.start (saleListing .preorder) () : Ctx Listing PublicationObject Unit) =
        .ok views (Ctx.start (saleListing .preorder) ()) ∧
      views.map (fun view => (view.id, view.preorder)) = [(2, none)] := ⟨_, rfl, rfl⟩
  obtain ⟨views, hrun, hshown⟩ := hviews
  refine ⟨views, hrun, hshown, fun h => ?_⟩
  have hstock := stock_of_showsOnSale (typesKnown_saleListing .preorder) h
  have hmem : (saleListing .preorder).load (salePublication .preorder) ∈
      (saleListing .preorder).onSale :=
    List.mem_filter.mpr ⟨List.mem_cons_self, by decide⟩
  exact hstock _ hmem rfl

/-! ### The single view -/

/-- `catalog_item.variation_index`, an attribute that `CatalogItemORM` does not have. -/
def variationIndex (_ : CatalogItemRow) : Except PyExc (Option Nat) := .error .attributeError

/-- `CatalogItem(…)` of an item, in `get_publication`. -/
def catalogItemSingleView (P : Pydantic) (item : ListedItem) : Except PyExc CatalogItem := do
  let index ← variationIndex item.row
  let creditInfo ← creditInfoView P item.creditPlan
  let product ← attributeOf item.product
  let product ← productView product
  return {
    id := item.row.id
    createdAt := item.row.createdAt
    updatedAt := item.row.updatedAt
    price := item.row.price
    quantity := item.row.quantity
    isActive := item.row.isActive
    index
    creditInfo
    product }

/-- `Publication(…)` of a publication, in `get_publication`. -/
def publicationSingleView (P : ListingPydantic) (publication : ListedPublication) :
    Except PyExc Publication := do
  let items ←
    (publication.items.filter (·.row.isActive)).mapM (catalogItemSingleView P.toPydantic)
  let preorder ← preorderModelView P publication
  let deliveryCostIncluded ← deliveryCostView publication.row.deliveryCostIncluded
  return {
    id := publication.row.id
    createdAt := publication.row.createdAt
    updatedAt := publication.row.updatedAt
    link := publication.row.link
    preorder
    items
    deliveryCostIncluded }

/-- `CatalogService.get_publication` -/
def getPublication (P : ListingPydantic) (publicationId : UUID) :
    EStateM PyExc (Ctx Listing PublicationObject σ) Publication := do
  let publication ← Session.query listingBackend fun l =>
    (l.publications.find? publicationId).map l.load
  let publication ← liftExcept (attributeOf publication)
  liftExcept (publicationSingleView P publication)

/-- The publication is shown alone as it is in the list. -/
def SingleViewAgrees (P : ListingPydantic) (l : Listing) (row : PublicationRow) : Prop :=
  ∃ view, (getPublication P row.id).run (Ctx.start l () : Ctx Listing PublicationObject Unit) =
      .ok view (Ctx.start l ()) ∧
    ∃ views, (getPublications P).run (Ctx.start l () : Ctx Listing PublicationObject Unit) =
      .ok views (Ctx.start l ()) ∧ view ∈ views

section Single

variable {P : ListingPydantic} {l : Listing} {row : PublicationRow}

theorem run_getPublication (h : row ∈ l.publications.rows) :
    (getPublication P row.id).run (Ctx.start l () : Ctx Listing PublicationObject Unit) =
      (liftExcept (publicationSingleView P (l.load row)) :
        EStateM PyExc (Ctx Listing PublicationObject Unit) Publication).run (Ctx.start l ()) := by
  unfold getPublication
  rw [run_bind_ok (Session.run_query_clean listingBackend _ (Ctx.clean_start l ()) _)]
  show (do
    let publication ← liftExcept (attributeOf ((l.publications.find? row.id).map l.load))
    liftExcept (publicationSingleView P publication) :
      EStateM PyExc (Ctx Listing PublicationObject Unit) Publication).run _ = _
  rw [show l.publications.find? row.id = some row from Table.find?_of_mem h]
  rfl

/-- No active item can be shown. -/
theorem publicationSingleView_of_active {publication : ListedPublication}
    (h : publication.Active) : publicationSingleView P publication = .error .attributeError := by
  obtain ⟨item, hitem, hactive⟩ := h
  have hmem : item ∈ publication.items.filter (·.row.isActive) :=
    List.mem_filter.mpr ⟨hitem, hactive⟩
  obtain ⟨first, rest, hitems⟩ := List.exists_cons_of_ne_nil (List.ne_nil_of_mem hmem)
  unfold publicationSingleView
  rw [hitems]
  rfl

/-- The publications that are shown alone: those without an active item. -/
theorem exists_getPublication_iff (h : row ∈ l.publications.rows) :
    (∃ view, (getPublication P row.id).run
        (Ctx.start l () : Ctx Listing PublicationObject Unit) = .ok view (Ctx.start l ())) ↔
      ¬ (l.load row).Active ∧ (l.load row).Showable P := by
  rw [run_getPublication h]
  by_cases hactive : (l.load row).Active
  · rw [publicationSingleView_of_active hactive]
    exact iff_of_false nofun fun h => h.1 hactive
  · have hnone : (l.load row).items.filter (·.row.isActive) = [] :=
      List.filter_eq_nil_iff.mpr fun item hitem hitem' => hactive ⟨item, hitem, hitem'⟩
    -- without items the two views are one
    have hsame : publicationSingleView P (l.load row) = publicationView P (l.load row) := by
      unfold publicationSingleView publicationView
      rw [hnone]
      rfl
    rw [and_iff_right hactive, ← exists_publicationView, hsame]
    exact exists_congr fun view => liftExcept_eq_ok.trans (and_iff_left rfl)

end Single

/-- **The single view always raises.** A publication with an active item is never shown alone:
`get_publication` raises, whatever `get_publications` shows. -/
theorem single_view_raises (P : ListingPydantic) (l : Listing) (row : PublicationRow)
    (h : row ∈ l.publications.rows) (h_active : (l.load row).Active) :
    (getPublication P row.id).run (Ctx.start l () : Ctx Listing PublicationObject Unit) =
        .error .attributeError (Ctx.start l ()) ∧
      ¬ SingleViewAgrees P l row := by
  refine ⟨?_, ?_⟩
  · rw [run_getPublication h, publicationSingleView_of_active h_active]
    rfl
  · rintro ⟨view, hrun, _⟩
    exact ((exists_getPublication_iff h).mp ⟨view, hrun⟩).1 h_active

/-- So it does for a publication of the stock with one item. -/
theorem single_view_raises_stock :
    (getPublication .strict 2).run
      (Ctx.start (saleListing .stock) () : Ctx Listing PublicationObject Unit) =
        .error .attributeError (Ctx.start (saleListing .stock) ()) := by
  have hactive : ((saleListing .stock).load (salePublication .stock)).Active := by decide
  exact (single_view_raises .strict (saleListing .stock) (salePublication .stock)
    List.mem_cons_self hactive).1

/-- **A publication that is in the list is not shown alone.** -/
theorem single_view_differs :
    (∃ views, (getPublications .strict).run
        (Ctx.start (saleListing .stock) () : Ctx Listing PublicationObject Unit) =
          .ok views (Ctx.start (saleListing .stock) ()) ∧ views.map (·.id) = [2]) ∧
      ¬ SingleViewAgrees .strict (saleListing .stock) (salePublication .stock) := by
  refine ⟨⟨_, rfl, rfl⟩, ?_⟩
  rintro ⟨view, hrun, -⟩
  have hmem : salePublication .stock ∈ (saleListing .stock).publications.rows := List.mem_cons_self
  exact ((exists_getPublication_iff hmem).mp ⟨view, hrun⟩).1 (by decide)

end Storefront
