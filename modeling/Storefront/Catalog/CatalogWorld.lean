import Storefront.Catalog.Categories
import Storefront.Catalog.ProductForm
import Storefront.Catalog.PublicationViews
import Storefront.Library.UpToOrder
import Storefront.Order.Stock

/-!
# The shop as its forms see it

A product reaches the clients by a chain of requests: its category is created, its filters are
looked up, it is put together from what was offered and sent, and it is published. Others do the
same in between, and clients order what is published.

The product handlers and the publications look at one database in two ways, which a
`CatalogWorld` holds side by side: its fields `products` and `items` say that what the one sees is
what the other sees. Every request writes on its side, and the other side follows.

`Left` is what a request leaves in the tables, and `CatalogWorld.Keeps` that no later request
takes it away: a product edits no other because it is put together from offers, a publication
touches nothing that is stored, and an order takes from the stock of an item only. An order also
updates rows, and no query asks for the items of a publication in an order, so that the items are
kept up to it.

* `keeps_send`, `keeps_category`, `keeps_insert` and `keeps_ordered` — one for each request;
* `catalog_step` — what any of them keeps, leaves and adds.
-/

namespace Storefront

variable {Bytes Image : Type}

/-! ### Two views of one database -/

/-- The tables of products with other items. -/
def AdminTables.withItems (t : AdminTables) (items : Table CatalogItemORM.id) : AdminTables :=
  { t with products := { t.products with items } }

/-- The application with its publications. -/
structure CatalogWorld (Bytes : Type) extends FormWorld Bytes where
  listing : Listing
  products : listing.products.rows = tables.productRows
  items : tables.products.items = listing.catalog.items

/-- Publications load a product without its items. -/
theorem productRows_withItems (t : AdminTables) (items : Table CatalogItemORM.id) :
    (t.withItems items).productRows = t.productRows := by
  -- items are only loaded with a product; its row does not depend on them
  have hload : ∀ product ∈ t.loaded.products.rows,
      ((t.withItems items).loaded.loadProduct product.id).map (·.toProductRow) =
        (t.loaded.loadProduct product.id).map (·.toProductRow) := by
    intro product hproduct
    have hfound : (t.withItems items).loaded.products.find? product.id = some product :=
      Table.find?_of_mem hproduct
    unfold ProductTables.loadProduct
    rw [hfound, Table.find?_of_mem hproduct]
    show Option.map _ (t.loaded.categories.find? product.categoryId >>= _) =
      Option.map _ (t.loaded.categories.find? product.categoryId >>= _)
    cases t.loaded.categories.find? product.categoryId with
    | none => rfl
    | some category => rfl
  unfold AdminTables.productRows ProductTables.loadAllProducts
  rw [List.map_filterMap, List.map_filterMap]
  exact List.filterMap_congr hload

/-- Publications see every product. -/
theorem AdminTables.ids_productRows (t : AdminTables) :
    t.productRows.map (·.id) = t.products.products.keys := by
  have hids : t.productRows.map (·.id) = t.loaded.products.keys := by
    unfold AdminTables.productRows ProductTables.loadAllProducts Table.keys
    rw [List.map_map, List.map_filterMap, ← List.filterMap_eq_map]
    refine List.filterMap_congr fun product hproduct => ?_
    obtain ⟨loaded, hload, hid, -⟩ := exists_loadProduct hproduct
    rw [hload]
    exact congrArg some hid
  rw [hids]
  exact List.map_map

/-- An item belongs to a product that is stored. -/
theorem CatalogWorld.product_of_item (w : CatalogWorld Bytes) :
    ∀ item ∈ w.tables.products.items.rows, item.productId ∈ w.tables.products.products.keys := by
  rw [w.items]
  refine List.forall_mem_map.mpr fun item hitem => ?_
  have hproduct := w.listing.product_fk item hitem
  unfold Table.keys at hproduct
  rw [w.products, AdminTables.ids_productRows] at hproduct
  exact hproduct

/-! ### Requests -/

/-- A request of a publication: what is drawn for it, what it asks for, and what goes wrong at its
commit. -/
structure PublicationRequest where
  drawn : PublicationDraw
  publication : CreatePublicationRequestSchema
  fault : Option PyExc

/-- `POST /admin/publication`, in its transaction. -/
def servePublication (l : Listing) (q : PublicationRequest) :
    EStateM.Result PyExc (Ctx Listing PublicationObject Unit) UUID :=
  (initCtxDbSession listingBackend q.fault .post
    (createPublicationEntrypoint q.drawn q.publication)).run (Ctx.start l ())

/-- The rows of the items of a request. -/
def PublicationRequest.items (q : PublicationRequest) : List CatalogItemRow :=
  storedItems q.drawn q.publication.items

/-- The row is that of the publication of a request. -/
structure PublicationRequest.Stores (q : PublicationRequest) (row : PublicationRow) : Prop where
  id : row.id = q.drawn.publicationId
  link : row.link = q.publication.link
  type : row.type = PublicationType.stock.value
  delivery : deliveryCostView row.deliveryCostIncluded = .ok none

/-- **What a request of a publication does**: it raises and changes nothing, or it inserts its
publication with its items. -/
theorem publicationServed_cases (l : Listing) (q : PublicationRequest) :
    (∃ e c, servePublication l q = .error e c ∧ c.committed = l) ∨
    ∃ c row, ∃ h : l.Insertable row q.items,
      servePublication l q = .ok q.drawn.publicationId c ∧ q.Stores row ∧
        c.committed = l.insert row q.items h := by
  -- the handler cannot fail: it only adds the object, so all is decided at the commit
  have hrun : (createPublicationEntrypoint q.drawn q.publication).run
      (Ctx.start l () : Ctx Listing PublicationObject Unit) = .ok q.drawn.publicationId _ :=
    run_createPublication _
  cases hserved : servePublication l q with
  | error e c =>
    have hcommitted := committed_initCtxDbSession_error hserved
    rw [hrun] at hcommitted
    exact .inl ⟨e, c, rfl, hcommitted⟩
  | ok id c =>
    obtain ⟨c₁, hhandler, -⟩ := initCtxDbSession_eq_ok.mp hserved
    obtain rfl := (EStateM.Result.ok.inj (hrun.symm.trans hhandler)).1
    -- a stored publication has no delivery part: the column refuses a truth value
    have hnone := delivery_eq_none_of_stored hserved
    obtain ⟨row, hrow, hins, hcommitted⟩ := storePublication_eq_ok hserved
    obtain ⟨hid, hlink, htype, shown, hshown, hdelivery⟩ := row_publicationObject hrow
    rw [hnone] at hdelivery
    obtain rfl : shown = none := Option.map_eq_none_iff.mp hdelivery
    exact .inr ⟨c, row, hins, rfl, ⟨hid, hlink, htype, hshown⟩, hcommitted⟩

/-- Nothing but products differs. -/
structure Listing.OtherProducts (l l' : Listing) : Prop where
  preorders : l'.preorders = l.preorders
  publications : l'.publications = l.publications
  creditPlans : l'.creditPlans = l.creditPlans
  items : l'.items = l.items

/-- Nothing but the stock of items, the times of their updates and the order of their rows
differs, the stock being that of the given items. -/
structure Listing.OtherStock (l l' : Listing) (items : List CatalogItemORM) : Prop where
  preorders : l'.preorders = l.preorders
  publications : l'.publications = l.publications
  products : l'.products = l.products
  creditPlans : l'.creditPlans = l.creditPlans
  items : ∃ rows : List CatalogItemRow, rows.map (·.toCatalogItemORM) = items ∧
    List.Forall₂ (fun item item' : CatalogItemRow =>
      item'.createdAt = item.createdAt ∧ item'.index = item.index) l.items.rows rows ∧
    rows.Perm l'.items.rows

inductive CatalogEvent (Bytes : Type)
  | form (event : FormEvent Bytes)
  | category (s : CategoryRequest)
  | publication (q : PublicationRequest)
  | order (r : OrderRequest)

/-- What an event is answered: the id of what it creates. -/
def CatalogWorld.answer (P : Pillow Bytes Image) (publicUrl : String) (w : CatalogWorld Bytes) :
    CatalogEvent Bytes → Option UUID
  | .form (.lookUp _) => none
  | .form (.send r) => productIdOf (serveProduct P publicUrl w.toAdminWorld r)
  | .category s => productIdOf (serveCategory w.tables s)
  | .publication q => productIdOf (servePublication w.listing q)
  | .order _ => none

/-- What an event leads to. Orders that do not commit change nothing here, and have no rule. -/
inductive CatalogServed (P : Pillow Bytes Image) (publicUrl : String) (orm : Orm) :
    CatalogWorld Bytes → CatalogEvent Bytes → CatalogWorld Bytes → Prop
  | form {w w' : CatalogWorld Bytes} {event : FormEvent Bytes} :
      FormStep P publicUrl w.toFormWorld event w'.toFormWorld →
      w.listing.OtherProducts w'.listing →
      CatalogServed P publicUrl orm w (.form event) w'
  | category {w w' : CatalogWorld Bytes} {s : CategoryRequest} :
      w'.toFormWorld =
        { w.toFormWorld with tables := (endState (serveCategory w.tables s)).committed } →
      w.listing.OtherProducts w'.listing →
      CatalogServed P publicUrl orm w (.category s) w'
  | publication {w w' : CatalogWorld Bytes} {q : PublicationRequest} :
      w'.listing = (endState (servePublication w.listing q)).committed →
      w'.toFormWorld =
        { w.toFormWorld with tables := w.tables.withItems w'.listing.catalog.items } →
      CatalogServed P publicUrl orm w (.publication q) w'
  | order {w w' : CatalogWorld Bytes} {r : OrderRequest} {db db' : Database} :
      db.catalog = w.listing.catalog → r.Commits orm db db' →
      w.listing.OtherStock w'.listing db'.catalog.items.rows →
      w'.toFormWorld =
        { w.toFormWorld with tables := w.tables.withItems w'.listing.catalog.items } →
      CatalogServed P publicUrl orm w (.order r) w'

/-- The step relation: an event with its answer. -/
def CatalogStep (P : Pillow Bytes Image) (publicUrl : String) (orm : Orm) (w : CatalogWorld Bytes)
    (event : CatalogEvent Bytes × Option UUID) (w' : CatalogWorld Bytes) : Prop :=
  CatalogServed P publicUrl orm w event.1 w' ∧ event.2 = w.answer P publicUrl event.1

/-- A product that is sent is put together from offers, and the ids that are drawn are new. -/
def FromForm (w : CatalogWorld Bytes) : CatalogEvent Bytes × Option UUID → Prop
  | (.form event, _) => FromOffers w.toFormWorld event
  | _ => True

/-! ### What stays -/

/-- What is offered of an item stays: its stock is taken from, and with it the time of its last
update changes. -/
structure SameOffer (item item' : CatalogItemRow) : Prop where
  id : item'.id = item.id
  publicationId : item'.publicationId = item.publicationId
  productId : item'.productId = item.productId
  creditPlanId : item'.creditPlanId = item.creditPlanId
  price : item'.price = item.price
  isActive : item'.isActive = item.isActive
  quantity : item'.quantity = item.quantity
  createdAt : item'.createdAt = item.createdAt
  index : item'.index = item.index

theorem SameOffer.refl (item : CatalogItemRow) : SameOffer item item :=
  ⟨rfl, rfl, rfl, rfl, rfl, rfl, rfl, rfl, rfl⟩

theorem SameOffer.trans {item₁ item₂ item₃ : CatalogItemRow} (h : SameOffer item₁ item₂)
    (h' : SameOffer item₂ item₃) : SameOffer item₁ item₃ where
  id := h'.id.trans h.id
  publicationId := h'.publicationId.trans h.publicationId
  productId := h'.productId.trans h.productId
  creditPlanId := h'.creditPlanId.trans h.creditPlanId
  price := h'.price.trans h.price
  isActive := h'.isActive.trans h.isActive
  quantity := h'.quantity.trans h.quantity
  createdAt := h'.createdAt.trans h.createdAt
  index := h'.index.trans h.index

/-- The items of a publication. -/
def Listing.itemsOf (l : Listing) (publicationId : UUID) : List CatalogItemRow :=
  l.items.rows.filter fun item => item.publicationId = publicationId

/-- The products and the publications of a catalog stay. -/
structure Listing.Keeps (l l' : Listing) : Prop where
  products : ∀ row ∈ l.products.rows, row ∈ l'.products.rows
  creditPlans : l'.creditPlans = l.creditPlans
  preorders : l'.preorders = l.preorders
  publications : ∀ row ∈ l.publications.rows, row ∈ l'.publications.rows
  items : ∀ row ∈ l.publications.rows, UpToOrder SameOffer (l.itemsOf row.id) (l'.itemsOf row.id)

/-- So does the application. -/
structure CatalogWorld.Keeps (w w' : CatalogWorld Bytes) : Prop where
  listing : w.listing.Keeps w'.listing
  categories : ∀ category ∈ w.tables.products.categories.rows,
    category ∈ w'.tables.products.categories.rows

theorem Listing.Keeps.refl (l : Listing) : l.Keeps l where
  products _ h := h
  creditPlans := rfl
  preorders := rfl
  publications _ h := h
  items _ _ := .refl SameOffer.refl _

theorem Listing.Keeps.trans {l l' l'' : Listing} (h : l.Keeps l') (h' : l'.Keeps l'') :
    l.Keeps l'' where
  products row hrow := h'.products row (h.products row hrow)
  creditPlans := h'.creditPlans.trans h.creditPlans
  preorders := h'.preorders.trans h.preorders
  publications row hrow := h'.publications row (h.publications row hrow)
  items row hrow :=
    .trans SameOffer.trans (h.items row hrow) (h'.items row (h.publications row hrow))

theorem CatalogWorld.Keeps.refl (w : CatalogWorld Bytes) : w.Keeps w := ⟨.refl _, fun _ h => h⟩

theorem CatalogWorld.Keeps.trans {w w' w'' : CatalogWorld Bytes} (h : w.Keeps w')
    (h' : w'.Keeps w'') : w.Keeps w'' :=
  ⟨h.listing.trans h'.listing, fun category hmem =>
    h'.categories category (h.categories category hmem)⟩

section Keeps

variable {l l' : Listing}

/-- A catalog with more products. -/
theorem Listing.OtherProducts.keeps (h : l.OtherProducts l')
    (h_products : ∀ row ∈ l.products.rows, row ∈ l'.products.rows) : l.Keeps l' where
  products := h_products
  creditPlans := h.creditPlans
  preorders := h.preorders
  publications := h.publications ▸ fun _ hrow => hrow
  items row _ := by
    unfold Listing.itemsOf
    rw [h.items]
    exact .refl SameOffer.refl _

/-- A catalog with one more publication. -/
theorem keeps_insert {row : PublicationRow} {stored : List CatalogItemRow}
    (h : l.Insertable row stored) : l.Keeps (l.insert row stored h) where
  products _ hrow := hrow
  creditPlans := rfl
  preorders := rfl
  publications _ hrow := List.mem_append_left _ hrow
  items old hold := by
    have hnone : (stored.filter fun item => item.publicationId = old.id) = [] := by
      refine List.filter_eq_nil_iff.mpr fun item hitem hid => h.id_new ?_
      rw [← h.publication_id item hitem, of_decide_eq_true hid]
      exact Table.mem_keys_of_mem hold
    have hsame : (l.insert row stored h).itemsOf old.id = l.itemsOf old.id := by
      show (l.items.rows ++ stored).filter _ = _
      rw [List.filter_append, hnone, List.append_nil]
      rfl
    rw [hsame]
    exact .refl SameOffer.refl _

/-- The items of the new publication. -/
theorem itemsOf_insert {row : PublicationRow} {stored : List CatalogItemRow}
    (h : l.Insertable row stored) : (l.insert row stored h).itemsOf row.id = stored := by
  have hold : (l.items.rows.filter fun item => item.publicationId = row.id) = [] := by
    refine List.filter_eq_nil_iff.mpr fun item hitem hid => h.id_new ?_
    rw [← of_decide_eq_true hid]
    exact l.publication_fk item hitem
  have hnew : (stored.filter fun item => item.publicationId = row.id) = stored :=
    List.filter_eq_self.mpr fun item hitem => decide_eq_true (h.publication_id item hitem)
  show (l.items.rows ++ stored).filter _ = _
  rw [List.filter_append, hold, hnew, List.nil_append]

/-- A catalog after an order. -/
theorem keeps_ordered {orm : Orm} {r : OrderRequest} {db db' : Database}
    (h_catalog : db.catalog = l.catalog) (h_commits : r.Commits orm db db')
    (h : l.OtherStock l' db'.catalog.items.rows) : l.Keeps l' := by
  obtain ⟨hstock, -⟩ := Commits.stock h_commits
  obtain ⟨rows, hrows, hsame, hperm⟩ := h.items
  rw [h_catalog, ← hrows] at hstock
  -- each item is the one before it with another number of ordered pieces
  have horm : List.Forall₂ (fun item item' : CatalogItemRow => ∃ n,
      item'.toCatalogItemORM = item.toCatalogItemORM.withOrdered n) l.items.rows rows := by
    have heq : List.Forall₂ Eq (rows.map (·.toCatalogItemORM)) ((l.items.rows.map
        (·.toCatalogItemORM)).map fun item => item.withOrdered
          (item.orderedQuantity + (r.reservation.get? item.id).getD 0)) := by
      rw [List.forall₂_eq_eq_eq]
      exact hstock
    rw [List.map_map, List.forall₂_map_left_iff, List.forall₂_map_right_iff] at heq
    exact heq.flip.imp fun _ _ hitem => ⟨_, hitem⟩
  -- what an item offers does not depend on that number
  have hitems : UpToOrder SameOffer l.items.rows l'.items.rows := by
    refine ⟨rows, List.Forall₂.mp ?_ horm hsame, hperm⟩
    rintro item item' ⟨n, hitem⟩ ⟨hcreated, hindex⟩
    exact {
      id := congrArg (·.id) hitem
      publicationId := congrArg (·.publicationId) hitem
      productId := congrArg (·.productId) hitem
      creditPlanId := congrArg (·.creditPlanId) hitem
      price := congrArg (·.price) hitem
      isActive := congrArg (·.isActive) hitem
      quantity := congrArg (·.quantity) hitem
      createdAt := hcreated
      index := hindex }
  -- only the items have changed, and those of a publication up to their order
  refine ⟨h.products ▸ fun _ hrow => hrow, h.creditPlans, h.preorders,
    h.publications ▸ fun _ hrow => hrow, fun row _ => ?_⟩
  refine hitems.filter fun item item' hsame => ?_
  show decide _ = true ↔ decide _ = true
  rw [hsame.publicationId]

end Keeps

/-! ### What a request leaves -/

/-- The product of a request, whose form could be read, is loaded as it was entered. -/
def ProductLeft (publicUrl : String) (w : CatalogWorld Bytes) (r : ProductRequest Bytes)
    (id : UUID) : Prop :=
  id = r.drawn.productId ∧ ∃ product, r.form = product.form ∧
    ∃ category ∈ w.tables.products.categories.rows, category.link = product.categoryLink ∧
      ∃ row ∈ w.listing.products.rows, row.id = id ∧
        row.physicalProperties = some product.physicalProperties.dump ∧
        (DistinctIds r.drawn (createProductDTO product) →
          row = (enteredProduct publicUrl r.drawn product category).toProductRow ∧
            prepareFilterGroups row.filters = requestedGroups r.drawn (createProductDTO product))

/-- The publication of a request is stored, with its items. -/
def PublicationLeft (w : CatalogWorld Bytes) (q : PublicationRequest) (id : UUID) : Prop :=
  ∃ row ∈ w.listing.publications.rows, row.id = id ∧ q.Stores row ∧
    UpToOrder SameOffer q.items (w.listing.itemsOf row.id)

/-- What an event that was answered with an id has left. -/
def Left (publicUrl : String) (w : CatalogWorld Bytes) : CatalogEvent Bytes × Option UUID → Prop
  | (.form (.send r), some id) => ProductLeft publicUrl w r id
  | (.category s, some id) => id = s.drawn.categoryId ∧ s.row ∈ w.tables.products.categories.rows
  | (.publication q, some id) => PublicationLeft w q id
  | _ => True

/-- It stays. -/
theorem Left.kept {publicUrl : String} {w w' : CatalogWorld Bytes} (h : w.Keeps w')
    {event : CatalogEvent Bytes × Option UUID} (h_left : Left publicUrl w event) :
    Left publicUrl w' event := by
  match event with
  | (.form (.send r), some id) =>
    obtain ⟨hid, product, hform, category, hcategory, hlink, row, hrow, hrest⟩ := h_left
    exact ⟨hid, product, hform, category, h.categories category hcategory, hlink, row,
      h.listing.products row hrow, hrest⟩
  | (.category s, some id) => exact ⟨h_left.1, h.categories _ h_left.2⟩
  | (.publication q, some id) =>
    obtain ⟨row, hrow, hid, hstores, hitems⟩ := h_left
    exact ⟨row, h.listing.publications row hrow, hid, hstores,
      .trans SameOffer.trans hitems (h.listing.items row hrow)⟩
  -- the others have left nothing to be kept
  | (.form (.lookUp _), _) => trivial
  | (.form (.send _), none) => trivial
  | (.category _, none) => trivial
  | (.publication _, none) => trivial
  | (.order _, _) => trivial

/-- The products and the publications that are new are those of the event. -/
structure NewFrom (w : CatalogWorld Bytes) (event : CatalogEvent Bytes × Option UUID)
    (w' : CatalogWorld Bytes) : Prop where
  products : ∀ row ∈ w'.listing.products.rows, row ∈ w.listing.products.rows ∨
    ∃ r, event = (.form (.send r), some row.id)
  publications : ∀ row ∈ w'.listing.publications.rows, row ∈ w.listing.publications.rows ∨
    ∃ q, event = (.publication q, some row.id)

section Steps

variable {P : Pillow Bytes Image} {publicUrl : String} {orm : Orm} {w w' : CatalogWorld Bytes}

/-- What stays stored stays offered. -/
theorem ValidOffer.grow {t t' : ProductTables} {offer : String × List FilterGroup}
    (h : ValidOffer t offer) (h_categories : ∀ row ∈ t.categories.rows, row ∈ t'.categories.rows)
    (h_groups : t'.groups = t.groups) (h_filters : t'.filters = t.filters) :
    ValidOffer t' offer := by
  intro said hsaid
  obtain ⟨group, hgroup⟩ := h said hsaid
  obtain ⟨category, hcategory, hin⟩ := hgroup.category
  exact ⟨group, {
    stored := h_groups ▸ hgroup.stored
    category := ⟨category, h_categories category hcategory, hin⟩
    id := hgroup.id
    title := hgroup.title
    filters := h_filters ▸ hgroup.filters }⟩

/-- A product that is sent leaves the others, and is left as it was entered, and no other. -/
theorem keeps_send {r : ProductRequest Bytes} (h_from : FromOffers w.toFormWorld (.send r))
    (h_valid : ValidOffers w.toFormWorld)
    (h : FormStep P publicUrl w.toFormWorld (.send r) w'.toFormWorld)
    (h_other : w.listing.OtherProducts w'.listing) :
    w.Keeps w' ∧ (∀ id, productIdOf (serveProduct P publicUrl w.toAdminWorld r) = some id →
      ProductLeft publicUrl w' r id) ∧
    ∀ row ∈ w'.listing.products.rows, row ∈ w.listing.products.rows ∨
      productIdOf (serveProduct P publicUrl w.toAdminWorld r) = some row.id := by
  obtain ⟨-, hshown⟩ := valid_step h_from h_valid h
  have hserved : ProductServed P publicUrl w.toAdminWorld r w'.toAdminWorld := by
    generalize w'.toFormWorld = v at h
    cases h with
    | send hserved => exact hserved
  rcases productServed_cases hserved with
    ⟨⟨e, c, herror⟩, htables, -⟩ | ⟨product, category, attachments, hform, hcategory, hupload,
      ⟨c, hok⟩, hmerged, hattachments⟩
  -- nothing is stored
  · have hrows : w'.listing.products.rows = w.listing.products.rows := by
      rw [w'.products, w.products, htables]
    refine ⟨⟨h_other.keeps fun row hrow => hrows ▸ hrow, ?_⟩, fun id hid => ?_,
      fun row hrow => .inl (hrows ▸ hrow)⟩
    · rw [htables]
      exact fun _ hmem => hmem
    · rw [herror] at hid
      cases hid
  · obtain rfl := attachments_of_run hupload
    have himages : r.form.images = product.images := congrArg CreateProductForm.images hform
    rw [himages] at hattachments
    have hnew : r.drawn.productId ∉ w.tables.products.products.keys := h_from.1.product
    have hown : ∀ attachment ∈ product.images.zipIdx.map
        (imageAttachment publicUrl r.drawn.productId),
        attachment.productId = r.drawn.productId := List.forall_mem_map.mpr fun _ _ => rfl
    have hproducts : w'.tables.products.products = w.tables.products.products.merge
        (storedObject r.drawn product category).product := by
      rw [hmerged.products, copiedOnto_find?_of_notMem hnew]
    -- the products that are there are loaded as before
    have hkept : ∀ row ∈ w.listing.products.rows, row ∈ w'.listing.products.rows := by
      intro row hrow
      rw [w.products, AdminTables.mem_productRows] at hrow
      rw [w'.products, AdminTables.mem_productRows]
      obtain ⟨loaded, hload, heq⟩ := hrow
      obtain ⟨product, hproduct, hid⟩ := Table.mem_keys.mp (id_of_loadProduct hload).2
      obtain ⟨stored, hstored, rfl⟩ := List.mem_map.mp hproduct
      replace hid : stored.id = row.id := hid
      have hsame := loadProduct_kept hnew hmerged hattachments hown hshown.groups hshown.filters
        hstored
      rw [hid] at hsame
      exact ⟨loaded, hsame.trans hload, heq⟩
    refine ⟨⟨h_other.keeps hkept, ?_⟩, fun id hid => ?_, fun row hrow => ?_⟩
    · rw [hmerged.categories]
      exact fun _ hmem => hmem
    -- the new one
    · rw [hok] at hid
      obtain rfl : r.drawn.productId = id := Option.some.inj hid
      have hstored : (storedObject r.drawn product category).product ∈
          w'.tables.products.products.rows := by
        rw [hproducts]
        exact Table.mem_merge.mpr (.inl rfl)
      obtain ⟨loaded, hload, hid', hphysical⟩ := exists_loadProduct
        (t := w'.tables.loaded) (List.mem_map_of_mem (f := w'.tables.withAttachments) hstored)
      replace hload : w'.tables.loaded.loadProduct r.drawn.productId = some loaded := hload
      replace hid' : loaded.id = r.drawn.productId := hid'
      refine ⟨rfl, product, hform, category, ?_, ?_, loaded.toProductRow, ?_, hid', hphysical,
        fun hdistinct => ?_⟩
      · rw [hmerged.categories]
        exact List.mem_of_find?_eq_some hcategory
      · simpa using List.find?_some hcategory
      · rw [w'.products, AdminTables.mem_productRows]
        exact ⟨loaded, hid' ▸ hload, rfl⟩
      · have hentered := loadProduct_created hnew w.product_of_item hdistinct hcategory hmerged
          hattachments
        obtain rfl := Option.some.inj (hload.symm.trans hentered)
        exact ⟨rfl, prepareFilterGroups_created hdistinct hmerged⟩
    -- there are no more ids than those of before and the one that was drawn
    · have hid : row.id ∈ w'.tables.products.products.keys := by
        rw [← AdminTables.ids_productRows, ← w'.products]
        exact List.mem_map_of_mem hrow
      rw [hproducts, Table.keys_merge_of_notMem hnew] at hid
      rcases List.mem_append.mp hid with hold | hdrawn
      · rw [← AdminTables.ids_productRows, ← w.products] at hold
        obtain ⟨old, hmem, hsame⟩ := List.mem_map.mp hold
        exact .inl (Table.eq_of_mem (hkept old hmem) hrow hsame ▸ hmem)
      · rw [hok]
        exact .inr (congrArg some (List.mem_singleton.mp hdrawn).symm)

/-- A category is left behind the others, and no product. -/
theorem keeps_category {s : CategoryRequest} (h_valid : ValidOffers w.toFormWorld)
    (h : w'.toFormWorld =
      { w.toFormWorld with tables := (endState (serveCategory w.tables s)).committed })
    (h_other : w.listing.OtherProducts w'.listing) :
    (ValidOffers w'.toFormWorld ∧ w.Keeps w') ∧
      (∀ id, productIdOf (serveCategory w.tables s) = some id →
        id = s.drawn.categoryId ∧ s.row ∈ w'.tables.products.categories.rows) ∧
      w'.listing.products.rows = w.listing.products.rows := by
  have htables : w'.tables = (endState (serveCategory w.tables s)).committed :=
    congrArg (fun v : FormWorld Bytes => v.tables) h
  have hoffers := congrArg (fun v : FormWorld Bytes => v.offers) h
  replace hoffers : w'.offers = w.offers := hoffers
  rcases categoryServed_cases (t := w.tables) (s := s) with
    ⟨e, c, herror, hc⟩ | ⟨c, h_id, h_link, hok, hc⟩
  · -- nothing is stored
    rw [herror, endState_error, hc] at htables
    rw [herror]
    have hrows : w'.listing.products.rows = w.listing.products.rows := by
      rw [w'.products, w.products, htables]
    refine ⟨⟨?_, h_other.keeps fun row hrow => hrows ▸ hrow, ?_⟩, nofun, hrows⟩
    · unfold ValidOffers
      rw [htables, hoffers]
      exact h_valid
    · rw [htables]
      exact fun _ hmem => hmem
  · -- a category is added, which no product and no offer has
    rw [hok, endState_ok, hc] at htables
    rw [hok]
    have hrows : w'.listing.products.rows = w.listing.products.rows := by
      rw [w'.products, w.products, htables, productRows_withCategory]
    have hcategories : ∀ category ∈ w.tables.products.categories.rows,
        category ∈ w'.tables.products.categories.rows := by
      rw [htables]
      exact fun _ hmem => List.mem_append_left _ hmem
    refine ⟨⟨?_, h_other.keeps fun row hrow => hrows ▸ hrow, hcategories⟩, fun id hid => ?_,
      hrows⟩
    · unfold ValidOffers
      rw [hoffers]
      exact fun offer hoffer => (h_valid offer hoffer).grow hcategories (htables ▸ rfl)
        (htables ▸ rfl)
    · -- it is the last one
      refine ⟨(Option.some.inj hid).symm, ?_⟩
      rw [htables]
      exact List.mem_append_right _ List.mem_cons_self

/-- On the side of the products, an event on the other side changes the items only. -/
theorem keeps_withItems (h_valid : ValidOffers w.toFormWorld)
    (h : w'.toFormWorld =
      { w.toFormWorld with tables := w.tables.withItems w'.listing.catalog.items })
    (h_keeps : w.listing.Keeps w'.listing) : ValidOffers w'.toFormWorld ∧ w.Keeps w' := by
  have htables : w'.tables = w.tables.withItems w'.listing.catalog.items :=
    congrArg (fun v : FormWorld Bytes => v.tables) h
  have hoffers := congrArg (fun v : FormWorld Bytes => v.offers) h
  replace hoffers : w'.offers = w.offers := hoffers
  have hcategories : ∀ category ∈ w.tables.products.categories.rows,
      category ∈ w'.tables.products.categories.rows := by
    rw [htables]
    exact fun _ hmem => hmem
  refine ⟨?_, h_keeps, hcategories⟩
  unfold ValidOffers
  rw [hoffers]
  -- what is offered is read from categories, groups and filters alone
  exact fun offer hoffer => (h_valid offer hoffer).grow hcategories (htables ▸ rfl)
    (htables ▸ rfl)

/-- **One event** keeps the offers, the products and the publications, leaves what it creates,
and adds nothing else. -/
theorem catalog_step {event : CatalogEvent Bytes × Option UUID} (h_from : FromForm w event)
    (h_valid : ValidOffers w.toFormWorld) (h : CatalogStep P publicUrl orm w event w') :
    (ValidOffers w'.toFormWorld ∧ w.Keeps w') ∧ Left publicUrl w' event ∧ NewFrom w event w' := by
  obtain ⟨event, answer⟩ := event
  obtain ⟨hserved, hanswer⟩ := h
  obtain rfl : answer = w.answer P publicUrl event := hanswer
  replace hserved : CatalogServed P publicUrl orm w event w' := hserved
  -- most events add neither a product nor a publication
  have hnothing : w'.listing.products.rows = w.listing.products.rows →
      w'.listing.publications = w.listing.publications →
        NewFrom w (event, w.answer P publicUrl event) w' :=
    fun hproducts hpublications =>
      ⟨fun row hrow => .inl (hproducts ▸ hrow), fun row hrow => .inl (hpublications ▸ hrow)⟩
  cases hserved with
  | @form _ event hstep hother =>
    have hvalid := (valid_step h_from h_valid hstep).1
    cases event with
    | lookUp categoryLink =>
      -- nothing is written, and the offer is valid when it is made
      have htables : w'.tables = w.tables := by
        generalize w'.toFormWorld = v at hstep
        cases hstep
        rfl
      have hrows : w'.listing.products.rows = w.listing.products.rows := by
        rw [w'.products, w.products, htables]
      refine ⟨⟨hvalid, hother.keeps fun row hrow => hrows ▸ hrow, ?_⟩, trivial,
        hnothing hrows hother.publications⟩
      rw [htables]
      exact fun _ hmem => hmem
    | send r =>
      -- chosen from offers, it edits nothing of what is there
      obtain ⟨hkeeps, hleft, hnew⟩ := keeps_send h_from h_valid hstep hother
      refine ⟨⟨hvalid, hkeeps⟩, ?_, fun row hrow => ?_, fun row hrow =>
        .inl (hother.publications ▸ hrow)⟩
      · show Left publicUrl w' (.form (.send r), productIdOf (serveProduct P publicUrl _ r))
        cases hid : productIdOf (serveProduct P publicUrl w.toAdminWorld r) with
        | none => trivial
        | some id => exact hleft id hid
      · exact (hnew row hrow).imp_right fun hid => ⟨r, congrArg (Prod.mk _) hid⟩
  | @category _ s hform hother =>
    obtain ⟨hkeeps, hleft, hrows⟩ := keeps_category h_valid hform hother
    refine ⟨hkeeps, ?_, hnothing hrows hother.publications⟩
    show Left publicUrl w' (.category s, productIdOf (serveCategory w.tables s))
    cases hid : productIdOf (serveCategory w.tables s) with
    | none => trivial
    | some id => exact hleft id hid
  | @publication _ q hlisting hform =>
    rcases publicationServed_cases w.listing q with
      ⟨e, c, herror, hc⟩ | ⟨c, row, hins, hok, hstores, hc⟩
    -- it raises, and nothing is stored
    · rw [herror, endState_error, hc] at hlisting
      refine ⟨keeps_withItems h_valid hform (hlisting ▸ .refl _), ?_,
        hnothing (congrArg (·.products.rows) hlisting) (congrArg Listing.publications hlisting)⟩
      show Left publicUrl w' (.publication q, productIdOf (servePublication w.listing q))
      rw [herror]
      trivial
    -- it is put behind the others, with its own items
    · rw [hok, endState_ok, hc] at hlisting
      have hanswer : w.answer P publicUrl (.publication q) = some row.id := by
        show productIdOf (servePublication w.listing q) = _
        rw [hok, hstores.id]
        rfl
      refine ⟨keeps_withItems h_valid hform (hlisting ▸ keeps_insert hins), ?_, ?_⟩
      · rw [hanswer]
        refine ⟨row, ?_, rfl, hstores, ?_⟩
        · rw [hlisting]
          exact List.mem_append_right _ List.mem_cons_self
        · rw [hlisting, itemsOf_insert hins]
          exact .refl SameOffer.refl _
      · rw [hanswer]
        refine ⟨fun old hold => .inl ?_, ?_⟩
        · rw [hlisting] at hold
          exact hold
        rw [hlisting]
        refine List.forall_mem_append.mpr ⟨fun old hold => .inl hold, ?_⟩
        exact List.forall_mem_singleton.mpr (.inr ⟨q, rfl⟩)
  | @order _ r db db' hcatalog hcommits hother hform =>
    -- only the stock of items changes
    exact ⟨keeps_withItems h_valid hform (keeps_ordered hcatalog hcommits hother), trivial,
      hnothing (congrArg (·.rows) hother.products) hother.publications⟩

end Steps

end Storefront
