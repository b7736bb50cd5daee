import Storefront.Catalog.Service
import Storefront.Database.Listing
import Storefront.Transport.DbSession

/-!
# Publications

`CatalogService.create_publication` and `CatalogService.get_publications`
(`services/catalog/service.py`): a publication is stored from a request, and shown with all
others. Neither the discount nor the credit of a requested item is stored.

* `exists_publicationViews` — the catalogs that can be shown;
* `shownAsEntered_iff` — a stored publication is shown as it was entered exactly when the catalog
  and its products can be shown, and no item was requested with a discount or a credit;
* `entered_but_not_shown` — a discount and a credit that are not shown.
-/

namespace Storefront

variable {σ : Type}

/-! ### The models of `services/catalog/models.py` -/

structure FilterDTO where
  id : Option UUID
  value : String
  deriving DecidableEq, Repr

structure FilterGroup where
  id : Option UUID
  title : String
  filters : List FilterDTO
  deriving DecidableEq, Repr

structure CreditInfo where
  payments : List CreditPaymentPart
  deriving DecidableEq, Repr

structure CatalogCategory where
  id : UUID
  createdAt : Int
  updatedAt : Option Int
  title : String
  link : String
  deriving DecidableEq, Repr

structure CreateCatalogItemDTO where
  productId : UUID
  price : Int
  quantity : Option Int := none
  discount : Option Int := none
  creditInfo : Option CreditInfo := none
  deriving DecidableEq, Repr

structure PhysicalProperties where
  width : ℚ
  height : ℚ
  length : ℚ
  weight : ℚ
  deriving DecidableEq

structure Preorder where
  id : UUID
  createdAt : Int
  updatedAt : Option Int
  title : String
  expectedArrival : Option String
  status : String
  deriving DecidableEq, Repr

structure Product where
  id : UUID
  createdAt : Int
  updatedAt : Option Int
  title : String
  description : Option String
  physicalProperties : Option PhysicalProperties
  category : CatalogCategory
  filterGroups : List FilterGroup
  images : List String
  deriving DecidableEq

structure CatalogItem where
  id : UUID
  createdAt : Int
  updatedAt : Option Int
  price : Int
  quantity : Option Int
  isActive : Bool
  discount : Option Int := none
  index : Option Nat
  creditInfo : Option CreditInfo
  product : Product
  deriving DecidableEq

structure Publication where
  id : UUID
  createdAt : Int
  updatedAt : Option Int
  link : String
  preorder : Option Preorder
  deliveryCostIncluded : Option DeliveryCostType
  items : List CatalogItem
  deriving DecidableEq

/-- `CreatePublicationRequestSchema` -/
structure CreatePublicationRequestSchema where
  link : String
  items : List CreateCatalogItemDTO
  deliveryCostIncluded : Option Bool := none
  preorderId : Option UUID := none
  deriving DecidableEq, Repr

/-! ### `create_publication` -/

/-- The ids that are drawn for the rows, and the time they are created at. -/
structure PublicationDraw where
  publicationId : UUID
  itemId : Nat → UUID
  now : Int

/-- `CatalogItemORM(…)` of a requested item. -/
def ormCatalogItem (drawn : PublicationDraw) (p : CreateCatalogItemDTO × Nat) :
    CatalogItemRow where
  id := drawn.itemId p.2
  publicationId := drawn.publicationId
  productId := p.1.productId
  creditPlanId := none
  price := p.1.price
  isActive := true
  quantity := p.1.quantity
  orderedQuantity := 0
  createdAt := drawn.now
  updatedAt := some drawn.now
  index := some p.2

/-- `CatalogService.create_publication` -/
def createPublication (drawn : PublicationDraw) (link : String)
    (catalogItems : List CreateCatalogItemDTO)
    (deliveryCostIncluded : Option DeliveryCostArg) :
    EStateM PyExc (Ctx Listing PublicationObject σ) UUID := do
  let ormCatalogItems := catalogItems.zipIdx.map (ormCatalogItem drawn)
  -- a single item has no index
  let ormCatalogItems :=
    match ormCatalogItems with
    | [item] => [{ item with index := none }]
    | items => items
  Session.add {
    id := drawn.publicationId
    now := drawn.now
    type := PublicationType.stock.value
    link
    deliveryCostIncluded
    items := ormCatalogItems }
  return drawn.publicationId

/-- `create_publication_entrypoint` -/
def createPublicationEntrypoint (drawn : PublicationDraw)
    (publication : CreatePublicationRequestSchema) :
    EStateM PyExc (Ctx Listing PublicationObject σ) UUID :=
  createPublication drawn publication.link publication.items
    (publication.deliveryCostIncluded.map .bool)

/-! ### `get_publications` -/

/-- What pydantic makes of the text of a day in a field of type `date`, besides what it makes of
the deadlines of credit parts. -/
structure ListingPydantic extends Pydantic where
  isoDate : String → Except PyExc String

/-- A `date` is read from the text of a day, and is no text. -/
def ListingPydantic.strict : ListingPydantic where
  toPydantic := .strict
  isoDate := .ok

/-- An item with the relations loaded with it. -/
structure ListedItem where
  row : CatalogItemRow
  creditPlan : Option CreditPlanORM
  product : Option ProductRow

/-- A publication with the relations loaded with it. -/
structure ListedPublication where
  row : PublicationRow
  preorder : Option PreorderRow
  items : List ListedItem

def Listing.loadItem (l : Listing) (row : CatalogItemRow) : ListedItem where
  row
  creditPlan := row.creditPlanId.bind l.creditPlans.find?
  product := l.products.find? row.productId

def Listing.load (l : Listing) (row : PublicationRow) : ListedPublication where
  row
  preorder := row.preorderId.bind l.preorders.find?
  items := (l.items.rows.filter fun item => item.publicationId = row.id).map l.loadItem

/-- `CreditInfo(…)` of an item, if it has a credit plan. -/
def creditInfoView (P : Pydantic) : Option CreditPlanORM → Except PyExc (Option CreditInfo)
  | none => .ok none
  | some plan => do
    let payments ← plan.parts.mapM fun part => do
      let deadline ← P.str part.deadline
      return ({ sum := part.sum, deadline } : CreditPaymentPart)
    return some { payments }

/-- `PhysicalProperties.model_validate(…)` -/
def physicalPropertiesView : Option PhysicalPropertiesDTO → Except PyExc PhysicalProperties
  | none => .error .validationError
  | some dto => do
    let width ← required dto.width
    let height ← required dto.height
    let length ← required dto.length
    let weight ← required dto.weight
    return { width, height, length, weight }

/-- `prepare_filter_groups` (`services/catalog/utils.py`) -/
def prepareFilterGroups (filters : List FilterORM) : List FilterGroup :=
  let filterGroups : Dict String FilterGroup := filters.foldl (fun groups filter =>
    let group := (groups.get? filter.group.title).getD
      { id := some filter.group.id, title := filter.group.title, filters := [] }
    groups.set filter.group.title
      { group with filters := group.filters ++ [⟨some filter.id, filter.value⟩] }) .empty
  filterGroups.values

/-- `CatalogCategory.model_validate(…)` -/
def categoryView (category : ProductCategoryORM) : CatalogCategory where
  id := category.id
  createdAt := category.createdAt
  updatedAt := category.updatedAt
  title := category.title
  link := category.link

/-- `Product(…)` of an item. -/
def productView (product : ProductRow) : Except PyExc Product := do
  let physicalProperties ← physicalPropertiesView product.physicalProperties
  return {
    id := product.id
    createdAt := product.createdAt
    updatedAt := product.updatedAt
    title := product.title
    description := product.description
    category := categoryView product.category
    physicalProperties := some physicalProperties
    filterGroups := prepareFilterGroups product.filters
    images := getAttachmentUrlsByType product.attachments .image }

/-- `CatalogItem(…)` of an item. -/
def catalogItemView (P : Pydantic) (item : ListedItem) : Except PyExc CatalogItem := do
  let creditInfo ← creditInfoView P item.creditPlan
  let product ← attributeOf item.product
  let product ← productView product
  return {
    id := item.row.id
    createdAt := item.row.createdAt
    updatedAt := item.row.updatedAt
    price := item.row.price
    quantity := item.row.quantity
    isActive := item.row.isActive
    index := item.row.index
    creditInfo
    product }

/-- `Preorder.model_validate(publication.preorder) if publication.type == 'preorder' else None` -/
def preorderModelView (P : ListingPydantic) (publication : ListedPublication) :
    Except PyExc (Option Preorder) :=
  if publication.row.type = "preorder" then do
    let preorder ← required publication.preorder
    let expectedArrival ← preorder.expectedArrival.elim (.ok none) fun day =>
      (P.isoDate day).map some
    return some {
      id := preorder.id
      createdAt := preorder.createdAt
      updatedAt := preorder.updatedAt
      title := preorder.title
      expectedArrival
      status := preorder.status }
  else .ok none

/-- `delivery_cost_included` of a `Publication`. -/
def deliveryCostView : Option String → Except PyExc (Option DeliveryCostType)
  | none => .ok none
  | some s => (required (DeliveryCostType.ofValue? s)).map some

/-- `Publication(…)` of a publication. -/
def publicationView (P : ListingPydantic) (publication : ListedPublication) :
    Except PyExc Publication := do
  let items ← (publication.items.filter (·.row.isActive)).mapM (catalogItemView P.toPydantic)
  let preorder ← preorderModelView P publication
  let deliveryCostIncluded ← deliveryCostView publication.row.deliveryCostIncluded
  return {
    id := publication.row.id
    createdAt := publication.row.createdAt
    updatedAt := publication.row.updatedAt
    link := publication.row.link
    preorder
    items
    deliveryCostIncluded }

/-- The loop of `get_publications`, which passes over publications without an active item. -/
def publicationViews (P : ListingPydantic) (publications : List ListedPublication) :
    Except PyExc (List Publication) :=
  (publications.filter fun publication => publication.items.any (·.row.isActive)).mapM
    (publicationView P)

/-- `CatalogService.get_publications` -/
def getPublications (P : ListingPydantic) :
    EStateM PyExc (Ctx Listing PublicationObject σ) (List Publication) := do
  let publications ← Session.query listingBackend fun l => l.publications.rows.map l.load
  liftExcept (publicationViews P publications)

/-! ### When the catalog can be shown -/

/-- All four properties are there. -/
structure PhysicalPropertiesDTO.Complete (dto : PhysicalPropertiesDTO) : Prop where
  width : dto.width.isSome
  height : dto.height.isSome
  length : dto.length.isSome
  weight : dto.weight.isSome

/-- A product with all its physical properties. -/
def ProductRow.Complete (product : ProductRow) : Prop :=
  ∃ dto ∈ product.physicalProperties, dto.Complete

/-- What is shown of an item is there: its product is complete, and the deadlines of its credit
plan pass for texts. -/
structure ListedItem.Showable (P : Pydantic) (item : ListedItem) : Prop where
  product : ∃ product ∈ item.product, product.Complete
  credit : ∀ plan ∈ item.creditPlan, ∀ part ∈ plan.parts, ∃ text, P.str part.deadline = .ok text

/-- What is shown of a publication is there. -/
structure ListedPublication.Showable (P : ListingPydantic) (publication : ListedPublication) :
    Prop where
  items : ∀ item ∈ publication.items, item.row.isActive = true → item.Showable P.toPydantic
  preorder : publication.row.type = "preorder" → ∃ preorder ∈ publication.preorder,
    ∀ day ∈ preorder.expectedArrival, ∃ date, P.isoDate day = .ok date
  delivery : ∀ s ∈ publication.row.deliveryCostIncluded, (DeliveryCostType.ofValue? s).isSome

/-- A publication with an active item. -/
def ListedPublication.Active (publication : ListedPublication) : Prop :=
  ∃ item ∈ publication.items, item.row.isActive = true

/-- What is shown of the catalog is there. -/
def Listing.Showable (P : ListingPydantic) (l : Listing) : Prop :=
  ∀ row ∈ l.publications.rows, (l.load row).Active → (l.load row).Showable P

section Views

variable {P : ListingPydantic}

theorem exists_creditInfoView {P : Pydantic} {plan : Option CreditPlanORM} :
    (∃ view, creditInfoView P plan = .ok view) ↔
      ∀ p ∈ plan, ∀ part ∈ p.parts, ∃ text, P.str part.deadline = .ok text := by
  cases plan with
  | none => exact iff_of_true ⟨none, rfl⟩ nofun
  | some plan =>
    unfold creditInfoView
    simp only [except_bind_eq_ok, Option.mem_def, Option.some.injEq, forall_eq']
    -- parts are shown if each deadline passes as a text
    have hparts := @exists_mapM_eq_ok _ _ _ (fun part : CreditPartORM => do
      let deadline ← P.str part.deadline
      return ({ sum := part.sum, deadline } : CreditPaymentPart)) plan.parts
    simp only [except_bind_eq_ok] at hparts
    refine ⟨?_, ?_⟩
    · rintro ⟨view, payments, hpayments, -⟩ part hpart
      obtain ⟨shown, text, htext, -⟩ := hparts.mp ⟨payments, hpayments⟩ part hpart
      exact ⟨text, htext⟩
    · intro h
      obtain ⟨payments, hpayments⟩ := hparts.mpr fun part hpart => by
        obtain ⟨text, htext⟩ := h part hpart
        exact ⟨_, text, htext, rfl⟩
      exact ⟨_, payments, hpayments, rfl⟩

theorem exists_productView {product : ProductRow} :
    (∃ view, productView product = .ok view) ↔ product.Complete := by
  -- the product page fails on nothing but its physical properties
  have hproperties : (∃ view, physicalPropertiesView product.physicalProperties = .ok view) ↔
      product.Complete := by
    unfold ProductRow.Complete
    cases product.physicalProperties with
    -- JSON null is stored as none, and validating none fails
    | none => exact iff_of_false nofun nofun
    | some dto =>
      unfold physicalPropertiesView
      simp only [except_bind_eq_ok, required_eq_ok, Option.mem_def, Option.some.injEq,
        exists_eq_left']
      refine ⟨?_, ?_⟩
      · rintro ⟨view, width, hwidth, height, hheight, length, hlength, weight, hweight, -⟩
        exact ⟨hwidth ▸ rfl, hheight ▸ rfl, hlength ▸ rfl, hweight ▸ rfl⟩
      · intro h
        obtain ⟨width, hwidth⟩ := Option.isSome_iff_exists.mp h.width
        obtain ⟨height, hheight⟩ := Option.isSome_iff_exists.mp h.height
        obtain ⟨length, hlength⟩ := Option.isSome_iff_exists.mp h.length
        obtain ⟨weight, hweight⟩ := Option.isSome_iff_exists.mp h.weight
        exact ⟨_, width, hwidth, height, hheight, length, hlength, weight, hweight, rfl⟩
  rw [← hproperties]
  unfold productView
  simp only [except_bind_eq_ok]
  refine ⟨?_, ?_⟩
  · rintro ⟨view, properties, h, -⟩
    exact ⟨properties, h⟩
  · rintro ⟨properties, h⟩
    exact ⟨_, properties, h, rfl⟩

theorem exists_catalogItemView {P : Pydantic} {item : ListedItem} :
    (∃ view, catalogItemView P item = .ok view) ↔ item.Showable P := by
  -- an item can fail on its credit or on its product, and on nothing else
  have hparts : (∃ view, catalogItemView P item = .ok view) ↔
      (∃ credit, creditInfoView P item.creditPlan = .ok credit) ∧
        ∃ product ∈ item.product, ∃ view, productView product = .ok view := by
    unfold catalogItemView
    simp only [except_bind_eq_ok, attributeOf_eq_ok]
    refine ⟨?_, ?_⟩
    · rintro ⟨view, credit, hcredit, product, hproduct, shown, hshown, -⟩
      exact ⟨⟨credit, hcredit⟩, product, hproduct, shown, hshown⟩
    · rintro ⟨⟨credit, hcredit⟩, product, hproduct, shown, hshown⟩
      exact ⟨_, credit, hcredit, product, hproduct, shown, hshown, rfl⟩
  rw [hparts, exists_creditInfoView]
  simp only [exists_productView]
  exact ⟨fun h => ⟨h.2, h.1⟩, fun h => ⟨h.credit, h.product⟩⟩

theorem exists_preorderModelView {publication : ListedPublication} :
    (∃ view, preorderModelView P publication = .ok view) ↔
      (publication.row.type = "preorder" → ∃ preorder ∈ publication.preorder,
        ∀ day ∈ preorder.expectedArrival, ∃ date, P.isoDate day = .ok date) := by
  unfold preorderModelView
  by_cases htype : publication.row.type = "preorder"
  · rw [if_pos htype]
    simp only [except_bind_eq_ok, required_eq_ok, htype, forall_const, Option.mem_def]
    -- no expected arrival passes as it is; one that there is has to be a date
    have harrival : ∀ arrival : Option String,
        (∃ date, arrival.elim (.ok none) (fun day => (P.isoDate day).map some) = .ok date) ↔
          ∀ day, arrival = some day → ∃ date, P.isoDate day = .ok date := by
      intro arrival
      rw [exists_elim_eq_ok]
      simp only [exists_map_eq_ok, Option.mem_def]
    simp only [← harrival]
    refine ⟨?_, ?_⟩
    · rintro ⟨view, preorder, hpreorder, date, hdate, -⟩
      exact ⟨preorder, hpreorder, date, hdate⟩
    · rintro ⟨preorder, hpreorder, date, hdate⟩
      exact ⟨_, preorder, hpreorder, date, hdate, rfl⟩
  · -- any other type, `"PREORDER"` among them, is shown without a preorder
    rw [if_neg htype]
    exact iff_of_true ⟨none, rfl⟩ fun h => absurd h htype

theorem exists_deliveryCostView {delivery : Option String} :
    (∃ view, deliveryCostView delivery = .ok view) ↔
      ∀ s ∈ delivery, (DeliveryCostType.ofValue? s).isSome := by
  cases delivery with
  | none => exact iff_of_true ⟨none, rfl⟩ nofun
  | some s =>
    simp only [Option.mem_def, Option.some.injEq, forall_eq']
    show (∃ view, (required (DeliveryCostType.ofValue? s)).map some = .ok view) ↔ _
    rw [exists_map_eq_ok, Option.isSome_iff_exists]
    simp only [required_eq_ok]

theorem exists_publicationView {publication : ListedPublication} :
    (∃ view, publicationView P publication = .ok view) ↔ publication.Showable P := by
  -- the three parts of a view that can fail, each on its own
  have hparts : (∃ view, publicationView P publication = .ok view) ↔
      (∀ item ∈ publication.items.filter (·.row.isActive), item.Showable P.toPydantic) ∧
        (∃ preorder, preorderModelView P publication = .ok preorder) ∧
        ∃ delivery, deliveryCostView publication.row.deliveryCostIncluded = .ok delivery := by
    simp only [← exists_catalogItemView, ← exists_mapM_eq_ok]
    unfold publicationView
    simp only [except_bind_eq_ok]
    refine ⟨?_, ?_⟩
    · rintro ⟨view, items, hitems, preorder, hpreorder, delivery, hdelivery, -⟩
      exact ⟨⟨items, hitems⟩, ⟨preorder, hpreorder⟩, delivery, hdelivery⟩
    · rintro ⟨⟨items, hitems⟩, ⟨preorder, hpreorder⟩, delivery, hdelivery⟩
      exact ⟨_, items, hitems, preorder, hpreorder, delivery, hdelivery, rfl⟩
  rw [hparts, exists_preorderModelView, exists_deliveryCostView]
  simp only [List.mem_filter, and_imp]
  exact ⟨fun h => ⟨h.1, h.2.1, h.2.2⟩, fun h => ⟨h.items, h.preorder, h.delivery⟩⟩

/-- **The catalogs that can be shown.** -/
theorem exists_publicationViews {l : Listing} :
    (∃ views, publicationViews P (l.publications.rows.map l.load) = .ok views) ↔
      l.Showable P := by
  unfold publicationViews Listing.Showable ListedPublication.Active
  rw [exists_mapM_eq_ok]
  simp only [exists_publicationView, List.mem_filter, List.mem_map, List.any_eq_true, and_imp,
    forall_exists_index, forall_apply_eq_imp_iff₂]

end Views

/-! ### What is stored -/

/-- The index of a requested item: its position, or none for a single item. -/
def shownIndex (items : List CreateCatalogItemDTO) (position : Nat) : Option Nat :=
  if items.length = 1 then none else some position

/-- The rows of the requested items. -/
def storedItems (drawn : PublicationDraw) (items : List CreateCatalogItemDTO) :
    List CatalogItemRow :=
  items.zipIdx.map fun p => { ormCatalogItem drawn p with index := shownIndex items p.2 }

/-- The request whose publication is stored, in its transaction. -/
def storePublication (fault : Option PyExc) (drawn : PublicationDraw) (link : String)
    (items : List CreateCatalogItemDTO) (delivery : Option DeliveryCostArg) :
    EStateM PyExc (Ctx Listing PublicationObject σ) UUID :=
  initCtxDbSession listingBackend fault .post (createPublication drawn link items delivery)

/-- The publication of a request. -/
def publicationObject (drawn : PublicationDraw) (link : String)
    (items : List CreateCatalogItemDTO) (delivery : Option DeliveryCostArg) :
    PublicationObject where
  id := drawn.publicationId
  now := drawn.now
  type := PublicationType.stock.value
  link
  deliveryCostIncluded := delivery
  items := storedItems drawn items

section Stored

variable {drawn : PublicationDraw} {link : String} {items : List CreateCatalogItemDTO}
  {delivery : Option DeliveryCostArg}

theorem run_createPublication (c : Ctx Listing PublicationObject σ) :
    (createPublication drawn link items delivery).run c =
      .ok drawn.publicationId { c with session := { c.session with
        pending := c.session.pending ++ [publicationObject drawn link items delivery] } } := by
  -- the index is dropped where there is one item, which `shownIndex` says case by case
  have hitems : (match items.zipIdx.map (ormCatalogItem drawn) with
      | [item] => [{ item with index := none }]
      | items => items) = storedItems drawn items := by
    unfold storedItems shownIndex
    match items with
    | [] => rfl
    | [item] => rfl
    | item :: item' :: items =>
      have hlen : (item :: item' :: items).length ≠ 1 := by simp
      simp only [if_neg hlen]
      rfl
  show (do
    Session.add _
    pure drawn.publicationId : EStateM PyExc (Ctx Listing PublicationObject σ) UUID).run c = _
  rw [hitems]
  rfl

/-- **What is stored of a request.** -/
theorem storePublication_eq_ok {fault : Option PyExc} {l : Listing} {env : σ} {id : UUID}
    {c : Ctx Listing PublicationObject σ}
    (h : (storePublication fault drawn link items delivery).run (Ctx.start l env) = .ok id c) :
    ∃ row, (publicationObject drawn link items delivery).row = .ok row ∧
      ∃ h : l.Insertable row (storedItems drawn items),
        c.committed = l.insert row (storedItems drawn items) h := by
  obtain ⟨c₁, hrun, hcommit⟩ := initCtxDbSession_eq_ok.mp h
  rw [run_createPublication] at hrun
  obtain ⟨rfl, rfl⟩ := EStateM.Result.ok.inj hrun
  rcases hcommit with ⟨hget, -⟩ | ⟨-, -, -, l', happly, rfl⟩
  · cases hget
  · replace happly : listingBackend.applyAll [publicationObject drawn link items delivery] l =
      .ok l' := happly
    rw [Backend.applyAll_singleton, apply_listingBackend_eq_ok] at happly
    exact happly

/-- The row of a publication says what was given, if it could be stored. -/
theorem row_publicationObject {row : PublicationRow}
    (h : (publicationObject drawn link items delivery).row = .ok row) :
    row.id = drawn.publicationId ∧ row.link = link ∧ row.type = "STOCK" ∧
      ∃ shown, deliveryCostView row.deliveryCostIncluded = .ok shown ∧
        shown.map .type = delivery := by
  obtain ⟨text, htext, hrow⟩ := except_bind_eq_ok.mp h
  cases hrow
  refine ⟨rfl, rfl, rfl, ?_⟩
  cases delivery with
  | none =>
    cases htext
    exact ⟨none, rfl, rfl⟩
  | some arg =>
    cases arg with
    -- a truth value is no text, which the column takes
    | bool b => cases htext
    | type t =>
      cases htext
      refine ⟨some t, ?_, rfl⟩
      show (required (DeliveryCostType.ofValue? t.value)).map some = _
      rw [DeliveryCostType.ofValue?_value]
      rfl

end Stored

/-! ### The catalog after it -/

section Insert

variable {P : ListingPydantic} {l : Listing} {row : PublicationRow} {stored : List CatalogItemRow}
  (h : l.Insertable row stored)

include h

/-- The new publication is loaded with the items that were stored with it. -/
theorem load_insert_new : ((l.insert row stored h).load row).items = stored.map l.loadItem := by
  have hold : (l.items.rows.filter fun item => item.publicationId = row.id) = [] := by
    refine List.filter_eq_nil_iff.mpr fun item hitem hid => h.id_new ?_
    rw [← of_decide_eq_true hid]
    exact l.publication_fk item hitem
  have hnew : (stored.filter fun item => item.publicationId = row.id) = stored :=
    List.filter_eq_self.mpr fun item hitem => decide_eq_true (h.publication_id item hitem)
  show ((l.items.rows ++ stored).filter _).map l.loadItem = _
  rw [List.filter_append, hold, hnew, List.nil_append]

/-- The others are loaded as before. -/
theorem load_insert_old {old : PublicationRow} (h_old : old ∈ l.publications.rows) :
    (l.insert row stored h).load old = l.load old := by
  have hnone : (stored.filter fun item => item.publicationId = old.id) = [] := by
    refine List.filter_eq_nil_iff.mpr fun item hitem hid => h.id_new ?_
    rw [← h.publication_id item hitem, of_decide_eq_true hid]
    exact Table.mem_keys_of_mem h_old
  have hitems : ((l.insert row stored h).items.rows.filter
      fun item => item.publicationId = old.id) =
        l.items.rows.filter fun item => item.publicationId = old.id := by
    show (l.items.rows ++ stored).filter _ = _
    rw [List.filter_append, hnone, List.append_nil]
  unfold Listing.load
  rw [hitems]
  rfl

/-- The catalog can be shown if it could before, and so can the new publication. -/
theorem showable_insert (h_active : ∃ item ∈ stored, item.isActive = true) :
    (l.insert row stored h).Showable P ↔
      l.Showable P ∧ ((l.insert row stored h).load row).Showable P := by
  have hactive : ((l.insert row stored h).load row).Active := by
    unfold ListedPublication.Active
    rw [load_insert_new h]
    obtain ⟨item, hitem, hitem'⟩ := h_active
    exact ⟨_, List.mem_map_of_mem hitem, hitem'⟩
  have hrows : (l.insert row stored h).publications.rows = l.publications.rows ++ [row] := rfl
  unfold Listing.Showable
  rw [hrows, List.forall_mem_append, List.forall_mem_singleton]
  refine and_congr (forall₂_congr fun old hold => ?_) ⟨fun hall => hall hactive, fun hnew _ => hnew⟩
  rw [load_insert_old h hold]

/-- A publication is known by its link. -/
theorem eq_of_link {publication : PublicationRow}
    (h_mem : publication ∈ (l.insert row stored h).publications.rows)
    (h_link : publication.link = row.link) : publication = row :=
  List.inj_on_of_nodup_map (l.insert row stored h).unique_link h_mem
    (List.mem_append_right _ List.mem_cons_self) h_link

end Insert

/-! ### A publication shown as it was entered -/

/-- A shown item carries what was requested. -/
structure ShowsItem (item : CreateCatalogItemDTO) (index : Option Nat) (shown : CatalogItem) :
    Prop where
  product : shown.product.id = item.productId
  price : shown.price = item.price
  quantity : shown.quantity = item.quantity
  discount : shown.discount = item.discount
  credit_info : shown.creditInfo = item.creditInfo
  index : shown.index = index

/-- A shown publication carries what was requested, with one item for each requested one. -/
structure ShowsPublication (link : String) (items : List CreateCatalogItemDTO)
    (delivery : Option DeliveryCostArg) (shown : Publication) : Prop where
  link : shown.link = link
  delivery_cost_included : shown.deliveryCostIncluded.map .type = delivery
  items : ∃ order, shown.items.Perm order ∧
    List.Forall₂ (fun p item => ShowsItem p.1 (shownIndex items p.2) item) items.zipIdx order

/-- The publications are listed, and with them the one that was requested. -/
def ShownAsEntered (P : ListingPydantic) (l : Listing) (link : String)
    (items : List CreateCatalogItemDTO) (delivery : Option DeliveryCostArg) : Prop :=
  ∃ views, (getPublications P).run (Ctx.start l () : Ctx Listing PublicationObject Unit) =
      .ok views (Ctx.start l ()) ∧
    ∃ shown ∈ views, ShowsPublication link items delivery shown

/-- The product with the given id has all its physical properties. -/
def Listing.ProductComplete (l : Listing) (id : UUID) : Prop :=
  ∃ product ∈ l.products.rows, product.id = id ∧ product.Complete

section Shown

variable {P : ListingPydantic} {l : Listing} {drawn : PublicationDraw} {link : String}
  {items : List CreateCatalogItemDTO} {delivery : Option DeliveryCostArg}

theorem run_getPublications {views : List Publication} :
    (getPublications P).run (Ctx.start l () : Ctx Listing PublicationObject Unit) =
        .ok views (Ctx.start l ()) ↔
      publicationViews P (l.publications.rows.map l.load) = .ok views := by
  unfold getPublications
  rw [run_bind_ok (Session.run_query_clean listingBackend _ (Ctx.clean_start l ()) _),
    liftExcept_eq_ok]
  exact and_iff_left rfl

/-- What is shown of a row: no discount, and the credit of its plan. -/
theorem catalogItemView_eq_ok {P : Pydantic} {item : ListedItem} {shown : CatalogItem}
    (h : catalogItemView P item = .ok shown) :
    shown.price = item.row.price ∧ shown.quantity = item.row.quantity ∧ shown.discount = none ∧
      shown.index = item.row.index ∧ (item.creditPlan = none → shown.creditInfo = none) ∧
      ∃ product ∈ item.product, shown.product.id = product.id := by
  unfold catalogItemView at h
  simp only [except_bind_eq_ok, attributeOf_eq_ok] at h
  obtain ⟨credit, hcredit, product, hproduct, view, hview, hshown⟩ := h
  cases hshown
  refine ⟨rfl, rfl, rfl, rfl, fun hnone => ?_, product, hproduct, ?_⟩
  · rw [hnone] at hcredit
    cases hcredit
    rfl
  · unfold productView at hview
    simp only [except_bind_eq_ok] at hview
    obtain ⟨properties, -, heq⟩ := hview
    cases heq
    rfl

/-- What is shown of a stored item is what was requested, but for a discount and a credit. -/
theorem showsItem_stored_iff {P : Pydantic} {p : CreateCatalogItemDTO × Nat} {shown : CatalogItem}
    (h : catalogItemView P
      (l.loadItem { ormCatalogItem drawn p with index := shownIndex items p.2 }) = .ok shown) :
    ShowsItem p.1 (shownIndex items p.2) shown ↔
      p.1.discount = none ∧ p.1.creditInfo = none := by
  obtain ⟨hprice, hquantity, hdiscount, hindex, hcredit, product, hproduct, hid⟩ :=
    catalogItemView_eq_ok h
  -- the stored item has no plan, since create_publication drops what was entered
  replace hcredit : shown.creditInfo = none := hcredit rfl
  obtain ⟨-, hkey⟩ := Table.find?_eq_some.mp (show l.products.find? p.1.productId = some product
    from hproduct)
  refine ⟨?_, ?_⟩
  · intro hshows
    rw [← hshows.discount, ← hshows.credit_info]
    exact ⟨hdiscount, hcredit⟩
  · rintro ⟨hnone, hnone'⟩
    exact {
      product := hid.trans hkey
      price := hprice
      quantity := hquantity
      discount := hdiscount.trans hnone.symm
      credit_info := hcredit.trans hnone'.symm
      index := hindex }

/-- What is asked of the requested items, one by one. -/
theorem forall_zipIdx_fst {Q : CreateCatalogItemDTO → Prop} :
    (∀ p ∈ items.zipIdx, Q p.1) ↔ ∀ item ∈ items, Q item := by
  have hmap := @List.forall_mem_map _ _ Prod.fst items.zipIdx Q
  rw [List.zipIdx_map_fst] at hmap
  exact hmap.symm

/-- A product that is found. -/
theorem exists_mem_find?_complete {id : UUID} :
    (∃ product ∈ l.products.find? id, product.Complete) ↔ l.ProductComplete id := by
  unfold Listing.ProductComplete
  simp only [Option.mem_def, Table.find?_eq_some, and_assoc]

variable {row : PublicationRow}

/-- The new publication can be shown if the products of its items can. -/
theorem showable_stored_iff (h_row : (publicationObject drawn link items delivery).row = .ok row)
    (h : l.Insertable row (storedItems drawn items)) :
    ((l.insert row (storedItems drawn items) h).load row).Showable P ↔
      ∀ item ∈ items, l.ProductComplete item.productId := by
  obtain ⟨-, -, htype, shown, hdelivery, -⟩ := row_publicationObject h_row
  -- a stored item is active and has no credit plan
  have hitem : ∀ p : CreateCatalogItemDTO × Nat, ((l.loadItem
      { ormCatalogItem drawn p with index := shownIndex items p.2 }).row.isActive = true →
        (l.loadItem { ormCatalogItem drawn p with
          index := shownIndex items p.2 }).Showable P.toPydantic) ↔
            l.ProductComplete p.1.productId := by
    intro p
    rw [← exists_mem_find?_complete]
    exact ⟨fun hshow => (hshow rfl).product, fun hproduct _ => ⟨hproduct, nofun⟩⟩
  have hitems : (∀ item ∈ ((l.insert row (storedItems drawn items) h).load row).items,
      item.row.isActive = true → item.Showable P.toPydantic) ↔
        ∀ item ∈ items, l.ProductComplete item.productId := by
    rw [load_insert_new h, List.forall_mem_map, storedItems, List.forall_mem_map,
      ← forall_zipIdx_fst]
    exact forall₂_congr fun p _ => hitem p
  rw [← hitems]
  refine ⟨fun hshow => hshow.items, fun hall => ⟨hall, fun hpreorder => ?_, ?_⟩⟩
  · exact absurd (htype.symm.trans hpreorder) (by decide)
  · exact exists_deliveryCostView.mp ⟨shown, hdelivery⟩

/-- What is shown of the new publication. -/
theorem publicationView_stored (h_row : (publicationObject drawn link items delivery).row = .ok row)
    (h : l.Insertable row (storedItems drawn items)) {shown : Publication}
    (h_view : publicationView P ((l.insert row (storedItems drawn items) h).load row) = .ok shown) :
    shown.link = link ∧ shown.deliveryCostIncluded.map .type = delivery ∧
      List.Forall₂ (fun p item => catalogItemView P.toPydantic (l.loadItem
        { ormCatalogItem drawn p with index := shownIndex items p.2 }) = .ok item)
          items.zipIdx shown.items := by
  obtain ⟨-, hlink, -, cost, hcost, hdelivery⟩ := row_publicationObject h_row
  unfold publicationView at h_view
  simp only [except_bind_eq_ok] at h_view
  obtain ⟨views, hviews, preorder, -, cost', hcost', hshown⟩ := h_view
  cases hshown
  obtain rfl : cost = cost' := Except.ok.inj (hcost.symm.trans hcost')
  refine ⟨hlink, hdelivery, ?_⟩
  rw [load_insert_new h, List.filter_eq_self.mpr, mapM_eq_ok_iff_forall₂] at hviews
  · rw [List.forall₂_map_left_iff, storedItems, List.forall₂_map_left_iff] at hviews
    exact hviews
  -- all of its items are active
  · rw [List.forall_mem_map, storedItems, List.forall_mem_map]
    exact fun _ _ => rfl

theorem link_publicationView {publication : ListedPublication} {shown : Publication}
    (h : publicationView P publication = .ok shown) : shown.link = publication.row.link := by
  unfold publicationView at h
  simp only [except_bind_eq_ok] at h
  obtain ⟨items, -, preorder, -, cost, -, hshown⟩ := h
  cases hshown
  rfl

/-- What is shown as it was entered was entered without a discount and without a credit. -/
theorem plain_of_shownAsEntered
    (h_row : (publicationObject drawn link items delivery).row = .ok row)
    (h : l.Insertable row (storedItems drawn items))
    (h_shown : ShownAsEntered P (l.insert row (storedItems drawn items) h) link items delivery) :
    ∀ item ∈ items, item.discount = none ∧ item.creditInfo = none := by
  obtain ⟨-, hlink, -⟩ := row_publicationObject h_row
  obtain ⟨views, hrun, shown, hmem, hshows⟩ := h_shown
  -- the publication that is shown under the link is the new one
  obtain ⟨publication, hlisted, hview⟩ := exists_of_mem_mapM (run_getPublications.mp hrun) hmem
  obtain ⟨row', hrow', rfl⟩ := List.mem_map.mp (List.mem_filter.mp hlisted).1
  have hlink' : row'.link = row.link :=
    calc row'.link = shown.link := (link_publicationView hview).symm
      _ = link := hshows.link
      _ = row.link := hlink.symm
  obtain rfl := eq_of_link h hrow' hlink'
  obtain ⟨-, -, hitems⟩ := publicationView_stored h_row h hview
  -- no item of it is shown with either
  have hnone : ∀ item ∈ shown.items, item.discount = none ∧ item.creditInfo = none := by
    intro item hitem
    obtain ⟨p, -, hshown⟩ := exists_mem_zip_of_forall₂ (List.Forall₂.flip hitems) hitem
    obtain ⟨-, -, hdiscount, -, hcredit, -⟩ := catalogItemView_eq_ok hshown
    exact ⟨hdiscount, hcredit rfl⟩
  obtain ⟨order, hperm, hforall⟩ := hshows.items
  rw [← forall_zipIdx_fst]
  intro p hp
  obtain ⟨item, hzip, hitem⟩ := exists_mem_zip_of_forall₂ hforall hp
  rw [← hitem.discount, ← hitem.credit_info]
  exact hnone item (hperm.mem_iff.mpr (List.of_mem_zip hzip).2)

/-- What was entered without either is shown as it was entered, once it is listed. -/
theorem shownAsEntered_of_plain
    (h_row : (publicationObject drawn link items delivery).row = .ok row)
    (h : l.Insertable row (storedItems drawn items))
    (h_active : ∃ item ∈ storedItems drawn items, item.isActive = true)
    (h_showable : (l.insert row (storedItems drawn items) h).Showable P)
    (h_plain : ∀ item ∈ items, item.discount = none ∧ item.creditInfo = none) :
    ShownAsEntered P (l.insert row (storedItems drawn items) h) link items delivery := by
  obtain ⟨views, hviews⟩ := exists_publicationViews.mpr h_showable
  -- the publication is listed, for it has an active item
  have hlisted : (l.insert row (storedItems drawn items) h).load row ∈
      ((l.insert row (storedItems drawn items) h).publications.rows.map
        (l.insert row (storedItems drawn items) h).load).filter fun publication =>
          publication.items.any (·.row.isActive) := by
    obtain ⟨item, hitem, hactive⟩ := h_active
    refine List.mem_filter.mpr ⟨List.mem_map_of_mem
      (List.mem_append_right _ List.mem_cons_self), List.any_eq_true.mpr ?_⟩
    rw [load_insert_new h]
    exact ⟨_, List.mem_map_of_mem hitem, hactive⟩
  obtain ⟨shown, hmem, hview⟩ := exists_of_mapM_ok hviews hlisted
  obtain ⟨hlink, hdelivery, hitems⟩ := publicationView_stored h_row h hview
  refine ⟨views, run_getPublications.mpr hviews, shown, hmem, hlink, hdelivery, shown.items,
    .refl _, ?_⟩
  refine ((List.forall₂_and_left _ _).mpr ⟨forall_zipIdx_fst.mpr h_plain, hitems⟩).imp ?_
  rintro p item ⟨hnone, hshown⟩
  exact (showsItem_stored_iff hshown).mpr hnone

end Shown

/-- A request with a truth value for the cost of the delivery is not stored. -/
theorem delivery_eq_none_of_stored {fault : Option PyExc} {drawn : PublicationDraw}
    {publication : CreatePublicationRequestSchema} {l : Listing} {env : σ} {id : UUID}
    {c : Ctx Listing PublicationObject σ}
    (h : (initCtxDbSession listingBackend fault .post
      (createPublicationEntrypoint drawn publication)).run (Ctx.start l env) = .ok id c) :
    publication.deliveryCostIncluded = none := by
  obtain ⟨row, hrow, -⟩ := storePublication_eq_ok h
  obtain ⟨text, htext, -⟩ := except_bind_eq_ok.mp hrow
  cases hcost : publication.deliveryCostIncluded with
  | none => rfl
  | some b =>
    replace htext : (publication.deliveryCostIncluded.map DeliveryCostArg.bool).elim (.ok none)
      (fun arg => arg.text.map some) = .ok text := htext
    rw [hcost] at htext
    cases htext

/-- **When a publication is shown as it was entered.** After a publication with at least one item
is stored, it is listed with everything that was requested if and only if the catalog could be
shown before and the requested products can be, and no item was requested with a discount or
with a credit. -/
theorem shownAsEntered_iff (P : ListingPydantic) (l : Listing) (fault : Option PyExc)
    (drawn : PublicationDraw) (link : String) (items : List CreateCatalogItemDTO)
    (delivery : Option DeliveryCostArg) (id : UUID) (c : Ctx Listing PublicationObject Unit)
    (h_items : items ≠ []) (h : (storePublication fault drawn link items delivery).run
      (Ctx.start l ()) = .ok id c) :
    ShownAsEntered P c.committed link items delivery ↔
      (l.Showable P ∧ ∀ item ∈ items, l.ProductComplete item.productId) ∧
        ∀ item ∈ items, item.discount = none ∧ item.creditInfo = none := by
  obtain ⟨row, hrow, hins, hcommitted⟩ := storePublication_eq_ok h
  -- an item is active from the start
  have hactive : ∃ item ∈ storedItems drawn items, item.isActive = true := by
    obtain ⟨p, hp⟩ := List.exists_mem_of_ne_nil items.zipIdx
      fun hnil => h_items (List.zipIdx_eq_nil_iff.mp hnil)
    exact ⟨_, List.mem_map_of_mem hp, rfl⟩
  have hshowable : (l.insert row (storedItems drawn items) hins).Showable P ↔
      l.Showable P ∧ ∀ item ∈ items, l.ProductComplete item.productId := by
    rw [showable_insert hins hactive, showable_stored_iff hrow hins]
  rw [hcommitted, ← hshowable]
  refine ⟨fun hshown => ⟨?_, plain_of_shownAsEntered hrow hins hshown⟩, ?_⟩
  · -- an answer at all takes that everything can be shown
    obtain ⟨views, hrun, -⟩ := hshown
    exact exists_publicationViews.mp ⟨views, run_getPublications.mp hrun⟩
  · rintro ⟨hshow, hplain⟩
    exact shownAsEntered_of_plain hrow hins hactive hshow hplain

/-! One product with all its properties, and no publication. -/

def sampleProduct : ProductRow where
  id := 3
  title := "item"
  attachments := [⟨.image, "/1.png"⟩]
  createdAt := 0
  updatedAt := some 0
  description := none
  physicalProperties := some ⟨some 1, some 1, some 1, some 1⟩
  category := ⟨4, 0, some 0, "category", "Категория"⟩
  filters := []

def sampleListing : Listing where
  preorders := .empty
  publications := .empty
  products := ⟨[sampleProduct], List.nodup_singleton _⟩
  creditPlans := .empty
  items := .empty
  unique_link := List.nodup_nil
  preorder_fk _ h := absurd h List.not_mem_nil
  publication_fk _ h := absurd h List.not_mem_nil
  product_fk _ h := absurd h List.not_mem_nil
  credit_plan_fk _ h := absurd h List.not_mem_nil
  quantity_limit _ h := absurd h List.not_mem_nil

def sampleDraw : PublicationDraw := ⟨41, fun i => ⟨BitVec.ofNat 128 (50 + i)⟩, 0⟩

/-- An item without a discount and without a credit. -/
def plainItem : CreateCatalogItemDTO := { productId := 3, price := 100, quantity := some 5 }

/-- The same with both. -/
def creditItem : CreateCatalogItemDTO :=
  { plainItem with
    discount := some 10
    creditInfo := some ⟨[⟨40, "2024-01-01"⟩, ⟨60, "2024-02-01"⟩]⟩ }

theorem showable_sampleListing (P : ListingPydantic) : sampleListing.Showable P := nofun

theorem productComplete_sampleListing : sampleListing.ProductComplete 3 :=
  ⟨sampleProduct, List.mem_cons_self, rfl, _, rfl, rfl, rfl, rfl, rfl⟩

/-- Two plain items are shown as they were entered. -/
theorem plain_items_shown :
    ∃ id c, (storePublication none sampleDraw "link" [plainItem, plainItem]
        (some (.type .full))).run (Ctx.start sampleListing ()) = .ok id c ∧
      ShownAsEntered .strict c.committed "link" [plainItem, plainItem] (some (.type .full)) := by
  have hrun : ∃ id c, (storePublication none sampleDraw "link" [plainItem, plainItem]
      (some (.type .full))).run (Ctx.start sampleListing ()) = .ok id c := ⟨_, _, rfl⟩
  obtain ⟨id, c, hrun⟩ := hrun
  refine ⟨id, c, hrun, (shownAsEntered_iff .strict sampleListing none sampleDraw "link" _ _ id c
    (List.cons_ne_nil _ _) hrun).mpr ⟨⟨showable_sampleListing _, ?_⟩, ?_⟩⟩
  · intro item hitem
    obtain rfl : item = plainItem := by simpa using hitem
    exact productComplete_sampleListing
  · intro item hitem
    obtain rfl : item = plainItem := by simpa using hitem
    exact ⟨rfl, rfl⟩

/-- **A discount and a credit are stored of neither, and not shown.** -/
theorem entered_but_not_shown :
    ∃ id c, (storePublication none sampleDraw "link" [creditItem] none).run
        (Ctx.start sampleListing ()) = .ok id c ∧
      (∃ views, (getPublications .strict).run
          (Ctx.start c.committed () : Ctx Listing PublicationObject Unit) =
            .ok views (Ctx.start c.committed ()) ∧
        views.map (fun view => view.items.map fun item => (item.discount, item.creditInfo)) =
          [[(none, none)]]) ∧
      ¬ ShownAsEntered .strict c.committed "link" [creditItem] none := by
  have hrun : ∃ id c, (storePublication none sampleDraw "link" [creditItem] none).run
      (Ctx.start sampleListing () : Ctx Listing PublicationObject Unit) = .ok id c ∧
      ∃ views, (getPublications .strict).run
          (Ctx.start c.committed () : Ctx Listing PublicationObject Unit) =
            .ok views (Ctx.start c.committed ()) ∧
        views.map (fun view => view.items.map fun item => (item.discount, item.creditInfo)) =
          [[(none, none)]] := ⟨_, _, rfl, _, rfl, rfl⟩
  obtain ⟨id, c, hrun, hviews⟩ := hrun
  refine ⟨id, c, hrun, hviews, fun hshown => ?_⟩
  obtain ⟨row, hrow, hins, hcommitted⟩ := storePublication_eq_ok hrun
  rw [hcommitted] at hshown
  -- the discount that was entered is not the one that is shown
  obtain ⟨hdiscount, -⟩ := plain_of_shownAsEntered hrow hins hshown creditItem List.mem_cons_self
  cases hdiscount

end Storefront
