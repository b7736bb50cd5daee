import Storefront.Order.Notification
import Storefront.Order.OrderEffect

/-!
# Reading an order back

`OrderService.get_user_order` (`services/order/service.py`) loads an order with its relations
and turns it into the view that `GET /order` answers with. It dereferences three relations
that may be empty: the preorder of the order, in every case, the credit plan of the item of a
line that is paid by instalments, and the tracking link of the delivery service. And it hands
the dates that the database has returned to fields of pendulum's types, of which they are no
instances (`not_getsOrder_strict`).

* `getUserOrder_eq_ok` — a run that returned has found the order, and it is the user's;
* `exists_orderView` — the orders of which there is a view;
* `Recorded` — what an order has on record, whatever the statuses are; `create_order` leaves
  it (`createOrder_recorded`) and notifications keep it (`Recorded.run`);
* `createOrder_reads_back_iff` — a stored order is read back by its owner exactly when it has
  a preorder and every item chosen for instalments has a credit plan;
* `stock_order_not_read` — an order that is no preorder is not.
-/

namespace Storefront

variable {σ : Type}

/-! ### The models of `services/order/models.py` -/

/-- What pydantic makes of the dates that are read back with an order: a deadline, which is a
`datetime.date`, in a field of type `pendulum.Date`, and the time an order was created at, which
is a `datetime.datetime`, in a field of type `pendulum.DateTime`. -/
structure OrderPydantic where
  date : String → Except PyExc String
  dateTime : Int → Except PyExc Int

/-- What is loaded is no instance of pendulum's types, which derive from those of `datetime`. -/
def OrderPydantic.strict : OrderPydantic where
  date := fun _ => .error .validationError
  dateTime := fun _ => .error .validationError

/-- Dates are converted to pendulum's. -/
def OrderPydantic.converting : OrderPydantic where
  date := .ok
  dateTime := .ok

/-- Every conversion succeeds. -/
structure OrderPydantic.Converts (P : OrderPydantic) : Prop where
  date : ∀ deadline, ∃ d, P.date deadline = .ok d
  dateTime : ∀ time, ∃ t, P.dateTime time = .ok t

theorem converts_converting : OrderPydantic.converting.Converts where
  date deadline := ⟨deadline, rfl⟩
  dateTime time := ⟨time, rfl⟩

structure Tracking where
  code : String
  link : String
  deriving DecidableEq, Repr

structure OutputDeliveryData extends Delivery where
  tracking : Option Tracking := none
  deriving DecidableEq, Repr

structure Invoice where
  id : UUID
  creditPartIndex : Option Nat
  amount : Int
  type : InvoiceType
  isPaid : Bool
  deriving DecidableEq, Repr

structure Credit where
  invoice : Option Invoice
  paidParts : Nat
  payments : List CreditPart
  deriving DecidableEq, Repr

structure OrderItem where
  id : UUID
  title : String
  image : String
  quantity : Int
  sum : Int
  credit : Option Credit
  deriving DecidableEq, Repr

structure PreorderInfo where
  id : UUID
  title : String
  status : String
  expectedArrival : Option String
  deriving DecidableEq, Repr

structure Order where
  id : UUID
  createdAt : Int
  status : OrderStatus
  delivery : Option OutputDeliveryData
  tracking : Option Tracking
  preorder : Option PreorderInfo
  items : List OrderItem
  invoices : List Invoice
  deriving DecidableEq, Repr

/-! ### Dates -/

/-- The day, month and year of the day with the given number, counted from 1 January 1970. -/
def civilDate (days : Int) : Int × Int × Int :=
  -- the years of this count begin on 1 March, and 400 of them are an era
  let era := (days + 719468) / 146097
  let dayOfEra := (days + 719468) % 146097
  let yearOfEra := (dayOfEra - dayOfEra / 1460 + dayOfEra / 36524 - dayOfEra / 146096) / 365
  let dayOfYear := dayOfEra - (365 * yearOfEra + yearOfEra / 4 - yearOfEra / 100)
  let monthFromMarch := (5 * dayOfYear + 2) / 153
  let day := dayOfYear - (153 * monthFromMarch + 2) / 5 + 1
  let month := if monthFromMarch < 10 then monthFromMarch + 3 else monthFromMarch - 9
  (day, month, yearOfEra + era * 400 + if month ≤ 2 then 1 else 0)

/-- Two digits. -/
def twoDigits (n : Int) : String := if n < 10 then "0" ++ toString n else toString n

/-- `time.strftime('%d.%m.%Y')` -/
def strftime (time : Int) : String :=
  let (day, month, year) := civilDate (time / 86400)
  twoDigits day ++ "." ++ twoDigits month ++ "." ++ toString year

example : strftime 951782400 = "29.02.2000" := by decide +kernel

/-! ### The loaded relations -/

/-- An order line with the relations loaded with it. -/
structure LoadedOrderItem where
  row : OrderItemORM
  invoices : List InvoiceORM
  info : Option LoadedCatalogItem

/-- An order with the relations loaded with it. -/
structure LoadedOrder where
  row : OrderORM
  orderItems : List LoadedOrderItem
  invoices : List InvoiceORM
  delivery : Option DeliveryORM
  preorder : Option PreorderORM

def Database.loadOrderItem (db : Database) (row : OrderItemORM) : LoadedOrderItem where
  row
  invoices := db.invoices.rows.filter fun invoice => invoice.orderItemId = some row.id
  info := (db.catalog.items.find? row.itemId).map db.catalog.load

/-- The order with the given id, if there is one. -/
def Database.loadOrder (db : Database) (id : UUID) : Option LoadedOrder :=
  (db.orders.find? id).map fun row =>
    { row
      orderItems :=
        (db.orderItems.rows.filter fun line => line.orderId = row.id).map db.loadOrderItem
      invoices := db.invoices.rows.filter fun invoice => invoice.orderId = row.id
      delivery := row.deliveryId.bind db.deliveries.find?
      preorder := row.preorderId.bind db.catalog.preorders.find? }

/-! ### `get_user_order` -/

/-- `DELIVERY_TRACKING_LINK_MAPPING` -/
def deliveryTrackingLink : DeliveryService → Option String
  | .cdek => some "https://www.cdek.ru/ru/tracking/?order_id="
  | .selfPickup => none

/-- `CreditPart.model_validate(part)` -/
def paymentView (P : OrderPydantic) (part : CreditPartORM) : Except PyExc CreditPart := do
  let deadline ← P.date part.deadline
  return { sum := part.sum, deadline }

/-- `Credit(…)` of an order line. -/
def creditView (P : OrderPydantic) (item : LoadedOrderItem) : Except PyExc Credit := do
  let itemUnpaidInvoices := item.invoices.filter fun invoice => invoice.status = .unpaid
  let firstUnpaidInvoice := itemUnpaidInvoices.head?
  let info ← attributeOf item.info
  let creditPlan ← attributeOf info.creditPlan
  let payments ← creditPlan.parts.mapM (paymentView P)
  let paidParts ← firstUnpaidInvoice.elim (.ok item.invoices.length) fun invoice =>
    required invoice.creditPartIndex
  return {
    payments
    paidParts
    invoice := firstUnpaidInvoice.map fun invoice =>
      { id := invoice.id
        creditPartIndex := invoice.creditPartIndex
        type := invoice.type
        amount := invoice.amount
        isPaid := false } }

/-- The credit of an order line, if it is paid by instalments. -/
def lineCredit (P : OrderPydantic) (item : LoadedOrderItem) : Except PyExc (Option Credit) :=
  if item.row.byCredit then (creditView P item).map some else .ok none

/-- `OrderItem(…)` of an order line. -/
def orderItemView (P : OrderPydantic) (item : LoadedOrderItem) : Except PyExc OrderItem := do
  let credit ← lineCredit P item
  let info ← attributeOf item.info
  let product ← attributeOf info.product
  let image ← firstOf (getAttachmentUrlsByType product.attachments .image)
  return {
    id := item.row.itemId
    title := product.title
    image
    quantity := item.row.quantity
    sum := item.row.quantity * item.row.price
    credit }

/-- `PreorderInfo(…)` of an order. -/
def preorderView (order : LoadedOrder) : Except PyExc PreorderInfo := do
  let preorder ← attributeOf order.preorder
  let id ← required order.row.preorderId
  return {
    id
    title := "Предзаказ от " ++ strftime preorder.createdAt
    status := preorder.status
    expectedArrival := preorder.expectedArrival }

/-- `Delivery(…)` of a delivery, as the order has it. -/
def deliveryView (delivery : DeliveryORM) : Except PyExc OutputDeliveryData := do
  let code ← required delivery.addressIdentifier
  let fullName ← required delivery.recipientName
  let phone ← required delivery.recipientPhone
  return {
    service := delivery.service
    point := some { address := delivery.address, code }
    recipient := { fullName, phone } }

/-- `Tracking(…)` of a delivery. An empty code is false in Python, and `None` cannot be added
to a text. -/
def trackingView (delivery : DeliveryORM) : Except PyExc (Option Tracking) :=
  match delivery.trackCode with
  | none => .ok none
  | some code =>
    if code = "" then .ok none
    else match deliveryTrackingLink delivery.service with
      | some link => .ok (some { code, link := link ++ code })
      | none => .error .typeError

/-- `Order(…)` of an order, whose own fields are validated when those of its parts have been. -/
def orderView (P : OrderPydantic) (order : LoadedOrder) : Except PyExc Order := do
  let items ← order.orderItems.mapM (orderItemView P)
  let preorder ← preorderView order
  let delivery ← order.delivery.elim (.ok none) fun delivery => (deliveryView delivery).map some
  let tracking ← order.delivery.elim (.ok none) trackingView
  let createdAt ← P.dateTime order.row.createdAt
  return {
    id := order.row.id
    createdAt
    status := order.row.status
    items
    preorder := some preorder
    delivery
    invoices := (order.invoices.filter fun inv => inv.type ≠ .credit).map fun inv =>
      { id := inv.id
        creditPartIndex := none
        type := inv.type
        amount := inv.amount
        isPaid := inv.status = .paid }
    tracking }

/-- `OrderService.get_user_order` -/
def getUserOrder (P : OrderPydantic) (orderId userId : UUID) : App σ Order := do
  let order ← Session.query postgres fun db => db.loadOrder orderId
  let order ← liftExcept (attributeOf order)
  raiseIf (order.row.userId ≠ userId) .forbiddenError
  liftExcept (orderView P order)

/-- `GET /order`, in the transaction of its request. -/
def getOrder (P : OrderPydantic) (user : UserIdentity) (orderId : UUID) : App σ Order :=
  initCtxDbSession postgres none .get (getUserOrder P orderId user.id)

/-! ### When there is a view -/

section Views

variable {P : OrderPydantic}

/-- The invoice that the credit of a line is about: its first that is not paid. -/
def firstUnpaidInvoice (item : LoadedOrderItem) : Option InvoiceORM :=
  (item.invoices.filter fun invoice => invoice.status = .unpaid).head?

theorem mem_of_firstUnpaidInvoice {item : LoadedOrderItem} {invoice : InvoiceORM}
    (h : firstUnpaidInvoice item = some invoice) : invoice ∈ item.invoices :=
  (List.mem_filter.mp (List.mem_of_mem_head? h)).1

/-- The item of the line has a credit plan, whose deadlines pass. -/
def HasPayments (P : OrderPydantic) (item : LoadedOrderItem) : Prop :=
  ∃ info plan, item.info = some info ∧ info.creditPlan = some plan ∧
    ∀ part ∈ plan.parts, ∃ deadline, P.date part.deadline = .ok deadline

/-- **When a line has a credit**: its item has a credit plan whose deadlines pass, and its first
unpaid invoice, if there is one, bills a part. -/
theorem exists_creditView {item : LoadedOrderItem} :
    (∃ credit, creditView P item = .ok credit) ↔ HasPayments P item ∧
      ∀ invoice, firstUnpaidInvoice item = some invoice → invoice.creditPartIndex.isSome := by
  have hpayments : ∀ plan : CreditPlanORM, (∃ ps, plan.parts.mapM (paymentView P) = .ok ps) ↔
      ∀ part ∈ plan.parts, ∃ deadline, P.date part.deadline = .ok deadline := by
    intro plan
    rw [exists_mapM_eq_ok]
    exact forall₂_congr fun part _ => exists_map_eq_ok
  -- `paid_parts` is an `int`: `None` is refused
  have hparts : (∃ n, (firstUnpaidInvoice item).elim (.ok item.invoices.length)
      (fun invoice => required invoice.creditPartIndex) = .ok n) ↔
        ∀ invoice, firstUnpaidInvoice item = some invoice → invoice.creditPartIndex.isSome := by
    cases firstUnpaidInvoice item with
    | none => exact ⟨fun _ _ h => (by cases h), fun _ => ⟨_, rfl⟩⟩
    | some invoice =>
      simp only [Option.elim_some, required_eq_ok, Option.some.injEq, forall_eq',
        Option.isSome_iff_exists]
  rw [← hparts]
  unfold creditView HasPayments
  simp only [except_bind_eq_ok, attributeOf_eq_ok, ← hpayments]
  refine ⟨?_, ?_⟩
  · rintro ⟨credit, info, hinfo, plan, hplan, payments, hpayments, n, hn, -⟩
    exact ⟨⟨info, plan, hinfo, hplan, payments, hpayments⟩, n, hn⟩
  · rintro ⟨⟨info, plan, hinfo, hplan, payments, hpayments⟩, n, hn⟩
    exact ⟨_, info, hinfo, plan, hplan, payments, hpayments, n, hn, rfl⟩

/-- **When a line has a view**: it has a credit if it is to have one, and its product has an
image. -/
theorem exists_orderItemView {item : LoadedOrderItem} :
    (∃ view, orderItemView P item = .ok view) ↔
      (item.row.byCredit → ∃ credit, creditView P item = .ok credit) ∧
        ∃ info product, item.info = some info ∧ info.product = some product ∧
          ∃ att ∈ product.attachments, att.type = .image := by
  -- `[0]` needs one picture
  have himage : ∀ product : ProductORM,
      (∃ image, firstOf (getAttachmentUrlsByType product.attachments .image) = .ok image) ↔
        ∃ att ∈ product.attachments, att.type = .image := by
    intro product
    unfold getAttachmentUrlsByType
    cases hfilter : product.attachments.filter fun att => att.type = .image with
    | nil =>
      refine iff_of_false (fun ⟨image, h⟩ => by cases h) fun ⟨att, hatt, htype⟩ => ?_
      exact List.filter_eq_nil_iff.mp hfilter att hatt (decide_eq_true htype)
    | cons att atts =>
      have hmem : att ∈ product.attachments.filter fun att => att.type = .image :=
        hfilter ▸ List.mem_cons_self
      obtain ⟨hatt, htype⟩ := List.mem_filter.mp hmem
      exact iff_of_true ⟨_, rfl⟩ ⟨att, hatt, of_decide_eq_true htype⟩
  -- the credit is looked at only where the line was bought by credit
  have hcredit : (∃ credit, lineCredit P item = .ok credit) ↔
      (item.row.byCredit → ∃ credit, creditView P item = .ok credit) := by
    unfold lineCredit
    by_cases hby : item.row.byCredit = true
    · simp only [hby, if_true, forall_const]
      cases creditView P item with
      | error e => exact iff_of_false (fun ⟨_, h⟩ => by cases h) fun ⟨_, h⟩ => by cases h
      | ok credit => exact iff_of_true ⟨_, rfl⟩ ⟨_, rfl⟩
    · simp only [if_neg hby]
      exact iff_of_true ⟨_, rfl⟩ fun h => absurd h hby
  rw [← hcredit]
  unfold orderItemView
  refine ⟨?_, ?_⟩
  · rintro ⟨view, h⟩
    simp only [except_bind_eq_ok, attributeOf_eq_ok] at h
    obtain ⟨credit, hc, info, hinfo, product, hproduct, image, hfirst, -⟩ := h
    exact ⟨⟨credit, hc⟩, info, product, hinfo, hproduct, (himage product).mp ⟨image, hfirst⟩⟩
  · rintro ⟨⟨credit, hc⟩, info, product, hinfo, hproduct, hatt⟩
    obtain ⟨image, hfirst⟩ := (himage product).mpr hatt
    simp only [except_bind_eq_ok, attributeOf_eq_ok]
    exact ⟨_, credit, hc, info, hinfo, product, hproduct, image, hfirst, rfl⟩

/-- A delivery that `create_order` has stored: complete, and not on its way yet. -/
structure DeliveryORM.Fresh (delivery : DeliveryORM) : Prop where
  address_identifier : delivery.addressIdentifier.isSome
  recipient_name : delivery.recipientName.isSome
  recipient_phone : delivery.recipientPhone.isSome
  track_code : delivery.trackCode = none

theorem DeliveryORM.Fresh.view {delivery : DeliveryORM} (h : delivery.Fresh) :
    (∃ view, deliveryView delivery = .ok view) ∧ trackingView delivery = .ok none := by
  obtain ⟨code, hcode⟩ := Option.isSome_iff_exists.mp h.address_identifier
  obtain ⟨name, hname⟩ := Option.isSome_iff_exists.mp h.recipient_name
  obtain ⟨phone, hphone⟩ := Option.isSome_iff_exists.mp h.recipient_phone
  refine ⟨?_, ?_⟩
  · unfold deliveryView
    rw [hcode, hname, hphone]
    exact ⟨_, rfl⟩
  · unfold trackingView
    rw [h.track_code]

/-- **The orders of which there is a view**, where the delivery is fresh and the time of the
order passes: those with a preorder, of whose lines there are views. -/
theorem exists_orderView {order : LoadedOrder}
    (h_time : ∃ time, P.dateTime order.row.createdAt = .ok time)
    (h_preorder : order.preorder.isSome = order.row.preorderId.isSome)
    (h_delivery : ∀ delivery ∈ order.delivery, delivery.Fresh) :
    (∃ view, orderView P order = .ok view) ↔
      order.row.preorderId.isSome ∧
        ∀ item ∈ order.orderItems, ∃ view, orderItemView P item = .ok view := by
  rw [← exists_mapM_eq_ok]
  unfold orderView preorderView
  simp only [except_bind_eq_ok, attributeOf_eq_ok, required_eq_ok]
  refine ⟨?_, ?_⟩
  · rintro ⟨view, items, hitems, _, ⟨preorder, hpreorder, -⟩, -⟩
    -- `order.preorder.created_at` was read, so the order has one
    rw [← h_preorder, hpreorder]
    exact ⟨rfl, items, hitems⟩
  · rintro ⟨hsome, items, hitems⟩
    obtain ⟨id, hid⟩ := Option.isSome_iff_exists.mp hsome
    obtain ⟨preorder, hpreorder⟩ := Option.isSome_iff_exists.mp (h_preorder.trans hsome)
    -- a fresh delivery has a view, and no tracking
    have hdelivery : ∃ delivery, order.delivery.elim (.ok none)
        (fun delivery => (deliveryView delivery).map some) = .ok delivery := by
      cases hd : order.delivery with
      | none => exact ⟨none, rfl⟩
      | some d =>
        obtain ⟨view, hview⟩ := (h_delivery d hd).view.1
        exact ⟨some view, by rw [Option.elim_some, hview]; rfl⟩
    have htracking : order.delivery.elim (.ok none) trackingView = .ok none := by
      cases hd : order.delivery with
      | none => rfl
      | some d => exact (h_delivery d hd).view.2
    obtain ⟨delivery, hdelivery⟩ := hdelivery
    obtain ⟨time, htime⟩ := h_time
    exact ⟨_, items, hitems, _, ⟨preorder, hpreorder, id, hid, rfl⟩, delivery, hdelivery, none,
      htracking, time, htime, rfl⟩

/-- There is no view of an order whose time does not pass. -/
theorem orderView_time {order : LoadedOrder} {view : Order} (h : orderView P order = .ok view) :
    P.dateTime order.row.createdAt = .ok view.createdAt := by
  unfold orderView at h
  simp only [except_bind_eq_ok] at h
  obtain ⟨items, -, preorder, -, delivery, -, tracking, -, time, htime, hview⟩ := h
  cases hview
  exact htime

/-- What the view of a line says. -/
theorem orderItemView_line {item : LoadedOrderItem} {view : OrderItem}
    (h : orderItemView P item = .ok view) :
    (view.id, view.quantity, view.sum) =
      (item.row.itemId, item.row.quantity, item.row.quantity * item.row.price) := by
  unfold orderItemView at h
  simp only [except_bind_eq_ok] at h
  obtain ⟨credit, -, info, -, product, -, image, -, hview⟩ := h
  cases hview
  rfl

/-- Which order a view is of. -/
theorem orderView_id {order : LoadedOrder} {view : Order} (h : orderView P order = .ok view) :
    view.id = order.row.id := by
  unfold orderView at h
  simp only [except_bind_eq_ok] at h
  obtain ⟨items, -, preorder, -, delivery, -, tracking, -, time, -, hview⟩ := h
  cases hview
  rfl

/-- What the view of an order says. -/
theorem orderView_blocks {order : LoadedOrder} {view : Order}
    (h : orderView P order = .ok view) :
    view.items.map (fun item => (item.id, item.quantity, item.sum)) =
        order.orderItems.map (fun item =>
          (item.row.itemId, item.row.quantity, item.row.quantity * item.row.price)) ∧
      view.preorder.isSome ∧ view.delivery.isSome = order.delivery.isSome := by
  unfold orderView at h
  simp only [except_bind_eq_ok] at h
  obtain ⟨items, hitems, preorder, -, delivery, hdelivery, tracking, -, time, -, hview⟩ := h
  cases hview
  refine ⟨map_of_mapM_ok (fun item view => orderItemView_line) hitems, rfl, ?_⟩
  -- a delivery is shown iff there is one; it may fail, but not be left out
  cases hd : order.delivery with
  | none =>
    rw [hd] at hdelivery
    cases hdelivery
    rfl
  | some d =>
    rw [hd, Option.elim_some] at hdelivery
    cases hview : deliveryView d with
    | error e =>
      rw [hview] at hdelivery
      cases hdelivery
    | ok v =>
      rw [hview] at hdelivery
      cases hdelivery
      rfl

end Views

/-- **Inversion of `get_user_order`.** An order is read by its owner only. -/
theorem getUserOrder_eq_ok {P : OrderPydantic} {orderId userId : UUID}
    {c c' : Ctx Database Write σ} (hc : c.Clean) {view : Order} :
    (getUserOrder P orderId userId).run c = .ok view c' ↔
      ∃ order, c.session.view.loadOrder orderId = some order ∧ order.row.userId = userId ∧
        orderView P order = .ok view ∧ c' = c := by
  unfold getUserOrder
  rw [run_bind_ok (Session.run_query_clean postgres c hc _)]
  refine ⟨?_, ?_⟩
  · intro h
    obtain ⟨order, c₁, horder, h₁⟩ := bind_eq_ok.mp h
    obtain ⟨horder, rfl⟩ := liftExcept_eq_ok.mp horder
    obtain ⟨c₂, hraise, h₂⟩ := seq_eq_ok.mp h₁
    obtain ⟨howner, rfl⟩ := raiseIf_eq_ok.mp hraise
    obtain ⟨hview, rfl⟩ := liftExcept_eq_ok.mp h₂
    exact ⟨order, attributeOf_eq_ok.mp horder, not_not.mp howner, hview, rfl⟩
  · rintro ⟨order, horder, howner, hview, rfl⟩
    refine bind_eq_ok.mpr ⟨order, c', liftExcept_eq_ok.mpr ⟨attributeOf_eq_ok.mpr horder, rfl⟩, ?_⟩
    refine seq_eq_ok.mpr ⟨c', raiseIf_eq_ok.mpr ⟨not_not.mpr howner, rfl⟩, ?_⟩
    exact liftExcept_eq_ok.mpr ⟨hview, rfl⟩

/-- **No order is ever returned** where pydantic asks for instances of pendulum's types. -/
theorem not_getsOrder_strict {orderId userId : UUID} {c c' : Ctx Database Write σ} (hc : c.Clean)
    (view : Order) : (getUserOrder .strict orderId userId).run c ≠ .ok view c' := by
  intro h
  obtain ⟨order, -, -, hview, -⟩ := (getUserOrder_eq_ok hc).mp h
  cases orderView_time hview

/-- It only reads. -/
theorem endState_getUserOrder (P : OrderPydantic) (orderId userId : UUID)
    {c : Ctx Database Write σ} (hc : c.Clean) :
    endState ((getUserOrder P orderId userId).run c) = c := by
  unfold getUserOrder
  rw [run_bind_ok (Session.run_query_clean postgres c hc _)]
  refine endState_bind_eq (endState_liftExcept _ _) ?_
  intro order
  refine endState_bind_eq (endState_raiseIf _ _ _) ?_
  intro _
  exact endState_liftExcept _ _

/-! ### Orders on record -/

/-- What the database has of an order, whatever the statuses are: the order, its delivery and
its lines, invoices of these lines that bill a part each, and the catalog. -/
structure Recorded (order : OrderORM) (delivery : Option DeliveryORM) (lines : List OrderItemORM)
    (catalog : Catalog) (db : Database) : Prop where
  order_found : ∃ status, db.orders.find? order.id = some { order with status }
  delivery_found : order.deliveryId.bind db.deliveries.find? = delivery
  lines_found : (db.orderItems.rows.filter fun line => line.orderId = order.id) = lines
  parts_billed : ∀ line ∈ lines, ∀ invoice ∈ db.invoices.rows, invoice.orderItemId = some line.id →
    invoice.creditPartIndex.isSome
  catalog_eq : db.catalog = catalog

/-- The item with the given id has a credit plan. -/
def Catalog.HasCreditPlan (catalog : Catalog) (id : UUID) : Prop :=
  ∃ item plan, catalog.items.find? id = some item ∧ catalog.creditPlan item = some plan

/-- Every product has an image. -/
def Catalog.HasImages (catalog : Catalog) : Prop :=
  ∀ product ∈ catalog.products.rows, ∃ att ∈ product.attachments, att.type = .image

/-- The order is read back: there is a view of it for the user, with every line once, with
its quantity and its sum, a preorder exactly when the order has one, and a delivery exactly
when the order has one. -/
def ReadsBack (P : OrderPydantic) (db : Database) (orderId userId : UUID) : Prop :=
  ∃ order view, db.orders.find? orderId = some order ∧
    (getUserOrder P orderId userId).run (Ctx.start db () : Ctx Database Write Unit) =
      .ok view (Ctx.start db ()) ∧
    (view.items.map fun item => (item.id, item.quantity, item.sum)).Perm
      ((db.orderItems.rows.filter fun line => line.orderId = orderId).map fun line =>
        (line.itemId, line.quantity, line.quantity * line.price)) ∧
    (view.preorder.isSome ↔ order.preorderId.isSome) ∧
    (view.delivery.isSome ↔ order.deliveryId.isSome)

section Recorded

variable {P : OrderPydantic} {order : OrderORM} {delivery : Option DeliveryORM}
  {lines : List OrderItemORM} {catalog : Catalog} {db : Database}

/-- The assignment to a status keeps the record. -/
theorem Recorded.apply_status (h : Recorded order delivery lines catalog db) {w : Write}
    (h_status : w.IsStatus) {db' : Database} (h_apply : w.apply db = .ok db') :
    Recorded order delivery lines catalog db' := by
  cases w <;> first | exact h_status.elim | skip
  case setPaymentStatus id status =>
    cases h_apply
    exact { h with }
  case setInvoiceStatus id status =>
    cases h_apply
    refine { h with parts_billed := fun line hline invoice hinvoice hid => ?_ }
    -- the invoice is one of before, with the same line and part
    obtain ⟨old, hold, rfl⟩ := List.mem_map.mp hinvoice
    by_cases hset : old.id = id
    · rw [if_pos hset] at hid ⊢
      exact h.parts_billed line hline old hold hid
    · rw [if_neg hset] at hid ⊢
      exact h.parts_billed line hline old hold hid
  case setOrderStatus id status =>
    cases h_apply
    refine { h with order_found := ?_ }
    -- the order is found under the same id, whatever its status
    obtain ⟨old, hold⟩ := h.order_found
    have hfind := Table.find?_modify db.orders id (fun o => { o with status }) (fun _ => rfl)
      order.id
    rw [hold] at hfind
    by_cases hset : order.id = id
    · rw [if_pos hset] at hfind
      exact ⟨status, hfind⟩
    · rw [if_neg hset] at hfind
      exact ⟨old, hfind⟩

theorem Recorded.process (h : Recorded order delivery lines catalog db)
    (notification : PaymentStatusNotification) :
    Recorded order delivery lines catalog (process db notification) := by
  cases hfind : db.invoices.find? notification.invoiceId with
  | none => exact (process_unknown hfind).symm ▸ h
  | some invoice =>
    exact postgres.applyAll_preserves
      (fun w hw _ _ hrec happly =>
        hrec.apply_status (isStatus_statusWrites notification invoice _ _ w hw) happly)
      (applyAll_process hfind) h

/-- Notifications keep the record, in any number. -/
theorem Recorded.run (h : Recorded order delivery lines catalog db)
    {notifications : List PaymentStatusNotification} {db' : Database}
    (h_run : Run Processed db notifications db') : Recorded order delivery lines catalog db' := by
  refine h_run.invariant h ?_
  intro db₁ notification db₂ hrec hstep
  rw [hstep]
  exact hrec.process notification

/-- A line on record is loaded with an item of the catalog, which has a product. -/
theorem Recorded.exists_orderItemView (h_P : P.Converts)
    (h : Recorded order delivery lines catalog db) (h_images : catalog.HasImages)
    {line : OrderItemORM} (h_line : line ∈ lines) (h_item : line.itemId ∈ catalog.items.keys) :
    (∃ view, orderItemView P (db.loadOrderItem line) = .ok view) ↔
      (line.byCredit → catalog.HasCreditPlan line.itemId) := by
  obtain ⟨item, hitem, hid⟩ := Table.mem_keys.mp h_item
  have hfind : catalog.items.find? line.itemId = some item :=
    Table.find?_eq_some.mpr ⟨hitem, hid⟩
  -- the item was found at the checkout, and the catalog is as it was then
  have hinfo : (db.loadOrderItem line).info = some (catalog.load item) := by
    show (db.catalog.items.find? line.itemId).map db.catalog.load = _
    rw [h.catalog_eq, hfind]
    rfl
  obtain ⟨product, hproduct⟩ := Catalog.exists_product hitem
  obtain ⟨hmem, -⟩ := Table.find?_eq_some.mp hproduct
  -- what is unpaid bills a part
  have hparts : ∀ invoice, firstUnpaidInvoice (db.loadOrderItem line) = some invoice →
      invoice.creditPartIndex.isSome := by
    intro invoice hinvoice
    obtain ⟨hin, hline⟩ := List.mem_filter.mp (mem_of_firstUnpaidInvoice hinvoice)
    exact h.parts_billed line h_line invoice hin (of_decide_eq_true hline)
  rw [Storefront.exists_orderItemView, exists_creditView, and_iff_left hparts]
  rw [and_iff_left ⟨_, product, hinfo, hproduct, h_images product hmem⟩]
  refine forall_congr' fun _ => ⟨?_, ?_⟩
  · rintro ⟨info, plan, hinfo', hplan, -⟩
    rw [hinfo] at hinfo'
    cases hinfo'
    exact ⟨item, plan, hfind, hplan⟩
  · rintro ⟨item', plan, hitem', hplan⟩
    rw [hfind] at hitem'
    cases hitem'
    exact ⟨_, plan, hinfo, hplan, fun part _ => h_P.date part.deadline⟩

/-- **When an order on record is read back.** -/
theorem Recorded.readsBack_iff (h_P : P.Converts) (h : Recorded order delivery lines catalog db)
    (h_images : catalog.HasImages) (h_fresh : ∀ d ∈ delivery, d.Fresh)
    (h_delivery : order.deliveryId.isSome = delivery.isSome)
    (h_preorder : ∀ preorder ∈ order.preorderId, preorder ∈ catalog.preorders.keys)
    (h_items : ∀ line ∈ lines, line.itemId ∈ catalog.items.keys) :
    ReadsBack P db order.id order.userId ↔
      order.preorderId.isSome ∧
        ∀ line ∈ lines, line.byCredit → catalog.HasCreditPlan line.itemId := by
  obtain ⟨status, horder⟩ := h.order_found
  -- the order as it is loaded
  obtain ⟨loaded, hloaded, hrow, hlines, hloadedDelivery, hloadedPreorder⟩ :
      ∃ loaded, db.loadOrder order.id = some loaded ∧ loaded.row = { order with status } ∧
        loaded.orderItems = lines.map db.loadOrderItem ∧ loaded.delivery = delivery ∧
        loaded.preorder = order.preorderId.bind catalog.preorders.find? := by
    refine ⟨_, by unfold Database.loadOrder; rw [horder]; rfl, rfl, ?_, h.delivery_found, ?_⟩
    · exact congrArg (List.map db.loadOrderItem) h.lines_found
    · show order.preorderId.bind db.catalog.preorders.find? = _
      rw [h.catalog_eq]
  -- the preorder the row names is stored
  have hpreorder : loaded.preorder.isSome = loaded.row.preorderId.isSome := by
    rw [hloadedPreorder, hrow]
    cases hp : order.preorderId with
    | none => rfl
    | some preorder =>
      obtain ⟨row, hmem, hid⟩ := Table.mem_keys.mp (h_preorder preorder hp)
      rw [Option.bind_some, Table.find?_eq_some.mpr ⟨hmem, hid⟩]
      rfl
  have hviews : (∃ view, orderView P loaded = .ok view) ↔ order.preorderId.isSome ∧
      ∀ line ∈ lines, line.byCredit → catalog.HasCreditPlan line.itemId := by
    rw [exists_orderView (h_P.dateTime _) hpreorder (by rw [hloadedDelivery]; exact h_fresh),
      hrow, hlines, List.forall_mem_map]
    exact and_congr_right fun _ => forall₂_congr fun line hline =>
      Recorded.exists_orderItemView h_P h h_images hline (h_items line hline)
  rw [← hviews]
  refine ⟨?_, ?_⟩
  · rintro ⟨_, view, -, hrun, -⟩
    obtain ⟨loaded', hloaded', -, hview, -⟩ := (getUserOrder_eq_ok (Ctx.clean_start db ())).mp hrun
    obtain rfl : loaded' = loaded := Option.some.inj (hloaded'.symm.trans hloaded)
    exact ⟨view, hview⟩
  · rintro ⟨view, hview⟩
    -- whenever there is a page, it shows these lines and this delivery
    obtain ⟨hitems, hpre, hdel⟩ := orderView_blocks hview
    have howner : loaded.row.userId = order.userId := by rw [hrow]
    refine ⟨_, view, horder, (getUserOrder_eq_ok (Ctx.clean_start db ())).mpr
      ⟨loaded, hloaded, howner, hview, rfl⟩, ?_, ?_, ?_⟩
    · rw [hitems, hlines, h.lines_found, List.map_map]
      exact List.Perm.refl _
    · exact iff_of_true hpre (hviews.mp ⟨view, hview⟩).1
    · rw [hdel, hloadedDelivery, h_delivery]

/-- An order that is no preorder is read back for nobody, whatever else is on record. -/
theorem not_readsBack_of_no_preorder {orderId : UUID}
    (h : db.orders.find? orderId = some order) (h_none : order.preorderId = none) (userId : UUID) :
    ¬ ReadsBack P db orderId userId := by
  rintro ⟨_, view, -, hrun, -⟩
  obtain ⟨loaded, hloaded, -, hview, -⟩ := (getUserOrder_eq_ok (Ctx.clean_start db ())).mp hrun
  obtain ⟨row, hrow, rfl⟩ := Option.map_eq_some_iff.mp hloaded
  obtain rfl : order = row := Option.some.inj (h.symm.trans hrow)
  -- `order.preorder.created_at` of `None`
  unfold orderView preorderView at hview
  simp only [except_bind_eq_ok, attributeOf_eq_ok, h_none] at hview
  obtain ⟨items, -, preorder, ⟨_, hpreorder, -⟩, -⟩ := hview
  cases hpreorder

end Recorded

/-! ### The orders that `create_order` stores -/

/-- The foreign keys of the order lines and of the invoices. -/
structure Database.ForeignKeys (db : Database) : Prop where
  order_id : ∀ line ∈ db.orderItems.rows, line.orderId ∈ db.orders.keys
  order_item_id : ∀ invoice ∈ db.invoices.rows, ∀ line ∈ invoice.orderItemId,
    line ∈ db.orderItems.keys

section CreateOrder

variable {orm : Orm} {w : Outside} {user : UserIdentity} {creditIds : List UUID}
  {deliveryData : Option Delivery} {items : List AvailableCheckoutItem}

/-- An invoice in the collection of a line bills a part. -/
theorem creditPartIndex_orderInvoiceRows {row : InvoiceORM}
    (h : row ∈ orderInvoiceRows w items creditIds) {line : UUID}
    (h_line : row.orderItemId = some line) : row.creditPartIndex.isSome := by
  obtain ⟨ref, -, rfl⟩ := List.mem_map.mp h
  obtain ⟨p, hfind, -⟩ := Option.map_eq_some_iff.mp h_line
  have href := List.find?_some hfind
  have hmem := List.mem_reverse.mp (List.mem_of_find?_eq_some hfind)
  obtain ⟨q, -, rfl⟩ := List.mem_map.mp hmem
  -- it is one of the CREDIT invoices of the line's item
  obtain ⟨entry, hentry, hin⟩ := mem_itemRefs.mp (of_decide_eq_true href)
  obtain ⟨item, -, -, rfl⟩ := exists_creditInvoices_of_get? (Dict.get?_eq_some.mpr hentry)
  obtain ⟨object, hobject, rfl⟩ := List.mem_map.mp hin
  obtain ⟨part, -, rfl⟩ := List.mem_map.mp hobject
  rfl

/-- **An order that `create_order` has stored is on record.** -/
theorem createOrder_recorded (h_orm : orm.Accepts) {c c' : Ctx Database Write RequestState}
    (hc : c.Clean) (h_fk : c.session.view.ForeignKeys) {url : String}
    (h : (createOrder orm w user creditIds deliveryData items).run c = .ok url c') :
    ∃ delivery, deliveryObject w deliveryData = .ok delivery ∧
      Recorded (orderRow w user delivery items) delivery (items.zipIdx.map (orderLine w creditIds))
        c.session.view.catalog c'.session.view := by
  obtain ⟨payment, delivery, -, hdelivery, hstores⟩ := createOrder_stores h_orm hc h
  refine ⟨delivery, hdelivery, ?_⟩
  -- no row can be of this order yet
  have hnew : w.uuid .order ∉ c.session.view.orders.keys :=
    Table.notMem_keys_of_append hstores.orders (List.mem_singleton.mpr rfl)
  exact {
    order_found := by
      refine ⟨.unpaid, Table.find?_of_mem (r := orderRow w user delivery items) ?_⟩
      rw [hstores.orders]
      exact List.mem_append_right _ (List.mem_singleton.mpr rfl)
    delivery_found := by
      cases delivery with
      | none => rfl
      | some d =>
        refine Table.find?_of_mem (r := d) ?_
        rw [hstores.deliveries]
        exact List.mem_append_right _ (List.mem_singleton.mpr rfl)
    lines_found := by
      -- the lines of before are those of other orders
      rw [hstores.lines, List.filter_append]
      have hold : (c.session.view.orderItems.rows.filter fun line =>
          line.orderId = (orderRow w user delivery items).id) = [] := by
        refine List.filter_eq_nil_iff.mpr fun line hline heq => hnew ?_
        have hid : line.orderId = w.uuid .order := of_decide_eq_true heq
        exact hid ▸ h_fk.order_id line hline
      rw [hold, List.nil_append]
      refine List.filter_eq_self.mpr fun line hline => decide_eq_true ?_
      obtain ⟨p, -, rfl⟩ := List.mem_map.mp hline
      rfl
    parts_billed := by
      intro line hline invoice hinvoice hid
      rw [hstores.invoices] at hinvoice
      rcases List.mem_append.mp hinvoice with hold | hrow
      -- the invoices of before are those of other lines
      · exact absurd (h_fk.order_item_id invoice hold line.id hid)
          (Table.notMem_keys_of_append hstores.lines hline)
      · exact creditPartIndex_orderInvoiceRows hrow hid
    catalog_eq := Catalog.ext hstores.preorders hstores.publications hstores.products
      hstores.credit_plans (Table.ext hstores.catalog_items) }

/-- The delivery of an order is stored complete. -/
theorem fresh_deliveryObject {delivery : Option DeliveryORM}
    (h : deliveryObject w deliveryData = .ok delivery) : ∀ d ∈ delivery, d.Fresh := by
  cases deliveryData with
  | none =>
    cases h
    exact fun d hd => by cases hd
  | some data =>
    obtain ⟨point, -, hrow⟩ := except_bind_eq_ok.mp h
    cases hrow
    intro d hd
    cases hd
    exact ⟨rfl, rfl, rfl, rfl⟩

/-- The preorder of an order and the items of its lines are in the catalog. -/
theorem createOrder_references (h_orm : orm.Accepts) {c c' : Ctx Database Write RequestState}
    (hc : c.Clean) {url : String}
    (h : (createOrder orm w user creditIds deliveryData items).run c = .ok url c') :
    (∀ preorder ∈ items.head?.bind (·.preorderId),
        preorder ∈ c.session.view.catalog.preorders.keys) ∧
      ∀ line ∈ items.zipIdx.map (orderLine w creditIds),
        line.itemId ∈ c.session.view.catalog.items.keys := by
  obtain ⟨ws, payment, db, horder, -, happly, -, -⟩ := (createOrder_eq_ok hc).mp h
  obtain ⟨delivery, -, hinserts⟩ := orderWrites_inserts h_orm horder
  obtain ⟨db₁, hwrites, -⟩ := (postgres.applyAll_append_eq_ok).mp happly
  -- the statements went through, so their foreign keys resolved before
  have hrefs := references_applyAll hinserts.ordering hwrites
  refine ⟨?_, ?_⟩
  · have hmem : orderRow w user delivery items ∈ ws.filterMap Write.order? :=
      hinserts.order ▸ List.mem_singleton.mpr rfl
    obtain ⟨x, hx, hsome⟩ := List.mem_filterMap.mp hmem
    cases x <;> cases hsome
    exact hrefs _ hx
  · intro line hline
    rw [← hinserts.lines] at hline
    obtain ⟨x, hx, hsome⟩ := List.mem_filterMap.mp hline
    cases x <;> cases hsome
    exact hrefs _ hx

/-- **When a stored order is read back by its owner**, with pydantic converting what is read:
when it has a preorder, and every item that was chosen for instalments has a credit plan. -/
theorem createOrder_reads_back_iff {P : OrderPydantic} (h_P : P.Converts) (h_orm : orm.Accepts)
    {c c' : Ctx Database Write RequestState} (hc : c.Clean)
    (h_fk : c.session.view.ForeignKeys) (h_images : c.session.view.catalog.HasImages)
    {url : String}
    (h : (createOrder orm w user creditIds deliveryData items).run c = .ok url c')
    {notifications : List PaymentStatusNotification} {db : Database}
    (h_run : Run Processed c'.session.view notifications db) :
    ReadsBack P db (w.uuid .order) user.id ↔
      (items.head?.bind (·.preorderId)).isSome ∧
        ∀ item ∈ items, item.id ∈ creditIds → c.session.view.catalog.HasCreditPlan item.id := by
  obtain ⟨delivery, hdelivery, hrecorded⟩ := createOrder_recorded h_orm hc h_fk h
  obtain ⟨hpreorder, hitems⟩ := createOrder_references h_orm hc h
  have hiff := Recorded.readsBack_iff h_P (hrecorded.run h_run) h_images
    (fresh_deliveryObject hdelivery) (by unfold orderRow; rw [Option.isSome_map]) hpreorder hitems
  refine hiff.trans (and_congr_right fun _ => ?_)
  -- the lines are those of the items
  rw [List.forall_mem_map]
  refine ⟨?_, ?_⟩
  · intro hlines item hitem hchosen
    rw [← List.zipIdx_map_fst 0 items] at hitem
    obtain ⟨p, hp, rfl⟩ := List.mem_map.mp hitem
    exact hlines p hp (decide_eq_true hchosen)
  · intro hall p hp hby
    exact hall p.1 (List.fst_mem_of_mem_zipIdx hp) (of_decide_eq_true hby)

end CreateOrder

/-! Item 1 is a preorder with a credit plan, item 2 is in stock. -/

def shelfCatalog : Catalog where
  preorders := ⟨[⟨31, 0, some "лето", "OPEN"⟩], List.nodup_singleton _⟩
  publications := ⟨[⟨32, some 31⟩, ⟨33, none⟩], by decide⟩
  products := ⟨[⟨3, "item", [⟨.image, "/1.png"⟩]⟩], List.nodup_singleton _⟩
  creditPlans := ⟨[⟨34, [⟨40, "2024-01-01"⟩, ⟨60, "2024-02-01"⟩]⟩], List.nodup_singleton _⟩
  items := ⟨[
    { soldOutItem with publicationId := 32, creditPlanId := some 34, quantity := none },
    { soldOutItem with id := 2, publicationId := 33, quantity := some 3 }], by decide⟩
  preorder_fk := by decide
  publication_fk := by decide
  product_fk := by decide
  credit_plan_fk := by decide
  quantity_limit := by decide

def shelfContext : Ctx Database Write RequestState :=
  .start { sampleDatabase with catalog := shelfCatalog } ⟨[], []⟩

/-- A preorder that is paid by instalments is read back, also after its payment. -/
theorem createOrder_reads_back_sample :
    ∃ url c, (createOrder .flattening sampleOutside sampleUser [1] none
        [{ planItem 1 with preorderId := some 31 }]).run shelfContext = .ok url c ∧
      ReadsBack .converting (process c.session.view ⟨13, 7, "CONFIRMED"⟩) 11 sampleUser.id := by
  -- evaluated once, so that the state it ends in can be named
  have hok : ((createOrder .flattening sampleOutside sampleUser [1] none
      [{ planItem 1 with preorderId := some 31 }]).run' shelfContext).isSome = true := by
    decide +kernel
  cases hrun : (createOrder .flattening sampleOutside sampleUser [1] none
      [{ planItem 1 with preorderId := some 31 }]).run shelfContext with
  | error e c =>
    unfold EStateM.run' at hok
    rw [hrun] at hok
    cases hok
  | ok url c =>
    refine ⟨url, c, rfl, (createOrder_reads_back_iff converts_converting accepts_flattening
      (Ctx.clean_start _ _) ⟨by decide, by decide⟩ ?_ hrun (.cons rfl (.nil _))).mpr ⟨rfl, ?_⟩⟩
    · exact fun product hproduct => ⟨⟨.image, "/1.png"⟩, by
        rw [List.mem_singleton.mp hproduct]
        exact ⟨List.mem_singleton.mpr rfl, rfl⟩⟩
    · intro item hitem _
      rw [List.mem_singleton.mp hitem]
      exact ⟨_, _, rfl, rfl⟩

/-- An order of an item in stock, which is stored and cannot be read back, whatever pydantic
makes of the dates. -/
theorem stock_order_not_read :
    ∃ url c, (createOrder .flattening sampleOutside sampleUser [] none
        [{ planItem 2 with creditParts := none }]).run shelfContext = .ok url c ∧
      ∀ P, ¬ ReadsBack P c.session.view 11 sampleUser.id := by
  -- it is stored without a preorder, whose date would be shown
  have hok : (createOrder .flattening sampleOutside sampleUser [] none
      [{ planItem 2 with creditParts := none }] >>= fun _ =>
        (fun c => c.session.view.orders.find? 11) <$> get).run' shelfContext =
      some (some ⟨11, 5, none, none, .unpaid, 0⟩) := by decide +kernel
  cases hrun : (createOrder .flattening sampleOutside sampleUser [] none
      [{ planItem 2 with creditParts := none }]).run shelfContext with
  | error e c =>
    unfold EStateM.run' at hok
    rw [run_bind_error hrun] at hok
    cases hok
  | ok url c =>
    unfold EStateM.run' at hok
    rw [run_bind_ok hrun] at hok
    exact ⟨url, c, rfl, fun P => not_readsBack_of_no_preorder (Option.some.inj hok) rfl _⟩

end Storefront
