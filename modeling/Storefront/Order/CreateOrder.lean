import Storefront.Order.Invoices

/-!
# Creating an order

`OrderService.create_order` (`services/order/service.py`): it builds the invoices, stores the
order with its delivery, lines and invoices, asks the bank for a payment of the INITIAL
invoice and stores the payment.

What lies outside is passed in. `Outside` has the ids drawn for the objects that are
constructed, the time, and the bank; `Orm` is what a relationship mapped as a list makes of
the value it is given. The ids are told apart by the place where the object is constructed,
so that an object can be followed from the invoice mapping into the collections it is put in.

* `createOrder_eq_ok` — the inversion of a run that returned: the database has taken the
  writes of `orderWrites` and the payment, and the bank was sent one request;
* `requestedAmount_iff` — the amount requested from the bank is that of the INITIAL invoice
  if and only if no line is split or the deposits add up to the prices;
* `createOrder_never_links` — with relationships that accept lists only, every run raises.
-/

namespace Storefront

/-! ### Requests to the bank (`integrations/tinkoff/models.py`) -/

structure ReceiptItem where
  name : String
  price : Int
  quantity : Int
  amount : Int
  tax : String := "none"
  deriving DecidableEq, Repr

structure Receipt where
  email : String
  phone : String
  taxation : String := "usn_income_outcome"
  items : List ReceiptItem
  deriving DecidableEq, Repr

structure InitPaymentRequest where
  amount : Int
  orderId : UUID
  description : String
  redirectDueDate : Option Int
  data : List (String × String)
  receipt : Receipt
  deriving DecidableEq, Repr

structure InitPaymentResponse where
  terminalKey : String
  status : String
  paymentId : Int
  orderId : UUID
  amount : Int
  paymentUrl : String
  deriving DecidableEq, Repr

/-! ### Customers and deliveries -/

structure UserIdentity where
  id : UUID
  email : String
  phone : String
  deriving DecidableEq, Repr

structure Recipient where
  fullName : String
  phone : String
  deriving DecidableEq, Repr

structure DeliveryPoint where
  address : String
  code : String
  deriving DecidableEq, Repr

structure Delivery where
  recipient : Recipient
  service : DeliveryService
  point : Option DeliveryPoint
  deriving DecidableEq, Repr

/-! ### What is outside -/

/-- `constants.py` -/
def HOURS_TILL_ORDER_EXPIRES : Int := 1

/-- Where a request constructs an object that gets an id. -/
inductive Site
  | order
  | delivery
  | orderItem (index : Nat)
  | initialInvoice
  | creditInvoice (item : UUID) (part : Nat)
  | payment
  deriving DecidableEq, Repr

/-- What a request takes from outside: the ids drawn by `uuid4`, the time in seconds, and the
answer of the bank. -/
structure Outside where
  uuid : Site → UUID
  now : Int
  bank : InitPaymentRequest → Except PyExc InitPaymentResponse

/-- An invoice as an object: where it was constructed, and its attributes. -/
structure InvoiceRef where
  site : Site
  object : InvoiceObject
  deriving DecidableEq, Repr

/-- The objects of an entry of the invoice mapping. -/
def entryRefs (p : InvoiceKey × InvoiceEntry) : List InvoiceRef :=
  match p.1 with
  | .initial => p.2.toList.map fun object => ⟨.initialInvoice, object⟩
  | .item id => p.2.toList.map fun object =>
    ⟨.creditInvoice id (object.creditPartIndex.getD 0), object⟩

/-- A value passed for a relationship. -/
inductive RelValue
  | none
  | list (refs : List InvoiceRef)
  | single (ref : InvoiceRef)
  | dict (mapping : Dict InvoiceKey InvoiceEntry)

/-- What a relationship mapped as a list makes of the value it is given: the objects of its
collection, or an exception. -/
structure Orm where
  collection : RelValue → Except PyExc (List InvoiceRef)

/-- A list of instances is accepted; a dictionary, `None` and anything else raise. -/
def Orm.listOnly : Orm where
  collection
    | .list refs => .ok refs
    | _ => .error .typeError

/-- Takes a dictionary for all the objects in it and `None` for no objects. -/
def Orm.flattening : Orm where
  collection
    | .none => .ok []
    | .list refs => .ok refs
    | .single ref => .ok [ref]
    | .dict mapping => .ok (mapping.rows.flatMap entryRefs)

/-- `invoices.get(str(item.id), None)` -/
def invoicesOfItem (invoices : Dict InvoiceKey InvoiceEntry) (id : UUID) : RelValue :=
  match invoices.get? (.item id) with
  | some (.many l) => .list (entryRefs (.item id, .many l))
  | some (.one object) => .single ⟨.creditInvoice id (object.creditPartIndex.getD 0), object⟩
  | none => .none

/-! ### The order -/

/-- `checkout_items[0]` -/
def firstOf {α : Type} : List α → Except PyExc α
  | a :: _ => .ok a
  | [] => .error .indexError

/-- `DeliveryORM(…) if delivery_data else None` -/
def deliveryObject (w : Outside) : Option Delivery → Except PyExc (Option DeliveryORM)
  | some deliveryData => do
    let point ← attributeOf deliveryData.point
    return some
      { id := w.uuid .delivery
        service := deliveryData.service
        address := point.address
        addressIdentifier := some point.code
        recipientName := some deliveryData.recipient.fullName
        recipientPhone := some deliveryData.recipient.phone
        trackCode := none }
  | none => .ok none

/-- `OrderItemORM(…)` of the item at a position, with the objects of its `invoices`. -/
def orderItemObject (orm : Orm) (w : Outside) (creditItemsIds : List UUID)
    (invoices : Dict InvoiceKey InvoiceEntry) (p : AvailableCheckoutItem × Nat) :
    Except PyExc (OrderItemORM × List InvoiceRef) := do
  let refs ← orm.collection (invoicesOfItem invoices p.1.id)
  return (
    { id := w.uuid (.orderItem p.2)
      itemId := p.1.id
      orderId := w.uuid .order
      quantity := p.1.quantity
      price := p.1.price
      byCredit := byCredit creditItemsIds p.1 }, refs)

/-- The row of an invoice of the order; it belongs to an order line when it is in the
line's collection. -/
def invoiceRow (w : Outside) (orderItems : List (OrderItemORM × List InvoiceRef))
    (ref : InvoiceRef) : InvoiceORM where
  id := w.uuid ref.site
  orderId := w.uuid .order
  orderItemId := (orderItems.reverse.find? fun p => ref ∈ p.2).map fun p => p.1.id
  creditPartIndex := ref.object.creditPartIndex
  title := ref.object.title
  type := ref.object.type
  amount := ref.object.amount
  status := ref.object.status

/-- What the unit of work inserts for an order: parents first, and the invoices found in any
of the collections; one that is not in the order's own collection has no order. -/
def insertions (w : Outside) (delivery : Option DeliveryORM) (order : OrderORM)
    (orderItems : List (OrderItemORM × List InvoiceRef)) (orderInvoices : List InvoiceRef) :
    List Write :=
  delivery.toList.map .insertDelivery ++
  .insertOrder order ::
  orderItems.map (fun p => .insertOrderItem p.1) ++
  (orderInvoices ++ orderItems.flatMap Prod.snd).dedup.map fun ref =>
    if ref ∈ orderInvoices then .insertInvoice (invoiceRow w orderItems ref)
    else .insertInvoiceNull (w.uuid ref.site)

/-- `OrderORM(…)`, as the writes of its insertion. The arguments are evaluated in order. -/
def orderWrites (orm : Orm) (w : Outside) (user : UserIdentity) (creditItemsIds : List UUID)
    (deliveryData : Option Delivery) (checkoutItems : List AvailableCheckoutItem) :
    Except PyExc (List Write) := do
  let invoices := makeOrderInvoicesObjects checkoutItems creditItemsIds
  let first ← firstOf checkoutItems
  let delivery ← deliveryObject w deliveryData
  let orderItems ← checkoutItems.zipIdx.mapM (orderItemObject orm w creditItemsIds invoices)
  let orderInvoices ← orm.collection (.dict invoices)
  let order : OrderORM :=
    { id := w.uuid .order
      userId := user.id
      preorderId := first.preorderId
      deliveryId := delivery.map (·.id)
      status := .unpaid
      createdAt := w.now }
  return insertions w delivery order orderItems orderInvoices

/-! ### The payment -/

/-- `item.price_converted`, in kopecks. -/
def AvailableCheckoutItem.priceConverted (item : AvailableCheckoutItem) : Int := item.price * 100

/-- `item.amount_converted`, in kopecks. -/
def AvailableCheckoutItem.amountConverted (item : AvailableCheckoutItem) : Int :=
  item.price * item.quantity * 100

def receiptItems (checkoutItems : List AvailableCheckoutItem) : List ReceiptItem :=
  checkoutItems.map fun item =>
    { name := item.title
      price := item.priceConverted
      quantity := item.quantity
      amount := item.amountConverted }

/-- `init_payment_due_date` -/
def Outside.dueDate (w : Outside) : Int := w.now + 3600 * HOURS_TILL_ORDER_EXPIRES

/-- `InitPaymentRequest(…)` -/
def initPaymentRequest (w : Outside) (user : UserIdentity)
    (checkoutItems : List AvailableCheckoutItem) : InitPaymentRequest where
  amount := ((receiptItems checkoutItems).map (·.amount)).sum
  orderId := w.uuid .initialInvoice
  description := "Номер заказа: " ++ (w.uuid .order).str
  redirectDueDate := some w.dueDate
  data := [("Phone", user.phone), ("Email", user.email)]
  receipt :=
    { email := user.email
      phone := user.phone
      items := receiptItems checkoutItems }

/-- `PaymentORM(…)` -/
def paymentObject (w : Outside) (payment : InitPaymentResponse) : PaymentORM where
  id := w.uuid .payment
  createdAt := w.now
  invoiceId := w.uuid .initialInvoice
  url := payment.paymentUrl
  status := payment.status
  externalId := payment.paymentId

/-! ### `create_order` -/

/-- What a request carries besides its database session: the checkout data of its session
cookie, and what it has sent to the bank. -/
structure RequestState where
  checkoutData : List AvailableCheckoutItem
  sent : List InitPaymentRequest
  deriving DecidableEq, Repr

/-- `ISqlAlchemyRepository.create` -/
def create {σ : Type} (ws : List Write) : App σ Unit := do
  forM ws Session.add
  Session.flush postgres

/-- `self.tinkoff_client.init_payment(…)` -/
def initPayment (w : Outside) (request : InitPaymentRequest) :
    App RequestState InitPaymentResponse := do
  modify fun c => { c with env := { c.env with sent := c.env.sent ++ [request] } }
  liftExcept (w.bank request)

/-- `OrderService.create_order` -/
def createOrder (orm : Orm) (w : Outside) (user : UserIdentity) (creditItemsIds : List UUID)
    (deliveryData : Option Delivery) (checkoutItems : List AvailableCheckoutItem) :
    App RequestState String := do
  let order ← liftExcept (orderWrites orm w user creditItemsIds deliveryData checkoutItems)
  create order
  let payment ← initPayment w (initPaymentRequest w user checkoutItems)
  create [.insertPayment (paymentObject w payment)]
  return payment.paymentUrl

/-! ### What a run does -/

section Runs

variable {σ : Type}

/-- **What storing objects does**, in a context with nothing to flush. -/
theorem run_create {c : Ctx Database Write σ} (hc : c.Clean) (ws : List Write) :
    (create ws).run c =
      match postgres.applyAll ws c.session.view with
      | .ok db => .ok () { c with session := ⟨db, [], false⟩ }
      | .error e => .error e { c with session := ⟨c.session.view, ws, true⟩ } := by
  obtain ⟨com, ⟨view, pending, broken⟩, env⟩ := c
  obtain ⟨rfl, rfl⟩ : pending = [] ∧ broken = false := hc
  unfold create
  rw [run_bind_ok (Session.run_addAll _ ws)]
  simp only [List.nil_append]
  cases happly : postgres.applyAll ws view with
  | ok db => rw [Session.run_flush_ok postgres ⟨com, ⟨view, ws, false⟩, env⟩ rfl happly]
  | error e => rw [Session.run_flush_error postgres ⟨com, ⟨view, ws, false⟩, env⟩ rfl happly]

theorem create_eq_ok {c c' : Ctx Database Write σ} (hc : c.Clean) {ws : List Write} :
    (create ws).run c = .ok () c' ↔
      ∃ db, postgres.applyAll ws c.session.view = .ok db ∧
        c' = { c with session := ⟨db, [], false⟩ } := by
  rw [run_create hc]
  cases postgres.applyAll ws c.session.view with
  | ok db => simp [eq_comm]
  | error e => simp

/-- Storing objects leaves the rest of the request alone. -/
theorem env_create (ws : List Write) (c : Ctx Database Write σ) :
    (endState ((create ws).run c)).env = c.env := by
  unfold create
  rw [run_bind_ok (Session.run_addAll c ws)]
  exact Session.env_flush postgres _

theorem committed_create (ws : List Write) (c : Ctx Database Write σ) :
    (endState ((create ws).run c)).committed = c.committed := by
  unfold create
  rw [run_bind_ok (Session.run_addAll c ws)]
  exact Session.committed_flush postgres _

variable {orm : Orm} {w : Outside} {user : UserIdentity} {creditIds : List UUID}
  {deliveryData : Option Delivery} {items : List AvailableCheckoutItem}

theorem initPayment_eq_ok {request : InitPaymentRequest} {c c' : Ctx Database Write RequestState}
    {payment : InitPaymentResponse} :
    (initPayment w request).run c = .ok payment c' ↔
      w.bank request = .ok payment ∧
        c' = { c with env := { c.env with sent := c.env.sent ++ [request] } } :=
  liftExcept_eq_ok

/-- **Inversion of `create_order`.** A run that returned has stored the order, sent one
request to the bank and stored the payment. -/
theorem createOrder_eq_ok {c c' : Ctx Database Write RequestState} (hc : c.Clean) {url : String} :
    (createOrder orm w user creditIds deliveryData items).run c = .ok url c' ↔
      ∃ order payment db, orderWrites orm w user creditIds deliveryData items = .ok order ∧
        w.bank (initPaymentRequest w user items) = .ok payment ∧
        postgres.applyAll (order ++ [.insertPayment (paymentObject w payment)])
          c.session.view = .ok db ∧
        url = payment.paymentUrl ∧
        c' = { c with
          session := ⟨db, [], false⟩
          env := { c.env with sent := c.env.sent ++ [initPaymentRequest w user items] } } := by
  unfold createOrder
  refine ⟨?_, ?_⟩
  -- the statements of the coroutine, one after the other
  · intro h
    obtain ⟨order, c₁, hlift, h₁⟩ := bind_eq_ok.mp h
    obtain ⟨horder, rfl⟩ := liftExcept_eq_ok.mp hlift
    obtain ⟨c₂, hcreate, h₂⟩ := seq_eq_ok.mp h₁
    obtain ⟨db₂, hdb₂, rfl⟩ := (create_eq_ok hc).mp hcreate
    obtain ⟨payment, c₃, hpay, h₃⟩ := bind_eq_ok.mp h₂
    obtain ⟨hbank, rfl⟩ := initPayment_eq_ok.mp hpay
    obtain ⟨c₄, hcreate', h₄⟩ := seq_eq_ok.mp h₃
    obtain ⟨db, hdb, rfl⟩ := (create_eq_ok ⟨rfl, rfl⟩).mp hcreate'
    cases h₄
    exact ⟨order, payment, db, horder, hbank,
      (postgres.applyAll_append_eq_ok).mpr ⟨db₂, hdb₂, hdb⟩, rfl, rfl⟩
  -- and back: the order's writes come before the payment's
  · rintro ⟨order, payment, db, horder, hbank, happly, rfl, rfl⟩
    obtain ⟨db₂, hdb₂, hdb⟩ := (postgres.applyAll_append_eq_ok).mp happly
    refine bind_eq_ok.mpr ⟨order, c, liftExcept_eq_ok.mpr ⟨horder, rfl⟩, ?_⟩
    refine seq_eq_ok.mpr ⟨_, (create_eq_ok hc).mpr ⟨db₂, hdb₂, rfl⟩, ?_⟩
    refine bind_eq_ok.mpr ⟨payment, _, initPayment_eq_ok.mpr ⟨hbank, rfl⟩, ?_⟩
    exact seq_eq_ok.mpr ⟨_, (create_eq_ok ⟨rfl, rfl⟩).mpr ⟨db, hdb, rfl⟩, rfl⟩

/-- The request is sent, whatever the bank answers. -/
theorem sent_initPayment (request : InitPaymentRequest) (c : Ctx Database Write RequestState) :
    (endState ((initPayment w request).run c)).env.sent = c.env.sent ++ [request] := by
  change (endState ((liftExcept (w.bank request) : App RequestState InitPaymentResponse).run
    { c with env := { c.env with sent := c.env.sent ++ [request] } })).env.sent = _
  rw [run_liftExcept]
  cases w.bank request <;> rfl

/-- Once the order is stored, the request is sent whatever becomes of the payment. -/
theorem sent_payment (request : InitPaymentRequest) (c : Ctx Database Write RequestState) :
    (endState ((do
      let payment ← initPayment w request
      create [.insertPayment (paymentObject w payment)]
      return payment.paymentUrl : App RequestState String).run c)).env.sent =
        c.env.sent ++ [request] := by
  -- storing the payment sends nothing
  have hstore : ∀ (payment : InitPaymentResponse) (c : Ctx Database Write RequestState),
      (endState ((do
        create [.insertPayment (paymentObject w payment)]
        return payment.paymentUrl : App RequestState String).run c)).env.sent = c.env.sent := by
    intro payment c
    have henv := env_create [.insertPayment (paymentObject w payment)] c
    exact congrArg RequestState.sent ((frame_bind Ctx.env (fun _ _ => rfl) c).trans henv)
  calc
    _ = (endState ((initPayment w request).run c)).env.sent :=
      frame_bind (fun c : Ctx Database Write RequestState => c.env.sent) hstore c
    _ = c.env.sent ++ [request] := sent_initPayment request c

/-- `create_order` sends at most one request, whose data does not depend on the database. -/
theorem sent_createOrder (orm : Orm) (w : Outside) (user : UserIdentity) (creditIds : List UUID)
    (deliveryData : Option Delivery) (items : List AvailableCheckoutItem)
    (c : Ctx Database Write RequestState) :
    (endState ((createOrder orm w user creditIds deliveryData items).run c)).env.sent =
        c.env.sent ∨
      (endState ((createOrder orm w user creditIds deliveryData items).run c)).env.sent =
        c.env.sent ++ [initPaymentRequest w user items] := by
  unfold createOrder
  -- the construction of the order
  rcases endState_bind_cases (liftExcept (orderWrites orm w user creditIds deliveryData items))
    (fun order => do
      create order
      let payment ← initPayment w (initPaymentRequest w user items)
      create [.insertPayment (paymentObject w payment)]
      return payment.paymentUrl) c with hend | ⟨order, c₁, hlift, hend⟩
  · left
    rw [hend, run_liftExcept]
    split <;> rfl
  obtain ⟨-, rfl⟩ := liftExcept_eq_ok.mp hlift
  rw [hend]
  -- its storage
  rcases endState_bind_cases (create order) (fun _ => do
      let payment ← initPayment w (initPaymentRequest w user items)
      create [.insertPayment (paymentObject w payment)]
      return payment.paymentUrl) c₁ with hend₂ | ⟨u, c₂, hcreate, hend₂⟩
  · left
    rw [hend₂, env_create]
  have henv : c₂.env = c₁.env := by
    have := env_create order c₁
    rwa [hcreate] at this
  -- the request
  right
  rw [hend₂, sent_payment, henv]

end Runs

/-! ### The amount requested from the bank -/

/-- The items with a credit plan. -/
def planItems (items : List AvailableCheckoutItem) : List AvailableCheckoutItem :=
  items.filter fun item => item.plan ≠ []

/-- The bank is asked for what the INITIAL invoice bills, and for the sum of the receipt. -/
structure RequestsInitialAmount (w : Outside) (items : List AvailableCheckoutItem)
    (creditIds : List UUID) (request : InitPaymentRequest) : Prop where
  order_id : request.orderId = w.uuid .initialInvoice
  initial : ∃ invoice, (makeOrderInvoicesObjects items creditIds).get? .initial =
    some (.one invoice) ∧ request.amount = 100 * invoice.amount
  receipt : request.amount = (request.receipt.items.map (·.amount)).sum

/-- The request is for the price of all lines, in kopecks. -/
theorem amount_initPaymentRequest (w : Outside) (user : UserIdentity)
    (items : List AvailableCheckoutItem) :
    (initPaymentRequest w user items).amount =
      100 * (items.map AvailableCheckoutItem.fullPrice).sum := by
  have hamounts : (receiptItems items).map (·.amount) =
      (items.map AvailableCheckoutItem.fullPrice).map (100 * ·) := by
    unfold receiptItems
    rw [List.map_map, List.map_map]
    refine List.map_congr_left ?_
    intro item _
    exact mul_comm _ _
  change ((receiptItems items).map (·.amount)).sum = _
  rw [hamounts, List.sum_map_mul_left, List.map_id']

/-- Prices and deposits of all lines differ by those of the lines with a plan. -/
theorem sum_fullPrice_sub_deposit (items : List AvailableCheckoutItem) :
    (items.map AvailableCheckoutItem.fullPrice).sum -
        (items.map AvailableCheckoutItem.deposit).sum =
      ((planItems items).map AvailableCheckoutItem.fullPrice).sum -
        ((planItems items).map AvailableCheckoutItem.deposit).sum := by
  unfold planItems
  induction items with
  | nil => rfl
  | cons item items ih =>
    -- an item without a plan adds nothing to the difference
    by_cases hplan : item.plan = []
    · rw [List.filter_cons_of_neg (by simpa using hplan), ← ih]
      simp only [List.map_cons, List.sum_cons, item.deposit_of_plan_nil hplan]
      ring
    · rw [List.filter_cons_of_pos (by simpa using hplan)]
      simp only [List.map_cons, List.sum_cons]
      linarith

/-- **When the bank is asked for what the INITIAL invoice bills**: when no item is chosen for
instalments, or when the deposits of the items with a plan add up to their prices. -/
theorem requestedAmount_iff (orm : Orm) (w : Outside) (user : UserIdentity)
    (creditIds : List UUID) (deliveryData : Option Delivery) (items : List AvailableCheckoutItem)
    (c : Ctx Database Write RequestState) {request : InitPaymentRequest}
    (h_sent : (endState ((createOrder orm w user creditIds deliveryData items).run c)).env.sent =
      c.env.sent ++ [request]) :
    RequestsInitialAmount w items creditIds request ↔
      creditIds = [] ∨
        ((planItems items).map AvailableCheckoutItem.fullPrice).sum =
          ((planItems items).map AvailableCheckoutItem.deposit).sum := by
  -- a run that has sent a request has sent this one
  obtain rfl : request = initPaymentRequest w user items := by
    rcases sent_createOrder orm w user creditIds deliveryData items c with h | h
    · have hlen := congrArg List.length (h.symm.trans h_sent)
      rw [List.length_append, List.length_singleton] at hlen
      omega
    · exact (List.singleton_inj.mp (List.append_cancel_left (h.symm.trans h_sent))).symm
  obtain ⟨title, htitle⟩ := get?_initial items creditIds
  have hamount := amount_initPaymentRequest w user items
  have hdiff := sum_fullPrice_sub_deposit items
  -- the two amounts agree exactly when the condition holds
  have hiff : (items.map AvailableCheckoutItem.fullPrice).sum = initialAmount items creditIds ↔
      creditIds = [] ∨ ((planItems items).map AvailableCheckoutItem.fullPrice).sum =
        ((planItems items).map AvailableCheckoutItem.deposit).sum := by
    unfold initialAmount
    -- with nothing chosen the INITIAL invoice bills all prices
    by_cases hids : creditIds = []
    · simp [hids]
    · rw [if_neg hids, or_iff_right hids]
      constructor <;> intro h <;> linarith
  rw [← hiff]
  refine ⟨?_, ?_⟩
  · intro h
    obtain ⟨invoice, hinvoice, heq⟩ := h.initial
    rw [htitle] at hinvoice
    cases hinvoice
    rw [hamount] at heq
    exact mul_left_cancel₀ (by decide) heq
  · intro h
    refine ⟨rfl, ⟨_, htitle, ?_⟩, rfl⟩
    rw [hamount, h]
    rfl

/-! A run on a small database, for the statements about fixed inputs below. -/

def sampleUser : UserIdentity := ⟨5, "user@example.com", "+70000000000"⟩

/-- Distinct ids, and a bank that accepts every request. -/
def sampleOutside : Outside where
  uuid
    | .order => 11
    | .delivery => 12
    | .initialInvoice => 13
    | .payment => 14
    | .orderItem index => ⟨BitVec.ofNat 128 (20 + index)⟩
    | .creditInvoice _ part => ⟨BitVec.ofNat 128 (40 + part)⟩
  now := 0
  bank request := .ok ⟨"terminal", "NEW", 7, request.orderId, request.amount, "url"⟩

/-- One item with a stock of three, of which none is ordered. -/
def sampleDatabase : Database :=
  Database.ofItem { soldOutItem with quantity := some 3 } rfl (by decide)

def sampleContext : Ctx Database Write RequestState := .start sampleDatabase ⟨[planItem 1], []⟩

/-- Without instalments the bank is asked for 100 roubles, which the INITIAL invoice bills. -/
theorem requestedAmount_iff_sample :
    RequestsInitialAmount sampleOutside [planItem 1] []
      (initPaymentRequest sampleOutside sampleUser [planItem 1]) :=
  (requestedAmount_iff .flattening sampleOutside sampleUser [] none [planItem 1] sampleContext
    (by decide +kernel)).mpr (.inl rfl)

/-- With the item chosen for instalments the bank is still asked for 100 roubles, while the
INITIAL invoice bills 40. -/
theorem deposit_not_requested :
    (endState ((createOrder .flattening sampleOutside sampleUser [1] none [planItem 1]).run
      sampleContext)).env.sent = [initPaymentRequest sampleOutside sampleUser [planItem 1]] ∧
    ¬ RequestsInitialAmount sampleOutside [planItem 1] [1]
      (initPaymentRequest sampleOutside sampleUser [planItem 1]) := by
  refine ⟨by decide +kernel, fun h => ?_⟩
  obtain ⟨invoice, hinvoice, heq⟩ := h.initial
  have hget : (makeOrderInvoicesObjects [planItem 1] [1]).get? .initial =
      some (.one (initialInvoice "Оплата депозита заказа" 40)) := by rfl
  rw [hget] at hinvoice
  cases hinvoice
  exact absurd heq (by decide)

/-! ### Relationships that accept lists only -/

section ListOnly

variable {orm : Orm} {w : Outside} {user : UserIdentity} {creditIds : List UUID}
  {deliveryData : Option Delivery} {items : List AvailableCheckoutItem}

/-- A delivery that `create_order` can store: none, or one with a point. -/
def DeliveryHasPoint (deliveryData : Option Delivery) : Prop :=
  ∀ delivery ∈ deliveryData, delivery.point ≠ none

/-- Under the id of an item the mapping holds a list. -/
theorem exists_many_of_get? {id : UUID} {entry : InvoiceEntry}
    (h : (makeOrderInvoicesObjects items creditIds).get? (.item id) = some entry) :
    ∃ l, entry = .many l := by
  obtain ⟨item, -, -, hentry⟩ := exists_creditInvoices_of_get? h
  exact ⟨item.creditInvoices, hentry⟩

/-- A traversal that can only raise one exception raises it or returns. -/
theorem mapM_ok_or_error {α β : Type} {f : α → Except PyExc β} {e : PyExc}
    (hf : ∀ a, (∃ b, f a = .ok b) ∨ f a = .error e) (l : List α) :
    (∃ bs, l.mapM f = .ok bs) ∨ l.mapM f = .error e := by
  induction l with
  | nil => exact .inl ⟨[], rfl⟩
  | cons a l ih =>
    rw [List.mapM_cons]
    -- the first element that raises decides
    rcases hf a with ⟨b, hb⟩ | ha
    · rw [hb]
      rcases ih with ⟨bs, h⟩ | h
      · exact .inl ⟨b :: bs, by rw [h]; rfl⟩
      · exact .inr (by rw [h]; rfl)
    · exact .inr (by rw [ha]; rfl)

/-- **With relationships that accept lists only an order is never constructed**: an item
that is not split has `None` for its invoices, and the order itself is given the mapping. -/
theorem orderWrites_typeError
    (h_list : ∀ refs, orm.collection (.list refs) = .ok refs)
    (h_dict : ∀ mapping, orm.collection (.dict mapping) = .error .typeError)
    (h_none : orm.collection .none = .error .typeError)
    (h_items : items ≠ []) (h_delivery : DeliveryHasPoint deliveryData) :
    orderWrites orm w user creditIds deliveryData items = .error .typeError := by
  have hfirst : ∃ first, firstOf items = .ok first := by
    cases items with
    | nil => exact absurd rfl h_items
    | cons first rest => exact ⟨first, rfl⟩
  -- the delivery is constructed
  have hdelivery : ∃ delivery, deliveryObject w deliveryData = .ok delivery := by
    cases deliveryData with
    | none => exact ⟨none, rfl⟩
    | some d =>
      cases hpoint : d.point with
      | none => exact absurd hpoint (h_delivery d rfl)
      | some point => exact ⟨_, by simp only [deliveryObject, hpoint]; rfl⟩
  -- a line of an item without an entry raises, the others are constructed
  have hlines := mapM_ok_or_error (e := .typeError)
    (f := orderItemObject orm w creditIds (makeOrderInvoicesObjects items creditIds))
    (fun p => by
      unfold orderItemObject invoicesOfItem
      cases hget : (makeOrderInvoicesObjects items creditIds).get? (.item p.1.id) with
      | none => exact .inr (by simp only [h_none]; rfl)
      | some entry =>
        obtain ⟨l, rfl⟩ := exists_many_of_get? hget
        exact .inl ⟨_, by simp only [h_list]; rfl⟩) items.zipIdx
  obtain ⟨first, hfirst⟩ := hfirst
  obtain ⟨delivery, hdelivery⟩ := hdelivery
  unfold orderWrites
  rw [hfirst, hdelivery]
  -- an order line raises, or else the order itself does
  rcases hlines with ⟨lines, hlines⟩ | hlines
  · simp only [hlines, h_dict]
    rfl
  · simp only [hlines]
    rfl

theorem run_createOrder_typeError
    (h_list : ∀ refs, orm.collection (.list refs) = .ok refs)
    (h_dict : ∀ mapping, orm.collection (.dict mapping) = .error .typeError)
    (h_none : orm.collection .none = .error .typeError)
    (h_items : items ≠ []) (h_delivery : DeliveryHasPoint deliveryData)
    (c : Ctx Database Write RequestState) :
    (createOrder orm w user creditIds deliveryData items).run c = .error .typeError c := by
  unfold createOrder
  rw [orderWrites_typeError h_list h_dict h_none h_items h_delivery]
  rfl

end ListOnly

/-! ### The order that should be stored -/

/-- The order line whose instalments are under a key of the mapping. -/
def lineOf (w : Outside) (items : List AvailableCheckoutItem) : InvoiceKey → Option UUID
  | .initial => none
  | .item id => (items.zipIdx.find? fun p => p.1.id = id).map fun p => w.uuid (.orderItem p.2)

/-- All invoices of the mapping as rows of the order, each CREDIT invoice with the line whose
instalment it bills. -/
def linkedInvoices (w : Outside) (items : List AvailableCheckoutItem) (creditIds : List UUID) :
    List InvoiceORM :=
  (makeOrderInvoicesObjects items creditIds).rows.flatMap fun p => (entryRefs p).map fun ref =>
    { id := w.uuid ref.site
      orderId := w.uuid .order
      orderItemId := lineOf w items p.1
      creditPartIndex := ref.object.creditPartIndex
      title := ref.object.title
      type := ref.object.type
      amount := ref.object.amount
      status := ref.object.status }

/-- `create_order` returns the payment URL, and the stored order has exactly the invoices
built for it. -/
def CreatesLinkedOrder (orm : Orm) (w : Outside) (user : UserIdentity) (creditIds : List UUID)
    (deliveryData : Option Delivery) (items : List AvailableCheckoutItem)
    (c : Ctx Database Write RequestState) : Prop :=
  ∃ payment c', w.bank (initPaymentRequest w user items) = .ok payment ∧
    (createOrder orm w user creditIds deliveryData items).run c = .ok payment.paymentUrl c' ∧
    w.uuid .order ∈ c'.session.view.orders.keys ∧
    (c'.session.view.invoices.rows.filter fun row => row.orderId = w.uuid .order).Perm
      (linkedInvoices w items creditIds)

/-- **No order is ever created**: with relationships that accept lists only, `create_order`
raises `TypeError` for all non-empty items, whatever is chosen for instalments. -/
theorem createOrder_never_links {orm : Orm} (w : Outside) (user : UserIdentity)
    (creditIds : List UUID) {deliveryData : Option Delivery} {items : List AvailableCheckoutItem}
    (c : Ctx Database Write RequestState)
    (h_list : ∀ refs, orm.collection (.list refs) = .ok refs)
    (h_dict : ∀ mapping, orm.collection (.dict mapping) = .error .typeError)
    (h_none : orm.collection .none = .error .typeError)
    (h_items : items ≠ []) (h_delivery : DeliveryHasPoint deliveryData) :
    (createOrder orm w user creditIds deliveryData items).run c = .error .typeError c ∧
      ¬ CreatesLinkedOrder orm w user creditIds deliveryData items c := by
  have hrun : (createOrder orm w user creditIds deliveryData items).run c =
      .error .typeError c :=
    run_createOrder_typeError h_list h_dict h_none h_items h_delivery c
  refine ⟨hrun, ?_⟩
  rintro ⟨payment, c', -, hok, -⟩
  rw [hrun] at hok
  cases hok

/-- The order of one item without instalments. -/
theorem createOrder_never_links_sample :
    (createOrder .listOnly sampleOutside sampleUser [] none [planItem 1]).run sampleContext =
        .error .typeError sampleContext ∧
      ¬ CreatesLinkedOrder .listOnly sampleOutside sampleUser [] none [planItem 1]
        sampleContext :=
  createOrder_never_links sampleOutside sampleUser [] sampleContext (fun _ => rfl)
    (fun _ => rfl) rfl (by decide) (fun _ h => by cases h)

/-- The order of an item that is split, which the bank would accept. -/
theorem split_order_not_created :
    ([planItem 1].map (·.id)).Nodup ∧
      (∃ payment, sampleOutside.bank
        (initPaymentRequest sampleOutside sampleUser [planItem 1]) = .ok payment) ∧
      ¬ CreatesLinkedOrder .listOnly sampleOutside sampleUser [1] none [planItem 1]
        sampleContext := by
  refine ⟨by decide, ⟨_, rfl⟩, ?_⟩
  rintro ⟨payment, c', -, hok, -⟩
  rw [run_createOrder_typeError (fun _ => rfl) (fun _ => rfl) rfl (by decide)
    (fun _ h => by cases h)] at hok
  cases hok

end Storefront
