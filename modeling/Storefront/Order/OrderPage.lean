import Storefront.Order.Deliveries
import Storefront.Order.Progress
import Storefront.User.Cart

/-!
# The page of an order while the bank reports

`GET /order` is asked for at any time, before, between and after the notifications of the bank.
Here is how what it answers depends on them: the answer after any requests to
`notification_handler` is a function of the answer before and of what has been reported.

Invoices come in the order of their rows, which an UPDATE is taken to keep. The one that is to be
paid next does not depend on it: it is chosen among invoices that no notification has updated.

* `lastReport` — what the bank has last said of an invoice, AUTHORIZED or CONFIRMED;
* `loadOrder_settled` — the order that is loaded after any notifications;
* `orderView_reported` — its view, from the view of before;
* `page_follows_reports` — the answers of `GET /order` around any run of requests: an order that
  is shown stays shown, with the same lines, delivery and preorder; the invoices, the credits and
  the status follow the reports.
-/

namespace Storefront

variable {hash : HexDigest} {password : String}

/-- What `GET /order` is answered with, or what is raised. -/
def orderPage (P : OrderPydantic) (db : Database) (user : UserIdentity) (orderId : UUID) :
    Except PyExc Order :=
  answerOf ((getOrder P user orderId).run (Ctx.start db () : Ctx Database Write Unit))

/-! ### What the bank has said -/

section Reports

variable (db : Database) (ns : List PaymentStatusNotification)

/-- The notification hits the invoice, and its status says something of an invoice. -/
def Reports (invoice : UUID) (n : PaymentStatusNotification) : Prop :=
  Hits db n invoice ∧ (n.status = "AUTHORIZED" ∨ n.status = "CONFIRMED")

instance (invoice : UUID) (n : PaymentStatusNotification) : Decidable (Reports db invoice n) := by
  unfold Reports
  infer_instance

/-- The last report on an invoice. -/
def lastReport (invoice : UUID) : Option String :=
  (ns.filter fun n => Reports db invoice n).getLast?.map (·.status)

/-- An invoice on the page after the reports. -/
def Invoice.after (invoice : Invoice) : Invoice :=
  { invoice with
    isPaid := (lastReport db ns invoice.id).elim invoice.isPaid fun s => s = "CONFIRMED" }

/-- The invoice of a line that is to be paid next after the reports: the first one that was
UNPAID, and on which there is no report. -/
def LoadedOrderItem.nextAfter (item : LoadedOrderItem) : Option InvoiceORM :=
  (item.invoices.filter fun invoice =>
    invoice.status = .unpaid ∧ lastReport db ns invoice.id = none).head?

/-- The credit of a line after the reports. -/
def LoadedOrderItem.creditAfter (item : LoadedOrderItem) (credit : Credit) : Credit :=
  { credit with
    invoice := (item.nextAfter db ns).map nextInvoice
    paidParts := (item.nextAfter db ns).elim item.invoices.length fun invoice =>
      invoice.creditPartIndex.getD 0 }

/-- A line of the page after the reports. -/
def LoadedOrderItem.lineAfter (item : LoadedOrderItem) (line : OrderItem) : OrderItem :=
  { line with credit := line.credit.map (item.creditAfter db ns) }

/-- The page of an order after the reports. -/
def LoadedOrder.pageAfter (order : LoadedOrder) (page : Order) : Order :=
  { page with
    status := if ∃ invoice ∈ order.invoices, PaidAtReport db ns invoice then .accepted
      else page.status
    items := List.zipWith (LoadedOrderItem.lineAfter db ns) order.orderItems page.items
    invoices := page.invoices.map (Invoice.after db ns) }

/-- Every invoice of the line bills a part of the credit plan, as `create_order` leaves it. -/
def LoadedOrderItem.Billed (item : LoadedOrderItem) : Prop :=
  ∀ invoice ∈ item.invoices, invoice.creditPartIndex.isSome

end Reports

/-! ### The order that is loaded -/

section Loaded

variable (db : Database) (ns : List PaymentStatusNotification)

/-- What notifications make of a loaded line. -/
def LoadedOrderItem.reported (item : LoadedOrderItem) : LoadedOrderItem :=
  { item with invoices := item.invoices.map (reportedInvoice db ns) }

/-- What notifications make of a loaded order. -/
def LoadedOrder.reported (order : LoadedOrder) : LoadedOrder :=
  { order with
    row := reportedOrder db ns order.row
    orderItems := order.orderItems.map (LoadedOrderItem.reported db ns)
    invoices := order.invoices.map (reportedInvoice db ns) }

/-- What a notification leaves of an order but its status. -/
theorem reportedOrder_eq (row : OrderORM) :
    reportedOrder db ns row = { row with status := (reportedOrder db ns row).status } := by
  unfold reportedOrder
  split <;> rfl

variable {db ns} {db' : Database}

/-- Notifications leave every line and every order its invoices. -/
theorem invoices_ofLine_settled (h : SettledBy db ns db') (line : UUID) :
    (db'.invoices.rows.filter fun invoice => invoice.orderItemId = some line) =
      (db.invoices.rows.filter fun invoice => invoice.orderItemId = some line).map
        (reportedInvoice db ns) := by
  rw [h.invoices, List.filter_map]
  rfl

theorem invoices_ofOrder_settled (h : SettledBy db ns db') (order : UUID) :
    (db'.invoices.rows.filter fun invoice => invoice.orderId = order) =
      (db.invoices.rows.filter fun invoice => invoice.orderId = order).map
        (reportedInvoice db ns) := by
  rw [h.invoices, List.filter_map]
  rfl

/-- **The order that is loaded after notifications.** -/
theorem loadOrder_settled (h : SettledBy db ns db') (orderId : UUID) :
    db'.loadOrder orderId = (db.loadOrder orderId).map (LoadedOrder.reported db ns) := by
  -- a notification sets the status of an order; the keys by which it is loaded stay
  have hkept : ∀ row, (reportedOrder db ns row).id = row.id ∧
      (reportedOrder db ns row).deliveryId = row.deliveryId ∧
      (reportedOrder db ns row).preorderId = row.preorderId := by
    intro row
    rw [reportedOrder_eq]
    exact ⟨rfl, rfl, rfl⟩
  have hline : ∀ row, db'.loadOrderItem row =
      LoadedOrderItem.reported db ns (db.loadOrderItem row) := by
    intro row
    unfold Database.loadOrderItem LoadedOrderItem.reported
    rw [invoices_ofLine_settled h, h.catalog]
  -- lines are neither added nor dropped, but each is loaded with its invoices as they are now
  have hload : ∀ row : OrderORM,
      (db'.orderItems.rows.filter fun line => line.orderId = row.id).map db'.loadOrderItem =
        ((db.orderItems.rows.filter fun line => line.orderId = row.id).map
          db.loadOrderItem).map (LoadedOrderItem.reported db ns) := by
    intro row
    rw [h.orderItems, List.map_map]
    exact List.map_congr_left fun line _ => hline line
  unfold Database.loadOrder
  rw [Table.find?_of_rows_map h.orders fun row => (hkept row).1, Option.map_map, Option.map_map]
  refine congrArg (fun f => (db.orders.find? orderId).map f) (funext fun row => ?_)
  obtain ⟨hid, hdelivery, hpreorder⟩ := hkept row
  simp only [Function.comp_apply, LoadedOrder.reported, hid, hdelivery, hpreorder, hload,
    invoices_ofOrder_settled h, h.deliveries, h.catalog]

end Loaded

/-! ### The statuses that are shown -/

section Statuses

variable {db : Database} {ns : List PaymentStatusNotification}

/-- The status of an invoice after notifications is what the last report says of it. -/
theorem status_reportedInvoice (row : InvoiceORM) :
    (reportedInvoice db ns row).status = (lastReport db ns row.id).elim row.status fun s =>
      if s = "CONFIRMED" then .paid else .waiting := by
  -- the mapping knows two statuses, and only what hits the invoice reports
  have hwrite : ∀ n, reportedStatus db row.id n = if Reports db row.id n then
      some (if n.status = "CONFIRMED" then InvoiceStatus.paid else .waiting) else none := by
    intro n
    unfold reportedStatus Reports paymentToInvoiceStatus
    by_cases hhit : Hits db n row.id
    · simp only [hhit, if_true, true_and]
      by_cases hauth : n.status = "AUTHORIZED"
      · simp [hauth]
      · by_cases hconf : n.status = "CONFIRMED"
        · simp [hconf]
        · simp [hauth, hconf]
    · simp only [hhit, if_false, false_and]
  show lastWrite (reportedStatus db row.id) row.status ns = _
  rw [lastWrite_of_filter hwrite]
  unfold lastReport
  cases (ns.filter fun n => Reports db row.id n).getLast? <;> rfl

/-- An invoice is UNPAID after notifications if it was, and nothing has been reported of it. -/
theorem unpaid_reportedInvoice (row : InvoiceORM) :
    (reportedInvoice db ns row).status = .unpaid ↔
      row.status = .unpaid ∧ lastReport db ns row.id = none := by
  rw [status_reportedInvoice]
  cases hlast : lastReport db ns row.id with
  | none => simp
  | some s =>
    refine iff_of_false ?_ nofun
    rw [Option.elim_some]
    split <;> exact nofun

/-- The first UNPAID invoice of a line after notifications. -/
theorem firstUnpaidInvoice_reported (item : LoadedOrderItem) :
    firstUnpaidInvoice (item.reported db ns) =
      (item.nextAfter db ns).map (reportedInvoice db ns) := by
  unfold firstUnpaidInvoice LoadedOrderItem.nextAfter LoadedOrderItem.reported
  simp only [List.filter_map, List.head?_map]
  refine congrArg (fun l => (List.head? l).map _) (List.filter_congr fun row _ => ?_)
  simp only [Function.comp_apply, unpaid_reportedInvoice]

end Statuses

/-! ### The views -/

section Views

variable {P : OrderPydantic} {db : Database} {ns : List PaymentStatusNotification}

/-- The parts that are shown as paid when the invoices of the line bill parts. -/
def LoadedOrderItem.paidParts (item : LoadedOrderItem) : Nat :=
  (firstUnpaidInvoice item).elim item.invoices.length fun invoice =>
    invoice.creditPartIndex.getD 0

/-- The credit of such a line, with its payments. -/
def LoadedOrderItem.creditOf (item : LoadedOrderItem) (payments : List CreditPart) : Credit where
  payments
  paidParts := item.paidParts
  invoice := (firstUnpaidInvoice item).map nextInvoice

variable {item : LoadedOrderItem}

theorem LoadedOrderItem.Billed.reported (h : item.Billed) : (item.reported db ns).Billed :=
  List.forall_mem_map.mpr h

/-- A line that bills parts has a credit if there are payments. -/
theorem creditView_of_billed (h : item.Billed) :
    creditView P item = item.creditOf <$> (do
      let info ← attributeOf item.info
      let creditPlan ← attributeOf info.creditPlan
      creditPlan.parts.mapM (paymentView P)) := by
  -- an unpaid invoice of a billed line has a part, so looking for the first one cannot raise
  have hparts : (firstUnpaidInvoice item).elim (.ok item.invoices.length)
      (fun invoice => required invoice.creditPartIndex) =
        (.ok item.paidParts : Except PyExc Nat) := by
    unfold LoadedOrderItem.paidParts
    cases hfirst : firstUnpaidInvoice item with
    | none => rfl
    | some invoice =>
      obtain ⟨part, hpart⟩ := Option.isSome_iff_exists.mp (h _ (mem_of_firstUnpaidInvoice hfirst))
      simp only [Option.elim_some, hpart]
      rfl
  -- of what is read from the invoices only `paidParts` may raise
  have hview : creditView P item = (do
      let info ← attributeOf item.info
      let creditPlan ← attributeOf info.creditPlan
      let payments ← creditPlan.parts.mapM (paymentView P)
      let paidParts ← (firstUnpaidInvoice item).elim (.ok item.invoices.length)
        fun invoice => required invoice.creditPartIndex
      return { item.creditOf payments with paidParts }) := rfl
  rw [hview, hparts, map_bind]
  refine bind_congr fun info => ?_
  rw [map_bind]
  refine bind_congr fun creditPlan => ?_
  rw [map_eq_pure_bind]
  rfl

/-- **The credit of a line after notifications.** -/
theorem creditView_reported (h : item.Billed) :
    creditView P (item.reported db ns) = item.creditAfter db ns <$> creditView P item := by
  have hlength : (item.reported db ns).invoices.length = item.invoices.length :=
    List.length_map _
  have hcredit : ∀ payments, (item.reported db ns).creditOf payments =
      item.creditAfter db ns (item.creditOf payments) := by
    intro payments
    unfold LoadedOrderItem.creditOf LoadedOrderItem.paidParts LoadedOrderItem.creditAfter
    rw [firstUnpaidInvoice_reported, hlength]
    cases item.nextAfter db ns <;> rfl
  rw [creditView_of_billed h, creditView_of_billed h.reported, Functor.map_map]
  exact congrArg (· <$> _) (funext hcredit)

/-- The view of a line after notifications. -/
theorem orderItemView_reported (h : item.Billed) :
    orderItemView P (item.reported db ns) = item.lineAfter db ns <$> orderItemView P item := by
  have hcredit : lineCredit P (item.reported db ns) =
      Option.map (item.creditAfter db ns) <$> lineCredit P item := by
    unfold lineCredit
    rw [creditView_reported h]
    show (if item.row.byCredit then _ else _) = _
    split
    · cases creditView P item <;> rfl
    · rfl
  unfold orderItemView
  rw [hcredit]
  simp only [map_bind, map_pure, bind_map_left]
  rfl

/-- Lines that are shown after notifications are shown as before them, but for the credits. -/
theorem orderItemViews_reported {items : List LoadedOrderItem} (h : ∀ item ∈ items, item.Billed) :
    (items.map (LoadedOrderItem.reported db ns)).mapM (orderItemView P) =
      List.zipWith (LoadedOrderItem.lineAfter db ns) items <$> items.mapM (orderItemView P) := by
  induction items with
  | nil => rfl
  | cons item items ih =>
    obtain ⟨hitem, hitems⟩ := List.forall_mem_cons.mp h
    rw [List.map_cons, List.mapM_cons, List.mapM_cons, orderItemView_reported hitem, ih hitems]
    simp only [map_bind, map_pure, bind_map_left, List.zipWith_cons_cons]

/-- An invoice as it is shown with its order. -/
def shownInvoice (inv : InvoiceORM) : Invoice where
  id := inv.id
  creditPartIndex := none
  type := inv.type
  amount := inv.amount
  isPaid := inv.status = .paid

theorem shownInvoice_reported (inv : InvoiceORM) :
    shownInvoice (reportedInvoice db ns inv) = (shownInvoice inv).after db ns := by
  have hpaid : decide ((reportedInvoice db ns inv).status = .paid) =
      (lastReport db ns inv.id).elim (decide (inv.status = .paid)) fun s => s = "CONFIRMED" := by
    rw [status_reportedInvoice]
    cases lastReport db ns inv.id with
    | none => rfl
    | some s => by_cases hconf : s = "CONFIRMED" <;> simp [hconf]
  unfold shownInvoice Invoice.after
  rw [hpaid]
  rfl

/-- **The view of an order after notifications.** -/
theorem orderView_reported {order : LoadedOrder} (h : ∀ item ∈ order.orderItems, item.Billed)
    (h_accepted : (reportedOrder db ns order.row).status =
      if ∃ invoice ∈ order.invoices, PaidAtReport db ns invoice then .accepted
      else order.row.status) :
    orderView P (order.reported db ns) = order.pageAfter db ns <$> orderView P order := by
  -- the invoices are shown with their new statuses, the delivery and preorder as before
  have hinvoices : ((order.reported db ns).invoices.filter fun inv => inv.type ≠ .credit).map
      shownInvoice = ((order.invoices.filter fun inv => inv.type ≠ .credit).map shownInvoice).map
        (Invoice.after db ns) := by
    show ((order.invoices.map (reportedInvoice db ns)).filter _).map _ = _
    rw [List.filter_map, List.map_map, List.map_map]
    exact List.map_congr_left fun inv _ => shownInvoice_reported inv
  have hpreorder : preorderView (order.reported db ns) = preorderView order := by
    unfold preorderView LoadedOrder.reported
    rw [reportedOrder_eq]
  -- the page is computed field by field, so each field is rewritten on its own
  have hview : ∀ o : LoadedOrder, orderView P o = (do
      let items ← o.orderItems.mapM (orderItemView P)
      let preorder ← preorderView o
      let delivery ← o.delivery.elim (.ok none) fun d => (deliveryView d).map some
      let tracking ← o.delivery.elim (.ok none) trackingView
      let createdAt ← P.dateTime o.row.createdAt
      return {
        id := o.row.id
        createdAt
        status := o.row.status
        items
        preorder := some preorder
        delivery
        invoices := (o.invoices.filter fun inv => inv.type ≠ .credit).map shownInvoice
        tracking }) := fun _ => rfl
  have hrow : (order.reported db ns).row = { order.row with
      status := if ∃ invoice ∈ order.invoices, PaidAtReport db ns invoice then .accepted
        else order.row.status } := by
    rw [← h_accepted]
    exact reportedOrder_eq db ns order.row
  have hitems : (order.reported db ns).orderItems.mapM (orderItemView P) = _ :=
    orderItemViews_reported h
  rw [hview, hview, hinvoices, hpreorder, hrow, hitems]
  simp only [map_bind, map_pure, bind_map_left]
  rfl

end Views

/-! ### The answers -/

section Answers

variable {P : OrderPydantic} {db db' : Database} {ns : List PaymentStatusNotification}

/-- An order that is loaded is accepted by reports on its invoices. -/
theorem status_reportedOrder {orderId : UUID} {order : LoadedOrder}
    (h : db.loadOrder orderId = some order) :
    (reportedOrder db ns order.row).status =
      if ∃ invoice ∈ order.invoices, PaidAtReport db ns invoice then .accepted
      else order.row.status := by
  obtain ⟨row, -, rfl⟩ := Option.map_eq_some_iff.mp h
  simp only [List.mem_filter, decide_eq_true_iff, and_assoc]
  unfold reportedOrder
  split <;> rfl

/-- What `GET /order` is answered with. -/
theorem orderPage_eq (P : OrderPydantic) (db : Database) (user : UserIdentity) (orderId : UUID) :
    orderPage P db user orderId = (do
      let order ← attributeOf (db.loadOrder orderId)
      if order.row.userId ≠ user.id then throw .forbiddenError
      orderView P order) := by
  -- a GET commits nothing, so only the answer of the service counts
  have hrun : orderPage P db user orderId = answerOf ((getUserOrder P orderId user.id).run
      (Ctx.start db () : Ctx Database Write Unit)) := by
    unfold orderPage getOrder
    rw [run_initCtxDbSession]
    cases (getUserOrder P orderId user.id).run (Ctx.start db () : Ctx Database Write Unit) <;> rfl
  rw [hrun]
  unfold getUserOrder
  rw [run_bind_ok (Session.run_query_clean postgres _ (Ctx.clean_start _ _) _)]
  show answerOf (EStateM.run (liftExcept (attributeOf (db.loadOrder orderId)) >>= _) _) = _
  cases db.loadOrder orderId with
  | none => rfl
  | some order =>
    show answerOf (EStateM.run (raiseIf (order.row.userId ≠ user.id) _ >>= fun _ =>
      liftExcept (orderView P order)) _) = _
    by_cases howner : order.row.userId ≠ user.id
    · rw [run_bind_error (run_raiseIf_of_pos howner _ _)]
      exact (if_pos howner).symm
    · rw [run_bind_ok (run_raiseIf_of_not howner _ _), run_liftExcept]
      refine Eq.trans ?_ (if_neg howner).symm
      cases orderView P order <;> rfl

/-- The page of the order with the given id after the reports. -/
def pageAfter (db : Database) (ns : List PaymentStatusNotification) (orderId : UUID)
    (page : Order) : Order :=
  (db.loadOrder orderId).elim page fun order => order.pageAfter db ns page

/-- **The page follows the reports.** Whatever is delivered to `notification_handler`, and whatever
pydantic makes of dates, `GET /order` is answered for an order whose lines have invoices for parts
exactly as it was before, error for error, but for what the last report on an invoice says: a
deposit or a full payment is shown as paid if the last report is a confirmation, a line has to pay
next its first invoice that was UNPAID and is not reported on, and the order is ACCEPTED if its
INITIAL invoice has been found PAID. -/
theorem page_follows_reports {notifications : List Tinkoff.PaymentStatusNotification}
    (h : Run (Delivered hash password) db notifications db') (user : UserIdentity)
    {orderId : UUID} (h_billed : ∀ order ∈ db.loadOrder orderId, ∀ item ∈ order.orderItems,
      item.Billed) :
    orderPage P db' user orderId =
      pageAfter db (verified hash password notifications) orderId <$>
        orderPage P db user orderId := by
  -- the closed form of the run, which the page is computed from
  have hsettled : SettledBy db (verified hash password notifications) db' := by
    rw [run_delivered_iff.mp h]
    exact settledBy_foldl db _
  rw [orderPage_eq, orderPage_eq, loadOrder_settled hsettled]
  unfold pageAfter
  cases hload : db.loadOrder orderId with
  | none => rfl
  | some order =>
    -- notifications change no owner
    have howner : (order.reported db (verified hash password notifications)).row.userId =
        order.row.userId := by
      show (reportedOrder db _ order.row).userId = _
      rw [reportedOrder_eq]
    show (if (order.reported db (verified hash password notifications)).row.userId ≠ user.id
      then _ else _) = _ <$> (if order.row.userId ≠ user.id then _ else _)
    rw [howner, orderView_reported (h_billed order hload) (status_reportedOrder hload)]
    split <;> rfl

end Answers

/-- The order in two parts before its deposit is paid, with payment 7 registered. -/
def awaitedDatabase : Database :=
  { instalmentDatabase .unpaid with
    orders := ⟨[{ instalmentOrder with status := .unpaid }], List.nodup_singleton _⟩
    invoices := ⟨[{ depositInvoice with status := .unpaid }, partInvoice .unpaid],
      (instalmentDatabase .unpaid).invoices.nodup⟩
    payments := unpaidOrderDatabase.payments }

/-- The deposit is confirmed. With dates converted it is shown as paid and the order as accepted;
where pydantic asks for instances of pendulum's types there is no page, before and after. -/
theorem page_follows_reports_sample :
    ∃ db page, Run (Delivered codePointDigest "password") awaitedDatabase [confirmation] db ∧
      orderPage .strict awaitedDatabase ⟨5, "", ""⟩ 11 = .error .validationError ∧
      orderPage .strict db ⟨5, "", ""⟩ 11 = .error .validationError ∧
      orderPage .converting awaitedDatabase ⟨5, "", ""⟩ 11 = .ok page ∧
      orderPage .converting db ⟨5, "", ""⟩ 11 =
        .ok (pageAfter awaitedDatabase [⟨13, 7, "CONFIRMED"⟩] 11 page) ∧
      (pageAfter awaitedDatabase [⟨13, 7, "CONFIRMED"⟩] 11 page).status = .accepted ∧
      (pageAfter awaitedDatabase [⟨13, 7, "CONFIRMED"⟩] 11 page).invoices.map (·.isPaid) =
        [true] := by
  have hrun : Run (Delivered codePointDigest "password") awaitedDatabase [confirmation] _ :=
    .cons rfl (.nil _)
  have hverified : verified codePointDigest "password" [confirmation] =
      [⟨13, 7, "CONFIRMED"⟩] := by
    unfold verified
    rw [List.filter_cons_of_pos (by simpa using verify_confirmation)]
    rfl
  have hbilled : ∀ order ∈ awaitedDatabase.loadOrder 11, ∀ item ∈ order.orderItems,
      item.Billed := by
    intro order horder item hitem invoice hinvoice
    obtain rfl := Option.some.inj horder
    obtain rfl := List.mem_singleton.mp hitem
    obtain rfl := List.mem_singleton.mp hinvoice
    rfl
  -- the theorem itself, for both behaviours of pydantic
  have hpage : ∀ P, orderPage P _ ⟨5, "", ""⟩ 11 = _ := fun P =>
    page_follows_reports (P := P) hrun ⟨5, "", ""⟩ hbilled
  rw [hverified] at hpage
  exact ⟨_, _, hrun, rfl, hpage .strict, rfl, hpage .converting, rfl, rfl⟩

end Storefront
