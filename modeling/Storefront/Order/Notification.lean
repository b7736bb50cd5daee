import Storefront.Order.CreateOrder
import Storefront.Library.Run
import Storefront.Transport.DbSession

/-!
# Payment notifications

`OrderService.update_payment_status` (`services/order/service.py`) moves a payment, its
invoice and its order along when the bank reports a status, by the two tables of
`services/order/constants.py`. Every notification is a POST request of its own, so it is
processed by `process`: the handler in `init_ctx_db_session`.

Assignments to statuses rewrite the rows one by one (`applyAll_status`). From this
`find?_invoice_process` and `find?_order_process` say what one notification does to an invoice
and to an order, `registered_process` that payments stay registered where they are, and
`hasStatuses_process` how one order and its INITIAL invoice move together.

* `accepted_iff_confirmed` — along every run from an order as it is created, the order is
  ACCEPTED exactly when a CONFIRMED notification for a payment registered on the INITIAL
  invoice has been processed, and UNPAID otherwise;
* `accepted_iff_paid` — along every run in which no AUTHORIZED notification reaches an
  INITIAL invoice that is PAID, the order is ACCEPTED exactly when that invoice is PAID;
* `late_authorized_not_paid` — a late AUTHORIZED notification leaves an accepted order with
  an invoice that is WAITING.
-/

namespace Storefront

/-! ### The status tables -/

/-- `PAYMENT_TO_INVOICE_STATUS_MAPPING` -/
def paymentToInvoiceStatus (status : String) : Option InvoiceStatus :=
  if status = "AUTHORIZED" then some .waiting
  else if status = "CONFIRMED" then some .paid
  else none

/-- `INVOICE_TO_ORDER_STATUS_MAPPING` -/
def invoiceToOrderStatus : InvoiceStatus → Option OrderStatus
  | .paid => some .accepted
  | _ => none

/-- The fields of `PaymentStatusNotification` that the service reads. -/
structure PaymentStatusNotification where
  invoiceId : UUID
  paymentId : Int
  status : String
  deriving DecidableEq, Repr

/-! ### Processing a notification -/

variable {σ : Type}

/-- `invoice.payments` -/
def paymentsOf (db : Database) (invoice : InvoiceORM) : List PaymentORM :=
  db.payments.rows.filter fun payment => payment.invoiceId = invoice.id

/-- The status of the invoice after a payment with this notification's id was found. -/
def newInvoiceStatus (notification : PaymentStatusNotification) (status : InvoiceStatus) :
    InvoiceStatus :=
  (paymentToInvoiceStatus notification.status).getD status

/-- The assignments made for a payment with this notification's id: its own status, that of
the invoice, and that of the order when the invoice is INITIAL. -/
def turnWrites (notification : PaymentStatusNotification) (invoice : InvoiceORM)
    (status : InvoiceStatus) (payment : PaymentORM) : List Write :=
  [.setPaymentStatus payment.id notification.status] ++
  ((paymentToInvoiceStatus notification.status).toList.map fun new =>
    .setInvoiceStatus invoice.id new) ++
  (if invoice.type = .initial then
    (invoiceToOrderStatus (newInvoiceStatus notification status)).toList.map fun new =>
      .setOrderStatus invoice.orderId new
  else [])

/-- The loop over `invoice.payments`, as the assignments it makes. The status of the invoice
is threaded through, as a later turn reads what an earlier one assigned. -/
def statusWrites (notification : PaymentStatusNotification) (invoice : InvoiceORM) :
    InvoiceStatus → List PaymentORM → List Write
  | _, [] => []
  | status, payment :: payments =>
    if payment.externalId = notification.paymentId then
      turnWrites notification invoice status payment ++
        statusWrites notification invoice (newInvoiceStatus notification status) payments
    else statusWrites notification invoice status payments

/-- `OrderService.update_payment_status` -/
def updatePaymentStatus (notification : PaymentStatusNotification) : App σ Unit := do
  let (invoice, payments) ← Session.query postgres fun db =>
    let invoice := db.invoices.find? notification.invoiceId
    (invoice, invoice.elim [] (paymentsOf db))
  let invoice ← liftExcept (attributeOf invoice)
  forM (statusWrites notification invoice invoice.status payments) Session.add

/-- The request of a notification. -/
def serve (db : Database) (notification : PaymentStatusNotification) :
    EStateM.Result PyExc (Ctx Database Write Unit) Unit :=
  (initCtxDbSession postgres none .post (updatePaymentStatus notification)).run (Ctx.start db ())

/-- The database after the request of a notification. -/
def process (db : Database) (notification : PaymentStatusNotification) : Database :=
  (endState (serve db notification)).committed

/-- The step relation of the notifications. -/
def Processed (db : Database) (notification : PaymentStatusNotification) (db' : Database) : Prop :=
  db' = process db notification

/-! ### What assignments do to the rows -/

/-- What a write makes of a payment, an invoice and an order. -/
def Write.onPayment (row : PaymentORM) : Write → PaymentORM
  | .setPaymentStatus id status => if row.id = id then { row with status } else row
  | _ => row

def Write.onInvoice (row : InvoiceORM) : Write → InvoiceORM
  | .setInvoiceStatus id status => if row.id = id then { row with status } else row
  | _ => row

def Write.onOrder (row : OrderORM) : Write → OrderORM
  | .setOrderStatus id status => if row.id = id then { row with status } else row
  | _ => row

/-- An assignment to a status. -/
def Write.IsStatus : Write → Prop
  | .setPaymentStatus _ _ | .setInvoiceStatus _ _ | .setOrderStatus _ _ => True
  | _ => False

/-- `db'` has the rows of `db` as `ws` rewrites them. -/
structure Rewritten (ws : List Write) (db db' : Database) : Prop where
  payments : db'.payments.rows = db.payments.rows.map fun row => ws.foldl Write.onPayment row
  invoices : db'.invoices.rows = db.invoices.rows.map fun row => ws.foldl Write.onInvoice row
  orders : db'.orders.rows = db.orders.rows.map fun row => ws.foldl Write.onOrder row

/-- **Assignments never fail, and rewrite the rows one by one.** -/
theorem applyAll_status {ws : List Write} (h : ∀ w ∈ ws, w.IsStatus) (db : Database) :
    ∃ db', postgres.applyAll ws db = .ok db' ∧ Rewritten ws db db' := by
  induction ws generalizing db with
  | nil =>
    exact ⟨db, rfl, (List.map_id' _).symm, (List.map_id' _).symm, (List.map_id' _).symm⟩
  | cons w ws ih =>
    -- an assignment changes one of the three tables and leaves the others
    have hw : ∃ db₁, postgres.apply w db = .ok db₁ ∧
        db₁.payments.rows = db.payments.rows.map w.onPayment ∧
        db₁.invoices.rows = db.invoices.rows.map w.onInvoice ∧
        db₁.orders.rows = db.orders.rows.map w.onOrder := by
      have hstatus := h w List.mem_cons_self
      cases w <;> first | exact hstatus.elim | skip
      case setPaymentStatus id status =>
        exact ⟨_, rfl, rfl, (List.map_id' _).symm, (List.map_id' _).symm⟩
      case setInvoiceStatus id status =>
        exact ⟨_, rfl, (List.map_id' _).symm, rfl, (List.map_id' _).symm⟩
      case setOrderStatus id status =>
        exact ⟨_, rfl, (List.map_id' _).symm, (List.map_id' _).symm, rfl⟩
    obtain ⟨db₁, hdb₁, hpay, hinv, hord⟩ := hw
    obtain ⟨db', hdb', hrest⟩ := ih (fun w' hw' => h w' (List.mem_cons_of_mem _ hw')) db₁
    refine ⟨db', ?_, ?_, ?_, ?_⟩
    · rw [Backend.applyAll_cons, hdb₁]
      exact hdb'
    · rw [hrest.payments, hpay, List.map_map]
      rfl
    · rw [hrest.invoices, hinv, List.map_map]
      rfl
    · rw [hrest.orders, hord, List.map_map]
      rfl

section Assignments

variable (notification : PaymentStatusNotification) (invoice : InvoiceORM)

theorem isStatus_statusWrites (status : InvoiceStatus) (payments : List PaymentORM) :
    ∀ w ∈ statusWrites notification invoice status payments, w.IsStatus := by
  induction payments generalizing status with
  | nil => exact fun w hw => by cases hw
  | cons payment payments ih =>
    unfold statusWrites
    split
    · intro w hw
      rcases List.mem_append.mp hw with hw | hw
      -- the payment, then the invoice, then the order of an INITIAL invoice
      · unfold turnWrites at hw
        rcases List.mem_append.mp hw with hw | hw
        · rcases List.mem_append.mp hw with hw | hw
          · rw [List.mem_singleton.mp hw]
            trivial
          · obtain ⟨new, -, rfl⟩ := List.mem_map.mp hw
            trivial
        · split at hw
          · obtain ⟨new, -, rfl⟩ := List.mem_map.mp hw
            trivial
          · cases hw
      · exact ih _ w hw
    · exact ih status

/-- The payment with the notification's id is among the payments. -/
def Found (payments : List PaymentORM) : Prop :=
  ∃ payment ∈ payments, payment.externalId = notification.paymentId

instance (payments : List PaymentORM) : Decidable (Found notification payments) := by
  unfold Found
  infer_instance

theorem found_cons (payment : PaymentORM) (payments : List PaymentORM) :
    Found notification (payment :: payments) ↔
      payment.externalId = notification.paymentId ∨ Found notification payments := by
  unfold Found
  simp

theorem newInvoiceStatus_idem (status : InvoiceStatus) :
    newInvoiceStatus notification (newInvoiceStatus notification status) =
      newInvoiceStatus notification status := by
  unfold newInvoiceStatus
  cases paymentToInvoiceStatus notification.status <;> rfl

/-- One turn assigns the notification's status to its own invoice. -/
theorem onInvoice_turnWrites (status : InvoiceStatus) (payment : PaymentORM) (row : InvoiceORM) :
    (turnWrites notification invoice status payment).foldl Write.onInvoice row =
      if row.id = invoice.id then
        { row with status := newInvoiceStatus notification row.status }
      else row := by
  -- the assignment to the order leaves the invoice alone
  have horder : ∀ row : InvoiceORM, (if invoice.type = .initial then
      (invoiceToOrderStatus (newInvoiceStatus notification status)).toList.map fun new =>
        Write.setOrderStatus invoice.orderId new
      else []).foldl Write.onInvoice row = row := by
    intro row
    split
    · cases invoiceToOrderStatus (newInvoiceStatus notification status) <;> rfl
    · rfl
  unfold turnWrites
  rw [List.foldl_append, List.foldl_append, horder]
  unfold newInvoiceStatus
  cases paymentToInvoiceStatus notification.status with
  | none =>
    -- no status to assign
    show row = _
    split <;> rfl
  | some new => rfl

/-- One turn accepts the order of an INITIAL invoice that is now PAID. -/
theorem onOrder_turnWrites (status : InvoiceStatus) (payment : PaymentORM) (row : OrderORM) :
    (turnWrites notification invoice status payment).foldl Write.onOrder row =
      if row.id = invoice.orderId ∧ invoice.type = .initial ∧
          newInvoiceStatus notification status = .paid then
        { row with status := .accepted }
      else row := by
  -- the assignment to the invoice leaves the order alone
  have hinvoice : ∀ row : OrderORM, ((paymentToInvoiceStatus notification.status).toList.map
      fun new => Write.setInvoiceStatus invoice.id new).foldl Write.onOrder row = row := by
    intro row
    cases paymentToInvoiceStatus notification.status <;> rfl
  unfold turnWrites
  rw [List.foldl_append, List.foldl_append, hinvoice]
  show (if invoice.type = .initial then _ else _ : List Write).foldl Write.onOrder row = _
  by_cases htype : invoice.type = .initial
  · rw [if_pos htype]
    -- only PAID is mapped to an order status
    cases hnew : newInvoiceStatus notification status with
    | paid =>
      show (if row.id = invoice.orderId then _ else _) = _
      simp only [htype, and_true]
    | unpaid | waiting | canceled =>
      rw [if_neg (by rintro ⟨-, -, h⟩; cases h)]
      rfl
  · rw [if_neg htype, if_neg fun h => htype h.2.1]
    rfl

/-- What the loop makes of an invoice: the notification's status, on its own invoice, when
the payment was found. -/
theorem onInvoice_statusWrites (status : InvoiceStatus) (payments : List PaymentORM)
    (row : InvoiceORM) :
    (statusWrites notification invoice status payments).foldl Write.onInvoice row =
      if row.id = invoice.id ∧ Found notification payments then
        { row with status := newInvoiceStatus notification row.status }
      else row := by
  induction payments generalizing status row with
  | nil => exact (if_neg fun h => by obtain ⟨-, p, hp, -⟩ := h; cases hp).symm
  | cons payment payments ih =>
    unfold statusWrites
    by_cases hid : payment.externalId = notification.paymentId
    · -- a later turn assigns the same again
      rw [if_pos hid, List.foldl_append, onInvoice_turnWrites, ih]
      by_cases hrow : row.id = invoice.id
      · simp only [found_cons, hrow, hid, true_or, and_self, if_true, newInvoiceStatus_idem,
          true_and, ite_self]
      · simp only [hrow, false_and, if_false]
    · rw [if_neg hid, ih]
      simp only [found_cons, hid, false_or]

/-- What the loop makes of an order: accepted, when the payment was found on its INITIAL
invoice and that is PAID afterwards. -/
theorem onOrder_statusWrites (status : InvoiceStatus) (payments : List PaymentORM)
    (row : OrderORM) :
    (statusWrites notification invoice status payments).foldl Write.onOrder row =
      if row.id = invoice.orderId ∧ Found notification payments ∧ invoice.type = .initial ∧
          newInvoiceStatus notification status = .paid then
        { row with status := .accepted }
      else row := by
  induction payments generalizing status row with
  | nil => exact (if_neg fun h => by obtain ⟨-, ⟨p, hp, -⟩, -⟩ := h; cases hp).symm
  | cons payment payments ih =>
    unfold statusWrites
    by_cases hid : payment.externalId = notification.paymentId
    -- later turns assign to the same order again
    · rw [if_pos hid, List.foldl_append, onOrder_turnWrites, ih, newInvoiceStatus_idem]
      by_cases hacc : row.id = invoice.orderId ∧ invoice.type = .initial ∧
          newInvoiceStatus notification status = .paid
      · simp only [found_cons, hacc, hid, true_or, and_self, if_true, and_true, ite_self]
      · rw [if_neg hacc, if_neg fun h => hacc ⟨h.1, h.2.2⟩, if_neg fun h => hacc ⟨h.1, h.2.2⟩]
    · rw [if_neg hid, ih]
      simp only [found_cons, hid, false_or]

end Assignments

/-- Assignments leave the invoice and the bank's id of a payment alone. -/
theorem onPayment_foldl (ws : List Write) (row : PaymentORM) :
    (ws.foldl Write.onPayment row).invoiceId = row.invoiceId ∧
      (ws.foldl Write.onPayment row).externalId = row.externalId := by
  induction ws generalizing row with
  | nil => exact ⟨rfl, rfl⟩
  | cons w ws ih =>
    have hw : (w.onPayment row).invoiceId = row.invoiceId ∧
        (w.onPayment row).externalId = row.externalId := by
      cases w <;> try exact ⟨rfl, rfl⟩
      case setPaymentStatus id status =>
        show (if row.id = id then _ else row).invoiceId = _ ∧
          (if row.id = id then _ else row).externalId = _
        split <;> exact ⟨rfl, rfl⟩
    exact ⟨(ih _).1.trans hw.1, (ih _).2.trans hw.2⟩

/-! ### What a notification does -/

/-- A payment with the bank's id `paymentId` is registered on an invoice. -/
def Registered (db : Database) (invoice : UUID) (paymentId : Int) : Prop :=
  ∃ payment ∈ db.payments.rows, payment.invoiceId = invoice ∧ payment.externalId = paymentId

instance (db : Database) (invoice : UUID) (paymentId : Int) :
    Decidable (Registered db invoice paymentId) := by
  unfold Registered
  infer_instance

section Process

variable {db : Database} {notification : PaymentStatusNotification} {invoice : InvoiceORM}

theorem found_paymentsOf :
    Found notification (paymentsOf db invoice) ↔
      Registered db invoice.id notification.paymentId := by
  unfold Found Registered paymentsOf
  simp only [List.mem_filter, decide_eq_true_iff, and_assoc]

/-- **A notification for an unknown invoice fails and changes nothing.** -/
theorem serve_unknown (h : db.invoices.find? notification.invoiceId = none) :
    serve db notification = .error .attributeError (Ctx.start db ()) := by
  -- `invoice.payments` of `None`
  have hrun : (updatePaymentStatus notification : App Unit Unit).run (Ctx.start db ()) =
      .error .attributeError (Ctx.start db ()) := by
    unfold updatePaymentStatus
    rw [run_bind_ok (Session.run_query_clean postgres _ (Ctx.clean_start db ()) _)]
    simp only [show (Ctx.start db () : Ctx Database Write Unit).session.view = db from rfl, h]
    rfl
  exact run_initCtxDbSession_error hrun

theorem process_unknown (h : db.invoices.find? notification.invoiceId = none) :
    process db notification = db := by
  unfold process
  rw [serve_unknown h]
  rfl

/-- The request of a notification for a known invoice commits the assignments of the loop. -/
theorem applyAll_process (h : db.invoices.find? notification.invoiceId = some invoice) :
    postgres.applyAll
      (statusWrites notification invoice invoice.status (paymentsOf db invoice)) db =
        .ok (process db notification) := by
  obtain ⟨db', hdb', -⟩ :=
    applyAll_status (isStatus_statusWrites notification invoice invoice.status
      (paymentsOf db invoice)) db
  -- the handler only collects assignments; the commit flushes them
  have hrun : (updatePaymentStatus notification : App Unit Unit).run (Ctx.start db ()) =
      .ok () ⟨db, ⟨db, statusWrites notification invoice invoice.status (paymentsOf db invoice),
        false⟩, ()⟩ := by
    unfold updatePaymentStatus
    rw [run_bind_ok (Session.run_query_clean postgres _ (Ctx.clean_start db ()) _)]
    simp only [show (Ctx.start db () : Ctx Database Write Unit).session.view = db from rfl, h]
    exact Session.run_addAll (Ctx.start db ()) _
  have hserve : serve db notification = .ok () (Ctx.start db' ()) :=
    run_initCtxDbSession_ok hrun (by decide) rfl hdb'
  have hprocess : process db notification = db' := by
    unfold process
    rw [hserve]
    rfl
  rw [hprocess]
  exact hdb'

theorem rewritten_process (h : db.invoices.find? notification.invoiceId = some invoice) :
    Rewritten (statusWrites notification invoice invoice.status (paymentsOf db invoice)) db
      (process db notification) := by
  obtain ⟨db', hdb', hrewritten⟩ :=
    applyAll_status (isStatus_statusWrites notification invoice invoice.status
      (paymentsOf db invoice)) db
  rw [applyAll_process h] at hdb'
  cases hdb'
  exact hrewritten

/-- Payments stay registered where they are. -/
theorem registered_process (i : UUID) (paymentId : Int) :
    Registered (process db notification) i paymentId ↔ Registered db i paymentId := by
  cases h : db.invoices.find? notification.invoiceId with
  | none =>
    rw [process_unknown h]
  | some invoice =>
    unfold Registered
    rw [(rewritten_process h).payments]
    simp only [List.mem_map, exists_exists_and_eq_and]
    refine exists_congr fun payment => and_congr_right fun _ => ?_
    rw [(onPayment_foldl _ payment).1, (onPayment_foldl _ payment).2]

/-- The notification is about a payment registered on the invoice. -/
def Hits (db : Database) (notification : PaymentStatusNotification) (invoice : UUID) : Prop :=
  notification.invoiceId = invoice ∧ Registered db invoice notification.paymentId

instance (db : Database) (notification : PaymentStatusNotification) (invoice : UUID) :
    Decidable (Hits db notification invoice) := by
  unfold Hits
  infer_instance

/-- The invoices a notification leaves: the one it hits has a new status. -/
theorem find?_invoice_process (i : UUID) :
    (Hits db notification i → (process db notification).invoices.find? i =
      (db.invoices.find? i).map fun row =>
        { row with status := newInvoiceStatus notification row.status }) ∧
    (¬ Hits db notification i → (process db notification).invoices.find? i =
      db.invoices.find? i) := by
  cases h : db.invoices.find? notification.invoiceId with
  | none =>
    rw [process_unknown h]
    refine ⟨fun hhit => ?_, fun _ => rfl⟩
    rw [← hhit.1, h]
    rfl
  | some invoice =>
    have hid : invoice.id = notification.invoiceId := (Table.find?_eq_some.mp h).2
    -- the loop keeps ids, so a lookup afterwards is a lookup before
    have hkey : ∀ row : InvoiceORM, ((statusWrites notification invoice invoice.status
        (paymentsOf db invoice)).foldl Write.onInvoice row).id = row.id := by
      intro row
      rw [onInvoice_statusWrites]
      split <;> rfl
    rw [Table.find?_of_rows_map (rewritten_process h).invoices hkey]
    simp only [onInvoice_statusWrites, found_paymentsOf, hid]
    cases hi : db.invoices.find? i with
    | none => exact ⟨fun _ => rfl, fun _ => rfl⟩
    | some row =>
      have hrow : row.id = i := (Table.find?_eq_some.mp hi).2
      refine ⟨?_, ?_⟩
      · intro hhit
        obtain ⟨heq, hreg⟩ := hhit
        subst heq
        rw [Option.map_some, if_pos ⟨hrow, hreg⟩]
        rfl
      · intro hmiss
        rw [Option.map_some, if_neg]
        -- the invoice looked up is another, or has no such payment
        rintro ⟨hid', hreg⟩
        have heq : notification.invoiceId = i := hid'.symm.trans hrow
        exact hmiss ⟨heq, heq ▸ hreg⟩

/-- A notification that accepts the order: it hits an INITIAL invoice of the order, which is
PAID afterwards. -/
def Accepts (db : Database) (notification : PaymentStatusNotification) (order : UUID) : Prop :=
  ∃ invoice, db.invoices.find? notification.invoiceId = some invoice ∧ invoice.orderId = order ∧
    invoice.type = .initial ∧ Registered db invoice.id notification.paymentId ∧
    newInvoiceStatus notification invoice.status = .paid

/-- The orders a notification leaves. -/
theorem find?_order_process (o : UUID) :
    (Accepts db notification o → (process db notification).orders.find? o =
      (db.orders.find? o).map fun row => { row with status := .accepted }) ∧
    (¬ Accepts db notification o → (process db notification).orders.find? o =
      db.orders.find? o) := by
  cases h : db.invoices.find? notification.invoiceId with
  | none =>
    rw [process_unknown h]
    refine ⟨?_, fun _ => rfl⟩
    -- an unknown invoice accepts nothing
    rintro ⟨invoice, hinvoice, -⟩
    rw [h] at hinvoice
    cases hinvoice
  | some invoice =>
    -- again, the loop keeps ids
    have hkey : ∀ row : OrderORM, ((statusWrites notification invoice invoice.status
        (paymentsOf db invoice)).foldl Write.onOrder row).id = row.id := by
      intro row
      rw [onOrder_statusWrites]
      split <;> rfl
    rw [Table.find?_of_rows_map (rewritten_process h).orders hkey]
    simp only [onOrder_statusWrites, found_paymentsOf]
    cases ho : db.orders.find? o with
    | none => exact ⟨fun _ => rfl, fun _ => rfl⟩
    | some row =>
      have hrow : row.id = o := (Table.find?_eq_some.mp ho).2
      refine ⟨?_, ?_⟩
      · rintro ⟨invoice', hinvoice', horder, htype, hreg, hpaid⟩
        rw [h] at hinvoice'
        cases hinvoice'
        rw [Option.map_some, if_pos ⟨hrow.trans horder.symm, hreg, htype, hpaid⟩]
        rfl
      · intro hnot
        rw [Option.map_some, if_neg]
        rintro ⟨horder, hreg, htype, hpaid⟩
        exact hnot ⟨invoice, h, horder.symm.trans hrow, htype, hreg, hpaid⟩

end Process

/-! ### The order and its INITIAL invoice -/

def orderStatus (db : Database) (order : UUID) : Option OrderStatus :=
  (db.orders.find? order).map (·.status)

def invoiceStatus (db : Database) (invoice : UUID) : Option InvoiceStatus :=
  (db.invoices.find? invoice).map (·.status)

/-- `invoice` is the only INITIAL invoice of `order`, and both are there. -/
structure Placed (db : Database) (order invoice : UUID) : Prop where
  order_exists : ∃ row, db.orders.find? order = some row
  initial : ∃ row, db.invoices.find? invoice = some row ∧ row.orderId = order ∧
    row.type = .initial
  only : ∀ row ∈ db.invoices.rows, row.orderId = order → row.type = .initial → row.id = invoice

/-- An order as `create_order` leaves it: UNPAID, with one INITIAL invoice and any number of
CREDIT invoices, all UNPAID. Payments may be registered on any of them. -/
structure AsCreated (db : Database) (order invoice : UUID) : Prop where
  order_unpaid : orderStatus db order = some .unpaid
  initial : ∃ row, db.invoices.find? invoice = some row ∧ row.orderId = order ∧
    row.type = .initial
  others : ∀ row ∈ db.invoices.rows, row.orderId = order → row.id ≠ invoice → row.type = .credit
  unpaid : ∀ row ∈ db.invoices.rows, row.orderId = order → row.status = .unpaid

/-- The two statuses, and how a notification that hits the invoice moves them. -/
structure Statuses where
  order : OrderStatus
  invoice : InvoiceStatus
  deriving DecidableEq, Repr

def Statuses.settle (notification : PaymentStatusNotification) (p : Statuses) : Statuses where
  order := if newInvoiceStatus notification p.invoice = .paid then .accepted else p.order
  invoice := newInvoiceStatus notification p.invoice

/-- The statuses in the database. -/
def HasStatuses (db : Database) (order invoice : UUID) (p : Statuses) : Prop :=
  orderStatus db order = some p.order ∧ invoiceStatus db invoice = some p.invoice

section Order

variable {db : Database} {notification : PaymentStatusNotification} {order invoice : UUID}

theorem AsCreated.placed (h : AsCreated db order invoice) : Placed db order invoice where
  order_exists := by
    obtain ⟨row, hrow, -⟩ := Option.map_eq_some_iff.mp h.order_unpaid
    exact ⟨row, hrow⟩
  initial := h.initial
  only := by
    intro row hrow horder htype
    by_contra hne
    rw [h.others row hrow horder hne] at htype
    cases htype

theorem AsCreated.statuses (h : AsCreated db order invoice) :
    HasStatuses db order invoice ⟨.unpaid, .unpaid⟩ := by
  obtain ⟨row, hrow, horder, -⟩ := h.initial
  refine ⟨h.order_unpaid, ?_⟩
  unfold invoiceStatus
  rw [hrow, Option.map_some, h.unpaid row (Table.find?_eq_some.mp hrow).1 horder]

/-- Notifications keep the order, its INITIAL invoice and that it is the only one. -/
theorem Placed.process (h : Placed db order invoice) :
    Placed (process db notification) order invoice := by
  -- every row of an invoice goes back to one with the same id, order and type
  have hback : ∀ i row, (Storefront.process db notification).invoices.find? i = some row →
      ∃ old, db.invoices.find? i = some old ∧ row.orderId = old.orderId ∧ row.type = old.type := by
    intro i row hrow
    by_cases hhit : Hits db notification i
    · rw [(find?_invoice_process i).1 hhit] at hrow
      obtain ⟨old, hold, rfl⟩ := Option.map_eq_some_iff.mp hrow
      exact ⟨old, hold, rfl, rfl⟩
    · rw [(find?_invoice_process i).2 hhit] at hrow
      exact ⟨row, hrow, rfl, rfl⟩
  refine ⟨?_, ?_, ?_⟩
  -- the order is still there
  · obtain ⟨row, hrow⟩ := h.order_exists
    by_cases hacc : Accepts db notification order
    · exact ⟨_, ((find?_order_process order).1 hacc).trans (congrArg _ hrow)⟩
    · exact ⟨row, ((find?_order_process order).2 hacc).trans hrow⟩
  -- so is its INITIAL invoice
  · obtain ⟨row, hrow, horder, htype⟩ := h.initial
    by_cases hhit : Hits db notification invoice
    · exact ⟨_, ((find?_invoice_process invoice).1 hhit).trans (congrArg _ hrow), horder, htype⟩
    · exact ⟨row, ((find?_invoice_process invoice).2 hhit).trans hrow, horder, htype⟩
  -- and no other INITIAL invoice has appeared
  · intro row hrow horder htype
    obtain ⟨old, hold, horder', htype'⟩ := hback row.id row (Table.find?_of_mem hrow)
    obtain ⟨hmem, hid⟩ := Table.find?_eq_some.mp hold
    rw [← hid]
    exact h.only old hmem (horder' ▸ horder) (htype' ▸ htype)

/-- **One notification, seen from one order**: it moves the two statuses together when it
hits the INITIAL invoice, and leaves both otherwise. -/
theorem hasStatuses_process (h : Placed db order invoice) {p : Statuses}
    (hp : HasStatuses db order invoice p) :
    (Hits db notification invoice →
      HasStatuses (process db notification) order invoice (p.settle notification)) ∧
    (¬ Hits db notification invoice → HasStatuses (process db notification) order invoice p) := by
  obtain ⟨row, hrow, horder, htype⟩ := h.initial
  obtain ⟨hpo, hpi⟩ := hp
  have hstatus : row.status = p.invoice := by
    unfold invoiceStatus at hpi
    rw [hrow, Option.map_some] at hpi
    exact Option.some.inj hpi
  have hrowid : row.id = invoice := (Table.find?_eq_some.mp hrow).2
  -- the order is accepted exactly through its INITIAL invoice
  have haccepts : Accepts db notification order ↔
      Hits db notification invoice ∧ newInvoiceStatus notification p.invoice = .paid := by
    refine ⟨?_, ?_⟩
    · rintro ⟨row', hrow', horder', htype', hreg, hpaid⟩
      obtain ⟨hmem, hid⟩ := Table.find?_eq_some.mp hrow'
      have hinv : row'.id = invoice := h.only row' hmem horder' htype'
      have hni : notification.invoiceId = invoice := hid.symm.trans hinv
      rw [hni, hrow] at hrow'
      cases hrow'
      exact ⟨⟨hni, hinv ▸ hreg⟩, hstatus ▸ hpaid⟩
    · rintro ⟨⟨hni, hreg⟩, hpaid⟩
      exact ⟨row, hni ▸ hrow, horder, htype, hrowid.symm ▸ hreg, hstatus.symm ▸ hpaid⟩
  unfold orderStatus at hpo
  unfold invoiceStatus at hpi
  unfold HasStatuses orderStatus invoiceStatus
  refine ⟨fun hhit => ⟨?_, ?_⟩, fun hmiss => ⟨?_, ?_⟩⟩
  -- a hit: the order, then the invoice
  · show _ = some (if newInvoiceStatus notification p.invoice = .paid then .accepted else p.order)
    by_cases hpaid : newInvoiceStatus notification p.invoice = .paid
    · rw [if_pos hpaid, (find?_order_process order).1 (haccepts.mpr ⟨hhit, hpaid⟩)]
      obtain ⟨o, ho⟩ := h.order_exists
      rw [ho]
      rfl
    · rw [if_neg hpaid, (find?_order_process order).2 fun hacc => hpaid (haccepts.mp hacc).2]
      exact hpo
  · rw [(find?_invoice_process invoice).1 hhit, hrow, Option.map_some, Option.map_some, hstatus]
    rfl
  -- a miss leaves both
  · rw [(find?_order_process order).2 fun hacc => hmiss (haccepts.mp hacc).1]
    exact hpo
  · rw [(find?_invoice_process invoice).2 hmiss]
    exact hpi

end Order

/-! ### Every sequence of notifications -/

/-- A notification that confirms a payment registered on the invoice was processed. -/
def Confirmed (db : Database) (invoice : UUID) (notifications : List PaymentStatusNotification) :
    Prop :=
  ∃ notification ∈ notifications, notification.status = "CONFIRMED" ∧
    Hits db notification invoice

instance (db : Database) (invoice : UUID) (notifications : List PaymentStatusNotification) :
    Decidable (Confirmed db invoice notifications) := by
  unfold Confirmed
  infer_instance

/-- When an invoice is PAID after a notification that hits it. -/
theorem newInvoiceStatus_eq_paid {notification : PaymentStatusNotification}
    {status : InvoiceStatus} :
    newInvoiceStatus notification status = .paid ↔
      notification.status = "CONFIRMED" ∨
        (status = .paid ∧ notification.status ≠ "AUTHORIZED") := by
  unfold newInvoiceStatus paymentToInvoiceStatus
  by_cases hauth : notification.status = "AUTHORIZED"
  · simp [hauth]
  · by_cases hconf : notification.status = "CONFIRMED"
    · simp [hconf]
    · simp [hauth, hconf]

/-- The invariant of the notifications processed since the order was created in `db₀`. -/
structure Settled (db₀ : Database) (order invoice : UUID)
    (notifications : List PaymentStatusNotification) (db : Database) : Prop where
  placed : Placed db order invoice
  registered : ∀ i paymentId, Registered db i paymentId ↔ Registered db₀ i paymentId
  /-- The order tells whether a payment was confirmed, and the invoice is not PAID before. -/
  statuses : ∃ p, HasStatuses db order invoice p ∧
    (p.order = if Confirmed db₀ invoice notifications then .accepted else .unpaid) ∧
    (p.invoice = .paid → Confirmed db₀ invoice notifications)

section Sequences

variable {db₀ db db' : Database} {notifications : List PaymentStatusNotification}
  {order invoice : UUID}

theorem Settled.initial (h : AsCreated db₀ order invoice) : Settled db₀ order invoice [] db₀ where
  placed := h.placed
  registered := fun _ _ => Iff.rfl
  statuses := by
    refine ⟨_, h.statuses, ?_, nofun⟩
    rw [if_neg]
    rintro ⟨n, hn, -⟩
    cases hn

theorem Settled.step {notification : PaymentStatusNotification}
    (h : Settled db₀ order invoice notifications db)
    (h_step : Processed db notification db') :
    Settled db₀ order invoice (notifications ++ [notification]) db' := by
  obtain rfl : db' = process db notification := h_step
  obtain ⟨p, hp, hporder, hpinvoice⟩ := h.statuses
  -- payments stay registered, so it does not matter when a hit is judged
  have hhits : Hits db notification invoice ↔ Hits db₀ notification invoice :=
    and_congr_right fun _ => h.registered _ _
  have hconfirmed : Confirmed db₀ invoice (notifications ++ [notification]) ↔
      Confirmed db₀ invoice notifications ∨
        (notification.status = "CONFIRMED" ∧ Hits db₀ notification invoice) := by
    unfold Confirmed
    simp only [List.mem_append, List.mem_singleton, or_and_right, exists_or, exists_eq_left]
  refine ⟨h.placed.process, fun i pid => (registered_process i pid).trans (h.registered i pid), ?_⟩
  by_cases hhit : Hits db notification invoice
  · -- the invoice becomes PAID through a confirmation, or was PAID already
    refine ⟨p.settle notification, (hasStatuses_process h.placed hp).1 hhit, ?_, ?_⟩
    · show (if newInvoiceStatus notification p.invoice = .paid then _ else p.order) = _
      by_cases hstatus : notification.status = "CONFIRMED"
      · rw [if_pos (newInvoiceStatus_eq_paid.mpr (.inl hstatus)),
          if_pos (hconfirmed.mpr (.inr ⟨hstatus, hhits.mp hhit⟩))]
      -- without a confirmation the invoice is PAID only if it was
      · have hold : Confirmed db₀ invoice (notifications ++ [notification]) ↔
            Confirmed db₀ invoice notifications :=
          hconfirmed.trans (or_iff_left fun hc => hstatus hc.1)
        simp only [hold]
        by_cases hpaid : newInvoiceStatus notification p.invoice = .paid
        · have hbefore := (newInvoiceStatus_eq_paid.mp hpaid).resolve_left hstatus
          rw [if_pos hpaid, if_pos (hpinvoice hbefore.1)]
        · rw [if_neg hpaid, hporder]
    · intro hpaid
      rcases newInvoiceStatus_eq_paid.mp hpaid with hstatus | ⟨hbefore, -⟩
      · exact hconfirmed.mpr (.inr ⟨hstatus, hhits.mp hhit⟩)
      · exact hconfirmed.mpr (.inl (hpinvoice hbefore))
  -- a miss confirms nothing and moves nothing
  · have hold : Confirmed db₀ invoice (notifications ++ [notification]) ↔
        Confirmed db₀ invoice notifications :=
      hconfirmed.trans (or_iff_left fun hc => hhit (hhits.mpr hc.2))
    refine ⟨p, (hasStatuses_process h.placed hp).2 hhit, ?_, fun hp' => hold.mpr (hpinvoice hp')⟩
    simp only [hold]
    exact hporder

/-- **An order is accepted exactly when its payment was confirmed.** After any notifications
the order is ACCEPTED if and only if one of them confirmed a payment registered on the INITIAL
invoice, and UNPAID otherwise; a notification for an unknown invoice fails and changes
nothing. -/
theorem accepted_iff_confirmed (h₀ : AsCreated db₀ order invoice)
    (h : Run Processed db₀ notifications db) :
    (orderStatus db order = some .accepted ↔ Confirmed db₀ invoice notifications) ∧
    (¬ Confirmed db₀ invoice notifications → orderStatus db order = some .unpaid) ∧
    ∀ notification, db.invoices.find? notification.invoiceId = none →
      serve db notification = .error .attributeError (Ctx.start db ()) ∧
      process db notification = db := by
  have hI : Settled db₀ order invoice notifications db :=
    h.history (I := Settled db₀ order invoice) (Settled.initial h₀) fun _ _ _ _ hI hs => hI.step hs
  obtain ⟨p, hp, hporder, -⟩ := hI.statuses
  refine ⟨?_, ?_, fun n hn => ⟨serve_unknown hn, process_unknown hn⟩⟩
  · rw [hp.1, hporder, Option.some.injEq]
    split
    · next hc => exact ⟨fun _ => hc, fun _ => rfl⟩
    · next hc => exact ⟨nofun, fun hc' => absurd hc' hc⟩
  · intro hc
    rw [hp.1, hporder, if_neg hc]

/-! ### Late notifications -/

/-- The condition on a step: no AUTHORIZED notification for a payment registered on the
INITIAL invoice is processed while that invoice is PAID. -/
def NotLateAuthorized (invoice : UUID) (db : Database) (notification : PaymentStatusNotification) :
    Prop :=
  ¬ (notification.status = "AUTHORIZED" ∧ Hits db notification invoice ∧
    invoiceStatus db invoice = some .paid)

/-- The invariant of the runs that meet the condition. -/
structure InStep (order invoice : UUID) (db : Database) : Prop where
  placed : Placed db order invoice
  statuses : ∃ p, HasStatuses db order invoice p ∧ (p.order = .accepted ↔ p.invoice = .paid)

theorem InStep.step {notification : PaymentStatusNotification} (h : InStep order invoice db)
    (h_ok : NotLateAuthorized invoice db notification)
    (h_step : Processed db notification db') : InStep order invoice db' := by
  obtain rfl : db' = process db notification := h_step
  obtain ⟨p, hp, hiff⟩ := h.statuses
  refine ⟨h.placed.process, ?_⟩
  by_cases hhit : Hits db notification invoice
  · -- the three statuses move together
    refine ⟨p.settle notification, (hasStatuses_process h.placed hp).1 hhit, ?_⟩
    show (if newInvoiceStatus notification p.invoice = .paid then _ else p.order) = _ ↔
      newInvoiceStatus notification p.invoice = .paid
    by_cases hpaid : newInvoiceStatus notification p.invoice = .paid
    · rw [if_pos hpaid]
      exact ⟨fun _ => hpaid, fun _ => rfl⟩
    · -- the invoice was not PAID before either, as no notification but a late one undoes that
      have hbefore : p.invoice ≠ .paid := by
        intro hbefore
        have hauth : notification.status = "AUTHORIZED" := by
          by_contra hne
          exact hpaid (newInvoiceStatus_eq_paid.mpr (.inr ⟨hbefore, hne⟩))
        exact h_ok ⟨hauth, hhit, hp.2.trans (congrArg some hbefore)⟩
      rw [if_neg hpaid, hiff]
      exact ⟨fun h => absurd h hbefore, fun h => absurd h hpaid⟩
  · exact ⟨p, (hasStatuses_process h.placed hp).2 hhit, hiff⟩

/-- **An accepted order is a paid order** along every run without late notifications. -/
theorem accepted_iff_paid (h₀ : AsCreated db₀ order invoice)
    (h : Run (guarded (NotLateAuthorized invoice) Processed) db₀ notifications db) :
    orderStatus db order = some .accepted ↔ invoiceStatus db invoice = some .paid := by
  have hI : InStep order invoice db :=
    h.invariant ⟨h₀.placed, _, h₀.statuses, by decide⟩ fun _ _ _ hI hs => hI.step hs.1 hs.2
  obtain ⟨p, hp, hiff⟩ := hI.statuses
  rw [hp.1, hp.2, Option.some.injEq, Option.some.injEq]
  exact hiff

end Sequences

/-- An order of one item with its INITIAL invoice, on which payment 7 is registered. -/
def unpaidOrderDatabase : Database :=
  { sampleDatabase with
    orders := ⟨[⟨11, 5, none, none, .unpaid, 0⟩], List.nodup_singleton _⟩
    invoices := ⟨[⟨13, 11, none, none, "", .initial, 100, .unpaid⟩], List.nodup_singleton _⟩
    payments := ⟨[⟨14, 0, 13, "url", "NEW", 7⟩], List.nodup_singleton _⟩ }

theorem asCreated_unpaidOrder : AsCreated unpaidOrderDatabase 11 13 where
  order_unpaid := rfl
  initial := ⟨_, rfl, rfl, rfl⟩
  others := fun row hrow _ hne => by
    obtain rfl := List.mem_singleton.mp hrow
    exact absurd rfl hne
  unpaid := fun row hrow _ => by
    obtain rfl := List.mem_singleton.mp hrow
    rfl

/-- Authorized, then confirmed: the order is accepted. -/
theorem accepted_iff_confirmed_sample :
    ∃ db, Run Processed unpaidOrderDatabase [⟨13, 7, "AUTHORIZED"⟩, ⟨13, 7, "CONFIRMED"⟩] db ∧
      orderStatus db 11 = some .accepted := by
  have h : Run Processed unpaidOrderDatabase [⟨13, 7, "AUTHORIZED"⟩, ⟨13, 7, "CONFIRMED"⟩] _ :=
    .cons rfl (.cons rfl (.nil _))
  exact ⟨_, h, (accepted_iff_confirmed asCreated_unpaidOrder h).1.mpr (by decide)⟩

/-- The same run meets the condition. -/
theorem accepted_iff_paid_sample :
    ∃ db, Run (guarded (NotLateAuthorized 13) Processed) unpaidOrderDatabase
        [⟨13, 7, "AUTHORIZED"⟩, ⟨13, 7, "CONFIRMED"⟩] db ∧
      (orderStatus db 11 = some .accepted ↔ invoiceStatus db 13 = some .paid) := by
  have h : Run (guarded (NotLateAuthorized 13) Processed) unpaidOrderDatabase
      [⟨13, 7, "AUTHORIZED"⟩, ⟨13, 7, "CONFIRMED"⟩] _ :=
    .cons ⟨fun hlate => absurd hlate.2.2 (by decide), rfl⟩
      (.cons ⟨fun hlate => absurd hlate.1 (by decide), rfl⟩ (.nil _))
  exact ⟨_, h, accepted_iff_paid asCreated_unpaidOrder h⟩

/-- The payment is authorized, confirmed, and the authorization is delivered once more. -/
theorem late_authorized_not_paid :
    AsCreated unpaidOrderDatabase 11 13 ∧
    ∃ db, Run Processed unpaidOrderDatabase
        [⟨13, 7, "AUTHORIZED"⟩, ⟨13, 7, "CONFIRMED"⟩, ⟨13, 7, "AUTHORIZED"⟩] db ∧
      orderStatus db 11 = some .accepted ∧ invoiceStatus db 13 = some .waiting := by
  refine ⟨asCreated_unpaidOrder, _, .cons rfl (.cons rfl (.cons rfl (.nil _))), ?_, ?_⟩
  · rfl
  · rfl

end Storefront
