import Storefront.Order.Deliveries
import Storefront.Order.Quote

/-!
# The shop and the bank

An order asks the bank for a payment of its INITIAL invoice; the bank reports on its payments in
signed notifications, and the shop takes notifications from anyone. The bank's notifications can
be kept back, repeated, reordered and changed on their way by everyone who does not know the
password: a notification that verifies has the token of one that the bank has sent, and the rest
of it is anything the token is good for.

`PaymentSystem` is the database, the payments that the bank has opened and the notifications that
it has sent; `PaymentEvent` are the orders, the reports and everything else that happens.
`Allowed` says what is assumed: the bank's ids are new ones, and its statuses are words. Of the
relationships it is that they hold the objects they take (`Orm.HoldsObjects`), as documented.

A token does not tell where the signed texts are cut, so it is not good for one notification only
(`Tinkoff.recut_verified`). The status and the bank's id of the payment are all of a report that
matters, and `sameReport` recovers these: the status is a word, the id is a number, and the
password in front of it is not a number.

* `Agreement` — what holds of every state: payments of the shop are payments of the bank for the
  price of an order, and a PAID invoice or an ACCEPTED order has a payment that the bank has
  reported confirmed;
* `accepted_orders_are_paid` — so an order is ACCEPTED only if the bank has confirmed a payment,
  opened for an INITIAL invoice of this order and for the price of all its lines.
-/

namespace Storefront

variable {hash : HexDigest} {password : String}

/-! ### What a token is good for -/

namespace Tinkoff

/-- The status is a word, and the bank's id a number. -/
structure PaymentStatusNotification.IsReport (n : PaymentStatusNotification) : Prop where
  status : ∀ c ∈ n.status.toList, c.isDigit = false
  payment_id : 0 ≤ n.paymentId

/-- Notifications with one token have one text. -/
theorem tokenText_of_token_eq (h_hash : Function.Injective hash.hashString)
    {m n : PaymentStatusNotification} (hm : m.verify hash password = .ok true)
    (hn : n.verify hash password = .ok true) (h_token : m.token = n.token) :
    m.tokenText password = n.tokenText password := by
  obtain ⟨token, htoken, -, hhash⟩ := (m.verify_eq_ok hash password).mp hm
  obtain ⟨token', htoken', -, hhash'⟩ := (n.verify_eq_ok hash password).mp hn
  rw [htoken, htoken', Option.some.injEq] at h_token
  apply h_hash
  calc hash.hashString (m.tokenText password)
      = token := (of_decide_eq_true hhash.symm).symm
    _ = token' := h_token
    _ = hash.hashString (n.tokenText password) := of_decide_eq_true hhash'.symm

/-- **Reports with one token report the same status of the same payment.** -/
theorem sameReport (h_hash : Function.Injective hash.hashString)
    (h_password : ∃ c ∈ password.toList, c.isDigit = false)
    {m n : PaymentStatusNotification} (hm : m.verify hash password = .ok true)
    (hn : n.verify hash password = .ok true) (h_token : m.token = n.token)
    (hm_report : m.IsReport) (hn_report : n.IsReport) :
    m.paymentId = n.paymentId ∧ m.status = n.status := by
  have h := congrArg String.toList (tokenText_of_token_eq h_hash hm hn h_token)
  rw [PaymentStatusNotification.tokenText_eq, PaymentStatusNotification.tokenText_eq,
    String.toList_join, String.toList_join] at h
  simp only [List.flatMap_cons, List.flatMap_nil, List.append_nil, ← List.append_assoc] at h
  -- both end with the same boolean
  have hsuccess : m.success = n.success := lowered_inj_of_append_eq h
  rw [hsuccess] at h
  obtain ⟨hid, hstatus⟩ := field_inj (List.append_cancel_right h) h_password
    (toList_toString_ne_nil _) (toList_toString_ne_nil _)
    (fun _ => isDigit_of_mem_toString hm_report.payment_id)
    (fun _ => isDigit_of_mem_toString hn_report.payment_id) hm_report.status hn_report.status
  exact ⟨Int.repr_inj.mp (String.toList_inj.mp hid), String.toList_inj.mp hstatus⟩

end Tinkoff

/-! ### The system -/

/-- A payment that the bank has opened. -/
structure BankPayment where
  orderId : UUID
  paymentId : Int
  amount : Int
  deriving DecidableEq, Repr

structure PaymentSystem where
  db : Database
  payments : List BankPayment
  network : List Tinkoff.PaymentStatusNotification

/-- What happens: a `POST /order`, a payment that the bank opens without its answer reaching the
shop, a report of the bank, a notification that the shop receives, and the other requests. -/
inductive PaymentEvent
  | order (r : OrderRequest) (fault : Option PyExc)
  | unanswered (payment : BankPayment)
  | report (n : Tinkoff.PaymentStatusNotification)
  | receive (n : Tinkoff.PaymentStatusNotification)
  | elsewhere (db : Database)

namespace PaymentSystem

/-- The end of an order request. -/
def ended (orm : Orm) (s : PaymentSystem) (r : OrderRequest) (fault : Option PyExc) :
    Ctx Database Write RequestState :=
  endState ((postOrder orm r.outside fault r.user r.order).run
    (Ctx.start s.db ⟨r.checkoutData, []⟩))

/-- The payments that the bank has opened for requests. -/
def opened (w : Outside) (sent : List InitPaymentRequest) : List BankPayment :=
  sent.filterMap fun request => (w.bank request).toOption.map fun payment =>
    { orderId := request.orderId
      paymentId := payment.paymentId
      amount := request.amount }

/-- What an event leads to. -/
def next (hash : HexDigest) (password : String) (orm : Orm) (s : PaymentSystem) :
    PaymentEvent → PaymentSystem
  | .order r fault =>
    { s with
      db := (s.ended orm r fault).committed
      payments := s.payments ++ opened r.outside (s.ended orm r fault).env.sent }
  | .unanswered payment => { s with payments := s.payments ++ [payment] }
  | .report n => { s with network := s.network ++ [n] }
  | .receive n => { s with db := deliver hash password s.db n }
  | .elsewhere db => { s with db }

/-- The payments get ids of their own. -/
def NewIds (s : PaymentSystem) (payments : List BankPayment) : Prop :=
  ((s.payments ++ payments).map (·.paymentId)).Nodup ∧ ∀ p ∈ payments, 0 ≤ p.paymentId

/-- What is assumed of an event. The checkout data of an order is that of a checkout, which has no
item twice; the bank's ids are new, and it reports words about payments that it has opened; no one
else can make a token; and no other request writes to the tables of the orders. -/
def Allowed (hash : HexDigest) (password : String) (orm : Orm) (s : PaymentSystem) :
    PaymentEvent → Prop
  | .order r fault => (r.checkoutData.map (·.id)).Nodup ∧
      s.NewIds (opened r.outside (s.ended orm r fault).env.sent)
  | .unanswered payment => s.NewIds [payment]
  | .report n => n.verify hash password = .ok true ∧
      (∀ c ∈ n.status.toList, c.isDigit = false) ∧ ∃ p ∈ s.payments, p.paymentId = n.paymentId
  | .receive n => n.verify hash password = .ok true → ∃ m ∈ s.network, m.token = n.token
  | .elsewhere db => db.orders = s.db.orders ∧ db.orderItems = s.db.orderItems ∧
      db.invoices = s.db.invoices ∧ db.payments = s.db.payments

/-- The step relation. -/
def step (hash : HexDigest) (password : String) (orm : Orm) :
    PaymentSystem → PaymentEvent → PaymentSystem → Prop :=
  guarded (Allowed hash password orm) fun s e s' => s' = s.next hash password orm e

/-- A shop without orders, and a bank without payments. -/
structure Fresh (s : PaymentSystem) : Prop where
  orders : s.db.orders = .empty
  orderItems : s.db.orderItems = .empty
  invoices : s.db.invoices = .empty
  payments : s.db.payments = .empty
  bank : s.payments = []
  network : s.network = []

/-- The price of an order's lines. -/
def orderPrice (db : Database) (order : UUID) : Int :=
  ((db.orderItems.rows.filter fun line => line.orderId = order).map fun line =>
    line.price * line.quantity).sum

/-- The bank has opened one payment under the id. -/
def IsOpened (s : PaymentSystem) (paymentId : Int) (p : BankPayment) : Prop :=
  s.payments.filter (fun q => q.paymentId = paymentId) = [p]

/-- The bank has confirmed the payment that it has opened for an INITIAL invoice of the order and
for the price of the order, in kopecks. -/
def PaidAtBank (s : PaymentSystem) (order : OrderORM) : Prop :=
  ∃ invoice ∈ s.db.invoices.rows, invoice.orderId = order.id ∧ invoice.type = .initial ∧
    ∃ n ∈ s.network, n.status = "CONFIRMED" ∧ ∃ p, s.IsOpened n.paymentId p ∧
      p.orderId = invoice.id ∧ p.amount = 100 * orderPrice s.db order.id

/-- The bank has reported a payment of the invoice confirmed. -/
def ReportedPaid (s : PaymentSystem) (invoice : InvoiceORM) : Prop :=
  ∃ n ∈ s.network, n.status = "CONFIRMED" ∧ Registered s.db invoice.id n.paymentId

/-- The row is a payment that the bank has opened for an invoice and for the price of its order. -/
def OpenedFor (s : PaymentSystem) (row : PaymentORM) : Prop :=
  ∃ p ∈ s.payments, p.paymentId = row.externalId ∧ ∃ invoice ∈ s.db.invoices.rows,
    invoice.id = row.invoiceId ∧ p.orderId = invoice.id ∧
      p.amount = 100 * orderPrice s.db invoice.orderId

/-- **The invariant.** -/
structure Agreement (hash : HexDigest) (password : String) (s : PaymentSystem) : Prop where
  lines_known : ∀ line ∈ s.db.orderItems.rows, line.orderId ∈ s.db.orders.keys
  invoices_known : ∀ invoice ∈ s.db.invoices.rows, invoice.orderId ∈ s.db.orders.keys
  nodup : (s.payments.map (·.paymentId)).Nodup
  nonneg : ∀ p ∈ s.payments, 0 ≤ p.paymentId
  opened_for : ∀ row ∈ s.db.payments.rows, s.OpenedFor row
  reports : ∀ n ∈ s.network, n.verify hash password = .ok true ∧ n.IsReport
  paid : ∀ invoice ∈ s.db.invoices.rows, invoice.status = .paid → s.ReportedPaid invoice
  accepted : ∀ order ∈ s.db.orders.rows, order.status = .accepted →
    ∃ invoice ∈ s.db.invoices.rows, invoice.orderId = order.id ∧ invoice.type = .initial ∧
      s.ReportedPaid invoice

section Steps

variable {orm : Orm} {s s' : PaymentSystem}

theorem Fresh.agreement (h : Fresh s) : Agreement hash password s where
  lines_known := by
    rw [h.orderItems]
    exact fun _ hline => absurd hline List.not_mem_nil
  invoices_known := by
    rw [h.invoices]
    exact fun _ hinvoice => absurd hinvoice List.not_mem_nil
  nodup := by
    rw [h.bank]
    exact List.nodup_nil
  nonneg := by
    rw [h.bank]
    exact fun _ hp => absurd hp List.not_mem_nil
  opened_for := by
    rw [h.payments]
    exact fun _ hrow => absurd hrow List.not_mem_nil
  reports := by
    rw [h.network]
    exact fun _ hn => absurd hn List.not_mem_nil
  paid := by
    rw [h.invoices]
    exact fun _ hinvoice => absurd hinvoice List.not_mem_nil
  accepted := by
    rw [h.orders]
    exact fun _ horder => absurd horder List.not_mem_nil

/-- The bank opens payments. -/
theorem Agreement.open_payments (h : Agreement hash password s) {payments : List BankPayment}
    (h_new : s.NewIds payments) :
    Agreement hash password { s with payments := s.payments ++ payments } :=
  { h with
    nodup := h_new.1
    nonneg := fun p hp => (List.mem_append.mp hp).elim (h.nonneg p) (h_new.2 p)
    opened_for := fun row hrow => by
      obtain ⟨p, hp, hopened⟩ := h.opened_for row hrow
      exact ⟨p, List.mem_append_left _ hp, hopened⟩ }

/-- The bank reports. -/
theorem Agreement.report (h : Agreement hash password s) {n : Tinkoff.PaymentStatusNotification}
    (h_allowed : Allowed hash password orm s (.report n)) :
    Agreement hash password { s with network := s.network ++ [n] } := by
  obtain ⟨hverify, hstatus, p, hp, hid⟩ := h_allowed
  -- the network only grows, so what was reported stays reported
  have hmore : ∀ invoice, s.ReportedPaid invoice →
      ReportedPaid { s with network := s.network ++ [n] } invoice := by
    rintro invoice ⟨m, hm, hconfirmed⟩
    exact ⟨m, List.mem_append_left _ hm, hconfirmed⟩
  exact { h with
    reports := by
      intro m hm
      obtain hm | hm := List.mem_append.mp hm
      · exact h.reports m hm
      · obtain rfl := List.mem_singleton.mp hm
        exact ⟨hverify, hstatus, hid ▸ h.nonneg p hp⟩
    paid := fun invoice hinvoice hpaid => hmore invoice (h.paid invoice hinvoice hpaid)
    accepted := fun order horder haccepted => by
      obtain ⟨invoice, hinvoice, hof, htype, hpaid⟩ := h.accepted order horder haccepted
      exact ⟨invoice, hinvoice, hof, htype, hmore invoice hpaid⟩ }

/-- Other requests. -/
theorem Agreement.elsewhere (h : Agreement hash password s) {db : Database}
    (h_allowed : Allowed hash password orm s (.elsewhere db)) :
    Agreement hash password { s with db } := by
  obtain ⟨horders, hlines, hinvoices, hpayments⟩ := h_allowed
  obtain ⟨⟨_, _, _, orders, orderItems, _, invoices, payments⟩, bank, network⟩ := s
  obtain ⟨_, _, _, orders', orderItems', _, invoices', payments'⟩ := db
  obtain rfl : orders' = orders := horders
  obtain rfl : orderItems' = orderItems := hlines
  obtain rfl : invoices' = invoices := hinvoices
  obtain rfl : payments' = payments := hpayments
  exact ⟨h.lines_known, h.invoices_known, h.nodup, h.nonneg, h.opened_for, h.reports, h.paid,
    h.accepted⟩

/-- A confirmation that verifies and hits an invoice has been reported. -/
theorem Agreement.reportedPaid_of_hits (h : Agreement hash password s)
    (h_hash : Function.Injective hash.hashString)
    (h_password : ∃ c ∈ password.toList, c.isDigit = false)
    {n : Tinkoff.PaymentStatusNotification} (h_verify : n.verify hash password = .ok true)
    (h_token : ∃ m ∈ s.network, m.token = n.token) {invoice : InvoiceORM}
    (h_confirmed : Confirmed s.db invoice.id [n.toPaymentStatusNotification]) :
    s.ReportedPaid invoice := by
  obtain ⟨n', hn', hstatus, -, hregistered⟩ := h_confirmed
  obtain rfl := List.mem_singleton.mp hn'
  obtain ⟨m, hm, htoken⟩ := h_token
  obtain ⟨hm_verify, hm_report⟩ := h.reports m hm
  -- the payment is one of the bank, so its id is a number
  have hn_report : n.IsReport := by
    obtain ⟨row, hrow, -, hexternal⟩ := hregistered
    obtain ⟨p, hp, hid, -⟩ := h.opened_for row hrow
    refine ⟨?_, ?_⟩
    · rw [hstatus]
      simp
    · rw [← hexternal, ← hid]
      exact h.nonneg p hp
  obtain ⟨hid, hsame⟩ := Tinkoff.sameReport h_hash h_password hm_verify h_verify htoken hm_report
    hn_report
  exact ⟨m, hm, hsame.trans hstatus, hid ▸ hregistered⟩

/-- The shop receives a notification. -/
theorem Agreement.receive (h : Agreement hash password s)
    (h_hash : Function.Injective hash.hashString)
    (h_password : ∃ c ∈ password.toList, c.isDigit = false)
    {n : Tinkoff.PaymentStatusNotification}
    (h_allowed : Allowed hash password orm s (.receive n)) :
    Agreement hash password { s with db := deliver hash password s.db n } := by
  by_cases hverify : n.verify hash password = .ok true
  -- what does not verify is answered and forgotten
  swap
  · rw [deliver_refused hverify]
    exact h
  rw [deliver_verified hverify]
  -- one delivery is a run of one notification, so the closed form of a run says it all
  have hsettled : SettledBy s.db [n.toPaymentStatusNotification]
      (process s.db n.toPaymentStatusNotification) := settledBy_foldl s.db [_]
  generalize process s.db n.toPaymentStatusNotification = db at hsettled
  -- the lines are not touched, and the orders keep their ids
  have hprice : orderPrice db = orderPrice s.db := by
    unfold orderPrice
    rw [hsettled.orderItems]
  have hkeys : db.orders.keys = s.db.orders.keys := by
    unfold Table.keys
    rw [hsettled.orders, List.map_map]
    refine List.map_congr_left fun row _ => ?_
    simp only [Function.comp_apply, reportedOrder]
    split <;> rfl
  -- what has been reported for an invoice stays reported
  have hmore : ∀ invoice, s.ReportedPaid invoice → ReportedPaid { s with db } invoice := by
    rintro invoice ⟨m, hm, hstatus, hregistered⟩
    exact ⟨m, hm, hstatus, (hsettled.registered _ _).mpr hregistered⟩
  -- the invoices that this notification confirms are reported by the bank itself
  have hreported : ∀ invoice, Confirmed s.db invoice.id [n.toPaymentStatusNotification] →
      s.ReportedPaid invoice :=
    fun invoice => h.reportedPaid_of_hits h_hash h_password hverify (h_allowed hverify)
  exact {
    lines_known := by
      rw [hkeys, hsettled.orderItems]
      exact h.lines_known
    invoices_known := by
      rw [hkeys, hsettled.invoices]
      intro invoice hinvoice
      obtain ⟨row, hrow, rfl⟩ := List.mem_map.mp hinvoice
      exact h.invoices_known row hrow
    nodup := h.nodup
    nonneg := h.nonneg
    opened_for := by
      rw [hsettled.payments]
      intro row' hrow'
      obtain ⟨row, hrow, rfl⟩ := List.mem_map.mp hrow'
      obtain ⟨p, hp, hid, invoice, hinvoice, hof, horder, hamount⟩ := h.opened_for row hrow
      -- the row may have become PAID, with its id, its order and its type
      refine ⟨p, hp, hid, reportedInvoice s.db [n.toPaymentStatusNotification] invoice, ?_, hof,
        horder, ?_⟩
      · rw [hsettled.invoices]
        exact List.mem_map_of_mem hinvoice
      · rw [hprice]
        exact hamount
    reports := h.reports
    paid := by
      rw [hsettled.invoices]
      intro invoice hinvoice hpaid
      obtain ⟨row, hrow, rfl⟩ := List.mem_map.mp hinvoice
      -- it has been confirmed, or was PAID before
      obtain hconfirmed | ⟨hbefore, -⟩ := status_reportedInvoice_eq_paid hpaid
      · exact hmore row (hreported row hconfirmed)
      · exact hmore row (h.paid row hrow hbefore)
    accepted := by
      rw [hsettled.orders, hsettled.invoices]
      intro order' horder' haccepted
      obtain ⟨order, horder, rfl⟩ := List.mem_map.mp horder'
      -- in the old rows: confirmed now, PAID before, or the order was ACCEPTED already
      have hpaid : ∃ invoice ∈ s.db.invoices.rows, invoice.orderId = order.id ∧
          invoice.type = .initial ∧ s.ReportedPaid invoice := by
        unfold reportedOrder at haccepted
        split at haccepted
        · next hreport =>
          obtain ⟨invoice, hinvoice, hof, htype, hconfirmed | ⟨hbefore, -⟩⟩ := hreport
          · exact ⟨invoice, hinvoice, hof, htype, hreported invoice hconfirmed⟩
          · exact ⟨invoice, hinvoice, hof, htype, h.paid invoice hinvoice hbefore⟩
        · exact h.accepted order horder haccepted
      obtain ⟨invoice, hinvoice, hof, htype, hpaid⟩ := hpaid
      have hid : (reportedOrder s.db [n.toPaymentStatusNotification] order).id = order.id := by
        unfold reportedOrder
        split <;> rfl
      refine ⟨_, List.mem_map_of_mem hinvoice, ?_, htype, hmore invoice hpaid⟩
      rw [hid]
      exact hof }

/-- The invoices of an order are its own, unpaid, and INITIAL is only the one the bank is asked to
bill. -/
theorem of_mem_linkedInvoices {w : Outside} {items : List AvailableCheckoutItem}
    {creditIds : List UUID} (h_ids : (items.map (·.id)).Nodup) {row : InvoiceORM}
    (h : row ∈ linkedInvoices w items creditIds) :
    row.orderId = w.uuid .order ∧ row.status = .unpaid ∧
      (row.type = .initial → row.id = w.uuid .initialInvoice) := by
  obtain ⟨title, credit, hrows, hcredit⟩ := rows_initial_cons items creditIds
  unfold linkedInvoices at h
  rw [hrows, hcredit h_ids, List.map_map] at h
  obtain ⟨p, hp, hrow⟩ := List.mem_flatMap.mp h
  obtain ⟨ref, href, rfl⟩ := List.mem_map.mp hrow
  refine ⟨rfl, ?_⟩
  obtain rfl | hp := List.mem_cons.mp hp
  · -- the INITIAL invoice comes first, under the id that the bank is given
    obtain rfl := List.mem_singleton.mp href
    exact ⟨rfl, fun _ => rfl⟩
  · -- the parts of a credit are CREDIT invoices
    obtain ⟨item, -, rfl⟩ := List.mem_map.mp hp
    obtain ⟨object, hobject, rfl⟩ := List.mem_map.mp href
    obtain ⟨part, -, rfl⟩ := List.mem_map.mp hobject
    exact ⟨rfl, fun htype => nomatch htype⟩

/-- The price of an order is that of its checkout data, and other orders keep theirs. -/
theorem orderPrice_of_effect {r : OrderRequest} {db db' : Database}
    (h_lines : ∀ line ∈ db.orderItems.rows, line.orderId ∈ db.orders.keys)
    (h : OrderEffect r db db') (order : UUID) :
    orderPrice db' order = if order = r.outside.uuid .order then
      (r.checkoutData.map AvailableCheckoutItem.fullPrice).sum else orderPrice db order := by
  obtain ⟨delivery, -, horders, -⟩ := h.order
  have hnew : r.outside.uuid .order ∉ db.orders.keys :=
    Table.notMem_keys_of_append horders List.mem_cons_self
  unfold orderPrice
  rw [h.lines, List.filter_append, List.map_append, List.sum_append]
  split
  · next heq =>
    subst heq
    -- there are no lines of the order yet, and the new ones are all of it
    have hnone : db.orderItems.rows.filter (fun line => line.orderId = r.outside.uuid .order) =
        [] := by
      refine List.filter_eq_nil_iff.mpr fun line hline hof => hnew ?_
      rw [← of_decide_eq_true hof]
      exact h_lines line hline
    have hall : (r.checkoutData.zipIdx.map (orderLine r.outside r.order.creditIds)).filter
        (fun line => line.orderId = r.outside.uuid .order) =
          r.checkoutData.zipIdx.map (orderLine r.outside r.order.creditIds) := by
      refine List.filter_eq_self.mpr fun line hline => ?_
      obtain ⟨p, -, rfl⟩ := List.mem_map.mp hline
      exact decide_eq_true rfl
    have hprices : (r.checkoutData.zipIdx.map (orderLine r.outside r.order.creditIds)).map
        (fun line => line.price * line.quantity) =
          r.checkoutData.map AvailableCheckoutItem.fullPrice :=
      map_orderLine (fun _ quantity price => price * quantity) _ _ _
    rw [hnone, hall, hprices, List.map_nil, List.sum_nil, zero_add]
  · next hne =>
    -- every new line is of the new order
    have hnone : (r.checkoutData.zipIdx.map (orderLine r.outside r.order.creditIds)).filter
        (fun line => line.orderId = order) = [] := by
      refine List.filter_eq_nil_iff.mpr fun line hline hof => hne ?_
      obtain ⟨p, -, rfl⟩ := List.mem_map.mp hline
      exact (of_decide_eq_true hof).symm
    rw [hnone, List.map_nil, List.sum_nil, add_zero]

/-- The shop commits an order whose payment the bank has opened. -/
theorem Agreement.commit (h : Agreement hash password s) {r : OrderRequest} {db : Database}
    (h_ids : (r.checkoutData.map (·.id)).Nodup) (h_effect : OrderEffect r s.db db)
    (h_opened : opened r.outside [initPaymentRequest r.outside r.user r.checkoutData] ⊆
      s.payments) : Agreement hash password { s with db } := by
  have hprice := orderPrice_of_effect h.lines_known h_effect
  obtain ⟨delivery, -, horders, -⟩ := h_effect.order
  obtain ⟨invoices, initial, bankPayment, payment, hperm, hinvoices, hinitial, htype, hbank,
    hpayments, hof, hexternal⟩ := h_effect.billed
  -- the order is a new one, so nothing that is stored refers to it
  have hnew : r.outside.uuid .order ∉ s.db.orders.keys :=
    Table.notMem_keys_of_append horders List.mem_cons_self
  have hkeys : db.orders.keys = s.db.orders.keys ++ [r.outside.uuid .order] := by
    unfold Table.keys
    rw [horders, List.map_append]
    rfl
  have hown : ∀ invoice ∈ invoices, invoice.orderId = r.outside.uuid .order ∧
      invoice.status = .unpaid ∧
        (invoice.type = .initial → invoice.id = r.outside.uuid .initialInvoice) :=
    fun invoice hinvoice => of_mem_linkedInvoices h_ids (hperm.mem_iff.mp hinvoice)
  -- payments are only added, so what was reported stays reported
  have hmore : ∀ invoice, s.ReportedPaid invoice → ReportedPaid { s with db } invoice := by
    rintro invoice ⟨m, hm, hstatus, row, hrow, hregistered⟩
    refine ⟨m, hm, hstatus, row, ?_, hregistered⟩
    rw [hpayments]
    exact List.mem_append_left _ hrow
  -- the new lines are of no old order
  have hold : ∀ order ∈ s.db.orders.keys, orderPrice db order = orderPrice s.db order := by
    intro order horder
    rw [hprice, if_neg]
    rintro rfl
    exact hnew horder
  exact {
    lines_known := by
      rw [hkeys, h_effect.lines]
      intro line hline
      obtain hline | hline := List.mem_append.mp hline
      · exact List.mem_append_left _ (h.lines_known line hline)
      · obtain ⟨p, -, rfl⟩ := List.mem_map.mp hline
        exact List.mem_append_right _ List.mem_cons_self
    invoices_known := by
      rw [hkeys, hinvoices]
      intro invoice hinvoice
      obtain hinvoice | hinvoice := List.mem_append.mp hinvoice
      · exact List.mem_append_left _ (h.invoices_known invoice hinvoice)
      · rw [(hown invoice hinvoice).1]
        exact List.mem_append_right _ List.mem_cons_self
    nodup := h.nodup
    nonneg := h.nonneg
    opened_for := by
      rw [hpayments]
      intro row hrow
      obtain hrow | hrow := List.mem_append.mp hrow
      · obtain ⟨p, hp, hid, invoice, hinvoice, hrest⟩ := h.opened_for row hrow
        refine ⟨p, hp, hid, invoice, ?_, ?_⟩
        · rw [hinvoices]
          exact List.mem_append_left _ hinvoice
        · -- the old payments were opened for old orders, whose price stays
          rw [hold _ (h.invoices_known invoice hinvoice)]
          exact hrest
      · obtain rfl := List.mem_singleton.mp hrow
        -- the bank has been asked for the price of the lines
        have hp : (⟨r.outside.uuid .initialInvoice, bankPayment.paymentId,
            (initPaymentRequest r.outside r.user r.checkoutData).amount⟩ : BankPayment) ∈
              s.payments := by
          refine h_opened ?_
          unfold opened
          rw [List.filterMap_cons, hbank]
          exact List.mem_cons_self
        refine ⟨_, hp, hexternal.symm, initial, ?_, hof.symm, ?_, ?_⟩
        · rw [hinvoices]
          exact List.mem_append_right _ hinitial
        · exact ((hown initial hinitial).2.2 htype).symm
        · rw [(hown initial hinitial).1, hprice, if_pos rfl]
          exact amount_initPaymentRequest r.outside r.user r.checkoutData
    reports := h.reports
    paid := by
      rw [hinvoices]
      intro invoice hinvoice hpaid
      obtain hinvoice | hinvoice := List.mem_append.mp hinvoice
      · exact hmore invoice (h.paid invoice hinvoice hpaid)
      · -- the new invoices are UNPAID
        rw [(hown invoice hinvoice).2.1] at hpaid
        cases hpaid
    accepted := by
      rw [horders, hinvoices]
      intro order horder haccepted
      obtain horder | horder := List.mem_append.mp horder
      · obtain ⟨invoice, hinvoice, hof, htype, hpaid⟩ := h.accepted order horder haccepted
        exact ⟨invoice, List.mem_append_left _ hinvoice, hof, htype, hmore invoice hpaid⟩
      · -- the new order is WAITING
        obtain rfl := List.mem_singleton.mp horder
        cases haccepted }

/-- An order request, whatever becomes of it. -/
theorem Agreement.order (h : Agreement hash password s) (h_orm : orm.HoldsObjects)
    {r : OrderRequest} {fault : Option PyExc}
    (h_allowed : Allowed hash password orm s (.order r fault)) :
    Agreement hash password (s.next hash password orm (.order r fault)) := by
  obtain ⟨hids, hnew⟩ := h_allowed
  have hopen := h.open_payments hnew
  show Agreement hash password { s with
    db := (s.ended orm r fault).committed
    payments := s.payments ++ opened r.outside (s.ended orm r fault).env.sent }
  cases hrun : (postOrder orm r.outside fault r.user r.order).run
      (Ctx.start s.db ⟨r.checkoutData, []⟩) with
  | error e c =>
    -- nothing is committed, though the bank may have opened a payment
    have hdb : (s.ended orm r fault).committed = s.db := by
      unfold ended
      rw [hrun]
      exact ClientSession.committed_postOrder hrun
    rw [hdb]
    exact hopen
  | ok link c =>
    have hend : s.ended orm r fault = c := by
      unfold ended
      rw [hrun]
      rfl
    -- it has succeeded: the effect is stored, and exactly one request was sent
    obtain rfl : fault = none := postOrder_fault hrun
    have hcommits : r.Commits orm s.db c.committed := postOrder_commits_iff.mp ⟨link, c, hrun, rfl⟩
    have hsent : c.env.sent = [initPaymentRequest r.outside r.user r.checkoutData] := by
      obtain ⟨c₁, hhandler, ⟨hget, -⟩ | ⟨-, -, -, db, -, rfl⟩⟩ := initCtxDbSession_eq_ok.mp hrun
      · cases hget
      · obtain ⟨ws, payment, db', -, -, -, -, rfl⟩ :=
          (makeOrderEntrypoint_eq_ok (Ctx.clean_start s.db _)).mp hhandler
        rfl
    rw [hend] at hopen ⊢
    have heffect : OrderEffect r s.db c.committed :=
      Commits.effect (h_orm.commits hcommits) accepts_flattening hids
    refine hopen.commit hids heffect ?_
    rw [hsent]
    exact List.subset_append_right _ _

/-- **One event** keeps the agreement. -/
theorem agreement_step (h : Agreement hash password s) (h_orm : orm.HoldsObjects)
    (h_hash : Function.Injective hash.hashString)
    (h_password : ∃ c ∈ password.toList, c.isDigit = false) {e : PaymentEvent}
    (h_step : step hash password orm s e s') : Agreement hash password s' := by
  obtain ⟨hallowed, hnext⟩ := h_step
  obtain rfl : s' = s.next hash password orm e := hnext
  cases e with
  | order r fault => exact h.order h_orm hallowed
  | unanswered payment => exact h.open_payments hallowed
  | report n => exact h.report hallowed
  | receive n => exact h.receive h_hash h_password hallowed
  | elsewhere db => exact h.elsewhere hallowed

/-- Where shop and bank agree, ACCEPTED orders are paid. -/
theorem Agreement.paidAtBank (h : Agreement hash password s) {order : OrderORM}
    (h_order : order ∈ s.db.orders.rows) (h_accepted : order.status = .accepted) :
    s.PaidAtBank order := by
  obtain ⟨invoice, hinvoice, hof, htype, n, hn, hstatus, row, hrow, hrow_invoice, hexternal⟩ :=
    h.accepted order h_order h_accepted
  obtain ⟨p, hp, hid, invoice', hinvoice', hid', horder, hamount⟩ := h.opened_for row hrow
  -- the payment names the invoice by its id, so it is this one
  obtain rfl : invoice' = invoice :=
    Table.eq_of_mem hinvoice' hinvoice (hid'.trans hrow_invoice)
  refine ⟨invoice', hinvoice, hof, htype, n, hn, hstatus, p, ?_, horder, ?_⟩
  · -- the bank's ids are its own
    have hone : (⟨s.payments, h.nodup⟩ : Table BankPayment.paymentId).rows.filter
        (fun q => q.paymentId = n.paymentId) = [p] := by
      refine Table.filter_key_eq hp fun q _ => ?_
      rw [decide_eq_true_iff, hid, hexternal]
    exact hone
  · rw [← hof]
    exact hamount

end Steps

/-- **ACCEPTED orders are paid.** In every run of the shop and the bank, whatever is done to the
notifications on their way, an order is ACCEPTED only if the bank has confirmed a payment that it
has opened for an INITIAL invoice of this order, for the price of all its lines. -/
theorem accepted_orders_are_paid {orm : Orm} (h_orm : orm.HoldsObjects)
    (h_hash : Function.Injective hash.hashString)
    (h_password : ∃ c ∈ password.toList, c.isDigit = false) {s₀ s : PaymentSystem}
    (h_fresh : Fresh s₀) {events : List PaymentEvent}
    (h : Run (step hash password orm) s₀ events s) :
    ∀ order ∈ s.db.orders.rows, order.status = .accepted → s.PaidAtBank order := by
  -- the agreement is the invariant: it holds of a fresh shop, and every event keeps it
  have hagree : Agreement hash password s :=
    h.invariant h_fresh.agreement fun _ _ _ hI hstep =>
      agreement_step hI h_orm h_hash h_password hstep
  exact fun order horder haccepted => hagree.paidAtBank horder haccepted

/-- The order of the samples, and the confirmation of its payment. -/
def confirmedOrder : List PaymentEvent :=
  [.order (Shop.sampleOrder Shop.twoPieces) none, .report confirmation, .receive confirmation]

/-- It is ACCEPTED, and so paid. -/
theorem accepted_orders_are_paid_sample :
    ∃ s, Run (step codePointDigest "password" .flattening) ⟨sampleDatabase, [], []⟩
        confirmedOrder s ∧
      s.db.orders.rows.map (·.status) = [.accepted] ∧
        ∀ order ∈ s.db.orders.rows, s.PaidAtBank order := by
  -- the order is stored, the bank signs the report, and the shop receives it unchanged
  let s₀ : PaymentSystem := ⟨sampleDatabase, [], []⟩
  let s₁ := s₀.next codePointDigest "password" .flattening
    (.order (Shop.sampleOrder Shop.twoPieces) none)
  let s₂ : PaymentSystem := ⟨s₁.db, s₁.payments, [confirmation]⟩
  have horder : step codePointDigest "password" .flattening s₀
      (.order (Shop.sampleOrder Shop.twoPieces) none) s₁ := by
    refine ⟨⟨by decide, ?_⟩, rfl⟩
    unfold NewIds
    decide +kernel
  have hreport : step codePointDigest "password" .flattening s₁ (.report confirmation) s₂ := by
    refine ⟨⟨verify_confirmation, ?_, ?_⟩, rfl⟩
    · show ∀ c ∈ "CONFIRMED".toList, c.isDigit = false
      simp
    · decide +kernel
  have hrun : Run (step codePointDigest "password" .flattening) s₀ confirmedOrder
      ⟨deliver codePointDigest "password" s₂.db confirmation, s₂.payments, s₂.network⟩ :=
    .cons horder (.cons hreport (.cons ⟨fun _ => ⟨confirmation, List.mem_cons_self, rfl⟩, rfl⟩
      (.nil _)))
  -- the signature is known to verify; the rest is evaluated
  have hstatuses : (deliver codePointDigest "password" s₂.db confirmation).orders.rows.map
      (·.status) = [.accepted] := by
    rw [deliver_verified verify_confirmation]
    decide +kernel
  generalize deliver codePointDigest "password" s₂.db confirmation = db at hrun hstatuses
  refine ⟨_, hrun, hstatuses, fun order hmem => ?_⟩
  have hstatus := List.mem_map_of_mem (f := OrderORM.status) hmem
  rw [hstatuses, List.mem_singleton] at hstatus
  have hpassword : ∃ c ∈ "password".toList, c.isDigit = false := ⟨'p', by simp, rfl⟩
  exact accepted_orders_are_paid holdsObjects_flattening codePoints_injective hpassword
    ⟨rfl, rfl, rfl, rfl, rfl, rfl⟩ hrun order hmem hstatus

end PaymentSystem

end Storefront
