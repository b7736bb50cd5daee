import Storefront.Order.Notification

/-!
# Notifications of different orders

`OrderService.update_payment_status` walks from an invoice to its payments and back up to its
order. `settles_process` says what the whole database is after one notification, table by
table; every row it rewrites belongs to the order of the invoice it names.

* `sameOrder_process` — a notification leaves the row, the invoices and the payments of every
  order it does not concern;
* `notifications_independent` — two notifications that concern different orders, or no order
  at all, can be processed either way round.
-/

namespace Storefront

attribute [ext] Database

/-! ### One notification, table by table -/

section Rows

variable (notification : PaymentStatusNotification) (invoice : InvoiceORM)

/-- What a notification for `invoice` makes of a payment. -/
def settlePayment (row : PaymentORM) : PaymentORM :=
  if row.invoiceId = invoice.id ∧ row.externalId = notification.paymentId then
    { row with status := notification.status }
  else row

/-- What it makes of an invoice, when the payment is `registered` on `invoice` or not. -/
def settleInvoice (registered : Bool) (row : InvoiceORM) : InvoiceORM :=
  if row.id = invoice.id ∧ registered then
    { row with status := newInvoiceStatus notification row.status }
  else row

/-- What it makes of an order. -/
def settleOrder (registered : Bool) (row : OrderORM) : OrderORM :=
  if row.id = invoice.orderId ∧ registered ∧ invoice.type = .initial ∧
      newInvoiceStatus notification invoice.status = .paid then
    { row with status := .accepted }
  else row

@[simp] theorem invoiceId_settlePayment (row : PaymentORM) :
    (settlePayment notification invoice row).invoiceId = row.invoiceId := by
  unfold settlePayment
  split <;> rfl

@[simp] theorem orderId_settleInvoice (registered : Bool) (row : InvoiceORM) :
    (settleInvoice notification invoice registered row).orderId = row.orderId := by
  unfold settleInvoice
  split <;> rfl

/-- `db'` is `db` after the notification for `invoice`: nothing but the statuses of the
matching payments of that invoice, of the invoice and of its order is another. -/
structure Settles (db db' : Database) : Prop where
  payments : db'.payments.rows = db.payments.rows.map (settlePayment notification invoice)
  invoices : db'.invoices.rows = db.invoices.rows.map
    (settleInvoice notification invoice (Registered db invoice.id notification.paymentId))
  orders : db'.orders.rows = db.orders.rows.map
    (settleOrder notification invoice (Registered db invoice.id notification.paymentId))
  catalog : db'.catalog = db.catalog
  carts : db'.carts = db.carts
  favorites : db'.favorites = db.favorites
  orderItems : db'.orderItems = db.orderItems
  deliveries : db'.deliveries = db.deliveries

end Rows

/-- Assignments to statuses stay in the three tables that have one. -/
theorem applyAll_status_frame {ws : List Write} (h : ∀ w ∈ ws, w.IsStatus) {db db' : Database}
    (h_apply : postgres.applyAll ws db = .ok db') :
    db'.catalog = db.catalog ∧ db'.carts = db.carts ∧ db'.favorites = db.favorites ∧
      db'.orderItems = db.orderItems ∧ db'.deliveries = db.deliveries := by
  induction ws generalizing db with
  | nil =>
    cases h_apply
    exact ⟨rfl, rfl, rfl, rfl, rfl⟩
  | cons w ws ih =>
    -- a status write is to one of the other three tables
    have hw : ∃ db₁, postgres.apply w db = .ok db₁ ∧ db₁.catalog = db.catalog ∧
        db₁.carts = db.carts ∧ db₁.favorites = db.favorites ∧
        db₁.orderItems = db.orderItems ∧ db₁.deliveries = db.deliveries := by
      have hstatus := h w List.mem_cons_self
      cases w <;> first | exact hstatus.elim | exact ⟨_, rfl, rfl, rfl, rfl, rfl, rfl⟩
    obtain ⟨db₁, hdb₁, hcatalog, hcarts, hfavorites, hitems, hdeliveries⟩ := hw
    rw [Backend.applyAll_cons, hdb₁] at h_apply
    have hrest := ih (fun w' hw' => h w' (List.mem_cons_of_mem _ hw')) h_apply
    rwa [hcatalog, hcarts, hfavorites, hitems, hdeliveries] at hrest

section Process

variable {db : Database} {notification : PaymentStatusNotification} {invoice : InvoiceORM}

/-- One turn gives the payment with its id the notification's status. -/
theorem onPayment_turnWrites (status : InvoiceStatus) (payment row : PaymentORM) :
    (turnWrites notification invoice status payment).foldl Write.onPayment row =
      if row.id = payment.id then { row with status := notification.status } else row := by
  -- neither of the other two assignments is to a payment
  have hinvoice : ∀ row : PaymentORM, ((paymentToInvoiceStatus notification.status).toList.map
      fun new => Write.setInvoiceStatus invoice.id new).foldl Write.onPayment row = row := by
    intro row
    cases paymentToInvoiceStatus notification.status <;> rfl
  have horder : ∀ row : PaymentORM, (if invoice.type = .initial then
      (invoiceToOrderStatus (newInvoiceStatus notification status)).toList.map fun new =>
        Write.setOrderStatus invoice.orderId new
      else []).foldl Write.onPayment row = row := by
    intro row
    split
    · cases invoiceToOrderStatus (newInvoiceStatus notification status) <;> rfl
    · rfl
  unfold turnWrites
  rw [List.foldl_append, List.foldl_append, hinvoice, horder]
  rfl

/-- What the loop makes of a payment. -/
theorem onPayment_statusWrites (status : InvoiceStatus) (payments : List PaymentORM)
    (row : PaymentORM) :
    (statusWrites notification invoice status payments).foldl Write.onPayment row =
      if ∃ payment ∈ payments, row.id = payment.id ∧
          payment.externalId = notification.paymentId then
        { row with status := notification.status }
      else row := by
  induction payments generalizing status row with
  | nil => exact (if_neg fun h => by obtain ⟨p, hp, -⟩ := h; cases hp).symm
  | cons payment payments ih =>
    unfold statusWrites
    by_cases hext : payment.externalId = notification.paymentId
    · rw [if_pos hext, List.foldl_append, onPayment_turnWrites, ih]
      by_cases hid : row.id = payment.id
      -- a later turn assigns the same again
      · simp only [hid, hext, if_true, ite_self, List.exists_mem_cons_iff, and_self, true_or]
      · simp only [hid, if_false, List.exists_mem_cons_iff, false_and, false_or]
    · rw [if_neg hext, ih]
      simp only [hext, List.exists_mem_cons_iff, and_false, false_or]

/-- The loop over the payments of an invoice turns those of its payments that have the
notification's id. -/
theorem onPayment_paymentsOf {row : PaymentORM} (h : row ∈ db.payments.rows)
    (status : InvoiceStatus) :
    (statusWrites notification invoice status (paymentsOf db invoice)).foldl
      Write.onPayment row = settlePayment notification invoice row := by
  rw [onPayment_statusWrites]
  unfold settlePayment
  refine if_congr ?_ rfl rfl
  refine ⟨?_, ?_⟩
  · rintro ⟨payment, hmem, hid, hext⟩
    obtain ⟨hpayment, hinvoice⟩ := List.mem_filter.mp hmem
    -- the id of a payment determines its row
    rw [Table.eq_of_mem h hpayment hid]
    exact ⟨of_decide_eq_true hinvoice, hext⟩
  · rintro ⟨hinvoice, hext⟩
    exact ⟨row, List.mem_filter.mpr ⟨h, decide_eq_true hinvoice⟩, rfl, hext⟩

/-- **What a notification does**, to the whole database. -/
theorem settles_process (h : db.invoices.find? notification.invoiceId = some invoice) :
    Settles notification invoice db (process db notification) := by
  have hrewritten := rewritten_process h
  obtain ⟨hcatalog, hcarts, hfavorites, hitems, hdeliveries⟩ :=
    applyAll_status_frame (isStatus_statusWrites notification invoice invoice.status
      (paymentsOf db invoice)) (applyAll_process h)
  refine ⟨?_, ?_, ?_, hcatalog, hcarts, hfavorites, hitems, hdeliveries⟩
  · -- payments change row by row, invoices and orders if a payment was found
    rw [hrewritten.payments]
    exact List.map_congr_left fun row hrow => onPayment_paymentsOf hrow invoice.status
  · rw [hrewritten.invoices]
    refine List.map_congr_left ?_
    intro row _
    rw [onInvoice_statusWrites]
    simp only [settleInvoice, found_paymentsOf, decide_eq_true_iff]
  · rw [hrewritten.orders]
    refine List.map_congr_left ?_
    intro row _
    rw [onOrder_statusWrites]
    simp only [settleOrder, found_paymentsOf, decide_eq_true_iff]

end Process

/-! ### Two notifications -/

/-- The notification is for an invoice of the order. -/
def Concerns (db : Database) (notification : PaymentStatusNotification) (order : UUID) : Prop :=
  ∃ invoice, db.invoices.find? notification.invoiceId = some invoice ∧ invoice.orderId = order

/-- `order.invoices` -/
def invoicesOf (db : Database) (order : UUID) : List InvoiceORM :=
  db.invoices.rows.filter fun invoice => invoice.orderId = order

/-- An order has the same row, the same invoices and the same payments in both states. -/
structure SameOrder (order : UUID) (db db' : Database) : Prop where
  row : db'.orders.find? order = db.orders.find? order
  invoices : invoicesOf db' order = invoicesOf db order
  payments : ∀ invoice ∈ invoicesOf db order, paymentsOf db' invoice = paymentsOf db invoice

/-! Rows that are rewritten. -/

/-- Rewritings that commute on every row commute on the table. -/
theorem map_map_comm {α : Type} {f g : α → α} (h : ∀ a, g (f a) = f (g a)) (l : List α) :
    (l.map f).map g = (l.map g).map f := by
  rw [List.map_map, List.map_map]
  exact List.map_congr_left fun a _ => h a

/-- A selection is as it was if rewriting keeps what is selected by and the selected rows. -/
theorem filter_map_of_untouched {α : Type} {f : α → α} {p : α → Bool} {l : List α}
    (h_key : ∀ a, p (f a) = p a) (h : ∀ a ∈ l, p a = true → f a = a) :
    (l.map f).filter p = l.filter p := by
  have hcomp : p ∘ f = p := funext h_key
  rw [List.filter_map, hcomp]
  refine (List.map_congr_left fun a ha => ?_).trans (List.map_id' _)
  obtain ⟨hmem, hp⟩ := List.mem_filter.mp ha
  exact h a hmem hp

section Other

variable {db : Database} {notification : PaymentStatusNotification}

/-- **Other orders are left alone.** -/
theorem sameOrder_process {order : UUID} (h : ¬ Concerns db notification order) :
    SameOrder order db (process db notification) := by
  cases hfind : db.invoices.find? notification.invoiceId with
  | none =>
    rw [process_unknown hfind]
    exact ⟨rfl, rfl, fun _ _ => rfl⟩
  | some invoice =>
    have hsettles := settles_process hfind
    obtain ⟨hinvoice, hid⟩ := Table.find?_eq_some.mp hfind
    have horder : invoice.orderId ≠ order := fun heq => h ⟨invoice, hfind, heq⟩
    -- an invoice of the order is not the one that is named
    have hother : ∀ row ∈ db.invoices.rows, row.orderId = order → row.id ≠ invoice.id :=
      fun row hmem heq hrowid => horder (Table.eq_of_mem hmem hinvoice hrowid ▸ heq)
    refine ⟨?_, ?_, ?_⟩
    -- only the order of the invoice is accepted
    · refine (find?_order_process order).2 ?_
      rintro ⟨invoice', hfind', horder', -⟩
      exact h ⟨invoice', hfind', horder'⟩
    · unfold invoicesOf
      rw [hsettles.invoices]
      refine filter_map_of_untouched (fun row => ?_) fun row hmem heq => ?_
      · rw [orderId_settleInvoice]
      · exact if_neg fun hboth => hother row hmem (of_decide_eq_true heq) hboth.1
    · intro other hmem
      obtain ⟨hmem, heq⟩ := List.mem_filter.mp hmem
      unfold paymentsOf
      rw [hsettles.payments]
      refine filter_map_of_untouched (fun row => ?_) fun row _ hrow => ?_
      · rw [invoiceId_settlePayment]
      -- a payment of another invoice is not turned, whatever its id at the bank
      · refine if_neg fun hboth => hother other hmem (of_decide_eq_true heq) ?_
        exact (of_decide_eq_true hrow).symm.trans hboth.1

end Other

section Both

variable {db : Database} {n₁ n₂ : PaymentStatusNotification} {i₁ i₂ : InvoiceORM}

theorem settlePayment_comm (h : i₁.id ≠ i₂.id) (row : PaymentORM) :
    settlePayment n₂ i₂ (settlePayment n₁ i₁ row) =
      settlePayment n₁ i₁ (settlePayment n₂ i₂ row) := by
  unfold settlePayment
  grind

theorem settleInvoice_comm (h : i₁.id ≠ i₂.id) (b₁ b₂ : Bool) (row : InvoiceORM) :
    settleInvoice n₂ i₂ b₂ (settleInvoice n₁ i₁ b₁ row) =
      settleInvoice n₁ i₁ b₁ (settleInvoice n₂ i₂ b₂ row) := by
  unfold settleInvoice
  grind

theorem settleOrder_comm (b₁ b₂ : Bool) (row : OrderORM) :
    settleOrder n₂ i₂ b₂ (settleOrder n₁ i₁ b₁ row) =
      settleOrder n₁ i₁ b₁ (settleOrder n₂ i₂ b₂ row) := by
  unfold settleOrder
  grind

/-- A notification for another invoice does not change what the second one finds. -/
theorem find?_process_other (h : n₁.invoiceId ≠ n₂.invoiceId) :
    (process db n₁).invoices.find? n₂.invoiceId = db.invoices.find? n₂.invoiceId :=
  (find?_invoice_process n₂.invoiceId).2 fun hhits => h hhits.1

/-- Two notifications for different invoices can be processed either way round. -/
theorem process_comm_of_ne (h : n₁.invoiceId ≠ n₂.invoiceId) :
    process (process db n₁) n₂ = process (process db n₂) n₁ := by
  have h₁₂ : (process db n₁).invoices.find? n₂.invoiceId = db.invoices.find? n₂.invoiceId :=
    find?_process_other h
  have h₂₁ : (process db n₂).invoices.find? n₁.invoiceId = db.invoices.find? n₁.invoiceId :=
    find?_process_other h.symm
  cases hi₁ : db.invoices.find? n₁.invoiceId with
  -- an unknown invoice does nothing, before or after the other notification
  | none => rw [process_unknown hi₁, process_unknown (h₂₁.trans hi₁)]
  | some i₁ =>
    cases hi₂ : db.invoices.find? n₂.invoiceId with
    | none => rw [process_unknown hi₂, process_unknown (h₁₂.trans hi₂)]
    | some i₂ =>
      have hne : i₁.id ≠ i₂.id := by
        rw [(Table.find?_eq_some.mp hi₁).2, (Table.find?_eq_some.mp hi₂).2]
        exact h
      -- each is settled the same on what the other one leaves
      have hs₁ := settles_process hi₁
      have hs₂ := settles_process hi₂
      have hs₁₂ := settles_process (h₁₂.trans hi₂)
      have hs₂₁ := settles_process (h₂₁.trans hi₁)
      -- table by table: the three that change do so by commuting maps
      refine Database.ext ?_ ?_ ?_ ?_ ?_ ?_ ?_ ?_
      · rw [hs₁₂.catalog, hs₁.catalog, hs₂₁.catalog, hs₂.catalog]
      · rw [hs₁₂.carts, hs₁.carts, hs₂₁.carts, hs₂.carts]
      · rw [hs₁₂.favorites, hs₁.favorites, hs₂₁.favorites, hs₂.favorites]
      · refine Table.ext ?_
        rw [hs₁₂.orders, hs₁.orders, hs₂₁.orders, hs₂.orders]
        simp only [registered_process]
        exact map_map_comm (settleOrder_comm _ _) _
      · rw [hs₁₂.orderItems, hs₁.orderItems, hs₂₁.orderItems, hs₂.orderItems]
      · rw [hs₁₂.deliveries, hs₁.deliveries, hs₂₁.deliveries, hs₂.deliveries]
      · refine Table.ext ?_
        rw [hs₁₂.invoices, hs₁.invoices, hs₂₁.invoices, hs₂.invoices]
        simp only [registered_process]
        exact map_map_comm (settleInvoice_comm hne _ _) _
      · refine Table.ext ?_
        rw [hs₁₂.payments, hs₁.payments, hs₂₁.payments, hs₂.payments]
        exact map_map_comm (settlePayment_comm hne) _

/-- **Notifications of different orders are independent.** Either way round they leave the
same state, neither touches the order of the other, and each changes nothing but the statuses
it settles; one for an unknown invoice fails and changes nothing. -/
theorem notifications_independent (h : ∀ order, Concerns db n₁ order → ¬ Concerns db n₂ order) :
    process (process db n₁) n₂ = process (process db n₂) n₁ ∧
    (∀ order, Concerns db n₂ order → SameOrder order db (process db n₁)) ∧
    (∀ order, Concerns db n₁ order → SameOrder order db (process db n₂)) ∧
    ∀ n, n = n₁ ∨ n = n₂ →
      (db.invoices.find? n.invoiceId = none →
        serve db n = .error .attributeError (Ctx.start db ()) ∧ process db n = db) ∧
      ∀ invoice, db.invoices.find? n.invoiceId = some invoice →
        Settles n invoice db (process db n) := by
  refine ⟨?_, ?_, ?_, ?_⟩
  · by_cases heq : n₁.invoiceId = n₂.invoiceId
    -- the same invoice: it is not there, as it would be of one order
    · have hnone : db.invoices.find? n₁.invoiceId = none := by
        cases hfind : db.invoices.find? n₁.invoiceId with
        | none => rfl
        | some invoice => exact (h _ ⟨invoice, hfind, rfl⟩ ⟨invoice, heq ▸ hfind, rfl⟩).elim
      have hnone' : db.invoices.find? n₂.invoiceId = none := heq ▸ hnone
      rw [process_unknown hnone, process_unknown hnone', process_unknown hnone]
    · exact process_comm_of_ne heq
  · exact fun order h₂ => sameOrder_process fun h₁ => h order h₁ h₂
  · exact fun order h₁ => sameOrder_process (h order h₁)
  · exact fun n _ =>
      ⟨fun hnone => ⟨serve_unknown hnone, process_unknown hnone⟩, fun _ => settles_process⟩

end Both

/-- Two orders with one invoice each; the bank has numbered their payments alike. -/
def twoOrdersDatabase : Database :=
  { sampleDatabase with
    orders := ⟨[⟨11, 5, none, none, .unpaid, 0⟩, ⟨21, 6, none, none, .unpaid, 0⟩], by decide⟩
    invoices := ⟨[⟨13, 11, none, none, "", .initial, 100, .unpaid⟩,
      ⟨23, 21, none, none, "", .initial, 200, .unpaid⟩], by decide⟩
    payments := ⟨[⟨14, 0, 13, "url", "NEW", 7⟩, ⟨24, 0, 23, "url", "NEW", 7⟩], by decide⟩ }

/-- One order is paid for, the payment of the other is authorized. -/
theorem notifications_independent_sample :
    process (process twoOrdersDatabase ⟨13, 7, "CONFIRMED"⟩) ⟨23, 7, "AUTHORIZED"⟩ =
      process (process twoOrdersDatabase ⟨23, 7, "AUTHORIZED"⟩) ⟨13, 7, "CONFIRMED"⟩ := by
  refine (notifications_independent ?_).1
  rintro order ⟨invoice, hfind, rfl⟩ ⟨invoice', hfind', horder⟩
  cases hfind
  cases hfind'
  exact absurd horder (by decide)

end Storefront
