import Storefront.Library.Updates
import Storefront.Order.Independence
import Storefront.Order.Settlement

/-!
# What any deliveries of notifications leave

The bank delivers a notification until it is answered, so notifications arrive more than
once, late, and in any order, and anybody may send one that does not verify. Here is what a
run of requests to `notification_handler` leaves of the database, in closed form.

* `settledBy_run` — every payment has the last status reported for it, every invoice the last
  one that `PAYMENT_TO_INVOICE_STATUS_MAPPING` knows, an order is ACCEPTED if one of its
  INITIAL invoices has been PAID at a report, nothing else has changed; delivering all of it
  once more, in the same order, changes nothing;
* `run_of_sameByKey` — only the order of the verified notifications of one invoice matters:
  all interleavings of them, with anything that does not verify in between, leave the same
  database.
-/

namespace Storefront

variable {hash : HexDigest} {password : String}

/-- The notifications that verify, as they are processed. -/
def verified (hash : HexDigest) (password : String)
    (notifications : List Tinkoff.PaymentStatusNotification) : List PaymentStatusNotification :=
  (notifications.filter fun n => n.verify hash password = .ok true).map
    Tinkoff.PaymentStatusNotification.toPaymentStatusNotification

section Verified

variable {db db' : Database} {notifications : List Tinkoff.PaymentStatusNotification}

theorem foldl_deliver : notifications.foldl (deliver hash password) db =
    (verified hash password notifications).foldl process db := by
  induction notifications generalizing db with
  | nil => rfl
  | cons n ns ih =>
    rw [List.foldl_cons, ih]
    unfold verified
    by_cases hverify : n.verify hash password = .ok true
    · rw [deliver_verified hverify, List.filter_cons_of_pos (by simpa using hverify)]
      rfl
    · rw [deliver_refused hverify, List.filter_cons_of_neg (by simpa using hverify)]

/-- A run of requests processes the notifications that verify, one after the other. -/
theorem run_delivered_iff : Run (Delivered hash password) db notifications db' ↔
    db' = (verified hash password notifications).foldl process db :=
  run_iff_foldl.trans (by rw [foldl_deliver])

end Verified

/-! ### The statuses after a run -/

section Settled

variable (db : Database) (ns : List PaymentStatusNotification)

/-- What notifications make of a payment. -/
def reportedPayment (row : PaymentORM) : PaymentORM :=
  { row with
    status := lastWrite (fun n => if n.invoiceId = row.invoiceId ∧ n.paymentId = row.externalId ∧
      (db.invoices.find? n.invoiceId).isSome then some n.status else none) row.status ns }

/-- The status a notification writes to an invoice. -/
def reportedStatus (invoice : UUID) (n : PaymentStatusNotification) : Option InvoiceStatus :=
  if Hits db n invoice then paymentToInvoiceStatus n.status else none

/-- What notifications make of an invoice. -/
def reportedInvoice (row : InvoiceORM) : InvoiceORM :=
  { row with status := lastWrite (reportedStatus db row.id) row.status ns }

/-- The INITIAL invoice has been PAID at one of the notifications that hit it: one confirmed
it, or it was PAID before and the first of them was not an authorization. -/
def PaidAtReport (row : InvoiceORM) : Prop :=
  row.type = .initial ∧ (Confirmed db row.id ns ∨
    (row.status = .paid ∧ ∃ n, (ns.filter fun n => Hits db n row.id).head? = some n ∧
      n.status ≠ "AUTHORIZED"))

instance (row : InvoiceORM) : Decidable (PaidAtReport db ns row) := by
  unfold PaidAtReport
  have : Decidable (∃ n, (ns.filter fun n => Hits db n row.id).head? = some n ∧
      n.status ≠ "AUTHORIZED") :=
    decidable_of_iff (∃ n ∈ (ns.filter fun n => Hits db n row.id).head?,
      n.status ≠ "AUTHORIZED") Iff.rfl
  infer_instance

/-- What notifications make of an order. -/
def reportedOrder (row : OrderORM) : OrderORM :=
  if ∃ invoice ∈ db.invoices.rows, invoice.orderId = row.id ∧ PaidAtReport db ns invoice then
    { row with status := .accepted }
  else row

/-- `db'` is `db` after the notifications. -/
structure SettledBy (db' : Database) : Prop where
  payments : db'.payments.rows = db.payments.rows.map (reportedPayment db ns)
  invoices : db'.invoices.rows = db.invoices.rows.map (reportedInvoice db ns)
  orders : db'.orders.rows = db.orders.rows.map (reportedOrder db ns)
  catalog : db'.catalog = db.catalog
  carts : db'.carts = db.carts
  favorites : db'.favorites = db.favorites
  orderItems : db'.orderItems = db.orderItems
  deliveries : db'.deliveries = db.deliveries

end Settled

/-! ### One more notification -/

section Concat

variable {db : Database} {ns : List PaymentStatusNotification} {n : PaymentStatusNotification}

theorem reportedPayment_concat (row : PaymentORM) :
    reportedPayment db (ns ++ [n]) row =
      if n.invoiceId = row.invoiceId ∧ n.paymentId = row.externalId ∧
          (db.invoices.find? n.invoiceId).isSome then
        { reportedPayment db ns row with status := n.status }
      else reportedPayment db ns row := by
  unfold reportedPayment
  rw [lastWrite_concat]
  split <;> rfl

theorem reportedInvoice_concat (row : InvoiceORM) :
    reportedInvoice db (ns ++ [n]) row =
      if Hits db n row.id then
        { reportedInvoice db ns row with
          status := newInvoiceStatus n (reportedInvoice db ns row).status }
      else reportedInvoice db ns row := by
  unfold reportedInvoice newInvoiceStatus
  rw [lastWrite_concat]
  unfold reportedStatus
  split <;> rfl

theorem confirmed_concat (invoice : UUID) :
    Confirmed db invoice (ns ++ [n]) ↔
      Confirmed db invoice ns ∨ (n.status = "CONFIRMED" ∧ Hits db n invoice) := by
  unfold Confirmed
  simp only [List.mem_append, List.mem_singleton, or_and_right, exists_or, exists_eq_left]

/-- Why an invoice is PAID after notifications: one of them confirmed it, or it was PAID and
none that hit it was an authorization. -/
theorem status_reportedInvoice_eq_paid {row : InvoiceORM}
    (h : (reportedInvoice db ns row).status = .paid) :
    Confirmed db row.id ns ∨
      (row.status = .paid ∧ ∀ m ∈ ns, Hits db m row.id → m.status ≠ "AUTHORIZED") := by
  have hstatus : lastWrite (reportedStatus db row.id) row.status ns = .paid := h
  rcases lastWrite_cases (reportedStatus db row.id) row.status ns with
    ⟨hnone, hkept⟩ | ⟨m, hm, hwrite⟩
  · right
    refine ⟨hkept.symm.trans hstatus, fun m hm hhit hauth => ?_⟩
    -- an authorization would have written WAITING
    have hwaiting : reportedStatus db row.id m = some .waiting := by
      unfold reportedStatus
      rw [if_pos hhit, hauth]
      rfl
    rw [hnone m hm] at hwaiting
    cases hwaiting
  · left
    have hpaid : reportedStatus db row.id m = some .paid := hwrite.trans (congrArg some hstatus)
    unfold reportedStatus at hpaid
    split at hpaid
    · next hhit =>
      -- PAID is what CONFIRMED is mapped to
      have hconf : m.status = "CONFIRMED" := by
        have hnew : newInvoiceStatus m .unpaid = .paid := by
          unfold newInvoiceStatus
          rw [hpaid]
          rfl
        exact (newInvoiceStatus_eq_paid.mp hnew).resolve_right fun hor => nomatch hor.1
      exact ⟨m, hm, hconf, hhit⟩
    · cases hpaid

/-- One more notification finds the INITIAL invoice paid, or one before it did. -/
theorem paidAtReport_concat (row : InvoiceORM) :
    PaidAtReport db (ns ++ [n]) row ↔
      PaidAtReport db ns row ∨ (row.type = .initial ∧ Hits db n row.id ∧
        newInvoiceStatus n (reportedInvoice db ns row).status = .paid) := by
  -- the first that hits the invoice stays the first, unless there was none
  have hhead : ((ns ++ [n]).filter fun n => Hits db n row.id).head? =
      (ns.filter fun n => Hits db n row.id).head?.or
        (if Hits db n row.id then some n else none) := by
    rw [List.filter_append, List.head?_append]
    by_cases hhit : Hits db n row.id <;> simp [hhit]
  unfold PaidAtReport
  rw [← and_or_left, hhead, confirmed_concat, newInvoiceStatus_eq_paid]
  refine and_congr_right fun _ => ⟨?_, ?_⟩
  · -- by what has paid the invoice: a CONFIRMED, or the first AUTHORIZED
    rintro ((hconf | ⟨hstatus, hhit⟩) | ⟨hpaid, m, hm, hauth⟩)
    · exact .inl (.inl hconf)
    · exact .inr ⟨hhit, .inl hstatus⟩
    · cases hfirst : (ns.filter fun n => Hits db n row.id).head? with
      | some m' =>
        rw [hfirst, Option.some_or] at hm
        cases hm
        exact .inl (.inr ⟨hpaid, m, rfl, hauth⟩)
      | none =>
        -- it is the first that hits the invoice, which is as it was
        rw [hfirst, Option.none_or] at hm
        have hnil := List.head?_eq_none_iff.mp hfirst
        have hkept : (reportedInvoice db ns row).status = row.status := by
          refine (lastWrite_cases (reportedStatus db row.id) row.status ns).elim (·.2) ?_
          rintro ⟨a, ha, hwrite⟩
          have hmiss := List.filter_eq_nil_iff.mp hnil a ha
          unfold reportedStatus at hwrite
          rw [if_neg (by simpa using hmiss)] at hwrite
          cases hwrite
        split at hm
        · next hhit =>
          cases hm
          exact .inr ⟨hhit, .inr ⟨hkept.trans hpaid, hauth⟩⟩
        · cases hm
  · rintro ((hconf | ⟨hpaid, m, hm, hauth⟩) | ⟨hhit, hstatus | ⟨hpaid, hauth⟩⟩)
    · exact .inl (.inl hconf)
    · exact .inr ⟨hpaid, m, by rw [hm, Option.some_or], hauth⟩
    · exact .inl (.inr ⟨hstatus, hhit⟩)
    · rcases status_reportedInvoice_eq_paid hpaid with hconf | ⟨hbefore, hall⟩
      · exact .inl (.inl hconf)
      · right
        refine ⟨hbefore, ?_⟩
        cases hfirst : (ns.filter fun n => Hits db n row.id).head? with
        | some m =>
          have hmem := List.mem_filter.mp (List.mem_of_head? hfirst)
          exact ⟨m, rfl, hall m hmem.1 (of_decide_eq_true hmem.2)⟩
        | none => exact ⟨n, by rw [Option.none_or, if_pos hhit], hauth⟩

end Concat

/-! ### Any notifications -/

section Run

variable {db db' db'' : Database} {ns : List PaymentStatusNotification}

theorem SettledBy.nil (db : Database) : SettledBy db [] db where
  payments := (List.map_id' _).symm
  invoices := (List.map_id' _).symm
  orders := by
    have hnone : ∀ row : OrderORM, reportedOrder db [] row = row := by
      intro row
      refine if_neg ?_
      rintro ⟨invoice, -, -, -, ⟨n, hn, -⟩ | ⟨-, n, hn, -⟩⟩
      · exact absurd hn List.not_mem_nil
      · cases hn
    exact ((List.map_congr_left fun row _ => hnone row).trans (List.map_id' _)).symm
  catalog := rfl
  carts := rfl
  favorites := rfl
  orderItems := rfl
  deliveries := rfl

/-- Payments are registered where they were. -/
theorem SettledBy.registered (h : SettledBy db ns db') (i : UUID) (paymentId : Int) :
    Registered db' i paymentId ↔ Registered db i paymentId := by
  unfold Registered
  rw [h.payments]
  simp only [List.mem_map, exists_exists_and_eq_and]
  rfl

theorem SettledBy.find?_invoice (h : SettledBy db ns db') (i : UUID) :
    db'.invoices.find? i = (db.invoices.find? i).map (reportedInvoice db ns) :=
  Table.find?_of_rows_map h.invoices (fun _ => rfl) i

/-- **One more notification.** -/
theorem SettledBy.process (h : SettledBy db ns db') (n : PaymentStatusNotification) :
    SettledBy db (ns ++ [n]) (Storefront.process db' n) := by
  have hfind := h.find?_invoice n.invoiceId
  cases hold : db.invoices.find? n.invoiceId with
  | none =>
    -- an unknown invoice: nothing happens, and nothing is reported
    rw [hold, Option.map_none] at hfind
    rw [process_unknown hfind]
    have hmiss : ∀ row ∈ db.invoices.rows, ¬ Hits db n row.id := by
      intro row hrow hhit
      have hsome := Table.find?_of_mem hrow
      rw [← hhit.1, hold] at hsome
      cases hsome
    -- the closed form does not change either, table by table
    refine ⟨?_, ?_, ?_, h.catalog, h.carts, h.favorites, h.orderItems, h.deliveries⟩
    · rw [h.payments]
      refine List.map_congr_left fun row _ => ?_
      rw [reportedPayment_concat, if_neg]
      rintro ⟨-, -, hsome⟩
      rw [hold] at hsome
      cases hsome
    · rw [h.invoices]
      refine List.map_congr_left fun row hrow => ?_
      rw [reportedInvoice_concat, if_neg (hmiss row hrow)]
    · rw [h.orders]
      refine List.map_congr_left fun row _ => ?_
      unfold reportedOrder
      refine if_congr (exists_congr fun invoice => ?_) rfl rfl
      refine and_congr_right fun hinvoice => and_congr_right fun _ => ?_
      rw [paidAtReport_concat]
      exact (or_iff_left fun hnew => hmiss invoice hinvoice hnew.2.1).symm
  | some invoice =>
    rw [hold, Option.map_some] at hfind
    obtain ⟨hmem, hid⟩ := Table.find?_eq_some.mp hold
    -- what one notification does, on top of what the ones before it did
    have hs := settles_process hfind
    have hreg := h.registered invoice.id n.paymentId
    -- the invoice it names is the one it may hit
    have hhit : ∀ row : InvoiceORM, Hits db n row.id ↔
        row.id = invoice.id ∧ Registered db invoice.id n.paymentId := by
      intro row
      unfold Hits
      rw [← hid]
      refine ⟨?_, ?_⟩
      · rintro ⟨heq, hrow⟩
        exact ⟨heq.symm, heq ▸ hrow⟩
      · rintro ⟨heq, hrow⟩
        exact ⟨heq.symm, heq ▸ hrow⟩
    refine ⟨?_, ?_, ?_, hs.catalog.trans h.catalog, hs.carts.trans h.carts,
      hs.favorites.trans h.favorites, hs.orderItems.trans h.orderItems,
      hs.deliveries.trans h.deliveries⟩
    · rw [hs.payments, h.payments, List.map_map]
      refine List.map_congr_left fun row _ => ?_
      rw [reportedPayment_concat]
      refine if_congr ?_ rfl rfl
      rw [hold, ← hid]
      simp only [Option.isSome_some, and_true]
      exact and_congr eq_comm eq_comm
    · rw [hs.invoices, h.invoices, List.map_map]
      refine List.map_congr_left fun row _ => ?_
      rw [reportedInvoice_concat]
      refine if_congr ?_ rfl rfl
      rw [hhit row, decide_eq_true_iff]
      exact and_congr_right fun _ => hreg
    · rw [hs.orders, h.orders, List.map_map]
      refine List.map_congr_left fun row _ => ?_
      -- the order was accepted before, or is by this one
      have haccept : (∃ i ∈ db.invoices.rows, i.orderId = row.id ∧
          PaidAtReport db (ns ++ [n]) i) ↔
          (∃ i ∈ db.invoices.rows, i.orderId = row.id ∧ PaidAtReport db ns i) ∨
          (row.id = invoice.orderId ∧ Registered db invoice.id n.paymentId ∧
            invoice.type = .initial ∧
            newInvoiceStatus n (reportedInvoice db ns invoice).status = .paid) := by
        simp only [paidAtReport_concat, hhit]
        refine ⟨?_, ?_⟩
        · rintro ⟨i, hi, horder, hpaid | ⟨htype, ⟨hsame, hreg'⟩, hpaid⟩⟩
          · exact .inl ⟨i, hi, horder, hpaid⟩
          · obtain rfl := Table.eq_of_mem hi hmem hsame
            exact .inr ⟨horder.symm, hreg', htype, hpaid⟩
        · rintro (⟨i, hi, horder, hpaid⟩ | ⟨horder, hreg', htype, hpaid⟩)
          · exact ⟨i, hi, horder, .inl hpaid⟩
          · exact ⟨invoice, hmem, horder.symm, .inr ⟨htype, ⟨rfl, hreg'⟩, hpaid⟩⟩
      have hkept : (reportedOrder db ns row).id = row.id := by
        unfold reportedOrder
        split <;> rfl
      show settleOrder n (reportedInvoice db ns invoice) _ (reportedOrder db ns row) = _
      unfold settleOrder
      simp only [hkept, decide_eq_true_iff]
      unfold reportedOrder
      simp only [haccept]
      -- once accepted, an order is written ACCEPTED again
      by_cases hbefore : ∃ i ∈ db.invoices.rows, i.orderId = row.id ∧ PaidAtReport db ns i
      · simp only [hbefore, true_or, if_true, ite_self]
      · simp only [hbefore, false_or, if_false]
        refine if_congr ?_ rfl rfl
        exact and_congr_right fun _ => and_congr_left fun _ => hreg

theorem settledBy_foldl (db : Database) (ns : List PaymentStatusNotification) :
    SettledBy db ns (ns.foldl Storefront.process db) := by
  induction ns using List.reverseRecOn with
  | nil => exact .nil db
  | append_singleton ns n ih =>
    rw [List.foldl_concat]
    exact ih.process n

/-- The notifications determine the database. -/
theorem SettledBy.unique (h : SettledBy db ns db') (h' : SettledBy db ns db'') : db'' = db' :=
  Database.ext (h'.catalog.trans h.catalog.symm) (h'.carts.trans h.carts.symm)
    (h'.favorites.trans h.favorites.symm) (Table.ext (h'.orders.trans h.orders.symm))
    (h'.orderItems.trans h.orderItems.symm) (h'.deliveries.trans h.deliveries.symm)
    (Table.ext (h'.invoices.trans h.invoices.symm))
    (Table.ext (h'.payments.trans h.payments.symm))

/-- Reports read twice, in the same order, report the same. -/
theorem SettledBy.of_append_self (h : SettledBy db (ns ++ ns) db') : SettledBy db ns db' where
  payments := by
    -- the last write of a list and of the list twice is the same
    rw [h.payments]
    refine List.map_congr_left fun row _ => ?_
    unfold reportedPayment
    rw [lastWrite_append_self]
  invoices := by
    rw [h.invoices]
    refine List.map_congr_left fun row _ => ?_
    unfold reportedInvoice
    rw [lastWrite_append_self]
  orders := by
    rw [h.orders]
    refine List.map_congr_left fun row _ => ?_
    -- and so is the first notification that hits the invoice
    have hpaid : ∀ invoice, PaidAtReport db (ns ++ ns) invoice ↔ PaidAtReport db ns invoice := by
      intro invoice
      unfold PaidAtReport Confirmed
      simp only [List.mem_append, or_self, List.filter_append, List.head?_append, Option.or_self]
    unfold reportedOrder
    simp only [hpaid]
  catalog := h.catalog
  carts := h.carts
  favorites := h.favorites
  orderItems := h.orderItems
  deliveries := h.deliveries

end Run

/-! ### Requests -/

section Requests

variable {db db' : Database} {notifications notifications' : List Tinkoff.PaymentStatusNotification}

/-- **What a run of requests leaves**, and that the same requests once more change nothing. -/
theorem settledBy_run (h : Run (Delivered hash password) db notifications db') :
    SettledBy db (verified hash password notifications) db' ∧
      ∀ db'', Run (Delivered hash password) db' notifications db'' → db'' = db' := by
  have hsettled : SettledBy db (verified hash password notifications) db' := by
    rw [run_delivered_iff.mp h]
    exact settledBy_foldl db _
  refine ⟨hsettled, fun db'' hagain => hsettled.unique ?_⟩
  -- both runs are one run through the list twice
  have htwice : db'' = (verified hash password notifications ++
      verified hash password notifications).foldl process db := by
    rw [List.foldl_append, ← run_delivered_iff.mp h]
    exact run_delivered_iff.mp hagain
  refine SettledBy.of_append_self ?_
  rw [htwice]
  exact settledBy_foldl db _

/-- **Only the order within an invoice matters.** Runs that verify the same notifications of
each invoice, in the same order, lead to the same database. -/
theorem run_of_sameByKey (h : SameByKey PaymentStatusNotification.invoiceId
      (verified hash password notifications) (verified hash password notifications')) :
    Run (Delivered hash password) db notifications db' ↔
      Run (Delivered hash password) db notifications' db' := by
  rw [run_delivered_iff, run_delivered_iff,
    h.foldl_eq (fun _ _ _ hne => process_comm_of_ne hne) db]

end Requests

/-- The confirmation of the sample, and that of a payment of another order. -/
def confirmation : Tinkoff.PaymentStatusNotification :=
  Tinkoff.sampleNotification (some Tinkoff.sampleToken)

def otherConfirmation (token : Option String) : Tinkoff.PaymentStatusNotification :=
  { Tinkoff.sampleNotification token with invoiceId := 23 }

/-- Its token. -/
def otherToken : String := codePoints ((otherConfirmation none).tokenText "password")

theorem verify_confirmation : confirmation.verify codePointDigest "password" = .ok true :=
  Tinkoff.verify_of_token_eq rfl

theorem verify_otherConfirmation :
    (otherConfirmation (some otherToken)).verify codePointDigest "password" = .ok true :=
  Tinkoff.verify_of_token_eq rfl

/-- A notification without a token does not verify. -/
theorem verify_otherConfirmation_none :
    (otherConfirmation none).verify codePointDigest "password" ≠ .ok true := nofun

/-- Of a confirmation, a notification without a token and the confirmation again, two are
processed. -/
theorem settledBy_run_sample :
    ∃ db, Run (Delivered codePointDigest "password") unpaidOrderDatabase
        [confirmation, otherConfirmation none, confirmation] db ∧
      SettledBy unpaidOrderDatabase [⟨13, 7, "CONFIRMED"⟩, ⟨13, 7, "CONFIRMED"⟩] db := by
  have hrun : Run (Delivered codePointDigest "password") unpaidOrderDatabase
      [confirmation, otherConfirmation none, confirmation] _ :=
    .cons rfl (.cons rfl (.cons rfl (.nil _)))
  -- the unsigned notification is dropped, and the confirmation counts twice
  have hverified : verified codePointDigest "password"
      [confirmation, otherConfirmation none, confirmation] =
        [⟨13, 7, "CONFIRMED"⟩, ⟨13, 7, "CONFIRMED"⟩] := by
    unfold verified
    rw [List.filter_cons_of_pos (by simpa using verify_confirmation),
      List.filter_cons_of_neg (by simpa using verify_otherConfirmation_none),
      List.filter_cons_of_pos (by simpa using verify_confirmation)]
    rfl
  refine ⟨_, hrun, ?_⟩
  rw [← hverified]
  exact (settledBy_run hrun).1

/-- The payments of two orders are confirmed either way round. -/
theorem run_of_sameByKey_sample :
    let ns := [confirmation, otherConfirmation (some otherToken)]
    let ns' := [otherConfirmation (some otherToken), otherConfirmation none, confirmation]
    Run (Delivered codePointDigest "password") twoOrdersDatabase ns'
      (ns.foldl (deliver codePointDigest "password") twoOrdersDatabase) := by
  intro ns ns'
  -- the unsigned one is dropped, and the other two change places
  have hns : verified codePointDigest "password" ns =
      [⟨13, 7, "CONFIRMED"⟩, ⟨23, 7, "CONFIRMED"⟩] := by
    unfold verified
    rw [List.filter_cons_of_pos (by simpa using verify_confirmation),
      List.filter_cons_of_pos (by simpa using verify_otherConfirmation)]
    rfl
  have hns' : verified codePointDigest "password" ns' =
      [⟨23, 7, "CONFIRMED"⟩, ⟨13, 7, "CONFIRMED"⟩] := by
    unfold verified
    rw [List.filter_cons_of_pos (by simpa using verify_otherConfirmation),
      List.filter_cons_of_neg (by simpa using verify_otherConfirmation_none),
      List.filter_cons_of_pos (by simpa using verify_confirmation)]
    rfl
  have hsame : SameByKey PaymentStatusNotification.invoiceId
      (verified codePointDigest "password" ns) (verified codePointDigest "password" ns') := by
    rw [hns, hns']
    intro k
    -- one notification for each of two invoices
    by_cases h₁ : (13 : UUID) = k
    · subst h₁
      rfl
    · simp [List.filter_cons, h₁]
  exact (run_of_sameByKey hsame).mp (run_iff_foldl.mpr rfl)

end Storefront
