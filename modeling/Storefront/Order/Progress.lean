import Storefront.Order.UserOrder

/-!
# The progress of instalments

What `OrderService.get_user_order` says of a line that is paid by instalments: the invoice to
be paid next, and the number of parts that have been paid. It takes the first UNPAID invoice of
the line for the next one, in the order in which they were loaded and past those that are
WAITING or CANCELED, and without an UNPAID invoice it counts the invoices, of which there is
none for part 0. All this is behind pydantic, which asks for pendulum's dates where the database
returns others: then there is nothing to show.

* `exists_orderView_iff` — the orders of which there is a view, in full;
* `reportsProgress_iff` — an order that can be shown reports the right progress of a line exactly
  when the first UNPAID invoice of the line bills the first of its parts that are not PAID;
* `paid_line_reported_as_open` — a line with every invoice PAID is one part short, or not shown.
-/

namespace Storefront

/-! ### The right progress -/

/-- A part of the credit plan of a line is paid: part 0 by the INITIAL invoice of the order, the
others by the CREDIT invoices of the line. -/
def PartPaid (order : LoadedOrder) (item : LoadedOrderItem) (part : Nat) : Prop :=
  if part = 0 then ∃ invoice ∈ order.invoices, invoice.type = .initial ∧ invoice.status = .paid
  else ∃ invoice ∈ item.invoices, invoice.creditPartIndex = some part ∧ invoice.status = .paid

/-- A line on credit: its item has a credit plan, part 0 of it is paid, and each of the others
has one invoice, in any order and of any status. -/
structure OnCredit (order : LoadedOrder) (item : LoadedOrderItem) (plan : CreditPlanORM) :
    Prop where
  line : item ∈ order.orderItems
  by_credit : item.row.byCredit = true
  plan_found : ∃ info, item.info = some info ∧ info.creditPlan = some plan
  parts_pos : 1 ≤ plan.parts.length
  initial_paid : ∃ invoice ∈ order.invoices, invoice.type = .initial ∧ invoice.status = .paid
  credit : ∀ invoice ∈ item.invoices, invoice.type = .credit
  parts : (item.invoices.map (·.creditPartIndex)).Perm
    ((List.range' 1 (plan.parts.length - 1)).map some)

/-- The invoice that is not PAID and bills the first part of those that are not. -/
structure IsNext (invoices : List InvoiceORM) (invoice : InvoiceORM) : Prop where
  mem : invoice ∈ invoices
  unpaid : invoice.status ≠ .paid
  first : ∀ other ∈ invoices, other.status ≠ .paid →
    ∀ part ∈ invoice.creditPartIndex, ∀ part' ∈ other.creditPartIndex, part ≤ part'

/-- How the next invoice is shown. -/
def nextInvoice (invoice : InvoiceORM) : Invoice where
  id := invoice.id
  creditPartIndex := invoice.creditPartIndex
  type := invoice.type
  amount := invoice.amount
  isPaid := false

/-- A credit shows the right progress. -/
structure ShowsProgress (order : LoadedOrder) (item : LoadedOrderItem) (plan : CreditPlanORM)
    (credit : Credit) : Prop where
  invoice : (∀ invoice ∈ item.invoices, invoice.status = .paid) ∧ credit.invoice = none ∨
    ∃ invoice, IsNext item.invoices invoice ∧ credit.invoice = some (nextInvoice invoice)
  paid_parts_le : credit.paidParts ≤ plan.parts.length
  paid_before : ∀ part < credit.paidParts, PartPaid order item part
  open_next : credit.paidParts < plan.parts.length → ¬ PartPaid order item credit.paidParts

/-- The order is returned, with the right progress of the line. -/
def ReportsProgress (P : OrderPydantic) (db : Database) (orderId userId : UUID)
    (order : LoadedOrder) (item : LoadedOrderItem) (plan : CreditPlanORM) : Prop :=
  ∃ view, (getUserOrder P orderId userId).run (Ctx.start db () : Ctx Database Write Unit) =
      .ok view (Ctx.start db ()) ∧
    ∃ shown credit, (item, shown) ∈ order.orderItems.zip view.items ∧
      shown.credit = some credit ∧ ShowsProgress order item plan credit

/-- The first UNPAID invoice is the next one. -/
def FirstUnpaidIsNext (invoices : List InvoiceORM) : Prop :=
  ∃ before invoice after, invoices = before ++ invoice :: after ∧ invoice.status = .unpaid ∧
    (∀ other ∈ before, other.status ≠ .unpaid) ∧ IsNext invoices invoice

/-! ### When there is a view -/

/-- What is shown of a delivery is there: the point and the recipient, and the link of a service
that has given a code. -/
structure DeliveryORM.Showable (delivery : DeliveryORM) : Prop where
  address_identifier : delivery.addressIdentifier.isSome
  recipient_name : delivery.recipientName.isSome
  recipient_phone : delivery.recipientPhone.isSome
  tracking : ∀ code ∈ delivery.trackCode, code ≠ "" →
    (deliveryTrackingLink delivery.service).isSome

/-- What is shown of a line is there: an image of its product, and, if it is on credit, a credit
plan whose deadlines pydantic accepts, and the part of the first UNPAID invoice. -/
structure LoadedOrderItem.Showable (P : OrderPydantic) (item : LoadedOrderItem) : Prop where
  image : ∃ info product, item.info = some info ∧ info.product = some product ∧
    ∃ att ∈ product.attachments, att.type = .image
  credit : item.row.byCredit → HasPayments P item ∧
    ∀ invoice, firstUnpaidInvoice item = some invoice → invoice.creditPartIndex.isSome

/-- What is shown of an order is there, and pydantic accepts the time it was created at. -/
structure LoadedOrder.Showable (P : OrderPydantic) (order : LoadedOrder) : Prop where
  preorder : order.preorder.isSome ∧ order.row.preorderId.isSome
  lines : ∀ item ∈ order.orderItems, item.Showable P
  delivery : ∀ delivery ∈ order.delivery, delivery.Showable
  time : ∃ time, P.dateTime order.row.createdAt = .ok time

section Showable

variable {P : OrderPydantic}

theorem exists_orderItemView_iff_showable {item : LoadedOrderItem} :
    (∃ view, orderItemView P item = .ok view) ↔ item.Showable P := by
  rw [exists_orderItemView, exists_creditView]
  exact ⟨fun h => ⟨h.2, h.1⟩, fun h => ⟨h.credit, h.image⟩⟩

theorem exists_deliveryView_iff {delivery : DeliveryORM} :
    (∃ view, deliveryView delivery = .ok view) ↔ delivery.addressIdentifier.isSome ∧
      delivery.recipientName.isSome ∧ delivery.recipientPhone.isSome := by
  unfold deliveryView
  simp only [except_bind_eq_ok, required_eq_ok, Option.isSome_iff_exists]
  refine ⟨?_, ?_⟩
  · rintro ⟨view, code, hcode, name, hname, phone, hphone, -⟩
    exact ⟨⟨code, hcode⟩, ⟨name, hname⟩, ⟨phone, hphone⟩⟩
  · rintro ⟨⟨code, hcode⟩, ⟨name, hname⟩, ⟨phone, hphone⟩⟩
    exact ⟨_, code, hcode, name, hname, phone, hphone, rfl⟩

theorem exists_trackingView_iff {delivery : DeliveryORM} :
    (∃ tracking, trackingView delivery = .ok tracking) ↔
      ∀ code ∈ delivery.trackCode, code ≠ "" → (deliveryTrackingLink delivery.service).isSome := by
  unfold trackingView
  cases delivery.trackCode with
  | none => exact iff_of_true ⟨none, rfl⟩ nofun
  | some code =>
    simp only [Option.mem_def, Option.some.injEq, forall_eq']
    by_cases hempty : code = ""
    · rw [if_pos hempty]
      exact iff_of_true ⟨none, rfl⟩ fun hne => absurd hempty hne
    · rw [if_neg hempty]
      cases deliveryTrackingLink delivery.service with
      | none => exact iff_of_false nofun fun h => Bool.false_ne_true (h hempty)
      | some link => exact iff_of_true ⟨_, rfl⟩ fun _ => rfl

theorem exists_preorderView_iff {order : LoadedOrder} :
    (∃ view, preorderView order = .ok view) ↔
      order.preorder.isSome ∧ order.row.preorderId.isSome := by
  unfold preorderView
  simp only [except_bind_eq_ok, attributeOf_eq_ok, required_eq_ok, Option.isSome_iff_exists]
  refine ⟨?_, ?_⟩
  · rintro ⟨view, preorder, hpreorder, id, hid, -⟩
    exact ⟨⟨preorder, hpreorder⟩, id, hid⟩
  · rintro ⟨⟨preorder, hpreorder⟩, id, hid⟩
    exact ⟨_, preorder, hpreorder, id, hid, rfl⟩

/-- **The orders of which there is a view.** -/
theorem exists_orderView_iff {order : LoadedOrder} :
    (∃ view, orderView P order = .ok view) ↔ order.Showable P := by
  have hparts : (∃ view, orderView P order = .ok view) ↔
      (∀ item ∈ order.orderItems, item.Showable P) ∧
        (order.preorder.isSome ∧ order.row.preorderId.isSome) ∧
        (∀ d ∈ order.delivery, ∃ view, deliveryView d = .ok view) ∧
        (∀ d ∈ order.delivery, ∃ tracking, trackingView d = .ok tracking) ∧
        ∃ time, P.dateTime order.row.createdAt = .ok time := by
    -- each part is computed by a call of its own, and the view is put together from what these
    -- return
    simp only [← exists_orderItemView_iff_showable, ← exists_preorderView_iff,
      ← exists_mapM_eq_ok]
    simp only [← @exists_map_eq_ok _ _ _ (deliveryView _) some, ← exists_elim_eq_ok (b := none)]
    unfold orderView
    simp only [except_bind_eq_ok]
    refine ⟨?_, ?_⟩
    · rintro ⟨view, items, hitems, preorder, hpreorder, delivery, hdelivery, tracking, htracking,
        time, htime, -⟩
      exact ⟨⟨items, hitems⟩, ⟨preorder, hpreorder⟩, ⟨delivery, hdelivery⟩, ⟨tracking, htracking⟩,
        ⟨time, htime⟩⟩
    · rintro ⟨⟨items, hitems⟩, ⟨preorder, hpreorder⟩, ⟨delivery, hdelivery⟩,
        ⟨tracking, htracking⟩, ⟨time, htime⟩⟩
      exact ⟨_, items, hitems, preorder, hpreorder, delivery, hdelivery, tracking, htracking, time,
        htime, rfl⟩
  rw [hparts]
  simp only [exists_deliveryView_iff, exists_trackingView_iff]
  refine ⟨?_, ?_⟩
  · rintro ⟨hlines, hpreorder, hview, htracking, htime⟩
    refine ⟨hpreorder, hlines, fun d hd => ?_, htime⟩
    obtain ⟨haddress, hname, hphone⟩ := hview d hd
    exact ⟨haddress, hname, hphone, htracking d hd⟩
  · intro h
    refine ⟨h.lines, h.preorder, fun d hd => ?_, fun d hd => (h.delivery d hd).tracking, h.time⟩
    exact ⟨(h.delivery d hd).address_identifier, (h.delivery d hd).recipient_name,
      (h.delivery d hd).recipient_phone⟩

end Showable

/-! ### The invoices of a line on credit -/

section OnCredit

variable {P : OrderPydantic} {order : LoadedOrder} {item : LoadedOrderItem} {plan : CreditPlanORM}
  {credit : Credit}

/-- Every invoice bills a part, and not part 0. -/
theorem OnCredit.part_of_mem (h : OnCredit order item plan) {invoice : InvoiceORM}
    (h_mem : invoice ∈ item.invoices) :
    ∃ part, invoice.creditPartIndex = some part ∧ 1 ≤ part ∧ part < plan.parts.length := by
  have hpart := h.parts.mem_iff.mp (List.mem_map_of_mem (f := (·.creditPartIndex)) h_mem)
  obtain ⟨part, hrange, heq⟩ := List.mem_map.mp hpart
  rw [List.mem_range'_1] at hrange
  have hpos := h.parts_pos
  exact ⟨part, heq.symm, hrange.1, by omega⟩

/-- Every part but the first has an invoice. -/
theorem OnCredit.exists_invoice (h : OnCredit order item plan) {part : Nat} (h_pos : 1 ≤ part)
    (h_lt : part < plan.parts.length) :
    ∃ invoice ∈ item.invoices, invoice.creditPartIndex = some part := by
  have hrange : some part ∈ (List.range' 1 (plan.parts.length - 1)).map some := by
    refine List.mem_map_of_mem (List.mem_range'_1.mpr ⟨h_pos, ?_⟩)
    omega
  obtain ⟨invoice, hmem, hpart⟩ := List.mem_map.mp (h.parts.mem_iff.mpr hrange)
  exact ⟨invoice, hmem, hpart⟩

/-- And only one. -/
theorem OnCredit.eq_of_part (h : OnCredit order item plan) {invoice invoice' : InvoiceORM}
    (h_mem : invoice ∈ item.invoices) (h_mem' : invoice' ∈ item.invoices)
    (h_part : invoice.creditPartIndex = invoice'.creditPartIndex) : invoice = invoice' := by
  have hnodup : ((List.range' 1 (plan.parts.length - 1)).map some).Nodup :=
    (List.nodup_range' 1).map (Option.some_injective _)
  exact List.inj_on_of_nodup_map (h.parts.nodup_iff.mpr hnodup) h_mem h_mem' h_part

theorem OnCredit.length_invoices (h : OnCredit order item plan) :
    item.invoices.length + 1 = plan.parts.length := by
  have hlen := h.parts.length_eq
  rw [List.length_map, List.length_map, List.length_range'] at hlen
  have hpos := h.parts_pos
  omega

/-- A part is paid when its invoice is. -/
theorem OnCredit.partPaid_iff (h : OnCredit order item plan) {invoice : InvoiceORM}
    (h_mem : invoice ∈ item.invoices) {part : Nat} (h_part : invoice.creditPartIndex = some part) :
    PartPaid order item part ↔ invoice.status = .paid := by
  obtain ⟨part', hpart', hpos, -⟩ := h.part_of_mem h_mem
  obtain rfl : part = part' := Option.some.inj (h_part.symm.trans hpart')
  unfold PartPaid
  rw [if_neg (by omega)]
  refine ⟨?_, fun hpaid => ⟨invoice, h_mem, h_part, hpaid⟩⟩
  rintro ⟨invoice', hmem', hpart', hpaid⟩
  rw [h.eq_of_part h_mem hmem' (h_part.trans hpart'.symm)]
  exact hpaid

theorem OnCredit.partPaid_zero (h : OnCredit order item plan) : PartPaid order item 0 := by
  unfold PartPaid
  rw [if_pos rfl]
  exact h.initial_paid

/-! ### What a credit says -/

/-- The first UNPAID invoice is the first that is UNPAID, in the order of the list. -/
theorem firstUnpaidIsNext_iff :
    FirstUnpaidIsNext item.invoices ↔
      ∃ invoice, firstUnpaidInvoice item = some invoice ∧ IsNext item.invoices invoice := by
  unfold FirstUnpaidIsNext firstUnpaidInvoice
  simp only [List.head?_filter, List.find?_eq_some_iff_append, decide_eq_true_iff,
    Bool.not_eq_true', decide_eq_false_iff_not]
  refine ⟨?_, ?_⟩
  · rintro ⟨before, invoice, after, heq, hunpaid, hbefore, hnext⟩
    exact ⟨invoice, ⟨hunpaid, before, after, heq, hbefore⟩, hnext⟩
  · rintro ⟨invoice, ⟨hunpaid, before, after, heq, hbefore⟩, hnext⟩
    exact ⟨before, invoice, after, heq, hunpaid, hbefore, hnext⟩

/-- What a credit says of the invoices. -/
theorem creditView_eq_ok (h : creditView P item = .ok credit) :
    credit.invoice = (firstUnpaidInvoice item).map nextInvoice ∧
      (firstUnpaidInvoice item).elim (.ok item.invoices.length)
        (fun invoice => required invoice.creditPartIndex) = .ok credit.paidParts := by
  unfold creditView at h
  simp only [except_bind_eq_ok] at h
  obtain ⟨info, -, plan, -, payments, -, paidParts, hparts, hcredit⟩ := h
  cases hcredit
  exact ⟨rfl, hparts⟩

/-- The parts before one with an invoice are paid, if it is the next. -/
theorem OnCredit.partPaid_of_lt (h : OnCredit order item plan) {invoice : InvoiceORM}
    (h_next : IsNext item.invoices invoice) {part part' : Nat}
    (h_part : invoice.creditPartIndex = some part) (h_lt : part' < part) :
    PartPaid order item part' := by
  obtain ⟨part₀, hpart₀, -, hbound⟩ := h.part_of_mem h_next.mem
  obtain rfl : part = part₀ := Option.some.inj (h_part.symm.trans hpart₀)
  by_cases hzero : part' = 0
  · rw [hzero]
    exact h.partPaid_zero
  · obtain ⟨invoice', hmem', hpart'⟩ :=
      @OnCredit.exists_invoice _ _ _ h part' (by omega) (by omega)
    refine (h.partPaid_iff hmem' hpart').mpr (not_not.mp fun hopen => ?_)
    have hle := h_next.first invoice' hmem' hopen _ h_part _ hpart'
    omega

/-- A credit that counts the invoices shows the last part as open, and none to be paid. -/
theorem OnCredit.not_showsProgress (h : OnCredit order item plan)
    (h_none : credit.invoice = none) (h_parts : credit.paidParts = item.invoices.length) :
    ¬ ShowsProgress order item plan credit := by
  intro hshows
  have hlen := h.length_invoices
  have hopen := hshows.open_next (by omega)
  rcases hshows.invoice with ⟨hall, -⟩ | ⟨invoice, -, hsome⟩
  · by_cases hzero : credit.paidParts = 0
    · rw [hzero] at hopen
      exact hopen h.partPaid_zero
    · obtain ⟨invoice, hmem, hpart⟩ :=
        @OnCredit.exists_invoice _ _ _ h credit.paidParts (by omega) (by omega)
      exact hopen ((h.partPaid_iff hmem hpart).mpr (hall invoice hmem))
  · rw [h_none] at hsome
    cases hsome

/-- A credit that names an invoice and its part shows the right progress if that is the next. -/
theorem OnCredit.showsProgress_iff_isNext (h : OnCredit order item plan) {invoice : InvoiceORM}
    (h_mem : invoice ∈ item.invoices) (h_invoice : credit.invoice = some (nextInvoice invoice))
    (h_parts : invoice.creditPartIndex = some credit.paidParts) :
    ShowsProgress order item plan credit ↔ IsNext item.invoices invoice := by
  refine ⟨?_, ?_⟩
  · intro hshows
    rcases hshows.invoice with ⟨-, hnone⟩ | ⟨invoice', hnext, hsome⟩
    · rw [h_invoice] at hnone
      cases hnone
    -- an invoice is known by its part
    · have hpart : invoice.creditPartIndex = invoice'.creditPartIndex :=
        congrArg Invoice.creditPartIndex (Option.some.inj (h_invoice.symm.trans hsome))
      rw [h.eq_of_part h_mem hnext.mem hpart]
      exact hnext
  · intro hnext
    obtain ⟨part, hpart, -, hlt⟩ := h.part_of_mem h_mem
    obtain rfl : credit.paidParts = part := Option.some.inj (h_parts.symm.trans hpart)
    exact ⟨.inr ⟨invoice, hnext, h_invoice⟩, hlt.le,
      fun part hbefore => h.partPaid_of_lt hnext h_parts hbefore,
      fun _ hpaid => hnext.unpaid ((h.partPaid_iff h_mem h_parts).mp hpaid)⟩

/-- **When a credit shows the right progress.** -/
theorem showsProgress_iff (h : OnCredit order item plan)
    (h_credit : creditView P item = .ok credit) :
    ShowsProgress order item plan credit ↔ FirstUnpaidIsNext item.invoices := by
  obtain ⟨hinvoice, hparts⟩ := creditView_eq_ok h_credit
  rw [firstUnpaidIsNext_iff]
  cases hfirst : firstUnpaidInvoice item with
  | none =>
    rw [hfirst] at hinvoice hparts
    exact iff_of_false (h.not_showsProgress hinvoice (Except.ok.inj hparts).symm) nofun
  | some invoice =>
    rw [hfirst] at hinvoice hparts
    rw [h.showsProgress_iff_isNext (mem_of_firstUnpaidInvoice hfirst) hinvoice
      (required_eq_ok.mp hparts)]
    simp only [Option.some.injEq, exists_eq_left']

/-- The credit of a line on credit is shown. -/
theorem orderItemView_credit {shown : OrderItem} (h : orderItemView P item = .ok shown)
    (h_credit : item.row.byCredit = true) :
    ∃ credit, creditView P item = .ok credit ∧ shown.credit = some credit := by
  unfold orderItemView lineCredit at h
  simp only [except_bind_eq_ok, h_credit, if_true] at h
  obtain ⟨shownCredit, hcredit, info, -, product, -, image, -, hshown⟩ := h
  cases hshown
  cases hview : creditView P item with
  | error e =>
    rw [hview] at hcredit
    cases hcredit
  | ok credit =>
    rw [hview] at hcredit
    cases hcredit
    exact ⟨credit, rfl, rfl⟩

/-- The items of a view are those of the lines, in their order. -/
theorem orderView_items {view : Order} (h : orderView P order = .ok view) :
    order.orderItems.mapM (orderItemView P) = .ok view.items := by
  unfold orderView at h
  simp only [except_bind_eq_ok] at h
  obtain ⟨items, hitems, preorder, -, delivery, -, tracking, -, time, -, hview⟩ := h
  cases hview
  exact hitems

end OnCredit

/-- **When the progress of instalments is shown right.** Whatever pydantic makes of dates, the
order is returned with the right progress of a line on credit if and only if it is the user's and
can be shown, which takes that pydantic accepts the time it was created at and the deadlines of
its lines, and the first UNPAID invoice of the line bills the first of its parts that are not
PAID. -/
theorem reportsProgress_iff (P : OrderPydantic) (db : Database) (orderId userId : UUID)
    (order : LoadedOrder) (item : LoadedOrderItem) (plan : CreditPlanORM)
    (h_order : db.loadOrder orderId = some order) (h : OnCredit order item plan) :
    ReportsProgress P db orderId userId order item plan ↔
      order.row.userId = userId ∧ order.Showable P ∧ FirstUnpaidIsNext item.invoices := by
  have hclean : (Ctx.start db () : Ctx Database Write Unit).Clean := Ctx.clean_start _ _
  refine ⟨?_, ?_⟩
  · rintro ⟨view, hrun, shown, credit, hmem, hcredit, hshows⟩
    obtain ⟨order', horder', howner, hview, -⟩ := (getUserOrder_eq_ok hclean).mp hrun
    obtain rfl : order = order' := Option.some.inj (h_order.symm.trans horder')
    -- what is shown in the place of the line is the view of the line
    have hshown := List.forall₂_zip (mapM_eq_ok_iff_forall₂.mp (orderView_items hview)) hmem
    obtain ⟨credit', hview', hcredit'⟩ := orderItemView_credit hshown h.by_credit
    obtain rfl : credit = credit' := Option.some.inj (hcredit.symm.trans hcredit')
    exact ⟨howner, exists_orderView_iff.mp ⟨view, hview⟩, (showsProgress_iff h hview').mp hshows⟩
  · rintro ⟨howner, hshowable, hnext⟩
    obtain ⟨view, hview⟩ := exists_orderView_iff.mpr hshowable
    obtain ⟨shown, hmem, hshown⟩ :=
      exists_mem_zip_of_forall₂ (mapM_eq_ok_iff_forall₂.mp (orderView_items hview)) h.line
    obtain ⟨credit, hcredit, heq⟩ := orderItemView_credit hshown h.by_credit
    refine ⟨view, (getUserOrder_eq_ok hclean).mpr ⟨order, h_order, howner, hview, rfl⟩, ?_⟩
    exact ⟨shown, credit, hmem, heq, (showsProgress_iff h hcredit).mpr hnext⟩

/-! An order of a preorder in two parts, of which the first is paid. -/

def instalmentOrder : OrderORM := ⟨11, 5, some 31, none, .accepted, 0⟩

def instalmentLine : OrderItemORM := ⟨12, 1, 11, 1, 100, true⟩

def depositInvoice : InvoiceORM :=
  ⟨13, 11, none, none, "Оплата депозита заказа", .initial, 40, .paid⟩

def partInvoice (status : InvoiceStatus) : InvoiceORM :=
  ⟨14, 11, some 12, some 1, "Оплата рассрочки", .credit, 60, status⟩

def instalmentDatabase (status : InvoiceStatus) : Database :=
  { sampleDatabase with
    catalog := shelfCatalog
    orders := ⟨[instalmentOrder], List.nodup_singleton _⟩
    orderItems := ⟨[instalmentLine], List.nodup_singleton _⟩
    invoices := ⟨[depositInvoice, partInvoice status],
      show ([13, 14] : List UUID).Nodup by decide⟩ }

def loadedInstalmentLine (status : InvoiceStatus) : LoadedOrderItem :=
  (instalmentDatabase status).loadOrderItem instalmentLine

def loadedInstalmentOrder (status : InvoiceStatus) : LoadedOrder where
  row := instalmentOrder
  orderItems := [loadedInstalmentLine status]
  invoices := [depositInvoice, partInvoice status]
  delivery := none
  preorder := some ⟨31, 0, some "лето", "OPEN"⟩

def instalmentPlan : CreditPlanORM := ⟨34, [⟨40, "2024-01-01"⟩, ⟨60, "2024-02-01"⟩]⟩

theorem onCredit_instalmentOrder (status : InvoiceStatus) :
    OnCredit (loadedInstalmentOrder status) (loadedInstalmentLine status) instalmentPlan where
  line := List.mem_cons_self
  by_credit := rfl
  plan_found := ⟨_, rfl, rfl⟩
  parts_pos := by decide
  initial_paid := ⟨depositInvoice, List.mem_cons_self, rfl, rfl⟩
  credit := by
    intro invoice hmem
    rw [List.mem_singleton.mp hmem]
    rfl
  parts := .refl _

theorem showable_instalmentOrder (status : InvoiceStatus) :
    (loadedInstalmentOrder status).Showable .converting where
  preorder := ⟨rfl, rfl⟩
  lines := by
    intro line hline
    rw [List.mem_singleton.mp hline]
    refine ⟨⟨_, _, rfl, rfl, ⟨.image, "/1.png"⟩, List.mem_cons_self, rfl⟩, fun _ => ⟨?_, ?_⟩⟩
    · exact ⟨_, _, rfl, rfl, fun part _ => converts_converting.date part.deadline⟩
    · intro invoice hfirst
      have hmem : invoice ∈ [partInvoice status] := mem_of_firstUnpaidInvoice hfirst
      rw [List.mem_singleton.mp hmem]
      rfl
  delivery := nofun
  time := converts_converting.dateTime _

/-- With the second part UNPAID the progress is right, if pydantic converts dates. If it asks for
instances of pendulum's types there is no progress to be shown. -/
theorem reportsProgress_unpaid_part :
    ReportsProgress .converting (instalmentDatabase .unpaid) 11 5 (loadedInstalmentOrder .unpaid)
        (loadedInstalmentLine .unpaid) instalmentPlan ∧
      ¬ ReportsProgress .strict (instalmentDatabase .unpaid) 11 5 (loadedInstalmentOrder .unpaid)
        (loadedInstalmentLine .unpaid) instalmentPlan := by
  have hnext : IsNext (loadedInstalmentLine .unpaid).invoices (partInvoice .unpaid) := by
    refine ⟨List.mem_cons_self, nofun, fun other hother _ part hpart part' hpart' => ?_⟩
    rw [List.mem_singleton.mp hother] at hpart'
    exact (Option.some.inj (hpart.symm.trans hpart')).le
  refine ⟨?_, fun hshown => ?_⟩
  · refine (reportsProgress_iff .converting (instalmentDatabase .unpaid) 11 5 _ _ instalmentPlan
      rfl (onCredit_instalmentOrder .unpaid)).mpr ⟨rfl, showable_instalmentOrder .unpaid, ?_⟩
    exact ⟨[], partInvoice .unpaid, [], rfl, rfl, nofun, hnext⟩
  · obtain ⟨-, hshowable, -⟩ := (reportsProgress_iff .strict (instalmentDatabase .unpaid) 11 5 _ _
      instalmentPlan rfl (onCredit_instalmentOrder .unpaid)).mp hshown
    obtain ⟨time, htime⟩ := hshowable.time
    cases htime

/-- **With every invoice PAID, one part of two is shown as paid** if pydantic converts dates, and
nothing if it asks for instances of pendulum's types. It is never right. -/
theorem paid_line_reported_as_open :
    OnCredit (loadedInstalmentOrder .paid) (loadedInstalmentLine .paid) instalmentPlan ∧
      (∃ view, (getUserOrder .converting 11 5).run
          (Ctx.start (instalmentDatabase .paid) () : Ctx Database Write Unit) =
            .ok view (Ctx.start (instalmentDatabase .paid) ()) ∧
        view.items.map (fun item => item.credit.map (·.paidParts)) = [some 1]) ∧
      (getUserOrder .strict 11 5).run
          (Ctx.start (instalmentDatabase .paid) () : Ctx Database Write Unit) =
        .error .validationError (Ctx.start (instalmentDatabase .paid) ()) ∧
      ∀ P, ¬ ReportsProgress P (instalmentDatabase .paid) 11 5 (loadedInstalmentOrder .paid)
        (loadedInstalmentLine .paid) instalmentPlan := by
  refine ⟨onCredit_instalmentOrder .paid, ⟨_, rfl, rfl⟩, rfl, fun P => ?_⟩
  rintro ⟨view, hrun, shown, credit, hmem, hcredit, hshows⟩
  obtain ⟨order, horder, -, hview, -⟩ := (getUserOrder_eq_ok (Ctx.clean_start _ _)).mp hrun
  obtain rfl : loadedInstalmentOrder .paid = order := Option.some.inj horder
  -- what is shown in the place of the line counts its invoices
  have hshown := List.forall₂_zip (mapM_eq_ok_iff_forall₂.mp (orderView_items hview)) hmem
  obtain ⟨credit', hcredit', heq⟩ := orderItemView_credit hshown rfl
  obtain rfl : credit = credit' := Option.some.inj (hcredit.symm.trans heq)
  have hpart : credit.paidParts = 1 := (Except.ok.inj (creditView_eq_ok hcredit').2).symm
  -- part 1 is shown as the first that is open, and its invoice is PAID
  have hopen := hshows.open_next
  rw [hpart] at hopen
  exact hopen (by decide) ⟨partInvoice .paid, List.mem_cons_self, rfl, rfl⟩

end Storefront
