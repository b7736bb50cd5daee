import Storefront.Tinkoff.Notification

/-!
# What notifications settle

`notification_handler` (`transport/handlers/internal/notifications/entrypoints.py`) verifies a
notification before the service processes it: a notification that is not verified changes
nothing (`deliver_refused`), one that is verified is processed (`deliver_verified`). Neither
the amount nor the success flag of a notification is compared with anything.

* `becomes_paid_iff` — at any point of a run of notifications, an invoice becomes PAID by the
  next one exactly when that is verified and confirms a payment registered on the invoice;
* `unsuccessful_marks_paid` — this may be a notification of another amount, or one that
  reports no success;
* `forward_process_iff` — a notification changes the status of an order from UNPAID to
  ACCEPTED only, or not at all, exactly when the order is in one of the two or the
  notification does not accept it;
* `forward_run` — so it is along every run of such notifications.
-/

namespace Storefront

variable {σ : Type}

/-! ### The handler -/

/-- `notification_handler` -/
def notificationHandler (hash : HexDigest) (password : String)
    (notificationData : Tinkoff.PaymentStatusNotification) : App σ String := do
  let verified ← liftExcept (notificationData.verify hash password)
  raiseIf (verified = false) .unknownAnswerError
  updatePaymentStatus notificationData.toPaymentStatusNotification
  return "OK"

/-- The database after the request of a notification. -/
def deliver (hash : HexDigest) (password : String) (db : Database)
    (notification : Tinkoff.PaymentStatusNotification) : Database :=
  (endState ((initCtxDbSession postgres none .post
    (notificationHandler hash password notification)).run (Ctx.start db ()))).committed

/-- The step relation of the requests. -/
def Delivered (hash : HexDigest) (password : String) (db : Database)
    (notification : Tinkoff.PaymentStatusNotification) (db' : Database) : Prop :=
  db' = deliver hash password db notification

section Handler

variable {hash : HexDigest} {password : String} {db : Database}
  {notification : Tinkoff.PaymentStatusNotification}

theorem run_notificationHandler (h : notification.verify hash password = .ok true)
    (c : Ctx Database Write σ) :
    (notificationHandler hash password notification).run c =
      match (updatePaymentStatus notification.toPaymentStatusNotification).run c with
      | .ok _ c' => .ok "OK" c'
      | .error e c' => .error e c' := by
  unfold notificationHandler
  rw [run_bind_ok (liftExcept_eq_ok.mpr ⟨h, rfl⟩),
    run_bind_ok (run_raiseIf_of_not Bool.true_eq_false_eq_False _ _), EStateM.run_bind]
  cases (updatePaymentStatus notification.toPaymentStatusNotification).run c <;> rfl

/-- A verified notification is processed. -/
theorem deliver_verified (h : notification.verify hash password = .ok true) :
    deliver hash password db notification =
      process db notification.toPaymentStatusNotification := by
  unfold deliver process serve
  rw [run_initCtxDbSession, run_initCtxDbSession, run_notificationHandler h]
  cases (updatePaymentStatus notification.toPaymentStatusNotification).run (Ctx.start db ()) with
  | error e c => rfl
  | ok u c =>
    -- the commit is the same
    simp only [if_neg (show Method.post ≠ .get by decide)]
    cases (Session.commit postgres none).run c <;> rfl

/-- A notification that is not verified, or whose verification raises, changes nothing. -/
theorem deliver_refused (h : notification.verify hash password ≠ .ok true) :
    deliver hash password db notification = db := by
  -- the verification raises, or returns false and the handler raises
  have hrun : ∃ e, (notificationHandler hash password notification).run
      (Ctx.start db () : Ctx Database Write Unit) = .error e (Ctx.start db ()) := by
    unfold notificationHandler
    rw [EStateM.run_bind, run_liftExcept]
    cases hverify : notification.verify hash password with
    | error e => exact ⟨e, rfl⟩
    | ok verified =>
      have hfalse : verified = false := by
        rw [hverify] at h
        exact Bool.eq_false_iff.mpr fun htrue => h (congrArg _ htrue)
      exact ⟨_, run_bind_error (run_raiseIf_of_pos hfalse _ _)⟩
  obtain ⟨e, he⟩ := hrun
  unfold deliver
  rw [run_initCtxDbSession_error he]
  rfl

theorem registered_deliver (i : UUID) (paymentId : Int) :
    Registered (deliver hash password db notification) i paymentId ↔
      Registered db i paymentId := by
  by_cases h : notification.verify hash password = .ok true
  · rw [deliver_verified h]
    exact registered_process i paymentId
  · rw [deliver_refused h]

end Handler

/-! ### Paid invoices -/

section Paid

variable {hash : HexDigest} {password : String} {db₀ db db' : Database}
  {notifications : List Tinkoff.PaymentStatusNotification}
  {notification : Tinkoff.PaymentStatusNotification}

/-- The status of an invoice after a notification is processed. -/
theorem invoiceStatus_process (notification : PaymentStatusNotification) (i : UUID) :
    invoiceStatus (process db notification) i =
      if Hits db notification i then
        (invoiceStatus db i).map (newInvoiceStatus notification)
      else invoiceStatus db i := by
  unfold invoiceStatus
  split
  · next hhit =>
    rw [(find?_invoice_process i).1 hhit, Option.map_map, Option.map_map]
    rfl
  · next hmiss => rw [(find?_invoice_process i).2 hmiss]

/-- **What makes an invoice PAID.** After any notifications, the next one changes the status of
an invoice to PAID exactly when it is verified, its status is CONFIRMED, and it names the
invoice and a payment registered on it. -/
theorem becomes_paid_iff (h : Run (Delivered hash password) db₀ notifications db)
    (h_step : Delivered hash password db notification db') (i : UUID) :
    (invoiceStatus db i ≠ some .paid ∧ invoiceStatus db' i = some .paid) ↔
      (∃ status, invoiceStatus db i = some status ∧ status ≠ .paid) ∧
        notification.verify hash password = .ok true ∧ notification.status = "CONFIRMED" ∧
        notification.invoiceId = i ∧ Registered db₀ i notification.paymentId := by
  obtain rfl : db' = deliver hash password db notification := h_step
  -- payments stay registered where they are
  have hregistered : ∀ paymentId, Registered db i paymentId ↔ Registered db₀ i paymentId :=
    fun paymentId => h.invariant (I := fun db => Registered db i paymentId ↔
      Registered db₀ i paymentId) Iff.rfl fun s n s' hI (hs : s' = _) => by
        rw [hs]
        exact (registered_deliver i paymentId).trans hI
  by_cases hverify : notification.verify hash password = .ok true
  · rw [deliver_verified hverify, invoiceStatus_process, ← hregistered]
    cases hstatus : invoiceStatus db i with
    | none => simp
    | some status =>
      -- only a confirmation makes an invoice PAID that is not
      have hpaid : status ≠ .paid → (newInvoiceStatus notification.toPaymentStatusNotification
          status = .paid ↔ notification.status = "CONFIRMED") := fun hne =>
        newInvoiceStatus_eq_paid.trans (or_iff_left fun hor => hne hor.1)
      by_cases hhit : Hits db notification.toPaymentStatusNotification i
      · rw [if_pos hhit]
        refine ⟨?_, ?_⟩
        · rintro ⟨hne, hnew⟩
          have hne' : status ≠ .paid := fun heq => hne (congrArg some heq)
          exact ⟨⟨status, rfl, hne'⟩, hverify, (hpaid hne').mp (Option.some.inj hnew), hhit⟩
        · rintro ⟨⟨status', hstatus', hne⟩, -, hconf, -⟩
          obtain rfl : status = status' := Option.some.inj hstatus'
          exact ⟨fun heq => hne (Option.some.inj heq), congrArg some ((hpaid hne).mpr hconf)⟩
      · rw [if_neg hhit]
        exact ⟨fun hchange => absurd hchange.2 hchange.1,
          fun ⟨_, _, _, hinvoice, hreg⟩ => absurd ⟨hinvoice, hreg⟩ hhit⟩
  · rw [deliver_refused hverify]
    exact ⟨fun hchange => absurd hchange.2 hchange.1, fun hpaid => absurd hpaid.2.1 hverify⟩

end Paid

/-- The confirmation of the sample with its token marks the invoice paid. -/
theorem becomes_paid_sample :
    let n := Tinkoff.sampleNotification (some Tinkoff.sampleToken)
    invoiceStatus (deliver codePointDigest "password" unpaidOrderDatabase n) 13 = some .paid :=
  ((becomes_paid_iff (.nil unpaidOrderDatabase) rfl 13).mpr
    ⟨⟨.unpaid, rfl, nofun⟩, Tinkoff.verify_of_token_eq rfl, rfl, rfl, by decide⟩).2

/-- A confirmation of one kopeck that reports no success. -/
def unsuccessfulNotification (token : Option String) : Tinkoff.PaymentStatusNotification :=
  { Tinkoff.sampleNotification token with amount := 1, success := false }

/-- Its token. -/
def unsuccessfulToken : String :=
  codePoints ((unsuccessfulNotification none).tokenText "password")

/-- An invoice of 100 is marked paid by it. -/
theorem unsuccessful_marks_paid :
    let n := unsuccessfulNotification (some unsuccessfulToken)
    n.verify codePointDigest "password" = .ok true ∧ n.success = false ∧
      ∃ db, Run (Delivered codePointDigest "password") unpaidOrderDatabase [n] db ∧
        ∃ invoice, unpaidOrderDatabase.invoices.find? 13 = some invoice ∧
          invoice.status ≠ .paid ∧ invoiceStatus db 13 = some .paid ∧
          n.amount ≠ 100 * invoice.amount := by
  intro n
  have hverify : n.verify codePointDigest "password" = .ok true := Tinkoff.verify_of_token_eq rfl
  refine ⟨hverify, rfl, _, .cons rfl (.nil _), _, rfl, nofun, ?_, by decide⟩
  rw [deliver_verified hverify]
  rfl

/-! ### The status of an order -/

/-- The notification accepts the order: it names an INITIAL invoice of the order and a payment
registered on it, and confirms it, or comes late, when the invoice is PAID, and is not an
authorization. -/
def Reaccepts (db : Database) (notification : PaymentStatusNotification)
    (order : UUID) : Prop :=
  ∃ invoice, db.invoices.find? notification.invoiceId = some invoice ∧ invoice.orderId = order ∧
    invoice.type = .initial ∧ Registered db invoice.id notification.paymentId ∧
    (notification.status = "CONFIRMED" ∨
      (invoice.status = .paid ∧ notification.status ≠ "AUTHORIZED"))

/-- From UNPAID to ACCEPTED, or no change. -/
def Forward (before after : Option OrderStatus) : Prop :=
  after = before ∨ (before = some .unpaid ∧ after = some .accepted)

theorem Forward.trans {a b c : Option OrderStatus} (h₁ : Forward a b) (h₂ : Forward b c) :
    Forward a c := by
  rcases h₁ with rfl | ⟨ha, rfl⟩
  · exact h₂
  · rcases h₂ with rfl | ⟨hb, -⟩
    · exact .inr ⟨ha, rfl⟩
    · cases hb

section OrderStatus

variable {db : Database} {notification : PaymentStatusNotification} {order : UUID}

theorem accepts_iff_reaccepts :
    Accepts db notification order ↔ Reaccepts db notification order := by
  unfold Accepts Reaccepts
  simp only [newInvoiceStatus_eq_paid]

/-- The status of an order after a notification is processed. -/
theorem orderStatus_process :
    (Reaccepts db notification order →
      orderStatus (process db notification) order =
        (orderStatus db order).map fun _ => .accepted) ∧
    (¬ Reaccepts db notification order →
      orderStatus (process db notification) order = orderStatus db order) := by
  rw [← accepts_iff_reaccepts]
  unfold orderStatus
  refine ⟨?_, ?_⟩
  · intro h
    rw [(find?_order_process order).1 h, Option.map_map, Option.map_map]
    rfl
  · intro h
    rw [(find?_order_process order).2 h]

/-- **When a notification does not move an order backwards**: the order is UNPAID or ACCEPTED,
or the notification does not accept it. -/
theorem forward_process_iff {status : OrderStatus} (h : orderStatus db order = some status) :
    Forward (orderStatus db order) (orderStatus (process db notification) order) ↔
      status = .unpaid ∨ status = .accepted ∨ ¬ Reaccepts db notification order := by
  by_cases haccept : Reaccepts db notification order
  · rw [orderStatus_process.1 haccept, h]
    unfold Forward
    simp only [Option.map_some, Option.some.injEq, haccept, not_true_eq_false, or_false,
      and_true, eq_comm (a := OrderStatus.accepted)]
    exact or_comm
  · rw [orderStatus_process.2 haccept]
    exact iff_of_true (.inl rfl) (.inr (.inr haccept))

/-- An unpaid order stays where it is when its payment is reported as rejected. -/
theorem forward_process_sample :
    Forward (orderStatus unpaidOrderDatabase 11)
      (orderStatus (process unpaidOrderDatabase ⟨13, 7, "REJECTED"⟩) 11) :=
  (forward_process_iff (show orderStatus unpaidOrderDatabase 11 = some .unpaid from rfl)).mpr
    (.inl rfl)

/-- A finished order, paid with payment 7. -/
def finishedOrderDatabase : Database :=
  { sampleDatabase with
    orders := ⟨[⟨11, 5, none, none, .finished, 0⟩], List.nodup_singleton _⟩
    invoices := ⟨[⟨13, 11, none, none, "", .initial, 100, .paid⟩], List.nodup_singleton _⟩
    payments := ⟨[⟨14, 0, 13, "url", "CONFIRMED", 7⟩], List.nodup_singleton _⟩ }

/-- The refund of its payment moves it back. -/
theorem refunded_moves_backwards :
    orderStatus finishedOrderDatabase 11 = some .finished ∧
      orderStatus (process finishedOrderDatabase ⟨13, 7, "REFUNDED"⟩) 11 = some .accepted ∧
      ¬ Forward (orderStatus finishedOrderDatabase 11)
        (orderStatus (process finishedOrderDatabase ⟨13, 7, "REFUNDED"⟩) 11) := by
  have hbefore : orderStatus finishedOrderDatabase 11 = some .finished := rfl
  have hafter : orderStatus (process finishedOrderDatabase ⟨13, 7, "REFUNDED"⟩) 11 =
      some .accepted := rfl
  refine ⟨hbefore, hafter, ?_⟩
  rw [hbefore, hafter]
  rintro (heq | ⟨heq, -⟩) <;> cases heq

/-- The condition on a step of a run. -/
def NotPast (order : UUID) (db : Database)
    (notification : PaymentStatusNotification) : Prop :=
  orderStatus db order = some .unpaid ∨ orderStatus db order = some .accepted ∨
    ¬ Reaccepts db notification order

/-- **Runs do not move an order backwards** whose steps meet the condition. -/
theorem forward_run {notifications : List PaymentStatusNotification} {db' : Database}
    (h : Run (guarded (NotPast order) Processed) db notifications db') :
    Forward (orderStatus db order) (orderStatus db' order) := by
  refine h.monotone (I := fun _ => True)
    (r := fun s s' => Forward (orderStatus s order) (orderStatus s' order))
    (fun _ => .inl rfl) Forward.trans trivial ?_
  rintro s n s' - ⟨hpast, rfl⟩
  refine ⟨trivial, ?_⟩
  by_cases haccept : Reaccepts s n order
  · rw [orderStatus_process.1 haccept]
    rcases hpast with hs | hs | hnot
    · exact .inr ⟨hs, congrArg _ hs⟩
    · exact .inl ((congrArg _ hs).trans hs.symm)
    · exact absurd haccept hnot
  · exact .inl (orderStatus_process.2 haccept)

end OrderStatus

end Storefront
