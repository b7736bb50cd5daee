import Storefront.Library.Run
import Storefront.Order.OrderEffect

/-!
# The session of a client

A client's `POST /checkout` and `POST /order` requests, one after the other, with what others
commit in between. The checkout data is in the session cookie, which the client returns as it
was given it last, also by an answer that reports an error. Nothing removes the data from the
session once it was ordered.

`ClientSession.unspent` says that a checkout has succeeded and nothing was sent to the bank
since. An order that is not held up before the bank (`Payable`) sends it a request whether or
not a checkout is unspent.

* `postOrder_not_payable`, `sent_postOrder_payable` — an order is held up with nothing changed
  and nothing sent, or it sends one request;
* `one_order_per_checkout_iff` — the runs in which there are never more orders or bank
  payments than checkouts, and in which an order without an unspent checkout does nothing, are
  those in which every such order is held up before the bank.
-/

namespace Storefront

/-! ### Orders that reach the bank -/

/-- Nothing holds the order up before the bank: there is checkout data, a delivery where one
is needed, and the stock and the order are taken by the database. -/
def Payable (orm : Orm) (r : OrderRequest) (db : Database) : Prop :=
  r.checkoutData ≠ [] ∧ checkDeliveryData r.checkoutData r.order.deliveryData = .ok () ∧
    ∃ ws db', orderWrites orm r.outside r.user r.order.creditIds
        (orderDeliveryData r.checkoutData r.order.deliveryData) r.checkoutData = .ok ws ∧
      postgres.applyAll (reservationWrites r.reservation (selectForUpdate r.reservation db) ++ ws)
        db = .ok db'

section Bank

variable {orm : Orm} {r : OrderRequest} {db : Database} {sent : List InitPaymentRequest}

/-- The statements of the handler, once it has read the checkout data. -/
theorem run_makeOrderEntrypoint :
    (makeOrderEntrypoint orm r.outside r.user r.order).run (Ctx.start db ⟨r.checkoutData, sent⟩) =
      (do
        raiseIf (r.checkoutData = []) .checkoutDataIsEmptyError
        liftExcept (checkDeliveryData r.checkoutData r.order.deliveryData)
        reserveCatalogItems (r.checkoutData.map (·.toShortCheckoutItem))
        let paymentLink ← createOrder orm r.outside r.user r.order.creditIds
          (orderDeliveryData r.checkoutData r.order.deliveryData) r.checkoutData
        removeItemsFromCart r.user.id (r.checkoutData.map (·.id))
        return paymentLink : App RequestState String).run
          (Ctx.start db ⟨r.checkoutData, sent⟩) := rfl

/-- The reservation of the request. -/
theorem run_reserveCatalogItems :
    (reserveCatalogItems (r.checkoutData.map (·.toShortCheckoutItem)) : App RequestState Unit).run
        (Ctx.start db ⟨r.checkoutData, sent⟩) =
      match postgres.applyAll (reservationWrites r.reservation
        (selectForUpdate r.reservation db)) db with
      | .ok db₁ => .ok () ⟨db, ⟨db₁, [], false⟩, ⟨r.checkoutData, sent⟩⟩
      | .error e => .error (outOfStock e) ⟨db, ⟨db, reservationWrites r.reservation
        (selectForUpdate r.reservation db), true⟩, ⟨r.checkoutData, sent⟩⟩ := by
  have hitems : Dict.ofList ((r.checkoutData.map (·.toShortCheckoutItem)).map fun item =>
      (item.id, item.quantity)) = r.reservation := by
    rw [List.map_map]
    rfl
  unfold reserveCatalogItems
  rw [hitems]
  exact run_increaseCatalogItemsOrderedQuantity r.reservation (Ctx.clean_start db _)

/-- An order that is not payable raises with nothing sent and nothing committed. -/
theorem run_makeOrderEntrypoint_not_payable (h : ¬ Payable orm r db) :
    ∃ e c, (makeOrderEntrypoint orm r.outside r.user r.order).run
        (Ctx.start db ⟨r.checkoutData, sent⟩) = .error e c ∧
      c.committed = db ∧ c.env = ⟨r.checkoutData, sent⟩ := by
  rw [run_makeOrderEntrypoint]
  by_cases hdata : r.checkoutData = []
  · -- no checkout data
    exact ⟨_, Ctx.start db _, run_bind_error (run_raiseIf_of_pos hdata _ _), rfl, rfl⟩
  rw [run_bind_ok (run_raiseIf_of_not hdata _ _)]
  cases hdelivery : checkDeliveryData r.checkoutData r.order.deliveryData with
  | error e => exact ⟨e, Ctx.start db _, rfl, rfl, rfl⟩
  | ok u =>
    rw [run_bind_ok (run_liftExcept (.ok u) _)]
    have hreserve := @run_reserveCatalogItems r db sent
    cases hstock : postgres.applyAll (reservationWrites r.reservation
        (selectForUpdate r.reservation db)) db with
    | error e =>
      -- the stock does not suffice
      rw [hstock] at hreserve
      exact ⟨_, ⟨db, _, ⟨r.checkoutData, sent⟩⟩, run_bind_error hreserve, rfl, rfl⟩
    | ok db₁ =>
      rw [hstock] at hreserve
      rw [run_bind_ok hreserve]
      have hcreate : ∃ e c, (createOrder orm r.outside r.user r.order.creditIds
          (orderDeliveryData r.checkoutData r.order.deliveryData) r.checkoutData).run
            ⟨db, ⟨db₁, [], false⟩, ⟨r.checkoutData, sent⟩⟩ = .error e c ∧
          c.committed = db ∧ c.env = ⟨r.checkoutData, sent⟩ := by
        unfold createOrder
        cases hwrites : orderWrites orm r.outside r.user r.order.creditIds
            (orderDeliveryData r.checkoutData r.order.deliveryData) r.checkoutData with
        | error e => exact ⟨e, _, rfl, rfl, rfl⟩
        | ok ws =>
          rw [run_bind_ok (run_liftExcept (.ok ws) _)]
          cases hstore : postgres.applyAll ws db₁ with
          | ok db₂ =>
            exact absurd ⟨hdata, hdelivery, ws, db₂, hwrites,
              (postgres.applyAll_append_ok hstock).trans hstore⟩ h
          | error e =>
            -- the order is not taken
            have hrun := run_create (⟨rfl, rfl⟩ : Ctx.Clean (⟨db, ⟨db₁, [], false⟩,
              ⟨r.checkoutData, sent⟩⟩ : Ctx Database Write RequestState)) ws
            simp only [hstore] at hrun
            exact ⟨e, _, run_bind_error hrun, rfl, rfl⟩
      obtain ⟨e, c, hrun, hcom, henv⟩ := hcreate
      exact ⟨e, c, run_bind_error hrun, hcom, henv⟩

/-- A payable order sends its request to the bank. -/
theorem sent_makeOrderEntrypoint_payable (h : Payable orm r db) :
    (endState ((makeOrderEntrypoint orm r.outside r.user r.order).run
      (Ctx.start db ⟨r.checkoutData, sent⟩))).env.sent =
        sent ++ [initPaymentRequest r.outside r.user r.checkoutData] := by
  obtain ⟨hdata, hdelivery, ws, db₂, hwrites, happly⟩ := h
  obtain ⟨db₁, hstock, hstore⟩ := (postgres.applyAll_append_eq_ok).mp happly
  have hreserve := @run_reserveCatalogItems r db sent
  rw [hstock] at hreserve
  rw [run_makeOrderEntrypoint, run_bind_ok (run_raiseIf_of_not hdata _ _), hdelivery,
    run_bind_ok (run_liftExcept (.ok ()) _), run_bind_ok hreserve]
  -- the order is stored, so `create_order` gets to the bank
  have hcreate : (endState ((createOrder orm r.outside r.user r.order.creditIds
      (orderDeliveryData r.checkoutData r.order.deliveryData) r.checkoutData).run
        ⟨db, ⟨db₁, [], false⟩, ⟨r.checkoutData, sent⟩⟩)).env.sent =
      sent ++ [initPaymentRequest r.outside r.user r.checkoutData] := by
    unfold createOrder
    have hrun := run_create (⟨rfl, rfl⟩ : Ctx.Clean (⟨db, ⟨db₁, [], false⟩,
      ⟨r.checkoutData, sent⟩⟩ : Ctx Database Write RequestState)) ws
    simp only [hstore] at hrun
    rw [hwrites, run_bind_ok (run_liftExcept (.ok ws) _), run_bind_ok hrun, sent_payment]
  -- the cart is all that is left
  have hremove : ∀ (link : String) (c : Ctx Database Write RequestState),
      (endState ((do
        removeItemsFromCart r.user.id (r.checkoutData.map (·.id))
        return link : App RequestState String).run c)).env = c.env := by
    intro link c
    refine (frame_bind Ctx.env (fun _ _ => rfl) c).trans ?_
    exact Session.env_execute postgres c _
  rw [frame_bind (fun c : Ctx Database Write RequestState => c.env.sent) fun link c =>
    congrArg RequestState.sent (hremove link c)]
  exact hcreate

end Bank

/-! ### Sessions -/

/-- A client's session and what has happened in it: the committed state, the session data with
the requests sent to the bank, how many checkouts and orders have succeeded, and whether a
checkout has succeeded since the last request to the bank. -/
structure ClientSession where
  db : Database
  env : RequestState
  checkouts : Nat
  orders : Nat
  unspent : Bool

/-- A new session. -/
def ClientSession.start (db : Database) : ClientSession where
  db
  env := ⟨[], []⟩
  checkouts := 0
  orders := 0
  unspent := false

/-- A request of the client, with what goes wrong at its commit, or what others have made of
the database. -/
inductive SessionAction
  | checkout (requestData : MakeCheckoutRequestSchema) (fault : Option PyExc)
  | order (order : CreateOrderRequestSchema) (outside : Outside) (fault : Option PyExc)
  | others (db : Database)

namespace ClientSession

variable (P : Pydantic) (orm : Orm) (user : UserIdentity)

/-- The order that a session's data makes of a request. -/
def request (s : ClientSession) (order : CreateOrderRequestSchema) (outside : Outside) :
    OrderRequest where
  user
  order
  outside
  checkoutData := s.env.checkoutData

/-- What an action makes of the session. The cookie is set by every answer. -/
def next (s : ClientSession) : SessionAction → ClientSession
  | .checkout requestData fault =>
    match (postCheckout P fault user requestData).run (Ctx.start s.db s.env) with
    | .ok _ c =>
      { db := c.committed
        env := c.env
        checkouts := s.checkouts + 1
        orders := s.orders
        unspent := true }
    | .error _ c => { s with db := c.committed, env := c.env }
  | .order order outside fault =>
    match (postOrder orm outside fault user order).run (Ctx.start s.db s.env) with
    | .ok _ c =>
      { db := c.committed
        env := c.env
        checkouts := s.checkouts
        orders := s.orders + 1
        unspent := s.unspent && c.env.sent = s.env.sent }
    | .error _ c =>
      { s with
        db := c.committed
        env := c.env
        unspent := s.unspent && c.env.sent = s.env.sent }
  | .others db => { s with db }

def step (s : ClientSession) (a : SessionAction) (s' : ClientSession) : Prop :=
  s' = s.next P orm user a

/-- What an action is to keep: there are never more orders or payments than checkouts, and an
order without an unspent checkout creates no order, reserves nothing and sends nothing. -/
structure Keeps (s : ClientSession) (a : SessionAction) (s' : ClientSession) : Prop where
  orders_le : s'.orders ≤ s'.checkouts
  payments_le : s'.env.sent.length ≤ s'.checkouts
  repeated : ∀ order outside fault, a = .order order outside fault → s.unspent = false →
    s'.orders = s.orders ∧ s'.db = s.db ∧ s'.env.sent = s.env.sent

/-- The condition on an action: an order without an unspent checkout is held up before the
bank. -/
def HeldUp (s : ClientSession) (a : SessionAction) : Prop :=
  ∀ order outside fault, a = .order order outside fault → s.unspent = false →
    ¬ Payable orm (s.request user order outside) s.db

/-- Every order has been paid for by a request to the bank, and these by checkouts, of which
one may be left. -/
structure Paid (s : ClientSession) : Prop where
  orders_le : s.orders ≤ s.env.sent.length
  payments_le : s.env.sent.length + (if s.unspent then 1 else 0) ≤ s.checkouts

variable {P orm user} {s s' : ClientSession}

theorem next_checkout_ok {requestData : MakeCheckoutRequestSchema} {fault : Option PyExc}
    {u : Unit} {c : Ctx Database Write RequestState}
    (h : (postCheckout P fault user requestData).run (Ctx.start s.db s.env) = .ok u c) :
    s.next P orm user (.checkout requestData fault) =
      ⟨c.committed, c.env, s.checkouts + 1, s.orders, true⟩ := by
  simp only [next, h]

theorem next_checkout_error {requestData : MakeCheckoutRequestSchema} {fault : Option PyExc}
    {e : PyExc} {c : Ctx Database Write RequestState}
    (h : (postCheckout P fault user requestData).run (Ctx.start s.db s.env) = .error e c) :
    s.next P orm user (.checkout requestData fault) =
      { s with db := c.committed, env := c.env } := by
  simp only [next, h]

theorem next_order_ok {order : CreateOrderRequestSchema} {outside : Outside}
    {fault : Option PyExc} {link : String} {c : Ctx Database Write RequestState}
    (h : (postOrder orm outside fault user order).run (Ctx.start s.db s.env) = .ok link c) :
    s.next P orm user (.order order outside fault) =
      ⟨c.committed, c.env, s.checkouts, s.orders + 1,
        s.unspent && decide (c.env.sent = s.env.sent)⟩ := by
  simp only [next, h]

theorem next_order_error {order : CreateOrderRequestSchema} {outside : Outside}
    {fault : Option PyExc} {e : PyExc} {c : Ctx Database Write RequestState}
    (h : (postOrder orm outside fault user order).run (Ctx.start s.db s.env) = .error e c) :
    s.next P orm user (.order order outside fault) =
      ⟨c.committed, c.env, s.checkouts, s.orders,
        s.unspent && decide (c.env.sent = s.env.sent)⟩ := by
  simp only [next, h]

theorem ne_append_singleton {α : Type} (l : List α) (a : α) : l ++ [a] ≠ l := by
  intro h
  have hlen := congrArg List.length h
  rw [List.length_append, List.length_singleton] at hlen
  omega

/-- The outcomes of an order: it is held up with everything as it was, or it sends a request
to the bank and may succeed then. -/
theorem next_order (s : ClientSession) (order : CreateOrderRequestSchema) (outside : Outside)
    (fault : Option PyExc) :
    (¬ Payable orm (s.request user order outside) s.db ∧
      s.next P orm user (.order order outside fault) = s) ∨
    (Payable orm (s.request user order outside) s.db ∧
      let s' := s.next P orm user (.order order outside fault)
      s'.env.sent = s.env.sent ++ [initPaymentRequest outside user s.env.checkoutData] ∧
        s'.checkouts = s.checkouts ∧ s'.orders ≤ s.orders + 1 ∧ s'.unspent = false) := by
  by_cases hpayable : Payable orm (s.request user order outside) s.db
  · refine .inr ⟨hpayable, ?_⟩
    have hsent := @sent_makeOrderEntrypoint_payable _ _ _ s.env.sent hpayable
    have henv := env_initCtxDbSession postgres fault .post
      (makeOrderEntrypoint orm outside user order) (Ctx.start s.db s.env)
    replace hsent : (endState ((postOrder orm outside fault user order).run
        (Ctx.start s.db s.env))).env.sent =
        s.env.sent ++ [initPaymentRequest outside user s.env.checkoutData] :=
      (congrArg RequestState.sent henv).trans hsent
    -- one more request was sent, so the checkout is spent
    have hspent : ∀ c : Ctx Database Write RequestState, c.env.sent =
        s.env.sent ++ [initPaymentRequest outside user s.env.checkoutData] →
        (s.unspent && decide (c.env.sent = s.env.sent)) = false := by
      intro c hc
      have hne : c.env.sent ≠ s.env.sent := by
        rw [hc]
        exact ne_append_singleton _ _
      rw [decide_eq_false hne, Bool.and_false]
    cases hrun : (postOrder orm outside fault user order).run (Ctx.start s.db s.env) with
    | ok link c =>
      rw [hrun] at hsent
      rw [next_order_ok hrun]
      exact ⟨hsent, rfl, le_rfl, hspent c hsent⟩
    | error e c =>
      rw [hrun] at hsent
      rw [next_order_error hrun]
      exact ⟨hsent, rfl, Nat.le_succ _, hspent c hsent⟩
  · refine .inl ⟨hpayable, ?_⟩
    obtain ⟨e, c, hrun, hcom, henv⟩ :=
      @run_makeOrderEntrypoint_not_payable _ _ _ s.env.sent hpayable
    have hpost : (postOrder orm outside fault user order).run (Ctx.start s.db s.env) =
        .error e c.closed := run_initCtxDbSession_error hrun
    rw [next_order_error hpost, committed_closed, env_closed, hcom, henv]
    -- the flag stays as well
    obtain ⟨db, ⟨data, sent⟩, checkouts, orders, unspent⟩ := s
    simp [request]

/-- An unsuccessful checkout leaves the requests alone, and so does a successful one. -/
theorem sent_checkout (requestData : MakeCheckoutRequestSchema) (fault : Option PyExc) :
    (endState ((postCheckout P fault user requestData).run (Ctx.start s.db s.env))).env.sent =
      s.env.sent := by
  obtain ⟨-, ⟨-, henv⟩ | ⟨items, -, henv⟩⟩ :=
    endState_postCheckout P user requestData fault s.db s.env
  · rw [henv]
  · rw [henv]

theorem Paid.start (db : Database) : Paid (ClientSession.start db) := ⟨le_rfl, le_rfl⟩

/-- An action that meets the condition keeps the account. -/
theorem Paid.step (h : Paid s) {a : SessionAction} (h_heldUp : HeldUp orm user s a)
    (h_step : step P orm user s a s') : Paid s' := by
  obtain rfl : s' = s.next P orm user a := h_step
  cases a with
  | checkout requestData fault =>
    -- a checkout sends nothing; it can only raise the allowance
    have hsent := @sent_checkout P user s requestData fault
    have hle := h.payments_le
    cases hrun : (postCheckout P fault user requestData).run (Ctx.start s.db s.env) with
    | ok u c =>
      rw [hrun] at hsent
      replace hsent : c.env.sent = s.env.sent := hsent
      rw [next_checkout_ok hrun]
      refine ⟨?_, ?_⟩
      · show s.orders ≤ c.env.sent.length
        rw [hsent]
        exact h.orders_le
      · show c.env.sent.length + 1 ≤ s.checkouts + 1
        rw [hsent]
        omega
    -- a rejected checkout grants nothing, and takes nothing away
    | error e c =>
      rw [hrun] at hsent
      replace hsent : c.env.sent = s.env.sent := hsent
      rw [next_checkout_error hrun]
      refine ⟨?_, ?_⟩
      · show s.orders ≤ c.env.sent.length
        rw [hsent]
        exact h.orders_le
      · show c.env.sent.length + _ ≤ s.checkouts
        rw [hsent]
        exact h.payments_le
  | order order outside fault =>
    rcases @next_order P orm user s order outside fault with
      ⟨-, heq⟩ | ⟨hpayable, hsent, hcheckouts, horders, hspent⟩
    · -- held up: the session is as before
      rw [heq]
      exact h
    · -- the order was paid for by the unspent checkout
      have hunspent : s.unspent = true := by
        by_contra hne
        exact h_heldUp order outside fault rfl (Bool.eq_false_iff.mpr hne) hpayable
      have hle := h.payments_le
      rw [if_pos hunspent] at hle
      have hlen := congrArg List.length hsent
      rw [List.length_append, List.length_singleton] at hlen
      -- one more payment, and the flag that stood for it is down
      refine ⟨?_, ?_⟩
      · rw [hlen]
        exact horders.trans (Nat.succ_le_succ h.orders_le)
      · rw [hspent, hcheckouts, hlen]
        exact hle
  | others db => exact ⟨h.orders_le, h.payments_le⟩

/-- For a session whose account is right, an action keeps the claim exactly when it meets the
condition. -/
theorem keeps_iff (h : Paid s) {a : SessionAction} (h_step : step P orm user s a s') :
    Keeps s a s' ↔ HeldUp orm user s a := by
  refine ⟨?_, ?_⟩
  -- a payable order sends a request
  · intro hkeeps order outside fault ha hunspent hpayable
    obtain rfl : s' = s.next P orm user a := h_step
    subst ha
    obtain ⟨-, -, hsame⟩ := hkeeps.repeated order outside fault rfl hunspent
    rcases @next_order P orm user s order outside fault with
      ⟨hnot, -⟩ | ⟨-, hsent, -⟩
    · exact hnot hpayable
    · rw [hsame] at hsent
      exact ne_append_singleton _ _ hsent.symm
  · intro hheldUp
    have hpaid := h.step hheldUp h_step
    have hpayments : s'.env.sent.length ≤ s'.checkouts :=
      (Nat.le_add_right _ _).trans hpaid.payments_le
    refine ⟨hpaid.orders_le.trans hpayments, hpayments, ?_⟩
    intro order outside fault ha hunspent
    obtain rfl : s' = s.next P orm user a := h_step
    subst ha
    rcases @next_order P orm user s order outside fault with
      ⟨-, heq⟩ | ⟨hpayable, -⟩
    · rw [heq]
      exact ⟨rfl, rfl, rfl⟩
    · exact absurd hpayable (hheldUp order outside fault rfl hunspent)

/-- **When one checkout pays for at most one order.** The runs of a session in which every
action keeps the claim are those in which every order without an unspent checkout is held up
before the bank. -/
theorem one_order_per_checkout_iff (P : Pydantic) (orm : Orm) (user : UserIdentity)
    (db : Database) (actions : List SessionAction) (s : ClientSession) :
    Run (fun s a s' => step P orm user s a s' ∧ Keeps s a s') (start db) actions s ↔
      Run (guarded (HeldUp orm user) (step P orm user)) (start db) actions s := by
  refine Run.congr_of_invariant (I := Paid) (Paid.start db) (fun s a s' h => ?_) ?_
  · refine ⟨fun ⟨hstep, hkeeps⟩ => ⟨(keeps_iff h hstep).mp hkeeps, hstep⟩, ?_⟩
    exact fun ⟨hheldUp, hstep⟩ => ⟨hstep, (keeps_iff h hstep).mpr hheldUp⟩
  · exact fun s a s' h ⟨hstep, hkeeps⟩ => h.step ((keeps_iff h hstep).mp hkeeps) hstep

/-- The ids drawn for another order. -/
def otherOutside : Outside :=
  { sampleOutside with uuid := fun site => ⟨(sampleOutside.uuid site).bits + 100⟩ }

/-- One checkout, and two orders of its data. -/
def orderTwice : List SessionAction :=
  [.checkout ⟨[⟨1, 1⟩]⟩ none, .order (Shop.sampleOrder []).order sampleOutside none,
    .order (Shop.sampleOrder []).order otherOutside none]

/-- Both orders are committed, each with its own stock and its own payment. -/
theorem two_orders_of_one_checkout :
    Orm.Accepts .flattening ∧
      ∃ s, Run (step .strict .flattening sampleUser) (start sampleDatabase) orderTwice s ∧
        s.checkouts = 1 ∧ s.orders = 2 ∧ s.env.sent.length = 2 ∧ s.db.orders.rows.length = 2 ∧
        s.db.catalog.items.rows.map (·.orderedQuantity) = [2] :=
  ⟨accepts_flattening, _, .cons rfl (.cons rfl (.cons rfl (.nil _))),
    by decide +kernel, by decide +kernel, by decide +kernel, by decide +kernel, by decide +kernel⟩

end ClientSession

end Storefront
