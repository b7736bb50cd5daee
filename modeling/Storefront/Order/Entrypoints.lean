import Storefront.Catalog.Service
import Storefront.Order.CreateOrder
import Storefront.Transport.DbSession

/-!
# The checkout and order handlers

`make_checkout` and `make_order_entrypoint` (`transport/handlers/client/order/entrypoints.py`),
with the parts of the user service they call. The checkout data of the session cookie is read
and written in the environment of the request (`RequestState`).

* `run_makeCheckout_cases` — a checkout stores the lines the check accepted, when it adjusted
  none, and raises otherwise; it commits nothing (`endState_postCheckout`);
* `makeOrderEntrypoint_eq_ok` — an order that returned has made the writes of `orderPlan`,
  planned from the rows its reservation selected;
* `postOrder_commits_iff` — what a `POST /order` that runs alone commits.
-/

namespace Storefront

variable {σ : Type}

/-! ### The schemas of `transport/handlers/client/order/schemas.py` -/

structure MakeCheckoutRequestSchema where
  items : List CatalogItemQuantity
  deriving DecidableEq, Repr

structure CreateOrderRequestSchema where
  deliveryData : Option Delivery
  creditIds : List UUID
  deriving DecidableEq, Repr

/-! ### Carts (`services/user/service.py`) -/

/-- `UserRepository.get_user_cart_items` -/
def getUserCartItems (user : UUID) : App σ (List CartItemORM) :=
  Session.query postgres fun db => db.carts.table.rows.filter fun row => row.userId = user

/-- The inner loop of `update_cart_items`, which stops at the first cart row that has the id
of the item. -/
def updateCartItem (cartItems : List CartItemORM) (item : ShortCheckoutItem) : App σ Unit :=
  match cartItems.find? fun row => row.id = item.id with
  | some row => Session.add (.setCartItemQuantity row.id item.quantity)
  | none => pure ()

/-- `UserService.update_cart_items` -/
def updateCartItems (user : UUID) (updatedCartItems : List ShortCheckoutItem) : App σ Unit := do
  let cartItems ← getUserCartItems user
  forM updatedCartItems (updateCartItem cartItems)

/-- `UserService.remove_items_from_cart` -/
def removeItemsFromCart (user : UUID) (itemIds : List UUID) : App σ Unit :=
  Session.execute postgres (.deleteCartItems user itemIds)

/-! ### The handlers -/

/-- `request.session.update({SESSION_CHECKOUT_DATA_KEY: …})` -/
def storeCheckoutData (items : List AvailableCheckoutItem) : App RequestState Unit :=
  modify fun c => { c with env := { c.env with checkoutData := items } }

/-- `make_checkout` -/
def makeCheckout (P : Pydantic) (user : UserIdentity) (requestData : MakeCheckoutRequestSchema) :
    App RequestState Unit := do
  let cartItemsAvailability ← verifyCheckoutData P requestData.items
  if cartItemsAvailability.adjustedItems ≠ [] then
    updateCartItems user.id cartItemsAvailability.adjustedItems
    throw .invalidCheckoutDataError
  else
    storeCheckoutData cartItemsAvailability.availableItems

/-- `any(item.preorder_id for item in checkout_items)` -/
def isPreorder (checkoutItems : List AvailableCheckoutItem) : Bool :=
  checkoutItems.any fun item => item.preorderId.isSome

/-- The guard of an order that is not a preorder. The recipient of a delivery is a model and
so counts as true: the guard raises nothing, except where there is no delivery to look at. -/
def checkDeliveryData (checkoutItems : List AvailableCheckoutItem)
    (deliveryData : Option Delivery) : Except PyExc Unit :=
  if isPreorder checkoutItems then .ok ()
  else (attributeOf deliveryData).map fun _ => ()

/-- `order.delivery_data if not is_preorder else None` -/
def orderDeliveryData (checkoutItems : List AvailableCheckoutItem)
    (deliveryData : Option Delivery) : Option Delivery :=
  if isPreorder checkoutItems then none else deliveryData

/-- `make_order_entrypoint` -/
def makeOrderEntrypoint (orm : Orm) (w : Outside) (user : UserIdentity)
    (order : CreateOrderRequestSchema) : App RequestState String := do
  let checkoutItems := (← get).env.checkoutData
  raiseIf (checkoutItems = []) .checkoutDataIsEmptyError
  liftExcept (checkDeliveryData checkoutItems order.deliveryData)
  reserveCatalogItems (checkoutItems.map (·.toShortCheckoutItem))
  let paymentLink ← createOrder orm w user order.creditIds
    (orderDeliveryData checkoutItems order.deliveryData) checkoutItems
  removeItemsFromCart user.id (checkoutItems.map (·.id))
  return paymentLink

/-- `POST /checkout`, in the transaction of its request. -/
def postCheckout (P : Pydantic) (fault : Option PyExc) (user : UserIdentity)
    (requestData : MakeCheckoutRequestSchema) : App RequestState Unit :=
  initCtxDbSession postgres fault .post (makeCheckout P user requestData)

/-- `POST /order`, in the transaction of its request. -/
def postOrder (orm : Orm) (w : Outside) (fault : Option PyExc) (user : UserIdentity)
    (order : CreateOrderRequestSchema) : App RequestState String :=
  initCtxDbSession postgres fault .post (makeOrderEntrypoint orm w user order)

/-! ### A checkout -/

section Checkout

variable {P : Pydantic} {user : UserIdentity} {requestData : MakeCheckoutRequestSchema}

/-- The update of the cart rows only adds writes to the session. -/
theorem run_updateCartItems (user : UserIdentity) (updated : List ShortCheckoutItem)
    {c : Ctx Database Write σ} (hc : c.Clean) :
    ∃ c', (updateCartItems user.id updated).run c = .ok () c' ∧ c'.committed = c.committed ∧
      c'.env = c.env := by
  -- each turn adds a write or does nothing
  have hloop : ∀ (cartItems : List CartItemORM) (updated : List ShortCheckoutItem)
      (c : Ctx Database Write σ), ∃ c',
        (forM updated (updateCartItem cartItems) : App σ Unit).run c = .ok () c' ∧
        c'.committed = c.committed ∧ c'.env = c.env := by
    intro cartItems updated
    induction updated with
    | nil => exact fun c => ⟨c, rfl, rfl, rfl⟩
    | cons item updated ih =>
      intro c
      have hitem : ∃ c₁, (updateCartItem cartItems item : App σ Unit).run c = .ok () c₁ ∧
          c₁.committed = c.committed ∧ c₁.env = c.env := by
        unfold updateCartItem
        split
        · exact ⟨_, Session.run_add c _, rfl, rfl⟩
        · exact ⟨c, rfl, rfl, rfl⟩
      obtain ⟨c₁, hrun, hcom, henv⟩ := hitem
      obtain ⟨c', hrun', hcom', henv'⟩ := ih c₁
      rw [List.forM_cons, run_bind_ok hrun]
      exact ⟨c', hrun', hcom'.trans hcom, henv'.trans henv⟩
  unfold updateCartItems getUserCartItems
  rw [run_bind_ok (Session.run_query_clean postgres c hc _)]
  exact hloop _ _ _

/-- **What a checkout does.** When the check adjusts no line, it stores the available items;
in all other cases it raises, with the committed state and the environment as they were. -/
theorem run_makeCheckout_cases (user : UserIdentity) {c : Ctx Database Write RequestState}
    (hc : c.Clean) :
    (∃ items, (verifyCheckoutData P requestData.items).run c = .ok ⟨items, []⟩ c ∧
      (makeCheckout P user requestData).run c =
        .ok () { c with env := { c.env with checkoutData := items } }) ∨
    ((∀ items, (verifyCheckoutData P requestData.items).run c ≠ .ok ⟨items, []⟩ c) ∧
      ∃ e c', (makeCheckout P user requestData).run c = .error e c' ∧
        c'.committed = c.committed ∧ c'.env = c.env) := by
  have hverify := endState_verifyCheckoutData (P := P) requestData.items hc
  unfold makeCheckout
  cases hrun : (verifyCheckoutData P requestData.items).run c with
  | error e c₁ =>
    rw [hrun] at hverify
    obtain rfl : c₁ = c := hverify
    -- the check raises
    refine .inr ⟨fun items h => ?_, e, _, run_bind_error hrun, rfl, rfl⟩
    cases h
  | ok data c₁ =>
    rw [hrun] at hverify
    obtain rfl : c₁ = c := hverify
    rw [run_bind_ok hrun]
    obtain ⟨available, adjusted⟩ := data
    by_cases hadjusted : adjusted = []
    -- all lines are available
    · subst hadjusted
      left
      refine ⟨available, rfl, ?_⟩
      simp only [ne_eq, not_true_eq_false, if_false]
      rfl
    -- some line was adjusted: the cart is updated and the handler raises
    · right
      refine ⟨fun items h => hadjusted ?_, ?_⟩
      · cases h
        rfl
      · obtain ⟨c', hupdate, hcom, henv⟩ := run_updateCartItems user adjusted hc
        simp only [ne_eq, hadjusted, not_false_eq_true, if_true]
        exact ⟨_, c', run_bind_ok hupdate, hcom, henv⟩

/-- **What a `POST /checkout` leaves behind.** The committed state is the one it found; the
session data is that of the request, or the lines the check accepted, all of them. -/
theorem endState_postCheckout (P : Pydantic) (user : UserIdentity)
    (requestData : MakeCheckoutRequestSchema) (fault : Option PyExc) (db : Database)
    (env : RequestState) :
    (endState ((postCheckout P fault user requestData).run (Ctx.start db env))).committed = db ∧
      (((∀ items, (verifyCheckoutData P requestData.items).run (Ctx.start db env) ≠
            .ok ⟨items, []⟩ (Ctx.start db env)) ∧
          (endState ((postCheckout P fault user requestData).run (Ctx.start db env))).env = env) ∨
        ∃ items, (verifyCheckoutData P requestData.items).run (Ctx.start db env) =
            .ok ⟨items, []⟩ (Ctx.start db env) ∧
          (endState ((postCheckout P fault user requestData).run (Ctx.start db env))).env =
            { env with checkoutData := items }) := by
  unfold postCheckout
  rw [run_initCtxDbSession]
  rcases run_makeCheckout_cases user (Ctx.clean_start db env) with
    ⟨items, hverify, hrun⟩ | ⟨hnot, e, c', hrun, hcom, henv⟩
  · rw [hrun]
    simp only [if_neg (show Method.post ≠ .get by decide)]
    -- nothing is pending at the commit, which may still go wrong
    rcases Session.run_commit_cases postgres
      { Ctx.start db env with env := { env with checkoutData := items } } fault with
      ⟨db', -, -, happly, hcommit⟩ | ⟨e, c'', hcommit, hcom, henv⟩
    · rw [show db' = db from (Except.ok.inj happly).symm] at hcommit
      rw [show (Ctx.start db env).env = env from rfl, hcommit]
      exact ⟨rfl, .inr ⟨items, hverify, rfl⟩⟩
    · rw [show (Ctx.start db env).env = env from rfl, hcommit]
      exact ⟨hcom, .inr ⟨items, hverify, henv⟩⟩
  · rw [hrun]
    exact ⟨hcom, .inl ⟨hnot, henv⟩⟩

end Checkout

/-! ### An order -/

/-- What a `POST /order` is made from: the customer, the body, what lies outside and the
checkout data of the session cookie. -/
structure OrderRequest where
  user : UserIdentity
  order : CreateOrderRequestSchema
  outside : Outside
  checkoutData : List AvailableCheckoutItem

/-- `{item.id: item.quantity for item in items}` -/
def OrderRequest.reservation (r : OrderRequest) : Dict UUID Int :=
  Dict.ofList (r.checkoutData.map fun item => (item.id, item.quantity))

/-- The writes of an order after its reservation. -/
def OrderRequest.storing (orm : Orm) (r : OrderRequest) : Except PyExc (List Write) := do
  let order ← orderWrites orm r.outside r.user r.order.creditIds
    (orderDeliveryData r.checkoutData r.order.deliveryData) r.checkoutData
  let payment ← r.outside.bank (initPaymentRequest r.outside r.user r.checkoutData)
  return order ++ [.insertPayment (paymentObject r.outside payment),
    .deleteCartItems r.user.id (r.checkoutData.map (·.id))]

/-- All writes of an order whose reservation selects the given rows. -/
def orderPlan (orm : Orm) (r : OrderRequest) (rows : List CatalogItemORM) :
    Except PyExc (List Write) :=
  if r.checkoutData = [] then .error .checkoutDataIsEmptyError
  else do
    checkDeliveryData r.checkoutData r.order.deliveryData
    let stored ← r.storing orm
    return reservationWrites r.reservation rows ++ stored

section Order

variable {orm : Orm} {w : Outside} {user : UserIdentity} {order : CreateOrderRequestSchema}

theorem storing_eq_ok {r : OrderRequest} {ws : List Write} :
    r.storing orm = .ok ws ↔
      ∃ order payment, orderWrites orm r.outside r.user r.order.creditIds
          (orderDeliveryData r.checkoutData r.order.deliveryData) r.checkoutData = .ok order ∧
        r.outside.bank (initPaymentRequest r.outside r.user r.checkoutData) = .ok payment ∧
        order ++ [.insertPayment (paymentObject r.outside payment),
          .deleteCartItems r.user.id (r.checkoutData.map (·.id))] = ws := by
  unfold OrderRequest.storing
  simp only [except_bind_eq_ok, pure, Except.pure, Except.ok.injEq, exists_and_left]

theorem orderPlan_eq_ok {r : OrderRequest} {rows : List CatalogItemORM} {ws : List Write} :
    orderPlan orm r rows = .ok ws ↔
      r.checkoutData ≠ [] ∧ checkDeliveryData r.checkoutData r.order.deliveryData = .ok () ∧
        ∃ stored, r.storing orm = .ok stored ∧
          reservationWrites r.reservation rows ++ stored = ws := by
  by_cases hnil : r.checkoutData = []
  · have hplan : orderPlan orm r rows = .error .checkoutDataIsEmptyError := if_pos hnil
    rw [hplan]
    exact ⟨fun h => (by cases h), fun h => absurd hnil h.1⟩
  · have hplan : orderPlan orm r rows = (do
        checkDeliveryData r.checkoutData r.order.deliveryData
        let stored ← r.storing orm
        return reservationWrites r.reservation rows ++ stored) := if_neg hnil
    rw [hplan, except_bind_eq_ok]
    simp only [except_bind_eq_ok, pure, Except.pure, Except.ok.injEq]
    exact ⟨fun ⟨_, hcheck, h⟩ => ⟨hnil, hcheck, h⟩, fun ⟨_, hcheck, h⟩ => ⟨(), hcheck, h⟩⟩

theorem removeItemsFromCart_eq_ok {ids : List UUID} {c c' : Ctx Database Write σ} (hc : c.Clean) :
    (removeItemsFromCart user.id ids).run c = .ok () c' ↔
      ∃ db, postgres.applyAll [.deleteCartItems user.id ids] c.session.view = .ok db ∧
        c' = { c with session := ⟨db, [], false⟩ } := by
  rw [postgres.applyAll_singleton]
  exact Session.execute_eq_ok postgres c hc

/-- **Inversion of an order.** It returns exactly when its writes can be planned from the rows
it selects and the database takes them. -/
theorem makeOrderEntrypoint_eq_ok {c c' : Ctx Database Write RequestState} (hc : c.Clean)
    {link : String} :
    let r : OrderRequest := ⟨user, order, w, c.env.checkoutData⟩
    (makeOrderEntrypoint orm w user order).run c = .ok link c' ↔
      ∃ ws payment db, orderPlan orm r (selectForUpdate r.reservation c.session.view) = .ok ws ∧
        w.bank (initPaymentRequest w user c.env.checkoutData) = .ok payment ∧
        postgres.applyAll ws c.session.view = .ok db ∧
        link = payment.paymentUrl ∧
        c' = { c with
          session := ⟨db, [], false⟩
          env := { c.env with
            sent := c.env.sent ++ [initPaymentRequest w user c.env.checkoutData] } } := by
  intro r
  unfold makeOrderEntrypoint
  refine ⟨?_, ?_⟩
  -- the guards, the reservation, the order and the cart, one after the other
  · intro h
    obtain ⟨c₀, c₁, hget, h₁⟩ := bind_eq_ok.mp h
    cases hget
    obtain ⟨c₂, hraise, h₂⟩ := seq_eq_ok.mp h₁
    obtain ⟨hne, rfl⟩ := raiseIf_eq_ok.mp hraise
    obtain ⟨c₃, hlift, h₃⟩ := seq_eq_ok.mp h₂
    obtain ⟨hcheck, rfl⟩ := liftExcept_eq_ok.mp hlift
    obtain ⟨c₄, hreserve, h₄⟩ := seq_eq_ok.mp h₃
    obtain ⟨db₄, hdb₄, rfl⟩ := (reserveCatalogItems_eq_ok hc (d := r.reservation)
      (by rw [List.map_map]; rfl)).mp hreserve
    obtain ⟨url, c₅, hcreate, h₅⟩ := bind_eq_ok.mp h₄
    obtain ⟨stored, payment, db₅, hstored, hbank, hdb₅, rfl, rfl⟩ :=
      (createOrder_eq_ok ⟨rfl, rfl⟩).mp hcreate
    obtain ⟨c₆, hremove, h₆⟩ := seq_eq_ok.mp h₅
    obtain ⟨db₆, hdb₆, rfl⟩ := (removeItemsFromCart_eq_ok ⟨rfl, rfl⟩).mp hremove
    cases h₆
    -- what each statement wrote, put together, is what was planned
    refine ⟨_, payment, db₆, orderPlan_eq_ok.mpr ⟨hne, hcheck, _,
      storing_eq_ok.mpr ⟨stored, payment, hstored, hbank, rfl⟩, rfl⟩, hbank, ?_, rfl, rfl⟩
    rw [postgres.applyAll_append_ok hdb₄, List.append_cons, postgres.applyAll_append_ok hdb₅]
    exact hdb₆
  · rintro ⟨ws, payment, db, hplan, hbank, happly, rfl, rfl⟩
    obtain ⟨hne, hcheck, stored, hstoring, rfl⟩ := orderPlan_eq_ok.mp hplan
    obtain ⟨order', payment', horder, hbank', rfl⟩ := storing_eq_ok.mp hstoring
    obtain rfl : payment = payment' := Except.ok.inj (hbank.symm.trans hbank')
    -- the planned writes, cut where the statements end
    obtain ⟨db₁, hdb₁, hrest⟩ := (postgres.applyAll_append_eq_ok).mp happly
    rw [List.append_cons] at hrest
    obtain ⟨db₂, hdb₂, hdb⟩ := (postgres.applyAll_append_eq_ok).mp hrest
    refine bind_eq_ok.mpr ⟨c, c, rfl, ?_⟩
    refine seq_eq_ok.mpr ⟨c, raiseIf_eq_ok.mpr ⟨hne, rfl⟩, ?_⟩
    refine seq_eq_ok.mpr ⟨c, liftExcept_eq_ok.mpr ⟨hcheck, rfl⟩, ?_⟩
    refine seq_eq_ok.mpr ⟨_, (reserveCatalogItems_eq_ok hc (d := r.reservation)
      (by rw [List.map_map]; rfl)).mpr ⟨db₁, hdb₁, rfl⟩, ?_⟩
    refine bind_eq_ok.mpr ⟨_, _, (createOrder_eq_ok ⟨rfl, rfl⟩).mpr
      ⟨order', payment, db₂, horder, hbank, hdb₂, rfl, rfl⟩, ?_⟩
    exact seq_eq_ok.mpr ⟨_, (removeItemsFromCart_eq_ok ⟨rfl, rfl⟩).mpr ⟨db, hdb, rfl⟩, rfl⟩

/-- What the request does alone on the committed state: the writes planned from the rows it
selects there lead to `db'`. -/
def OrderRequest.Commits (orm : Orm) (r : OrderRequest) (db db' : Database) : Prop :=
  ∃ ws, orderPlan orm r (selectForUpdate r.reservation db) = .ok ws ∧
    postgres.applyAll ws db = .ok db'

/-- **What a `POST /order` that runs alone commits.** It returns, leaving `db'` committed,
exactly when its writes lead to `db'`. -/
theorem postOrder_commits_iff {r : OrderRequest} {sent : List InitPaymentRequest}
    {db db' : Database} :
    (∃ link c', (postOrder orm r.outside none r.user r.order).run
        (Ctx.start db ⟨r.checkoutData, sent⟩) = .ok link c' ∧ c'.committed = db') ↔
      r.Commits orm db db' := by
  refine ⟨?_, ?_⟩
  · rintro ⟨link, c', hrun, rfl⟩
    obtain ⟨c₁, hhandler, hclosed⟩ := initCtxDbSession_eq_ok.mp hrun
    obtain ⟨ws, payment, db₁, hplan, -, happly, -, rfl⟩ :=
      (makeOrderEntrypoint_eq_ok (Ctx.clean_start db _)).mp hhandler
    -- the handler has flushed everything
    rcases hclosed with ⟨hget, -⟩ | ⟨-, -, -, db₂, hpending, rfl⟩
    · cases hget
    · obtain rfl : db₁ = db₂ := Except.ok.inj hpending
      exact ⟨ws, hplan, happly⟩
  · rintro ⟨ws, hplan, happly⟩
    obtain ⟨-, -, stored, hstoring, -⟩ := orderPlan_eq_ok.mp hplan
    obtain ⟨-, payment, -, hbank, -⟩ := storing_eq_ok.mp hstoring
    -- the handler flushes everything, so the commit has nothing left to fail on
    have hhandler := (makeOrderEntrypoint_eq_ok (Ctx.clean_start db ⟨r.checkoutData, sent⟩)).mpr
      ⟨ws, payment, db', hplan, hbank, happly, rfl, rfl⟩
    exact ⟨_, _, run_initCtxDbSession_ok hhandler (by decide) rfl (postgres.applyAll_nil db'), rfl⟩

end Order

end Storefront
