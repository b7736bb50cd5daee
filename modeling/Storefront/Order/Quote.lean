import Storefront.Library.Updates
import Storefront.Order.CheckoutSession
import Storefront.Order.Verification

/-!
# What a client sees is what it orders

Between `POST /checkout` and `POST /order` a client looks at `GET /checkout`, and the shop goes on:
prices change, items are sold or taken down. All that an order knows of the catalog, besides the
stock, is in the checkout data of the session.

* `Quote` — the lines of a checkout and the database they were checked on; a session records the
  last one that was accepted as a whole (`accepted`), also where the commit of its request failed;
* `quoted_step` — the checkout data is made from the quote, through any actions;
* `orders_follow_checkout` — `GET /checkout` shows the lines of the quote, and an order that
  succeeds orders them, and has the bank asked for their sum, at the prices of the quote.
-/

namespace Storefront

/-! ### `GET /checkout` -/

/-- `get_checkout_data` -/
def getCheckoutData : App RequestState (List ShortCheckoutItem) := do
  let checkoutData := (← get).env.checkoutData
  raiseIf (checkoutData = []) .checkoutDataIsEmptyError
  return checkoutData.map (·.toShortCheckoutItem)

/-- `GET /checkout`, in the transaction of its request. -/
def getCheckout : App RequestState (List ShortCheckoutItem) :=
  initCtxDbSession postgres none .get getCheckoutData

namespace ClientSession

/-! ### Quotes -/

/-- The lines that a checkout asked for, and the database that they were checked on. -/
structure Quote where
  db : Database
  lines : List CatalogItemQuantity

/-- The price of an item when it was quoted. -/
def Quote.price (quote : Quote) (id : UUID) : Int :=
  ((quote.db.catalog.items.find? id).map (·.price)).getD 0

/-- The sum of a quote. -/
def Quote.sum (quote : Quote) : Int :=
  (quote.lines.map fun line => quote.price line.id * line.quantity).sum

/-- The check returned, and has adjusted no line. -/
def adjustsNone {S : Type} : EStateM.Result PyExc S CheckoutData → Bool
  | .ok data _ => data.adjustedItems = []
  | .error _ _ => false

/-- The quote that an action makes: a checkout of which every line is available. -/
def accepted (P : Pydantic) (s : ClientSession) : SessionAction → Option Quote
  | .checkout requestData _ =>
    if adjustsNone ((verifyCheckoutData P requestData.items).run (Ctx.start s.db s.env)) then
      some ⟨s.db, requestData.items⟩
    else none
  | _ => none

/-- What a client relies on when a checkout was accepted. The catalog may be another one now. -/
structure Honours (orm : Orm) (user : UserIdentity) (s : ClientSession) (quote : Quote) : Prop where
  shown : getCheckout.run (Ctx.start s.db s.env) =
    .ok (quote.lines.map fun line => ⟨line.id, line.quantity⟩) (Ctx.start s.db s.env)
  ordered : ∀ order outside fault link c,
    (postOrder orm outside fault user order).run (Ctx.start s.db s.env) = .ok link c →
      ∃ lines request, c.committed.orderItems.rows = s.db.orderItems.rows ++ lines ∧
        lines.map (fun line => (line.itemId, line.quantity, line.price)) =
          quote.lines.map (fun line => (line.id, line.quantity, quote.price line.id)) ∧
        c.env.sent = s.env.sent ++ [request] ∧ request.amount = 100 * quote.sum

/-- What a client gets when none was. -/
structure Refuses (orm : Orm) (user : UserIdentity) (s : ClientSession) : Prop where
  shown : getCheckout.run (Ctx.start s.db s.env) =
    .error .checkoutDataIsEmptyError (Ctx.start s.db s.env)
  ordered : ∀ order outside fault,
    (postOrder orm outside fault user order).run (Ctx.start s.db s.env) =
      .error .checkoutDataIsEmptyError (Ctx.start s.db s.env)

/-- The checkout data is made from the quote. -/
def Quoted (items : List AvailableCheckoutItem) (quote : Quote) : Prop :=
  quote.lines ≠ [] ∧ (quote.lines.map (·.id)).Nodup ∧
    items.map AvailableCheckoutItem.line = quote.lines ∧
    ∀ item ∈ items, item.price = quote.price item.id

section Steps

variable {P : Pydantic} {orm : Orm} {user : UserIdentity} {s s' : ClientSession}

/-- A checkout that is accepted makes a quote, and its data is made from it. -/
theorem quoted_of_verify {requestData : MakeCheckoutRequestSchema} {env : RequestState}
    {db : Database} {items : List AvailableCheckoutItem}
    (h : (verifyCheckoutData P requestData.items).run (Ctx.start db env) =
      .ok ⟨items, []⟩ (Ctx.start db env)) : Quoted items ⟨db, requestData.items⟩ := by
  obtain ⟨hparts, hne⟩ := partitioned_of_run h
  obtain ⟨-, hnodup, -, hlines⟩ := verifyCheckoutData_eq_ok (Ctx.clean_start db env) h
  refine ⟨hne, hnodup, hlines rfl, fun item hitem => ?_⟩
  obtain ⟨row, hrow, havailable⟩ := hparts.available item hitem
  have hfind : db.catalog.items.find? item.id = some row := by
    rw [havailable.id]
    exact Table.find?_of_mem hrow
  unfold Quote.price
  rw [hfind, havailable.price]
  rfl

/-- What an order does not change before its commit. -/
def kept (c : Ctx Database Write RequestState) : Database × List AvailableCheckoutItem :=
  (c.committed, c.env.checkoutData)

theorem kept_createOrder (w : Outside) (creditIds : List UUID) (deliveryData : Option Delivery)
    (items : List AvailableCheckoutItem) (c : Ctx Database Write RequestState) :
    kept (endState ((createOrder orm w user creditIds deliveryData items).run c)) = kept c := by
  -- a unit of work is flushed, and the bank asked; neither commits nor touches the session
  have hcreate : ∀ ws (c : Ctx Database Write RequestState),
      kept (endState ((create ws).run c)) = kept c :=
    fun ws c => Prod.ext (committed_create ws c)
      (congrArg RequestState.checkoutData (env_create ws c))
  have hpayment : ∀ request (c : Ctx Database Write RequestState),
      kept (endState ((initPayment w request).run c)) = kept c := by
    intro request c
    change kept (endState ((liftExcept (w.bank request) : App RequestState _).run
      { c with env := { c.env with sent := c.env.sent ++ [request] } })) = _
    rw [endState_liftExcept]
    rfl
  unfold createOrder
  refine (frame_bind kept (fun order c => ?_) c).trans (congrArg kept (endState_liftExcept _ c))
  refine (frame_bind kept (fun _ c => ?_) c).trans (hcreate order c)
  refine (frame_bind kept (fun payment c => ?_) c).trans (hpayment _ c)
  exact (frame_bind kept (fun _ _ => rfl) c).trans (hcreate _ c)

theorem kept_makeOrderEntrypoint (r : OrderRequest) (db : Database)
    (sent : List InitPaymentRequest) :
    kept (endState ((makeOrderEntrypoint orm r.outside r.user r.order).run
      (Ctx.start db ⟨r.checkoutData, sent⟩))) = (db, r.checkoutData) := by
  rw [run_makeOrderEntrypoint]
  by_cases hdata : r.checkoutData = []
  · rw [run_bind_error (run_raiseIf_of_pos hdata _ _)]
    rfl
  rw [run_bind_ok (run_raiseIf_of_not hdata _ _)]
  cases hdelivery : checkDeliveryData r.checkoutData r.order.deliveryData with
  -- every check that fails leaves the session as it was
  | error e => rfl
  | ok u =>
    rw [run_bind_ok (run_liftExcept (.ok u) _)]
    have hreserve := @run_reserveCatalogItems r db sent
    cases hstock : postgres.applyAll (reservationWrites r.reservation
        (selectForUpdate r.reservation db)) db with
    | error e =>
      rw [hstock] at hreserve
      rw [run_bind_error hreserve]
      rfl
    | ok db₁ =>
      rw [hstock] at hreserve
      -- the reservation is flushed, not committed
      rw [run_bind_ok hreserve]
      -- the order is created and the cart is emptied
      refine (frame_bind kept (fun link c => ?_) _).trans (kept_createOrder _ _ _ _ _)
      refine (frame_bind kept (fun _ _ => rfl) c).trans ?_
      exact Prod.ext (Session.committed_execute postgres c _)
        (congrArg RequestState.checkoutData (Session.env_execute postgres c _))

/-- An order leaves the checkout data. -/
theorem checkoutData_postOrder (r : OrderRequest) (db : Database) (sent : List InitPaymentRequest)
    (fault : Option PyExc) :
    (endState ((postOrder orm r.outside fault r.user r.order).run
      (Ctx.start db ⟨r.checkoutData, sent⟩))).env.checkoutData = r.checkoutData := by
  unfold postOrder
  rw [env_initCtxDbSession]
  exact congrArg Prod.snd (kept_makeOrderEntrypoint r db sent)

/-- One that raises leaves the committed state. -/
theorem committed_postOrder {r : OrderRequest} {db : Database} {sent : List InitPaymentRequest}
    {fault : Option PyExc} {e : PyExc} {c : Ctx Database Write RequestState}
    (h : (postOrder orm r.outside fault r.user r.order).run
      (Ctx.start db ⟨r.checkoutData, sent⟩) = .error e c) : c.committed = db := by
  have hkept := @kept_makeOrderEntrypoint orm r db sent
  exact (committed_initCtxDbSession_error h).trans (congrArg Prod.fst hkept)

/-- **One action** keeps the checkout data in step with the quote. -/
theorem quoted_step {quote quote' : Option Quote} {a : SessionAction}
    (h : quote.elim (s.env.checkoutData = []) (Quoted s.env.checkoutData))
    (h_step : recorded (step P orm user) (accepted P) (s, quote) a (s', quote')) :
    quote'.elim (s'.env.checkoutData = []) (Quoted s'.env.checkoutData) := by
  obtain ⟨hnext, hquote⟩ := h_step
  obtain rfl : s' = s.next P orm user a := hnext
  obtain rfl : quote' = (accepted P s a).or quote := hquote
  cases a with
  | checkout requestData fault =>
    -- only the session is quoted from, whether the checkout succeeds or raises
    have henv : (s.next P orm user (.checkout requestData fault)).env =
        (endState ((postCheckout P fault user requestData).run (Ctx.start s.db s.env))).env := by
      cases hrun : (postCheckout P fault user requestData).run (Ctx.start s.db s.env) with
      | ok u c => rw [next_checkout_ok hrun, endState_ok]
      | error e c => rw [next_checkout_error hrun, endState_error]
    rw [henv]
    obtain ⟨-, ⟨hnot, hkept⟩ | ⟨items, hverify, hstored⟩⟩ :=
      endState_postCheckout P user requestData fault s.db s.env
    · -- no line is stored, and nothing is quoted
      have hnone : accepted P s (.checkout requestData fault) = none := by
        refine if_neg fun hadjusts => ?_
        have hend := endState_verifyCheckoutData (P := P) requestData.items
          (Ctx.clean_start s.db s.env)
        -- the verification would have had to return with nothing adjusted
        cases hrun : (verifyCheckoutData P requestData.items).run (Ctx.start s.db s.env) with
        | error e c =>
          rw [hrun] at hadjusts
          cases hadjusts
        | ok data c =>
          rw [hrun] at hadjusts hend
          obtain rfl : c = Ctx.start s.db s.env := hend
          obtain ⟨available, adjusted⟩ := data
          obtain rfl : adjusted = [] := of_decide_eq_true hadjusts
          exact hnot available hrun
      rw [hnone, hkept]
      exact h
    · -- the lines are stored as they were verified: the stored offer is the new quote
      have hsome : accepted P s (.checkout requestData fault) = some ⟨s.db, requestData.items⟩ := by
        refine if_pos ?_
        rw [hverify]
        rfl
      rw [hsome, hstored]
      exact quoted_of_verify hverify
  | order order outside fault =>
    -- checkout data outlives the order, successful or not, so the quote stands
    have hdata : (s.next P orm user (.order order outside fault)).env.checkoutData =
        s.env.checkoutData := by
      have hkept : (endState ((postOrder orm outside fault user order).run
          (Ctx.start s.db s.env))).env.checkoutData = s.env.checkoutData :=
        checkoutData_postOrder (s.request user order outside) s.db s.env.sent fault
      rw [← hkept]
      cases hrun : (postOrder orm outside fault user order).run (Ctx.start s.db s.env) with
      | ok link c => rw [next_order_ok hrun, endState_ok]
      | error e c => rw [next_order_error hrun, endState_error]
    rw [hdata]
    exact h
  -- other requests change the database, which the quote has a copy of
  | others db => exact h

/-- What `GET /checkout` answers. -/
theorem run_getCheckout (db : Database) (env : RequestState) :
    getCheckout.run (Ctx.start db env) =
      if env.checkoutData = [] then .error .checkoutDataIsEmptyError (Ctx.start db env)
      else .ok (env.checkoutData.map (·.toShortCheckoutItem)) (Ctx.start db env) := by
  have hhandler : getCheckoutData.run (Ctx.start db env) = (do
      raiseIf (env.checkoutData = []) .checkoutDataIsEmptyError
      return env.checkoutData.map (·.toShortCheckoutItem) : App RequestState _).run
        (Ctx.start db env) := rfl
  unfold getCheckout
  rw [run_initCtxDbSession, hhandler]
  by_cases hdata : env.checkoutData = []
  · rw [run_bind_error (run_raiseIf_of_pos hdata _ _), if_pos hdata]
    rfl
  · rw [run_bind_ok (run_raiseIf_of_not hdata _ _), if_neg hdata]
    rfl

/-- A session without checkout data. -/
theorem refuses_of_nil (h : s.env.checkoutData = []) : Refuses orm user s where
  shown := by rw [run_getCheckout, if_pos h]
  ordered := by
    intro order outside fault
    have hrun : (makeOrderEntrypoint orm outside user order).run (Ctx.start s.db s.env) =
        .error .checkoutDataIsEmptyError (Ctx.start s.db s.env) := by
      refine (@run_makeOrderEntrypoint orm (s.request user order outside) s.db s.env.sent).trans ?_
      exact run_bind_error (run_raiseIf_of_pos h _ _)
    exact run_initCtxDbSession_error hrun

/-- The lines of checkout data with their prices are those of the quote. -/
theorem map_of_quoted {β : Type} {items : List AvailableCheckoutItem} {quote : Quote}
    (h : Quoted items quote) (f : CatalogItemQuantity → Int → β) :
    items.map (fun item => f item.line item.price) =
      quote.lines.map fun line => f line (quote.price line.id) := by
  obtain ⟨-, -, hlines, hprice⟩ := h
  rw [← hlines, List.map_map]
  refine List.map_congr_left fun item hitem => ?_
  rw [hprice item hitem]
  rfl

/-- The bank is asked for the sum of the quote, in kopecks. -/
theorem amount_of_quoted {items : List AvailableCheckoutItem} {quote : Quote}
    (h : Quoted items quote) (outside : Outside) :
    (initPaymentRequest outside user items).amount = 100 * quote.sum := by
  have hprices : items.map AvailableCheckoutItem.fullPrice =
      quote.lines.map fun line => quote.price line.id * line.quantity :=
    map_of_quoted h fun line price => price * line.quantity
  rw [amount_initPaymentRequest, hprices]
  rfl

/-- A session whose checkout data is made from a quote. -/
theorem honours_of_quoted {quote : Quote} (h : Quoted s.env.checkoutData quote) :
    Honours orm user s quote := by
  refine ⟨?_, ?_⟩
  · have hdata : s.env.checkoutData ≠ [] := by
      intro hnil
      have hlines := h.2.2.1
      rw [hnil] at hlines
      exact h.1 hlines.symm
    rw [run_getCheckout, if_neg hdata]
    exact congrArg (fun items => EStateM.Result.ok items _)
      (map_of_quoted h fun line _ => (⟨line.id, line.quantity⟩ : ShortCheckoutItem))
  · intro order outside fault link c hrun
    let r := s.request user order outside
    obtain rfl : fault = none := postOrder_fault (r := r) hrun
    -- what is committed are the lines of the checkout data
    have hcommits : r.Commits orm s.db c.committed :=
      postOrder_commits_iff.mp ⟨link, c, hrun, rfl⟩
    obtain ⟨-, hlines⟩ := Commits.stock hcommits
    -- and what is sent is the request for their sum
    have hsent : c.env.sent =
        s.env.sent ++ [initPaymentRequest outside user s.env.checkoutData] := by
      obtain ⟨c₁, hhandler, ⟨hget, -⟩ | ⟨-, -, -, db, -, rfl⟩⟩ := initCtxDbSession_eq_ok.mp hrun
      · cases hget
      · obtain ⟨ws, payment, db', -, -, -, -, rfl⟩ :=
          (makeOrderEntrypoint_eq_ok (Ctx.clean_start s.db s.env)).mp hhandler
        rfl
    refine ⟨_, _, hlines, ?_, hsent, amount_of_quoted h outside⟩
    calc (r.checkoutData.zipIdx.map (orderLine outside order.creditIds)).map
          (fun line => (line.itemId, line.quantity, line.price))
        = r.checkoutData.map fun item => (item.id, item.quantity, item.price) :=
          map_orderLine (fun id quantity price => (id, quantity, price)) _ _ _
      _ = quote.lines.map fun line => (line.id, line.quantity, quote.price line.id) :=
          map_of_quoted h fun line price => (line.id, line.quantity, price)

end Steps

/-- **An order is what was seen at the prices it was seen at.** In every run of a session, whatever
others do to the shop in between, `GET /checkout` shows the lines of the last checkout that was
accepted, and an order that succeeds is of these lines, with the prices of then, and asks the bank
for their sum; without such a checkout there is nothing to see and nothing to order. -/
theorem orders_follow_checkout {P : Pydantic} {orm : Orm} {user : UserIdentity}
    {db₀ : Database} {actions : List SessionAction} {s : ClientSession}
    (h : Run (step P orm user) (start db₀) actions s) :
    ∃ quote, Run (recorded (step P orm user) (accepted P)) (start db₀, none) actions (s, quote) ∧
      quote.elim (Refuses orm user s) (Honours orm user s) := by
  obtain ⟨quote, hrun⟩ := h.exists_recorded (accepted P) none
  refine ⟨quote, hrun, ?_⟩
  have hquoted : quote.elim (s.env.checkoutData = []) (Quoted s.env.checkoutData) :=
    hrun.invariant
      (I := fun x => x.2.elim (x.1.env.checkoutData = []) (Quoted x.1.env.checkoutData))
      rfl fun _ _ _ hI hstep => quoted_step hI hstep
  cases quote with
  | none => exact refuses_of_nil hquoted
  | some quote => exact honours_of_quoted hquoted

/-- The shop of the samples after its item has become dearer. -/
def dearerDatabase : Database :=
  Database.ofItem { soldOutItem with price := 150, quantity := some 3 } rfl (by decide)

/-- Two pieces that were seen at 100 are ordered at 100, here with relationships that take the
invoices. -/
theorem orders_follow_checkout_dearer :
    ∃ s quote, s.db = dearerDatabase ∧ quote.sum = 200 ∧
      (∀ orm, Run (recorded (step .strict orm sampleUser) (accepted .strict))
          (start sampleDatabase, none) [.checkout ⟨[⟨1, 2⟩]⟩ none, .others dearerDatabase]
          (s, some quote) ∧ Honours orm sampleUser s quote) ∧
      (endState ((postOrder .flattening sampleOutside none sampleUser
        (Shop.sampleOrder Shop.twoPieces).order).run (Ctx.start s.db s.env))).env.sent.map
          (·.amount) = [20000] := by
  let s₁ : ClientSession :=
    (start sampleDatabase).next .strict .flattening sampleUser (.checkout ⟨[⟨1, 2⟩]⟩ none)
  let quote : Quote := ⟨sampleDatabase, [⟨1, 2⟩]⟩
  refine ⟨{ s₁ with db := dearerDatabase }, quote, rfl, rfl, fun orm => ?_, by decide +kernel⟩
  -- a checkout is the same with all relationships
  have hcheckout : recorded (step .strict orm sampleUser) (accepted .strict)
      (start sampleDatabase, none) (.checkout ⟨[⟨1, 2⟩]⟩ none) (s₁, some quote) := ⟨rfl, rfl⟩
  have hothers : recorded (step .strict orm sampleUser) (accepted .strict)
      (s₁, some quote) (.others dearerDatabase) ({ s₁ with db := dearerDatabase }, some quote) :=
    ⟨rfl, rfl⟩
  have hrecorded := Run.cons hcheckout (.cons hothers (.nil _))
  have hrun : Run (step .strict orm sampleUser) (start sampleDatabase)
      [.checkout ⟨[⟨1, 2⟩]⟩ none, .others dearerDatabase] { s₁ with db := dearerDatabase } :=
    .cons rfl (.cons rfl (.nil _))
  obtain ⟨quote', hquote, hkept⟩ := orders_follow_checkout hrun
  obtain rfl : quote' = some quote := by
    refine congrArg Prod.snd (hquote.deterministic hrecorded ?_)
    rintro x a x₁ x₂ ⟨hstep₁, hmark₁⟩ ⟨hstep₂, hmark₂⟩
    exact Prod.ext (Eq.trans hstep₁ hstep₂.symm) (hmark₁.trans hmark₂.symm)
  exact ⟨hrecorded, hkept⟩

end ClientSession

end Storefront
