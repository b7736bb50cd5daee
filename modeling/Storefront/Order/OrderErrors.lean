import Storefront.Order.CheckoutSession
import Storefront.Order.Verification

/-!
# The errors of an order

What a `POST /order` raises, when the bank accepts its payment. The guards are in three places:
the handler looks at the checkout data and at the delivery, the reservation at the stock, and
`create_order` at the point of the delivery. The handler's own guard raises nothing but the
`AttributeError` of an absent delivery, so a delivery that is missing is never reported by
`InvalidCheckoutDataError`; a point that is missing is found after the reservation.

* `NewRows.exists_applyAll` makes an order of `Storable` data go through once its stock is
  reserved (`exists_applyAll_order`);
* `answer_of_misses`, `answer_of_not_misses` — the outcomes of a request that has checkout data,
  by its delivery and the stock;
* `raisesAsDeclared_iff` — a request raises what is declared, and nothing else, exactly when
  there is no checkout data, or goods of a preorder, or a delivery with a point.
-/

namespace Storefront

/-! ### What a request meets -/

/-- The checkout data is what an accepted `POST /checkout` has stored. The stock may have changed
since; the items and the preorders of then are still there, as nothing deletes any. -/
def CheckedOutBefore (db : Database) (items : List AvailableCheckoutItem) : Prop :=
  ∃ (P : Pydantic) (fault : Option PyExc) (user : UserIdentity)
    (requestData : MakeCheckoutRequestSchema) (db₀ : Database) (env : RequestState)
    (c : Ctx Database Write RequestState),
    (postCheckout P fault user requestData).run (Ctx.start db₀ env) = .ok () c ∧
      c.env.checkoutData = items ∧
      db₀.catalog.items.keys ⊆ db.catalog.items.keys ∧
      db₀.catalog.preorders.keys ⊆ db.catalog.preorders.keys

/-- The ids that the tables of orders use. -/
def Database.usedIds (db : Database) : List UUID :=
  db.orders.keys ++ db.deliveries.keys ++ db.orderItems.keys ++ db.invoices.keys ++
    db.payments.keys

namespace OrderRequest

/-- Where a request constructs the objects that it stores. -/
def sites (r : OrderRequest) : List Site :=
  [.order, .delivery, .payment] ++ (List.range r.checkoutData.length).map .orderItem ++
    (mappingRefs r.checkoutData r.order.creditIds).map (·.site)

/-- What `uuid4` draws for these objects is distinct, and not in use. -/
structure DrawsNewIds (r : OrderRequest) (db : Database) : Prop where
  distinct : ∀ site ∈ r.sites, ∀ site' ∈ r.sites,
    r.outside.uuid site = r.outside.uuid site' → site = site'
  new : ∀ site ∈ r.sites, r.outside.uuid site ∉ db.usedIds

/-- Stock goods, with no delivery or with one that has no point. -/
def MissesDelivery (r : OrderRequest) : Prop :=
  isPreorder r.checkoutData = false ∧ ∀ delivery ∈ r.order.deliveryData, delivery.point = none

/-- Some item of a finite quantity has less left than is requested. -/
def ExceedsStock (r : OrderRequest) (db : Database) : Prop :=
  ∃ line ∈ r.checkoutData, ∃ item ∈ db.catalog.items.rows, item.id = line.id ∧
    ∃ quantity ∈ item.quantity, quantity < item.orderedQuantity + line.quantity

end OrderRequest

/-! ### The checkout data of an order -/

/-- Checkout data that an order can be made of: lines about distinct items, which are there, of
preorders that are there. -/
structure Storable (db : Database) (items : List AvailableCheckoutItem) : Prop where
  nonempty : items ≠ []
  distinct : (items.map (·.id)).Nodup
  known : ∀ line ∈ items, line.id ∈ db.catalog.items.keys
  preorders : ∀ line ∈ items, ∀ preorder ∈ line.preorderId, preorder ∈ db.catalog.preorders.keys

/-- **What an accepted checkout has stored can be ordered.** -/
theorem CheckedOutBefore.storable {db : Database} {items : List AvailableCheckoutItem}
    (h : CheckedOutBefore db items) : Storable db items := by
  obtain ⟨P, fault, user, requestData, db₀, env, c, hrun, hitems, hkeys, hpreorders⟩ := h
  obtain ⟨items', hverify, rfl⟩ := postCheckout_eq_ok hrun
  obtain rfl : items' = items := hitems
  obtain ⟨hpartitioned, hne⟩ := partitioned_of_run hverify
  obtain ⟨-, -, -, hlines⟩ := verifyCheckoutData_eq_ok (Ctx.clean_start db₀ env) hverify
  have hmap : items'.map AvailableCheckoutItem.line = requestData.items := hlines rfl
  refine ⟨?_, ?_, ?_, ?_⟩
  · rintro rfl
    exact hne hmap.symm
  · exact CheckedOut.nodup ⟨P, fault, user, requestData, db₀, env, _, hrun, rfl⟩
  · intro line hline
    obtain ⟨item, hitem, havailable⟩ := hpartitioned.available line hline
    rw [havailable.id]
    exact hkeys (Table.mem_keys_of_mem hitem)
  -- the preorder of a line is that of the item's publication
  · intro line hline preorder hpreorder
    obtain ⟨item, hitem, havailable⟩ := hpartitioned.available line hline
    rw [havailable.preorder] at hpreorder
    obtain ⟨publication, hpublication, hmem⟩ := Option.bind_eq_some_iff.mp hpreorder
    refine hpreorders (db₀.catalog.preorder_fk publication ?_ preorder hmem)
    exact (Table.find?_eq_some.mp hpublication).1

/-! ### Storing an order -/

section Storing

variable {orm : Orm} {r : OrderRequest} {db db₁ : Database}

/-- Rows whose ids a request draws are new in a table of orders. -/
theorem OrderRequest.DrawsNewIds.nodup_append {Row : Type} {key : Row → UUID}
    (h : r.DrawsNewIds db) (table : Table key) (h_used : table.keys ⊆ db.usedIds)
    {rows : List Row} (sites : List Site) (h_sites : sites ⊆ r.sites) (h_distinct : sites.Nodup)
    (h_keys : (rows.map key).Perm (sites.map r.outside.uuid)) :
    ((table.rows ++ rows).map key).Nodup := by
  have hdrawn : (sites.map r.outside.uuid).Nodup :=
    List.Nodup.map_on (fun site hsite site' hsite' =>
      h.distinct site (h_sites hsite) site' (h_sites hsite')) h_distinct
  rw [List.map_append]
  refine List.nodup_append.mpr ⟨table.nodup, h_keys.nodup_iff.mpr hdrawn, ?_⟩
  rintro id hid id' hid' rfl
  obtain ⟨site, hsite, rfl⟩ := List.mem_map.mp (h_keys.mem_iff.mp hid')
  exact h.new site (h_sites hsite) (h_used hid)

/-- The ids of the lines are drawn for the positions of their items. -/
theorem map_id_orderLine (w : Outside) (creditIds : List UUID)
    (items : List AvailableCheckoutItem) :
    (items.zipIdx.map (orderLine w creditIds)).map (·.id) =
      ((List.range items.length).map Site.orderItem).map w.uuid := by
  calc (items.zipIdx.map (orderLine w creditIds)).map (·.id)
      = (items.zipIdx.map Prod.snd).map fun index => w.uuid (.orderItem index) := by
        rw [List.map_map, List.map_map]
        rfl
    _ = (List.range items.length).map fun index => w.uuid (.orderItem index) := by
        rw [List.zipIdx_map_snd, List.range_eq_range']
    _ = ((List.range items.length).map Site.orderItem).map w.uuid := by
        rw [List.map_map]
        rfl

/-- The ids of the invoices are drawn where their objects are constructed. -/
theorem map_id_orderInvoiceRows (w : Outside) (creditIds : List UUID)
    {items : List AvailableCheckoutItem} (h_ids : (items.map (·.id)).Nodup) :
    ((orderInvoiceRows w items creditIds).map (·.id)).Perm
      (((mappingRefs items creditIds).map (·.site)).map w.uuid) := by
  unfold orderInvoiceRows
  rw [List.map_map, List.map_map]
  exact (orderRefs_perm h_ids).map _

/-- The foreign keys of an order and of its lines resolve. -/
theorem references_orderStatements (h : Storable db r.checkoutData)
    {delivery : Option DeliveryORM} : ∀ w ∈ orderStatements r.outside r.user r.order.creditIds
      r.checkoutData delivery, w.References db := by
  intro w hw
  unfold orderStatements at hw
  simp only [List.mem_append, List.mem_cons, List.mem_map] at hw
  rcases hw with (⟨_, -, rfl⟩ | rfl | ⟨_, ⟨p, hp, rfl⟩, rfl⟩) | ⟨_, -, rfl⟩
  · trivial
  -- the order has the preorder of its first line
  · intro preorder hpreorder
    obtain ⟨line, hline, hmem⟩ := Option.bind_eq_some_iff.mp hpreorder
    exact h.preorders line (List.mem_of_mem_head? hline) preorder hmem
  · exact h.known p.1 (List.fst_mem_of_mem_zipIdx hp)
  · trivial

/-- The statements of an order after its reservation, when the bank has answered. -/
def OrderRequest.placing (r : OrderRequest) (delivery : Option DeliveryORM)
    (payment : InitPaymentResponse) : List Write :=
  orderStatements r.outside r.user r.order.creditIds r.checkoutData delivery ++
    [.insertPayment (paymentObject r.outside payment),
      .deleteCartItems r.user.id (r.checkoutData.map (·.id))]

/-- Of one kind of row an order inserts the same with its payment and its reservation. -/
theorem filterMap_placing {α : Type} {g : Write → Option α}
    (h_reserve : ∀ id n, g (.setOrderedQuantity id n) = none)
    (h_payment : ∀ row, g (.insertPayment row) = none)
    (h_delete : ∀ user ids, g (.deleteCartItems user ids) = none) (d : Dict UUID Int)
    (rows : List CatalogItemORM) (delivery : Option DeliveryORM) (payment : InitPaymentResponse) :
    (reservationWrites d rows ++ r.placing delivery payment).filterMap g =
      (orderStatements r.outside r.user r.order.creditIds r.checkoutData delivery).filterMap g := by
  unfold OrderRequest.placing
  rw [List.filterMap_append, filterMap_reservationWrites h_reserve, List.nil_append,
    List.filterMap_append, List.filterMap_cons_none (h_payment _),
    List.filterMap_cons_none (h_delete _ _), List.filterMap_nil, List.append_nil]

/-- **The rows of an order are new**: their ids are drawn, and the foreign keys resolve. -/
theorem newRows_order (h_new : r.DrawsNewIds db) (h_storable : Storable db r.checkoutData)
    {delivery : Option DeliveryORM} (h_delivery : ∀ d ∈ delivery, d.id = r.outside.uuid .delivery)
    (d : Dict UUID Int) (rows : List CatalogItemORM) (payment : InitPaymentResponse) :
    NewRows (reservationWrites d rows ++ r.placing delivery payment) db := by
  have hinserts : Inserts (orderStatements r.outside r.user r.order.creditIds r.checkoutData
      delivery) _ _ _ _ := inserts_rows (orderRow r.outside r.user delivery r.checkoutData) delivery
    (r.checkoutData.zipIdx.map (orderLine r.outside r.order.creditIds))
    (orderInvoiceRows r.outside r.checkoutData r.order.creditIds)
  -- each table draws from sites of its own, and the ids drawn are distinct
  have hsites : ∀ site ∈ [Site.order, .delivery, .payment], [site] ⊆ r.sites := by
    intro site hsite site' hsite'
    rw [List.mem_singleton.mp hsite']
    exact List.mem_append_left _ (List.mem_append_left _ hsite)
  -- the ids in each table are in use
  have hused : db.orders.keys ⊆ db.usedIds ∧ db.deliveries.keys ⊆ db.usedIds ∧
      db.orderItems.keys ⊆ db.usedIds ∧ db.invoices.keys ⊆ db.usedIds ∧
      db.payments.keys ⊆ db.usedIds := by
    refine ⟨?_, ?_, ?_, ?_, ?_⟩ <;> intro id hid <;>
      simp only [Database.usedIds, List.mem_append, hid, true_or, or_true]
  refine ⟨?_, ?_, ?_, ?_, ?_, ?_⟩
  · rw [filterMap_placing (fun _ _ => rfl) (fun _ => rfl) (fun _ _ => rfl), hinserts.order]
    exact h_new.nodup_append db.orders hused.1 [.order] (hsites _ (by simp))
      (List.nodup_singleton _) (.refl _)
  · rw [filterMap_placing (fun _ _ => rfl) (fun _ => rfl) (fun _ _ => rfl), hinserts.delivery]
    cases delivery with
    | none => exact h_new.nodup_append db.deliveries hused.2.1 [] (List.nil_subset _) .nil (.refl _)
    | some row =>
      refine h_new.nodup_append db.deliveries hused.2.1 [.delivery] (hsites _ (by simp))
        (List.nodup_singleton _) ?_
      exact .of_eq (congrArg (fun id => [id]) (h_delivery row rfl))
  · rw [filterMap_placing (fun _ _ => rfl) (fun _ => rfl) (fun _ _ => rfl), hinserts.lines]
    refine h_new.nodup_append db.orderItems hused.2.2.1 _ ?_ ?_ (.of_eq (map_id_orderLine _ _ _))
    · exact fun site hsite => List.mem_append_left _ (List.mem_append_right _ hsite)
    · exact (List.nodup_range).map fun _ _ => Site.orderItem.inj
  · rw [filterMap_placing (fun _ _ => rfl) (fun _ => rfl) (fun _ _ => rfl), hinserts.invoices]
    refine h_new.nodup_append db.invoices hused.2.2.2.1 _ ?_ ?_
      (map_id_orderInvoiceRows _ _ h_storable.distinct)
    · exact fun site hsite => List.mem_append_right _ hsite
    · exact List.pairwise_map.mpr (pairwise_sites_mappingRefs h_storable.distinct)
  -- the payment is not among the objects of the order
  · have hpayment : (reservationWrites d rows ++ r.placing delivery payment).filterMap
        Write.payment? = [paymentObject r.outside payment] := by
      unfold OrderRequest.placing
      rw [List.filterMap_append, filterMap_reservationWrites fun _ _ => rfl, List.nil_append,
        List.filterMap_append, hinserts.payments]
      rfl
    rw [hpayment]
    exact h_new.nodup_append db.payments hused.2.2.2.2 [.payment] (hsites _ (by simp))
      (List.nodup_singleton _) (.refl _)
  · -- the rows refer to what is stored, or to rows of the same list before them
    intro w hw
    rcases List.mem_append.mp hw with hw | hw
    · obtain ⟨row, -, rfl⟩ := List.mem_map.mp hw
      trivial
    rcases List.mem_append.mp hw with hw | hw
    · exact references_orderStatements h_storable w hw
    · simp only [List.mem_cons, List.not_mem_nil, or_false] at hw
      rcases hw with rfl | rfl <;> trivial

/-- The statements of an order insert rows and delete cart rows. -/
theorem isInsertion_placing {delivery : Option DeliveryORM} {payment : InitPaymentResponse} :
    ∀ w ∈ r.placing delivery payment, w.IsInsertion := by
  intro w hw
  unfold OrderRequest.placing orderStatements at hw
  simp only [List.mem_append, List.mem_cons, List.mem_map, List.not_mem_nil, or_false] at hw
  rcases hw with ((⟨_, -, rfl⟩ | rfl | ⟨_, -, rfl⟩) | ⟨_, -, rfl⟩) | rfl | rfl <;> trivial

/-- **An order goes through** once its stock is reserved. -/
theorem exists_applyAll_order (h_new : r.DrawsNewIds db) (h_storable : Storable db r.checkoutData)
    {delivery : Option DeliveryORM} (h_delivery : ∀ d ∈ delivery, d.id = r.outside.uuid .delivery)
    (payment : InitPaymentResponse) {d : Dict UUID Int} {rows : List CatalogItemORM}
    (h_reserve : postgres.applyAll (reservationWrites d rows) db = .ok db₁) :
    ∃ db', postgres.applyAll (reservationWrites d rows ++ r.placing delivery payment) db =
      .ok db' := by
  have hrows := newRows_order h_new h_storable h_delivery d rows payment
  have hordering : ∀ w ∈ reservationWrites d rows, w.IsOrdering :=
    List.forall_mem_map.mpr fun _ _ => trivial
  obtain ⟨db', happly⟩ := (hrows.drop hordering h_reserve).exists_applyAll isInsertion_placing
  exact ⟨db', (postgres.applyAll_append_ok h_reserve).trans happly⟩

end Storing

/-! ### Deliveries -/

theorem deliveryObject_no_point (w : Outside) {delivery : Delivery} (h : delivery.point = none) :
    deliveryObject w (some delivery) = .error .attributeError := by
  simp only [deliveryObject, h]
  rfl

theorem exists_deliveryObject (w : Outside) {delivery : Delivery} (h : delivery.point ≠ none) :
    ∃ row, deliveryObject w (some delivery) = .ok row := by
  obtain ⟨point, hpoint⟩ := Option.ne_none_iff_exists'.mp h
  simp only [deliveryObject, hpoint]
  exact ⟨_, rfl⟩

theorem id_of_deliveryObject {w : Outside} {deliveryData : Option Delivery}
    {row : Option DeliveryORM} (h : deliveryObject w deliveryData = .ok row) :
    ∀ d ∈ row, d.id = w.uuid .delivery := by
  cases deliveryData with
  | none =>
    cases h
    exact nofun
  | some delivery =>
    obtain ⟨point, -, hobject⟩ := except_bind_eq_ok.mp h
    cases hobject
    rintro d ⟨⟩
    rfl

namespace OrderRequest

variable {r : OrderRequest}

/-- A delivery that is not missing passes the handler and can be constructed. -/
theorem deliverable_of_not_misses (h : ¬ r.MissesDelivery) :
    checkDeliveryData r.checkoutData r.order.deliveryData = .ok () ∧
      ∃ row, deliveryObject r.outside
        (orderDeliveryData r.checkoutData r.order.deliveryData) = .ok row := by
  unfold checkDeliveryData orderDeliveryData
  cases hpreorder : isPreorder r.checkoutData with
  | true => exact ⟨rfl, none, rfl⟩
  | false =>
    have hpoint : ∃ delivery ∈ r.order.deliveryData, delivery.point ≠ none := by
      by_contra hnone
      simp only [not_exists, not_and, not_not] at hnone
      exact h ⟨hpreorder, hnone⟩
    obtain ⟨delivery, hdelivery, hpoint⟩ := hpoint
    rw [show r.order.deliveryData = some delivery from hdelivery]
    exact ⟨rfl, exists_deliveryObject r.outside hpoint⟩

end OrderRequest

/-! ### The outcomes of a request -/

/-- The answer to a `POST /order` that runs alone, when its commit goes through. -/
def OrderRequest.answer (orm : Orm) (r : OrderRequest) (db : Database)
    (sent : List InitPaymentRequest) :
    EStateM.Result PyExc (Ctx Database Write RequestState) String :=
  (postOrder orm r.outside none r.user r.order).run (Ctx.start db ⟨r.checkoutData, sent⟩)

section Outcomes

variable {orm : Orm} {r : OrderRequest} {db : Database} {sent : List InitPaymentRequest}

/-- A handler that raises leaves everything as it was, if it has sent nothing. -/
theorem answer_of_error {e : PyExc} {c : Ctx Database Write RequestState}
    (h : (makeOrderEntrypoint orm r.outside r.user r.order).run
      (Ctx.start db ⟨r.checkoutData, sent⟩) = .error e c)
    (h_committed : c.committed = db) (h_env : c.env = ⟨r.checkoutData, sent⟩) :
    r.answer orm db sent = .error e (Ctx.start db ⟨r.checkoutData, sent⟩) := by
  obtain ⟨committed, session, env⟩ := c
  cases h_committed
  cases h_env
  exact run_initCtxDbSession_error h

theorem answer_empty (h : r.checkoutData = []) :
    r.answer orm db sent =
      .error .checkoutDataIsEmptyError (Ctx.start db ⟨r.checkoutData, sent⟩) := by
  have hrun : (makeOrderEntrypoint orm r.outside r.user r.order).run
      (Ctx.start db ⟨r.checkoutData, sent⟩) =
        .error .checkoutDataIsEmptyError (Ctx.start db ⟨r.checkoutData, sent⟩) := by
    rw [run_makeOrderEntrypoint]
    exact run_bind_error (run_raiseIf_of_pos h _ _)
  exact answer_of_error hrun rfl rfl

/-- The handler's own guard. -/
theorem answer_unchecked {e : PyExc} (h_ne : r.checkoutData ≠ [])
    (h : checkDeliveryData r.checkoutData r.order.deliveryData = .error e) :
    r.answer orm db sent = .error e (Ctx.start db ⟨r.checkoutData, sent⟩) := by
  have hrun : (makeOrderEntrypoint orm r.outside r.user r.order).run
      (Ctx.start db ⟨r.checkoutData, sent⟩) =
        .error e (Ctx.start db ⟨r.checkoutData, sent⟩) := by
    rw [run_makeOrderEntrypoint, run_bind_ok (run_raiseIf_of_not h_ne _ _), h]
    rfl
  exact answer_of_error hrun rfl rfl

/-- With pairwise distinct ids, the stock is exceeded where the reservation violates
`quantity_limit`. -/
theorem exceedsStock_iff (h_ids : (r.checkoutData.map (·.id)).Nodup) :
    r.ExceedsStock db ↔ ¬ ∀ item ∈ selectForUpdate r.reservation db,
      (item.withOrdered (item.orderedQuantity +
        (r.reservation.get? item.id).getD 0)).QuantityLimit := by
  -- the reservation has the quantities of the lines
  have hget : ∀ line ∈ r.checkoutData, r.reservation.get? line.id = some line.quantity := by
    intro line hline
    rw [Dict.get?_eq_some, rows_reservation h_ids]
    exact List.mem_map_of_mem hline
  refine ⟨?_, ?_⟩
  · -- the item of the line is locked, and the new quantity breaks its constraint
    rintro ⟨line, hline, item, hitem, hid, quantity, hquantity, hlt⟩ hall
    have hreserved := hget line hline
    rw [← hid] at hreserved
    have hmem : item ∈ selectForUpdate r.reservation db :=
      (mem_selectForUpdate _).mpr ⟨hitem, Table.mem_keys_of_mem (Dict.get?_eq_some.mp hreserved)⟩
    have hle := hall item hmem quantity hquantity
    rw [hreserved] at hle
    exact absurd hle (not_le_of_gt hlt)
  · -- a locked item that breaks it is the item of some line
    intro hnot
    simp only [CatalogItemORM.QuantityLimit, not_forall, not_le] at hnot
    obtain ⟨item, hmem, quantity, hquantity, hlt⟩ := hnot
    obtain ⟨hitem, hkey⟩ := (mem_selectForUpdate _).mp hmem
    obtain ⟨p, hp, hid⟩ := Table.mem_keys.mp hkey
    rw [rows_reservation h_ids] at hp
    obtain ⟨line, hline, rfl⟩ := List.mem_map.mp hp
    rw [← show line.id = item.id from hid, hget line hline] at hlt
    exact ⟨line, hline, item, hitem, hid.symm, quantity, hquantity, hlt⟩

/-- The reservation is refused. -/
theorem answer_out_of_stock (h_ne : r.checkoutData ≠ [])
    (h_ids : (r.checkoutData.map (·.id)).Nodup)
    (h_check : checkDeliveryData r.checkoutData r.order.deliveryData = .ok ())
    (h_stock : r.ExceedsStock db) :
    r.answer orm db sent =
      .error .catalogItemOutOfStockError (Ctx.start db ⟨r.checkoutData, sent⟩) := by
  have hreserve := @run_reserveCatalogItems r db sent
  rcases applyAll_reservationWrites r.reservation db with ⟨hall, -⟩ | ⟨-, herror⟩
  · exact absurd hall ((exceedsStock_iff h_ids).mp h_stock)
  · rw [herror] at hreserve
    have hrun : ∃ c, (makeOrderEntrypoint orm r.outside r.user r.order).run
        (Ctx.start db ⟨r.checkoutData, sent⟩) = .error .catalogItemOutOfStockError c ∧
          c.committed = db ∧ c.env = ⟨r.checkoutData, sent⟩ := by
      rw [run_makeOrderEntrypoint, run_bind_ok (run_raiseIf_of_not h_ne _ _), h_check,
        run_bind_ok (run_liftExcept (.ok ()) _)]
      exact ⟨_, run_bind_error hreserve, rfl, rfl⟩
    obtain ⟨c, hrun, hcommitted, henv⟩ := hrun
    exact answer_of_error hrun hcommitted henv

/-- The delivery is constructed after the reservation. -/
theorem answer_undeliverable {e : PyExc} (h_orm : orm.Accepts) (h_ne : r.checkoutData ≠ [])
    (h_ids : (r.checkoutData.map (·.id)).Nodup)
    (h_check : checkDeliveryData r.checkoutData r.order.deliveryData = .ok ())
    (h_stock : ¬ r.ExceedsStock db)
    (h : deliveryObject r.outside (orderDeliveryData r.checkoutData r.order.deliveryData) =
      .error e) :
    r.answer orm db sent = .error e (Ctx.start db ⟨r.checkoutData, sent⟩) := by
  have hreserve := @run_reserveCatalogItems r db sent
  rcases applyAll_reservationWrites r.reservation db with ⟨-, db₁, hdb₁⟩ | ⟨hnot, -⟩
  · rw [hdb₁] at hreserve
    -- nothing has been written of the order when its delivery is built
    have hcreate : (createOrder orm r.outside r.user r.order.creditIds
        (orderDeliveryData r.checkoutData r.order.deliveryData) r.checkoutData).run
          ⟨db, ⟨db₁, [], false⟩, ⟨r.checkoutData, sent⟩⟩ =
            .error e ⟨db, ⟨db₁, [], false⟩, ⟨r.checkoutData, sent⟩⟩ := by
      unfold createOrder
      rw [orderWrites_eq h_orm h_ne, h]
      rfl
    have hrun : ∃ c, (makeOrderEntrypoint orm r.outside r.user r.order).run
        (Ctx.start db ⟨r.checkoutData, sent⟩) = .error e c ∧
          c.committed = db ∧ c.env = ⟨r.checkoutData, sent⟩ := by
      rw [run_makeOrderEntrypoint, run_bind_ok (run_raiseIf_of_not h_ne _ _), h_check,
        run_bind_ok (run_liftExcept (.ok ()) _), run_bind_ok hreserve]
      exact ⟨_, run_bind_error hcreate, rfl, rfl⟩
    obtain ⟨c, hrun, hcommitted, henv⟩ := hrun
    exact answer_of_error hrun hcommitted henv
  · exact absurd ((exceedsStock_iff h_ids).mpr hnot) h_stock

/-- **An order that nothing is wrong with returns.** -/
theorem answer_placed (h_orm : orm.Accepts) (h_storable : Storable db r.checkoutData)
    (h_bank : ∃ payment, r.outside.bank (initPaymentRequest r.outside r.user r.checkoutData) =
      .ok payment)
    (h_new : r.DrawsNewIds db)
    (h_check : checkDeliveryData r.checkoutData r.order.deliveryData = .ok ())
    (h_stock : ¬ r.ExceedsStock db) {delivery : Option DeliveryORM}
    (h_delivery : deliveryObject r.outside
      (orderDeliveryData r.checkoutData r.order.deliveryData) = .ok delivery) :
    ∃ link c, r.answer orm db sent = .ok link c := by
  obtain ⟨payment, hbank⟩ := h_bank
  have hid := id_of_deliveryObject h_delivery
  rcases applyAll_reservationWrites r.reservation db with ⟨-, db₁, hdb₁⟩ | ⟨hnot, -⟩
  · obtain ⟨db', happly⟩ := exists_applyAll_order h_new h_storable hid payment hdb₁
    -- the ids are new and the references resolve, so every statement goes through
    have hstoring : r.storing orm = .ok (r.placing delivery payment) := by
      refine storing_eq_ok.mpr ⟨_, payment, ?_, hbank, rfl⟩
      rw [orderWrites_eq h_orm h_storable.nonempty, h_delivery]
      rfl
    have hplan : orderPlan orm r (selectForUpdate r.reservation db) = .ok _ :=
      orderPlan_eq_ok.mpr ⟨h_storable.nonempty, h_check, _, hstoring, rfl⟩
    obtain ⟨link, c, hrun, -⟩ := postOrder_commits_iff.mpr ⟨_, hplan, happly⟩
    exact ⟨link, c, hrun⟩
  · exact absurd ((exceedsStock_iff h_storable.distinct).mpr hnot) h_stock

/-- **Without a delivery**, or without its point, an order of stock goods raises an
`AttributeError`, or that the stock does not suffice. -/
theorem answer_of_misses (h_orm : orm.Accepts) (h_ne : r.checkoutData ≠ [])
    (h_ids : (r.checkoutData.map (·.id)).Nodup) (h : r.MissesDelivery) :
    ∃ e ∈ [PyExc.attributeError, .catalogItemOutOfStockError],
      r.answer orm db sent = .error e (Ctx.start db ⟨r.checkoutData, sent⟩) := by
  obtain ⟨hstock, hpoint⟩ := h
  cases hdata : r.order.deliveryData with
  -- no delivery data at all: the check itself raises, before the stock is touched
  | none =>
    have hcheck : checkDeliveryData r.checkoutData r.order.deliveryData =
        .error .attributeError := by
      unfold checkDeliveryData
      rw [hstock, hdata]
      rfl
    exact ⟨_, List.mem_cons_self, answer_unchecked h_ne hcheck⟩
  -- no point: the check passes, and only building the row raises
  | some delivery =>
    have hcheck : checkDeliveryData r.checkoutData r.order.deliveryData = .ok () := by
      unfold checkDeliveryData
      rw [hstock, hdata]
      rfl
    have hobject : deliveryObject r.outside
        (orderDeliveryData r.checkoutData r.order.deliveryData) = .error .attributeError := by
      unfold orderDeliveryData
      rw [hstock, hdata]
      exact deliveryObject_no_point r.outside (hpoint delivery hdata)
    -- the stock is reserved first
    by_cases hexceeds : r.ExceedsStock db
    · exact ⟨_, List.mem_cons_of_mem _ List.mem_cons_self,
        answer_out_of_stock h_ne h_ids hcheck hexceeds⟩
    · exact ⟨_, List.mem_cons_self,
        answer_undeliverable h_orm h_ne h_ids hcheck hexceeds hobject⟩

/-- **With a delivery**, where one is needed, an order raises that the stock does not suffice,
or returns. -/
theorem answer_of_not_misses (h_orm : orm.Accepts) (h_storable : Storable db r.checkoutData)
    (h_bank : ∃ payment, r.outside.bank (initPaymentRequest r.outside r.user r.checkoutData) =
      .ok payment)
    (h_new : r.DrawsNewIds db) (h : ¬ r.MissesDelivery) :
    (r.ExceedsStock db ∧ r.answer orm db sent =
        .error .catalogItemOutOfStockError (Ctx.start db ⟨r.checkoutData, sent⟩)) ∨
      (¬ r.ExceedsStock db ∧ ∃ link c, r.answer orm db sent = .ok link c) := by
  obtain ⟨hcheck, row, hrow⟩ := OrderRequest.deliverable_of_not_misses h
  by_cases hexceeds : r.ExceedsStock db
  · exact .inl ⟨hexceeds,
      answer_out_of_stock h_storable.nonempty h_storable.distinct hcheck hexceeds⟩
  · exact .inr ⟨hexceeds, answer_placed h_orm h_storable h_bank h_new hcheck hexceeds hrow⟩

end Outcomes

/-! ### The declared errors -/

/-- The request raises an exception. -/
def OrderRequest.Raises (orm : Orm) (r : OrderRequest) (db : Database)
    (sent : List InitPaymentRequest) (e : PyExc) : Prop :=
  ∃ c, r.answer orm db sent = .error e c

/-- A request raises what is declared, each error for its own reason, and returns otherwise.
Where a delivery is missing nothing is reserved. -/
structure OrderRequest.RaisesAsDeclared (orm : Orm) (r : OrderRequest) (db : Database)
    (sent : List InitPaymentRequest) : Prop where
  empty : r.Raises orm db sent .checkoutDataIsEmptyError ↔ r.checkoutData = []
  invalid : r.checkoutData ≠ [] →
    (r.Raises orm db sent .invalidCheckoutDataError ↔ r.MissesDelivery)
  unreserved : r.checkoutData ≠ [] → r.MissesDelivery →
    (endState (r.answer orm db sent)).committed = db
  out_of_stock : r.checkoutData ≠ [] → ¬ r.MissesDelivery →
    (r.Raises orm db sent .catalogItemOutOfStockError ↔ r.ExceedsStock db)
  succeeds : r.checkoutData ≠ [] → ¬ r.MissesDelivery → ¬ r.ExceedsStock db →
    ∃ link c, r.answer orm db sent = .ok link c

section Declared

variable {orm : Orm} {r : OrderRequest} {db : Database} {sent : List InitPaymentRequest}

/-- What a request raises is determined by its answer. -/
theorem OrderRequest.raises_iff_of_error {e e' : PyExc} {c : Ctx Database Write RequestState}
    (h : r.answer orm db sent = .error e c) : r.Raises orm db sent e' ↔ e = e' := by
  unfold OrderRequest.Raises
  rw [h]
  exact ⟨fun ⟨_, heq⟩ => (EStateM.Result.error.inj heq).1, fun heq => ⟨c, heq ▸ rfl⟩⟩

theorem OrderRequest.not_raises_of_ok {e : PyExc} {link : String}
    {c : Ctx Database Write RequestState} (h : r.answer orm db sent = .ok link c) :
    ¬ r.Raises orm db sent e := by
  rintro ⟨c', herror⟩
  rw [h] at herror
  cases herror

/-- **When an order raises what is declared, and nothing else**: when there is no checkout data,
when the goods are those of a preorder, and when there is a delivery with a point. -/
theorem raisesAsDeclared_iff (h_orm : orm.Accepts)
    (h_checkout : r.checkoutData = [] ∨ CheckedOutBefore db r.checkoutData)
    (h_bank : ∃ payment, r.outside.bank (initPaymentRequest r.outside r.user r.checkoutData) =
      .ok payment)
    (h_new : r.DrawsNewIds db) :
    r.RaisesAsDeclared orm db sent ↔
      r.checkoutData = [] ∨ isPreorder r.checkoutData = true ∨
        ∃ delivery ∈ r.order.deliveryData, delivery.point ≠ none := by
  -- the last two cases are those in which no delivery is missing
  have hmisses : (isPreorder r.checkoutData = true ∨
      ∃ delivery ∈ r.order.deliveryData, delivery.point ≠ none) ↔ ¬ r.MissesDelivery := by
    unfold OrderRequest.MissesDelivery
    rw [not_and_or, Bool.not_eq_false]
    simp only [not_forall, exists_prop, ne_eq]
  rw [hmisses]
  by_cases hnil : r.checkoutData = []
  · -- an empty checkout is declared, and raised first
    refine iff_of_true ?_ (.inl hnil)
    have hanswer := @answer_empty orm r db sent hnil
    exact {
      empty := iff_of_true ⟨_, hanswer⟩ hnil
      invalid := fun hne => absurd hnil hne
      unreserved := fun hne => absurd hnil hne
      out_of_stock := fun hne => absurd hnil hne
      succeeds := fun hne => absurd hnil hne }
  have hstorable : Storable db r.checkoutData := (h_checkout.resolve_left hnil).storable
  rw [or_iff_right hnil]
  refine ⟨?_, ?_⟩
  -- a missing delivery is not reported as declared
  · intro hdeclared hmisses
    obtain ⟨e, he, hanswer⟩ :=
      @answer_of_misses orm r db sent h_orm hnil hstorable.distinct hmisses
    have heq : e = .invalidCheckoutDataError :=
      (OrderRequest.raises_iff_of_error hanswer).mp ((hdeclared.invalid hnil).mpr hmisses)
    rw [heq] at he
    exact absurd he (by decide)
  · intro hdelivery
    rcases @answer_of_not_misses orm r db sent h_orm hstorable h_bank h_new hdelivery with
      ⟨hexceeds, hanswer⟩ | ⟨hstock, link, c, hanswer⟩
    · -- refused for the stock, and for nothing else
      have hraises : ∀ e, r.Raises orm db sent e ↔ .catalogItemOutOfStockError = e :=
        fun e => OrderRequest.raises_iff_of_error hanswer
      exact {
        empty := by
          rw [hraises]
          exact iff_of_false (by decide) hnil
        invalid := fun _ => by
          rw [hraises]
          exact iff_of_false (by decide) hdelivery
        unreserved := fun _ hmisses => absurd hmisses hdelivery
        out_of_stock := fun _ _ => iff_of_true ⟨_, hanswer⟩ hexceeds
        succeeds := fun _ _ hstock => absurd hexceeds hstock }
    · -- the order succeeds, so nothing is raised
      have hraises : ∀ e, ¬ r.Raises orm db sent e :=
        fun e => OrderRequest.not_raises_of_ok hanswer
      exact {
        empty := iff_of_false (hraises _) hnil
        invalid := fun _ => iff_of_false (hraises _) hdelivery
        unreserved := fun _ hmisses => absurd hmisses hdelivery
        out_of_stock := fun _ _ => iff_of_false (hraises _) hstock
        succeeds := fun _ _ _ => ⟨link, c, hanswer⟩ }

end Declared

theorem checkedOutBefore_twoPieces : CheckedOutBefore sampleDatabase Shop.twoPieces :=
  ⟨.strict, none, sampleUser, ⟨[⟨1, 2⟩]⟩, sampleDatabase, ⟨[], []⟩,
    Ctx.start sampleDatabase ⟨Shop.twoPieces, []⟩, rfl, rfl, List.Subset.refl _,
    List.Subset.refl _⟩

/-- Two pieces of an item of which there are three, to be delivered to a point. -/
theorem raisesAsDeclared_iff_delivered :
    (Shop.sampleOrder Shop.twoPieces).RaisesAsDeclared .flattening sampleDatabase [] := by
  have hnew : (Shop.sampleOrder Shop.twoPieces).DrawsNewIds sampleDatabase :=
    ⟨by decide, by decide⟩
  exact (raisesAsDeclared_iff accepts_flattening (.inr checkedOutBefore_twoPieces) ⟨_, rfl⟩
    hnew).mpr (.inr (.inr ⟨_, rfl, nofun⟩))

/-- The order of two pieces, with nothing said about a delivery. -/
def undelivered : OrderRequest :=
  { Shop.sampleOrder Shop.twoPieces with order := ⟨none, []⟩ }

/-- The declared error is not raised. -/
theorem missing_delivery_not_declared :
    Orm.Accepts .flattening ∧ CheckedOutBefore sampleDatabase undelivered.checkoutData ∧
      (∃ payment, undelivered.outside.bank (initPaymentRequest undelivered.outside
        undelivered.user undelivered.checkoutData) = .ok payment) ∧
      undelivered.DrawsNewIds sampleDatabase ∧ undelivered.MissesDelivery ∧
      undelivered.Raises .flattening sampleDatabase [] .attributeError ∧
      ¬ undelivered.RaisesAsDeclared .flattening sampleDatabase [] := by
  have hmisses : undelivered.MissesDelivery := ⟨by decide, nofun⟩
  have hne : undelivered.checkoutData ≠ [] := by decide
  have hanswer : undelivered.answer .flattening sampleDatabase [] =
      .error .attributeError (Ctx.start sampleDatabase ⟨undelivered.checkoutData, []⟩) :=
    answer_unchecked hne rfl
  refine ⟨accepts_flattening, checkedOutBefore_twoPieces, ⟨_, rfl⟩, ⟨by decide, by decide⟩,
    hmisses, ⟨_, hanswer⟩, fun hdeclared => ?_⟩
  have heq := (OrderRequest.raises_iff_of_error hanswer).mp
    ((hdeclared.invalid hne).mpr hmisses)
  exact absurd heq (by decide)

end Storefront
