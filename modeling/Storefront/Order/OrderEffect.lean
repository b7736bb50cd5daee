import Storefront.Order.Concurrency

/-!
# What an order changes

`create_order` builds the order, its lines and its invoices from the same checkout data, under
three keys: the position of a line, the id of its item, and the place where an invoice was
constructed. With relationships that accept the values it passes (`Orm.Accepts`) and items
with pairwise distinct ids these say the same: every line gets the invoices of its own item
(`invoiceRow_eq`), and the unit of work inserts each invoice once (`orderWrites_inserts`).

* `createOrder_stores` — the tables after a `create_order` that returned;
* `postOrder_effect` — a `POST /order` that succeeds changes the committed state by the order,
  its delivery, lines, invoices and payment, the ordered quantities of its items and the cart
  rows of the customer for these items, and by nothing else.
-/

namespace Storefront

/-! ### Relationships that accept what they are given -/

/-- The relationships take a list for its objects, `None` for no objects and a dictionary for
all the objects in it. -/
structure Orm.Accepts (orm : Orm) : Prop where
  list : ∀ refs, orm.collection (.list refs) = .ok refs
  none : orm.collection .none = .ok []
  dict : ∀ mapping, orm.collection (.dict mapping) = .ok (mapping.rows.flatMap entryRefs)

theorem accepts_flattening : Orm.Accepts .flattening := ⟨fun _ => rfl, rfl, fun _ => rfl⟩

/-- Where a relationship takes a value it holds the objects in it. -/
def Orm.HoldsObjects (orm : Orm) : Prop :=
  ∀ value refs, orm.collection value = .ok refs → Orm.flattening.collection value = .ok refs

theorem holdsObjects_flattening : Orm.HoldsObjects .flattening := fun _ _ h => h

/-- The documented relationships hold the objects of the lists, which is all that they take. -/
theorem holdsObjects_listOnly : Orm.HoldsObjects .listOnly := by
  intro value refs h
  cases value with
  | list => exact h
  | none => cases h
  | single => cases h
  | dict => cases h

/-- The invoice objects of the mapping, entry by entry. -/
def mappingRefs (items : List AvailableCheckoutItem) (creditIds : List UUID) : List InvoiceRef :=
  (makeOrderInvoicesObjects items creditIds).rows.flatMap entryRefs

/-- The invoice objects under the id of an item. -/
def itemRefs (items : List AvailableCheckoutItem) (creditIds : List UUID) (id : UUID) :
    List InvoiceRef :=
  ((makeOrderInvoicesObjects items creditIds).get? (.item id)).elim []
    fun entry => entryRefs (.item id, entry)

/-- The order itself. -/
def orderRow (w : Outside) (user : UserIdentity) (delivery : Option DeliveryORM)
    (items : List AvailableCheckoutItem) : OrderORM where
  id := w.uuid .order
  userId := user.id
  preorderId := items.head?.bind (·.preorderId)
  deliveryId := delivery.map (·.id)
  status := .unpaid
  createdAt := w.now

section Refs

variable {items : List AvailableCheckoutItem} {creditIds : List UUID}

/-- An object under a key is constructed for that key. -/
theorem site_of_mem_entryRefs {key : InvoiceKey} {entry : InvoiceEntry} {ref : InvoiceRef}
    (h : ref ∈ entryRefs (key, entry)) :
    match key with
    | .initial => ref.site = .initialInvoice
    | .item id => ∃ part, ref.site = .creditInvoice id part := by
  cases key with
  | initial =>
    obtain ⟨object, -, rfl⟩ := List.mem_map.mp h
    rfl
  | item id =>
    obtain ⟨object, -, rfl⟩ := List.mem_map.mp h
    exact ⟨_, rfl⟩

theorem mem_itemRefs {id : UUID} {ref : InvoiceRef} :
    ref ∈ itemRefs items creditIds id ↔
      ∃ entry, (InvoiceKey.item id, entry) ∈ (makeOrderInvoicesObjects items creditIds).rows ∧
        ref ∈ entryRefs (.item id, entry) := by
  unfold itemRefs
  cases hget : (makeOrderInvoicesObjects items creditIds).get? (.item id) with
  | none =>
    refine ⟨fun h => absurd h List.not_mem_nil, ?_⟩
    rintro ⟨entry, hentry, -⟩
    rw [Dict.get?_eq_some.mpr hentry] at hget
    cases hget
  | some entry =>
    refine ⟨fun h => ⟨entry, Dict.get?_eq_some.mp hget, h⟩, ?_⟩
    rintro ⟨entry', hentry, h⟩
    obtain rfl : entry = entry' := Option.some.inj (hget.symm.trans (Dict.get?_eq_some.mpr hentry))
    exact h

/-- The objects of an item are in the mapping. -/
theorem itemRefs_subset (id : UUID) :
    itemRefs items creditIds id ⊆ mappingRefs items creditIds := by
  intro ref href
  obtain ⟨entry, hentry, hmem⟩ := mem_itemRefs.mp href
  exact List.mem_flatMap.mpr ⟨_, hentry, hmem⟩

/-- Positions are told apart by where they are. -/
theorem pairwise_zipIdx {α : Type} (l : List α) (n : ℕ) :
    (l.zipIdx n).Pairwise fun p p' => p.2 < p'.2 := by
  have hpositions : ((l.zipIdx n).map Prod.snd).Pairwise (· < ·) := by
    rw [List.zipIdx_map_snd]
    exact List.pairwise_lt_range'
  exact List.pairwise_map.mp hpositions

/-- The CREDIT invoices of an item are told apart by their parts. -/
theorem pairwise_sites_creditInvoices (id : UUID) (item : AvailableCheckoutItem) :
    (entryRefs (.item id, .many item.creditInvoices)).Pairwise fun ref ref' =>
      ref.site ≠ ref'.site := by
  have hparts := pairwise_zipIdx item.plan.tail 1
  show (((item.plan.tail.zipIdx 1).map fun p => creditInvoice item p.2 p.1).map _).Pairwise _
  rw [List.map_map]
  refine List.pairwise_map.mpr (hparts.imp fun hlt heq => ?_)
  have hpart := (Site.creditInvoice.inj heq).2
  exact absurd hpart hlt.ne

/-- No two objects of the mapping were constructed at one place. -/
theorem pairwise_sites_mappingRefs (h_ids : (items.map (·.id)).Nodup) :
    (mappingRefs items creditIds).Pairwise fun ref ref' => ref.site ≠ ref'.site := by
  obtain ⟨title, credit, hrows, hcredit⟩ := rows_initial_cons items creditIds
  unfold mappingRefs
  refine List.pairwise_flatMap.mpr ⟨?_, ?_⟩
  -- within an entry
  · rw [hrows, hcredit h_ids]
    intro p hp
    rcases List.mem_cons.mp hp with rfl | hp
    · exact List.pairwise_singleton _ _
    · rw [List.map_map] at hp
      obtain ⟨item, -, rfl⟩ := List.mem_map.mp hp
      exact pairwise_sites_creditInvoices item.id item
  -- and under two keys
  · have hkeys := (makeOrderInvoicesObjects items creditIds).nodup
    refine (List.pairwise_map.mp hkeys).imp fun {p p'} hne => ?_
    intro ref href ref' href' heq
    obtain ⟨key, entry⟩ := p
    obtain ⟨key', entry'⟩ := p'
    have hsite := site_of_mem_entryRefs href
    have hsite' := site_of_mem_entryRefs href'
    rw [← heq] at hsite'
    cases key with
    | initial =>
      cases key' with
      | initial => exact hne rfl
      | item id' =>
        obtain ⟨part', hpart'⟩ := hsite'
        exact Site.noConfusion (hsite.symm.trans hpart')
    | item id =>
      obtain ⟨part, hpart⟩ := hsite
      cases key' with
      | initial => exact Site.noConfusion (hpart.symm.trans hsite')
      | item id' =>
        obtain ⟨part', hpart'⟩ := hsite'
        have hid := (Site.creditInvoice.inj (hpart.symm.trans hpart')).1
        exact hne (congrArg InvoiceKey.item hid)

/-- No object is in the mapping twice. -/
theorem nodup_mappingRefs (h_ids : (items.map (·.id)).Nodup) :
    (mappingRefs items creditIds).Nodup :=
  (pairwise_sites_mappingRefs h_ids).imp fun hne heq => hne (congrArg InvoiceRef.site heq)

/-- The relationship of an order line gets the objects of its item. -/
theorem Orm.Accepts.invoicesOfItem {orm : Orm} (h : orm.Accepts) (id : UUID) :
    orm.collection (invoicesOfItem (makeOrderInvoicesObjects items creditIds) id) =
      .ok (itemRefs items creditIds id) := by
  unfold Storefront.invoicesOfItem itemRefs
  cases hget : (makeOrderInvoicesObjects items creditIds).get? (.item id) with
  | none => exact h.none
  | some entry =>
    obtain ⟨l, rfl⟩ := exists_many_of_get? hget
    exact h.list _

end Refs

/-! ### The lines -/

/-- The order lines with the objects of their collections. -/
def lineRefs (w : Outside) (items : List AvailableCheckoutItem) (creditIds : List UUID) :
    List (OrderItemORM × List InvoiceRef) :=
  items.zipIdx.map fun p => (orderLine w creditIds p, itemRefs items creditIds p.1.id)

/-- The invoice rows of the unit of work, each with the line whose collection it is in. -/
def orderInvoiceRows (w : Outside) (items : List AvailableCheckoutItem) (creditIds : List UUID) :
    List InvoiceORM :=
  (mappingRefs items creditIds ++ (lineRefs w items creditIds).flatMap Prod.snd).dedup.map
    (invoiceRow w (lineRefs w items creditIds))

section Lines

variable {w : Outside} {items : List AvailableCheckoutItem} {creditIds : List UUID}

theorem mapM_orderItemObject {orm : Orm} (h : orm.Accepts)
    (ps : List (AvailableCheckoutItem × Nat)) :
    ps.mapM (orderItemObject orm w creditIds (makeOrderInvoicesObjects items creditIds)) =
      .ok (ps.map fun p => (orderLine w creditIds p, itemRefs items creditIds p.1.id)) := by
  induction ps with
  | nil => rfl
  | cons p ps ih =>
    have hp : orderItemObject orm w creditIds (makeOrderInvoicesObjects items creditIds) p =
        .ok (orderLine w creditIds p, itemRefs items creditIds p.1.id) := by
      unfold orderItemObject
      rw [h.invoicesOfItem]
      rfl
    rw [List.mapM_cons, hp, ih]
    rfl

/-- Where at most one element passes, it does not matter where the search starts. -/
theorem find?_reverse_of_unique {α : Type} {p : α → Bool} {l : List α}
    (h : ∀ a ∈ l, ∀ b ∈ l, p a → p b → a = b) : l.reverse.find? p = l.find? p := by
  cases hl : l.find? p with
  | none =>
    rw [List.find?_eq_none] at hl ⊢
    exact fun a ha => hl a (List.mem_reverse.mp ha)
  | some a =>
    have ha := List.mem_of_find?_eq_some hl
    have hpa := List.find?_some hl
    cases hr : l.reverse.find? p with
    | none => exact absurd hpa (List.find?_eq_none.mp hr a (List.mem_reverse.mpr ha))
    | some b =>
      have hb := List.mem_reverse.mp (List.mem_of_find?_eq_some hr)
      rw [h a ha b hb hpa (List.find?_some hr)]

/-- **The row of an invoice names the line of its own item.** -/
theorem invoiceRow_eq (h_ids : (items.map (·.id)).Nodup) {key : InvoiceKey} {entry : InvoiceEntry}
    (h_entry : (key, entry) ∈ (makeOrderInvoicesObjects items creditIds).rows) {ref : InvoiceRef}
    (h_ref : ref ∈ entryRefs (key, entry)) :
    (invoiceRow w (lineRefs w items creditIds) ref).orderItemId = lineOf w items key := by
  have hsite := site_of_mem_entryRefs h_ref
  show (((lineRefs w items creditIds).reverse.find? fun p => ref ∈ p.2).map fun p => p.1.id) = _
  unfold lineRefs
  rw [← List.map_reverse, List.find?_map, Option.map_map]
  cases key with
  | initial =>
    -- the INITIAL invoice is in the collection of no line
    have hnone : (items.zipIdx.reverse.find? ((fun p : OrderItemORM × List InvoiceRef =>
        decide (ref ∈ p.2)) ∘ fun p => (orderLine w creditIds p,
          itemRefs items creditIds p.1.id))) = none := by
      refine List.find?_eq_none.mpr fun p _ hmem => ?_
      obtain ⟨entry', -, href'⟩ := mem_itemRefs.mp (of_decide_eq_true hmem)
      obtain ⟨part, hpart⟩ := site_of_mem_entryRefs href'
      exact Site.noConfusion (hsite.symm.trans hpart)
    rw [hnone]
    rfl
  | item id =>
    obtain ⟨part, hpart⟩ := hsite
    -- the lines that have it in their collection are those of the item
    have hpred : ((fun p : OrderItemORM × List InvoiceRef => decide (ref ∈ p.2)) ∘
        fun p => (orderLine w creditIds p, itemRefs items creditIds p.1.id)) =
          fun p : AvailableCheckoutItem × Nat => decide (p.1.id = id) := by
      funext p
      refine decide_eq_decide.mpr ⟨fun hmem => ?_, fun hid => ?_⟩
      · obtain ⟨entry', -, href'⟩ := mem_itemRefs.mp hmem
        obtain ⟨part', hpart'⟩ := site_of_mem_entryRefs href'
        exact (Site.creditInvoice.inj (hpart'.symm.trans hpart)).1
      · exact mem_itemRefs.mpr ⟨entry, hid ▸ h_entry, hid ▸ h_ref⟩
    -- and there is one line at most
    have hnodup : (items.zipIdx.map fun p => p.1.id).Nodup := by
      have hfst : items.zipIdx.map (fun p => p.1.id) = items.map (·.id) := by
        conv_rhs => rw [← List.zipIdx_map_fst 0 items, List.map_map]
        rfl
      rwa [hfst]
    rw [hpred, find?_reverse_of_unique fun p hp p' hp' hid hid' =>
      List.inj_on_of_nodup_map hnodup hp hp'
        ((of_decide_eq_true hid).trans (of_decide_eq_true hid').symm)]
    rfl

end Lines

/-! ### The writes of an order -/

/-- What the writes of an order insert, table by table. -/
structure Inserts (ws : List Write) (order : OrderORM) (delivery : Option DeliveryORM)
    (lines : List OrderItemORM) (invoices : List InvoiceORM) : Prop where
  order : ws.filterMap Write.order? = [order]
  delivery : ws.filterMap Write.delivery? = delivery.toList
  lines : ws.filterMap Write.orderItem? = lines
  invoices : ws.filterMap Write.invoice? = invoices
  payments : ws.filterMap Write.payment? = []
  carts : ∀ rows, ws.foldl Write.onCarts rows = rows
  ordering : ∀ x ∈ ws, x.IsOrdering

/-- Of the insertions into one table all are kept, of those into another none. -/
theorem filterMap_map_some {α β : Type} {f : α → β} {g : β → Option α} (h : ∀ a, g (f a) = some a)
    (l : List α) : (l.map f).filterMap g = l := by
  rw [List.filterMap_map, show g ∘ f = some from funext h, List.filterMap_some]

theorem filterMap_map_none {α β γ : Type} {f : α → β} {g : β → Option γ} (h : ∀ a, g (f a) = none)
    (l : List α) : (l.map f).filterMap g = [] :=
  List.filterMap_eq_nil_iff.mpr (List.forall_mem_map.mpr fun a _ => h a)

/-- A reservation is about the catalog items only. -/
theorem filterMap_reservationWrites {α : Type} {g : Write → Option α}
    (h : ∀ id n, g (.setOrderedQuantity id n) = none) {d : Dict UUID Int}
    {rows : List CatalogItemORM} : (reservationWrites d rows).filterMap g = [] :=
  filterMap_map_none (fun _ => h _ _) _

/-- Writes that delete no cart rows leave the carts alone. -/
theorem foldl_onCarts_quiet {ws : List Write} (h : ∀ x ∈ ws, ∀ rows, Write.onCarts rows x = rows)
    (rows : List CartItemORM) : ws.foldl Write.onCarts rows = rows := by
  induction ws with
  | nil => rfl
  | cons x ws ih =>
    obtain ⟨hx, hws⟩ := List.forall_mem_cons.mp h
    rw [List.foldl_cons, hx]
    exact ih hws

/-- The unit of work of an order, from its rows. -/
theorem inserts_rows (order : OrderORM) (delivery : Option DeliveryORM)
    (lines : List OrderItemORM) (invoices : List InvoiceORM) :
    Inserts (delivery.toList.map .insertDelivery ++
      .insertOrder order :: lines.map .insertOrderItem ++ invoices.map .insertInvoice)
      order delivery lines invoices where
  order := by
    -- each selector keeps the insertions of its own table and drops the others
    rw [List.filterMap_append, List.filterMap_append,
      List.filterMap_cons_some (show (Write.insertOrder order).order? = some order from rfl),
      filterMap_map_none fun _ => rfl, filterMap_map_none fun _ => rfl,
      filterMap_map_none fun _ => rfl]
    rfl
  delivery := by
    rw [List.filterMap_append, List.filterMap_append, List.filterMap_cons_none rfl,
      filterMap_map_some (f := Write.insertDelivery) fun _ => rfl,
      filterMap_map_none fun _ => rfl, filterMap_map_none fun _ => rfl,
      List.append_nil, List.append_nil]
  lines := by
    rw [List.filterMap_append, List.filterMap_append, List.filterMap_cons_none rfl,
      filterMap_map_none fun _ => rfl,
      filterMap_map_some (f := Write.insertOrderItem) fun _ => rfl,
      filterMap_map_none fun _ => rfl, List.append_nil, List.nil_append]
  invoices := by
    rw [List.filterMap_append, List.filterMap_append, List.filterMap_cons_none rfl,
      filterMap_map_none fun _ => rfl, filterMap_map_none fun _ => rfl,
      filterMap_map_some (f := Write.insertInvoice) fun _ => rfl, List.append_nil,
      List.nil_append]
  payments := by
    rw [List.filterMap_append, List.filterMap_append, List.filterMap_cons_none rfl,
      filterMap_map_none fun _ => rfl, filterMap_map_none fun _ => rfl,
      filterMap_map_none fun _ => rfl, List.append_nil, List.append_nil]
  carts rows := by
    -- nothing touches a cart before the order is stored
    refine foldl_onCarts_quiet (fun x hx rows => ?_) rows
    simp only [List.mem_append, List.mem_cons, List.mem_map] at hx
    rcases hx with (⟨_, -, rfl⟩ | rfl | ⟨_, -, rfl⟩) | ⟨_, -, rfl⟩ <;> rfl
  ordering x hx := by
    simp only [List.mem_append, List.mem_cons, List.mem_map] at hx
    rcases hx with (⟨_, -, rfl⟩ | rfl | ⟨_, -, rfl⟩) | ⟨_, -, rfl⟩ <;> trivial

section Writes

variable {orm : Orm} {w : Outside} {user : UserIdentity} {creditIds : List UUID}
  {deliveryData : Option Delivery} {items : List AvailableCheckoutItem}

/-- What relationships that hold their objects store is what is stored with those that take
everything. -/
theorem Orm.HoldsObjects.orderWrites (h_orm : orm.HoldsObjects) {ws : List Write}
    (h : orderWrites orm w user creditIds deliveryData items = .ok ws) :
    Storefront.orderWrites .flattening w user creditIds deliveryData items = .ok ws := by
  unfold Storefront.orderWrites at h ⊢
  simp only [except_bind_eq_ok] at h ⊢
  obtain ⟨first, hfirst, delivery, hdelivery, lines, hlines, refs, hrefs, hws⟩ := h
  refine ⟨first, hfirst, delivery, hdelivery, lines, ?_, refs, h_orm _ _ hrefs, hws⟩
  rw [mapM_eq_ok_iff_forall₂] at hlines ⊢
  refine hlines.imp fun p line hline => ?_
  unfold orderItemObject at hline ⊢
  obtain ⟨refs, hrefs, hline⟩ := except_bind_eq_ok.mp hline
  exact except_bind_eq_ok.mpr ⟨refs, h_orm _ _ hrefs, hline⟩

/-- The collections of the lines add no object to those of the order. -/
theorem mem_orderRefs {ref : InvoiceRef} :
    ref ∈ (mappingRefs items creditIds ++
        (lineRefs w items creditIds).flatMap Prod.snd).dedup ↔
      ref ∈ mappingRefs items creditIds := by
  rw [List.mem_dedup, List.mem_append]
  refine or_iff_left_of_imp ?_
  intro href
  obtain ⟨line, hline, href⟩ := List.mem_flatMap.mp href
  obtain ⟨p, -, rfl⟩ := List.mem_map.mp hline
  exact itemRefs_subset p.1.id href

/-- The unit of work of an order, whose collection has every invoice. -/
theorem insertions_eq (delivery : Option DeliveryORM) (order : OrderORM) :
    insertions w delivery order (lineRefs w items creditIds) (mappingRefs items creditIds) =
      delivery.toList.map .insertDelivery ++
        .insertOrder order :: (items.zipIdx.map (orderLine w creditIds)).map .insertOrderItem ++
        (orderInvoiceRows w items creditIds).map .insertInvoice := by
  unfold insertions orderInvoiceRows
  refine congrArg₂ (· ++ ·) (congrArg₂ (· ++ ·) rfl (congrArg _ ?_)) ?_
  · unfold lineRefs
    rw [List.map_map, List.map_map]
    rfl
  · rw [List.map_map]
    exact List.map_congr_left fun ref href => if_pos (mem_orderRefs.mp href)

/-- The objects of all collections are those of the mapping, once each. -/
theorem orderRefs_perm (h_ids : (items.map (·.id)).Nodup) :
    (mappingRefs items creditIds ++ (lineRefs w items creditIds).flatMap Prod.snd).dedup.Perm
      (mappingRefs items creditIds) := by
  have hnodup : (mappingRefs items creditIds).Nodup := nodup_mappingRefs h_ids
  exact (List.perm_ext_iff_of_nodup (List.nodup_dedup _) hnodup).mpr fun _ => mem_orderRefs

/-- The invoices of the unit of work are those of the mapping, each with its line. -/
theorem orderInvoiceRows_perm (h_ids : (items.map (·.id)).Nodup) :
    (orderInvoiceRows w items creditIds).Perm (linkedInvoices w items creditIds) := by
  have hrows : (mappingRefs items creditIds).map (invoiceRow w (lineRefs w items creditIds)) =
      linkedInvoices w items creditIds := by
    unfold mappingRefs linkedInvoices
    rw [List.map_flatMap]
    refine List.flatMap_congr fun p hp => List.map_congr_left fun ref href => ?_
    obtain ⟨key, entry⟩ := p
    rw [← invoiceRow_eq h_ids hp href]
    rfl
  exact hrows ▸ (orderRefs_perm h_ids).map _

/-- The statements that store an order. -/
def orderStatements (w : Outside) (user : UserIdentity) (creditIds : List UUID)
    (items : List AvailableCheckoutItem) (delivery : Option DeliveryORM) : List Write :=
  delivery.toList.map .insertDelivery ++
    .insertOrder (orderRow w user delivery items) ::
      (items.zipIdx.map (orderLine w creditIds)).map .insertOrderItem ++
    (orderInvoiceRows w items creditIds).map .insertInvoice

/-- **What `create_order` stores**, of items there are: the delivery is all that can raise. -/
theorem orderWrites_eq (h_orm : orm.Accepts) (h_items : items ≠ []) :
    orderWrites orm w user creditIds deliveryData items =
      (deliveryObject w deliveryData).map (orderStatements w user creditIds items) := by
  unfold orderWrites
  simp only [mapM_orderItemObject h_orm, h_orm.dict]
  cases items with
  | nil => exact absurd rfl h_items
  | cons first rest =>
    cases hdelivery : deliveryObject w deliveryData with
    | error e => rfl
    | ok delivery => exact congrArg Except.ok (insertions_eq delivery _)

/-- **What `create_order` inserts.** -/
theorem orderWrites_inserts (h_orm : orm.Accepts) {ws : List Write}
    (h : orderWrites orm w user creditIds deliveryData items = .ok ws) :
    ∃ delivery, deliveryObject w deliveryData = .ok delivery ∧
      Inserts ws (orderRow w user delivery items) delivery
        (items.zipIdx.map (orderLine w creditIds)) (orderInvoiceRows w items creditIds) := by
  -- `checkout_data[0]` is read first
  have hitems : items ≠ [] := by
    rintro rfl
    cases h
  rw [orderWrites_eq h_orm hitems] at h
  cases hdelivery : deliveryObject w deliveryData with
  | error e =>
    rw [hdelivery] at h
    cases h
  | ok delivery =>
    rw [hdelivery] at h
    cases h
    refine ⟨delivery, rfl, ?_⟩
    exact inserts_rows (orderRow w user delivery items) delivery
      (items.zipIdx.map (orderLine w creditIds)) (orderInvoiceRows w items creditIds)

/-- `db'` has the rows of `db`, and those of an order with its payment. -/
structure StoresOrder (w : Outside) (items : List AvailableCheckoutItem) (creditIds : List UUID)
    (order : OrderORM) (delivery : Option DeliveryORM) (payment : PaymentORM)
    (db db' : Database) : Prop where
  orders : db'.orders.rows = db.orders.rows ++ [order]
  deliveries : db'.deliveries.rows = db.deliveries.rows ++ delivery.toList
  lines : db'.orderItems.rows = db.orderItems.rows ++ items.zipIdx.map (orderLine w creditIds)
  invoices : db'.invoices.rows = db.invoices.rows ++ orderInvoiceRows w items creditIds
  payments : db'.payments.rows = db.payments.rows ++ [payment]
  catalog_items : db'.catalog.items.rows = db.catalog.items.rows
  carts : db'.carts.table.rows = db.carts.table.rows
  preorders : db'.catalog.preorders = db.catalog.preorders
  publications : db'.catalog.publications = db.catalog.publications
  products : db'.catalog.products = db.catalog.products
  credit_plans : db'.catalog.creditPlans = db.catalog.creditPlans
  favorites : db'.favorites = db.favorites

/-- The writes of an order and of its payment. -/
theorem storesOrder_of_applyAll (h_orm : orm.Accepts) {ws : List Write}
    (h : orderWrites orm w user creditIds deliveryData items = .ok ws)
    {payment : PaymentORM} {db db' : Database}
    (h_apply : postgres.applyAll (ws ++ [.insertPayment payment]) db = .ok db') :
    ∃ delivery, deliveryObject w deliveryData = .ok delivery ∧
      StoresOrder w items creditIds (orderRow w user delivery items) delivery payment db db' := by
  obtain ⟨delivery, hdelivery, hinserts⟩ := orderWrites_inserts h_orm h
  have hordering : ∀ x ∈ ws ++ [.insertPayment payment], x.IsOrdering := by
    intro x hx
    rcases List.mem_append.mp hx with hx | hx
    · exact hinserts.ordering x hx
    · rw [List.mem_singleton.mp hx]
      trivial
  -- every table has grown by the insertions of the list
  have hgrown := grown_applyAll hordering h_apply
  obtain ⟨hitems, hlines⟩ := stock_applyAll h_apply
  refine ⟨delivery, hdelivery, ?_⟩
  exact {
    orders := by
      rw [hgrown.orders, List.filterMap_append, hinserts.order]
      rfl
    deliveries := by
      rw [hgrown.deliveries, List.filterMap_append, hinserts.delivery]
      exact congrArg (db.deliveries.rows ++ ·) (List.append_nil _)
    lines := by
      rw [hlines, List.filterMap_append, hinserts.lines]
      exact congrArg (db.orderItems.rows ++ ·) (List.append_nil _)
    invoices := by
      rw [hgrown.invoices, List.filterMap_append, hinserts.invoices]
      exact congrArg (db.invoices.rows ++ ·) (List.append_nil _)
    payments := by
      rw [hgrown.payments, List.filterMap_append, hinserts.payments]
      rfl
    catalog_items := by
      -- no ordered quantity is set
      have hquiet : ∀ x ∈ ws ++ [.insertPayment payment], x.item? = none := by
        intro x hx
        rcases List.mem_append.mp hx with hx | hx
        · exact (orderWrites_stock h).2 x hx
        · rw [List.mem_singleton.mp hx]
          rfl
      rw [hitems]
      refine (List.map_congr_left fun item _ => onItemAll_of_notMem fun x hx heq => ?_).trans
        (List.map_id' _)
      rw [hquiet x hx] at heq
      cases heq
    carts := by
      rw [hgrown.carts, List.foldl_append, hinserts.carts]
      rfl
    preorders := hgrown.preorders
    publications := hgrown.publications
    products := hgrown.products
    credit_plans := hgrown.credit_plans
    favorites := hgrown.favorites }

/-- **What a `create_order` that returned has stored.** -/
theorem createOrder_stores (h_orm : orm.Accepts)
    {c c' : Ctx Database Write RequestState} (hc : c.Clean) {url : String}
    (h : (createOrder orm w user creditIds deliveryData items).run c = .ok url c') :
    ∃ payment delivery, w.bank (initPaymentRequest w user items) = .ok payment ∧
      deliveryObject w deliveryData = .ok delivery ∧
      StoresOrder w items creditIds (orderRow w user delivery items) delivery
        (paymentObject w payment) c.session.view c'.session.view := by
  obtain ⟨order, payment, db, horder, hbank, happly, -, rfl⟩ := (createOrder_eq_ok hc).mp h
  obtain ⟨delivery, hdelivery, hstores⟩ := storesOrder_of_applyAll h_orm horder happly
  exact ⟨payment, delivery, hbank, hdelivery, hstores⟩

end Writes

/-! ### The request -/

/-- The checkout data is what an accepted `POST /checkout` has stored. -/
def CheckedOut (items : List AvailableCheckoutItem) : Prop :=
  ∃ (P : Pydantic) (fault : Option PyExc) (user : UserIdentity)
    (requestData : MakeCheckoutRequestSchema) (db : Database) (env : RequestState)
    (c : Ctx Database Write RequestState),
    (postCheckout P fault user requestData).run (Ctx.start db env) = .ok () c ∧
      c.env.checkoutData = items

/-- **Inversion of an accepted checkout.** -/
theorem postCheckout_eq_ok {P : Pydantic} {fault : Option PyExc} {user : UserIdentity}
    {requestData : MakeCheckoutRequestSchema} {db : Database} {env : RequestState}
    {c : Ctx Database Write RequestState}
    (h : (postCheckout P fault user requestData).run (Ctx.start db env) = .ok () c) :
    ∃ items, (verifyCheckoutData P requestData.items).run (Ctx.start db env) =
        .ok ⟨items, []⟩ (Ctx.start db env) ∧
      c = Ctx.start db { env with checkoutData := items } := by
  obtain ⟨c₁, hhandler, hclosed⟩ := initCtxDbSession_eq_ok.mp h
  rcases run_makeCheckout_cases user (Ctx.clean_start db env) with
    ⟨items, hverify, hrun⟩ | ⟨-, e, c₂, hrun, -, -⟩
  · refine ⟨items, hverify, ?_⟩
    obtain rfl := (EStateM.Result.ok.inj (hrun.symm.trans hhandler)).2
    -- nothing is pending at the commit
    rcases hclosed with ⟨hget, -⟩ | ⟨-, -, -, db', happly, rfl⟩
    · cases hget
    · obtain rfl : db = db' := Except.ok.inj happly
      rfl
  · rw [hrun] at hhandler
    cases hhandler

theorem CheckedOut.nodup {items : List AvailableCheckoutItem} (h : CheckedOut items) :
    (items.map (·.id)).Nodup := by
  obtain ⟨P, fault, user, requestData, db, env, c, hrun, hitems⟩ := h
  obtain ⟨items', hverify, rfl⟩ := postCheckout_eq_ok hrun
  obtain rfl : items' = items := hitems
  obtain ⟨-, hnodup, -, hlines⟩ := verifyCheckoutData_eq_ok (Ctx.clean_start db env) hverify
  have hids : (items'.map AvailableCheckoutItem.line).map (·.id) = items'.map (·.id) := by
    rw [List.map_map]
    rfl
  rw [← hids, hlines rfl]
  exact hnodup

/-- The catalog item with the quantity of its line added to the ordered quantity, if it has a
line. -/
def orderedItem (items : List AvailableCheckoutItem) (item : CatalogItemORM) : CatalogItemORM :=
  match items.find? fun line => line.id = item.id with
  | some line => item.withOrdered (item.orderedQuantity + line.quantity)
  | none => item

/-- The row of a delivery to a point, for a recipient. -/
structure DeliversTo (w : Outside) (deliveryData : Delivery) (row : DeliveryORM) : Prop where
  id : row.id = w.uuid .delivery
  service : row.service = deliveryData.service
  point : ∃ point, deliveryData.point = some point ∧ row.address = point.address ∧
    row.addressIdentifier = some point.code
  recipient_name : row.recipientName = some deliveryData.recipient.fullName
  recipient_phone : row.recipientPhone = some deliveryData.recipient.phone
  track_code : row.trackCode = none

/-- What a `POST /order` is to change: one order of the customer with its lines, delivery and
invoices, a payment of the INITIAL invoice with the bank's id, the ordered quantities of the
items and the customer's cart rows for them. All other rows are those of before. -/
structure OrderEffect (r : OrderRequest) (db db' : Database) : Prop where
  order : ∃ delivery, deliveryObject r.outside
      (orderDeliveryData r.checkoutData r.order.deliveryData) = .ok delivery ∧
    db'.orders.rows = db.orders.rows ++ [orderRow r.outside r.user delivery r.checkoutData] ∧
    db'.deliveries.rows = db.deliveries.rows ++ delivery.toList ∧
    Option.Rel (DeliversTo r.outside)
      (orderDeliveryData r.checkoutData r.order.deliveryData) delivery
  lines : db'.orderItems.rows = db.orderItems.rows ++
    r.checkoutData.zipIdx.map (orderLine r.outside r.order.creditIds)
  billed : ∃ invoices initial bankPayment payment,
    invoices.Perm (linkedInvoices r.outside r.checkoutData r.order.creditIds) ∧
    db'.invoices.rows = db.invoices.rows ++ invoices ∧
    initial ∈ invoices ∧ initial.type = .initial ∧
    r.outside.bank (initPaymentRequest r.outside r.user r.checkoutData) = .ok bankPayment ∧
    db'.payments.rows = db.payments.rows ++ [payment] ∧
    payment.invoiceId = initial.id ∧ payment.externalId = bankPayment.paymentId
  ordered : db'.catalog.items.rows = db.catalog.items.rows.map (orderedItem r.checkoutData)
  carts : db'.carts.table.rows = db.carts.table.rows.filter fun row =>
    !(row.userId = r.user.id && row.itemId ∈ r.checkoutData.map (·.id))
  preorders : db'.catalog.preorders = db.catalog.preorders
  publications : db'.catalog.publications = db.catalog.publications
  products : db'.catalog.products = db.catalog.products
  credit_plans : db'.catalog.creditPlans = db.catalog.creditPlans
  favorites : db'.favorites = db.favorites

section Effect

variable {orm : Orm} {r : OrderRequest} {db db' : Database}

/-- The INITIAL invoice is among the linked ones, under the id that the payment names. -/
theorem exists_initial_linkedInvoices (w : Outside) (items : List AvailableCheckoutItem)
    (creditIds : List UUID) :
    ∃ row ∈ linkedInvoices w items creditIds, row.type = .initial ∧
      row.id = w.uuid .initialInvoice := by
  obtain ⟨title, credit, hrows, -⟩ := rows_initial_cons items creditIds
  unfold linkedInvoices
  rw [hrows, List.flatMap_cons]
  exact ⟨_, List.mem_append_left _ List.mem_cons_self, rfl, rfl⟩

/-- With pairwise distinct ids the reservation adds the quantity of the line. -/
theorem orderedItem_eq (h_ids : (r.checkoutData.map (·.id)).Nodup) (item : CatalogItemORM) :
    item.withOrdered (item.orderedQuantity + (r.reservation.get? item.id).getD 0) =
      orderedItem r.checkoutData item := by
  unfold orderedItem
  cases hfind : r.checkoutData.find? fun line => line.id = item.id with
  -- no line of the item, so no entry in the reservation
  | none =>
    have hnone : r.reservation.get? item.id = none := by
      refine Dict.get?_eq_none.mpr fun hmem => ?_
      obtain ⟨p, hp, hid⟩ := Table.mem_keys.mp hmem
      rw [rows_reservation h_ids] at hp
      obtain ⟨line, hline, rfl⟩ := List.mem_map.mp hp
      exact List.find?_eq_none.mp hfind line hline (decide_eq_true hid)
    rw [hnone, Option.getD_none, add_zero]
    rfl
  | some line =>
    have hid : line.id = item.id := by
      have hfound := List.find?_some hfind
      exact of_decide_eq_true hfound
    have hsome : r.reservation.get? item.id = some line.quantity := by
      rw [Dict.get?_eq_some, rows_reservation h_ids, ← hid]
      exact List.mem_map_of_mem (List.mem_of_find?_eq_some hfind)
    rw [hsome, Option.getD_some]

/-- The delivery of an order is the one that was asked for, if any. -/
theorem deliversTo_of_deliveryObject {w : Outside} {deliveryData : Option Delivery}
    {delivery : Option DeliveryORM} (h : deliveryObject w deliveryData = .ok delivery) :
    Option.Rel (DeliversTo w) deliveryData delivery := by
  cases deliveryData with
  | none =>
    obtain rfl : none = delivery := Except.ok.inj h
    exact .none
  | some deliveryData =>
    obtain ⟨point, hpoint, hrow⟩ := except_bind_eq_ok.mp h
    obtain rfl := Except.ok.inj hrow
    refine .some ⟨rfl, rfl, ⟨point, ?_, rfl, rfl⟩, rfl, rfl, rfl⟩
    -- a point that is missing has no address
    unfold attributeOf at hpoint
    split at hpoint
    · next heq =>
      obtain rfl := Except.ok.inj hpoint
      exact heq
    · cases hpoint

/-- Rows that are added between writes that add none. -/
theorem append_of_quiet {α : Type} {g : Write → Option α} {ws ws' : List Write}
    {l l₁ l₂ l' added : List α} (h : ws.filterMap g = []) (h' : ws'.filterMap g = [])
    (h_ws : l₁ = l ++ ws.filterMap g) (h_added : l₂ = l₁ ++ added)
    (h_ws' : l' = l₂ ++ ws'.filterMap g) : l' = l ++ added := by
  rw [h_ws', h_added, h_ws, h, h', List.append_nil, List.append_nil]

/-- An order that is committed with relationships that hold their objects. -/
theorem Orm.HoldsObjects.commits (h_orm : orm.HoldsObjects) (h : r.Commits orm db db') :
    r.Commits .flattening db db' := by
  obtain ⟨ws, hplan, happly⟩ := h
  obtain ⟨hdata, hdelivery, stored, hstoring, hws⟩ := orderPlan_eq_ok.mp hplan
  obtain ⟨order, payment, horder, hbank, hstored⟩ := storing_eq_ok.mp hstoring
  have hstoring' : r.storing .flattening = .ok stored :=
    storing_eq_ok.mpr ⟨order, payment, h_orm.orderWrites horder, hbank, hstored⟩
  exact ⟨ws, orderPlan_eq_ok.mpr ⟨hdata, hdelivery, stored, hstoring', hws⟩, happly⟩

/-- **What an order that runs alone changes.** -/
theorem Commits.effect (h : r.Commits orm db db') (h_orm : orm.Accepts)
    (h_ids : (r.checkoutData.map (·.id)).Nodup) : OrderEffect r db db' := by
  obtain ⟨hstock, hlines⟩ := Commits.stock h
  obtain ⟨ws, hplan, happly⟩ := h
  obtain ⟨-, -, stored, hstoring, rfl⟩ := orderPlan_eq_ok.mp hplan
  obtain ⟨order, bankPayment, horder, hbank, rfl⟩ := storing_eq_ok.mp hstoring
  -- the reservation, the order with its payment, and the cart
  obtain ⟨db₁, hreserve, hrest⟩ := (postgres.applyAll_append_eq_ok).mp happly
  rw [List.append_cons] at hrest
  obtain ⟨db₂, hstore, hdelete⟩ := (postgres.applyAll_append_eq_ok).mp hrest
  -- the reservation changes the items alone
  have hreserved : Grown (reservationWrites r.reservation (selectForUpdate r.reservation db))
      db db₁ := by
    refine grown_applyAll (fun x hx => ?_) hreserve
    obtain ⟨row, -, rfl⟩ := List.mem_map.mp hx
    trivial
  obtain ⟨delivery, hdelivery, hstores⟩ := storesOrder_of_applyAll h_orm horder hstore
  -- the last statement empties the cart
  have hdeleted : Grown [.deleteCartItems r.user.id (r.checkoutData.map (·.id))] db₂ db' :=
    grown_applyAll (fun x hx => by rw [List.mem_singleton.mp hx]; trivial) hdelete
  -- so it leaves the carts
  have hcarts : db₁.carts.table.rows = db.carts.table.rows := by
    refine hreserved.carts.trans (foldl_onCarts_quiet (fun x hx rows => ?_) _)
    obtain ⟨row, -, rfl⟩ := List.mem_map.mp hx
    rfl
  have horders : db'.orders.rows = db.orders.rows ++
      [orderRow r.outside r.user delivery r.checkoutData] :=
    append_of_quiet (filterMap_reservationWrites fun _ _ => rfl) rfl hreserved.orders
      hstores.orders hdeleted.orders
  have hdeliveries : db'.deliveries.rows = db.deliveries.rows ++ delivery.toList :=
    append_of_quiet (filterMap_reservationWrites fun _ _ => rfl) rfl hreserved.deliveries
      hstores.deliveries hdeleted.deliveries
  have hpayments : db'.payments.rows = db.payments.rows ++
      [paymentObject r.outside bankPayment] :=
    append_of_quiet (filterMap_reservationWrites fun _ _ => rfl) rfl hreserved.payments
      hstores.payments hdeleted.payments
  have hinvoices : db'.invoices.rows = db.invoices.rows ++
      orderInvoiceRows r.outside r.checkoutData r.order.creditIds :=
    append_of_quiet (filterMap_reservationWrites fun _ _ => rfl) rfl hreserved.invoices
      hstores.invoices hdeleted.invoices
  -- the invoices are inserted in the order of the graph
  have hperm := @orderInvoiceRows_perm r.outside r.order.creditIds _ h_ids
  obtain ⟨initial, hmem, htype, hid⟩ := exists_initial_linkedInvoices r.outside r.checkoutData
    r.order.creditIds
  exact {
    order := ⟨delivery, hdelivery, horders, hdeliveries, deliversTo_of_deliveryObject hdelivery⟩
    lines := hlines
    billed := ⟨_, initial, bankPayment, _, hperm, hinvoices, hperm.mem_iff.mpr hmem, htype,
      hbank, hpayments, hid.symm, rfl⟩
    ordered := by
      rw [hstock]
      exact List.map_congr_left fun item _ => orderedItem_eq h_ids item
    carts := by
      rw [hdeleted.carts, ← hcarts, ← hstores.carts]
      rfl
    preorders := hdeleted.preorders.trans (hstores.preorders.trans hreserved.preorders)
    publications :=
      hdeleted.publications.trans (hstores.publications.trans hreserved.publications)
    products := hdeleted.products.trans (hstores.products.trans hreserved.products)
    credit_plans :=
      hdeleted.credit_plans.trans (hstores.credit_plans.trans hreserved.credit_plans)
    favorites := hdeleted.favorites.trans (hstores.favorites.trans hreserved.favorites) }

/-- A request that succeeded has run with nothing going wrong at its commit. -/
theorem postOrder_fault {fault : Option PyExc} {db : Database} {sent : List InitPaymentRequest}
    {link : String} {c : Ctx Database Write RequestState}
    (h : (postOrder orm r.outside fault r.user r.order).run
      (Ctx.start db ⟨r.checkoutData, sent⟩) = .ok link c) : fault = none := by
  obtain ⟨c₁, -, ⟨hget, -⟩ | ⟨-, hfault, -⟩⟩ := initCtxDbSession_eq_ok.mp h
  · cases hget
  · exact hfault

/-- **A successful order changes exactly what it should.** -/
theorem postOrder_effect (h_orm : orm.Accepts) (h_checkout : CheckedOut r.checkoutData)
    {fault : Option PyExc} {sent : List InitPaymentRequest} {link : String}
    {c : Ctx Database Write RequestState}
    (h : (postOrder orm r.outside fault r.user r.order).run
      (Ctx.start db ⟨r.checkoutData, sent⟩) = .ok link c) : OrderEffect r db c.committed := by
  obtain rfl : fault = none := postOrder_fault h
  have hcommits : r.Commits orm db c.committed := postOrder_commits_iff.mp ⟨link, c, h, rfl⟩
  exact Commits.effect hcommits h_orm h_checkout.nodup

end Effect

theorem checkedOut_twoPieces : CheckedOut Shop.twoPieces :=
  ⟨.strict, none, sampleUser, ⟨[⟨1, 2⟩]⟩, sampleDatabase, ⟨[], []⟩,
    Ctx.start sampleDatabase ⟨Shop.twoPieces, []⟩, rfl, rfl⟩

/-- The order of two pieces. -/
theorem postOrder_effect_sample :
    ∃ link c, (postOrder .flattening sampleOutside none sampleUser
        (Shop.sampleOrder Shop.twoPieces).order).run
          (Ctx.start sampleDatabase ⟨Shop.twoPieces, []⟩) =
          .ok link c ∧
      OrderEffect (Shop.sampleOrder Shop.twoPieces) sampleDatabase c.committed := by
  have hok : (match (postOrder .flattening sampleOutside none sampleUser
      (Shop.sampleOrder Shop.twoPieces).order).run (Ctx.start sampleDatabase
        ⟨Shop.twoPieces, []⟩) with
    | .ok _ _ => true
    | .error _ _ => false) = true := by decide +kernel
  cases hrun : (postOrder .flattening sampleOutside none sampleUser
      (Shop.sampleOrder Shop.twoPieces).order).run (Ctx.start sampleDatabase
        ⟨Shop.twoPieces, []⟩) with
  | error e c =>
    rw [hrun] at hok
    cases hok
  | ok link c =>
    exact ⟨link, c, rfl, postOrder_effect (r := Shop.sampleOrder Shop.twoPieces)
      accepts_flattening checkedOut_twoPieces hrun⟩

end Storefront
