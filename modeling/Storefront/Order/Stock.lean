import Storefront.Order.Entrypoints

/-!
# Stock

The ordered quantity of a catalog item is a counter of the quantities in its order lines.
An order moves both: its reservation increases the counters, its unit of work inserts the
lines (`Commits.stock`). The two agree for checkout data with pairwise distinct ids, since
the reservation collapses the data into a dictionary, while every line is inserted.

* `Commits.balanced` — an order keeps `Balanced`;
* `Commits.positive` — an order of positive quantities lowers no counter.
-/

namespace Storefront

/-! ### The writes of an order -/

/-- The order line of the item at a position. -/
def orderLine (w : Outside) (creditIds : List UUID) (p : AvailableCheckoutItem × Nat) :
    OrderItemORM where
  id := w.uuid (.orderItem p.2)
  itemId := p.1.id
  orderId := w.uuid .order
  quantity := p.1.quantity
  price := p.1.price
  byCredit := byCredit creditIds p.1

/-- The lines of an order, but for their ids, are made from the items. -/
theorem map_orderLine {β : Type} (f : UUID → Int → Int → β) (w : Outside) (creditIds : List UUID)
    (items : List AvailableCheckoutItem) :
    (items.zipIdx.map (orderLine w creditIds)).map
        (fun line => f line.itemId line.quantity line.price) =
      items.map fun item => f item.id item.quantity item.price := by
  calc (items.zipIdx.map (orderLine w creditIds)).map
        (fun line => f line.itemId line.quantity line.price)
      = (items.zipIdx.map Prod.fst).map fun item => f item.id item.quantity item.price := by
        rw [List.map_map, List.map_map]
        rfl
    _ = items.map fun item => f item.id item.quantity item.price := by rw [List.zipIdx_map_fst]

section Writes

variable {orm : Orm} {r : OrderRequest}

/-- The lines an order inserts are those of its items, whatever the relationships take, and it
sets no ordered quantity. -/
theorem orderWrites_stock {w : Outside} {user : UserIdentity} {creditIds : List UUID}
    {deliveryData : Option Delivery} {items : List AvailableCheckoutItem} {ws : List Write}
    (h : orderWrites orm w user creditIds deliveryData items = .ok ws) :
    ws.filterMap Write.orderItem? = items.zipIdx.map (orderLine w creditIds) ∧
      ∀ x ∈ ws, x.item? = none := by
  unfold orderWrites at h
  simp only [except_bind_eq_ok, pure, Except.pure, Except.ok.injEq] at h
  obtain ⟨first, -, delivery, -, lines, hlines, refs, -, rfl⟩ := h
  -- a line is made from the item at its position
  have hmap : lines.map Prod.fst = items.zipIdx.map (orderLine w creditIds) := by
    refine map_of_mapM_ok (fun p line hline => ?_) hlines
    unfold orderItemObject at hline
    simp only [except_bind_eq_ok, pure, Except.pure, Except.ok.injEq] at hline
    obtain ⟨-, -, rfl⟩ := hline
    rfl
  -- the other insertions of the unit of work are about neither table
  have hdelivery : ∀ x ∈ delivery.toList.map Write.insertDelivery,
      x.orderItem? = none ∧ x.item? = none :=
    List.forall_mem_map.mpr fun _ _ => ⟨rfl, rfl⟩
  have hinvoices : ∀ x ∈ (refs ++ lines.flatMap Prod.snd).dedup.map (fun ref =>
        if ref ∈ refs then Write.insertInvoice (invoiceRow w lines ref)
        else Write.insertInvoiceNull (w.uuid ref.site)),
      x.orderItem? = none ∧ x.item? = none := by
    refine List.forall_mem_map.mpr ?_
    intro ref _
    split <;> exact ⟨rfl, rfl⟩
  have hnil : ∀ {xs : List Write}, (∀ x ∈ xs, x.orderItem? = none ∧ x.item? = none) →
      xs.filterMap Write.orderItem? = [] :=
    fun hxs => List.filterMap_eq_nil_iff.mpr fun x hx => (hxs x hx).1
  unfold insertions
  refine ⟨?_, ?_⟩
  · -- the lines are the only insertions into their table
    have hlines' : (lines.map fun p => Write.insertOrderItem p.1).filterMap Write.orderItem? =
        lines.map Prod.fst := by
      rw [List.filterMap_map]
      exact congrFun (List.filterMap_eq_map' (f := Prod.fst)) lines
    rw [List.filterMap_append, List.filterMap_append, hnil hdelivery, hnil hinvoices,
      List.filterMap_cons_none rfl, hlines', List.append_nil, List.nil_append]
    exact hmap
  · intro x hx
    rw [List.mem_append, List.mem_append, List.mem_cons] at hx
    rcases hx with (hx | rfl | hx) | hx
    · exact (hdelivery x hx).2
    · rfl
    · obtain ⟨p, -, rfl⟩ := List.mem_map.mp hx
      rfl
    · exact (hinvoices x hx).2

theorem storing_stock {stored : List Write} (h : r.storing orm = .ok stored) :
    stored.filterMap Write.orderItem? =
        r.checkoutData.zipIdx.map (orderLine r.outside r.order.creditIds) ∧
      ∀ x ∈ stored, x.item? = none := by
  obtain ⟨order, payment, horder, -, rfl⟩ := storing_eq_ok.mp h
  obtain ⟨hlines, hitems⟩ := orderWrites_stock horder
  refine ⟨?_, ?_⟩
  · rw [List.filterMap_append, List.filterMap_cons_none rfl, List.filterMap_cons_none rfl,
      List.filterMap_nil, List.append_nil]
    exact hlines
  · intro x hx
    rcases List.mem_append.mp hx with hx | hx
    · exact hitems x hx
    · simp only [List.mem_cons, List.not_mem_nil, or_false] at hx
      rcases hx with rfl | rfl <;> rfl

/-- What a reservation makes of an item, selected or not. -/
theorem onItemAll_reservationWrites (d : Dict UUID Int) {db : Database} {item : CatalogItemORM}
    (h : item ∈ db.catalog.items.rows) :
    onItemAll (reservationWrites d (selectForUpdate d db)) item =
      item.withOrdered (item.orderedQuantity + (d.get? item.id).getD 0) := by
  -- among rows with distinct ids, one write is about the item
  have hrows : ∀ rows : List CatalogItemORM, (rows.map (·.id)).Nodup → item ∈ rows →
      onItemAll (reservationWrites d rows) item =
        item.withOrdered (item.orderedQuantity + (d.get? item.id).getD 0) := by
    intro rows hnodup hmem
    induction rows with
    | nil => cases hmem
    | cons row rows ih =>
      obtain ⟨hrow, hnodup⟩ := List.nodup_cons.mp hnodup
      change onItemAll (reservationWrites d rows) (Write.onItem item
        (.setOrderedQuantity row.id (row.orderedQuantity + (d.get? row.id).getD 0))) = _
      -- the write of the item itself, or one about another item
      rcases List.mem_cons.mp hmem with rfl | hmem
      · have hset : Write.onItem item (.setOrderedQuantity item.id
            (item.orderedQuantity + (d.get? item.id).getD 0)) =
            item.withOrdered (item.orderedQuantity + (d.get? item.id).getD 0) := if_pos rfl
        rw [hset]
        refine onItemAll_of_notMem ?_
        intro x hx
        obtain ⟨row, hmem, rfl⟩ := List.mem_map.mp hx
        exact fun heq => hrow (List.mem_map.mpr ⟨row, hmem, Option.some.inj heq⟩)
      · rw [onItem_of_ne, ih hnodup hmem]
        exact fun heq => hrow (List.mem_map.mpr ⟨item, hmem, (Option.some.inj heq).symm⟩)
  by_cases hkey : item.id ∈ d.keys
  · refine hrows _ ?_ ((mem_selectForUpdate d).mpr ⟨h, hkey⟩)
    exact (db.catalog.items.filter fun item => item.id ∈ d.keys).nodup
  · -- an item without a reservation is not written
    rw [Dict.get?_eq_none.mpr hkey, Option.getD_none, add_zero]
    refine onItemAll_of_notMem ?_
    intro x hx
    obtain ⟨row, hmem, rfl⟩ := List.mem_map.mp hx
    rintro heq
    have hid : row.id = item.id := Option.some.inj heq
    exact hkey (hid ▸ ((mem_selectForUpdate d).mp hmem).2)

/-- **What an order does to the stock tables.** Each item is increased by its quantity in the
reservation, and one line is inserted for each item of the checkout data. -/
theorem Commits.stock {db db' : Database} (h : r.Commits orm db db') :
    db'.catalog.items.rows = db.catalog.items.rows.map (fun item =>
        item.withOrdered (item.orderedQuantity + (r.reservation.get? item.id).getD 0)) ∧
      db'.orderItems.rows = db.orderItems.rows ++
        r.checkoutData.zipIdx.map (orderLine r.outside r.order.creditIds) := by
  obtain ⟨ws, hplan, happly⟩ := h
  obtain ⟨-, -, stored, hstoring, rfl⟩ := orderPlan_eq_ok.mp hplan
  obtain ⟨hlines, hquiet⟩ := storing_stock hstoring
  obtain ⟨hitems, hlines'⟩ := stock_applyAll happly
  refine ⟨?_, ?_⟩
  · rw [hitems]
    refine List.map_congr_left ?_
    intro item hitem
    -- only the reservation is about catalog items
    rw [onItemAll_append, onItemAll_of_notMem fun x hx heq => ?_,
      onItemAll_reservationWrites r.reservation hitem]
    rw [hquiet x hx] at heq
    cases heq
  -- only the unit of work of the order inserts lines
  · rw [hlines', List.filterMap_append, hlines, List.filterMap_eq_nil_iff.mpr, List.nil_append]
    exact List.forall_mem_map.mpr fun _ _ => rfl

end Writes

/-! ### The balance -/

/-- The quantity of an item in order lines. -/
def orderedLines (lines : List OrderItemORM) (id : UUID) : Int :=
  ((lines.filter fun line => line.itemId = id).map (·.quantity)).sum

/-- Each item's ordered quantity is its quantity in all order lines. -/
def Balanced (db : Database) : Prop :=
  ∀ item ∈ db.catalog.items.rows, item.orderedQuantity = orderedLines db.orderItems.rows item.id

section Balance

variable {orm : Orm} {r : OrderRequest}

theorem orderedLines_append (lines lines' : List OrderItemORM) (id : UUID) :
    orderedLines (lines ++ lines') id = orderedLines lines id + orderedLines lines' id := by
  unfold orderedLines
  rw [List.filter_append, List.map_append, List.sum_append]

/-- A catalog of which nothing has been ordered is balanced. -/
theorem balanced_of_no_lines {db : Database} (h_lines : db.orderItems.rows = [])
    (h_items : ∀ item ∈ db.catalog.items.rows, item.orderedQuantity = 0) : Balanced db := by
  intro item hitem
  rw [h_items item hitem, h_lines]
  rfl

theorem rows_reservation (h_ids : (r.checkoutData.map (·.id)).Nodup) :
    r.reservation.rows = r.checkoutData.map fun item => (item.id, item.quantity) := by
  refine Dict.rows_ofList ?_
  rw [List.map_map]
  exact h_ids

/-- In lines made from checkout data with pairwise distinct ids, an item has the quantity
that the reservation has for it. -/
theorem orderedLines_eq_reservation {lines : List OrderItemORM}
    (h : lines.map (fun line => (line.itemId, line.quantity)) =
      r.checkoutData.map fun item => (item.id, item.quantity))
    (h_ids : (r.checkoutData.map (·.id)).Nodup) (id : UUID) :
    orderedLines lines id = (r.reservation.get? id).getD 0 := by
  calc orderedLines lines id
      = (((lines.map fun line => (line.itemId, line.quantity)).filter
          fun p => p.1 = id).map Prod.snd).sum := by
        rw [List.filter_map, List.map_map]
        rfl
    _ = ((r.reservation.rows.filter fun p => p.1 = id).map Prod.snd).sum := by
        rw [h, rows_reservation h_ids]
    _ = (r.reservation.get? id).getD 0 := Dict.sum_filter_key _ _

/-- **An order keeps the balance.** -/
theorem Commits.balanced {db db' : Database} (h : r.Commits orm db db')
    (h_ids : (r.checkoutData.map (·.id)).Nodup) (h_balanced : Balanced db) : Balanced db' := by
  obtain ⟨hitems, hlines⟩ := Commits.stock h
  have hmap := map_orderLine (fun id quantity _ => (id, quantity)) r.outside r.order.creditIds
    r.checkoutData
  unfold Balanced
  rw [hitems]
  refine List.forall_mem_map.mpr ?_
  intro item hitem
  rw [orderedQuantity_withOrdered, id_withOrdered, hlines, orderedLines_append,
    h_balanced item hitem, orderedLines_eq_reservation hmap h_ids]

end Balance

/-! ### Positive quantities -/

/-- All order lines have a quantity of at least one, and no ordered quantity is negative. -/
structure PositiveStock (db : Database) : Prop where
  lines : ∀ line ∈ db.orderItems.rows, 1 ≤ line.quantity
  ordered : ∀ item ∈ db.catalog.items.rows, 0 ≤ item.orderedQuantity

/-- No item has a smaller ordered quantity in `db'` than in `db`. -/
def OrderedLe (db db' : Database) : Prop :=
  ∀ item ∈ db.catalog.items.rows, ∃ item' ∈ db'.catalog.items.rows,
    item'.id = item.id ∧ item.orderedQuantity ≤ item'.orderedQuantity

theorem OrderedLe.refl (db : Database) : OrderedLe db db :=
  fun item hitem => ⟨item, hitem, rfl, le_rfl⟩

theorem OrderedLe.trans {db₁ db₂ db₃ : Database} (h₁ : OrderedLe db₁ db₂)
    (h₂ : OrderedLe db₂ db₃) : OrderedLe db₁ db₃ := by
  intro item hitem
  obtain ⟨item₂, hitem₂, hid₂, hle₂⟩ := h₁ item hitem
  obtain ⟨item₃, hitem₃, hid₃, hle₃⟩ := h₂ item₂ hitem₂
  exact ⟨item₃, hitem₃, hid₃.trans hid₂, hle₂.trans hle₃⟩

/-- **An order of positive quantities** inserts positive lines and lowers no ordered
quantity. -/
theorem Commits.positive {orm : Orm} {r : OrderRequest} {db db' : Database}
    (h : r.Commits orm db db') (h_ids : (r.checkoutData.map (·.id)).Nodup)
    (h_positive : ∀ item ∈ r.checkoutData, 1 ≤ item.quantity) (h_stock : PositiveStock db) :
    PositiveStock db' ∧ OrderedLe db db' := by
  obtain ⟨hitems, hlines⟩ := Commits.stock h
  -- what is reserved is a quantity of the checkout data, or nothing
  have hreservation : ∀ id, 0 ≤ (r.reservation.get? id).getD 0 := by
    intro id
    cases hget : r.reservation.get? id with
    | none => exact le_rfl
    | some q =>
      have hmem := Dict.get?_eq_some.mp hget
      rw [rows_reservation h_ids] at hmem
      obtain ⟨item, hitem, heq⟩ := List.mem_map.mp hmem
      cases heq
      exact zero_le_one.trans (h_positive item hitem)
  refine ⟨⟨?_, ?_⟩, ?_⟩
  -- the lines: those from before, and those made from the data
  · rw [hlines]
    intro line hline
    rcases List.mem_append.mp hline with hold | hnew
    · exact h_stock.lines line hold
    · obtain ⟨p, hp, rfl⟩ := List.mem_map.mp hnew
      exact h_positive p.1 (List.fst_mem_of_mem_zipIdx hp)
  -- the counters only grow
  · rw [hitems]
    exact List.forall_mem_map.mpr fun item hitem =>
      add_nonneg (h_stock.ordered item hitem) (hreservation item.id)
  · intro item hitem
    rw [hitems]
    exact ⟨_, List.mem_map_of_mem hitem, rfl, le_add_of_nonneg_right (hreservation item.id)⟩

end Storefront
