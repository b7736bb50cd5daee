import Storefront.Order.OrderEffect
import Storefront.Order.Verification

/-!
# Stock and preorder goods in one order

The check of a checkout looks at the preorders of all requested items; the order is made in
another request, from the session data alone, and takes the preorder of its first line.
`OneSection` is what the session data carries from the one to the other.

* `Unmixed` — all lines of an order are for items of publications with the order's preorder,
  and it has a delivery exactly when that is none;
* `OneSection.unmixed` — the order that is stored for such session data is unmixed;
* `Shop.orders_unmixed` — so are all orders that are committed, whatever the requests are.
-/

namespace Storefront

/-! ### Preorders of items -/

/-- The preorder of the publication of the item with an id. -/
def Catalog.preorderOf (catalog : Catalog) (id : UUID) : Option (Option UUID) :=
  (catalog.items.find? id).map catalog.preorderId

theorem Catalog.preorderOf_of_mem {catalog : Catalog} {item : CatalogItemORM}
    (h : item ∈ catalog.items.rows) :
    catalog.preorderOf item.id = some (catalog.preorderId item) := by
  unfold Catalog.preorderOf
  rw [Table.find?_of_mem h]
  rfl

/-- Session data about items of one preorder, or of none. -/
def OneSection (catalog : Catalog) (data : List AvailableCheckoutItem) : Prop :=
  ∃ preorderId, ∀ a ∈ data, a.preorderId = preorderId ∧ catalog.preorderOf a.id = some preorderId

/-- What a checkout stores is about one preorder. -/
theorem oneSection_of_verify {P : Pydantic} {lines : List CatalogItemQuantity} {db : Database}
    {env : RequestState} {data : List AvailableCheckoutItem}
    (h : (verifyCheckoutData P lines).run (Ctx.start db env) =
      .ok ⟨data, []⟩ (Ctx.start db env)) : OneSection db.catalog data := by
  obtain ⟨hpartitioned, -⟩ := partitioned_of_run h
  -- each available line is that of a selected item, and of its preorder
  have hselected : ∀ a ∈ data, ∃ item ∈ selectActiveItems (lines.map (·.id)) db,
      a.id = item.id ∧ a.preorderId = db.catalog.preorderId item := by
    intro a ha
    obtain ⟨item, hitem, havailable⟩ := hpartitioned.available a ha
    have hmem : a.id ∈ lines.map (·.id) := by
      rw [← hpartitioned.once.mem_iff]
      exact List.mem_append_left _ (List.mem_map_of_mem ha)
    -- the id is that of an active item, which is this one
    obtain ⟨item', hitem', hid', hactive⟩ := hpartitioned.known.active a.id hmem
    obtain rfl : item' = item := Table.eq_of_mem hitem' hitem (hid'.trans havailable.id)
    exact ⟨item', mem_selectActiveItems.mpr ⟨hitem, hactive, hid' ▸ hmem⟩, havailable.id,
      havailable.preorder⟩
  cases data with
  | nil => exact ⟨none, nofun⟩
  | cons first rest =>
    obtain ⟨item₀, hitem₀, hid₀, hpre₀⟩ := hselected first List.mem_cons_self
    refine ⟨db.catalog.preorderId item₀, fun a ha => ?_⟩
    obtain ⟨item, hitem, hid, hpre⟩ := hselected a ha
    -- two preorders would have been rejected
    have hsame : db.catalog.preorderId item = db.catalog.preorderId item₀ := by
      by_contra hne
      exact hpartitioned.one_preorder ⟨item, hitem, item₀, hitem₀, hne⟩
    refine ⟨hpre.trans hsame, ?_⟩
    rw [hid, Catalog.preorderOf_of_mem (mem_selectActiveItems.mp hitem).1, hsame]

/-! ### Orders -/

/-- All lines of the order are for items whose publication has, in `catalog`, the order's
preorder; and the order has a delivery exactly when that is none. -/
structure Unmixed (catalog : Catalog) (db : Database) (order : OrderORM) : Prop where
  lines : ∀ line ∈ db.orderItems.rows, line.orderId = order.id →
    catalog.preorderOf line.itemId = some order.preorderId
  delivery : (∃ delivery ∈ db.deliveries.rows, order.deliveryId = some delivery.id) ↔
    order.preorderId = none

/-- The foreign keys of order lines and of orders to what they belong to. -/
structure OrderKeys (db : Database) : Prop where
  order_id : ∀ line ∈ db.orderItems.rows, line.orderId ∈ db.orders.keys
  delivery_id : ∀ order ∈ db.orders.rows, ∀ delivery ∈ order.deliveryId,
    delivery ∈ db.deliveries.keys

/-- The ordered quantities change, and nothing that the preorders depend on. -/
theorem OrderEffect.preorderOf {r : OrderRequest} {db db' : Database} (h : OrderEffect r db db')
    (id : UUID) : db'.catalog.preorderOf id = db.catalog.preorderOf id := by
  have hkeeps : ∀ item, (orderedItem r.checkoutData item).id = item.id ∧
      (orderedItem r.checkoutData item).publicationId = item.publicationId := by
    intro item
    unfold orderedItem
    split <;> exact ⟨rfl, rfl⟩
  unfold Catalog.preorderOf
  rw [Table.find?_of_rows_map h.ordered fun item => (hkeeps item).1, Option.map_map]
  refine Option.map_congr ?_
  intro item _
  show (db'.catalog.publications.find? _).bind _ = (db.catalog.publications.find? _).bind _
  rw [h.publications, (hkeeps item).2]

section Order

variable {orm : Orm} {r : OrderRequest} {db db' : Database} {catalog : Catalog}

/-- **The order of session data about one preorder.** It has that preorder, and a delivery
exactly when it is none; without delivery data for stock goods nothing is committed. -/
theorem OneSection.orderRow_delivery {preorderId : Option UUID} {delivery : Option DeliveryORM}
    (h : ∀ a ∈ r.checkoutData, a.preorderId = preorderId) (h_ne : r.checkoutData ≠ [])
    (h_check : checkDeliveryData r.checkoutData r.order.deliveryData = .ok ())
    (h_delivery : deliveryObject r.outside
      (orderDeliveryData r.checkoutData r.order.deliveryData) = .ok delivery) :
    (orderRow r.outside r.user delivery r.checkoutData).preorderId = preorderId ∧
      (delivery.isSome ↔ preorderId = none) := by
  obtain ⟨first, rest, hcons⟩ := List.exists_cons_of_ne_nil h_ne
  have hfirst : first.preorderId = preorderId := h first (hcons ▸ List.mem_cons_self)
  refine ⟨?_, ?_⟩
  · show r.checkoutData.head?.bind (·.preorderId) = preorderId
    rw [hcons]
    exact hfirst
  · have hpreorder : isPreorder r.checkoutData = preorderId.isSome := by
      unfold isPreorder
      rw [Bool.eq_iff_iff, List.any_eq_true]
      refine ⟨fun ⟨a, ha, hsome⟩ => h a ha ▸ hsome, fun hsome => ?_⟩
      exact ⟨first, hcons ▸ List.mem_cons_self, hfirst ▸ hsome⟩
    unfold orderDeliveryData at h_delivery
    unfold checkDeliveryData at h_check
    rw [hpreorder] at h_delivery h_check
    cases preorderId with
    | some p =>
      -- a preorder is not delivered
      cases h_delivery
      exact iff_of_false nofun nofun
    | none =>
      -- stock goods are, or the guard has raised
      cases hdata : r.order.deliveryData with
      | none =>
        rw [hdata] at h_check
        cases h_check
      | some data =>
        rw [hdata] at h_delivery
        obtain ⟨point, -, hobject⟩ := except_bind_eq_ok.mp h_delivery
        cases hobject
        exact iff_of_true rfl rfl

/-- What an order adds to the tables that hold orders. -/
theorem OrderEffect.orderKeys (h : OrderEffect r db db') (h_keys : OrderKeys db) :
    OrderKeys db' := by
  obtain ⟨delivery, -, horders, hdeliveries, -⟩ := h.order
  refine ⟨?_, ?_⟩
  · intro line hline
    rw [h.lines, List.mem_append] at hline
    rw [Table.mem_keys, horders]
    rcases hline with hline | hline
    · obtain ⟨order, horder, hid⟩ := Table.mem_keys.mp (h_keys.order_id line hline)
      exact ⟨order, List.mem_append_left _ horder, hid⟩
    · -- the new lines are of the new order
      obtain ⟨p, -, rfl⟩ := List.mem_map.mp hline
      exact ⟨_, List.mem_append_right _ (List.mem_singleton.mpr rfl), rfl⟩
  · intro order horder id hid
    rw [horders, List.mem_append, List.mem_singleton] at horder
    rw [Table.mem_keys, hdeliveries]
    rcases horder with horder | rfl
    · obtain ⟨row, hrow, hrowid⟩ := Table.mem_keys.mp (h_keys.delivery_id order horder id hid)
      exact ⟨row, List.mem_append_left _ hrow, hrowid⟩
    · -- the delivery of the new order is stored with it
      obtain ⟨row, hrow, hrowid⟩ := Option.map_eq_some_iff.mp hid
      exact ⟨row, List.mem_append_right _ (by rw [hrow]; exact List.mem_singleton.mpr rfl), hrowid⟩

/-- An order that was there before stays unmixed. -/
theorem OrderEffect.unmixed_old (h : OrderEffect r db db') (h_keys : OrderKeys db)
    {order : OrderORM} (h_order : order ∈ db.orders.rows) (h_old : Unmixed catalog db order) :
    Unmixed catalog db' order := by
  obtain ⟨delivery, -, horders, hdeliveries, -⟩ := h.order
  refine ⟨?_, ?_⟩
  · intro line hline hid
    rw [h.lines, List.mem_append] at hline
    rcases hline with hline | hline
    · exact h_old.lines line hline hid
    -- the new lines are of an order that was not there
    · obtain ⟨p, -, rfl⟩ := List.mem_map.mp hline
      have hnew := Table.notMem_keys_of_append horders (List.mem_singleton.mpr rfl)
      have hkey : (orderRow r.outside r.user delivery r.checkoutData).id = order.id := hid
      exact absurd (hkey ▸ Table.mem_keys_of_mem h_order) hnew
  · refine Iff.trans ⟨?_, ?_⟩ h_old.delivery
    · rintro ⟨row, -, hid⟩
      obtain ⟨row', hrow', hid'⟩ :=
        Table.mem_keys.mp (h_keys.delivery_id order h_order row.id hid)
      exact ⟨row', hrow', hid'.symm ▸ hid⟩
    · rintro ⟨row, hrow, hid⟩
      exact ⟨row, by rw [hdeliveries]; exact List.mem_append_left _ hrow, hid⟩

/-- **The order that is stored is unmixed.** -/
theorem OneSection.unmixed (h : OneSection catalog r.checkoutData) (h_effect : OrderEffect r db db')
    (h_keys : OrderKeys db) (h_commits : r.Commits orm db db') {order : OrderORM}
    (h_order : order ∈ db'.orders.rows) (h_new : order ∉ db.orders.rows) :
    Unmixed catalog db' order := by
  obtain ⟨preorderId, hdata⟩ := h
  obtain ⟨ws, hplan, -⟩ := h_commits
  obtain ⟨hne, hcheck, -⟩ := orderPlan_eq_ok.mp hplan
  obtain ⟨delivery, hdelivery, horders, hdeliveries, -⟩ := h_effect.order
  obtain ⟨hpreorder, hsome⟩ :=
    OneSection.orderRow_delivery (fun a ha => (hdata a ha).1) hne hcheck hdelivery
  have hid := Table.notMem_keys_of_append horders (List.mem_singleton.mpr rfl)
  -- only one order is new, so it is this one
  rw [horders, List.mem_append, or_iff_right h_new, List.mem_singleton] at h_order
  subst h_order
  refine ⟨?_, ?_⟩
  · intro line hline hline_id
    rw [h_effect.lines, List.mem_append] at hline
    rcases hline with hline | hline
    -- an old line is of an order that was there
    · exact absurd (hline_id ▸ h_keys.order_id line hline) hid
    · obtain ⟨p, hp, rfl⟩ := List.mem_map.mp hline
      have hmem : p.1 ∈ r.checkoutData := (List.mem_zipIdx' hp).2 ▸ List.getElem_mem _
      rw [hpreorder]
      exact (hdata p.1 hmem).2
  · -- it has a delivery row iff it needs a delivery: a stock order
    rw [hpreorder, ← hsome, hdeliveries]
    refine ⟨?_, ?_⟩
    · rintro ⟨row, -, hrow⟩
      obtain ⟨row', hrow', -⟩ := Option.map_eq_some_iff.mp hrow
      rw [hrow']
      rfl
    · intro hsome
      obtain ⟨row, hrow⟩ := Option.isSome_iff_exists.mp hsome
      exact ⟨row, List.mem_append_right _ (by rw [hrow]; exact List.mem_singleton.mpr rfl),
        congrArg (Option.map DeliveryORM.id) hrow⟩

end Order

/-! ### Runs -/

namespace Shop

variable {P : Pydantic} {orm : Orm} {s s' : Shop} {db : Database}

/-- The invariant of the runs from `db`: session data is about one preorder, the preorders of
items are those of the start, and every order is unmixed unless it was mixed at the start. -/
structure SectionsInv (orm : Orm) (db : Database) (s : Shop) : Prop where
  shop : Inv orm (fun data => Distinct data ∧ OneSection db.catalog data) s
  preorders : ∀ id, s.world.committed.catalog.preorderOf id = db.catalog.preorderOf id
  keys : OrderKeys s.world.committed
  orders : ∀ order ∈ s.world.committed.orders.rows,
    (order ∈ db.orders.rows → Unmixed db.catalog db order) →
      Unmixed db.catalog s.world.committed order

theorem SectionsInv.initial (h : OrderKeys db) : SectionsInv orm db (initial db) where
  shop := .initial db
  preorders _ := rfl
  keys := h
  orders _ horder hold := hold horder

/-- Where the items have the same preorders, session data is about one in both. -/
theorem oneSection_congr {catalog catalog' : Catalog}
    (h : ∀ id, catalog.preorderOf id = catalog'.preorderOf id) {data : List AvailableCheckoutItem}
    (h_data : OneSection catalog data) : OneSection catalog' data := by
  obtain ⟨preorderId, hall⟩ := h_data
  exact ⟨preorderId, fun a ha => ⟨(hall a ha).1, h a.id ▸ (hall a ha).2⟩⟩

theorem SectionsInv.step (h_orm : orm.Accepts) (hI : SectionsInv orm db s) {a : Action}
    (h : step P orm s a s') : SectionsInv orm db s' := by
  obtain ⟨hshop, hcommitted⟩ := hI.shop.step ⟨List.nodup_nil, none, nofun⟩ h
    fun _ _ _ _ _ _ hverify => ⟨distinct_of_verify (Ctx.clean_start _ _) hverify,
      oneSection_congr hI.preorders (oneSection_of_verify hverify)⟩
  rcases hcommitted with heq | ⟨r, ⟨hdistinct, hsection⟩, hcommits⟩
  · exact ⟨hshop, heq ▸ hI.preorders, heq ▸ hI.keys, heq ▸ hI.orders⟩
  -- an order is committed, from data that an accepted checkout has stored
  · have heffect := Commits.effect hcommits h_orm hdistinct
    refine ⟨hshop, fun id => (heffect.preorderOf id).trans (hI.preorders id),
      heffect.orderKeys hI.keys, fun order horder hold => ?_⟩
    by_cases hbefore : order ∈ s.world.committed.orders.rows
    · exact heffect.unmixed_old hI.keys hbefore (hI.orders order hbefore hold)
    · exact hsection.unmixed heffect hI.keys hcommits horder hbefore

/-- **Stock and preorder goods never mix in an order.** In a run `as` followed by a run `bs`,
every order committed at the end that was not there at the start is unmixed, with the preorders
that the publications have at the end of `as`; and so is every order that was unmixed at the
start. -/
theorem orders_unmixed (P : Pydantic) (h_orm : orm.Accepts) (h_keys : OrderKeys db)
    {as bs : List Action} {t s : Shop} (h : Run (step P orm) (initial db) as t)
    (h' : Run (step P orm) t bs s) :
    ∀ order ∈ s.world.committed.orders.rows,
      (order ∈ db.orders.rows → Unmixed db.catalog db order) →
        Unmixed t.world.committed.catalog s.world.committed order := by
  have hinit : SectionsInv orm db (initial db) := .initial h_keys
  have hI := (h.append h').invariant hinit fun _ _ _ hI hstep => hI.step h_orm hstep
  have hIt := h.invariant hinit fun _ _ _ hI hstep => hI.step h_orm hstep
  intro order horder hold
  have hunmixed := hI.orders order horder hold
  refine ⟨fun line hline hid => ?_, hunmixed.delivery⟩
  rw [hIt.preorders]
  exact hunmixed.lines line hline hid

/-- Of the two orders one is committed, and it is unmixed. -/
theorem orders_unmixed_two_orders :
    ∃ s, Run (step .strict .flattening) (initial sampleDatabase) twoOrders s ∧
      s.world.committed.orders.rows.length = 1 ∧
      ∀ order ∈ s.world.committed.orders.rows,
        Unmixed sampleDatabase.catalog s.world.committed order := by
  have hrun := run_of_exec (Option.some_get twoOrders_isSome).symm
  -- there is nothing in the database but the catalog
  have hkeys : OrderKeys sampleDatabase :=
    ⟨fun _ h => absurd h List.not_mem_nil, fun _ h => absurd h List.not_mem_nil⟩
  refine ⟨_, hrun, by decide +kernel, fun order horder => ?_⟩
  exact orders_unmixed .strict accepts_flattening hkeys (.nil _) hrun order horder
    fun h => absurd h List.not_mem_nil

end Shop

end Storefront
