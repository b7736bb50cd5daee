import Storefront.Database.Models
import Storefront.Errors
import Storefront.Library.UnitOfWork

/-!
# Writes

The statements the application sends to the database: a row inserted, a column of one row
set, cart rows inserted, set or deleted, favorites inserted or deleted. `Write.apply` executes
one, checking the constraints the statement can violate: the primary key of an insertion, the
foreign keys of an order to its preorder and of an order line, a cart row and a favorite to the
catalog item, and the two CHECK constraints. `postgres` is the backend made of them. The time
that `onupdate` stamps on `updated_at` with every UPDATE is left out.

Two tables matter to the stock: the catalog items, which only `setOrderedQuantity` writes,
and the order lines, to which only `insertOrderItem` adds. `stock_apply` is the inversion of
a write on these two tables and `stock_applyAll` that of a list of writes. `grown_applyAll` is
the inversion of the writes of an order on the other tables, `references_applyAll` that their
foreign keys resolve. The other way round, `NewRows.exists_applyAll` says that insertions of rows
with new ids go through.
-/

namespace Storefront

/-- A statement that writes. -/
inductive Write
  | setOrderedQuantity (item : UUID) (orderedQuantity : Int)
  | insertDelivery (row : DeliveryORM)
  | insertOrder (row : OrderORM)
  | insertOrderItem (row : OrderItemORM)
  | insertInvoice (row : InvoiceORM)
  /-- An invoice without an order, which the column does not allow. -/
  | insertInvoiceNull (id : UUID)
  | insertPayment (row : PaymentORM)
  | setPaymentStatus (payment : UUID) (status : String)
  | setInvoiceStatus (invoice : UUID) (status : InvoiceStatus)
  | setOrderStatus (order : UUID) (status : OrderStatus)
  | setCartItemQuantity (cartItem : UUID) (quantity : Int)
  | deleteCartItems (user : UUID) (items : List UUID)
  | insertCartItem (row : CartItemORM)
  | updateCartItemQuantity (user item : UUID) (quantity : Int)
  | insertFavorite (row : UserFavoritesORM)
  | deleteFavorites (user catalogItem : UUID)
  deriving DecidableEq, Repr

/-! ### Catalog and carts -/

/-- A catalog item with another ordered quantity. -/
def CatalogItemORM.withOrdered (n : Int) (item : CatalogItemORM) : CatalogItemORM :=
  { item with orderedQuantity := n }

section WithOrdered

variable (n : Int) (item : CatalogItemORM)

@[simp] theorem id_withOrdered : (item.withOrdered n).id = item.id := rfl
@[simp] theorem orderedQuantity_withOrdered : (item.withOrdered n).orderedQuantity = n := rfl
@[simp] theorem quantity_withOrdered : (item.withOrdered n).quantity = item.quantity := rfl

end WithOrdered

/-- Set the ordered quantity of one item; fails when the item's `quantity_limit` does. -/
def Catalog.setOrderedQuantity (catalog : Catalog) (id : UUID) (n : Int) : Option Catalog :=
  if h : ∀ item ∈ catalog.items.rows, item.id = id → (item.withOrdered n).QuantityLimit then
    some
      { catalog with
        items := catalog.items.modify id (·.withOrdered n) fun _ => rfl
        publication_fk := by
          intro item hitem
          obtain ⟨old, hold, rfl⟩ := (Table.mem_modify _ _ _ _).mp hitem
          split <;> exact catalog.publication_fk old hold
        product_fk := by
          intro item hitem
          obtain ⟨old, hold, rfl⟩ := (Table.mem_modify _ _ _ _).mp hitem
          split <;> exact catalog.product_fk old hold
        credit_plan_fk := by
          intro item hitem
          obtain ⟨old, hold, rfl⟩ := (Table.mem_modify _ _ _ _).mp hitem
          split <;> exact catalog.credit_plan_fk old hold
        quantity_limit := by
          intro item hitem
          obtain ⟨old, hold, rfl⟩ := (Table.mem_modify _ _ _ _).mp hitem
          split
          · next hid => exact h old hold hid
          · exact catalog.quantity_limit old hold }
  else none

/-- Set the quantity of one cart row; fails unless the quantity is positive. -/
def Carts.setQuantity (carts : Carts) (id : UUID) (n : Int) : Option Carts :=
  if h : ∀ r ∈ carts.table.rows, r.id = id → 0 < n then
    some
      { table := carts.table.modify id (fun r => { r with quantity := n }) fun _ => rfl
        unique_user_item := by
          intro r hr r' hr' hu hi
          obtain ⟨old, hold, rfl⟩ := (Table.mem_modify _ _ _ _).mp hr
          obtain ⟨old', hold', rfl⟩ := (Table.mem_modify _ _ _ _).mp hr'
          have huser : ∀ r : CartItemORM, ∀ p : Prop, ∀ [Decidable p],
              (if p then { r with quantity := n } else r).userId = r.userId ∧
              (if p then { r with quantity := n } else r).itemId = r.itemId := by
            intro r p _
            split <;> exact ⟨rfl, rfl⟩
          rw [(huser _ _).1, (huser _ _).1] at hu
          rw [(huser _ _).2, (huser _ _).2] at hi
          rw [carts.unique_user_item old hold old' hold' hu hi]
        positive_cart_item_quantity := by
          intro r hr
          obtain ⟨old, hold, rfl⟩ := (Table.mem_modify _ _ _ _).mp hr
          split
          · next hid => exact h old hold hid
          · exact carts.positive_cart_item_quantity old hold }
  else none

/-- A row that an insertion of `row` would violate a unique constraint with. -/
def Carts.Conflict (carts : Carts) (row : CartItemORM) : Prop :=
  ∃ r ∈ carts.table.rows, r.id = row.id ∨ (r.userId = row.userId ∧ r.itemId = row.itemId)

instance (carts : Carts) (row : CartItemORM) : Decidable (carts.Conflict row) := by
  unfold Carts.Conflict
  infer_instance

/-- Insert a row of a positive quantity that conflicts with none. -/
def Carts.insert (carts : Carts) (row : CartItemORM) (h : ¬ carts.Conflict row)
    (h_pos : 0 < row.quantity) : Carts where
  table := ⟨carts.table.rows ++ [row], by
    rw [List.map_append, List.map_singleton]
    refine List.nodup_append.mpr ⟨carts.table.nodup, List.nodup_singleton _, ?_⟩
    rintro a ha b hb rfl
    obtain ⟨r, hr, hid⟩ := List.mem_map.mp ha
    exact h ⟨r, hr, .inl (hid.trans (List.mem_singleton.mp hb))⟩⟩
  unique_user_item := by
    intro r hr r' hr' hu hi
    rcases List.mem_append.mp hr with hr | hr <;> rcases List.mem_append.mp hr' with hr' | hr'
    · exact carts.unique_user_item r hr r' hr' hu hi
    · rw [List.mem_singleton.mp hr'] at hu hi
      exact absurd ⟨r, hr, .inr ⟨hu, hi⟩⟩ h
    · rw [List.mem_singleton.mp hr] at hu hi
      exact absurd ⟨r', hr', .inr ⟨hu.symm, hi.symm⟩⟩ h
    · rw [List.mem_singleton.mp hr, List.mem_singleton.mp hr']
  positive_cart_item_quantity := by
    intro r hr
    rcases List.mem_append.mp hr with hr | hr
    · exact carts.positive_cart_item_quantity r hr
    · rw [List.mem_singleton.mp hr]
      exact h_pos

/-- `delete(CartItemORM).where(user_id == user).where(item_id.in_(items))` -/
def Carts.deleteItems (carts : Carts) (user : UUID) (items : List UUID) : Carts where
  table := carts.table.filter fun r => !(r.userId = user && r.itemId ∈ items)
  unique_user_item := by
    intro r hr r' hr'
    exact carts.unique_user_item r (List.mem_filter.mp hr).1 r' (List.mem_filter.mp hr').1
  positive_cart_item_quantity := by
    intro r hr
    exact carts.positive_cart_item_quantity r (List.mem_filter.mp hr).1

/-! ### Executing a write -/

/-- Insert a row into one of the tables, which `set` puts back. -/
def insertInto {Row K : Type} {key : Row → K} [DecidableEq K] (table : Table key) (row : Row)
    (set : Table key → Database) : Except PyExc Database :=
  match table.insert? row with
  | some table => .ok (set table)
  | none => .error (.integrityError PyExc.uniqueViolation)

/-- Execute one statement. -/
def Write.apply : Write → Database → Except PyExc Database
  | .setOrderedQuantity item n, db =>
    match db.catalog.setOrderedQuantity item n with
    | some catalog => .ok { db with catalog }
    | none => .error (.integrityError PyExc.checkViolation)
  | .insertDelivery row, db => insertInto db.deliveries row fun t => { db with deliveries := t }
  | .insertOrder row, db =>
    if ∀ preorder ∈ row.preorderId, preorder ∈ db.catalog.preorders.keys then
      insertInto db.orders row fun t => { db with orders := t }
    else .error (.integrityError PyExc.foreignKeyViolation)
  | .insertOrderItem row, db =>
    if row.itemId ∈ db.catalog.items.keys then
      insertInto db.orderItems row fun t => { db with orderItems := t }
    else .error (.integrityError PyExc.foreignKeyViolation)
  | .insertInvoice row, db => insertInto db.invoices row fun t => { db with invoices := t }
  | .insertInvoiceNull _, _ => .error (.integrityError PyExc.notNullViolation)
  | .insertPayment row, db => insertInto db.payments row fun t => { db with payments := t }
  | .setPaymentStatus id status, db =>
    .ok { db with payments := db.payments.modify id (fun p => { p with status }) fun _ => rfl }
  | .setInvoiceStatus id status, db =>
    .ok { db with invoices := db.invoices.modify id (fun i => { i with status }) fun _ => rfl }
  | .setOrderStatus id status, db =>
    .ok { db with orders := db.orders.modify id (fun o => { o with status }) fun _ => rfl }
  | .setCartItemQuantity id n, db =>
    match db.carts.setQuantity id n with
    | some carts => .ok { db with carts }
    | none => .error (.integrityError PyExc.checkViolation)
  | .deleteCartItems user items, db =>
    .ok { db with carts := db.carts.deleteItems user items }
  | .insertCartItem row, db =>
    if h : db.carts.Conflict row then .ok db
    else if h_pos : 0 < row.quantity then
      if row.itemId ∈ db.catalog.items.keys then
        .ok { db with carts := db.carts.insert row h h_pos }
      else .error (.integrityError PyExc.foreignKeyViolation)
    else .error (.integrityError PyExc.checkViolation)
  | .updateCartItemQuantity user item n, db =>
    match db.carts.table.rows.find? fun r => r.userId = user && r.itemId = item with
    | none => .ok db
    | some r =>
      match db.carts.setQuantity r.id n with
      | some carts => .ok { db with carts }
      | none => .error (.integrityError PyExc.checkViolation)
  | .insertFavorite row, db =>
    if row.catalogItemId ∈ db.catalog.items.keys then
      insertInto db.favorites row fun t => { db with favorites := t }
    else .error (.integrityError PyExc.foreignKeyViolation)
  | .deleteFavorites user catalogItem, db =>
    .ok { db with
      favorites := db.favorites.filter fun r =>
        !(r.userId = user && r.catalogItemId = catalogItem) }

/-- The database of the application. -/
def postgres : Backend Database Write PyExc where
  apply := Write.apply
  pendingRollback := .pendingRollbackError

/-- A coroutine of the application: it has a session on the database, may raise, and keeps
whatever else it works on in a `σ`. -/
abbrev App (σ : Type) := EStateM PyExc (Ctx Database Write σ)

/-! ### What a write does to the stock tables -/

theorem insertInto_eq_ok {Row K : Type} {key : Row → K} [DecidableEq K] {table : Table key}
    {row : Row} {set : Table key → Database} {db' : Database} :
    insertInto table row set = .ok db' ↔
      ∃ t, key row ∉ table.keys ∧ t.rows = table.rows ++ [row] ∧ db' = set t := by
  unfold insertInto
  cases h : table.insert? row with
  | none =>
    -- the key is taken
    simp only [reduceCtorEq, false_iff]
    rintro ⟨t, hkey, hrows, -⟩
    rw [Table.insert?_eq_some.mpr ⟨hkey, hrows⟩] at h
    cases h
  | some t =>
    obtain ⟨hkey, hrows⟩ := Table.insert?_eq_some.mp h
    refine ⟨?_, ?_⟩
    · intro heq
      cases heq
      exact ⟨t, hkey, hrows, rfl⟩
    · rintro ⟨t', -, hrows', rfl⟩
      rw [Table.ext (hrows.trans hrows'.symm)]

/-- An insertion of a row with a new key succeeds. -/
theorem insertInto_of_notMem {Row K : Type} {key : Row → K} [DecidableEq K] {table : Table key}
    {row : Row} {set : Table key → Database} (h : key row ∉ table.keys) :
    ∃ t, insertInto table row set = .ok (set t) ∧ t.rows = table.rows ++ [row] := by
  obtain ⟨t, hinsert, hrows⟩ := Table.exists_insert? h
  unfold insertInto
  rw [hinsert]
  exact ⟨t, rfl, hrows⟩

theorem setOrderedQuantity_eq_some {catalog catalog' : Catalog} {id : UUID} {n : Int} :
    catalog.setOrderedQuantity id n = some catalog' →
      (∀ item ∈ catalog.items.rows, item.id = id → (item.withOrdered n).QuantityLimit) ∧
      catalog'.items.rows =
        catalog.items.rows.map fun item => if item.id = id then item.withOrdered n else item := by
  unfold Catalog.setOrderedQuantity
  split
  · next h =>
    intro heq
    cases heq
    exact ⟨h, rfl⟩
  · intro heq
    cases heq

/-- What a write makes of one catalog item. -/
def Write.onItem (item : CatalogItemORM) : Write → CatalogItemORM
  | .setOrderedQuantity id n => if item.id = id then item.withOrdered n else item
  | _ => item

/-- The order line a write inserts, if it inserts one. -/
def Write.orderItem? : Write → Option OrderItemORM
  | .insertOrderItem row => some row
  | _ => none

/-- The catalog item a write sets the ordered quantity of, if it does. -/
def Write.item? : Write → Option UUID
  | .setOrderedQuantity id _ => some id
  | _ => none

@[simp] theorem id_onItem (item : CatalogItemORM) (w : Write) : (w.onItem item).id = item.id := by
  cases w <;> try rfl
  case setOrderedQuantity id n =>
    show (if item.id = id then item.withOrdered n else item).id = item.id
    split <;> rfl

theorem onItem_of_ne {item : CatalogItemORM} {w : Write} (h : w.item? ≠ some item.id) :
    w.onItem item = item := by
  cases w <;> try rfl
  case setOrderedQuantity id n =>
    exact if_neg fun heq => h (congrArg some heq.symm)

/-- **Inversion of a write, on the stock tables.** It rewrites the catalog items one by one
and adds the order line it inserts; the other statements leave both tables alone. -/
theorem stock_apply {w : Write} {db db' : Database} (h : w.apply db = .ok db') :
    db'.catalog.items.rows = db.catalog.items.rows.map w.onItem ∧
      db'.orderItems.rows = db.orderItems.rows ++ w.orderItem?.toList := by
  -- what the statements on other tables do to these two
  have hsame : ∀ (rows : List CatalogItemORM) (lines : List OrderItemORM),
      rows = rows.map (fun item => item) ∧ lines = lines ++ [] :=
    fun rows lines => ⟨(List.map_id' rows).symm, (List.append_nil lines).symm⟩
  cases w with
  | setOrderedQuantity id n =>
    simp only [Write.apply] at h
    cases hset : db.catalog.setOrderedQuantity id n with
    | none => rw [hset] at h; cases h
    | some catalog =>
      rw [hset] at h
      cases h
      exact ⟨(setOrderedQuantity_eq_some hset).2, (hsame [] _).2⟩
  | insertOrderItem row =>
    simp only [Write.apply] at h
    split at h
    · obtain ⟨t, -, hrows, rfl⟩ := insertInto_eq_ok.mp h
      exact ⟨(hsame _ []).1, hrows⟩
    · cases h
  -- the other tables
  | insertDelivery row | insertInvoice row | insertPayment row =>
    obtain ⟨t, -, -, rfl⟩ := insertInto_eq_ok.mp h
    exact hsame _ _
  | insertOrder row | insertFavorite row =>
    simp only [Write.apply] at h
    split at h
    · obtain ⟨t, -, -, rfl⟩ := insertInto_eq_ok.mp h
      exact hsame _ _
    · cases h
  | setPaymentStatus id s | setInvoiceStatus id s | setOrderStatus id s | deleteCartItems u is
  | deleteFavorites u i =>
    cases h
    exact hsame _ _
  | insertInvoiceNull id => cases h
  | setCartItemQuantity id n =>
    simp only [Write.apply] at h
    cases hset : db.carts.setQuantity id n with
    | none => rw [hset] at h; cases h
    | some carts =>
      rw [hset] at h
      cases h
      exact hsame _ _
  | insertCartItem row =>
    simp only [Write.apply] at h
    split at h
    · cases h
      exact hsame _ _
    · split at h
      · split at h <;> cases h
        exact hsame _ _
      · cases h
  | updateCartItemQuantity user item n =>
    simp only [Write.apply] at h
    split at h
    · cases h
      exact hsame _ _
    · split at h <;> cases h
      exact hsame _ _

/-! ### Lists of writes -/

/-- What a list of writes makes of one catalog item. -/
def onItemAll (ws : List Write) (item : CatalogItemORM) : CatalogItemORM :=
  ws.foldl Write.onItem item

@[simp] theorem id_onItemAll (ws : List Write) (item : CatalogItemORM) :
    (onItemAll ws item).id = item.id := by
  induction ws generalizing item with
  | nil => rfl
  | cons w ws ih => exact (ih _).trans (id_onItem item w)

theorem onItemAll_append (ws ws' : List Write) (item : CatalogItemORM) :
    onItemAll (ws ++ ws') item = onItemAll ws' (onItemAll ws item) :=
  List.foldl_append

/-- An item none of the writes is about stays as it is. -/
theorem onItemAll_of_notMem {ws : List Write} {item : CatalogItemORM}
    (h : ∀ w ∈ ws, w.item? ≠ some item.id) : onItemAll ws item = item := by
  induction ws with
  | nil => rfl
  | cons w ws ih =>
    change onItemAll ws (w.onItem item) = item
    rw [onItem_of_ne (h w List.mem_cons_self)]
    exact ih fun w' hw' => h w' (List.mem_cons_of_mem _ hw')

/-- The inversion of a write, for a list of them. -/
theorem stock_applyAll {ws : List Write} {db db' : Database}
    (h : postgres.applyAll ws db = .ok db') :
    db'.catalog.items.rows = db.catalog.items.rows.map (onItemAll ws) ∧
      db'.orderItems.rows = db.orderItems.rows ++ ws.filterMap Write.orderItem? := by
  induction ws generalizing db with
  | nil =>
    cases h
    exact ⟨(List.map_id' _).symm, (List.append_nil _).symm⟩
  | cons w ws ih =>
    rw [Backend.applyAll_cons] at h
    cases hw : postgres.apply w db with
    | error e => rw [hw] at h; cases h
    | ok db₁ =>
      rw [hw] at h
      obtain ⟨hitems, hlines⟩ := stock_apply hw
      obtain ⟨hitems', hlines'⟩ := ih h
      -- the first write and then the others, on each table
      refine ⟨?_, ?_⟩
      · rw [hitems', hitems, List.map_map]
        rfl
      · rw [hlines', hlines, List.append_assoc]
        cases ho : w.orderItem? with
        | none => rw [List.filterMap_cons_none ho]; rfl
        | some row => rw [List.filterMap_cons_some ho]; rfl

/-! ### Insertions and deletions on the other tables -/

/-- The row that a write inserts into one of the tables of orders, if it inserts one. -/
def Write.order? : Write → Option OrderORM
  | .insertOrder row => some row
  | _ => none

def Write.delivery? : Write → Option DeliveryORM
  | .insertDelivery row => some row
  | _ => none

def Write.invoice? : Write → Option InvoiceORM
  | .insertInvoice row => some row
  | _ => none

def Write.payment? : Write → Option PaymentORM
  | .insertPayment row => some row
  | _ => none

/-- What a deletion leaves of the cart rows. -/
def Write.onCarts (rows : List CartItemORM) : Write → List CartItemORM
  | .deleteCartItems user items => rows.filter fun r => !(r.userId = user && r.itemId ∈ items)
  | _ => rows

/-- An insertion into one of the tables of orders, an ordered quantity that is set, or a
deletion of cart rows. -/
def Write.IsOrdering : Write → Prop
  | .setOrderedQuantity _ _ | .insertDelivery _ | .insertOrder _ | .insertOrderItem _
  | .insertInvoice _ | .insertInvoiceNull _ | .insertPayment _ | .deleteCartItems _ _ => True
  | _ => False

/-- `db'` has the rows of `db` and those that `ws` inserts, without the cart rows that `ws`
deletes. The catalog items and the order lines are left to `stock_applyAll`. -/
structure Grown (ws : List Write) (db db' : Database) : Prop where
  orders : db'.orders.rows = db.orders.rows ++ ws.filterMap Write.order?
  deliveries : db'.deliveries.rows = db.deliveries.rows ++ ws.filterMap Write.delivery?
  invoices : db'.invoices.rows = db.invoices.rows ++ ws.filterMap Write.invoice?
  payments : db'.payments.rows = db.payments.rows ++ ws.filterMap Write.payment?
  carts : db'.carts.table.rows = ws.foldl Write.onCarts db.carts.table.rows
  preorders : db'.catalog.preorders = db.catalog.preorders
  publications : db'.catalog.publications = db.catalog.publications
  products : db'.catalog.products = db.catalog.products
  credit_plans : db'.catalog.creditPlans = db.catalog.creditPlans
  favorites : db'.favorites = db.favorites

theorem Grown.nil (db : Database) : Grown [] db db := by
  refine ⟨?_, ?_, ?_, ?_, rfl, rfl, rfl, rfl, rfl, rfl⟩ <;> exact (List.append_nil _).symm

theorem Grown.append {ws ws' : List Write} {db₁ db₂ db₃ : Database} (h : Grown ws db₁ db₂)
    (h' : Grown ws' db₂ db₃) : Grown (ws ++ ws') db₁ db₃ where
  orders := by rw [h'.orders, h.orders, List.filterMap_append, List.append_assoc]
  deliveries := by rw [h'.deliveries, h.deliveries, List.filterMap_append, List.append_assoc]
  invoices := by rw [h'.invoices, h.invoices, List.filterMap_append, List.append_assoc]
  payments := by rw [h'.payments, h.payments, List.filterMap_append, List.append_assoc]
  carts := by rw [h'.carts, h.carts, List.foldl_append]
  preorders := h'.preorders.trans h.preorders
  publications := h'.publications.trans h.publications
  products := h'.products.trans h.products
  credit_plans := h'.credit_plans.trans h.credit_plans
  favorites := h'.favorites.trans h.favorites

/-- The ordered quantities are all that is set in the catalog. -/
theorem setOrderedQuantity_frame {catalog catalog' : Catalog} {id : UUID} {n : Int}
    (h : catalog.setOrderedQuantity id n = some catalog') :
    catalog'.preorders = catalog.preorders ∧ catalog'.publications = catalog.publications ∧
      catalog'.products = catalog.products ∧ catalog'.creditPlans = catalog.creditPlans := by
  unfold Catalog.setOrderedQuantity at h
  split at h
  · cases h
    exact ⟨rfl, rfl, rfl, rfl⟩
  · cases h

/-- One write of an order. -/
theorem grown_apply {w : Write} (h_ordering : w.IsOrdering) {db db' : Database}
    (h : w.apply db = .ok db') : Grown [w] db db' := by
  cases w with
  | setOrderedQuantity id n =>
    simp only [Write.apply] at h
    cases hset : db.catalog.setOrderedQuantity id n with
    | none =>
      rw [hset] at h
      cases h
    | some catalog =>
      rw [hset] at h
      cases h
      -- the stock is in the item rows, and the other catalog tables stay
      obtain ⟨hpre, hpub, hprod, hplan⟩ := setOrderedQuantity_frame hset
      exact { Grown.nil db with
        preorders := hpre, publications := hpub, products := hprod, credit_plans := hplan }
  -- an insertion extends its own table
  | insertDelivery row =>
    obtain ⟨t, -, hrows, rfl⟩ := insertInto_eq_ok.mp h
    exact { Grown.nil db with deliveries := hrows }
  | insertInvoice row =>
    obtain ⟨t, -, hrows, rfl⟩ := insertInto_eq_ok.mp h
    exact { Grown.nil db with invoices := hrows }
  | insertPayment row =>
    obtain ⟨t, -, hrows, rfl⟩ := insertInto_eq_ok.mp h
    exact { Grown.nil db with payments := hrows }
  | insertOrder row =>
    simp only [Write.apply] at h
    split at h
    · obtain ⟨t, -, hrows, rfl⟩ := insertInto_eq_ok.mp h
      exact { Grown.nil db with orders := hrows }
    · cases h
  | insertOrderItem row =>
    simp only [Write.apply] at h
    split at h
    · -- lines are in `stock_apply`, not here
      obtain ⟨t, -, -, rfl⟩ := insertInto_eq_ok.mp h
      exact { Grown.nil db with }
    · cases h
  | insertInvoiceNull id => cases h
  | deleteCartItems user items =>
    cases h
    exact { Grown.nil db with carts := rfl }
  -- the others are no writes of an order
  | setPaymentStatus _ _ | setInvoiceStatus _ _ | setOrderStatus _ _ | setCartItemQuantity _ _
  | insertCartItem _ | updateCartItemQuantity _ _ _ | insertFavorite _
  | deleteFavorites _ _ => exact h_ordering.elim

/-- **What the writes of an order do to the other tables.** -/
theorem grown_applyAll {ws : List Write} (h_ordering : ∀ w ∈ ws, w.IsOrdering)
    {db db' : Database} (h : postgres.applyAll ws db = .ok db') : Grown ws db db' := by
  induction ws generalizing db with
  | nil =>
    cases h
    exact Grown.nil _
  | cons w ws ih =>
    obtain ⟨hw, hws⟩ := List.forall_mem_cons.mp h_ordering
    obtain ⟨db₁, hfirst, hrest⟩ :=
      (postgres.applyAll_append_eq_ok).mp (show postgres.applyAll ([w] ++ ws) db = .ok db' from h)
    exact (grown_apply hw hfirst).append (ih hws hrest)

/-- An order names a preorder, and an order line a catalog item, that is there. -/
def Write.References (db : Database) : Write → Prop
  | .insertOrder row => ∀ preorder ∈ row.preorderId, preorder ∈ db.catalog.preorders.keys
  | .insertOrderItem row => row.itemId ∈ db.catalog.items.keys
  | _ => True

/-- A write of an order keeps the ids that foreign keys are resolved with. -/
theorem references_of_apply {w : Write} (h_ordering : w.IsOrdering) {db db' : Database}
    (h : w.apply db = .ok db') (w' : Write) : w'.References db' ↔ w'.References db := by
  -- references lead to preorders and items, whose keys no write of an order changes
  have hpreorders : db'.catalog.preorders = db.catalog.preorders :=
    (grown_apply h_ordering h).preorders
  have hitems : db'.catalog.items.keys = db.catalog.items.keys := by
    unfold Table.keys
    rw [(stock_apply h).1, List.map_map]
    exact List.map_congr_left fun item _ => id_onItem item w
  cases w' <;> try exact Iff.rfl
  case insertOrder row =>
    unfold Write.References
    rw [hpreorders]
  case insertOrderItem row =>
    unfold Write.References
    rw [hitems]

/-- **The foreign keys of what was inserted resolve**, in the catalog of before. -/
theorem references_applyAll {ws : List Write} (h_ordering : ∀ w ∈ ws, w.IsOrdering)
    {db db' : Database} (h : postgres.applyAll ws db = .ok db') : ∀ w ∈ ws, w.References db := by
  induction ws generalizing db with
  | nil => exact fun w hw => absurd hw List.not_mem_nil
  | cons w ws ih =>
    obtain ⟨hw, hws⟩ := List.forall_mem_cons.mp h_ordering
    obtain ⟨db₁, hfirst, hrest⟩ :=
      (postgres.applyAll_append_eq_ok).mp (show postgres.applyAll ([w] ++ ws) db = .ok db' from h)
    have hwrite : w.apply db = .ok db₁ := hfirst
    refine List.forall_mem_cons.mpr ⟨?_, fun w' hw' => ?_⟩
    · cases w <;> try trivial
      case insertOrder row =>
        simp only [Write.apply] at hwrite
        split at hwrite
        · assumption
        · cases hwrite
      case insertOrderItem row =>
        simp only [Write.apply] at hwrite
        split at hwrite
        · assumption
        · cases hwrite
    · -- the later writes resolve after the first one, hence before it
      exact (references_of_apply hw hwrite w').mp (ih hws hrest w' hw')

/-! ### Writes that go through -/

/-- An insertion into one of the tables of orders, or a deletion of cart rows. -/
def Write.IsInsertion : Write → Prop
  | .insertDelivery _ | .insertOrder _ | .insertOrderItem _ | .insertInvoice _
  | .insertPayment _ | .deleteCartItems _ _ => True
  | _ => False

theorem Write.IsInsertion.isOrdering {w : Write} (h : w.IsInsertion) : w.IsOrdering := by
  cases w <;> trivial

/-- In each table of orders the rows of `db` and those that `ws` inserts have pairwise distinct
ids, and the foreign keys of the new rows resolve. -/
structure NewRows (ws : List Write) (db : Database) : Prop where
  orders : ((db.orders.rows ++ ws.filterMap Write.order?).map OrderORM.id).Nodup
  deliveries : ((db.deliveries.rows ++ ws.filterMap Write.delivery?).map DeliveryORM.id).Nodup
  lines : ((db.orderItems.rows ++ ws.filterMap Write.orderItem?).map OrderItemORM.id).Nodup
  invoices : ((db.invoices.rows ++ ws.filterMap Write.invoice?).map InvoiceORM.id).Nodup
  payments : ((db.payments.rows ++ ws.filterMap Write.payment?).map PaymentORM.id).Nodup
  references : ∀ w ∈ ws, w.References db

/-- The rows that are left after some of the writes are still new. -/
theorem NewRows.tail {w : Write} {ws : List Write} {db db₁ : Database}
    (h : NewRows (w :: ws) db) (h_ordering : w.IsOrdering) (h_apply : w.apply db = .ok db₁) :
    NewRows ws db₁ := by
  have hgrown := grown_apply h_ordering h_apply
  have hlines : db₁.orderItems.rows = db.orderItems.rows ++ [w].filterMap Write.orderItem? :=
    (stock_applyAll (show postgres.applyAll [w] db = .ok db₁ from h_apply)).2
  exact {
    -- what the first write has added moves from the list into the table
    orders := by
      rw [hgrown.orders, List.append_assoc, ← List.filterMap_append]
      exact h.orders
    deliveries := by
      rw [hgrown.deliveries, List.append_assoc, ← List.filterMap_append]
      exact h.deliveries
    lines := by
      rw [hlines, List.append_assoc, ← List.filterMap_append]
      exact h.lines
    invoices := by
      rw [hgrown.invoices, List.append_assoc, ← List.filterMap_append]
      exact h.invoices
    payments := by
      rw [hgrown.payments, List.append_assoc, ← List.filterMap_append]
      exact h.payments
    references := fun w' hw' => (references_of_apply h_ordering h_apply w').mpr
      (h.references w' (List.mem_cons_of_mem _ hw')) }

/-- Nor does a list of writes that went through take the ids of those after it. -/
theorem NewRows.drop {ws ws' : List Write} {db db₁ : Database} (h : NewRows (ws ++ ws') db)
    (h_ordering : ∀ w ∈ ws, w.IsOrdering) (h_apply : postgres.applyAll ws db = .ok db₁) :
    NewRows ws' db₁ := by
  induction ws generalizing db with
  | nil =>
    cases h_apply
    exact h
  | cons w ws ih =>
    obtain ⟨hw, hws⟩ := List.forall_mem_cons.mp h_ordering
    obtain ⟨db₂, hfirst, hrest⟩ := (postgres.applyAll_append_eq_ok).mp
      (show postgres.applyAll ([w] ++ ws) db = .ok db₁ from h_apply)
    exact ih (NewRows.tail h hw hfirst) hws hrest

/-- A new row can be inserted. -/
theorem exists_insertInto {Row K : Type} {key : Row → K} [DecidableEq K] {table : Table key}
    {row : Row} {rows : List Row} {set : Table key → Database}
    (h : ((table.rows ++ row :: rows).map key).Nodup) :
    ∃ db', insertInto table row set = .ok db' := by
  rw [List.map_append] at h
  have hnew : key row ∉ table.keys := fun hmem =>
    (List.nodup_append.mp h).2.2 _ hmem _ (List.mem_map_of_mem List.mem_cons_self) rfl
  obtain ⟨t, hinsert, -⟩ := insertInto_of_notMem hnew
  exact ⟨set t, hinsert⟩

theorem NewRows.apply {w : Write} {ws : List Write} {db : Database} (h : NewRows (w :: ws) db)
    (h_insertion : w.IsInsertion) : ∃ db₁, w.apply db = .ok db₁ := by
  cases w with
  | insertDelivery row => exact exists_insertInto h.deliveries
  | insertInvoice row => exact exists_insertInto h.invoices
  | insertPayment row => exact exists_insertInto h.payments
  | insertOrder row =>
    have hpreorder : ∀ preorder ∈ row.preorderId, preorder ∈ db.catalog.preorders.keys :=
      h.references _ List.mem_cons_self
    simp only [Write.apply]
    rw [if_pos hpreorder]
    exact exists_insertInto h.orders
  | insertOrderItem row =>
    have hitem : row.itemId ∈ db.catalog.items.keys := h.references _ List.mem_cons_self
    simp only [Write.apply]
    rw [if_pos hitem]
    exact exists_insertInto h.lines
  | deleteCartItems user items => exact ⟨_, rfl⟩
  -- the others are no insertions
  | setOrderedQuantity _ _ | insertInvoiceNull _ | setPaymentStatus _ _ | setInvoiceStatus _ _
  | setOrderStatus _ _ | setCartItemQuantity _ _ | insertCartItem _
  | updateCartItemQuantity _ _ _ | insertFavorite _ | deleteFavorites _ _ =>
    exact h_insertion.elim

/-- **Insertions of new rows go through.** -/
theorem NewRows.exists_applyAll {ws : List Write} {db : Database} (h : NewRows ws db)
    (h_insertions : ∀ w ∈ ws, w.IsInsertion) : ∃ db', postgres.applyAll ws db = .ok db' := by
  induction ws generalizing db with
  | nil => exact ⟨db, rfl⟩
  | cons w ws ih =>
    obtain ⟨hw, hws⟩ := List.forall_mem_cons.mp h_insertions
    obtain ⟨db₁, hfirst⟩ := h.apply hw
    obtain ⟨db', hrest⟩ := ih (h.tail hw.isOrdering hfirst) hws
    have happly : postgres.applyAll ([w] ++ ws) db = .ok db' :=
      (postgres.applyAll_append_eq_ok).mpr ⟨db₁, hfirst, hrest⟩
    exact ⟨db', happly⟩

end Storefront
