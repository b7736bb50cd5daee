import Storefront.Library.Hex
import Storefront.Library.Table

/-!
# Rows of the database

The tables of `database/models.py` that checkout, orders, payments and carts read or
write, one structure per mapped class, with the columns those operations use. A nullable
column is an `Option`; status and type columns, which the application fills from its string
enumerations, are those enumerations; amounts and quantities are Python integers.

Relations are the foreign keys of the rows. `CreditPlanORM` carries its parts and
`ProductORM` its attachments, in the order they are loaded. Times are in seconds.
-/

namespace Storefront

/-- A UUID. -/
structure UUID where
  bits : BitVec 128
  deriving DecidableEq, Repr

instance (n : Nat) : OfNat UUID n := ⟨⟨BitVec.ofNat 128 n⟩⟩

/-- `str(uuid)`: 32 hexadecimal digits in groups of 8, 4, 4, 4 and 12. -/
def UUID.str (u : UUID) : String :=
  let digits := (List.range 32).map fun i => Nat.digitChar (u.bits.toNat / 16 ^ (31 - i) % 16)
  let group (start len : Nat) := (digits.drop start).take len
  String.ofList (group 0 8 ++ '-' :: group 8 4 ++ '-' :: group 12 4 ++ '-' :: group 16 4 ++
    '-' :: group 20 12)

/-- `UUID(s)`: 32 hexadecimal digits, whatever hyphens are between them. -/
def UUID.ofStr? (s : String) : Option UUID :=
  let digits := s.toList.filter (· ≠ '-')
  if digits.length = 32 then (ofHexDigits digits).map fun n => ⟨BitVec.ofNat 128 n⟩ else none

/-- A UUID is read back from its text. -/
theorem UUID.ofStr?_str (u : UUID) : UUID.ofStr? u.str = some u := by
  -- without the hyphens the five groups are the 32 digits again
  have hgroups : ∀ ds : List Char, ds.length = 32 → (∀ c ∈ ds, c ≠ '-') →
      ((ds.drop 0).take 8 ++ '-' :: (ds.drop 8).take 4 ++ '-' :: (ds.drop 12).take 4 ++
        '-' :: (ds.drop 16).take 4 ++ '-' :: (ds.drop 20).take 12).filter (· ≠ '-') = ds := by
    intro ds hlen hds
    -- a group of digits loses nothing, and the hyphens between them go
    have hpart : ∀ i n : ℕ, ((ds.drop i).take n).filter (· ≠ '-') = (ds.drop i).take n :=
      fun i n => List.filter_eq_self.mpr fun c hc =>
        decide_eq_true (hds c (List.mem_of_mem_drop (List.mem_of_mem_take hc)))
    -- the five groups are put together from the last one back
    have hsplit : ∀ i n : ℕ, (ds.drop i).take n ++ ds.drop (i + n) = ds.drop i := by
      intro i n
      rw [← List.drop_drop, List.take_append_drop]
    have hlast : (ds.drop 20).take 12 = ds.drop 20 :=
      List.take_of_length_le (by simp [hlen])
    simp only [List.filter_append, hpart, List.filter_cons, ne_eq, not_true_eq_false,
      decide_false, Bool.false_eq_true, if_false]
    rw [hlast, List.append_assoc, List.append_assoc, List.append_assoc, hsplit 16 4, hsplit 12 4,
      hsplit 8 4, hsplit 0 8, List.drop_zero]
  have hfilter : u.str.toList.filter (· ≠ '-') = hexDigits 32 u.bits.toNat := by
    unfold UUID.str
    rw [String.toList_ofList]
    exact hgroups (hexDigits 32 u.bits.toNat) (length_hexDigits 32 _)
      fun c hc => hexDigits_ne_hyphen hc
  unfold UUID.ofStr?
  simp only [hfilter, length_hexDigits, if_true]
  rw [ofHexDigits_hexDigits (k := 32) (by simpa using u.bits.isLt)]
  simp

theorem UUID.length_str (u : UUID) : u.str.length = 36 := by
  unfold UUID.str
  rw [String.length_ofList]
  simp

theorem UUID.str_injective : Function.Injective UUID.str := by
  intro u v h
  have hread := congrArg UUID.ofStr? h
  rw [UUID.ofStr?_str, UUID.ofStr?_str] at hread
  exact Option.some.inj hread

/-! ### Enumerations of `services/order/constants.py` -/

inductive InvoiceStatus
  | unpaid | waiting | paid | canceled
  deriving DecidableEq, Repr

inductive OrderStatus
  | unpaid | accepted | assembly | delivery | finished | canceled
  deriving DecidableEq, Repr

inductive InvoiceType
  | initial | credit | shippingForeign | shippingLocal
  deriving DecidableEq, Repr

inductive DeliveryService
  | cdek | selfPickup
  deriving DecidableEq, Repr

/-! ### Catalog -/

/-- `database/constants.py` -/
inductive AttachmentType
  | image
  deriving DecidableEq, Repr

structure AttachmentORM where
  type : AttachmentType
  url : String
  deriving DecidableEq, Repr

structure PreorderORM where
  id : UUID
  createdAt : Int
  expectedArrival : Option String
  status : String
  deriving DecidableEq, Repr

structure PublicationORM where
  id : UUID
  preorderId : Option UUID
  deriving DecidableEq, Repr

structure ProductORM where
  id : UUID
  title : String
  attachments : List AttachmentORM
  deriving DecidableEq, Repr

structure CreditPartORM where
  sum : Int
  deadline : String
  deriving DecidableEq, Repr

structure CreditPlanORM where
  id : UUID
  parts : List CreditPartORM
  deriving DecidableEq, Repr

structure CatalogItemORM where
  id : UUID
  publicationId : UUID
  productId : UUID
  creditPlanId : Option UUID
  price : Int
  isActive : Bool
  quantity : Option Int
  orderedQuantity : Int
  deriving DecidableEq, Repr

/-- `CheckConstraint('quantity IS NULL OR ordered_quantity <= quantity')` -/
def CatalogItemORM.QuantityLimit (item : CatalogItemORM) : Prop :=
  ∀ q ∈ item.quantity, item.orderedQuantity ≤ q

instance (item : CatalogItemORM) : Decidable item.QuantityLimit := by
  unfold CatalogItemORM.QuantityLimit
  infer_instance

/-! ### Orders and payments -/

structure OrderORM where
  id : UUID
  userId : UUID
  preorderId : Option UUID
  deliveryId : Option UUID
  status : OrderStatus
  createdAt : Int
  deriving DecidableEq, Repr

structure OrderItemORM where
  id : UUID
  itemId : UUID
  orderId : UUID
  quantity : Int
  price : Int
  byCredit : Bool
  deriving DecidableEq, Repr

structure InvoiceORM where
  id : UUID
  orderId : UUID
  orderItemId : Option UUID
  creditPartIndex : Option Nat
  title : String
  type : InvoiceType
  amount : Int
  status : InvoiceStatus
  deriving DecidableEq, Repr

/-- Without `updated_at`, which every `UPDATE` stamps and nothing reads. -/
structure PaymentORM where
  id : UUID
  createdAt : Int
  invoiceId : UUID
  url : String
  status : String
  externalId : Int
  deriving DecidableEq, Repr

structure DeliveryORM where
  id : UUID
  service : DeliveryService
  address : String
  addressIdentifier : Option String
  recipientName : Option String
  recipientPhone : Option String
  trackCode : Option String
  deriving DecidableEq, Repr

/-! ### Carts and favorites -/

structure CartItemORM where
  id : UUID
  userId : UUID
  itemId : UUID
  quantity : Int
  deriving DecidableEq, Repr

structure UserFavoritesORM where
  id : UUID
  userId : UUID
  catalogItemId : UUID
  deriving DecidableEq, Repr

/-! ### The database -/

/-- The catalog tables. The primary keys are those of the tables; the foreign keys of a
publication and of a catalog item, and its `quantity_limit` check, hold of every catalog that
can be stored. -/
structure Catalog where
  preorders : Table PreorderORM.id
  publications : Table PublicationORM.id
  products : Table ProductORM.id
  creditPlans : Table CreditPlanORM.id
  items : Table CatalogItemORM.id
  preorder_fk : ∀ publication ∈ publications.rows, ∀ preorder ∈ publication.preorderId,
    preorder ∈ preorders.keys
  publication_fk : ∀ item ∈ items.rows, item.publicationId ∈ publications.keys
  product_fk : ∀ item ∈ items.rows, item.productId ∈ products.keys
  credit_plan_fk : ∀ item ∈ items.rows, ∀ plan ∈ item.creditPlanId, plan ∈ creditPlans.keys
  quantity_limit : ∀ item ∈ items.rows, item.QuantityLimit

attribute [ext] Catalog

/-- The cart rows of all users, with the two constraints of `CartItemORM`. -/
structure Carts where
  table : Table CartItemORM.id
  unique_user_item : ∀ r ∈ table.rows, ∀ r' ∈ table.rows,
    r.userId = r'.userId → r.itemId = r'.itemId → r = r'
  positive_cart_item_quantity : ∀ r ∈ table.rows, 0 < r.quantity

/-- A state of the database. -/
structure Database where
  catalog : Catalog
  carts : Carts
  favorites : Table UserFavoritesORM.id
  orders : Table OrderORM.id
  orderItems : Table OrderItemORM.id
  deliveries : Table DeliveryORM.id
  invoices : Table InvoiceORM.id
  payments : Table PaymentORM.id

namespace Catalog

/-- `item.publication_info` -/
def publicationInfo (catalog : Catalog) (item : CatalogItemORM) : Option PublicationORM :=
  catalog.publications.find? item.publicationId

/-- `item.product` -/
def product (catalog : Catalog) (item : CatalogItemORM) : Option ProductORM :=
  catalog.products.find? item.productId

/-- `item.credit_plan` -/
def creditPlan (catalog : Catalog) (item : CatalogItemORM) : Option CreditPlanORM :=
  item.creditPlanId.bind catalog.creditPlans.find?

/-- The foreign keys resolve for every stored item. -/
theorem exists_publicationInfo {catalog : Catalog} {item : CatalogItemORM}
    (h : item ∈ catalog.items.rows) : ∃ p, catalog.publicationInfo item = some p := by
  obtain ⟨p, hp, hid⟩ := Table.mem_keys.mp (catalog.publication_fk item h)
  exact ⟨p, Table.find?_eq_some.mpr ⟨hp, hid⟩⟩

theorem exists_product {catalog : Catalog} {item : CatalogItemORM}
    (h : item ∈ catalog.items.rows) : ∃ p, catalog.product item = some p := by
  obtain ⟨p, hp, hid⟩ := Table.mem_keys.mp (catalog.product_fk item h)
  exact ⟨p, Table.find?_eq_some.mpr ⟨hp, hid⟩⟩

end Catalog

/-- One catalog item without a credit plan, in a publication that is not a preorder, and
nothing else. -/
def Database.ofItem (item : CatalogItemORM) (h_plan : item.creditPlanId = none)
    (h_limit : item.QuantityLimit) : Database where
  catalog :=
    { preorders := .empty
      publications := ⟨[⟨item.publicationId, none⟩], List.nodup_singleton _⟩
      products := ⟨[⟨item.productId, "", []⟩], List.nodup_singleton _⟩
      creditPlans := .empty
      items := ⟨[item], List.nodup_singleton _⟩
      preorder_fk := fun _ h => by rw [List.mem_singleton.mp h]; simp
      publication_fk := fun _ h => by rw [List.mem_singleton.mp h]; exact List.mem_singleton.mpr rfl
      product_fk := fun _ h => by rw [List.mem_singleton.mp h]; exact List.mem_singleton.mpr rfl
      credit_plan_fk := fun _ h => by rw [List.mem_singleton.mp h, h_plan]; simp
      quantity_limit := fun _ h => by rw [List.mem_singleton.mp h]; exact h_limit }
  carts := ⟨.empty, by simp [Table.empty], by simp [Table.empty]⟩
  favorites := .empty
  orders := .empty
  orderItems := .empty
  deliveries := .empty
  invoices := .empty
  payments := .empty

end Storefront
