import Storefront.Database.Models
import Storefront.Errors
import Storefront.Library.UnitOfWork

/-!
# The listed catalog

The catalog tables of `database/models.py` with the columns that publications are created from
and shown with. The rows extend those of `Database/Models.lean`, which checkout and orders go
by: `Listing.catalog` is the catalog that they see.

A `Listing` satisfies the constraints of its tables, and the only write is the insertion of a
publication with its items, which keeps them (`Listing.insert`).
-/

namespace Storefront

/-! ### Rows -/

/-- `database/constants.py` -/
inductive PublicationType
  | stock | preorder
  deriving DecidableEq, Repr

def PublicationType.value : PublicationType → String
  | .stock => "STOCK"
  | .preorder => "PREORDER"

inductive DeliveryCostType
  | full | foreign | not
  deriving DecidableEq, Repr

def DeliveryCostType.value : DeliveryCostType → String
  | .full => "FULL"
  | .foreign => "FOREIGN"
  | .not => "NOT"

/-- `DeliveryCostType(s)` -/
def DeliveryCostType.ofValue? : String → Option DeliveryCostType
  | "FULL" => some .full
  | "FOREIGN" => some .foreign
  | "NOT" => some .not
  | _ => none

theorem DeliveryCostType.ofValue?_value (t : DeliveryCostType) :
    DeliveryCostType.ofValue? t.value = some t := by
  cases t <;> rfl

structure ProductCategoryORM where
  id : UUID
  createdAt : Int
  updatedAt : Option Int
  link : String
  title : String
  deriving DecidableEq, Repr

structure FilterGroupORM where
  id : UUID
  title : String
  deriving DecidableEq, Repr

structure FilterORM where
  id : UUID
  value : String
  group : FilterGroupORM
  deriving DecidableEq, Repr

/-- The JSON of the column `physical_properties`. -/
structure PhysicalPropertiesDTO where
  length : Option ℚ := none
  height : Option ℚ := none
  width : Option ℚ := none
  weight : Option ℚ := none
  deriving DecidableEq

/-- A product with its category and its filters. -/
structure ProductRow extends ProductORM where
  createdAt : Int
  updatedAt : Option Int
  description : Option String
  physicalProperties : Option PhysicalPropertiesDTO
  category : ProductCategoryORM
  filters : List FilterORM
  deriving DecidableEq

structure PreorderRow extends PreorderORM where
  updatedAt : Option Int
  title : String
  deriving DecidableEq, Repr

structure PublicationRow extends PublicationORM where
  createdAt : Int
  updatedAt : Option Int
  type : String
  link : String
  deliveryCostIncluded : Option String
  deriving DecidableEq, Repr

structure CatalogItemRow extends CatalogItemORM where
  createdAt : Int
  updatedAt : Option Int
  index : Option Nat
  deriving DecidableEq, Repr

/-! ### Tables -/

/-- The catalog tables, with their constraints. -/
structure Listing where
  preorders : Table fun row : PreorderRow => row.id
  publications : Table fun row : PublicationRow => row.id
  products : Table fun row : ProductRow => row.id
  creditPlans : Table CreditPlanORM.id
  items : Table fun row : CatalogItemRow => row.id
  unique_link : (publications.rows.map (·.link)).Nodup
  preorder_fk : ∀ publication ∈ publications.rows, ∀ preorder ∈ publication.preorderId,
    preorder ∈ preorders.keys
  publication_fk : ∀ item ∈ items.rows, item.publicationId ∈ publications.keys
  product_fk : ∀ item ∈ items.rows, item.productId ∈ products.keys
  credit_plan_fk : ∀ item ∈ items.rows, ∀ plan ∈ item.creditPlanId, plan ∈ creditPlans.keys
  quantity_limit : ∀ item ∈ items.rows, item.QuantityLimit

namespace Listing

/-- The catalog as checkout and orders see it. -/
def catalog (l : Listing) : Catalog where
  preorders := ⟨l.preorders.rows.map (·.toPreorderORM), by
    rw [List.map_map]
    exact l.preorders.nodup⟩
  publications := ⟨l.publications.rows.map (·.toPublicationORM), by
    rw [List.map_map]
    exact l.publications.nodup⟩
  products := ⟨l.products.rows.map (·.toProductORM), by
    rw [List.map_map]
    exact l.products.nodup⟩
  creditPlans := l.creditPlans
  items := ⟨l.items.rows.map (·.toCatalogItemORM), by
    rw [List.map_map]
    exact l.items.nodup⟩
  preorder_fk := by
    refine List.forall_mem_map.mpr ?_
    intro publication hmem preorder hpreorder
    show preorder ∈ (l.preorders.rows.map _).map _
    rw [List.map_map]
    exact l.preorder_fk publication hmem preorder hpreorder
  publication_fk := by
    refine List.forall_mem_map.mpr ?_
    intro item hmem
    show item.publicationId ∈ (l.publications.rows.map _).map _
    rw [List.map_map]
    exact l.publication_fk item hmem
  product_fk := by
    refine List.forall_mem_map.mpr ?_
    intro item hmem
    show item.productId ∈ (l.products.rows.map _).map _
    rw [List.map_map]
    exact l.product_fk item hmem
  credit_plan_fk := List.forall_mem_map.mpr l.credit_plan_fk
  quantity_limit := List.forall_mem_map.mpr l.quantity_limit

/-! ### The insertion of a publication -/

/-- A publication and its items, which violate no constraint. -/
structure Insertable (l : Listing) (publication : PublicationRow) (items : List CatalogItemRow) :
    Prop where
  id_new : publication.id ∉ l.publications.keys
  link_new : publication.link ∉ l.publications.rows.map (·.link)
  preorder_found : ∀ preorder ∈ publication.preorderId, preorder ∈ l.preorders.keys
  ids_distinct : (items.map (·.id)).Nodup
  ids_new : ∀ item ∈ items, item.id ∉ l.items.keys
  publication_id : ∀ item ∈ items, item.publicationId = publication.id
  product_found : ∀ item ∈ items, item.productId ∈ l.products.keys
  plan_found : ∀ item ∈ items, ∀ plan ∈ item.creditPlanId, plan ∈ l.creditPlans.keys
  limit : ∀ item ∈ items, item.QuantityLimit

instance (l : Listing) (publication : PublicationRow) (items : List CatalogItemRow) :
    Decidable (l.Insertable publication items) :=
  decidable_of_iff
    (publication.id ∉ l.publications.keys ∧ publication.link ∉ l.publications.rows.map (·.link) ∧
      (∀ preorder ∈ publication.preorderId, preorder ∈ l.preorders.keys) ∧
      (items.map (·.id)).Nodup ∧ (∀ item ∈ items, item.id ∉ l.items.keys) ∧
      (∀ item ∈ items, item.publicationId = publication.id) ∧
      (∀ item ∈ items, item.productId ∈ l.products.keys) ∧
      (∀ item ∈ items, ∀ plan ∈ item.creditPlanId, plan ∈ l.creditPlans.keys) ∧
      ∀ item ∈ items, item.QuantityLimit)
    ⟨fun ⟨h₁, h₂, h₃, h₄, h₅, h₆, h₇, h₈, h₉⟩ => ⟨h₁, h₂, h₃, h₄, h₅, h₆, h₇, h₈, h₉⟩,
      fun h => ⟨h.id_new, h.link_new, h.preorder_found, h.ids_distinct, h.ids_new,
        h.publication_id, h.product_found, h.plan_found, h.limit⟩⟩

/-- The tables with one more publication and its items. -/
def insert (l : Listing) (publication : PublicationRow) (items : List CatalogItemRow)
    (h : l.Insertable publication items) : Listing where
  preorders := l.preorders
  publications := ⟨l.publications.rows ++ [publication], by
    rw [List.map_append]
    refine l.publications.nodup.append (List.nodup_singleton _) ?_
    intro id hid hnew
    rw [List.mem_singleton.mp hnew] at hid
    exact h.id_new hid⟩
  products := l.products
  creditPlans := l.creditPlans
  items := ⟨l.items.rows ++ items, by
    rw [List.map_append]
    refine l.items.nodup.append h.ids_distinct ?_
    intro id hid hnew
    obtain ⟨item, hitem, rfl⟩ := List.mem_map.mp hnew
    exact h.ids_new item hitem hid⟩
  unique_link := by
    rw [List.map_append]
    refine l.unique_link.append (List.nodup_singleton _) ?_
    intro link hlink hnew
    rw [List.mem_singleton.mp hnew] at hlink
    exact h.link_new hlink
  preorder_fk := List.forall_mem_append.mpr ⟨l.preorder_fk, by
    rw [List.forall_mem_singleton]
    exact h.preorder_found⟩
  publication_fk := by
    refine List.forall_mem_append.mpr ⟨fun item hitem => ?_, fun item hitem => ?_⟩
    · show _ ∈ (l.publications.rows ++ [publication]).map _
      rw [List.map_append]
      exact List.mem_append_left _ (l.publication_fk item hitem)
    · show _ ∈ (l.publications.rows ++ [publication]).map _
      rw [List.map_append, h.publication_id item hitem]
      exact List.mem_append_right _ List.mem_cons_self
  product_fk := List.forall_mem_append.mpr ⟨l.product_fk, h.product_found⟩
  credit_plan_fk := List.forall_mem_append.mpr ⟨l.credit_plan_fk, h.plan_found⟩
  quantity_limit := List.forall_mem_append.mpr ⟨l.quantity_limit, h.limit⟩

/-- The violation that is reported. -/
def violation (l : Listing) (publication : PublicationRow) (items : List CatalogItemRow) : PyExc :=
  if publication.id ∈ l.publications.keys ∨ publication.link ∈ l.publications.rows.map (·.link) ∨
      ¬ (items.map (·.id)).Nodup ∨ ∃ item ∈ items, item.id ∈ l.items.keys then
    .integrityError PyExc.uniqueViolation
  else if ∀ item ∈ items, item.QuantityLimit then .integrityError PyExc.foreignKeyViolation
  else .integrityError PyExc.checkViolation

/-- Checkout and orders see the items of a publication with it. -/
theorem catalog_insert {l : Listing} {publication : PublicationRow} {items : List CatalogItemRow}
    (h : l.Insertable publication items) :
    (l.insert publication items h).catalog.items.rows =
        l.catalog.items.rows ++ items.map (·.toCatalogItemORM) ∧
      (l.insert publication items h).catalog.publications.rows =
        l.catalog.publications.rows ++ [publication.toPublicationORM] :=
  ⟨List.map_append, List.map_append⟩

end Listing

/-! ### Writes -/

/-- What is given for `delivery_cost_included`: the request has a `bool`, and the service is
declared with a `DeliveryCostType`. -/
inductive DeliveryCostArg
  | bool (b : Bool)
  | type (t : DeliveryCostType)
  deriving DecidableEq, Repr

/-- What the driver makes of it as a text: it takes a `str` only, which a `StrEnum` is. -/
def DeliveryCostArg.text : DeliveryCostArg → Except PyExc String
  | .bool _ => .error .dataError
  | .type t => .ok t.value

/-- A `PublicationORM(…)` with its items, before it is flushed. -/
structure PublicationObject where
  id : UUID
  now : Int
  type : String
  link : String
  deliveryCostIncluded : Option DeliveryCostArg
  items : List CatalogItemRow

/-- The row of a publication. -/
def PublicationObject.row (object : PublicationObject) : Except PyExc PublicationRow := do
  let deliveryCostIncluded ← object.deliveryCostIncluded.elim (.ok none) fun arg =>
    arg.text.map some
  return {
    id := object.id
    preorderId := none
    createdAt := object.now
    updatedAt := some object.now
    type := object.type
    link := object.link
    deliveryCostIncluded }

/-- The database of the application, with the publications that are added to it. -/
def listingBackend : Backend Listing PublicationObject PyExc where
  apply object l := do
    let row ← object.row
    if h : l.Insertable row object.items then return l.insert row object.items h
    else throw (l.violation row object.items)
  pendingRollback := .pendingRollbackError

/-- **Inversion of an insertion.** -/
theorem apply_listingBackend_eq_ok {object : PublicationObject} {l l' : Listing} :
    listingBackend.apply object l = .ok l' ↔
      ∃ row, object.row = .ok row ∧ ∃ h : l.Insertable row object.items,
        l' = l.insert row object.items h := by
  show (object.row >>= _) = _ ↔ _
  rw [except_bind_eq_ok]
  refine exists_congr fun row => and_congr_right fun _ => ?_
  by_cases hins : l.Insertable row object.items
  · rw [dif_pos hins]
    exact ⟨fun h => ⟨hins, (Except.ok.inj h).symm⟩, fun ⟨_, h⟩ => congrArg Except.ok h.symm⟩
  · rw [dif_neg hins]
    exact iff_of_false nofun fun ⟨h, _⟩ => hins h

end Storefront
