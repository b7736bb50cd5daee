import Storefront.Database.Writes

/-!
# The catalog repository

The part of `database/repositories/catalog.py` that checkout and orders use: the ids of the
available items, the checkout data of given items, and the reservation of quantities.

* `run_getCatalogItemsCheckoutData` — the checkout data of given items, which is returned for
  pairwise distinct ids only (`getCatalogItemsCheckoutData_eq_ok`), and nothing is written;
* `run_increaseCatalogItemsOrderedQuantity` — a reservation sends `reservationWrites` to the
  database, a violated CHECK turned into `CatalogItemOutOfStockError`;
* `applyAll_reservationWrites` — these writes succeed exactly when `quantity_limit` holds of
  every selected row afterwards.
-/

namespace Storefront

variable {σ : Type}

/-! ### Checkout data of catalog items -/

structure CreditPart where
  sum : Int
  deadline : String
  deriving DecidableEq, Repr

structure CatalogItemCheckoutDataDTO where
  id : UUID
  total : Option Int
  ordered : Int
  price : Int
  preorderId : Option UUID
  title : String
  creditParts : Option (List CreditPart)
  deriving DecidableEq, Repr

/-- `(self.total - self.ordered) if self.total else None`; zero is false in Python. -/
def CatalogItemCheckoutDataDTO.available (data : CatalogItemCheckoutDataDTO) : Option Int :=
  match data.total with
  | some total => if total ≠ 0 then some (total - data.ordered) else none
  | none => none

theorem available_eq_some {data : CatalogItemCheckoutDataDTO} {a : Int} :
    data.available = some a ↔ ∃ t, data.total = some t ∧ t ≠ 0 ∧ a = t - data.ordered := by
  unfold CatalogItemCheckoutDataDTO.available
  cases data.total with
  | none => simp
  | some t =>
    by_cases ht : t = 0
    · simp [ht]
    · simp [ht, eq_comm]

/-- What pydantic makes of the deadline of a credit part: the text of the column in a field
of type `pendulum.Date`, and that date in a field of type `str`. -/
structure Pydantic where
  date : String → Except PyExc String
  str : String → Except PyExc String

/-- A text is not an instance of `Date`, and a `Date` is not a `str`. -/
def Pydantic.strict : Pydantic where
  date := fun _ => .error .validationError
  str := fun _ => .error .validationError

/-- A catalog item with the relations loaded with it (`lazy='selectin'`). -/
structure LoadedCatalogItem where
  row : CatalogItemORM
  publicationInfo : Option PublicationORM
  product : Option ProductORM
  creditPlan : Option CreditPlanORM

/-- Load the relations of a catalog item. -/
def Catalog.load (catalog : Catalog) (item : CatalogItemORM) : LoadedCatalogItem where
  row := item
  publicationInfo := catalog.publicationInfo item
  product := catalog.product item
  creditPlan := catalog.creditPlan item

/-- An attribute of an object that may be `None`. -/
def attributeOf {α : Type} : Option α → Except PyExc α
  | some a => .ok a
  | none => .error .attributeError

/-- A field of a model that must be given, and must not be `None`. -/
def required {α : Type} : Option α → Except PyExc α
  | some a => .ok a
  | none => .error .validationError

theorem attributeOf_eq_ok {α : Type} {o : Option α} {a : α} :
    attributeOf o = .ok a ↔ o = some a := by
  cases o with
  | none => simp [attributeOf]
  | some b => simp [attributeOf]

theorem required_eq_ok {α : Type} {o : Option α} {a : α} : required o = .ok a ↔ o = some a := by
  cases o with
  | none => simp [required]
  | some b => simp [required]

/-- `CreditPart(sum=int(part.sum), deadline=str(part.deadline))` -/
def creditPart (P : Pydantic) (part : CreditPartORM) : Except PyExc CreditPart := do
  let deadline ← P.date part.deadline
  return { sum := part.sum, deadline }

/-- `[CreditPart(…) for part in item.credit_plan.parts] if item.credit_plan else None` -/
def creditParts (P : Pydantic) : Option CreditPlanORM → Except PyExc (Option (List CreditPart))
  | some plan => do
    let parts ← plan.parts.mapM (creditPart P)
    return some parts
  | none => .ok none

/-- `CatalogItemCheckoutDataDTO(…)` of a selected item. -/
def catalogItemCheckoutData (P : Pydantic) (item : LoadedCatalogItem) :
    Except PyExc CatalogItemCheckoutDataDTO := do
  let publicationInfo ← attributeOf item.publicationInfo
  let product ← attributeOf item.product
  let creditParts ← creditParts P item.creditPlan
  return {
    id := item.row.id
    total := item.row.quantity
    ordered := item.row.orderedQuantity
    price := item.row.price
    preorderId := publicationInfo.preorderId
    title := product.title
    creditParts }

/-- `select(CatalogItemORM).where(CatalogItemORM.is_active, CatalogItemORM.id.in_(item_ids))` -/
def selectActiveItems (itemIds : List UUID) (db : Database) : List CatalogItemORM :=
  db.catalog.items.rows.filter fun item => item.isActive && item.id ∈ itemIds

/-- `CatalogRepository.get_catalog_items_checkout_data` -/
def getCatalogItemsCheckoutData (P : Pydantic) (itemIds : List UUID) :
    App σ (Dict UUID CatalogItemCheckoutDataDTO) := do
  let resultItems ← Session.query postgres fun db =>
    (selectActiveItems itemIds db).map db.catalog.load
  raiseIf (resultItems.length ≠ itemIds.length) .catalogItemNotFoundError
  let data ← liftExcept (resultItems.mapM (catalogItemCheckoutData P))
  return Dict.ofList (data.map fun d => (d.id, d))

/-- The preorder of an item's publication. -/
def Catalog.preorderId (catalog : Catalog) (item : CatalogItemORM) : Option UUID :=
  (catalog.publicationInfo item).bind (·.preorderId)

/-- The checkout data of a stored item with the given credit parts. -/
def Catalog.checkoutDataOf (catalog : Catalog) (item : CatalogItemORM)
    (creditParts : Option (List CreditPart)) : CatalogItemCheckoutDataDTO where
  id := item.id
  total := item.quantity
  ordered := item.orderedQuantity
  price := item.price
  preorderId := catalog.preorderId item
  title := ((catalog.product item).map (·.title)).getD ""
  creditParts := creditParts

/-- The relations of a stored item are there, so its checkout data is as good as its credit
parts. -/
theorem catalogItemCheckoutData_load (P : Pydantic) {catalog : Catalog} {item : CatalogItemORM}
    (h : item ∈ catalog.items.rows) :
    catalogItemCheckoutData P (catalog.load item) =
      (creditParts P (catalog.creditPlan item)).map (catalog.checkoutDataOf item) := by
  obtain ⟨publication, hpub⟩ := Catalog.exists_publicationInfo h
  obtain ⟨product, hprod⟩ := Catalog.exists_product h
  unfold catalogItemCheckoutData Catalog.load Catalog.checkoutDataOf Catalog.preorderId
  simp only [hpub, hprod]
  cases creditParts P (catalog.creditPlan item) <;> rfl

theorem catalogItemCheckoutData_eq_ok {P : Pydantic} {catalog : Catalog} {item : CatalogItemORM}
    (h : item ∈ catalog.items.rows) {d : CatalogItemCheckoutDataDTO} :
    catalogItemCheckoutData P (catalog.load item) = .ok d ↔
      ∃ parts, creditParts P (catalog.creditPlan item) = .ok parts ∧
        catalog.checkoutDataOf item parts = d := by
  rw [catalogItemCheckoutData_load P h]
  cases creditParts P (catalog.creditPlan item) with
  | error e => simp [Except.map]
  | ok parts => simp [Except.map]

/-- One active item is selected by its id alone. -/
theorem selectActiveItems_single {db : Database} {item : CatalogItemORM}
    (h : item ∈ db.catalog.items.rows) (h_active : item.isActive = true) :
    selectActiveItems [item.id] db = [item] := by
  refine Table.filter_key_eq h ?_
  intro r hr
  rw [Bool.and_eq_true, decide_eq_true_iff, List.mem_singleton]
  refine and_iff_right_of_imp ?_
  intro hid
  rw [Table.eq_of_mem hr h hid]
  exact h_active

section CheckoutData

variable {P : Pydantic} {itemIds : List UUID} {c c' : Ctx Database Write σ}

/-- As many active rows as ids are selected exactly when the ids are pairwise distinct and
each is the id of an active row. -/
theorem length_selectActiveItems_iff {db : Database} :
    (selectActiveItems itemIds db).length = itemIds.length ↔
      itemIds.Nodup ∧ ∀ id ∈ itemIds, ∃ item ∈ db.catalog.items.rows,
        item.id = id ∧ item.isActive = true := by
  have hnodup : ((selectActiveItems itemIds db).map CatalogItemORM.id).Nodup :=
    (db.catalog.items.filter fun item => item.isActive && item.id ∈ itemIds).nodup
  have hmem : ∀ {item}, item ∈ selectActiveItems itemIds db ↔
      item ∈ db.catalog.items.rows ∧ item.isActive = true ∧ item.id ∈ itemIds := by
    intro item
    unfold selectActiveItems
    rw [List.mem_filter, Bool.and_eq_true, decide_eq_true_iff]
  have hsub : (selectActiveItems itemIds db).map CatalogItemORM.id ⊆ itemIds := by
    intro id hid
    obtain ⟨item, hitem, rfl⟩ := List.mem_map.mp hid
    exact (hmem.mp hitem).2.2
  refine ⟨?_, ?_⟩
  · intro h
    -- a subset of the ids that is as large as they are
    have hperm := (List.subperm_of_subset hnodup hsub).perm_of_length_le
      (by rw [List.length_map, h])
    refine ⟨hperm.nodup_iff.mp hnodup, fun id hid => ?_⟩
    obtain ⟨item, hitem, rfl⟩ := List.mem_map.mp (hperm.mem_iff.mpr hid)
    exact ⟨item, (hmem.mp hitem).1, rfl, (hmem.mp hitem).2.1⟩
  · rintro ⟨hids, hall⟩
    -- each id selects a row, and each row one id
    have hsub' : itemIds ⊆ (selectActiveItems itemIds db).map CatalogItemORM.id := by
      intro id hid
      obtain ⟨item, hitem, rfl, hactive⟩ := hall id hid
      exact List.mem_map_of_mem (hmem.mpr ⟨hitem, hactive, hid⟩)
    have hperm := (List.perm_ext_iff_of_nodup hnodup hids).mpr
      fun id => ⟨fun h => hsub h, fun h => hsub' h⟩
    rw [← hperm.length_eq, List.length_map]

/-- **What the checkout data is**, in a context with nothing to flush. -/
theorem run_getCatalogItemsCheckoutData (hc : c.Clean) :
    (getCatalogItemsCheckoutData P itemIds).run c =
      if (selectActiveItems itemIds c.session.view).length ≠ itemIds.length then
        .error .catalogItemNotFoundError c
      else match ((selectActiveItems itemIds c.session.view).map c.session.view.catalog.load).mapM
          (catalogItemCheckoutData P) with
        | .ok dtos => .ok (Dict.ofList (dtos.map fun d => (d.id, d))) c
        | .error e => .error e c := by
  unfold getCatalogItemsCheckoutData
  rw [run_bind_ok (Session.run_query_clean postgres c hc _)]
  by_cases hlen : (selectActiveItems itemIds c.session.view).length ≠ itemIds.length
  · rw [if_pos hlen]
    exact run_bind_error (run_raiseIf_of_pos (by rwa [List.length_map]) _ _)
  · rw [if_neg hlen, run_bind_ok (run_raiseIf_of_not (by rwa [List.length_map]) _ _)]
    rw [EStateM.run_bind, run_liftExcept]
    cases ((selectActiveItems itemIds c.session.view).map c.session.view.catalog.load).mapM
      (catalogItemCheckoutData P) <;> rfl

theorem endState_getCatalogItemsCheckoutData (hc : c.Clean) :
    endState ((getCatalogItemsCheckoutData P itemIds).run c) = c := by
  rw [run_getCatalogItemsCheckoutData hc]
  split
  · rfl
  · split <;> rfl

/-- **Inversion of the checkout data.** -/
theorem getCatalogItemsCheckoutData_eq_ok (hc : c.Clean)
    {data : Dict UUID CatalogItemCheckoutDataDTO}
    (h : (getCatalogItemsCheckoutData P itemIds).run c = .ok data c') :
    c' = c ∧ itemIds.Nodup := by
  rw [run_getCatalogItemsCheckoutData hc] at h
  split at h
  · cases h
  · next hlen =>
    refine ⟨?_, (length_selectActiveItems_iff.mp (not_not.mp hlen)).1⟩
    split at h
    · cases h
      rfl
    · cases h

/-- **When there is checkout data**: for pairwise distinct ids of active items whose credit
plans pass. -/
theorem exists_getCatalogItemsCheckoutData (hc : c.Clean) (h_ids : itemIds.Nodup)
    (h_active : ∀ id ∈ itemIds, ∃ item ∈ c.session.view.catalog.items.rows,
      item.id = id ∧ item.isActive = true)
    (h_parts : ∀ item ∈ selectActiveItems itemIds c.session.view,
      ∃ parts, creditParts P (c.session.view.catalog.creditPlan item) = .ok parts) :
    ∃ data, (getCatalogItemsCheckoutData P itemIds).run c = .ok data c := by
  have hlen := length_selectActiveItems_iff.mpr ⟨h_ids, h_active⟩
  have hdtos : ∃ dtos, ((selectActiveItems itemIds c.session.view).map
      c.session.view.catalog.load).mapM (catalogItemCheckoutData P) = .ok dtos := by
    refine exists_mapM_eq_ok.mpr (List.forall_mem_map.mpr fun item hitem => ?_)
    obtain ⟨parts, hparts⟩ := h_parts item hitem
    exact ⟨_, (catalogItemCheckoutData_eq_ok (List.mem_of_mem_filter hitem)).mpr
      ⟨parts, hparts, rfl⟩⟩
  obtain ⟨dtos, hdtos⟩ := hdtos
  rw [run_getCatalogItemsCheckoutData hc, if_neg (not_not.mpr hlen), hdtos]
  exact ⟨_, rfl⟩

/-- **What checkout data says**: under each id it has the data of the active item with that
id, and there is nothing else in it. -/
theorem getCatalogItemsCheckoutData_get? (hc : c.Clean)
    {data : Dict UUID CatalogItemCheckoutDataDTO}
    (h : (getCatalogItemsCheckoutData P itemIds).run c = .ok data c') :
    (∀ id ∈ itemIds, ∃ item ∈ c.session.view.catalog.items.rows, item.id = id ∧
        item.isActive = true ∧ ∃ parts,
          creditParts P (c.session.view.catalog.creditPlan item) = .ok parts ∧
          data.get? id = some (c.session.view.catalog.checkoutDataOf item parts)) ∧
      ∀ d ∈ data.values, ∃ id ∈ itemIds, data.get? id = some d := by
  rw [run_getCatalogItemsCheckoutData hc] at h
  split at h
  case isTrue => cases h
  case isFalse hlen =>
  split at h
  case h_2 => cases h
  case h_1 dtos hdtos =>
  cases h
  -- the dictionary has the ids of the selected rows as keys
  have hids : dtos.map (·.id) = (selectActiveItems itemIds c.session.view).map (·.id) := by
    calc dtos.map (·.id)
        = ((selectActiveItems itemIds c.session.view).map c.session.view.catalog.load).map
            (·.row.id) := by
          refine map_of_mapM_ok (fun item d hd => ?_) hdtos
          unfold catalogItemCheckoutData at hd
          simp only [except_bind_eq_ok, pure, Except.pure, Except.ok.injEq] at hd
          obtain ⟨-, -, -, -, -, -, rfl⟩ := hd
          rfl
      _ = (selectActiveItems itemIds c.session.view).map (·.id) := List.map_map
  have hnodup : ((dtos.map fun d => (d.id, d)).map Prod.fst).Nodup := by
    rw [List.map_map]
    exact hids ▸ (c.session.view.catalog.items.filter
      fun item => item.isActive && item.id ∈ itemIds).nodup
  have hget : ∀ d ∈ dtos, (Dict.ofList (dtos.map fun d => (d.id, d))).get? d.id = some d :=
    fun d hd => (Dict.get?_ofList hnodup).mpr (List.mem_map_of_mem hd)
  refine ⟨?_, ?_⟩
  · -- every id has selected a row, and the row has an entry
    intro id hid
    obtain ⟨item, hitem, rfl, hactive⟩ :=
      (length_selectActiveItems_iff.mp (not_not.mp hlen)).2 id hid
    have hsel : item ∈ selectActiveItems itemIds c.session.view :=
      List.mem_filter.mpr ⟨hitem, by simp [hactive, hid]⟩
    obtain ⟨d, hd, hdata⟩ := exists_of_mapM_ok hdtos (List.mem_map_of_mem hsel)
    obtain ⟨parts, hparts, rfl⟩ := (catalogItemCheckoutData_eq_ok hitem).mp hdata
    exact ⟨item, hitem, rfl, hactive, parts, hparts, hget _ hd⟩
  · -- every entry is of a selected row, and its id was asked for
    intro d hd
    rw [Dict.values_ofList hnodup, List.map_map] at hd
    obtain ⟨d₁, hd₁, heq⟩ := List.mem_map.mp hd
    obtain rfl : d₁ = d := heq
    refine ⟨d₁.id, ?_, hget d₁ hd₁⟩
    have hkey : d₁.id ∈ dtos.map (·.id) := List.mem_map_of_mem hd₁
    rw [hids] at hkey
    obtain ⟨item, hitem, hid⟩ := List.mem_map.mp hkey
    have hcond := (List.mem_filter.mp hitem).2
    rw [Bool.and_eq_true, decide_eq_true_iff] at hcond
    exact hid ▸ hcond.2

/-- The checkout data of one active item. -/
theorem run_getCatalogItemsCheckoutData_single {item : CatalogItemORM} (hc : c.Clean)
    (h : item ∈ c.session.view.catalog.items.rows) (h_active : item.isActive = true) :
    (getCatalogItemsCheckoutData P [item.id]).run c =
      match catalogItemCheckoutData P (c.session.view.catalog.load item) with
      | .ok d => .ok (Dict.ofList [(d.id, d)]) c
      | .error e => .error e c := by
  rw [run_getCatalogItemsCheckoutData hc]
  simp only [selectActiveItems_single h h_active, List.map_singleton, List.mapM_cons,
    List.mapM_nil]
  rw [if_neg (by simp)]
  cases catalogItemCheckoutData P (c.session.view.catalog.load item) <;> rfl

end CheckoutData

/-! ### The available items -/

/-- `a > b` in a `where` clause: a comparison with NULL selects no row. -/
def sqlGreater : Option Int → Int → Bool
  | some a, b => b < a
  | none, _ => false

/-- Python's `not` of a mapped column, which is not a condition on the row. -/
def notColumn : Bool := false

/-- `CatalogRepository.get_available_catalog_item_ids` -/
def getAvailableCatalogItemIds : App σ (List UUID) :=
  Session.query postgres fun db =>
    (db.catalog.items.rows.filter fun item =>
      item.isActive && (sqlGreater item.quantity item.orderedQuantity || notColumn)).map (·.id)

/-! ### Reservation -/

/-- `select(CatalogItemORM).where(CatalogItemORM.id.in_(items_to_update.keys()))`, which the
reservation takes with the rows locked. -/
def selectForUpdate (itemsToUpdate : Dict UUID Int) (db : Database) : List CatalogItemORM :=
  db.catalog.items.rows.filter fun item => item.id ∈ itemsToUpdate.keys

/-- `except IntegrityError as ex` of the reservation's flush. -/
def outOfStock (ex : PyExc) : PyExc :=
  if ex.cls = .sub { name := "IntegrityError" } .exception ∧
      ex.pgcode = some PyExc.checkViolation then .catalogItemOutOfStockError
  else ex

/-- `item.ordered_quantity = item.ordered_quantity + items_to_update[item.id]` -/
def increaseOrderedQuantity (itemsToUpdate : Dict UUID Int) (item : CatalogItemORM) :
    App σ Unit :=
  match itemsToUpdate.get? item.id with
  | some n => Session.add (.setOrderedQuantity item.id (item.orderedQuantity + n))
  | none => throw .keyError

/-- `CatalogRepository.increase_catalog_items_ordered_quantity` -/
def increaseCatalogItemsOrderedQuantity (itemsToUpdate : Dict UUID Int) : App σ Unit := do
  let catalogItems ← Session.query postgres (selectForUpdate itemsToUpdate)
  forM catalogItems (increaseOrderedQuantity itemsToUpdate)
  tryCatch (Session.flush postgres) fun ex => throw (outOfStock ex)

/-- What a reservation writes for the selected rows. -/
def reservationWrites (itemsToUpdate : Dict UUID Int) (rows : List CatalogItemORM) : List Write :=
  rows.map fun item =>
    .setOrderedQuantity item.id (item.orderedQuantity + (itemsToUpdate.get? item.id).getD 0)

section Reservation

variable (itemsToUpdate : Dict UUID Int)

theorem mem_selectForUpdate {db : Database} {item : CatalogItemORM} :
    item ∈ selectForUpdate itemsToUpdate db ↔
      item ∈ db.catalog.items.rows ∧ item.id ∈ itemsToUpdate.keys := by
  unfold selectForUpdate
  rw [List.mem_filter, decide_eq_true_iff]

/-- The loop over the selected rows adds the writes of the reservation. -/
theorem run_forM_increaseOrderedQuantity {rows : List CatalogItemORM}
    (h : ∀ item ∈ rows, item.id ∈ itemsToUpdate.keys) (c : Ctx Database Write σ) :
    (forM rows (increaseOrderedQuantity itemsToUpdate) : App σ Unit).run c =
      (forM (reservationWrites itemsToUpdate rows) Session.add : App σ Unit).run c := by
  induction rows generalizing c with
  | nil => rfl
  | cons item rows ih =>
    obtain ⟨p, hp, hid⟩ := Table.mem_keys.mp (h item List.mem_cons_self)
    -- a selected row has an entry in the dictionary, so nothing raises
    have hget : itemsToUpdate.get? item.id = some p.2 := by
      unfold Dict.get?
      rw [Table.find?_eq_some.mpr ⟨hp, hid⟩]
      rfl
    have hadd : (increaseOrderedQuantity itemsToUpdate item : App σ Unit) =
        Session.add (.setOrderedQuantity item.id
          (item.orderedQuantity + (itemsToUpdate.get? item.id).getD 0)) := by
      unfold increaseOrderedQuantity
      rw [hget]
      rfl
    change (forM (item :: rows) _ : App σ Unit).run c =
      (forM (Write.setOrderedQuantity item.id _ :: reservationWrites itemsToUpdate rows)
        Session.add : App σ Unit).run c
    rw [List.forM_cons, List.forM_cons, hadd, run_bind_ok (Session.run_add c _),
      run_bind_ok (Session.run_add c _)]
    exact ih (fun item' h' => h item' (List.mem_cons_of_mem _ h')) _

/-- **What a reservation does**: it flushes what was written before it, then the new ordered
quantities of the selected rows. -/
theorem run_increaseCatalogItemsOrderedQuantity {c : Ctx Database Write σ} (hc : c.Clean) :
    let ws := reservationWrites itemsToUpdate (selectForUpdate itemsToUpdate c.session.view)
    (increaseCatalogItemsOrderedQuantity itemsToUpdate).run c =
      match postgres.applyAll ws c.session.view with
      | .ok db => .ok () { c with session := ⟨db, [], false⟩ }
      | .error ex => .error (outOfStock ex) { c with session := ⟨c.session.view, ws, true⟩ } := by
  obtain ⟨com, ⟨view, pending, broken⟩, env⟩ := c
  obtain ⟨rfl, rfl⟩ : pending = [] ∧ broken = false := hc
  intro ws
  have hkeys : ∀ item ∈ selectForUpdate itemsToUpdate view, item.id ∈ itemsToUpdate.keys :=
    fun item h => ((mem_selectForUpdate itemsToUpdate).mp h).2
  unfold increaseCatalogItemsOrderedQuantity
  rw [run_bind_ok (Session.run_query_clean postgres _ ⟨rfl, rfl⟩ _)]
  rw [run_bind_ok ((run_forM_increaseOrderedQuantity itemsToUpdate hkeys _).trans
    (Session.run_addAll _ _))]
  rw [run_tryCatch]
  simp only [List.nil_append]
  -- the flush raises what the writes raise, which the handler translates
  cases happly : postgres.applyAll ws view with
  | ok db => rw [Session.run_flush_ok postgres ⟨com, ⟨view, ws, false⟩, env⟩ rfl happly]
  | error ex =>
    rw [Session.run_flush_error postgres ⟨com, ⟨view, ws, false⟩, env⟩ rfl happly]
    rfl

end Reservation

/-! ### Setting ordered quantities -/

theorem setOrderedQuantity_eq_none {catalog : Catalog} {id : UUID} {n : Int} :
    catalog.setOrderedQuantity id n = none ↔
      ¬ ∀ item ∈ catalog.items.rows, item.id = id → (item.withOrdered n).QuantityLimit := by
  unfold Catalog.setOrderedQuantity
  split
  · next h => simpa using h
  · next h => simpa using h

/-- The limit after a write depends on what is written only. -/
theorem quantityLimit_withOrdered_onItem (item : CatalogItemORM) (w : Write) (n : Int) :
    ((w.onItem item).withOrdered n).QuantityLimit ↔ (item.withOrdered n).QuantityLimit := by
  have hquantity : (w.onItem item).quantity = item.quantity := by
    cases w <;> try rfl
    case setOrderedQuantity id m =>
      show (if item.id = id then item.withOrdered m else item).quantity = item.quantity
      split <;> rfl
  unfold CatalogItemORM.QuantityLimit
  rw [quantity_withOrdered, quantity_withOrdered, orderedQuantity_withOrdered,
    orderedQuantity_withOrdered, hquantity]

/-- What is set for one item does not matter to the limit of what is set for another. -/
theorem limit_modify (items : Table CatalogItemORM.id) (id id' : UUID) (n n' : Int) :
    (∀ item ∈ (items.modify id (·.withOrdered n) (id_withOrdered n)).rows, item.id = id' →
        (item.withOrdered n').QuantityLimit) ↔
      ∀ item ∈ items.rows, item.id = id' → (item.withOrdered n').QuantityLimit := by
  rw [Table.rows_modify, List.forall_mem_map]
  refine forall₂_congr ?_
  intro item _
  split <;> rfl

/-- Ordered quantities of different items are set in any order, with the same outcome. -/
theorem setOrderedQuantity_comm (catalog : Catalog) {id id' : UUID} (hne : id ≠ id') (n n' : Int) :
    (catalog.setOrderedQuantity id n).bind (·.setOrderedQuantity id' n') =
      (catalog.setOrderedQuantity id' n').bind (·.setOrderedQuantity id n) := by
  have hlim := limit_modify catalog.items id id' n n'
  have hlim' := limit_modify catalog.items id' id n' n
  unfold Catalog.setOrderedQuantity
  by_cases h : ∀ item ∈ catalog.items.rows, item.id = id → (item.withOrdered n).QuantityLimit
  · rw [dif_pos h, Option.bind_some]
    by_cases h' : ∀ item ∈ catalog.items.rows, item.id = id' → (item.withOrdered n').QuantityLimit
    · rw [dif_pos h', Option.bind_some, dif_pos (hlim.mpr h'), dif_pos (hlim'.mpr h)]
      congr 2
      exact Table.modify_comm _ hne _ _
    -- a limit violated first is violated second
    · rw [dif_neg h', Option.bind_none, dif_neg (mt hlim.mp h')]
  · rw [dif_neg h, Option.bind_none]
    by_cases h' : ∀ item ∈ catalog.items.rows, item.id = id' → (item.withOrdered n').QuantityLimit
    · rw [dif_pos h', Option.bind_some, dif_neg (mt hlim'.mp h)]
    · rw [dif_neg h', Option.bind_none]

/-- Two quantities are set in the database as in its catalog. -/
theorem apply_setOrderedQuantity_bind (id id' : UUID) (n n' : Int) (db : Database) :
    (postgres.apply (.setOrderedQuantity id n) db).bind
        (postgres.apply (.setOrderedQuantity id' n')) =
      match (db.catalog.setOrderedQuantity id n).bind (·.setOrderedQuantity id' n') with
      | some catalog => .ok { db with catalog }
      | none => .error (.integrityError PyExc.checkViolation) := by
  simp only [postgres, Write.apply]
  cases db.catalog.setOrderedQuantity id n with
  | none => rfl
  | some catalog => rfl

theorem apply_setOrderedQuantity_comm {id id' : UUID} (hne : id ≠ id') (n n' : Int)
    (db : Database) :
    (postgres.apply (.setOrderedQuantity id n) db).bind
        (postgres.apply (.setOrderedQuantity id' n')) =
      (postgres.apply (.setOrderedQuantity id' n') db).bind
        (postgres.apply (.setOrderedQuantity id n)) := by
  have hcatalog := setOrderedQuantity_comm db.catalog hne n n'
  rw [apply_setOrderedQuantity_bind, apply_setOrderedQuantity_bind, hcatalog]
/-- Ordered quantities can be set exactly when the limit holds of every row afterwards, and
the only other outcome is a violated CHECK. -/
theorem applyAll_setOrderedQuantity (ups : List (UUID × Int)) (db : Database) :
    ((∀ p ∈ ups, ∀ item ∈ db.catalog.items.rows, item.id = p.1 →
        (item.withOrdered p.2).QuantityLimit) ∧
      ∃ db', postgres.applyAll (ups.map fun p => .setOrderedQuantity p.1 p.2) db = .ok db') ∨
    (¬ (∀ p ∈ ups, ∀ item ∈ db.catalog.items.rows, item.id = p.1 →
        (item.withOrdered p.2).QuantityLimit) ∧
      postgres.applyAll (ups.map fun p => .setOrderedQuantity p.1 p.2) db =
        .error (.integrityError PyExc.checkViolation)) := by
  induction ups generalizing db with
  | nil => exact .inl ⟨by simp, db, rfl⟩
  | cons p ups ih =>
    rw [List.map_cons, Backend.applyAll_cons]
    cases hset : db.catalog.setOrderedQuantity p.1 p.2 with
    -- the first update violates the limit
    | none =>
      right
      have hnot := setOrderedQuantity_eq_none.mp hset
      refine ⟨fun h => hnot (h p List.mem_cons_self), ?_⟩
      rw [show postgres.apply (.setOrderedQuantity p.1 p.2) db =
        .error (.integrityError PyExc.checkViolation) by
          simp only [postgres, Write.apply, hset]]
      rfl
    | some catalog =>
      obtain ⟨hp, -⟩ := setOrderedQuantity_eq_some hset
      have hw : (Write.setOrderedQuantity p.1 p.2).apply db = .ok { db with catalog } := by
        simp only [Write.apply, hset]
      rw [show postgres.apply (.setOrderedQuantity p.1 p.2) db = _ from hw]
      -- the condition on the remaining updates is the same before and after the first
      have hrest : (∀ p' ∈ ups, ∀ item ∈ catalog.items.rows, item.id = p'.1 →
            (item.withOrdered p'.2).QuantityLimit) ↔
          ∀ p' ∈ ups, ∀ item ∈ db.catalog.items.rows, item.id = p'.1 →
            (item.withOrdered p'.2).QuantityLimit := by
        rw [show catalog.items.rows = _ from (stock_apply hw).1]
        refine forall₂_congr ?_
        intro p' _
        rw [List.forall_mem_map]
        refine forall₂_congr ?_
        intro item _
        rw [id_onItem, quantityLimit_withOrdered_onItem]
      rcases ih { db with catalog } with ⟨hall, db', hdb'⟩ | ⟨hnot, herr⟩
      · left
        refine ⟨List.forall_mem_cons.mpr ⟨hp, hrest.mp hall⟩, db', hdb'⟩
      · right
        refine ⟨fun h => hnot (hrest.mpr (List.forall_mem_cons.mp h).2), herr⟩

/-- **When a reservation goes through**: exactly when `quantity_limit` holds of every
selected row with its increased ordered quantity. -/
theorem applyAll_reservationWrites (itemsToUpdate : Dict UUID Int) (db : Database) :
    ((∀ item ∈ selectForUpdate itemsToUpdate db,
        (item.withOrdered (item.orderedQuantity +
          (itemsToUpdate.get? item.id).getD 0)).QuantityLimit) ∧
      ∃ db', postgres.applyAll (reservationWrites itemsToUpdate
        (selectForUpdate itemsToUpdate db)) db = .ok db') ∨
    (¬ (∀ item ∈ selectForUpdate itemsToUpdate db,
        (item.withOrdered (item.orderedQuantity +
          (itemsToUpdate.get? item.id).getD 0)).QuantityLimit) ∧
      postgres.applyAll (reservationWrites itemsToUpdate (selectForUpdate itemsToUpdate db)) db =
        .error (.integrityError PyExc.checkViolation)) := by
  have hups := applyAll_setOrderedQuantity ((selectForUpdate itemsToUpdate db).map fun item =>
    (item.id, item.orderedQuantity + (itemsToUpdate.get? item.id).getD 0)) db
  rw [List.map_map] at hups
  -- a row is determined by its id, so each update is about the row it was made from
  have hiff : (∀ p ∈ (selectForUpdate itemsToUpdate db).map (fun item =>
        (item.id, item.orderedQuantity + (itemsToUpdate.get? item.id).getD 0)),
        ∀ item ∈ db.catalog.items.rows, item.id = p.1 →
          (item.withOrdered p.2).QuantityLimit) ↔
      ∀ item ∈ selectForUpdate itemsToUpdate db,
        (item.withOrdered (item.orderedQuantity +
          (itemsToUpdate.get? item.id).getD 0)).QuantityLimit := by
    rw [List.forall_mem_map]
    refine ⟨?_, ?_⟩
    · intro h item hitem
      exact h item hitem item ((mem_selectForUpdate itemsToUpdate).mp hitem).1 rfl
    -- the row with the id of a selected row is that row
    · intro h item hitem item' hitem' hid
      have hrow := ((mem_selectForUpdate itemsToUpdate).mp hitem).1
      rw [Table.eq_of_mem hitem' hrow hid]
      exact h item hitem
  rw [hiff] at hups
  exact hups

end Storefront
