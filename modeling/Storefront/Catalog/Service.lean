import Storefront.Catalog.Repository

/-!
# Availability and reservation

`CatalogService.verify_checkout_data` and `CatalogService.reserve_catalog_items`
(`services/catalog/service.py`), and how the three decisions about availability relate.

* `verifyCheckoutData_eq_ok` — the inversion of a check: the requested ids are pairwise
  distinct, the available items are requested lines in the order of the request, and all of
  them when no line had to be adjusted;
* `accepted_iff`, `reserved_iff`, `listed_iff` — what each decision comes to for one item;
* `availability_agrees_iff` — the three agree on an active item exactly when its stock is a
  number other than zero, or zero with enough given back, as far as its credit plan passes
  the check at all;
* `verifyCheckoutData_accepts_iff` — the check accepts all lines of a request exactly when they
  are `Acceptable`.
-/

namespace Storefront

variable {σ : Type}

/-- `constants.py` -/
def MAX_CART_ITEM_QUANTITY : Int := 5

/-! ### The models of `services/catalog/models.py` -/

structure CatalogItemQuantity where
  id : UUID
  quantity : Int
  deriving DecidableEq, Repr

structure ShortCheckoutItem where
  id : UUID
  quantity : Int
  deriving DecidableEq, Repr

structure CreditPaymentPart where
  sum : Int
  deadline : String
  deriving DecidableEq, Repr

structure AvailableCheckoutItem extends ShortCheckoutItem where
  preorderId : Option UUID
  price : Int
  title : String
  creditParts : Option (List CreditPaymentPart)
  deriving DecidableEq, Repr

structure CheckoutData where
  availableItems : List AvailableCheckoutItem
  adjustedItems : List ShortCheckoutItem
  deriving DecidableEq, Repr

/-- The line of a request an available item was made from. -/
def AvailableCheckoutItem.line (item : AvailableCheckoutItem) : CatalogItemQuantity where
  id := item.id
  quantity := item.quantity

/-! ### Attachments -/

/-- `get_attachment_urls_by_type` (`services/catalog/utils.py`) -/
def getAttachmentUrlsByType (attachments : List AttachmentORM) (attachmentType : AttachmentType) :
    List String :=
  (attachments.filter fun att => att.type = attachmentType).map (·.url)

/-! ### The check -/

/-- A part of the checkout data validated as a `CreditPaymentPart`. -/
def creditPaymentPart (P : Pydantic) (part : CreditPart) : Except PyExc CreditPaymentPart := do
  let deadline ← P.str part.deadline
  return { sum := part.sum, deadline }

def creditPaymentParts (P : Pydantic) :
    Option (List CreditPart) → Except PyExc (Option (List CreditPaymentPart))
  | some parts => do
    let parts ← parts.mapM (creditPaymentPart P)
    return some parts
  | none => .ok none

/-- `result.available_items.append(AvailableCheckoutItem(…))` -/
def addAvailableItem (P : Pydantic) (result : CheckoutData) (item : CatalogItemQuantity)
    (dbItem : CatalogItemCheckoutDataDTO) : Except PyExc CheckoutData := do
  let creditParts ← creditPaymentParts P dbItem.creditParts
  let available : AvailableCheckoutItem :=
    { id := item.id
      quantity := item.quantity
      preorderId := dbItem.preorderId
      price := dbItem.price
      title := dbItem.title
      creditParts }
  return { result with availableItems := result.availableItems ++ [available] }

/-- The body of the loop over the requested lines. -/
def verifyItem (P : Pydantic) (dbCheckoutData : Dict UUID CatalogItemCheckoutDataDTO)
    (result : CheckoutData) (item : CatalogItemQuantity) : Except PyExc CheckoutData := do
  let dbItem ← attributeOf (dbCheckoutData.get? item.id)
  match dbItem.available with
  | some available =>
    if item.quantity > available then
      let dbData := min available MAX_CART_ITEM_QUANTITY
      return { result with adjustedItems := result.adjustedItems ++ [⟨item.id, dbData⟩] }
    else addAvailableItem P result item dbItem
  | none => addAvailableItem P result item dbItem

/-- `next(iter(d.values()))`; in a coroutine `StopIteration` becomes a `RuntimeError`. -/
def firstValue {α : Type} : List α → Except PyExc α
  | a :: _ => .ok a
  | [] => .error .runtimeError

/-- `CatalogService.verify_checkout_data` -/
def verifyCheckoutData (P : Pydantic) (checkoutItems : List CatalogItemQuantity) :
    App σ CheckoutData := do
  let dbCheckoutData ← getCatalogItemsCheckoutData P (checkoutItems.map (·.id))
  let firstItem ← liftExcept (firstValue dbCheckoutData.values)
  raiseIf (¬ dbCheckoutData.values.all (·.preorderId = firstItem.preorderId))
    .incorrectItemsSectionsError
  liftExcept (checkoutItems.foldlM (verifyItem P dbCheckoutData) ⟨[], []⟩)

section Verify

variable {P : Pydantic}

theorem addAvailableItem_eq_ok {result result' : CheckoutData} {item : CatalogItemQuantity}
    {dbItem : CatalogItemCheckoutDataDTO} :
    addAvailableItem P result item dbItem = .ok result' ↔
      ∃ parts, creditPaymentParts P dbItem.creditParts = .ok parts ∧
        result' = { result with
          availableItems := result.availableItems ++
            [⟨⟨item.id, item.quantity⟩, dbItem.preorderId, dbItem.price, dbItem.title,
              parts⟩] } := by
  unfold addAvailableItem
  cases h : creditPaymentParts P dbItem.creditParts with
  | error e => simp [bind, Except.bind]
  | ok parts => simp [bind, Except.bind, pure, Except.pure, eq_comm]

/-- The two branches for a line whose item is there. -/
theorem verifyItem_of_get? (P : Pydantic) (result : CheckoutData)
    {data : Dict UUID CatalogItemCheckoutDataDTO} {item : CatalogItemQuantity}
    {dbItem : CatalogItemCheckoutDataDTO} (h : data.get? item.id = some dbItem) :
    ((∃ a, dbItem.available = some a ∧ a < item.quantity) ∧
      ∃ s, verifyItem P data result item =
        .ok { result with adjustedItems := result.adjustedItems ++ [s] }) ∨
    ((∀ a, dbItem.available = some a → item.quantity ≤ a) ∧
      verifyItem P data result item = addAvailableItem P result item dbItem) := by
  have hitem : verifyItem P data result item =
      match dbItem.available with
      | some available =>
        if item.quantity > available then
          .ok { result with adjustedItems := result.adjustedItems ++
            [⟨item.id, min available MAX_CART_ITEM_QUANTITY⟩] }
        else addAvailableItem P result item dbItem
      | none => addAvailableItem P result item dbItem := by
    unfold verifyItem
    rw [h]
    rfl
  -- compare with what is available, if the stock is limited
  rw [hitem]
  cases dbItem.available with
  -- sold in any number
  | none => exact .inr ⟨nofun, rfl⟩
  | some a =>
    by_cases hlt : item.quantity > a
    · exact .inl ⟨⟨a, rfl, hlt⟩, _, if_pos hlt⟩
    · refine .inr ⟨?_, if_neg hlt⟩
      intro a' ha'
      cases ha'
      exact not_lt.mp hlt

/-- One line of the request becomes an available item or an adjusted one. -/
theorem verifyItem_eq_ok {data : Dict UUID CatalogItemCheckoutDataDTO}
    {result result' : CheckoutData} {item : CatalogItemQuantity}
    (h : verifyItem P data result item = .ok result') :
    (∃ a : AvailableCheckoutItem, a.line = item ∧
      result' = { result with availableItems := result.availableItems ++ [a] }) ∨
    ∃ s, result' = { result with adjustedItems := result.adjustedItems ++ [s] } := by
  cases hget : data.get? item.id with
  | none =>
    -- an item that is not there raises
    unfold verifyItem at h
    rw [hget] at h
    cases h
  | some dbItem =>
    rcases verifyItem_of_get? P result hget with ⟨-, s, heq⟩ | ⟨-, heq⟩
    · rw [heq] at h
      cases h
      exact .inr ⟨s, rfl⟩
    · rw [heq] at h
      obtain ⟨parts, -, rfl⟩ := addAvailableItem_eq_ok.mp h
      exact .inl ⟨_, rfl, rfl⟩

/-- What the loop has done to the result: it appended available items made from lines of the
request, in order, and adjusted items; without the latter every line gave an available
item. -/
theorem foldlM_verifyItem {data : Dict UUID CatalogItemCheckoutDataDTO}
    {items : List CatalogItemQuantity} {result result' : CheckoutData}
    (h : items.foldlM (verifyItem P data) result = .ok result') :
    ∃ available adjusted,
      result' = ⟨result.availableItems ++ available, result.adjustedItems ++ adjusted⟩ ∧
      (available.map AvailableCheckoutItem.line).Sublist items ∧
      (adjusted = [] → available.map AvailableCheckoutItem.line = items) := by
  -- by induction on the lines, for any result so far
  induction items generalizing result with
  | nil =>
    cases h
    exact ⟨[], [], by simp, List.Sublist.slnil, fun _ => rfl⟩
  | cons item items ih =>
    rw [List.foldlM_cons] at h
    cases hitem : verifyItem P data result item with
    | error e =>
      rw [hitem] at h
      cases h
    | ok result₁ =>
      rw [hitem] at h
      obtain ⟨available, adjusted, hres, hsub, hall⟩ := ih h
      rcases verifyItem_eq_ok hitem with ⟨a, ha, rfl⟩ | ⟨s, rfl⟩
      -- an available line, then an adjusted one
      · refine ⟨a :: available, adjusted, ?_, ?_, ?_⟩
        · rw [hres, List.append_assoc, List.singleton_append]
        · rw [List.map_cons, ha]
          exact hsub.cons_cons item
        · intro hnil
          rw [List.map_cons, ha, hall hnil]
      · refine ⟨available, s :: adjusted, ?_, hsub.cons item, ?_⟩
        · rw [hres, List.append_assoc, List.singleton_append]
        · intro hnil
          cases hnil

/-- The check only reads. -/
theorem endState_verifyCheckoutData (checkoutItems : List CatalogItemQuantity)
    {c : Ctx Database Write σ} (hc : c.Clean) :
    endState ((verifyCheckoutData P checkoutItems).run c) = c := by
  unfold verifyCheckoutData
  refine endState_bind_eq (endState_getCatalogItemsCheckoutData hc) ?_
  intro _
  refine endState_bind_eq (endState_liftExcept _ c) ?_
  intro _
  exact endState_bind_eq (endState_raiseIf _ _ c) fun _ => endState_liftExcept _ c

/-- **Inversion of the check.** -/
theorem verifyCheckoutData_eq_ok {checkoutItems : List CatalogItemQuantity}
    {c c' : Ctx Database Write σ} (hc : c.Clean) {data : CheckoutData}
    (h : (verifyCheckoutData P checkoutItems).run c = .ok data c') :
    c' = c ∧ (checkoutItems.map (·.id)).Nodup ∧
      (data.availableItems.map AvailableCheckoutItem.line).Sublist checkoutItems ∧
      (data.adjustedItems = [] →
        data.availableItems.map AvailableCheckoutItem.line = checkoutItems) := by
  unfold verifyCheckoutData at h
  -- the statements up to the loop only read and may raise
  obtain ⟨dbData, c₁, hget, h₁⟩ := bind_eq_ok.mp h
  obtain ⟨rfl, hnodup⟩ := getCatalogItemsCheckoutData_eq_ok hc hget
  obtain ⟨first, c₂, hfirst, h₂⟩ := bind_eq_ok.mp h₁
  obtain ⟨-, rfl⟩ := liftExcept_eq_ok.mp hfirst
  obtain ⟨c₃, hraise, h₃⟩ := seq_eq_ok.mp h₂
  obtain ⟨-, rfl⟩ := raiseIf_eq_ok.mp hraise
  obtain ⟨hfold, rfl⟩ := liftExcept_eq_ok.mp h₃
  obtain ⟨available, adjusted, hdata, hsub, hall⟩ := foldlM_verifyItem hfold
  rw [List.nil_append, List.nil_append] at hdata
  subst hdata
  exact ⟨rfl, hnodup, hsub, hall⟩

end Verify

/-- `CatalogService.reserve_catalog_items` -/
def reserveCatalogItems (items : List ShortCheckoutItem) : App σ Unit :=
  increaseCatalogItemsOrderedQuantity (Dict.ofList (items.map fun item => (item.id, item.quantity)))

/-- **Inversion of a reservation.** -/
theorem reserveCatalogItems_eq_ok {items : List ShortCheckoutItem} {c c' : Ctx Database Write σ}
    (hc : c.Clean) {d : Dict UUID Int}
    (hd : d = Dict.ofList (items.map fun item => (item.id, item.quantity))) :
    (reserveCatalogItems items).run c = .ok () c' ↔
      ∃ db, postgres.applyAll (reservationWrites d (selectForUpdate d c.session.view))
          c.session.view = .ok db ∧
        c' = { c with session := ⟨db, [], false⟩ } := by
  subst hd
  unfold reserveCatalogItems
  rw [run_increaseCatalogItemsOrderedQuantity _ hc]
  split
  · next db h => simp [h, eq_comm]
  · next e h => simp [h]

/-! ### The three decisions about one item -/

section Decisions

variable (P : Pydantic) (db : Database) (env : σ) (x : CatalogItemORM) (q : Int)

/-- `verify_checkout_data` puts the single line `(x, q)` in `available_items`. -/
def Accepted : Prop :=
  ∃ data c, (verifyCheckoutData P [⟨x.id, q⟩]).run (Ctx.start db env) = .ok data c ∧
    ∃ item ∈ data.availableItems, item.id = x.id

/-- `reserve_catalog_items` of `(x, q)` goes through. -/
def Reserved : Prop :=
  ∃ c, (reserveCatalogItems [⟨x.id, q⟩]).run (Ctx.start db env) = .ok () c

/-- `x` is in the result of `get_available_catalog_item_ids`. -/
def Listed : Prop :=
  ∃ ids c, (getAvailableCatalogItemIds : App σ (List UUID)).run (Ctx.start db env) = .ok ids c ∧
    x.id ∈ ids

/-- The credit plan of `x`, if it has one, passes both validations. -/
def PlanAccepted : Prop :=
  ∃ parts parts', creditParts P (db.catalog.creditPlan x) = .ok parts ∧
    creditPaymentParts P parts = .ok parts'

variable {P db env x q}

/-- The check of one active item is the decision about its line. -/
theorem run_verifyCheckoutData_single (hx : x ∈ db.catalog.items.rows)
    (h_active : x.isActive = true) :
    (verifyCheckoutData P [⟨x.id, q⟩]).run (Ctx.start db env) =
      (liftExcept (do
        let d ← catalogItemCheckoutData P (db.catalog.load x)
        verifyItem P (Dict.ofList [(d.id, d)]) ⟨[], []⟩ ⟨x.id, q⟩) :
          App σ CheckoutData).run (Ctx.start db env) := by
  have hget := run_getCatalogItemsCheckoutData_single (P := P) (Ctx.clean_start db env) hx h_active
  rw [show (Ctx.start db env).session.view = db from rfl] at hget
  unfold verifyCheckoutData
  rw [List.map_singleton]
  cases hd : catalogItemCheckoutData P (db.catalog.load x) with
  | error e =>
    rw [hd] at hget
    exact run_bind_error hget
  | ok d =>
    rw [hd] at hget
    -- the only item agrees with itself about its preorder
    have hvalues : (Dict.ofList [(d.id, d)]).values = [d] :=
      Dict.values_ofList (List.nodup_singleton _)
    rw [run_bind_ok hget, run_bind_ok (liftExcept_eq_ok.mpr ⟨congrArg firstValue hvalues, rfl⟩),
      run_bind_ok (run_raiseIf_of_not (by simp [hvalues]) _ _)]
    rw [List.foldlM_cons]
    simp only [List.foldlM_nil, bind_pure]
    rfl

/-- When the decision about one line is to accept it. -/
theorem verifyItem_accepts_iff {data : Dict UUID CatalogItemCheckoutDataDTO}
    {item : CatalogItemQuantity} {dbItem : CatalogItemCheckoutDataDTO}
    (h : data.get? item.id = some dbItem) :
    (∃ r, verifyItem P data ⟨[], []⟩ item = .ok r ∧ ∃ a ∈ r.availableItems, a.id = item.id) ↔
      (∃ parts, creditPaymentParts P dbItem.creditParts = .ok parts) ∧
        ∀ a, dbItem.available = some a → item.quantity ≤ a := by
  rcases verifyItem_of_get? P ⟨[], []⟩ h with ⟨⟨a, ha, hlt⟩, s, heq⟩ | ⟨hle, heq⟩
  · -- an adjusted line
    rw [heq]
    refine ⟨?_, ?_⟩
    · rintro ⟨r, hr, a', ha', -⟩
      cases hr
      cases ha'
    · rintro ⟨-, hle⟩
      exact absurd (hle a ha) (not_le.mpr hlt)
  -- a line that stays, as far as its plan passes
  · rw [heq]
    refine ⟨?_, ?_⟩
    · rintro ⟨r, hr, -⟩
      obtain ⟨parts, hparts, -⟩ := addAvailableItem_eq_ok.mp hr
      exact ⟨⟨parts, hparts⟩, hle⟩
    · rintro ⟨⟨parts, hparts⟩, -⟩
      exact ⟨_, addAvailableItem_eq_ok.mpr ⟨parts, hparts, rfl⟩, _,
        List.mem_append_right _ (List.mem_singleton.mpr rfl), rfl⟩

/-- **When the check accepts an item**: its credit plan passes, and a stock other than zero
leaves enough. -/
theorem accepted_iff (hx : x ∈ db.catalog.items.rows) (h_active : x.isActive = true) :
    Accepted P db env x q ↔
      PlanAccepted P db x ∧ ∀ t, x.quantity = some t → t ≠ 0 → q ≤ t - x.orderedQuantity := by
  have hload := catalogItemCheckoutData_load P hx
  unfold Accepted PlanAccepted
  rw [run_verifyCheckoutData_single hx h_active, hload]
  cases hparts : creditParts P (db.catalog.creditPlan x) with
  | error e =>
    refine ⟨?_, ?_⟩
    · rintro ⟨data, c, h, -⟩
      cases h
    · rintro ⟨⟨parts, parts', h, -⟩, -⟩
      cases h
  | ok parts =>
    let d : CatalogItemCheckoutDataDTO := db.catalog.checkoutDataOf x parts
    -- the check of the line is about the data of its item
    have haccepts := verifyItem_accepts_iff (P := P)
      (show (Dict.ofList [(x.id, d)]).get? (⟨x.id, q⟩ : CatalogItemQuantity).id = some d from
        Dict.get?_ofList_singleton x.id d)
    refine ⟨?_, ?_⟩
    · rintro ⟨data, c, hrun, hmem⟩
      obtain ⟨hverify, -⟩ := liftExcept_eq_ok.mp hrun
      obtain ⟨⟨parts', hparts'⟩, hle⟩ := haccepts.mp ⟨data, hverify, hmem⟩
      exact ⟨⟨parts, parts', rfl, hparts'⟩,
        fun t ht h0 => hle _ (available_eq_some.mpr ⟨t, ht, h0, rfl⟩)⟩
    · rintro ⟨⟨parts₁, parts', h₁, hparts'⟩, hle⟩
      cases h₁
      -- a limit of 0 is none to the check
      have hle' : ∀ a, d.available = some a → q ≤ a := by
        intro a ha
        obtain ⟨t, ht, h0, rfl⟩ := available_eq_some.mp ha
        exact hle t ht h0
      obtain ⟨data, hverify, hmem⟩ := haccepts.mpr ⟨⟨parts', hparts'⟩, hle'⟩
      exact ⟨data, _, liftExcept_eq_ok.mpr ⟨hverify, rfl⟩, hmem⟩

/-- **When a reservation of one item goes through.** -/
theorem reserved_iff (hx : x ∈ db.catalog.items.rows) :
    Reserved db env x q ↔ (x.withOrdered (x.orderedQuantity + q)).QuantityLimit := by
  have hget := Dict.get?_ofList_singleton x.id q
  have hkeys : (Dict.ofList [(x.id, q)]).keys = [x.id] := Dict.keys_ofList (by simp)
  -- only the row of the item is locked
  have hselect : selectForUpdate (Dict.ofList [(x.id, q)]) db = [x] := by
    refine Table.filter_key_eq hx ?_
    intro r _
    rw [hkeys, decide_eq_true_iff, List.mem_singleton]
  have hcases := applyAll_reservationWrites (Dict.ofList [(x.id, q)]) db
  simp only [hselect, List.forall_mem_singleton, hget, Option.getD_some] at hcases
  unfold Reserved reserveCatalogItems
  rw [List.map_singleton, run_increaseCatalogItemsOrderedQuantity _ (Ctx.clean_start db env)]
  rw [show (Ctx.start db env : Ctx Database Write σ).session.view = db from rfl, hselect]
  -- the CHECK constraint decides
  rcases hcases with ⟨hlimit, db', hdb'⟩ | ⟨hnot, herr⟩
  · rw [hdb']
    exact ⟨fun _ => hlimit, fun _ => ⟨_, rfl⟩⟩
  · rw [herr]
    refine ⟨?_, ?_⟩
    · rintro ⟨c, hc⟩
      cases hc
    · exact fun h => absurd h hnot

/-- **When an active item is listed**: its stock is a number above the ordered quantity. -/
theorem listed_iff (hx : x ∈ db.catalog.items.rows) (h_active : x.isActive = true) :
    Listed db env x ↔ ∃ t, x.quantity = some t ∧ x.orderedQuantity < t := by
  -- the filter holds of a stock above the ordered quantity, and never of NULL
  have hgreater : (sqlGreater x.quantity x.orderedQuantity || notColumn) = true ↔
      ∃ t, x.quantity = some t ∧ x.orderedQuantity < t := by
    unfold sqlGreater notColumn
    cases x.quantity with
    | none => simp
    | some t => simp
  unfold Listed getAvailableCatalogItemIds
  rw [Session.run_query_clean postgres _ (Ctx.clean_start db env)]
  rw [← hgreater]
  refine ⟨?_, ?_⟩
  · rintro ⟨ids, c, hrun, hmem⟩
    cases hrun
    obtain ⟨r, hr, hid⟩ := List.mem_map.mp hmem
    obtain ⟨hrow, hcond⟩ := List.mem_filter.mp hr
    rw [Table.eq_of_mem hrow hx hid] at hcond
    exact (Bool.and_eq_true_iff.mp hcond).2
  · intro h
    refine ⟨_, _, rfl, List.mem_map_of_mem (List.mem_filter.mpr ⟨hx, ?_⟩)⟩
    rw [h_active, Bool.true_and]
    exact h

end Decisions

/-- **When the three decisions agree.** For an active item and a request of at least one, the
check accepts the line exactly when its reservation goes through, and the item is listed
exactly when the check accepts a line of one, if and only if the item's credit plan passes
and its stock is a number `t` that is not zero or leaves enough below zero; or the plan does
not pass and the item is exactly sold out. -/
theorem availability_agrees_iff (P : Pydantic) (db : Database) (env : σ) {x : CatalogItemORM}
    (hx : x ∈ db.catalog.items.rows) (h_active : x.isActive = true) {q : Int} (hq : 1 ≤ q) :
    ((Accepted P db env x q ↔ Reserved db env x q) ∧
      (Listed db env x ↔ Accepted P db env x 1)) ↔
    (PlanAccepted P db x ∧ ∃ t, x.quantity = some t ∧ (t ≠ 0 ∨ x.orderedQuantity + q ≤ 0)) ∨
      (¬ PlanAccepted P db x ∧ x.quantity = some x.orderedQuantity) := by
  -- the constraint holds of the stored row
  have h_limit : ∀ t, x.quantity = some t → x.orderedQuantity ≤ t :=
    fun t ht => db.catalog.quantity_limit x hx t ht
  rw [accepted_iff hx h_active, accepted_iff hx h_active, reserved_iff hx,
    listed_iff hx h_active]
  unfold CatalogItemORM.QuantityLimit
  rw [quantity_withOrdered, orderedQuantity_withOrdered]
  -- without an accepted plan the check accepts nothing
  by_cases hplan : PlanAccepted P db x
  · simp only [hplan, true_and, not_true_eq_false, false_and, or_false]
    cases hquantity : x.quantity with
    | none => simp
    | some t =>
      have := h_limit t hquantity
      simp only [Option.some.injEq, forall_eq', Option.mem_def, exists_eq_left']
      by_cases h0 : t = 0
      · -- zero is unlimited to the check
        simp only [h0, ne_eq, not_true_eq_false, false_implies, false_or, true_iff, iff_true]
        omega
      · simp only [ne_eq, h0, not_false_eq_true, forall_const, true_or, iff_true]
        omega
  · simp only [hplan, false_and, not_false_eq_true, true_and, false_or, false_iff, iff_false]
    cases hquantity : x.quantity with
    | none => simp
    | some t =>
      have := h_limit t hquantity
      simp only [Option.some.injEq, forall_eq', Option.mem_def, exists_eq_left']
      omega

/-- An active item that can be ordered no more. -/
def soldOutItem : CatalogItemORM where
  id := 1
  publicationId := 2
  productId := 3
  creditPlanId := none
  price := 100
  isActive := true
  quantity := some 0
  orderedQuantity := 0

/-- A line of one of the sold out item is accepted, goes not through, and the item is not
listed. -/
theorem soldOutItem_accepted :
    let db := Database.ofItem soldOutItem rfl (by decide)
    (soldOutItem ∈ db.catalog.items.rows ∧ soldOutItem.isActive = true) ∧
      Accepted .strict db () soldOutItem 1 ∧ ¬ Reserved db () soldOutItem 1 ∧
        ¬ Listed db () soldOutItem := by
  intro db
  have hx : soldOutItem ∈ db.catalog.items.rows := List.mem_singleton.mpr rfl
  refine ⟨⟨hx, rfl⟩, ?_, ?_, ?_⟩
  · rw [accepted_iff hx rfl]
    exact ⟨⟨none, none, rfl, rfl⟩, by decide⟩
  · rw [reserved_iff hx]
    decide
  · rw [listed_iff hx rfl]
    rintro ⟨t, ht, hlt⟩
    cases ht
    exact absurd hlt (by decide)

/-- The decisions agree on a line of two of an item of which one in three is ordered. -/
theorem availability_agrees_iff_example :
    let x : CatalogItemORM := { soldOutItem with quantity := some 3, orderedQuantity := 1 }
    let db := Database.ofItem x rfl (by decide)
    (Accepted .strict db () x 2 ↔ Reserved db () x 2) ∧
      (Listed db () x ↔ Accepted .strict db () x 1) := by
  intro x db
  exact (availability_agrees_iff .strict db () (List.mem_singleton.mpr rfl) rfl
    (by decide)).mpr (.inl ⟨⟨none, none, rfl, rfl⟩, 3, rfl, .inl (by decide)⟩)

/-! ### The check of several lines -/

section Lines

variable {P : Pydantic} {db : Database} {env : σ} {lines : List CatalogItemQuantity}

/-- The line is about an active item of the given preorder, whose plan passes and whose stock,
if it is a number other than zero, leaves enough. -/
def LineAcceptable (P : Pydantic) (db : Database) (preorderId : Option UUID)
    (line : CatalogItemQuantity) : Prop :=
  ∃ item ∈ db.catalog.items.rows, item.id = line.id ∧ item.isActive = true ∧
    db.catalog.preorderId item = preorderId ∧ PlanAccepted P db item ∧
    ∀ t, item.quantity = some t → t ≠ 0 → line.quantity ≤ t - item.orderedQuantity

/-- Lines about pairwise distinct items of one preorder, or of none, that are acceptable. -/
structure Acceptable (P : Pydantic) (db : Database) (lines : List CatalogItemQuantity) : Prop where
  nonempty : lines ≠ []
  distinct : (lines.map (·.id)).Nodup
  acceptable : ∃ preorderId, ∀ line ∈ lines, LineAcceptable P db preorderId line

/-- What the loop needs to accept a line. -/
def LineAvailable (P : Pydantic) (data : Dict UUID CatalogItemCheckoutDataDTO)
    (line : CatalogItemQuantity) : Prop :=
  ∃ dbItem, data.get? line.id = some dbItem ∧
    (∃ parts, creditPaymentParts P dbItem.creditParts = .ok parts) ∧
    ∀ a, dbItem.available = some a → line.quantity ≤ a

/-- One line that is not adjusted is available, and the other way round. -/
theorem verifyItem_available_iff {data : Dict UUID CatalogItemCheckoutDataDTO}
    {line : CatalogItemQuantity} (available : List AvailableCheckoutItem) :
    (∃ a, verifyItem P data ⟨available, []⟩ line = .ok ⟨available ++ [a], []⟩) ↔
      LineAvailable P data line := by
  refine ⟨?_, ?_⟩
  · rintro ⟨a, h⟩
    cases hget : data.get? line.id with
    | none =>
      unfold verifyItem at h
      rw [hget] at h
      cases h
    | some dbItem =>
      rcases verifyItem_of_get? P ⟨available, []⟩ hget with ⟨-, s, heq⟩ | ⟨hle, heq⟩
      · -- the line would have been adjusted
        have hadjusted := Except.ok.inj (h.symm.trans heq)
        simp at hadjusted
      · obtain ⟨parts, hparts, -⟩ := addAvailableItem_eq_ok.mp (heq.symm.trans h)
        exact ⟨dbItem, hget, ⟨parts, hparts⟩, hle⟩
  · rintro ⟨dbItem, hget, ⟨parts, hparts⟩, hle⟩
    rcases verifyItem_of_get? P ⟨available, []⟩ hget with ⟨⟨a, ha, hlt⟩, -⟩ | ⟨-, heq⟩
    · exact absurd (hle a ha) (not_le.mpr hlt)
    · exact ⟨_, heq.trans (addAvailableItem_eq_ok.mpr ⟨parts, hparts, rfl⟩)⟩

/-- The loop adjusts no line exactly when each of them is available. -/
theorem foldlM_verifyItem_available_iff {data : Dict UUID CatalogItemCheckoutDataDTO}
    (available : List AvailableCheckoutItem) :
    (∃ available', lines.foldlM (verifyItem P data) ⟨available, []⟩ = .ok ⟨available', []⟩) ↔
      ∀ line ∈ lines, LineAvailable P data line := by
  induction lines generalizing available with
  | nil => exact ⟨fun _ _ h => absurd h List.not_mem_nil, fun _ => ⟨available, rfl⟩⟩
  | cons line lines ih =>
    simp only [List.foldlM_cons, except_bind_eq_ok, List.forall_mem_cons]
    refine ⟨?_, ?_⟩
    · rintro ⟨available', result, hline, hrest⟩
      rcases verifyItem_eq_ok hline with ⟨a, -, rfl⟩ | ⟨s, rfl⟩
      · exact ⟨(verifyItem_available_iff available).mp ⟨a, hline⟩, (ih _).mp ⟨available', hrest⟩⟩
      · -- an adjusted line stays in the result
        obtain ⟨_, adjusted, hresult, -⟩ := foldlM_verifyItem hrest
        simp at hresult
    · rintro ⟨hline, hlines⟩
      obtain ⟨a, ha⟩ := (verifyItem_available_iff available).mpr hline
      obtain ⟨available', hrest⟩ := (ih _).mpr hlines
      exact ⟨available', _, ha, hrest⟩

theorem firstValue_eq_ok {α : Type} {l : List α} {a : α} (h : firstValue l = .ok a) : a ∈ l := by
  cases l with
  | nil => cases h
  | cons b l =>
    cases h
    exact List.mem_cons_self

theorem exists_firstValue {α : Type} {l : List α} (h : l ≠ []) : ∃ a, firstValue l = .ok a := by
  cases l with
  | nil => exact absurd rfl h
  | cons a l => exact ⟨a, rfl⟩

theorem mem_values_of_get? {data : Dict UUID CatalogItemCheckoutDataDTO} {id : UUID}
    {d : CatalogItemCheckoutDataDTO} (h : data.get? id = some d) : d ∈ data.values :=
  List.mem_map_of_mem (Dict.get?_eq_some.mp h)

/-- A check that adjusted no line. -/
theorem acceptable_of_verifyCheckoutData {items : List AvailableCheckoutItem}
    (h : (verifyCheckoutData P lines).run (Ctx.start db env) =
      .ok ⟨items, []⟩ (Ctx.start db env)) : Acceptable P db lines := by
  have hc := Ctx.clean_start (W := Write) db env
  unfold verifyCheckoutData at h
  obtain ⟨data, c₁, hdata, h₁⟩ := bind_eq_ok.mp h
  -- peel the handler: the query, the first value, the comparison of the sections and the loop
  obtain ⟨rfl, hnodup⟩ := getCatalogItemsCheckoutData_eq_ok hc hdata
  obtain ⟨hget, hvalues⟩ := getCatalogItemsCheckoutData_get? hc hdata
  obtain ⟨first, c₂, hlift, h₂⟩ := bind_eq_ok.mp h₁
  obtain ⟨hfirst, rfl⟩ := liftExcept_eq_ok.mp hlift
  obtain ⟨c₃, hraise, h₃⟩ := seq_eq_ok.mp h₂
  obtain ⟨hall, rfl⟩ := raiseIf_eq_ok.mp hraise
  obtain ⟨hfold, -⟩ := liftExcept_eq_ok.mp h₃
  have havailable := (foldlM_verifyItem_available_iff []).mp ⟨items, hfold⟩
  -- the data has an entry for the first value, and those of the lines
  refine ⟨?_, hnodup, first.preorderId, fun line hline => ?_⟩
  · rintro rfl
    obtain ⟨id, hid, -⟩ := hvalues first (firstValue_eq_ok hfirst)
    cases hid
  · obtain ⟨dbItem, hline', ⟨parts', hparts'⟩, hle⟩ := havailable line hline
    obtain ⟨item, hitem, hid, hactive, parts, hparts, hdto⟩ :=
      hget line.id (List.mem_map_of_mem hline)
    obtain rfl : _ = dbItem := Option.some.inj (hdto.symm.trans hline')
    refine ⟨item, hitem, hid, hactive, ?_, ⟨parts, parts', hparts, hparts'⟩, ?_⟩
    · have hpreorder := List.all_eq_true.mp (not_not.mp hall) _ (mem_values_of_get? hdto)
      exact of_decide_eq_true hpreorder
    · exact fun t ht h0 => hle _ (available_eq_some.mpr ⟨t, ht, h0, rfl⟩)

/-- What an acceptable line says of the item with its id; an id determines its item. -/
theorem LineAcceptable.of_id {preorderId : Option UUID} {line : CatalogItemQuantity}
    (h : LineAcceptable P db preorderId line) {item : CatalogItemORM}
    (h_item : item ∈ db.catalog.items.rows) (h_id : item.id = line.id) :
    db.catalog.preorderId item = preorderId ∧ PlanAccepted P db item ∧
      ∀ t, item.quantity = some t → t ≠ 0 → line.quantity ≤ t - item.orderedQuantity := by
  obtain ⟨item', hitem', hid', -, hrest⟩ := h
  obtain rfl : item' = item := Table.eq_of_mem hitem' h_item (hid'.trans h_id.symm)
  exact hrest

/-- The plans of the items of acceptable lines have checkout data. -/
theorem Acceptable.creditParts (h : Acceptable P db lines) :
    ∀ item ∈ selectActiveItems (lines.map (·.id)) db,
      ∃ parts, creditParts P (db.catalog.creditPlan item) = .ok parts := by
  intro item hitem
  obtain ⟨preorderId, hlines⟩ := h.acceptable
  obtain ⟨hrow, hcond⟩ := List.mem_filter.mp hitem
  rw [Bool.and_eq_true, decide_eq_true_iff] at hcond
  obtain ⟨line, hline, hid⟩ := List.mem_map.mp hcond.2
  obtain ⟨-, ⟨parts, -, hparts, -⟩, -⟩ := (hlines line hline).of_id hrow hid.symm
  exact ⟨parts, hparts⟩

/-- An acceptable line is available to the loop, and its item has the preorder. -/
theorem LineAcceptable.available {preorderId : Option UUID} {line : CatalogItemQuantity}
    (h : LineAcceptable P db preorderId line) {data : Dict UUID CatalogItemCheckoutDataDTO}
    (h_data : ∃ item ∈ db.catalog.items.rows, item.id = line.id ∧ item.isActive = true ∧
      ∃ parts, creditParts P (db.catalog.creditPlan item) = .ok parts ∧
        data.get? line.id = some (db.catalog.checkoutDataOf item parts)) :
    LineAvailable P data line ∧ ∀ d, data.get? line.id = some d → d.preorderId = preorderId := by
  obtain ⟨item, hitem, hid, -, parts, hparts, hd⟩ := h_data
  obtain ⟨hpreorder, ⟨parts₁, parts', hparts₁, hparts'⟩, hstock⟩ := h.of_id hitem hid
  obtain rfl : parts = parts₁ := Except.ok.inj (hparts.symm.trans hparts₁)
  refine ⟨⟨_, hd, ⟨parts', hparts'⟩, fun a ha => ?_⟩, fun d hd' => ?_⟩
  · obtain ⟨t, ht, h0, rfl⟩ := available_eq_some.mp ha
    exact hstock t ht h0
  · obtain rfl : _ = d := Option.some.inj (hd.symm.trans hd')
    exact hpreorder

/-- The check of acceptable lines. -/
theorem Acceptable.exists_verifyCheckoutData (h : Acceptable P db lines) :
    ∃ items, (verifyCheckoutData P lines).run (Ctx.start db env) =
      .ok ⟨items, []⟩ (Ctx.start db env) := by
  have hc := Ctx.clean_start (W := Write) db env
  obtain ⟨preorderId, hlines⟩ := h.acceptable
  -- the checkout data is there
  obtain ⟨data, hdata⟩ := exists_getCatalogItemsCheckoutData hc h.distinct
    (fun id hid => by
      obtain ⟨line, hline, rfl⟩ := List.mem_map.mp hid
      obtain ⟨item, hitem, hid, hactive, -⟩ := hlines line hline
      exact ⟨item, hitem, hid, hactive⟩) h.creditParts
  obtain ⟨hget, hvalues⟩ := getCatalogItemsCheckoutData_get? hc hdata
  have hline : ∀ line ∈ lines, LineAvailable P data line ∧
      ∀ d, data.get? line.id = some d → d.preorderId = preorderId :=
    fun line hline => (hlines line hline).available (hget line.id (List.mem_map_of_mem hline))
  -- and all of it has one preorder
  have hsame : ∀ d ∈ data.values, d.preorderId = preorderId := by
    intro d hd
    obtain ⟨id, hid, hget'⟩ := hvalues d hd
    obtain ⟨line, hmem, rfl⟩ := List.mem_map.mp hid
    exact (hline line hmem).2 d hget'
  obtain ⟨first, hfirst⟩ : ∃ first, firstValue data.values = .ok first := by
    obtain ⟨line, hmem⟩ := List.exists_mem_of_ne_nil lines h.nonempty
    obtain ⟨d, hd, -⟩ := (hline line hmem).1
    exact exists_firstValue (List.ne_nil_of_mem (mem_values_of_get? hd))
  have hall : data.values.all (·.preorderId = first.preorderId) = true :=
    List.all_eq_true.mpr fun d hd => decide_eq_true
      ((hsame d hd).trans (hsame first (firstValue_eq_ok hfirst)).symm)
  -- so the loop runs, and adjusts nothing
  obtain ⟨items, hfold⟩ :=
    (foldlM_verifyItem_available_iff []).mpr fun line hmem => (hline line hmem).1
  refine ⟨items, ?_⟩
  unfold verifyCheckoutData
  rw [run_bind_ok hdata, run_bind_ok (liftExcept_eq_ok.mpr ⟨hfirst, rfl⟩),
    run_bind_ok (run_raiseIf_of_not (not_not.mpr hall) _ _)]
  exact liftExcept_eq_ok.mpr ⟨hfold, rfl⟩

/-- **When the check accepts all lines.** -/
theorem verifyCheckoutData_accepts_iff :
    (∃ items, (verifyCheckoutData P lines).run (Ctx.start db env) =
        .ok ⟨items, []⟩ (Ctx.start db env)) ↔ Acceptable P db lines :=
  ⟨fun ⟨_, h⟩ => acceptable_of_verifyCheckoutData h, fun h => h.exists_verifyCheckoutData⟩

end Lines

end Storefront
