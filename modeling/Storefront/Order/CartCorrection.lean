import Storefront.Order.Entrypoints

/-!
# The cart after a rejected checkout

A checkout with lines that exceed the stock is to leave the cart with what is left of them.
`update_cart_items` looks for a cart row whose own id is that of the catalog item, and the
exception that is raised next rolls back whatever it has written: the committed cart never
changes.

* `mem_adjustedItems` — the adjusted lines are the requested lines above a stock that is a
  number other than zero, each with what is left of the stock, at most five;
* `cart_corrected_iff` — a rejected checkout leaves the cart corrected exactly when the cart
  had the right quantities before.
-/

namespace Storefront

variable {σ : Type}

/-! ### The adjusted lines -/

/-- What the loop appends to the adjusted items for one line. -/
def adjustment (data : Dict UUID CatalogItemCheckoutDataDTO) (line : CatalogItemQuantity) :
    Option ShortCheckoutItem :=
  ((data.get? line.id).bind (·.available)).bind fun available =>
    if line.quantity > available then some ⟨line.id, min available MAX_CART_ITEM_QUANTITY⟩
    else none

section Adjusted

variable {P : Pydantic} {data : Dict UUID CatalogItemCheckoutDataDTO}
  {result result' : CheckoutData}

theorem verifyItem_adjustedItems {line : CatalogItemQuantity}
    (h : verifyItem P data result line = .ok result') :
    result'.adjustedItems = result.adjustedItems ++ (adjustment data line).toList := by
  unfold verifyItem at h
  unfold adjustment
  cases hget : data.get? line.id with
  -- no data of the item: the lookup raises
  | none =>
    rw [hget] at h
    cases h
  | some dbItem =>
    rw [hget] at h
    dsimp only [attributeOf, bind, Except.bind] at h
    rw [Option.bind_some]
    -- a line that is available adjusts nothing
    have hsame : addAvailableItem P result line dbItem = .ok result' →
        result'.adjustedItems = result.adjustedItems ++ [] := by
      intro hadd
      obtain ⟨parts, -, rfl⟩ := addAvailableItem_eq_ok.mp hadd
      exact (List.append_nil _).symm
    cases havailable : dbItem.available with
    | none =>
      rw [havailable] at h
      exact hsame h
    | some a =>
      rw [havailable] at h
      rw [Option.bind_some]
      by_cases hlt : line.quantity > a
      · rw [if_pos hlt]
        cases (if_pos hlt).symm.trans h
        rfl
      · rw [if_neg hlt]
        exact hsame ((if_neg hlt).symm.trans h)

theorem foldlM_verifyItem_adjustedItems {lines : List CatalogItemQuantity}
    (h : lines.foldlM (verifyItem P data) result = .ok result') :
    result'.adjustedItems = result.adjustedItems ++ lines.filterMap (adjustment data) := by
  induction lines generalizing result with
  | nil =>
    cases h
    exact (List.append_nil _).symm
  | cons line lines ih =>
    rw [List.foldlM_cons] at h
    obtain ⟨result₁, hline, hrest⟩ := except_bind_eq_ok.mp h
    rw [ih hrest, verifyItem_adjustedItems hline, List.append_assoc, List.filterMap_cons]
    cases adjustment data line <;> rfl

end Adjusted

/-- The line asks for more than is left of its item, whose stock is a number other than zero;
`quantity` is what is left, at most five. -/
def Exceeds (db : Database) (line : CatalogItemQuantity) (quantity : Int) : Prop :=
  ∃ item ∈ db.catalog.items.rows, item.id = line.id ∧
    ∃ stock, item.quantity = some stock ∧ stock ≠ 0 ∧
      stock - item.orderedQuantity < line.quantity ∧
      quantity = min (stock - item.orderedQuantity) MAX_CART_ITEM_QUANTITY

/-- What is left is never negative. -/
theorem Exceeds.nonneg {db : Database} {line : CatalogItemQuantity} {quantity : Int}
    (h : Exceeds db line quantity) : 0 ≤ quantity := by
  obtain ⟨item, hitem, -, stock, hstock, -, -, rfl⟩ := h
  have hlimit : item.orderedQuantity ≤ stock := db.catalog.quantity_limit item hitem stock hstock
  have hmax : (0 : Int) ≤ MAX_CART_ITEM_QUANTITY := by decide
  exact le_min (by omega) hmax

/-- **The adjusted lines.** -/
theorem mem_adjustedItems {P : Pydantic} {lines : List CatalogItemQuantity}
    {c c' : Ctx Database Write σ} (hc : c.Clean) {data : CheckoutData}
    (h : (verifyCheckoutData P lines).run c = .ok data c') (s : ShortCheckoutItem) :
    s ∈ data.adjustedItems ↔
      ∃ line ∈ lines, s.id = line.id ∧ Exceeds c.session.view line s.quantity := by
  unfold verifyCheckoutData at h
  obtain ⟨dbData, c₁, hdata, h₁⟩ := bind_eq_ok.mp h
  obtain ⟨rfl, -⟩ := getCatalogItemsCheckoutData_eq_ok hc hdata
  obtain ⟨hget, -⟩ := getCatalogItemsCheckoutData_get? hc hdata
  obtain ⟨first, c₂, hfirst, h₂⟩ := bind_eq_ok.mp h₁
  obtain ⟨-, rfl⟩ := liftExcept_eq_ok.mp hfirst
  obtain ⟨c₃, hraise, h₃⟩ := seq_eq_ok.mp h₂
  obtain ⟨-, rfl⟩ := raiseIf_eq_ok.mp hraise
  obtain ⟨hfold, -⟩ := liftExcept_eq_ok.mp h₃
  rw [foldlM_verifyItem_adjustedItems hfold, List.nil_append, List.mem_filterMap]
  refine exists_congr fun line => and_congr_right fun hline => ?_
  -- the data of the line is that of the item with its id
  obtain ⟨item, hitem, hid, -, parts, -, hdto⟩ := hget line.id (List.mem_map_of_mem hline)
  unfold adjustment
  rw [hdto, Option.bind_some]
  refine ⟨?_, ?_⟩
  · intro hs
    obtain ⟨a, ha, hs'⟩ := Option.bind_eq_some_iff.mp hs
    obtain ⟨stock, hstock, h0, rfl⟩ := available_eq_some.mp ha
    split at hs'
    · next hlt =>
      cases hs'
      exact ⟨rfl, item, hitem, hid, stock, hstock, h0, hlt, rfl⟩
    · cases hs'
  · rintro ⟨hsid, item', hitem', hid', stock, hstock, h0, hlt, hquantity⟩
    -- ids are unique, so the exceeded item is the one that was read
    obtain rfl : item' = item := Table.eq_of_mem hitem' hitem (hid'.trans hid.symm)
    refine Option.bind_eq_some_iff.mpr ⟨_, available_eq_some.mpr ⟨stock, hstock, h0, rfl⟩, ?_⟩
    obtain ⟨sid, squantity⟩ := s
    obtain rfl : sid = line.id := hsid
    obtain rfl : squantity = _ := hquantity
    exact if_pos hlt

/-! ### The cart -/

/-- `db'` has the cart of `db` with the adjusted quantities of the user's rows, and without
those of which nothing is left. -/
structure CartCorrected (db : Database) (user : UUID) (adjusted : List ShortCheckoutItem)
    (db' : Database) : Prop where
  adjusted_rows : ∀ s ∈ adjusted, 0 < s.quantity → ∀ row ∈ db.carts.table.rows,
    row.userId = user → row.itemId = s.id → { row with quantity := s.quantity } ∈
      db'.carts.table.rows
  sold_out : ∀ s ∈ adjusted, s.quantity = 0 → ∀ row ∈ db'.carts.table.rows,
    ¬ (row.userId = user ∧ row.itemId = s.id)
  others : ∀ row : CartItemORM, (∀ s ∈ adjusted, ¬ (row.userId = user ∧ row.itemId = s.id)) →
    (row ∈ db'.carts.table.rows ↔ row ∈ db.carts.table.rows)

/-- A cart is its own correction when it has the adjusted quantities. -/
theorem cartCorrected_self {db : Database} {user : UUID} {adjusted : List ShortCheckoutItem}
    (h : ∀ s ∈ adjusted, 0 ≤ s.quantity) :
    CartCorrected db user adjusted db ↔ ∀ s ∈ adjusted, ∀ row ∈ db.carts.table.rows,
      row.userId = user → row.itemId = s.id → row.quantity = s.quantity := by
  refine ⟨fun hcart s hs row hrow huser hitem => ?_, fun hsame => ⟨?_, ?_, fun _ _ => Iff.rfl⟩⟩
  · rcases (h s hs).lt_or_eq with hpos | hzero
    -- the row with the adjusted quantity is the row itself
    · have hmem := hcart.adjusted_rows s hs hpos row hrow huser hitem
      exact congrArg CartItemORM.quantity (Table.eq_of_mem hrow hmem rfl)
    · exact absurd ⟨huser, hitem⟩ (hcart.sold_out s hs hzero.symm row hrow)
  · intro s hs _ row hrow huser hitem
    rw [← hsame s hs row hrow huser hitem]
    exact hrow
  · -- no row has the quantity zero
    rintro s hs hzero row hrow ⟨huser, hitem⟩
    have hpos := db.carts.positive_cart_item_quantity row hrow
    rw [hsame s hs row hrow huser hitem, hzero] at hpos
    exact absurd hpos (lt_irrefl 0)

/-- A checkout that adjusts a line raises, and what it committed is what it found. -/
theorem run_postCheckout_adjusted {P : Pydantic} (fault : Option PyExc) (user : UserIdentity)
    {requestData : MakeCheckoutRequestSchema} {db : Database} {env : RequestState}
    {data : CheckoutData} {c : Ctx Database Write RequestState}
    (h : (verifyCheckoutData P requestData.items).run (Ctx.start db env) = .ok data c)
    (h_adjusted : data.adjustedItems ≠ []) :
    (postCheckout P fault user requestData).run (Ctx.start db env) =
      .error .invalidCheckoutDataError (Ctx.start db env) := by
  obtain ⟨rfl, -⟩ := verifyCheckoutData_eq_ok (Ctx.clean_start db env) h
  obtain ⟨c', hupdate, hcom, henv⟩ :=
    run_updateCartItems user data.adjustedItems (Ctx.clean_start db env)
  have hrun : (makeCheckout P user requestData).run (Ctx.start db env) =
      .error .invalidCheckoutDataError c' := by
    unfold makeCheckout
    rw [run_bind_ok h]
    simp only [ne_eq, h_adjusted, not_false_eq_true, if_true]
    exact run_bind_ok hupdate
  unfold postCheckout
  rw [run_initCtxDbSession_error hrun]
  -- the session is gone with what was written to it
  obtain ⟨committed, session, env'⟩ := c'
  obtain rfl : committed = db := hcom
  obtain rfl : env' = env := henv
  rfl

/-- **When a rejected checkout leaves the cart corrected.** It answers with
`InvalidCheckoutDataError`, and the committed cart is corrected exactly when every row that
the user had for a line above the stock had the quantity that is left already. -/
theorem cart_corrected_iff {P : Pydantic} (fault : Option PyExc) (user : UserIdentity)
    {requestData : MakeCheckoutRequestSchema} {db : Database} {env : RequestState}
    {data : CheckoutData} {c : Ctx Database Write RequestState}
    (h : (verifyCheckoutData P requestData.items).run (Ctx.start db env) = .ok data c)
    (h_adjusted : data.adjustedItems ≠ []) :
    ∃ c', (postCheckout P fault user requestData).run (Ctx.start db env) =
        .error .invalidCheckoutDataError c' ∧
      (CartCorrected db user.id data.adjustedItems c'.committed ↔
        ∀ line ∈ requestData.items, ∀ quantity, Exceeds db line quantity →
          ∀ row ∈ db.carts.table.rows, row.userId = user.id → row.itemId = line.id →
            row.quantity = quantity) := by
  refine ⟨_, run_postCheckout_adjusted fault user h h_adjusted, ?_⟩
  have hmem := mem_adjustedItems (Ctx.clean_start db env) h
  have hnonneg : ∀ s ∈ data.adjustedItems, 0 ≤ s.quantity := by
    intro s hs
    obtain ⟨line, -, -, hexceeds⟩ := (hmem s).mp hs
    exact hexceeds.nonneg
  refine (cartCorrected_self hnonneg).trans ⟨?_, ?_⟩
  · intro hsame line hline quantity hexceeds row hrow huser hitem
    exact hsame ⟨line.id, quantity⟩ ((hmem _).mpr ⟨line, hline, rfl, hexceeds⟩) row hrow huser hitem
  · intro hsame s hs row hrow huser hitem
    obtain ⟨line, hline, hid, hexceeds⟩ := (hmem s).mp hs
    exact hsame line hline s.quantity hexceeds row hrow huser (hitem.trans hid)

/-- Three pieces of an item, and a cart with some of them. -/
def cartDatabase (quantity : Int) (h : 0 < quantity) : Database :=
  { sampleDatabase with
    carts :=
      { table := ⟨[⟨20, 5, 1, quantity⟩], List.nodup_singleton _⟩
        unique_user_item := fun r hr r' hr' _ _ =>
          (List.mem_singleton.mp hr).trans (List.mem_singleton.mp hr').symm
        positive_cart_item_quantity := fun r hr => by
          rw [List.mem_singleton.mp hr]
          exact h } }

/-- Four of them are adjusted to three. -/
theorem run_verifyCheckoutData_four {quantity : Int} {h : 0 < quantity} {env : RequestState} :
    (verifyCheckoutData .strict [⟨1, 4⟩]).run (Ctx.start (cartDatabase quantity h) env) =
      .ok ⟨[], [⟨1, 3⟩]⟩ (Ctx.start (cartDatabase quantity h) env) := rfl

/-- A cart with three pieces is right after four were asked for. -/
theorem cart_corrected_three :
    ∃ c', (postCheckout .strict none sampleUser ⟨[⟨1, 4⟩]⟩).run
        (Ctx.start (cartDatabase 3 (by decide)) ⟨[], []⟩) = .error .invalidCheckoutDataError c' ∧
      CartCorrected (cartDatabase 3 (by decide)) 5 [⟨1, 3⟩] c'.committed := by
  obtain ⟨c', hrun, hiff⟩ := @cart_corrected_iff .strict none sampleUser ⟨[⟨1, 4⟩]⟩
    (cartDatabase 3 (by decide)) ⟨[], []⟩ _ _ run_verifyCheckoutData_four nofun
  refine ⟨c', hrun, hiff.mpr ?_⟩
  intro line hline quantity hexceeds row hrow _ _
  obtain rfl := List.mem_singleton.mp hline
  obtain rfl := List.mem_singleton.mp hrow
  obtain ⟨item, hitem, -, stock, hstock, -, -, rfl⟩ := hexceeds
  obtain rfl := List.mem_singleton.mp hitem
  cases hstock
  decide

/-- A cart with four pieces stays as it is. -/
theorem four_pieces_not_corrected :
    (verifyCheckoutData .strict [⟨1, 4⟩]).run (Ctx.start (cartDatabase 4 (by decide)) ⟨[], []⟩) =
        .ok ⟨[], [⟨1, 3⟩]⟩ (Ctx.start (cartDatabase 4 (by decide)) (⟨[], []⟩ : RequestState)) ∧
      ∃ c', (postCheckout .strict none sampleUser ⟨[⟨1, 4⟩]⟩).run
          (Ctx.start (cartDatabase 4 (by decide)) ⟨[], []⟩) =
            .error .invalidCheckoutDataError c' ∧
        ¬ CartCorrected (cartDatabase 4 (by decide)) 5 [⟨1, 3⟩] c'.committed := by
  refine ⟨run_verifyCheckoutData_four, _,
    run_postCheckout_adjusted none sampleUser run_verifyCheckoutData_four nofun, ?_⟩
  intro hcart
  have hmem := hcart.adjusted_rows ⟨1, 3⟩ List.mem_cons_self (by decide) ⟨20, 5, 1, 4⟩
    List.mem_cons_self rfl rfl
  -- the row still has four
  exact absurd (List.mem_singleton.mp hmem) (by decide)

end Storefront
