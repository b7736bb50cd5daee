import Storefront.Library.Run
import Storefront.Order.Verification
import Storefront.User.Cart

/-!
# Changes of a quantity

`UserService.change_cart_item_quantity` for a user, called with the stock of the item.

A change reads the quantity of one row (`getCartItemQuantity`), decides on a new one
(`newCartQuantity`), and writes that (`run_userServiceChangeCartItemQuantity`). The decision
compares it with the larger of the stock and `MAX_CART_ITEM_QUANTITY`, while the check of a
checkout goes by the smaller of the two.

* `cart_accepts_checkout_quantities_iff` — a change stores what a checkout accepts, and raises
  its error otherwise, exactly where the two limits agree on the new quantity; after changes
  that all meet this condition no accepted quantity is adjusted;
* `overstock_accepted` — where they do not, a change stores more than there is.
-/

namespace Storefront

/-! ### One change -/

/-- `cart_quantity + 1 if is_increment_action else cart_quantity - 1` -/
def changedQuantity (isIncrementAction : Bool) (cartQuantity : Int) : Int :=
  if isIncrementAction then cartQuantity + 1 else cartQuantity - 1

/-- What a change decides on, from the quantity it has read. -/
def newCartQuantity (availableItems : Option Int) (isIncrementAction : Bool)
    (cartQuantity : Int) : Except PyExc Int := do
  let newQuantity := changedQuantity isIncrementAction cartQuantity
  if 0 < newQuantity then
    let limit ← quantityLimit availableItems
    if newQuantity ≤ limit then return newQuantity else throw .cartItemQuantityInvalidError
  else throw .cartItemQuantityInvalidError

section Change

variable {user : Kratos.UserIdentity} {itemId : UUID} {availableItems : Option Int}
  {isIncrementAction : Bool} {c : Ctx Database Write SessionData}

/-- The checks of the new quantity are the decision. -/
theorem run_newCartQuantity (cartQuantity : Int) (write : Int → App SessionData Unit) :
    (do
      raiseIf (¬ 0 < changedQuantity isIncrementAction cartQuantity) .cartItemQuantityInvalidError
      let limit ← liftExcept (quantityLimit availableItems)
      raiseIf (¬ changedQuantity isIncrementAction cartQuantity ≤ limit)
        .cartItemQuantityInvalidError
      write (changedQuantity isIncrementAction cartQuantity) : App SessionData Unit).run c =
    (do
      let newQuantity ← liftExcept (newCartQuantity availableItems isIncrementAction cartQuantity)
      write newQuantity : App SessionData Unit).run c := by
  unfold newCartQuantity
  -- check by check, in the order of the source
  by_cases hpos : 0 < changedQuantity isIncrementAction cartQuantity
  · rw [run_bind_ok (run_raiseIf_of_not (not_not.mpr hpos) _ _)]
    simp only [if_pos hpos]
    cases quantityLimit availableItems with
    | error e => rfl
    | ok limit =>
      show (do
        raiseIf (¬ changedQuantity isIncrementAction cartQuantity ≤ limit) _
        _ : App SessionData Unit).run c = _
      by_cases hle : changedQuantity isIncrementAction cartQuantity ≤ limit
      · rw [run_bind_ok (run_raiseIf_of_not (not_not.mpr hle) _ _)]
        simp only [bind, Except.bind, if_pos hle]
        rfl
      · rw [run_bind_error (run_raiseIf_of_pos hle _ _)]
        simp only [bind, Except.bind, if_neg hle]
        rfl
  · rw [run_bind_error (run_raiseIf_of_pos hpos _ _)]
    simp only [if_neg hpos]
    rfl

/-- **A change is a read, a decision and a write.** -/
theorem run_userServiceChangeCartItemQuantity {cart : Dict CartKey Int}
    (h_cart : c.env.cart = some cart) (h_rows : cart.rows = []) :
    (userServiceChangeCartItemQuantity (some user) itemId availableItems
      isIncrementAction).run c =
      (do
        let cartQuantity ← getCartItemQuantity itemId user.id
        let newQuantity ←
          liftExcept (newCartQuantity availableItems isIncrementAction cartQuantity)
        Session.execute postgres (.updateCartItemQuantity user.id itemId newQuantity) :
          App SessionData Unit).run c := by
  obtain ⟨committed, session, env⟩ := c
  obtain ⟨_, favorites, checkout⟩ := env
  cases h_cart
  -- a signed-in user has an empty session cart, so the branch of the database is taken
  show (do
    let cartQuantity ← getCartItemQuantity itemId user.id
    let newCartQuantity := changedQuantity isIncrementAction cartQuantity
    raiseIf (¬ 0 < newCartQuantity) .cartItemQuantityInvalidError
    let limit ← liftExcept (quantityLimit availableItems)
    raiseIf (¬ newCartQuantity ≤ limit) .cartItemQuantityInvalidError
    if cart.rows = [] then do
      let user ← liftExcept (attributeOf (some user))
      Session.execute postgres (.updateCartItemQuantity user.id itemId newCartQuantity)
    else
      modify fun c => { c with env := { c.env with
        cart := some (Dict.set cart (.uuid itemId) newCartQuantity) } } :
        App SessionData Unit).run _ = _
  simp only [if_pos h_rows]
  cases hread : (getCartItemQuantity itemId user.id : App SessionData Int).run
    ⟨committed, session, some cart, favorites, checkout⟩ with
  | error e c' => rw [run_bind_error hread, run_bind_error hread]
  | ok cartQuantity c' =>
    rw [run_bind_ok hread, run_bind_ok hread]
    exact run_newCartQuantity cartQuantity fun newQuantity =>
      Session.execute postgres (.updateCartItemQuantity user.id itemId newQuantity)

/-- **What a change accepts**: a positive quantity up to the larger of the two limits. -/
theorem newCartQuantity_eq_ok {cartQuantity n : Int} :
    newCartQuantity availableItems isIncrementAction cartQuantity = .ok n ↔
      n = changedQuantity isIncrementAction cartQuantity ∧ 0 < n ∧
        ∃ stock, availableItems = some stock ∧ n ≤ max stock MAX_CART_ITEM_QUANTITY := by
  unfold newCartQuantity
  by_cases hpos : 0 < changedQuantity isIncrementAction cartQuantity
  · simp only [if_pos hpos]
    cases availableItems with
    -- an unlimited item: `max(None, ...)` raises, so no quantity passes
    | none => exact iff_of_false nofun fun ⟨_, _, _, hstock, _⟩ => nomatch hstock
    | some stock =>
      show (if _ ≤ max stock MAX_CART_ITEM_QUANTITY then _ else _ : Except PyExc Int) = _ ↔ _
      by_cases hle : changedQuantity isIncrementAction cartQuantity ≤
          max stock MAX_CART_ITEM_QUANTITY
      · rw [if_pos hle]
        refine ⟨?_, ?_⟩
        · intro h
          cases h
          exact ⟨rfl, hpos, stock, rfl, hle⟩
        · rintro ⟨rfl, -⟩
          rfl
      · rw [if_neg hle]
        refine iff_of_false nofun ?_
        rintro ⟨rfl, -, stock', hstock, hle'⟩
        cases hstock
        exact hle hle'
  · simp only [if_neg hpos]
    refine iff_of_false nofun ?_
    rintro ⟨rfl, hpos', -⟩
    exact hpos hpos'

/-- What a change answers with its own error. -/
theorem newCartQuantity_eq_invalid {cartQuantity : Int} :
    newCartQuantity availableItems isIncrementAction cartQuantity =
        .error .cartItemQuantityInvalidError ↔
      changedQuantity isIncrementAction cartQuantity < 1 ∨ ∃ stock, availableItems = some stock ∧
        max stock MAX_CART_ITEM_QUANTITY < changedQuantity isIncrementAction cartQuantity := by
  unfold newCartQuantity
  by_cases hpos : 0 < changedQuantity isIncrementAction cartQuantity
  · simp only [if_pos hpos]
    cases availableItems with
    | none =>
      -- a positive quantity of an unlimited item is compared with nothing
      refine iff_of_false (fun h => absurd (Except.error.inj h) (by decide)) ?_
      rintro (hlt | ⟨_, hstock, -⟩)
      · omega
      · cases hstock
    | some stock =>
      show (if _ ≤ max stock MAX_CART_ITEM_QUANTITY then _ else _ : Except PyExc Int) = _ ↔ _
      by_cases hle : changedQuantity isIncrementAction cartQuantity ≤
          max stock MAX_CART_ITEM_QUANTITY
      · rw [if_pos hle]
        refine iff_of_false nofun ?_
        rintro (hlt | ⟨stock', hstock, hlt⟩)
        · omega
        · cases hstock
          exact absurd hle (not_le.mpr hlt)
      · rw [if_neg hle]
        exact iff_of_true rfl (.inr ⟨stock, rfl, not_le.mp hle⟩)
  · simp only [if_neg hpos]
    exact iff_of_true rfl (.inl (by omega))

end Change

/-! ### The row of a cart -/

/-- One row has another quantity, and nothing else has changed. -/
structure QuantityStored (db : Database) (row : CartItemORM) (n : Int) (db' : Database) :
    Prop where
  rows : db'.carts.table.rows =
    db.carts.table.rows.map fun r => if r.id = row.id then { r with quantity := n } else r
  others : db' = { db with carts := db'.carts }

section Row

variable {db db' : Database} {row : CartItemORM}

/-- There is one row for a user and an item. -/
theorem find?_cartRow (h : row ∈ db.carts.table.rows) {p : CartItemORM → Bool}
    (h_p : ∀ r, p r = true ↔ r.userId = row.userId ∧ r.itemId = row.itemId) :
    db.carts.table.rows.find? p = some row := by
  cases hfind : db.carts.table.rows.find? p with
  | none => exact absurd ((h_p row).mpr ⟨rfl, rfl⟩) (List.find?_eq_none.mp hfind row h)
  | some r =>
    obtain ⟨huser, hitem⟩ := (h_p r).mp (List.find?_some hfind)
    exact congrArg some
      (db.carts.unique_user_item r (List.mem_of_find?_eq_some hfind) row h huser hitem)

theorem run_getCartItemQuantity {c : Ctx Database Write σ} (hc : c.Clean)
    (h : row ∈ c.session.view.carts.table.rows) :
    (getCartItemQuantity row.itemId row.userId : App σ Int).run c = .ok row.quantity c := by
  have hfind := @find?_cartRow c.session.view row h
    (fun r => r.itemId = row.itemId && r.userId = row.userId) fun r => by
      rw [Bool.and_eq_true, decide_eq_true_iff, decide_eq_true_iff, and_comm]
  unfold getCartItemQuantity
  rw [run_bind_ok (Session.run_query_clean postgres c hc _), hfind]
  rfl

theorem run_getCartItemQuantity_absent {c : Ctx Database Write σ} (hc : c.Clean)
    {itemId userId : UUID} (h : ∀ row ∈ c.session.view.carts.table.rows,
      row.userId = userId → row.itemId ≠ itemId) :
    (getCartItemQuantity itemId userId : App σ Int).run c = .error .cartItemNotFoundError c := by
  have hfind : c.session.view.carts.table.rows.find? (fun row =>
      row.itemId = itemId && row.userId = userId) = none := by
    refine List.find?_eq_none.mpr fun row hrow hkeys => ?_
    rw [Bool.and_eq_true, decide_eq_true_iff, decide_eq_true_iff] at hkeys
    exact h row hrow hkeys.2 hkeys.1
  unfold getCartItemQuantity
  rw [run_bind_ok (Session.run_query_clean postgres c hc _), hfind]
  rfl

/-- A quantity is read from a row. -/
theorem getCartItemQuantity_eq_ok {c c' : Ctx Database Write σ} (hc : c.Clean)
    {itemId userId : UUID} {n : Int}
    (h : (getCartItemQuantity itemId userId : App σ Int).run c = .ok n c') :
    c' = c ∧ ∃ row ∈ c.session.view.carts.table.rows, row.userId = userId ∧
      row.itemId = itemId ∧ n = row.quantity := by
  unfold getCartItemQuantity at h
  rw [run_bind_ok (Session.run_query_clean postgres c hc _)] at h
  cases hfind : c.session.view.carts.table.rows.find? fun row =>
      row.itemId = itemId && row.userId = userId with
  | none =>
    rw [hfind] at h
    cases h
  | some row =>
    rw [hfind] at h
    cases h
    have hrow := List.find?_some hfind
    rw [Bool.and_eq_true, decide_eq_true_iff, decide_eq_true_iff] at hrow
    exact ⟨rfl, row, List.mem_of_find?_eq_some hfind, hrow.2, hrow.1, rfl⟩

/-- What a write of a positive quantity does. -/
theorem apply_updateCartItemQuantity (h : row ∈ db.carts.table.rows) {n : Int} (h_pos : 0 < n) :
    ∃ db', Write.apply (.updateCartItemQuantity row.userId row.itemId n) db = .ok db' ∧
      QuantityStored db row n db' := by
  have hfind := find?_cartRow (p := fun r => r.userId = row.userId && r.itemId = row.itemId) h
    fun r => by rw [Bool.and_eq_true, decide_eq_true_iff, decide_eq_true_iff]
  -- the CHECK constraint holds, since the quantity is positive
  have hset : ∃ carts, db.carts.setQuantity row.id n = some carts ∧
      carts.table.rows = db.carts.table.rows.map fun r =>
        if r.id = row.id then { r with quantity := n } else r := by
    unfold Carts.setQuantity
    rw [dif_pos fun _ _ _ => h_pos]
    exact ⟨_, rfl, rfl⟩
  obtain ⟨carts, hcarts, hrows⟩ := hset
  refine ⟨{ db with carts }, ?_, hrows, rfl⟩
  simp only [Write.apply]
  rw [hfind]
  simp only [hcarts]

theorem QuantityStored.mem_iff {n : Int} (h : QuantityStored db row n db') {r : CartItemORM} :
    r ∈ db'.carts.table.rows ↔ ∃ old ∈ db.carts.table.rows,
      r = if old.id = row.id then { old with quantity := n } else old := by
  rw [h.rows, List.mem_map]
  exact exists_congr fun old => and_congr_right fun _ => eq_comm

/-- The row is there with its new quantity. -/
theorem QuantityStored.mem {n : Int} (h : QuantityStored db row n db')
    (h_row : row ∈ db.carts.table.rows) : { row with quantity := n } ∈ db'.carts.table.rows :=
  h.mem_iff.mpr ⟨row, h_row, (if_pos rfl).symm⟩

end Row

/-! ### The two limits -/

/-- The quantities a checkout accepts. -/
def CheckoutAccepts (availableItems : Option Int) (n : Int) : Prop :=
  1 ≤ n ∧ n ≤ MAX_CART_ITEM_QUANTITY ∧ ∀ stock, availableItems = some stock → n ≤ stock

/-- The cart and the checkout agree on a quantity: it is not positive, or the stock is limited
and the quantity is within both limits or above both. -/
def LimitsAgree (availableItems : Option Int) (n : Int) : Prop :=
  n < 1 ∨ ∃ stock, availableItems = some stock ∧
    (n ≤ min stock MAX_CART_ITEM_QUANTITY ∨ max stock MAX_CART_ITEM_QUANTITY < n)

/-- A change of a row stores the new quantity if a checkout accepts it, and raises its error
and changes nothing otherwise. -/
structure ChangesAsDeclared (v : Visit) (user : Kratos.UserIdentity) (row : CartItemORM)
    (availableItems : Option Int) (isIncrementAction : Bool) : Prop where
  stores : CheckoutAccepts availableItems (changedQuantity isIncrementAction row.quantity) →
    ∃ db', QuantityStored v.db row (changedQuantity isIncrementAction row.quantity) db' ∧
      (userServiceChangeCartItemQuantity (some user) row.itemId availableItems
        isIncrementAction).run (v.ctx (some user)) =
          .ok () { v.ctx (some user) with session := ⟨db', [], false⟩ }
  raises : ¬ CheckoutAccepts availableItems (changedQuantity isIncrementAction row.quantity) →
    (userServiceChangeCartItemQuantity (some user) row.itemId availableItems
      isIncrementAction).run (v.ctx (some user)) =
        .error .cartItemQuantityInvalidError (v.ctx (some user))

section Limits

variable {v : Visit} {user : Kratos.UserIdentity} {row : CartItemORM}
  {availableItems : Option Int} {isIncrementAction : Bool}

/-- A change of a row does what it decides on. -/
theorem run_change_accepted (h : row ∈ v.db.carts.table.rows) (h_user : row.userId = user.id)
    {n : Int} (h_new : newCartQuantity availableItems isIncrementAction row.quantity = .ok n) :
    ∃ db', QuantityStored v.db row n db' ∧
      (userServiceChangeCartItemQuantity (some user) row.itemId availableItems
        isIncrementAction).run (v.ctx (some user)) =
          .ok () { v.ctx (some user) with session := ⟨db', [], false⟩ } := by
  have hclean := v.clean_ctx (some user)
  have hread := run_getCartItemQuantity hclean h
  obtain ⟨-, hpos, -⟩ := newCartQuantity_eq_ok.mp h_new
  obtain ⟨db', happly, hstored⟩ := apply_updateCartItemQuantity h hpos
  refine ⟨db', hstored, ?_⟩
  rw [run_userServiceChangeCartItemQuantity rfl rfl, ← h_user, run_bind_ok hread, h_new]
  exact (Session.execute_eq_ok postgres _ hclean).mpr ⟨db', happly, rfl⟩

theorem run_change_rejected (h : row ∈ v.db.carts.table.rows) (h_user : row.userId = user.id)
    {e : PyExc} (h_new : newCartQuantity availableItems isIncrementAction row.quantity = .error e) :
    (userServiceChangeCartItemQuantity (some user) row.itemId availableItems
      isIncrementAction).run (v.ctx (some user)) = .error e (v.ctx (some user)) := by
  have hread := run_getCartItemQuantity (v.clean_ctx (some user)) h
  rw [run_userServiceChangeCartItemQuantity rfl rfl, ← h_user, run_bind_ok hread, h_new]
  rfl

/-- **A change is as declared exactly where the limits agree.** -/
theorem changesAsDeclared_iff (h : row ∈ v.db.carts.table.rows) (h_user : row.userId = user.id) :
    ChangesAsDeclared v user row availableItems isIncrementAction ↔
      LimitsAgree availableItems (changedQuantity isIncrementAction row.quantity) := by
  set n := changedQuantity isIncrementAction row.quantity with hn
  refine ⟨fun hdeclared => ?_, fun hagree => ⟨fun haccepts => ?_, fun hnot => ?_⟩⟩
  · by_cases haccepts : CheckoutAccepts availableItems n
    -- what is stored has been compared with both limits
    · obtain ⟨db', -, hrun⟩ := hdeclared.stores haccepts
      cases hnew : newCartQuantity availableItems isIncrementAction row.quantity with
      | error e =>
        rw [run_change_rejected h h_user hnew] at hrun
        cases hrun
      | ok m =>
        obtain ⟨-, -, stock, hstock, -⟩ := newCartQuantity_eq_ok.mp hnew
        exact .inr ⟨stock, hstock, .inl (le_min (haccepts.2.2 stock hstock) haccepts.2.1)⟩
    · have hrun := hdeclared.raises haccepts
      cases hnew : newCartQuantity availableItems isIncrementAction row.quantity with
      | ok m =>
        obtain ⟨db', -, hok⟩ := run_change_accepted h h_user hnew
        rw [hok] at hrun
        cases hrun
      | error e =>
        rw [run_change_rejected h h_user hnew] at hrun
        cases hrun
        rcases newCartQuantity_eq_invalid.mp hnew with hlt | ⟨stock, hstock, hlt⟩
        · exact .inl hlt
        · exact .inr ⟨stock, hstock, .inr hlt⟩
  · -- where the limits agree, what the checkout takes is stored
    obtain ⟨hpos, hmax, hle⟩ := haccepts
    have hnew : newCartQuantity availableItems isIncrementAction row.quantity = .ok n := by
      refine newCartQuantity_eq_ok.mpr ⟨hn, by omega, ?_⟩
      rcases hagree with hlt | ⟨stock, hstock, -⟩
      · omega
      · exact ⟨stock, hstock, le_max_of_le_right hmax⟩
    exact run_change_accepted h h_user hnew
  · refine run_change_rejected h h_user (newCartQuantity_eq_invalid.mpr ?_)
    rcases hagree with hlt | ⟨stock, hstock, hle | hlt⟩
    · exact .inl hlt
    -- within both limits a checkout rejects only what is not positive
    · refine .inl (not_le.mp fun hpos => hnot ⟨hpos, hle.trans (min_le_right _ _), ?_⟩)
      rintro stock' hstock'
      rw [hstock] at hstock'
      cases hstock'
      exact hle.trans (min_le_left _ _)
    · exact .inr ⟨stock, hstock, hlt⟩

end Limits

/-! ### Changes one after the other -/

/-- A request in which the service is called with some stock of the item. -/
def serveChange (user : Kratos.UserIdentity) (itemId : UUID) (availableItems : Option Int)
    (isIncrementAction : Bool) (v : Visit) : Except PyExc Unit × Visit :=
  visit .patch
    (do
      let user ← getCurrentUser (.ok (some user))
      userServiceChangeCartItemQuantity user itemId availableItems isIncrementAction) v

/-- A change of the quantity of a stored item, by a user. -/
structure QuantityChange where
  user : Kratos.UserIdentity
  item : CatalogItemORM
  isIncrementAction : Bool

/-- One request: the service is called with the stock of the item. -/
def serveQuantityChange (change : QuantityChange) (v : Visit) : Except PyExc Unit × Visit :=
  visit .patch
    (do
      let user ← getCurrentUser (.ok (some change.user))
      userServiceChangeCartItemQuantity user change.item.id
        (v.db.catalog.available change.item) change.isIncrementAction) v

/-- A request with any cookie, and what it is answered. -/
def changeStep (db : Database) (a : QuantityChange × Except PyExc Unit) (db' : Database) : Prop :=
  a.1.item ∈ db.catalog.items.rows ∧
    ∃ session v', serveQuantityChange a.1 ⟨session, db⟩ = (a.2, v') ∧ v'.db = db'

/-- The condition on a change: the limits agree on the new quantity. -/
def MeetsLimits (db : Database) (a : QuantityChange × Except PyExc Unit) : Prop :=
  ∀ row ∈ db.carts.table.rows, row.userId = a.1.user.id → row.itemId = a.1.item.id →
    LimitsAgree (db.catalog.available a.1.item)
      (changedQuantity a.1.isIncrementAction row.quantity)

/-- No check of a checkout with this line adjusts it. -/
def NotAdjusted (P : Pydantic) (db : Database) (line : CatalogItemQuantity) : Prop :=
  ∀ (lines : List CatalogItemQuantity) (env : RequestState) (result : CheckoutData)
    (c : Ctx Database Write RequestState), line ∈ lines →
    (verifyCheckoutData P lines).run (Ctx.start db env) = .ok result c →
      line.id ∉ result.adjustedItems.map (·.id)

section Changes

variable {db db' : Database} {a : QuantityChange × Except PyExc Unit}

/-- **What a change does.** It raises and keeps the database, or stores what it decided on. -/
theorem serveChange_cases (user : Kratos.UserIdentity) (itemId : UUID)
    (availableItems : Option Int) (isIncrementAction : Bool) (v : Visit) :
    (∃ e session, serveChange user itemId availableItems isIncrementAction v =
      (.error e, ⟨session, v.db⟩)) ∨
    ∃ row ∈ v.db.carts.table.rows, row.userId = user.id ∧ row.itemId = itemId ∧
      ∃ n, newCartQuantity availableItems isIncrementAction row.quantity = .ok n ∧
        ∃ db' session, QuantityStored v.db row n db' ∧
          serveChange user itemId availableItems isIncrementAction v =
            (.ok (), ⟨session, db'⟩) := by
  have hbind : (do
      let user ← getCurrentUser (.ok (some user))
      userServiceChangeCartItemQuantity user itemId availableItems isIncrementAction).run
        (Ctx.start v.db (prepareSession v.session)) =
      (userServiceChangeCartItemQuantity (some user) itemId availableItems
        isIncrementAction).run (v.ctx (some user)) :=
    run_bind_ok (run_getCurrentUser (.ok (some user)) _)
  -- a change that raises keeps the database
  have herror : ∀ {e : PyExc}, (userServiceChangeCartItemQuantity (some user) itemId
      availableItems isIncrementAction).run (v.ctx (some user)) = .error e (v.ctx (some user)) →
      ∃ e session, serveChange user itemId availableItems isIncrementAction v =
        (.error e, ⟨session, v.db⟩) :=
    fun he => ⟨_, _, visit_error (hbind.trans he) (dumpSession_user user v)⟩
  by_cases hrow : ∃ row ∈ v.db.carts.table.rows, row.userId = user.id ∧ row.itemId = itemId
  · obtain ⟨row, hmem, huser, rfl⟩ := hrow
    cases hnew : newCartQuantity availableItems isIncrementAction row.quantity with
    | error e => exact .inl (herror (run_change_rejected hmem huser hnew))
    | ok n =>
      obtain ⟨db', hstored, hrun⟩ := run_change_accepted hmem huser hnew
      exact .inr ⟨row, hmem, huser, rfl, n, hnew, db', _, hstored,
        visit_commit (hbind.trans hrun) (dumpSession_user user v) Method.noConfusion rfl
          (postgres.applyAll_nil _)⟩
  · refine .inl (herror (e := .cartItemNotFoundError) ?_)
    have habsent : ∀ row ∈ v.db.carts.table.rows, row.userId = user.id → row.itemId ≠ itemId :=
      fun row hmem huser hitem => hrow ⟨row, hmem, huser, hitem⟩
    rw [run_userServiceChangeCartItemQuantity rfl rfl, run_bind_error
      (run_getCartItemQuantity_absent (v.clean_ctx (some user)) habsent)]

/-- **Inversion of a change.** It raises and keeps the database, or stores what it decided on. -/
theorem changeStep_cases (h : changeStep db a db') :
    (a.2 ≠ .ok () ∧ db' = db) ∨
      (a.2 = .ok () ∧ ∃ row ∈ db.carts.table.rows, row.userId = a.1.user.id ∧
        row.itemId = a.1.item.id ∧ ∃ n, newCartQuantity (db.catalog.available a.1.item)
          a.1.isIncrementAction row.quantity = .ok n ∧ QuantityStored db row n db') := by
  obtain ⟨-, session, v', hserve, rfl⟩ := h
  rcases serveChange_cases a.1.user a.1.item.id (db.catalog.available a.1.item)
    a.1.isIncrementAction ⟨session, db⟩ with
      ⟨e, session', hrun⟩ | ⟨row, hmem, huser, hitem, n, hnew, db', session', hstored, hrun⟩
  · obtain ⟨hanswer, hv⟩ := Prod.mk.inj (hrun.symm.trans hserve)
    rw [← hanswer, ← hv]
    exact .inl ⟨nofun, rfl⟩
  · obtain ⟨hanswer, hv⟩ := Prod.mk.inj (hrun.symm.trans hserve)
    rw [← hanswer, ← hv]
    exact .inr ⟨rfl, row, hmem, huser, hitem, n, hnew, hstored⟩

/-- Where the limits agree, a checkout accepts what a change decides on. -/
theorem accepts_of_agree {availableItems : Option Int} {isIncrementAction : Bool} {q n : Int}
    (h : newCartQuantity availableItems isIncrementAction q = .ok n)
    (h_agree : LimitsAgree availableItems (changedQuantity isIncrementAction q)) :
    CheckoutAccepts availableItems n := by
  obtain ⟨rfl, hpos, stock, rfl, hmax⟩ := newCartQuantity_eq_ok.mp h
  obtain hlt | ⟨stock', hstock, hle | hlt⟩ := h_agree
  · omega
  · cases hstock
    refine ⟨hpos, hle.trans (min_le_right _ _), fun n hn => ?_⟩
    cases hn
    exact hle.trans (min_le_left _ _)
  · cases hstock
    exact absurd hmax (not_le.mpr hlt)

/-- A line with a quantity that a checkout accepts is not adjusted. -/
theorem notAdjusted_of_accepts {P : Pydantic} {item : CatalogItemORM}
    (h_item : item ∈ db.catalog.items.rows) {n : Int}
    (h : CheckoutAccepts (db.catalog.available item) n) : NotAdjusted P db ⟨item.id, n⟩ := by
  intro lines env result c hline hrun hadjusted
  obtain ⟨hpart, -⟩ := partitioned_of_run hrun
  obtain ⟨s, hs, hid⟩ := List.mem_map.mp hadjusted
  obtain ⟨line, hline', hid', item', hitem', hid'', stock, hstock, hquantity, hlt⟩ :=
    hpart.adjusted s hs
  -- the adjusted line is this one, and its item the stored one
  obtain rfl : line = ⟨item.id, n⟩ :=
    List.inj_on_of_nodup_map hpart.known.distinct hline' hline (hid'.symm.trans hid)
  obtain rfl : item' = item := Table.eq_of_mem hitem' h_item hid''
  obtain ⟨-, hmax, hle⟩ := h
  exact absurd (le_min (hle stock hstock) hmax) (not_le.mpr (hquantity ▸ hlt))

/-- The row of an accepted change has a quantity that a checkout accepts. -/
def QuantityAccepted (db : Database) (change : QuantityChange) : Prop :=
  change.item ∈ db.catalog.items.rows ∧
    ∃ row ∈ db.carts.table.rows, row.userId = change.user.id ∧ row.itemId = change.item.id ∧
      CheckoutAccepts (db.catalog.available change.item) row.quantity

/-- A change that meets the condition leaves its row with a quantity that a checkout accepts,
if it is accepted, and keeps those of the others. -/
theorem accepted_step (h : guarded MeetsLimits changeStep db a db') {change : QuantityChange}
    (h_accepted : QuantityAccepted db change ∨ a = (change, .ok ())) :
    QuantityAccepted db' change := by
  obtain ⟨hmeets, hstep⟩ := h
  rcases changeStep_cases hstep with ⟨hraised, rfl⟩ | ⟨-, row, hrow, huser, hitem, n, hnew, hstored⟩
  · rcases h_accepted with hold | rfl
    · exact hold
    · exact absurd rfl hraised
  · have hcatalog : db'.catalog = db.catalog := by rw [hstored.others]
    have haccepts := accepts_of_agree hnew (hmeets row hrow huser hitem)
    unfold QuantityAccepted
    rw [hcatalog]
    rcases h_accepted with ⟨hmem, row', hrow', huser', hitem', haccepts'⟩ | rfl
    · by_cases hid : row'.id = row.id
      -- another change of the same row, so of the same item
      · obtain rfl : row' = row := Table.eq_of_mem hrow' hrow hid
        have hsame : a.1.item = change.item :=
          Table.eq_of_mem hstep.1 hmem (hitem.symm.trans hitem')
        rw [hsame] at haccepts
        exact ⟨hmem, _, hstored.mem hrow, huser', hitem', haccepts⟩
      · exact ⟨hmem, row', hstored.mem_iff.mpr ⟨row', hrow', (if_neg hid).symm⟩, huser', hitem',
          haccepts'⟩
    · exact ⟨hstep.1, _, hstored.mem hrow, huser, hitem, haccepts⟩

/-- **Accepted quantities stay acceptable**, in runs whose changes all meet the condition. -/
theorem accepted_run {as : List (QuantityChange × Except PyExc Unit)}
    (h : Run (guarded MeetsLimits changeStep) db as db') {change : QuantityChange}
    (h_mem : (change, .ok ()) ∈ as) : QuantityAccepted db' change := by
  have hall : ∀ change, (change, .ok ()) ∈ as → QuantityAccepted db' change := by
    refine h.history
      (I := fun as db => ∀ change, (change, .ok ()) ∈ as → QuantityAccepted db change)
      (fun _ hmem => absurd hmem List.not_mem_nil) ?_
    intro as db a db' hI hstep change hmem
    rcases List.mem_append.mp hmem with hold | hnew
    · exact accepted_step hstep (.inl (hI change hold))
    · exact accepted_step hstep (.inr (List.mem_singleton.mp hnew).symm)
  exact hall change h_mem

end Changes

/-- **When the cart accepts what checkout accepts.** A change of a row is as declared if and
only if the two limits agree on the new quantity. After changes that all meet this condition,
with the stock as it was, the quantity that was accepted last is not adjusted. -/
theorem cart_accepts_checkout_quantities_iff (P : Pydantic) :
    (∀ (v : Visit) (user : Kratos.UserIdentity) (row : CartItemORM)
      (availableItems : Option Int) (isIncrementAction : Bool),
      row ∈ v.db.carts.table.rows → row.userId = user.id →
        (ChangesAsDeclared v user row availableItems isIncrementAction ↔
          LimitsAgree availableItems (changedQuantity isIncrementAction row.quantity))) ∧
    ∀ (db db' : Database) (as : List (QuantityChange × Except PyExc Unit)),
      Run (guarded MeetsLimits changeStep) db as db' →
        ∀ change, (change, .ok ()) ∈ as → ∃ row ∈ db'.carts.table.rows,
          row.userId = change.user.id ∧ row.itemId = change.item.id ∧
            NotAdjusted P db' ⟨row.itemId, row.quantity⟩ := by
  refine ⟨?_, ?_⟩
  · intro v user row availableItems isIncrementAction hrow huser
    exact changesAsDeclared_iff hrow huser
  · intro db db' as hrun change hmem
    obtain ⟨hitem, row, hrow, huser, hid, haccepts⟩ := accepted_run hrun hmem
    refine ⟨row, hrow, huser, hid, ?_⟩
    rw [hid]
    exact notAdjusted_of_accepts hitem haccepts

/-- The user whose cart `cartDatabase` has. -/
def cartUser : Kratos.UserIdentity :=
  { sampleUser with schemaId := "", state := "", verified := true }

/-- One more piece, for that user. -/
def oneMore : QuantityChange := ⟨cartUser, { soldOutItem with quantity := some 3 }, true⟩

/-- A second piece of three is stored, and not adjusted by the check of a checkout. -/
theorem cart_accepts_second_piece :
    ChangesAsDeclared ⟨.empty, cartDatabase 1 (by decide)⟩ cartUser ⟨20, 5, 1, 1⟩ (some 3) true ∧
      ∃ db', Run (guarded MeetsLimits changeStep) (cartDatabase 1 (by decide))
          [(oneMore, .ok ())] db' ∧
        ∃ row ∈ db'.carts.table.rows, row.userId = oneMore.user.id ∧
          row.itemId = oneMore.item.id ∧ NotAdjusted .strict db' ⟨row.itemId, row.quantity⟩ := by
  have hmeets : MeetsLimits (cartDatabase 1 (by decide)) (oneMore, .ok ()) := by
    intro row hrow _ _
    obtain rfl := List.mem_singleton.mp hrow
    exact .inr ⟨3, rfl, .inl (by decide)⟩
  have hrun : Run (guarded MeetsLimits changeStep) (cartDatabase 1 (by decide))
      [(oneMore, .ok ())] _ :=
    (Run.nil _).snoc ⟨hmeets, List.mem_cons_self, SessionData.empty, _, rfl, rfl⟩
  have hclaim := cart_accepts_checkout_quantities_iff .strict
  refine ⟨?_, _, hrun, hclaim.2 _ _ _ hrun oneMore List.mem_cons_self⟩
  exact (hclaim.1 _ _ _ _ _ List.mem_cons_self rfl).mpr (.inr ⟨3, rfl, .inl (by decide)⟩)

/-- **A change stores four pieces of three**, which the check of a checkout adjusts to three
again, and it stores no second piece of an unlimited item. -/
theorem overstock_accepted :
    ¬ ChangesAsDeclared ⟨.empty, cartDatabase 3 (by decide)⟩ cartUser ⟨20, 5, 1, 3⟩ (some 3) true ∧
      (∃ db', Run changeStep (cartDatabase 3 (by decide)) [(oneMore, .ok ())] db' ∧
        db'.carts.table.rows = [⟨20, 5, 1, 4⟩] ∧ ¬ NotAdjusted .strict db' ⟨1, 4⟩) ∧
      ¬ ChangesAsDeclared ⟨.empty, cartDatabase 1 (by decide)⟩ cartUser ⟨20, 5, 1, 1⟩ none
        true := by
  refine ⟨?_, ?_, ?_⟩
  · intro h
    rcases (changesAsDeclared_iff List.mem_cons_self rfl).mp h with hlt | ⟨stock, hstock, hle | hlt⟩
    · exact absurd hlt (by decide)
    · cases hstock
      exact absurd hle (by decide)
    · cases hstock
      exact absurd hlt (by decide)
  · -- the fourth piece is stored, and the checkout adjusts it to three
    refine ⟨_, (Run.nil _).snoc ⟨List.mem_cons_self, SessionData.empty, _, rfl, rfl⟩, rfl, ?_⟩
    intro hnot
    exact hnot [⟨1, 4⟩] ⟨[], []⟩ ⟨[], [⟨1, 3⟩]⟩ _ List.mem_cons_self rfl List.mem_cons_self
  · intro h
    rcases (changesAsDeclared_iff List.mem_cons_self rfl).mp h with hlt | ⟨stock, hstock, -⟩
    · exact absurd hlt (by decide)
    · cases hstock

end Storefront
