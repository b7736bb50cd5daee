import Storefront.User.CartQuantity

/-!
# The ids of a stored cart

A row of a cart has a primary key of its own beside the id of the item. The operations on a
cart take the id of the item, and `UserService.get_user_items` shows the key of the row.

`CartEffect` is what an operation of a user does to the rows, case by case; all that follows
goes by its cases.

* `cart_ids_shown_iff` — along a run of operations of any users, a user is always shown the
  items of their cart if and only if every row that is added for them gets the id of its item;
* `row_ids_shown` — with any other id they are shown what they cannot remove.
-/

namespace Storefront

/-! ### What is shown -/

/-- The rows of a user. -/
def userRows (db : Database) (userId : UUID) : List CartItemORM :=
  db.carts.table.rows.filter fun row => row.userId = userId

/-- There is one entry for each item of the cart, with its id and the stored quantity, and
removing what is listed empties this cart and no other. -/
structure ShowsItems (db : Database) (user : Kratos.UserIdentity) (items : UserItems) :
    Prop where
  once : (items.cart.map (·.id)).Nodup
  entries : items.cart.Perm ((userRows db user.id).map fun row => ⟨row.itemId, row.quantity⟩)
  removal : ∀ session, ∃ v, serveCart (some user) ⟨session, db⟩
      (.remove (items.cart.map (·.id))) = (.ok none, v) ∧
    userRows v.db user.id = [] ∧
    ∀ other, other ≠ user.id → userRows v.db other = userRows db other

/-- The user is shown the items of the cart, whatever cookie comes with the request. -/
def CartShown (user : Kratos.UserIdentity) (db : Database) : Prop :=
  ∀ session, ∃ items v, serveCart (some user) ⟨session, db⟩ .items = (.ok (some items), v) ∧
    ShowsItems db user items

/-- The rows of a user have the ids of their items. -/
def OwnIds (userId : UUID) (db : Database) : Prop :=
  ∀ row ∈ db.carts.table.rows, row.userId = userId → row.id = row.itemId

section Shown

variable {db : Database} {user : Kratos.UserIdentity}

theorem mem_userRows {userId : UUID} {row : CartItemORM} :
    row ∈ userRows db userId ↔ row ∈ db.carts.table.rows ∧ row.userId = userId := by
  unfold userRows
  rw [List.mem_filter, decide_eq_true_iff]

/-- A user has one row for an item. -/
theorem nodup_itemId_userRows (db : Database) (userId : UUID) :
    ((userRows db userId).map (·.itemId)).Nodup := by
  have hrows : (userRows db userId).Nodup :=
    (List.Nodup.of_map _ db.carts.table.nodup).filter _
  refine hrows.map_on ?_
  intro row hrow row' hrow' heq
  obtain ⟨hmem, huser⟩ := mem_userRows.mp hrow
  obtain ⟨hmem', huser'⟩ := mem_userRows.mp hrow'
  exact db.carts.unique_user_item row hmem row' hmem' (huser.trans huser'.symm) heq

/-- The rows of a user after a removal by someone. -/
theorem userRows_deleteItems {db' : Database} {remover : UUID} {ids : List UUID}
    (h : db'.carts = db.carts.deleteItems remover ids) (userId : UUID) :
    userRows db' userId =
      (userRows db userId).filter fun row => !(row.userId = remover && row.itemId ∈ ids) := by
  unfold userRows
  rw [h]
  exact List.filter_comm _ _ _

/-- **A user whose rows have the ids of their items is shown these.** -/
theorem cartShown_of_ownIds (h : OwnIds user.id db) : CartShown user db := by
  intro session
  obtain ⟨session', hserve⟩ := serveCart_items user ⟨session, db⟩
  refine ⟨_, _, hserve, ?_⟩
  -- row id and item id are the same, so either may be shown
  have hentries : (userRows db user.id).map (fun row => (⟨row.id, row.quantity⟩ : CartItem)) =
      (userRows db user.id).map fun row => ⟨row.itemId, row.quantity⟩ := by
    refine List.map_congr_left ?_
    intro row hrow
    obtain ⟨hmem, huser⟩ := mem_userRows.mp hrow
    rw [h row hmem huser]
  have hids : ((userRows db user.id).map fun row => (⟨row.id, row.quantity⟩ : CartItem)).map
      (·.id) = (userRows db user.id).map (·.itemId) := by
    rw [hentries, List.map_map]
    rfl
  refine ⟨?_, hentries ▸ .refl _, fun session => ?_⟩
  · exact hids ▸ nodup_itemId_userRows db user.id
  · obtain ⟨v, hremove, hdb⟩ := serveCart_user_remove user ⟨session, db⟩
      ((userRows db user.id).map (·.itemId))
    have hcarts : v.db.carts =
        db.carts.deleteItems user.id ((userRows db user.id).map (·.itemId)) := by rw [hdb]
    refine ⟨v, hids ▸ hremove, ?_, fun other hother => ?_⟩
    -- every row of the user is of an item that is listed
    · rw [userRows_deleteItems hcarts]
      refine List.filter_eq_nil_iff.mpr ?_
      intro row hrow
      have hitem : row.itemId ∈ (userRows db user.id).map (·.itemId) := List.mem_map_of_mem hrow
      simp [(mem_userRows.mp hrow).2, hitem]
    · rw [userRows_deleteItems hcarts]
      refine List.filter_eq_self.mpr ?_
      intro row hrow
      have hne : row.userId ≠ user.id := fun heq => hother ((mem_userRows.mp hrow).2 ▸ heq)
      simp [hne]

/-- What is shown are the ids of the rows. -/
theorem perm_of_cartShown (h : CartShown user db) :
    ((userRows db user.id).map fun row => (row.id, row.quantity)).Perm
      ((userRows db user.id).map fun row => (row.itemId, row.quantity)) := by
  obtain ⟨items, v, hserve, hshows⟩ := h .empty
  obtain ⟨session, hitems⟩ := serveCart_items user ⟨.empty, db⟩
  have hsame := congrArg Prod.fst (hitems.symm.trans hserve)
  obtain rfl := Option.some.inj (Except.ok.inj hsame)
  have hperm := hshows.entries.map fun item : CartItem => (item.id, item.quantity)
  rw [List.map_map, List.map_map] at hperm
  exact hperm

end Shown

/-! ### The operations -/

/-- An operation on a cart: an item that is added, with the id drawn for its row, items that
are removed, or a change of a quantity, with the stock that the service is called with. -/
inductive CartOperation
  | add (itemId drawn : UUID)
  | remove (itemIds : List UUID)
  | change (itemId : UUID) (availableItems : Option Int) (isIncrementAction : Bool)
  deriving DecidableEq, Repr

/-- The database after an operation of a user. -/
def applyOperation (user : Kratos.UserIdentity) (v : Visit) : CartOperation → Database
  | .add itemId drawn => (serveCart (some user) v (.add itemId drawn)).2.db
  | .remove itemIds => (serveCart (some user) v (.remove itemIds)).2.db
  | .change itemId availableItems isIncrementAction =>
    (serveChange user itemId availableItems isIncrementAction v).2.db

/-- An operation of some user, with any cookie. -/
def operationStep (db : Database) (a : Kratos.UserIdentity × CartOperation) (db' : Database) :
    Prop :=
  ∃ session, db' = applyOperation a.1 ⟨session, db⟩ a.2

/-- Adding the item inserts a row. -/
def InsertsItem (db : Database) (userId itemId drawn : UUID) : Prop :=
  ¬ db.carts.Conflict ⟨drawn, userId, itemId, 1⟩ ∧ itemId ∈ db.catalog.items.keys

/-- The rows after an operation of a user. -/
inductive CartEffect (db : Database) (userId : UUID) : CartOperation → List CartItemORM → Prop
  | refused (itemId drawn : UUID) (h : ¬ InsertsItem db userId itemId drawn) :
      CartEffect db userId (.add itemId drawn) db.carts.table.rows
  | added (itemId drawn : UUID) (h : InsertsItem db userId itemId drawn) :
      CartEffect db userId (.add itemId drawn)
        (db.carts.table.rows ++ [⟨drawn, userId, itemId, 1⟩])
  | removed (itemIds : List UUID) :
      CartEffect db userId (.remove itemIds)
        (db.carts.table.rows.filter fun row => !(row.userId = userId && row.itemId ∈ itemIds))
  | kept (itemId : UUID) (availableItems : Option Int) (isIncrementAction : Bool) :
      CartEffect db userId (.change itemId availableItems isIncrementAction) db.carts.table.rows
  | changed (itemId : UUID) (availableItems : Option Int) (isIncrementAction : Bool)
      (row : CartItemORM) (n : Int) :
      CartEffect db userId (.change itemId availableItems isIncrementAction)
        (db.carts.table.rows.map fun r => if r.id = row.id then { r with quantity := n } else r)

section Operations

variable {db db' : Database} {user : Kratos.UserIdentity}

/-- **What an operation does to the rows.** -/
theorem operation_effect (user : Kratos.UserIdentity) (v : Visit) (op : CartOperation) :
    CartEffect v.db user.id op (applyOperation user v op).carts.table.rows := by
  cases op with
  | add itemId drawn =>
    obtain ⟨session, hserve⟩ :=
      @serveCart_statement user v (.add itemId drawn) _ rfl Method.noConfusion
    unfold applyOperation
    simp only [hserve]
    by_cases hconflict : v.db.carts.Conflict ⟨drawn, user.id, itemId, 1⟩
    · -- on conflict nothing is done
      have happly : Write.apply (.insertCartItem ⟨drawn, user.id, itemId, 1⟩) v.db = .ok v.db :=
        dif_pos hconflict
      rw [happly]
      exact .refused _ _ fun hinserts => hinserts.1 hconflict
    · by_cases hitem : itemId ∈ v.db.catalog.items.keys
      · obtain ⟨db', happly, -, hrows⟩ :=
          @apply_insertCartItem v.db ⟨drawn, user.id, itemId, 1⟩ hitem one_pos
        rw [happly]
        simp only [hrows, if_neg hconflict]
        exact .added _ _ ⟨hconflict, hitem⟩
      · -- the item does not exist, so the foreign key refuses the row
        have happly : Write.apply (.insertCartItem ⟨drawn, user.id, itemId, 1⟩) v.db =
            .error (.integrityError PyExc.foreignKeyViolation) := by
          simp only [Write.apply]
          rw [dif_neg hconflict, dif_pos one_pos, if_neg hitem]
        rw [happly]
        exact .refused _ _ fun hinserts => hitem hinserts.2
  -- the other operations do what their statements say, or raise
  | remove itemIds =>
    obtain ⟨v', hserve, hdb⟩ := serveCart_user_remove user v itemIds
    unfold applyOperation
    simp only [hserve, hdb]
    exact .removed itemIds
  | change itemId availableItems isIncrementAction =>
    unfold applyOperation
    rcases serveChange_cases user itemId availableItems isIncrementAction v with
      ⟨e, session, hserve⟩ | ⟨row, -, -, -, n, -, db', session, hstored, hserve⟩
    · simp only [hserve]
      exact .kept _ _ _
    · simp only [hserve, hstored.rows]
      exact .changed _ _ _ row n

/-- A row that is inserted for the user gets the id of its item. -/
def DrawsItemId (userId : UUID) (db : Database) (a : Kratos.UserIdentity × CartOperation) :
    Prop :=
  ∀ itemId drawn, a.1.id = userId → a.2 = .add itemId drawn →
    InsertsItem db userId itemId drawn → drawn = itemId

/-- An operation that draws no other id keeps the ids of the user's rows. -/
theorem ownIds_step {userId : UUID} (h : OwnIds userId db)
    {a : Kratos.UserIdentity × CartOperation} (h_step : operationStep db a db')
    (h_draws : DrawsItemId userId db a) : OwnIds userId db' := by
  obtain ⟨session, rfl⟩ := h_step
  obtain ⟨other, op⟩ := a
  have heffect := operation_effect other ⟨session, db⟩ op
  unfold OwnIds
  intro row hrow huser
  generalize (applyOperation other ⟨session, db⟩ op).carts.table.rows = rows at heffect hrow
  cases heffect with
  | refused | kept => exact h row hrow huser
  | added itemId drawn hinserts =>
    rcases List.mem_append.mp hrow with hold | hnew
    · exact h row hold huser
    · obtain rfl := List.mem_singleton.mp hnew
      -- the new row has the id that was drawn, which is that of its item
      exact h_draws itemId drawn huser rfl (huser ▸ hinserts)
  | removed itemIds => exact h row (List.mem_filter.mp hrow).1 huser
  | changed itemId availableItems isIncrementAction changed n =>
    obtain ⟨old, hold, rfl⟩ := List.mem_map.mp hrow
    -- a changed row keeps its id and its item
    by_cases hid : old.id = changed.id
    · rw [if_pos hid] at huser ⊢
      exact h old hold huser
    · rw [if_neg hid] at huser ⊢
      exact h old hold huser

/-- A user who is shown the items of the cart after an operation has had no other id drawn. -/
theorem drawsItemId_of_cartShown (h : OwnIds user.id db)
    {a : Kratos.UserIdentity × CartOperation} (h_step : operationStep db a db')
    (h_shown : CartShown user db') : DrawsItemId user.id db a := by
  intro itemId drawn huser hadd hinserts
  obtain ⟨other, op⟩ := a
  obtain rfl : op = .add itemId drawn := hadd
  obtain ⟨session, rfl⟩ := h_step
  have heffect := operation_effect other ⟨session, db⟩ (.add itemId drawn)
  have hperm := perm_of_cartShown h_shown
  have hrows : (applyOperation other ⟨session, db⟩ (.add itemId drawn)).carts.table.rows =
      db.carts.table.rows ++ [⟨drawn, user.id, itemId, 1⟩] := by
    rw [show other.id = user.id from huser] at heffect
    generalize (applyOperation other ⟨session, db⟩ (.add itemId drawn)).carts.table.rows = rows
      at heffect ⊢
    cases heffect with
    | refused _ _ hnot => exact absurd hinserts hnot
    | added => rfl
  have huserRows : userRows (applyOperation other ⟨session, db⟩ (.add itemId drawn)) user.id =
      userRows db user.id ++ [⟨drawn, user.id, itemId, 1⟩] := by
    unfold userRows
    rw [hrows, List.filter_append]
    simp
  -- the rows that were there are shown right, so the new one has to be
  have hsame : (userRows db user.id).map (fun row => (row.id, row.quantity)) =
      (userRows db user.id).map fun row => (row.itemId, row.quantity) := by
    refine List.map_congr_left ?_
    intro row hrow
    obtain ⟨hmem, huser⟩ := mem_userRows.mp hrow
    rw [h row hmem huser]
  rw [huserRows, List.map_append, List.map_append, hsame, List.perm_append_left_iff] at hperm
  exact congrArg Prod.fst (List.singleton_perm_singleton.mp hperm)

end Operations

/-- **When the ids that are shown are those of the items.** A user whose rows have the ids of
their items is shown the items of the cart, and goes on being shown them after every operation
of a run if and only if every row that is inserted for them in it gets the id of its item. -/
theorem cart_ids_shown_iff (user : Kratos.UserIdentity) (db : Database)
    (h : OwnIds user.id db) :
    CartShown user db ∧
      ∀ (as : List (Kratos.UserIdentity × CartOperation)) (db' : Database),
        Run (fun db a db' => operationStep db a db' ∧ CartShown user db') db as db' ↔
          Run (guarded (DrawsItemId user.id) operationStep) db as db' := by
  refine ⟨cartShown_of_ownIds h, fun as db' => ?_⟩
  -- under the invariant a step shows the cart right iff it draws the id of the item
  have hiff : ∀ db a db', OwnIds user.id db →
      ((operationStep db a db' ∧ CartShown user db') ↔
        guarded (DrawsItemId user.id) operationStep db a db') := by
    intro db a db' hown
    refine ⟨?_, ?_⟩
    · rintro ⟨hstep, hshown⟩
      exact ⟨drawsItemId_of_cartShown hown hstep hshown, hstep⟩
    · rintro ⟨hdraws, hstep⟩
      exact ⟨hstep, cartShown_of_ownIds (ownIds_step hown hstep hdraws)⟩
  refine Run.congr_of_invariant h hiff ?_
  intro db a db' hown hstep
  exact ownIds_step hown hstep.1 ((hiff _ _ _ hown).mp hstep).1

/-- One piece that is stored under the id of its item is shown. -/
theorem cart_ids_shown_same :
    ∃ db', db'.carts.table.rows = [⟨1, 5, 1, 1⟩] ∧ CartShown cartUser sampleDatabase ∧
      Run (fun db a db' => operationStep db a db' ∧ CartShown cartUser db') sampleDatabase
        [(cartUser, .add 1 1)] db' := by
  have hown : OwnIds cartUser.id sampleDatabase := fun row hrow => absurd hrow List.not_mem_nil
  have hdraws : DrawsItemId cartUser.id sampleDatabase (cartUser, .add 1 1) := by
    intro itemId drawn _ hadd _
    cases hadd
    rfl
  have hrun : Run (guarded (DrawsItemId cartUser.id) operationStep) sampleDatabase
      [(cartUser, .add 1 1)] _ := (Run.nil _).snoc ⟨hdraws, .empty, rfl⟩
  have hclaim := cart_ids_shown_iff cartUser sampleDatabase hown
  exact ⟨_, rfl, hclaim.1, (hclaim.2 _ _).mpr hrun⟩

/-- **The id of the row is shown**, and what is shown cannot be removed. -/
theorem row_ids_shown :
    ∃ db', Run operationStep sampleDatabase [(cartUser, .add 1 21)] db' ∧
      ¬ CartShown cartUser db' ∧
      (serveCart (some cartUser) ⟨.empty, db'⟩ .items).1 =
        .ok (some { cart := [⟨21, 1⟩], favorites := [] }) ∧
      (serveCart (some cartUser) ⟨.empty, db'⟩ (.remove [21])).2.db.carts.table.rows =
        [⟨21, 5, 1, 1⟩] := by
  refine ⟨_, (Run.nil _).snoc ⟨.empty, rfl⟩, fun hshown => ?_, rfl, rfl⟩
  have hperm := perm_of_cartShown hshown
  exact absurd (congrArg Prod.fst (List.singleton_perm_singleton.mp hperm)) (by decide)

end Storefront
