import Storefront.Library.Simulation
import Storefront.Transport.Auth

/-!
# Carts

The cart handlers (`transport/handlers/client/user/entrypoints.py`) with the parts of
`UserService`, `UserRepository` and `CatalogRepository` they call. Every operation is there
twice: for a guest, whose cart is a dictionary in the session cookie, and for a user, whose
cart is rows of the database.

`serveCart` is one request, from the cookie and the database before it to those after it. Its
inversion, operation by operation and for both stores, is `serveCart_guest_*` and
`serveCart_user_*`: what is answered, and what the cart is afterwards. Two of these say that
an operation does not work at all:

* `run_getCatalogItemQuantity` — the stock of an item is asked for through a model whose other
  fields are required and not given, so that every change of a quantity raises;
* `run_removeItemsFromCart_guest` — a guest's cart has texts for keys, and the ids to remove
  are UUIDs, so that a removal of anything raises.
-/

namespace Storefront

variable {σ : Type}

/-! ### The models of `services/user/models.py` -/

structure CartItem where
  id : UUID
  quantity : Int
  deriving DecidableEq, Repr

structure UserItems where
  cart : List CartItem := []
  favorites : List UUID := []
  tracked : List UUID := []
  deriving DecidableEq, Repr

/-! ### The repositories -/

/-- The arguments of a `CatalogItemCheckoutDataDTO(…)`, those with no default as an `Option`
that says whether they are given. -/
structure CheckoutDataArgs where
  id : UUID
  total : Option Int
  ordered : Int
  price : Option Int := none
  preorderId : Option UUID := none
  title : Option String := none
  creditParts : Option (Option (List CreditPart)) := none

/-- `CatalogItemCheckoutDataDTO(…)` -/
def CheckoutDataArgs.make (args : CheckoutDataArgs) :
    Except PyExc CatalogItemCheckoutDataDTO := do
  let price ← required args.price
  let title ← required args.title
  let creditParts ← required args.creditParts
  return {
    id := args.id
    total := args.total
    ordered := args.ordered
    price
    preorderId := args.preorderId
    title
    creditParts }

/-- `CatalogRepository.get_catalog_item_quantity` -/
def getCatalogItemQuantity (itemId : UUID) : App σ CatalogItemCheckoutDataDTO := do
  let result ← Session.query postgres fun db => db.catalog.items.find? itemId
  match result with
  | none => throw .catalogItemNotFoundError
  | some item =>
    liftExcept (CheckoutDataArgs.make
      { id := itemId, total := item.quantity, ordered := item.orderedQuantity })

/-- `UserRepository.add_item_to_cart`, with the id drawn for the row. -/
def addItemToCart (drawn userId itemId : UUID) : App σ Unit :=
  Session.execute postgres (.insertCartItem { id := drawn, userId, itemId, quantity := 1 })

/-- `UserRepository.get_cart_item_quantity` -/
def getCartItemQuantity (itemId userId : UUID) : App σ Int := do
  let result ← Session.query postgres fun db =>
    db.carts.table.rows.find? fun row => row.itemId = itemId && row.userId = userId
  match result with
  | none => throw .cartItemNotFoundError
  | some row => return row.quantity

/-- `UserRepository.get_user_favorite_items` -/
def getUserFavoriteItems (userId : UUID) : App σ (List UserFavoritesORM) :=
  Session.query postgres fun db => db.favorites.rows.filter fun row => row.userId = userId

/-! ### The user service -/

/-- `UserService.get_user_items` -/
def userServiceGetUserItems (userId : UUID) : App σ UserItems := do
  let cartItems ← getUserCartItems userId
  let favorites ← getUserFavoriteItems userId
  return {
    cart := cartItems.map fun item => ⟨item.id, item.quantity⟩
    favorites := favorites.map (·.catalogItemId) }

/-- `max(available_items, MAX_CART_ITEM_QUANTITY)` -/
def quantityLimit : Option Int → Except PyExc Int
  | some available => .ok (max available MAX_CART_ITEM_QUANTITY)
  | none => .error .typeError

/-- `UserService.change_cart_item_quantity` -/
def userServiceChangeCartItemQuantity (user : Option Kratos.UserIdentity) (itemId : UUID)
    (availableItems : Option Int) (isIncrementAction : Bool) : App SessionData Unit := do
  let sessionCart := (← get).env.cart
  let cartQuantity ← match user with
    | some user => getCartItemQuantity itemId user.id
    | none => (fun cart => (Dict.get? cart (.uuid itemId)).getD 0) <$>
        liftExcept (attributeOf sessionCart)
  let newCartQuantity := if isIncrementAction then cartQuantity + 1 else cartQuantity - 1
  -- the limit is looked at for a positive quantity only
  raiseIf (¬ 0 < newCartQuantity) .cartItemQuantityInvalidError
  let limit ← liftExcept (quantityLimit availableItems)
  raiseIf (¬ newCartQuantity ≤ limit) .cartItemQuantityInvalidError
  match sessionCart with
  | some cart =>
    if cart.rows = [] then do
      let user ← liftExcept (attributeOf user)
      Session.execute postgres (.updateCartItemQuantity user.id itemId newCartQuantity)
    else
      modify fun c => { c with env := { c.env with
        cart := some (Dict.set cart (.uuid itemId) newCartQuantity) } }
  | none => do
    let user ← liftExcept (attributeOf user)
    Session.execute postgres (.updateCartItemQuantity user.id itemId newCartQuantity)

/-! ### The handlers -/

/-- `CartItem(id=item_id, …)` of an entry of the cart in the session. -/
def cartItemOf (p : CartKey × Int) : Except PyExc CartItem :=
  match p.1 with
  | .text s => (required (UUID.ofStr? s)).map fun id => ⟨id, p.2⟩
  | .uuid id => .ok ⟨id, p.2⟩

/-- `get_user_items` -/
def getUserItems : Option Kratos.UserIdentity → App SessionData UserItems
  | none => do
    let cart := (← get).env.cart
    let items ← liftExcept ((cart.elim [] (·.rows)).mapM cartItemOf)
    return { cart := items }
  | some user => userServiceGetUserItems user.id

/-- `cart.pop(item_id)`; without a cart there is nothing to pop from. -/
def popCartItem (itemId : UUID) : App SessionData Unit := do
  let cart := (← get).env.cart
  match cart with
  | some cart =>
    if .uuid itemId ∈ cart.keys then
      modify fun c => { c with env := { c.env with
        cart := some (cart.filter fun p => p.1 ≠ .uuid itemId) } }
    else throw .keyError
  | none => throw .keyError

/-- `remove_items_from_cart` -/
def removeItemsFromCartEntrypoint (itemIds : List UUID) :
    Option Kratos.UserIdentity → App SessionData Unit
  | none => forM itemIds popCartItem
  | some user => removeItemsFromCart user.id itemIds

/-- `add_item_to_cart` -/
def addItemToCartEntrypoint (drawn itemId : UUID) :
    Option Kratos.UserIdentity → App SessionData Unit
  | none => do
    let cart ← liftExcept (attributeOf (← get).env.cart)
    modify fun c =>
      { c with env := { c.env with cart := some (Dict.set cart (.text itemId.str) 1) } }
  | some user => addItemToCart drawn user.id itemId

/-- `change_cart_item_quantity` -/
def changeCartItemQuantity (itemId : UUID) (isIncrementAction : Bool)
    (user : Option Kratos.UserIdentity) : App SessionData Unit := do
  let catalogItemQuantity ← getCatalogItemQuantity itemId
  userServiceChangeCartItemQuantity user itemId catalogItemQuantity.available isIncrementAction

/-- A request about the cart. The id that is drawn for the row of an added item comes with it;
there is no such row for a guest. -/
inductive CartRequest
  | items
  | add (itemId drawn : UUID)
  | change (itemId : UUID) (isIncrementAction : Bool)
  | remove (itemIds : List UUID)
  deriving DecidableEq, Repr

def CartRequest.method : CartRequest → Method
  | .items => .get
  | .add _ _ => .post
  | .change _ _ => .patch
  | .remove _ => .delete

/-- The handler of a request, which answers with the items of the user or with nothing. -/
def cartEndpoint (user : Option Kratos.UserIdentity) :
    CartRequest → App SessionData (Option UserItems)
  | .items => some <$> getUserItems user
  | .add itemId drawn => (fun _ => none) <$> addItemToCartEntrypoint drawn itemId user
  | .change itemId isIncrementAction =>
    (fun _ => none) <$> changeCartItemQuantity itemId isIncrementAction user
  | .remove itemIds => (fun _ => none) <$> removeItemsFromCartEntrypoint itemIds user

/-! ### A request -/

/-- The cookie of a client, and the database. -/
structure Visit where
  session : SessionData
  db : Database

/-- What a handler answered or raised. -/
def answerOf {α S : Type} : EStateM.Result PyExc S α → Except PyExc α
  | .ok a _ => .ok a
  | .error e _ => .error e

/-- One request: the session is loaded from the cookie, prepared, and dumped with the response
after the transaction of the request. A session that cannot be dumped leaves the cookie as it
was. -/
def visit {α : Type} (method : Method) (handler : App SessionData α) (v : Visit) :
    Except PyExc α × Visit :=
  let result := (initCtxDbSession postgres none method handler).run
    (Ctx.start v.db (prepareSession v.session))
  match dumpSession (endState result).env with
  | .ok session => (answerOf result, ⟨session, (endState result).committed⟩)
  | .error e => (.error e, ⟨v.session, (endState result).committed⟩)

/-- A request about the cart, made by a guest or by a user. -/
def serveCart (identity : Option Kratos.UserIdentity) (v : Visit) (r : CartRequest) :
    Except PyExc (Option UserItems) × Visit :=
  visit r.method
    (do
      let user ← getCurrentUser (.ok identity)
      cartEndpoint user r) v

section Visit

variable {α : Type} {method : Method} {handler : App SessionData α} {v : Visit}
  {c : Ctx Database Write SessionData} {a : α}

/-- A GET that is answered keeps the database. -/
theorem visit_get (h : handler.run (Ctx.start v.db (prepareSession v.session)) = .ok a c)
    (h_dump : dumpSession c.env = .ok c.env) (h_method : method = .get) :
    visit method handler v = (.ok a, ⟨c.env, c.committed⟩) := by
  have hrun : (initCtxDbSession postgres none method handler).run
      (Ctx.start v.db (prepareSession v.session)) = .ok a c.closed := by
    rw [run_initCtxDbSession, h, h_method]
    rfl
  unfold visit
  simp only [hrun, endState_ok, env_closed, h_dump]
  rfl

/-- Any other request that is answered commits what the handler has written. -/
theorem visit_commit (h : handler.run (Ctx.start v.db (prepareSession v.session)) = .ok a c)
    (h_dump : dumpSession c.env = .ok c.env) (h_method : method ≠ .get)
    (h_broken : c.session.broken = false) {db : Database}
    (h_apply : postgres.applyAll c.session.pending c.session.view = .ok db) :
    visit method handler v = (.ok a, ⟨c.env, db⟩) := by
  have hrun := run_initCtxDbSession_ok h h_method h_broken h_apply
  unfold visit
  simp only [hrun, endState_ok]
  rw [show (Ctx.start db c.env : Ctx Database Write SessionData).env = c.env from rfl, h_dump]
  rfl

/-- A request that raises keeps the database. -/
theorem visit_error {e : PyExc}
    (h : handler.run (Ctx.start v.db (prepareSession v.session)) = .error e c)
    (h_dump : dumpSession c.env = .ok c.env) :
    visit method handler v = (.error e, ⟨c.env, c.committed⟩) := by
  have hrun : (initCtxDbSession postgres none method handler).run
      (Ctx.start v.db (prepareSession v.session)) = .error e c.closed :=
    run_initCtxDbSession_error h
  unfold visit
  simp only [hrun, endState_error, env_closed, h_dump]
  rfl

end Visit

/-- Where the handler of a request starts: a user has no cart in the session. -/
def Visit.ctx (v : Visit) : Option Kratos.UserIdentity → Ctx Database Write SessionData
  | none => .start v.db (prepareSession v.session)
  | some _ => .start v.db { prepareSession v.session with cart := some .empty }

theorem Visit.clean_ctx (v : Visit) (identity : Option Kratos.UserIdentity) :
    (v.ctx identity).Clean := by
  cases identity <;> exact Ctx.clean_start _ _

/-- The handler of a request, after `get_current_user`. -/
theorem run_cartRequest (identity : Option Kratos.UserIdentity) (v : Visit) (r : CartRequest) :
    (do
      let user ← getCurrentUser (.ok identity)
      cartEndpoint user r).run (Ctx.start v.db (prepareSession v.session)) =
        (cartEndpoint identity r).run (v.ctx identity) := by
  cases identity with
  | none => exact run_bind_ok (run_getCurrentUser (.ok none) _)
  | some user => exact run_bind_ok (run_getCurrentUser (.ok (some user)) _)

section ServeCart

variable {identity : Option Kratos.UserIdentity} {v : Visit} {r : CartRequest}
  {c : Ctx Database Write SessionData} {answer : Option UserItems}

theorem serveCart_get (h : (cartEndpoint identity .items).run (v.ctx identity) = .ok answer c)
    (h_dump : dumpSession c.env = .ok c.env) :
    serveCart identity v .items = (.ok answer, ⟨c.env, c.committed⟩) :=
  visit_get ((run_cartRequest identity v _).trans h) h_dump rfl

theorem serveCart_commit (h : (cartEndpoint identity r).run (v.ctx identity) = .ok answer c)
    (h_dump : dumpSession c.env = .ok c.env) (h_method : r.method ≠ .get) (h_clean : c.Clean) :
    serveCart identity v r = (.ok answer, ⟨c.env, c.session.view⟩) := by
  refine visit_commit ((run_cartRequest identity v _).trans h) h_dump h_method h_clean.2 ?_
  rw [h_clean.1]
  exact postgres.applyAll_nil _

theorem serveCart_error {e : PyExc}
    (h : (cartEndpoint identity r).run (v.ctx identity) = .error e c)
    (h_dump : dumpSession c.env = .ok c.env) :
    serveCart identity v r = (.error e, ⟨c.env, c.committed⟩) :=
  visit_error ((run_cartRequest identity v _).trans h) h_dump

end ServeCart

/-! ### Changes of a quantity -/

/-- **The quantity of an item cannot be asked for**: the answer is a model whose price is
required and not given. -/
theorem run_getCatalogItemQuantity (itemId : UUID) {c : Ctx Database Write σ} (hc : c.Clean) :
    ∃ e, (getCatalogItemQuantity itemId : App σ _).run c = .error e c := by
  unfold getCatalogItemQuantity
  rw [run_bind_ok (Session.run_query_clean postgres c hc _)]
  cases c.session.view.catalog.items.find? itemId with
  | none => exact ⟨_, rfl⟩
  | some item => exact ⟨_, rfl⟩

/-- So every change of a quantity raises, for guests and for users. -/
theorem run_changeCartItemQuantity (itemId : UUID) (isIncrementAction : Bool)
    (user : Option Kratos.UserIdentity) {c : Ctx Database Write SessionData} (hc : c.Clean) :
    ∃ e, (changeCartItemQuantity itemId isIncrementAction user).run c = .error e c := by
  obtain ⟨e, he⟩ := run_getCatalogItemQuantity itemId hc
  exact ⟨e, run_bind_error he⟩

/-! ### The cart of a guest -/

/-- The cart in the session has one of each of the items, in this order. -/
def GuestCart (items : List UUID) (session : SessionData) : Prop :=
  ∃ cart, (prepareSession session).cart = some cart ∧
    cart.rows = items.map fun id => (.text id.str, 1)

/-- The items with one more at the end, if it is not among them. -/
def addItem (items : List UUID) (id : UUID) : List UUID :=
  if id ∈ items then items else items ++ [id]

/-- A session with a cart is prepared. -/
theorem prepareSession_of_cart {session : SessionData} {cart : Dict CartKey Int}
    (h : session.cart = some cart) : prepareSession session = session := by
  unfold prepareSession
  rw [if_neg]
  rintro ⟨hnone, -⟩
  rw [h] at hnone
  cases hnone

/-- A cart with texts for keys can be dumped. -/
theorem dumpSession_of_rows {session : SessionData} {cart : Dict CartKey Int} {items : List UUID}
    (h : session.cart = some cart) (h_rows : cart.rows = items.map fun id => (.text id.str, 1)) :
    dumpSession session = .ok session := by
  have htexts : cart.keys.all CartKey.isText = true := by
    unfold Table.keys
    rw [h_rows, List.map_map, List.all_map]
    exact List.all_eq_true.mpr fun _ _ => rfl
  unfold dumpSession
  rw [h, Option.all_some, if_pos htexts]

/-- Setting the piece of an item adds a key exactly when the item is a new one. -/
theorem rows_set_addItem {cart : Dict CartKey Int} {items : List UUID}
    (h : cart.rows = items.map fun id => (.text id.str, 1)) (id : UUID) :
    (Dict.set cart (.text id.str) 1).rows =
      (addItem items id).map fun id => (.text id.str, 1) := by
  unfold addItem
  by_cases hmem : id ∈ items
  · rw [if_pos hmem, Dict.set_of_mem, h]
    rw [h]
    exact List.mem_map_of_mem hmem
  · have hnew : CartKey.text id.str ∉ cart.keys := by
      rw [Table.mem_keys, h]
      rintro ⟨p, hp, hkey⟩
      obtain ⟨id', hid', rfl⟩ := List.mem_map.mp hp
      exact hmem (UUID.str_injective (CartKey.text.inj hkey) ▸ hid')
    rw [if_neg hmem, Dict.rows_set_of_notMem hnew, h, List.map_append]
    rfl

section Guest

variable {v : Visit} {items : List UUID}

theorem GuestCart.prepared {session : SessionData} (h : GuestCart items session) :
    GuestCart items (prepareSession session) := by
  obtain ⟨cart, hcart, hrows⟩ := h
  exact ⟨cart, (prepareSession_of_cart hcart).symm ▸ hcart, hrows⟩

theorem GuestCart.dump (h : GuestCart items v.session) :
    dumpSession (prepareSession v.session) = .ok (prepareSession v.session) := by
  obtain ⟨cart, hcart, hrows⟩ := h
  exact dumpSession_of_rows hcart hrows

theorem serveCart_guest_items (h : GuestCart items v.session) :
    serveCart none v .items =
      (.ok (some { cart := items.map fun id => ⟨id, 1⟩ }), ⟨prepareSession v.session, v.db⟩) := by
  have hdump := h.dump
  obtain ⟨cart, hcart, hrows⟩ := h
  -- the texts are read back as the ids they were made from
  have hitems : ∀ ids : List UUID, (ids.map fun id => (CartKey.text id.str, (1 : Int))).mapM
      cartItemOf = .ok (ids.map fun id => ⟨id, 1⟩) := by
    intro ids
    induction ids with
    | nil => rfl
    | cons id ids ih =>
      have hid : cartItemOf (.text id.str, 1) = .ok ⟨id, 1⟩ := by
        unfold cartItemOf
        simp only [UUID.ofStr?_str]
        rfl
      rw [List.map_cons, List.mapM_cons, hid, ih]
      rfl
  have hrun : (cartEndpoint none .items).run (v.ctx none) =
      .ok (some { cart := items.map fun id => ⟨id, 1⟩ }) (v.ctx none) := by
    show (some <$> (do
      let items ← liftExcept (((prepareSession v.session).cart.elim [] (·.rows)).mapM cartItemOf)
      return ({ cart := items } : UserItems)) : App SessionData (Option UserItems)).run _ = _
    rw [hcart, Option.elim_some, hrows, hitems]
    rfl
  exact serveCart_get hrun hdump

theorem serveCart_guest_add (h : GuestCart items v.session) (id drawn : UUID) :
    ∃ session, serveCart none v (.add id drawn) = (.ok none, ⟨session, v.db⟩) ∧
      GuestCart (addItem items id) session := by
  obtain ⟨cart, hcart, hrows⟩ := h
  have hrun : (cartEndpoint none (.add id drawn)).run (v.ctx none) =
      .ok none { v.ctx none with
        env :=
          { prepareSession v.session with cart := some (Dict.set cart (.text id.str) 1) } } := by
    show ((fun _ => none) <$> (do
      let cart ← liftExcept (attributeOf (prepareSession v.session).cart)
      modify fun c => { c with env := { c.env with
        cart := some (Dict.set cart (.text id.str) 1) } }) :
          App SessionData (Option UserItems)).run _ = _
    rw [hcart]
    rfl
  -- the same item again keeps its place and its quantity
  have hset := rows_set_addItem hrows id
  have hcookie : ({ prepareSession v.session with
      cart := some (Dict.set cart (.text id.str) 1) } : SessionData).cart =
        some (Dict.set cart (.text id.str) 1) := rfl
  refine ⟨_, serveCart_commit hrun (dumpSession_of_rows hcookie hset) Method.noConfusion
    ⟨rfl, rfl⟩, _, ?_, hset⟩
  rw [prepareSession_of_cart hcookie]

theorem serveCart_guest_change (h : GuestCart items v.session) (id : UUID)
    (isIncrementAction : Bool) :
    ∃ e, serveCart none v (.change id isIncrementAction) =
      (.error e, ⟨prepareSession v.session, v.db⟩) := by
  obtain ⟨e, he⟩ := run_changeCartItemQuantity id isIncrementAction none (v.clean_ctx none)
  have hrun : (cartEndpoint none (.change id isIncrementAction)).run (v.ctx none) =
      .error e (v.ctx none) := run_map_error (fun _ => none) he
  exact ⟨e, serveCart_error hrun h.dump⟩

/-- **A guest cannot remove anything.** -/
theorem run_removeItemsFromCart_guest (h : GuestCart items v.session) (ids : List UUID) :
    (removeItemsFromCartEntrypoint ids none).run (v.ctx none) =
      if ids = [] then .ok () (v.ctx none) else .error .keyError (v.ctx none) := by
  obtain ⟨cart, hcart, hrows⟩ := h
  cases ids with
  -- nothing to pop, so nothing to miss
  | nil => rfl
  | cons id ids =>
    -- no key is a UUID
    have hpop : (popCartItem id).run (v.ctx none) = .error .keyError (v.ctx none) := by
      show (match (prepareSession v.session).cart with
        | some cart =>
          if .uuid id ∈ cart.keys then
            modify fun c => { c with env := { c.env with
              cart := some (cart.filter fun p => p.1 ≠ .uuid id) } }
          else throw .keyError
        | none => throw .keyError : App SessionData Unit).run _ = _
      rw [hcart]
      have hno : CartKey.uuid id ∉ cart.keys := by
        rw [Table.mem_keys, hrows]
        rintro ⟨p, hp, hkey⟩
        obtain ⟨id', -, rfl⟩ := List.mem_map.mp hp
        cases hkey
      simp only [if_neg hno]
      rfl
    rw [if_neg (List.cons_ne_nil id ids)]
    show (forM (id :: ids) popCartItem : App SessionData Unit).run _ = _
    rw [List.forM_cons]
    exact run_bind_error hpop

theorem serveCart_guest_remove (h : GuestCart items v.session) (ids : List UUID) :
    serveCart none v (.remove ids) =
      (if ids = [] then .ok none else .error .keyError, ⟨prepareSession v.session, v.db⟩) := by
  have hremove := run_removeItemsFromCart_guest h ids
  by_cases hids : ids = []
  · rw [if_pos hids] at hremove ⊢
    have hrun : (cartEndpoint none (.remove ids)).run (v.ctx none) =
        .ok none (v.ctx none) := run_map_ok (fun _ => none) hremove
    exact serveCart_commit hrun h.dump Method.noConfusion (v.clean_ctx none)
  · rw [if_neg hids] at hremove ⊢
    have hrun : (cartEndpoint none (.remove ids)).run (v.ctx none) =
        .error .keyError (v.ctx none) := run_map_error (fun _ => none) hremove
    exact serveCart_error hrun h.dump

end Guest

/-! ### The cart of a user -/

/-- The rows of the user are one of each of the items, each with the id that was drawn for it,
in this order. -/
def UserCart (userId : UUID) (cart : List (UUID × UUID)) (db : Database) : Prop :=
  (db.carts.table.rows.filter fun row => row.userId = userId) =
    cart.map fun p => ⟨p.2, userId, p.1, 1⟩

/-- The cart with a row for one more item, if there is none. -/
def addRow (cart : List (UUID × UUID)) (id drawn : UUID) : List (UUID × UUID) :=
  if id ∈ cart.map Prod.fst then cart else cart ++ [(id, drawn)]

/-- What an insertion into the cart does. -/
theorem apply_insertCartItem {db : Database} {row : CartItemORM}
    (h_item : row.itemId ∈ db.catalog.items.keys) (h_pos : 0 < row.quantity) :
    ∃ db', Write.apply (.insertCartItem row) db = .ok db' ∧ db'.catalog = db.catalog ∧
      db'.carts.table.rows =
        if db.carts.Conflict row then db.carts.table.rows else db.carts.table.rows ++ [row] := by
  by_cases hconflict : db.carts.Conflict row
  · rw [if_pos hconflict]
    exact ⟨db, dif_pos hconflict, rfl, rfl⟩
  · rw [if_neg hconflict]
    refine ⟨{ db with carts := db.carts.insert row hconflict h_pos }, ?_, rfl, rfl⟩
    show (if h : db.carts.Conflict row then _ else _ : Except PyExc Database) = _
    rw [dif_neg hconflict, dif_pos h_pos, if_pos h_item]

/-- A row with an id of its own conflicts exactly when the user has one for the item. -/
theorem UserCart.conflict_iff {userId : UUID} {cart : List (UUID × UUID)} {db : Database}
    (h : UserCart userId cart db) {drawn : UUID} (h_fresh : drawn ∉ db.carts.table.keys)
    (id : UUID) : db.carts.Conflict ⟨drawn, userId, id, 1⟩ ↔ id ∈ cart.map Prod.fst := by
  have hin : ∀ row, (row ∈ db.carts.table.rows ∧ row.userId = userId) ↔
      ∃ p ∈ cart, (⟨p.2, userId, p.1, 1⟩ : CartItemORM) = row := by
    intro row
    rw [← List.mem_map, ← h, List.mem_filter, decide_eq_true_iff]
  refine ⟨?_, ?_⟩
  · rintro ⟨row, hrow, hid | ⟨huser, hid⟩⟩
    · -- the drawn id is new, so only the item can conflict
      exact absurd (Table.mem_keys.mpr ⟨row, hrow, hid⟩) h_fresh
    · obtain ⟨p, hp, rfl⟩ := (hin row).mp ⟨hrow, huser⟩
      exact List.mem_map.mpr ⟨p, hp, hid⟩
  · intro hmem
    obtain ⟨p, hp, hid⟩ := List.mem_map.mp hmem
    obtain ⟨hrow, huser⟩ := (hin _).mpr ⟨p, hp, rfl⟩
    exact ⟨_, hrow, .inr ⟨huser, hid⟩⟩

section User

variable {user : Kratos.UserIdentity} {v : Visit} {cart : List (UUID × UUID)}

/-- The session of a user can always be dumped. -/
theorem dumpSession_user (user : Kratos.UserIdentity) (v : Visit) :
    dumpSession (v.ctx (some user)).env = .ok (v.ctx (some user)).env := rfl

/-- **A request of a user that is one statement** commits it, or raises what it raises and keeps
the database. -/
theorem visit_statement {α : Type} {method : Method} {handler : App SessionData α} {w : Write}
    {a : α} (h : handler.run (Ctx.start v.db (prepareSession v.session)) =
      ((fun _ => a) <$> Session.execute postgres w : App SessionData α).run (v.ctx (some user)))
    (h_method : method ≠ .get) :
    ∃ session, visit method handler v = match w.apply v.db with
      | .ok db => (.ok a, ⟨session, db⟩)
      | .error e => (.error e, ⟨session, v.db⟩) := by
  have hclean := v.clean_ctx (some user)
  cases happly : w.apply v.db with
  | ok db =>
    have hexecute := (Session.execute_eq_ok postgres _ hclean).mpr ⟨db, happly, rfl⟩
    have hrun := h.trans (run_map_ok (fun _ => a) hexecute)
    exact ⟨_, visit_commit hrun (dumpSession_user user v) h_method rfl (postgres.applyAll_nil db)⟩
  | error e =>
    obtain ⟨session, hexecute⟩ := Session.run_execute_error postgres _ hclean happly
    have hrun := h.trans (run_map_error (fun _ => a) hexecute)
    exact ⟨_, visit_error hrun (dumpSession_user user v)⟩

theorem serveCart_statement {r : CartRequest} {w : Write}
    (h : cartEndpoint (some user) r = (fun _ => none) <$> Session.execute postgres w)
    (h_method : r.method ≠ .get) :
    ∃ session, serveCart (some user) v r = match w.apply v.db with
      | .ok db => (.ok none, ⟨session, db⟩)
      | .error e => (.error e, ⟨session, v.db⟩) :=
  visit_statement (h ▸ run_cartRequest (some user) v r) h_method

/-- **What a user is shown.** -/
theorem serveCart_items (user : Kratos.UserIdentity) (v : Visit) :
    ∃ session, serveCart (some user) v .items = (.ok (some {
      cart := (v.db.carts.table.rows.filter fun row => row.userId = user.id).map fun row =>
        ⟨row.id, row.quantity⟩
      favorites := (v.db.favorites.rows.filter fun row => row.userId = user.id).map
        (·.catalogItemId) }), ⟨session, v.db⟩) := by
  have hclean := v.clean_ctx (some user)
  have hitems : (userServiceGetUserItems user.id).run (v.ctx (some user)) =
      .ok {
        cart := (v.db.carts.table.rows.filter fun row => row.userId = user.id).map fun row =>
          ⟨row.id, row.quantity⟩
        favorites := (v.db.favorites.rows.filter fun row => row.userId = user.id).map
          (·.catalogItemId) } (v.ctx (some user)) := by
    unfold userServiceGetUserItems getUserCartItems getUserFavoriteItems
    rw [run_bind_ok (Session.run_query_clean postgres _ hclean _),
      run_bind_ok (Session.run_query_clean postgres _ hclean _)]
    rfl
  have hrun : (cartEndpoint (some user) .items).run (v.ctx (some user)) = .ok (some _)
      (v.ctx (some user)) := run_map_ok some hitems
  exact ⟨_, serveCart_get hrun (dumpSession_user user v)⟩

theorem serveCart_user_items (h : UserCart user.id cart v.db) :
    ∃ favorites session, serveCart (some user) v .items =
      (.ok (some { cart := cart.map fun p => ⟨p.2, 1⟩, favorites }), ⟨session, v.db⟩) := by
  obtain ⟨session, hserve⟩ := serveCart_items user v
  rw [show (v.db.carts.table.rows.filter fun row => row.userId = user.id) = _ from h,
    List.map_map] at hserve
  exact ⟨_, session, hserve⟩

theorem serveCart_user_add (h : UserCart user.id cart v.db) {id drawn : UUID}
    (h_item : id ∈ v.db.catalog.items.keys) (h_fresh : drawn ∉ v.db.carts.table.keys) :
    ∃ v', serveCart (some user) v (.add id drawn) = (.ok none, v') ∧
      v'.db.catalog = v.db.catalog ∧ UserCart user.id (addRow cart id drawn) v'.db ∧
      v'.db.carts.table.keys ⊆ v.db.carts.table.keys ++ [drawn] := by
  obtain ⟨db', happly, hcatalog, hrows⟩ :=
    @apply_insertCartItem v.db ⟨drawn, user.id, id, 1⟩ h_item one_pos
  obtain ⟨session, hserve⟩ := @serveCart_statement user v (.add id drawn) _ rfl Method.noConfusion
  rw [happly] at hserve
  have hconflict := h.conflict_iff h_fresh id
  refine ⟨_, hserve, hcatalog, ?_, ?_⟩
  · show (db'.carts.table.rows.filter fun row => row.userId = user.id) = _
    unfold addRow
    rw [hrows]
    -- on conflict nothing is done, otherwise the row comes last
    by_cases hmem : id ∈ cart.map Prod.fst
    · rw [if_pos (hconflict.mpr hmem), if_pos hmem]
      exact h
    · rw [if_neg fun hc => hmem (hconflict.mp hc), if_neg hmem, List.filter_append, h,
        List.map_append]
      simp
  · show db'.carts.table.rows.map _ ⊆ _
    rw [hrows]
    split
    · exact List.subset_append_left _ _
    · rw [List.map_append]
      exact List.Subset.refl _

theorem serveCart_user_change (user : Kratos.UserIdentity) (v : Visit) (id : UUID)
    (isIncrementAction : Bool) :
    ∃ e v', serveCart (some user) v (.change id isIncrementAction) = (.error e, v') ∧
      v'.db = v.db := by
  obtain ⟨e, he⟩ :=
    run_changeCartItemQuantity id isIncrementAction (some user) (v.clean_ctx (some user))
  have hrun : (cartEndpoint (some user) (.change id isIncrementAction)).run
      (v.ctx (some user)) = .error e (v.ctx (some user)) := run_map_error (fun _ => none) he
  exact ⟨e, _, serveCart_error hrun (dumpSession_user user v), rfl⟩

theorem serveCart_user_remove (user : Kratos.UserIdentity) (v : Visit) (ids : List UUID) :
    ∃ v', serveCart (some user) v (.remove ids) = (.ok none, v') ∧
      v'.db = { v.db with carts := v.db.carts.deleteItems user.id ids } := by
  obtain ⟨session, hserve⟩ := @serveCart_statement user v (.remove ids) _ rfl Method.noConfusion
  exact ⟨_, hserve, rfl⟩

/-- A removal of nothing removes nothing. -/
theorem deleteItems_nil (carts : Carts) (userId : UUID) :
    (carts.deleteItems userId []).table = carts.table := by
  refine Table.ext (List.filter_eq_self.mpr fun row _ => ?_)
  simp

end User

end Storefront
