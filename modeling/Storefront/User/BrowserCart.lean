import Storefront.User.GuestCart

/-!
# Carts across logins

People shop from any number of browsers, each with its own session cookie, as guests and as
users, and log in and out as they like. A request of a user empties the cart in the cookie of its
browser (`get_current_user`), and nothing moves a guest's cart into the database.

`SiteCarts` is what the carts are then: each browser has the items that were added there by a
guest since a user was last there, and each user has a cart of their own, wherever they are.

* `represents_step` — a request does to the cookies and the database what it does to the carts, and
  is answered from them;
* `carts_across_logins` — so do the requests of every run.
-/

namespace Storefront

variable {Browser : Type} [DecidableEq Browser]

/-! ### Requests from browsers -/

/-- The cookies of the browsers, and the database. -/
structure CartSite (Browser : Type) where
  sessions : Browser → SessionData
  db : Database

/-- A request about the cart: the browser it comes from, who is logged in there, and how it is
answered. -/
structure BrowserRequest (Browser : Type) where
  browser : Browser
  identity : Option Kratos.UserIdentity
  request : CartRequest
  answer : Except PyExc (Option UserItems)

/-- The step relation of the requests. -/
def siteStep (site : CartSite Browser) (r : BrowserRequest Browser)
    (site' : CartSite Browser) : Prop :=
  let served := serveCart r.identity ⟨site.sessions r.browser, site.db⟩ r.request
  r.answer = served.1 ∧
    site' = ⟨Function.update site.sessions r.browser served.2.session, served.2.db⟩

/-- The id that is drawn for a row of the cart is not in use. -/
def DrawsNew (site : CartSite Browser) (r : BrowserRequest Browser) : Prop :=
  ∀ drawn ∈ r.request.drawn?, drawn ∉ site.db.carts.table.keys

/-! ### Carts -/

/-- The carts: the items of the guest in each browser, and of each user, with the ids of their
rows. -/
structure SiteCarts (Browser : Type) where
  guest : Browser → List UUID
  user : UUID → List (UUID × UUID)

/-- A guest's cart after a request. -/
def nextGuestItems (items : List UUID) : CartRequest → List UUID
  | .add id _ => addItem items id
  | _ => items

/-- A user's cart after a request. What is added must be in the catalog. -/
def nextUserCart (catalog : Catalog) (cart : List (UUID × UUID)) :
    CartRequest → List (UUID × UUID)
  | .add id drawn => if id ∈ catalog.items.keys then addRow cart id drawn else cart
  | .remove ids => cart.filter fun p => p.1 ∉ ids
  | _ => cart

namespace SiteCarts

/-- The carts after a request. A user leaves no guest's cart in the browser. -/
def next (catalog : Catalog) (carts : SiteCarts Browser) (r : BrowserRequest Browser) :
    SiteCarts Browser :=
  match r.identity with
  | none =>
    { carts with
      guest := Function.update carts.guest r.browser
        (nextGuestItems (carts.guest r.browser) r.request) }
  | some user =>
    { guest := Function.update carts.guest r.browser []
      user := Function.update carts.user user.id
        (nextUserCart catalog (carts.user user.id) r.request) }

/-- How a guest with these items is answered. -/
def GuestAnswer (items : List UUID) (answer : Except PyExc (Option UserItems)) :
    CartRequest → Prop
  | .items => answer = .ok (some { cart := items.map fun id => ⟨id, 1⟩ })
  | .add _ _ => answer = .ok none
  | .change _ _ => ∃ e, answer = .error e
  | .remove ids => answer = if ids = [] then .ok none else .error .keyError

/-- How a user with this cart is answered. -/
def UserAnswer (catalog : Catalog) (cart : List (UUID × UUID))
    (answer : Except PyExc (Option UserItems)) : CartRequest → Prop
  | .items => ∃ favorites, answer = .ok (some { cart := cart.map fun p => ⟨p.2, 1⟩, favorites })
  | .add id _ =>
    if id ∈ cart.map Prod.fst ∨ id ∈ catalog.items.keys then answer = .ok none
    else ∃ e, answer = .error e
  | .change _ _ => ∃ e, answer = .error e
  | .remove _ => answer = .ok none

/-- A request is answered from the carts. -/
def Answers (catalog : Catalog) (carts : SiteCarts Browser) (r : BrowserRequest Browser) : Prop :=
  match r.identity with
  | none => GuestAnswer (carts.guest r.browser) r.answer r.request
  | some user => UserAnswer catalog (carts.user user.id) r.answer r.request

end SiteCarts

theorem SiteCarts.userAnswer_add {catalog : Catalog} {cart : List (UUID × UUID)} {id : UUID}
    (h : id ∈ cart.map Prod.fst ∨ id ∈ catalog.items.keys) (drawn : UUID) :
    UserAnswer catalog cart (.ok none) (.add id drawn) := by
  show if _ then _ else _
  rw [if_pos h]

theorem SiteCarts.userAnswer_add_error {catalog : Catalog} {cart : List (UUID × UUID)} {id : UUID}
    (h : ¬ (id ∈ cart.map Prod.fst ∨ id ∈ catalog.items.keys)) (drawn : UUID) (e : PyExc) :
    UserAnswer catalog cart (.error e) (.add id drawn) := by
  show if _ then _ else _
  rw [if_neg h]
  exact ⟨e, rfl⟩

/-- The cookies and the database represent the carts. -/
structure Represents (catalog : Catalog) (carts : SiteCarts Browser) (site : CartSite Browser) :
    Prop where
  guest : ∀ browser, GuestCart (carts.guest browser) (site.sessions browser)
  user : ∀ userId, UserCart userId (carts.user userId) site.db
  catalog_eq : site.db.catalog = catalog

/-! ### One request -/

section User

variable {user : Kratos.UserIdentity} {v : Visit} {cart : List (UUID × UUID)}

/-- The handler of a user leaves the session alone. -/
theorem env_cartEndpoint_user (user : Kratos.UserIdentity) (v : Visit) (r : CartRequest) :
    (endState ((cartEndpoint (some user) r).run (v.ctx (some user)))).env =
      (v.ctx (some user)).env := by
  have hclean := v.clean_ctx (some user)
  -- a statement goes to the database; the session data is not written
  have hexecute : ∀ w : Write, (endState (((fun _ => none) <$> Session.execute postgres w :
      App SessionData (Option UserItems)).run (v.ctx (some user)))).env =
        (v.ctx (some user)).env := by
    intro w
    rw [map_eq_pure_bind, frame_bind Ctx.env fun _ _ => rfl]
    exact Session.env_execute postgres _ w
  cases r with
  -- the listing only reads
  | items =>
    have hitems : ∃ items, (userServiceGetUserItems user.id).run (v.ctx (some user)) =
        .ok items (v.ctx (some user)) := by
      unfold userServiceGetUserItems getUserCartItems getUserFavoriteItems
      rw [run_bind_ok (Session.run_query_clean postgres _ hclean _),
        run_bind_ok (Session.run_query_clean postgres _ hclean _)]
      exact ⟨_, rfl⟩
    obtain ⟨items, hrun⟩ := hitems
    have hendpoint : (cartEndpoint (some user) .items).run (v.ctx (some user)) =
        .ok (some items) (v.ctx (some user)) := run_map_ok some hrun
    rw [hendpoint]
    rfl
  | add id drawn => exact hexecute _
  | change id isIncrementAction =>
    obtain ⟨e, he⟩ := run_changeCartItemQuantity id isIncrementAction (some user) hclean
    have hrun : (cartEndpoint (some user) (.change id isIncrementAction)).run
        (v.ctx (some user)) = .error e (v.ctx (some user)) := run_map_error (fun _ => none) he
    rw [hrun]
    rfl
  | remove ids => exact hexecute _

/-- **A user leaves an empty cart in the cookie.** -/
theorem guestCart_serveCart_user (user : Kratos.UserIdentity) (v : Visit) (r : CartRequest) :
    GuestCart [] (serveCart (some user) v r).2.session := by
  have henv : (endState ((initCtxDbSession postgres none r.method (do
      let user ← getCurrentUser (.ok (some user))
      cartEndpoint user r)).run (Ctx.start v.db (prepareSession v.session)))).env =
        (v.ctx (some user)).env := by
    rw [env_initCtxDbSession, run_cartRequest]
    exact env_cartEndpoint_user user v r
  have hsession : (serveCart (some user) v r).2.session = (v.ctx (some user)).env := by
    unfold serveCart visit
    simp only [henv, dumpSession_user]
  rw [hsession]
  exact ⟨.empty, by rw [prepareSession_of_cart (show _ = some .empty from rfl)]; rfl, rfl⟩

/-- What a request of a user does to the carts of all users. -/
structure UserServed (catalog : Catalog) (carts : UUID → List (UUID × UUID))
    (user : Kratos.UserIdentity) (r : CartRequest)
    (served : Except PyExc (Option UserItems) × Visit) : Prop where
  answer : SiteCarts.UserAnswer catalog (carts user.id) served.1 r
  catalog_eq : served.2.db.catalog = catalog
  users : ∀ userId, UserCart userId
    (Function.update carts user.id (nextUserCart catalog (carts user.id) r) userId) served.2.db

/-- A request that keeps the database keeps the carts. -/
theorem users_of_kept {carts : UUID → List (UUID × UUID)} {db db' : Database}
    (h : ∀ userId, UserCart userId (carts userId) db) (h_db : db' = db) {cart : List (UUID × UUID)}
    (h_cart : cart = carts user.id) (userId : UUID) :
    UserCart userId (Function.update carts user.id cart userId) db' := by
  rw [h_db, h_cart, Function.update_eq_self]
  exact h userId

variable {carts : UUID → List (UUID × UUID)}

/-- **An addition of a user.** -/
theorem userServed_add (h : ∀ userId, UserCart userId (carts userId) v.db) {id drawn : UUID}
    (h_fresh : drawn ∉ v.db.carts.table.keys) :
    UserServed v.db.catalog carts user (.add id drawn)
      (serveCart (some user) v (.add id drawn)) := by
  obtain ⟨session, hserve⟩ := @serveCart_statement user v (.add id drawn) _ rfl Method.noConfusion
  have hconflict := (h user.id).conflict_iff h_fresh id
  rw [hserve]
  by_cases hmem : id ∈ (carts user.id).map Prod.fst
  · -- there is a row for the item
    have happly : Write.apply (.insertCartItem ⟨drawn, user.id, id, 1⟩) v.db = .ok v.db :=
      dif_pos (hconflict.mpr hmem)
    have hsame : nextUserCart v.db.catalog (carts user.id) (.add id drawn) = carts user.id := by
      unfold nextUserCart addRow
      simp only [if_pos hmem, ite_self]
    rw [happly]
    exact ⟨SiteCarts.userAnswer_add (.inl hmem) drawn, rfl, users_of_kept h rfl hsame⟩
  · have hno : ¬ v.db.carts.Conflict ⟨drawn, user.id, id, 1⟩ := fun hc => hmem (hconflict.mp hc)
    by_cases hitem : id ∈ v.db.catalog.items.keys
    · -- a new row, which only the cart of this user shows
      obtain ⟨db', happly, hcatalog, hrows⟩ :=
        @apply_insertCartItem v.db ⟨drawn, user.id, id, 1⟩ hitem one_pos
      rw [if_neg hno] at hrows
      rw [happly]
      have hnext : nextUserCart v.db.catalog (carts user.id) (.add id drawn) =
          carts user.id ++ [(id, drawn)] :=
        (if_pos hitem).trans (if_neg hmem)
      refine ⟨SiteCarts.userAnswer_add (.inr hitem) drawn, hcatalog, ?_⟩
      intro userId
      show (db'.carts.table.rows.filter fun row => row.userId = userId) = _
      rw [hnext, hrows, List.filter_append, h userId]
      by_cases huser : userId = user.id
      · subst huser
        rw [Function.update_self, List.map_append]
        simp
      · rw [Function.update_of_ne huser]
        simp [Ne.symm huser]
    · -- the foreign key of the row does not resolve
      have happly : Write.apply (.insertCartItem ⟨drawn, user.id, id, 1⟩) v.db =
          .error (.integrityError PyExc.foreignKeyViolation) := by
        show (if h : v.db.carts.Conflict _ then _ else _ : Except PyExc Database) = _
        rw [dif_neg hno, dif_pos one_pos, if_neg hitem]
      have hsame : nextUserCart v.db.catalog (carts user.id) (.add id drawn) = carts user.id :=
        if_neg hitem
      rw [happly]
      exact ⟨SiteCarts.userAnswer_add_error (not_or.mpr ⟨hmem, hitem⟩) drawn _, rfl,
        users_of_kept h rfl hsame⟩

/-- **A removal of a user.** -/
theorem userServed_remove (h : ∀ userId, UserCart userId (carts userId) v.db) (ids : List UUID) :
    UserServed v.db.catalog carts user (.remove ids) (serveCart (some user) v (.remove ids)) := by
  obtain ⟨v', hserve, hdb⟩ := serveCart_user_remove user v ids
  rw [hserve]
  refine ⟨rfl, by rw [hdb], fun userId => ?_⟩
  -- what is shown of a user and what is deleted are two filters, in either order
  have hrows : (v'.db.carts.table.rows.filter fun row => row.userId = userId) =
      ((v.db.carts.table.rows.filter fun row => row.userId = userId).filter fun row =>
        !(row.userId = user.id && row.itemId ∈ ids)) := by
    rw [hdb]
    exact List.filter_comm _ _ _
  show (v'.db.carts.table.rows.filter fun row => row.userId = userId) = _
  rw [hrows, h userId, List.filter_map]
  by_cases huser : userId = user.id
  · subst huser
    rw [Function.update_self]
    unfold nextUserCart
    congr 1
    refine List.filter_congr fun p _ => ?_
    simp
  · rw [Function.update_of_ne huser]
    congr 1
    refine List.filter_eq_self.mpr fun p _ => ?_
    simp [huser]

/-- **One request of a user.** -/
theorem userServed (h : ∀ userId, UserCart userId (carts userId) v.db) {r : CartRequest}
    (h_fresh : ∀ drawn ∈ r.drawn?, drawn ∉ v.db.carts.table.keys) :
    UserServed v.db.catalog carts user r (serveCart (some user) v r) := by
  cases r with
  | items =>
    obtain ⟨favorites, session, hserve⟩ := serveCart_user_items (h user.id)
    rw [hserve]
    exact ⟨⟨favorites, rfl⟩, rfl, users_of_kept h rfl rfl⟩
  | add id drawn => exact userServed_add h (h_fresh drawn rfl)
  | change id isIncrementAction =>
    obtain ⟨e, v', hserve, hdb⟩ := serveCart_user_change user v id isIncrementAction
    rw [hserve]
    exact ⟨⟨e, rfl⟩, by rw [hdb], users_of_kept h hdb rfl⟩
  | remove ids => exact userServed_remove h ids

end User

section Guest

variable {v : Visit} {items : List UUID}

/-- What a request of a guest does: it works on the cookie only. -/
structure GuestServed (items : List UUID) (db : Database) (r : CartRequest)
    (served : Except PyExc (Option UserItems) × Visit) : Prop where
  answer : SiteCarts.GuestAnswer items served.1 r
  guest : GuestCart (nextGuestItems items r) served.2.session
  db_eq : served.2.db = db

/-- **One request of a guest.** -/
theorem guestServed (h : GuestCart items v.session) (r : CartRequest) :
    GuestServed items v.db r (serveCart none v r) := by
  cases r with
  | items =>
    rw [serveCart_guest_items h]
    exact ⟨rfl, h.prepared, rfl⟩
  | add id drawn =>
    obtain ⟨session, hserve, hcart⟩ := serveCart_guest_add h id drawn
    rw [hserve]
    exact ⟨rfl, hcart, rfl⟩
  | change id isIncrementAction =>
    obtain ⟨e, hserve⟩ := serveCart_guest_change h id isIncrementAction
    rw [hserve]
    exact ⟨⟨e, rfl⟩, h.prepared, rfl⟩
  | remove ids =>
    rw [serveCart_guest_remove h]
    exact ⟨rfl, h.prepared, rfl⟩

end Guest

/-! ### Runs -/

section Run

variable {catalog : Catalog} {carts : SiteCarts Browser} {site site' : CartSite Browser}

/-- A cookie that is set in one browser leaves the others. -/
theorem guestCart_update {guest : Browser → List UUID} {sessions : Browser → SessionData}
    (h : ∀ browser, GuestCart (guest browser) (sessions browser)) {browser : Browser}
    {items : List UUID} {session : SessionData} (h_set : GuestCart items session)
    (other : Browser) :
    GuestCart (Function.update guest browser items other)
      (Function.update sessions browser session other) := by
  by_cases hother : other = browser
  · subst hother
    rw [Function.update_self, Function.update_self]
    exact h_set
  · rw [Function.update_of_ne hother, Function.update_of_ne hother]
    exact h other

/-- **A request does to the cookies and the database what it does to the carts**, and is answered
from them. -/
theorem represents_step {r : BrowserRequest Browser} (h : Represents catalog carts site)
    (h_step : guarded DrawsNew siteStep site r site') :
    SiteCarts.Answers catalog carts r ∧ Represents catalog (carts.next catalog r) site' := by
  obtain ⟨hfresh, hanswer, rfl⟩ := h_step
  obtain ⟨browser, identity, request, answer⟩ := r
  obtain rfl : answer = (serveCart identity ⟨site.sessions browser, site.db⟩ request).1 := hanswer
  obtain rfl := h.catalog_eq
  cases identity with
  | none =>
    -- a guest writes a cookie, and the database stays
    have hserved := guestServed (v := ⟨site.sessions browser, site.db⟩) (h.guest browser) request
    refine ⟨hserved.answer, guestCart_update h.guest hserved.guest, fun userId => ?_, ?_⟩
    · show UserCart userId (carts.user userId) _
      rw [hserved.db_eq]
      exact h.user userId
    · exact congrArg Database.catalog hserved.db_eq
  | some user =>
    -- a user writes the database, and the cookie loses its cart
    have hserved : UserServed site.db.catalog carts.user user request _ :=
      userServed (v := ⟨site.sessions browser, site.db⟩) h.user hfresh
    exact ⟨hserved.answer, guestCart_update h.guest (guestCart_serveCart_user user _ request),
      hserved.users, hserved.catalog_eq⟩

/-- **Carts across logins.** In every run of requests from any browsers by guests and users, every
request is answered from the carts, and the cookies and the database represent these at the end:
a user finds the same cart in every browser, a guest in each browser what was added there since a
user was last there, and nothing of a guest's cart is ever in a user's. -/
theorem carts_across_logins {carts₀ : SiteCarts Browser} {site₀ : CartSite Browser}
    {requests : List (BrowserRequest Browser)} (h₀ : Represents catalog carts₀ site₀)
    (h : Run (guarded DrawsNew siteStep) site₀ requests site) :
    Represents catalog (requests.foldl (SiteCarts.next catalog) carts₀) site ∧
      ∀ before r after, requests = before ++ r :: after →
        SiteCarts.Answers catalog (before.foldl (SiteCarts.next catalog) carts₀) r := by
  have hsimulates := h.simulates h₀ fun _ _ _ _ hrel hs => represents_step hrel hs
  exact ⟨hsimulates.1, along_iff.mp hsimulates.2⟩

end Run

/-- Two browsers without a cookie. -/
def sampleSite : CartSite ℕ := ⟨fun _ => .empty, sampleDatabase⟩

theorem represents_sampleSite :
    Represents sampleDatabase.catalog ⟨fun _ => [], fun _ => []⟩ sampleSite where
  guest _ := guestCart_sampleVisit
  user _ := rfl
  catalog_eq := rfl

/-- A guest adds an item in one browser and logs in there, after the user has added it in another
one. -/
def sampleLogin : List (BrowserRequest ℕ) :=
  [⟨0, none, .add 1 20, .ok none⟩, ⟨1, some sampleIdentity, .add 1 21, .ok none⟩,
    ⟨0, some sampleIdentity, .items, .ok (some { cart := [⟨21, 1⟩] })⟩,
    ⟨0, none, .items, .ok (some {})⟩]

/-- The user has the one piece from the other browser, and the guest has lost theirs. -/
theorem carts_across_logins_sample :
    ∃ site, Run (guarded DrawsNew siteStep) sampleSite sampleLogin site ∧
      GuestCart [] (site.sessions 0) ∧ UserCart sampleIdentity.id [(1, 21)] site.db := by
  have hdrawn : ∀ {site : CartSite ℕ} {r : BrowserRequest ℕ}, site.db.carts.table.rows = [] →
      DrawsNew site r := by
    intro site r hnone drawn _ hmem
    obtain ⟨row, hrow, -⟩ := Table.mem_keys.mp hmem
    rw [hnone] at hrow
    exact List.not_mem_nil hrow
  have hrun : ∃ site, Run (guarded DrawsNew siteStep) sampleSite sampleLogin site :=
    ⟨_, .cons ⟨hdrawn rfl, rfl, rfl⟩ (.cons ⟨hdrawn rfl, rfl, rfl⟩
      (.cons ⟨nofun, rfl, rfl⟩ (.cons ⟨nofun, rfl, rfl⟩ (.nil _))))⟩
  obtain ⟨site, hrun⟩ := hrun
  have hrepresents := (carts_across_logins represents_sampleSite hrun).1
  exact ⟨site, hrun, hrepresents.guest 0, hrepresents.user sampleIdentity.id⟩

end Storefront
