import Storefront.Library.Router
import Storefront.Order.UserOrder
import Storefront.Transport.Auth

/-!
# Access to the routes

The routers of `transport/handlers` and their composition in `setup_api_routers`
(`bootstrap.py`). What a request has to pass before the body of a handler runs is decided by
the dependencies of its route: those of `api_router`, then those of the router of the handler,
then its own. `order_router` has `check_customer_access`; no router has `check_admin_access`.

`serveRequest` is one request to the application: it is dispatched, the dependencies are solved in
order, and the endpoint is called. The bodies of the handlers are arbitrary computations,
except for `GET /order`. `run_solve_error` and `run_solve_ok` say what the dependencies come
to, for any list of them.

* `accessControlled_iff` — access is controlled exactly for the requests that are not to a
  route of administrators, or are an administrator's, or are refused for another reason;
* `createCategory_called_by_guest` — it is not for a guest who creates a category.
-/

namespace Storefront

/-! ### Routes -/

/-- The dependencies that routers have. -/
inductive Dependency
  | initCtxDbSession
  | getCurrentUser
  | checkCustomerAccess
  | checkAdminAccess
  deriving DecidableEq, Repr

/-- The handlers. -/
inductive Endpoint
  -- `admin/catalog/entrypoints.py`
  | createProduct | getProduct | getProductList | getFilterGroups | createPublication
  | getPublication | getPublicationList | getCategories | createCategory
  -- `client/catalog/entrypoints.py`
  | getCatalog | getCatalogAvailability | getPublicationItemsAvailability | getSuggestedItems
  -- `client/user/entrypoints.py`
  | getUserItems | removeItemsFromCart | addItemToCart | changeCartItemQuantity | addFavorite
  | deleteFavorite
  -- `client/order/entrypoints.py`
  | makeCheckout | getCheckoutData | makeOrder | getOrderList | getOrder
  -- `client/cdek_widget/entrypoints.py`
  | getCdekOffices | makeCalculate
  -- `internal/notifications/entrypoints.py`
  | notificationHandler | getCurrentUserHer | getCurrentUserErr
  deriving DecidableEq, Repr

abbrev ApiRoute := Route Method Dependency Endpoint

abbrev ApiRouter := Router Method Dependency Endpoint

def adminRouter : ApiRouter := .ofRoutes "/admin" [] [
  ⟨.post, "/product", [], .createProduct⟩,
  ⟨.get, "/product", [], .getProduct⟩,
  ⟨.get, "/product-list", [], .getProductList⟩,
  ⟨.get, "/filter-groups", [], .getFilterGroups⟩,
  ⟨.post, "/publication", [], .createPublication⟩,
  ⟨.get, "/publication", [], .getPublication⟩,
  ⟨.get, "/publication-list", [], .getPublicationList⟩,
  ⟨.get, "/category-list", [], .getCategories⟩,
  ⟨.post, "/category", [], .createCategory⟩]

def marketRouter : ApiRouter := .ofRoutes "/market" [] [
  ⟨.get, "/catalog", [], .getCatalog⟩,
  ⟨.get, "/availability/catalog", [], .getCatalogAvailability⟩,
  ⟨.get, "/availability/publication", [], .getPublicationItemsAvailability⟩,
  ⟨.get, "/suggested-items", [], .getSuggestedItems⟩]

def userRouter : ApiRouter := .ofRoutes "/user" [] [
  ⟨.get, "/items", [], .getUserItems⟩,
  ⟨.delete, "/cart", [], .removeItemsFromCart⟩,
  ⟨.post, "/cart", [], .addItemToCart⟩,
  ⟨.patch, "/cart", [], .changeCartItemQuantity⟩,
  ⟨.post, "/favorites", [], .addFavorite⟩,
  ⟨.delete, "/favorites", [], .deleteFavorite⟩]

def orderRouter : ApiRouter := .ofRoutes "" [.checkCustomerAccess] [
  ⟨.post, "/checkout", [], .makeCheckout⟩,
  ⟨.get, "/checkout", [], .getCheckoutData⟩,
  ⟨.post, "/order", [], .makeOrder⟩,
  ⟨.get, "/order-list", [], .getOrderList⟩,
  ⟨.get, "/order", [], .getOrder⟩]

def cdekRouter : ApiRouter := .ofRoutes "" [] [
  ⟨.get, "/cdek", [], .getCdekOffices⟩,
  ⟨.post, "/cdek", [], .makeCalculate⟩]

def notificationRouter : ApiRouter := .ofRoutes "/notifications" [] [
  ⟨.post, "/payment-status", [], .notificationHandler⟩,
  ⟨.get, "/ory_test", [.getCurrentUser], .getCurrentUserHer⟩,
  ⟨.get, "/ory_test_err", [.getCurrentUser], .getCurrentUserErr⟩]

/-- `setup_api_routers` -/
def setupApiRouters (app : ApiRouter) : ApiRouter :=
  let apiRouter : ApiRouter := .ofRoutes "/api" [.initCtxDbSession, .getCurrentUser] []
  let callbackRouter : ApiRouter := .ofRoutes "/callback" [] []
  let callbackRouter := callbackRouter.includeRouter notificationRouter
  let apiRouter := apiRouter.includeRouter adminRouter
  let apiRouter := apiRouter.includeRouter marketRouter
  let apiRouter := apiRouter.includeRouter userRouter
  let apiRouter := apiRouter.includeRouter orderRouter
  let apiRouter := apiRouter.includeRouter cdekRouter
  let apiRouter := apiRouter.includeRouter callbackRouter
  app.includeRouter apiRouter

/-- The router of the application. -/
def appRouter : ApiRouter := setupApiRouters (.ofRoutes "" [] [])

/-- A handler of `/api/admin`. -/
def Endpoint.IsAdmin (endpoint : Endpoint) : Prop :=
  ∃ route ∈ adminRouter.routes, route.endpoint = endpoint

/-- A checkout or order handler. -/
def Endpoint.IsOrder (endpoint : Endpoint) : Prop :=
  ∃ route ∈ orderRouter.routes, route.endpoint = endpoint

instance (endpoint : Endpoint) : Decidable endpoint.IsAdmin := by
  unfold Endpoint.IsAdmin
  infer_instance

instance (endpoint : Endpoint) : Decidable endpoint.IsOrder := by
  unfold Endpoint.IsOrder
  infer_instance

/-- These are the handlers of the routes below `/api/admin`. -/
theorem isAdmin_iff_path :
    ∀ route ∈ appRouter.routes, route.endpoint.IsAdmin ↔
      "/api/admin/".toList <+: route.path.toList := by
  decide +kernel

/-- The routes of administrators have the dependencies of `api_router` only. -/
theorem dependencies_of_isAdmin :
    ∀ route ∈ appRouter.routes, route.endpoint.IsAdmin →
      route.dependencies = [.initCtxDbSession, .getCurrentUser] := by
  decide +kernel

/-- Those of orders are behind `check_customer_access`. -/
theorem dependencies_of_isOrder :
    ∀ route ∈ appRouter.routes, route.endpoint.IsOrder →
      route.dependencies = [.initCtxDbSession, .getCurrentUser, .checkCustomerAccess] := by
  decide +kernel

/-! ### Requests -/

/-- A request: its method, path, cookies and session, the `order_id` of `GET /order`, and what
comes of reading its body and of validating its parameters for an endpoint. -/
structure Request where
  method : Method
  path : String
  cookies : Dict String String
  session : SessionData
  orderId : UUID
  readBody : Except PyExc Unit
  validate : Endpoint → Except PyExc Unit

/-- What an endpoint answers with. -/
inductive Answer (α : Type)
  | order (view : Order)
  | other (a : α)

/-- The value of `USER_IDENTITY_CTX`, none when it has not been set. -/
abbrev UserIdentityCtx := Option (Option Kratos.UserIdentity)

/-- The settings, what pydantic makes of the dates of an order, the identity service, the bodies of
the handlers, and what goes wrong at a commit, if anything does. -/
structure Application (α : Type) where
  pydantic : OrderPydantic
  settings : KratosSettings
  getSession : GetSession
  body : Endpoint → UserIdentityCtx → App SessionData α
  fault : Option PyExc

/-- What a request works on besides the database: its session, and the endpoints whose bodies
have been called. -/
structure Served where
  session : SessionData
  called : List Endpoint

/-- The context a request starts in. -/
def Request.start (request : Request) (db : Database) : Ctx Database Write Served :=
  .start db ⟨prepareSession request.session, []⟩

variable {α β : Type}

/-- A computation that works on the session. -/
def onSession (x : App SessionData β) : App Served β := fun c =>
  match x.run ⟨c.committed, c.session, c.env.session⟩ with
  | .ok b c' => .ok b ⟨c'.committed, c'.session, { c.env with session := c'.env }⟩
  | .error e c' => .error e ⟨c'.committed, c'.session, { c.env with session := c'.env }⟩

/-- `get_order_entrypoint` -/
def getOrderEntrypoint (P : OrderPydantic) (orderId : UUID) :
    UserIdentityCtx → App SessionData Order
  | none => throw .lookupError
  | some none => throw .attributeError
  | some (some user) => getUserOrder P orderId user.id

section Serve

variable (app : Application α) (request : Request)

/-- The body of an endpoint. -/
def endpointBody (user : UserIdentityCtx) : Endpoint → App SessionData (Answer α)
  | .getOrder => Answer.order <$> getOrderEntrypoint app.pydantic request.orderId user
  | endpoint => Answer.other <$> app.body endpoint user

/-- The call of an endpoint. -/
def callEndpoint (endpoint : Endpoint) (user : UserIdentityCtx) : App Served (Answer α) := do
  modify fun c => { c with env := { c.env with called := c.env.called ++ [endpoint] } }
  onSession (endpointBody app request user endpoint)

/-- Whose request it is. -/
def Application.identity : Except PyExc (Option Kratos.UserIdentity) :=
  identify app.settings app.getSession request.cookies

/-- What `get_current_user` returns, which is asked once in a request. -/
def currentUser : UserIdentityCtx → App Served (Option Kratos.UserIdentity)
  | some user => pure user
  | none => onSession (getCurrentUser (app.identity request))

/-- What a dependency on the current user does with the user; `init_ctx_db_session` does not
depend on one. -/
def Dependency.guard (settings : KratosSettings) :
    Dependency → Option (Option Kratos.UserIdentity → Except PyExc Unit)
  | .initCtxDbSession => none
  | .getCurrentUser => some fun _ => .ok ()
  | .checkCustomerAccess => some fun userIdentity => do
    let _ ← Storefront.checkCustomerAccess userIdentity
    return ()
  | .checkAdminAccess => some fun userIdentity => do
    let customer ← Storefront.checkCustomerAccess userIdentity
    let _ ← Storefront.checkAdminAccess settings customer
    return ()

/-- What comes after the dependencies: the endpoint is called if its parameters are valid. -/
def runEndpoint (endpoint : Endpoint) (user : UserIdentityCtx) :
    App Served (Except PyExc (Answer α)) :=
  match request.validate endpoint with
  | .error errors => pure (.error errors)
  | .ok _ => do
    let answer ← callEndpoint app request endpoint user
    return .ok answer

/-- Solve the dependencies in order, and go on to the endpoint. -/
def solve (endpoint : Endpoint) :
    List Dependency → UserIdentityCtx → App Served (Except PyExc (Answer α))
  | [], user => runEndpoint app request endpoint user
  | dependency :: dependencies, user =>
    match dependency.guard app.settings with
    | none => initCtxDbSession postgres app.fault request.method (solve endpoint dependencies user)
    | some guard => do
      let userIdentity ← currentUser app request user
      liftExcept (guard userIdentity)
      solve endpoint dependencies (some userIdentity)

/-- One request to the application. Invalid parameters are an error once the dependencies have
been left. -/
def serveRequest (db : Database) :
    EStateM.Result PyExc (Ctx Database Write Served) (Answer α) :=
  match appRouter.dispatch request.method request.path with
  | none => .error .httpException (request.start db)
  | some route =>
    (do
      liftExcept request.readBody
      let answer ← solve app request route.endpoint route.dependencies none
      liftExcept answer).run (request.start db)

/-! ### What the dependencies come to -/

/-- What a dependency raises, if it raises. -/
def Dependency.check (dependency : Dependency) : Except PyExc Unit :=
  match dependency.guard app.settings with
  | none => .ok ()
  | some guard => do
    let userIdentity ← app.identity request
    guard userIdentity

/-- The request passes the dependencies. -/
def Passes (dependencies : List Dependency) : Prop :=
  ∀ dependency ∈ dependencies, dependency.check app request = .ok ()

end Serve

section Solve

variable {app : Application α} {request : Request}

/-- The user that is known is the one the identity service knows. -/
def Known (app : Application α) (request : Request) (user : UserIdentityCtx) : Prop :=
  ∀ userIdentity, user = some userIdentity → app.identity request = .ok userIdentity

theorem run_onSession (x : App SessionData β) (c : Ctx Database Write Served) :
    (onSession x).run c =
      match x.run ⟨c.committed, c.session, c.env.session⟩ with
      | .ok b c' => .ok b ⟨c'.committed, c'.session, { c.env with session := c'.env }⟩
      | .error e c' => .error e ⟨c'.committed, c'.session, { c.env with session := c'.env }⟩ :=
  rfl

theorem called_onSession (x : App SessionData β) (c : Ctx Database Write Served) :
    (endState ((onSession x).run c)).env.called = c.env.called := by
  rw [run_onSession]
  cases x.run ⟨c.committed, c.session, c.env.session⟩ <;> rfl

/-- **What asking for the user does**, whatever comes after it. -/
theorem run_currentUser {user : UserIdentityCtx} (h : Known app request user)
    (k : Option Kratos.UserIdentity → App Served β) (c : Ctx Database Write Served) :
    ∃ session, (do
      let userIdentity ← currentUser app request user
      k userIdentity).run c =
        match app.identity request with
        | .ok userIdentity => (k userIdentity).run { c with env := { c.env with session } }
        | .error e => .error e { c with env := { c.env with session } } := by
  cases user with
  | some userIdentity =>
    refine ⟨c.env.session, ?_⟩
    rw [h userIdentity rfl]
    rfl
  | none =>
    unfold currentUser
    rw [EStateM.run_bind, run_onSession, run_getCurrentUser]
    cases app.identity request with
    | error e => exact ⟨_, rfl⟩
    | ok userIdentity => cases userIdentity <;> exact ⟨_, rfl⟩

/-- Once a user is known it is the one of the request. -/
theorem known_some {userIdentity : Option Kratos.UserIdentity}
    (h : app.identity request = .ok userIdentity) : Known app request (some userIdentity) := by
  intro userIdentity' heq
  cases heq
  exact h

/-- A request that passes the first of the dependencies passes all if it passes the others. -/
theorem passes_cons {dependency : Dependency} {dependencies : List Dependency} :
    Passes app request (dependency :: dependencies) ↔
      dependency.check app request = .ok () ∧ Passes app request dependencies :=
  List.forall_mem_cons

/-- **A request that does not pass is refused**, before the body of the endpoint is called,
and leaves the database as it is. -/
theorem run_solve_error (endpoint : Endpoint) {dependencies : List Dependency}
    (h : ¬ Passes app request dependencies) {user : UserIdentityCtx}
    (h_known : Known app request user) (c : Ctx Database Write Served) :
    ∃ e c', (solve app request endpoint dependencies user).run c = .error e c' ∧
      c'.committed = c.committed ∧ c'.env.called = c.env.called := by
  induction dependencies generalizing user c with
  | nil => exact absurd (fun dependency hd => absurd hd List.not_mem_nil) h
  | cons dependency dependencies ih =>
    rw [passes_cons, not_and] at h
    unfold solve
    unfold Dependency.check at h
    cases hguard : dependency.guard app.settings with
    | none =>
      -- the transaction passes the exception on
      rw [hguard] at h
      obtain ⟨e, c', hrun, hcom, hcalled⟩ := ih (h rfl) h_known c
      exact ⟨e, c'.closed, run_initCtxDbSession_error hrun, hcom, hcalled⟩
    | some guard =>
      rw [hguard] at h
      simp only at h ⊢
      obtain ⟨session, hrun⟩ := run_currentUser h_known
        (fun userIdentity => do
          liftExcept (guard userIdentity)
          solve app request endpoint dependencies (some userIdentity)) c
      rw [hrun]
      -- who asks is looked up before the guard judges
      cases hidentity : app.identity request with
      | error e => exact ⟨e, _, rfl, rfl, rfl⟩
      | ok userIdentity =>
        simp only
        cases hpass : guard userIdentity with
        | error e => exact ⟨e, _, rfl, rfl, rfl⟩
        | ok u =>
          have hrest := h (except_bind_eq_ok.mpr ⟨userIdentity, hidentity, hpass⟩)
          exact ih hrest (known_some hidentity) { c with env := { c.env with session } }

/-- What becomes of an outcome: an exception is passed on and nothing is committed, an answer
that is passed on is the one that was given, and where the session has not been used nothing
is committed either. -/
structure Delivers (outcome result : EStateM.Result PyExc (Ctx Database Write Served) β) :
    Prop where
  called_eq : (endState result).env.called = (endState outcome).env.called
  error_passed : ∀ e c, outcome = .error e c →
    ∃ c', result = .error e c' ∧ c'.committed = c.committed
  ok_given : ∀ b c', result = .ok b c' → ∃ c, outcome = .ok b c
  untouched : (endState outcome).Untouched →
    (endState result).Untouched ∧ (endState result).committed = (endState outcome).committed

theorem Delivers.refl (outcome : EStateM.Result PyExc (Ctx Database Write Served) β) :
    Delivers outcome outcome where
  called_eq := rfl
  error_passed _ c h := ⟨c, h, rfl⟩
  ok_given _ c h := ⟨c, h⟩
  untouched h := ⟨h, rfl⟩

/-- The transaction of the request delivers what was delivered to it. -/
theorem Delivers.initCtxDbSession {fault : Option PyExc} {method : Method}
    {outcome : EStateM.Result PyExc (Ctx Database Write Served) β} {x : App Served β}
    {c : Ctx Database Write Served}
    (h : Delivers outcome (x.run c)) :
    Delivers outcome ((Storefront.initCtxDbSession postgres fault method x).run c) where
  called_eq := by
    rw [env_initCtxDbSession]
    exact h.called_eq
  error_passed := by
    intro e c₁ houtcome
    obtain ⟨c', hrun, hcom⟩ := h.error_passed e c₁ houtcome
    exact ⟨c'.closed, run_initCtxDbSession_error hrun, hcom⟩
  ok_given := by
    intro b c' hresult
    -- what is answered after the commit is what the handler had answered
    obtain ⟨c₁, hrun, -⟩ := initCtxDbSession_eq_ok.mp hresult
    exact h.ok_given b c₁ hrun
  untouched := by
    intro houtcome
    obtain ⟨huntouched, hcom⟩ := h.untouched houtcome
    obtain ⟨huntouched', hcom'⟩ := untouched_initCtxDbSession postgres fault method huntouched
    exact ⟨huntouched', hcom'.trans hcom⟩

/-- **A request that passes gets to the endpoint**, with the user of the request if one is
known, in a session that has not been used. -/
theorem run_solve_ok (endpoint : Endpoint) {dependencies : List Dependency}
    (h : Passes app request dependencies) {user : UserIdentityCtx}
    (h_known : Known app request user) (c : Ctx Database Write Served) :
    ∃ user' c₁, Known app request user' ∧ c₁.committed = c.committed ∧ c₁.session = c.session ∧
      c₁.env.called = c.env.called ∧
      Delivers ((runEndpoint app request endpoint user').run c₁)
        ((solve app request endpoint dependencies user).run c) := by
  induction dependencies generalizing user c with
  | nil => exact ⟨user, c, h_known, rfl, rfl, rfl, Delivers.refl _⟩
  | cons dependency dependencies ih =>
    obtain ⟨hcheck, hrest⟩ := passes_cons.mp h
    unfold solve
    unfold Dependency.check at hcheck
    cases hguard : dependency.guard app.settings with
    -- a transaction: what the rest delivers is passed through it
    | none =>
      obtain ⟨user', c₁, hknown, hcom, hsession, hcalled, hdelivers⟩ := ih hrest h_known c
      exact ⟨user', c₁, hknown, hcom, hsession, hcalled, hdelivers.initCtxDbSession⟩
    -- a guard that passes leaves the session with the identity it has looked up
    | some guard =>
      rw [hguard] at hcheck
      obtain ⟨userIdentity, hidentity, hpass⟩ := except_bind_eq_ok.mp hcheck
      simp only
      obtain ⟨session, hrun⟩ := run_currentUser h_known
        (fun userIdentity => do
          liftExcept (guard userIdentity)
          solve app request endpoint dependencies (some userIdentity)) c
      rw [hidentity] at hrun
      simp only [hpass] at hrun
      rw [hrun]
      exact ih hrest (known_some hidentity) { c with env := { c.env with session } }

/-- What is delivered as a value is delivered as an answer. -/
theorem Delivers.answer {x : App Served β} {y : App Served (Except PyExc β)}
    {c₁ c : Ctx Database Write Served}
    (h : Delivers ((do let b ← x; return .ok b : App Served (Except PyExc β)).run c₁) (y.run c)) :
    Delivers (x.run c₁) ((do let b ← y; liftExcept b : App Served β).run c) := by
  -- wrapping the answer, or raising what is wrapped, moves no state
  have houtcome : endState ((do let b ← x; return .ok b : App Served (Except PyExc β)).run c₁) =
      endState (x.run c₁) := by
    rw [EStateM.run_bind]
    cases x.run c₁ <;> rfl
  have hresult : endState ((do let b ← y; liftExcept b : App Served β).run c) =
      endState (y.run c) := by
    rw [EStateM.run_bind]
    cases y.run c with
    | error e c' => rfl
    | ok b c' => exact endState_liftExcept b c'
  constructor
  case called_eq =>
    rw [hresult, ← houtcome]
    exact h.called_eq
  case error_passed =>
    intro e c₂ hx
    obtain ⟨c', hy, hcom⟩ := h.error_passed e c₂ (run_bind_error hx)
    exact ⟨c', run_bind_error hy, hcom⟩
  case ok_given =>
    intro b c' hb
    obtain ⟨b', c₂, hy, hlift⟩ := bind_eq_ok.mp hb
    obtain ⟨rfl, rfl⟩ := liftExcept_eq_ok.mp hlift
    obtain ⟨c₃, hgiven⟩ := h.ok_given _ _ hy
    obtain ⟨b', c₄, hx, heq⟩ := bind_eq_ok.mp hgiven
    cases heq
    exact ⟨_, hx⟩
  case untouched =>
    rw [hresult, ← houtcome]
    exact h.untouched

end Solve

/-! ### Requests and the routes they reach -/

section Serve

variable {app : Application α} {request : Request} {db : Database}

/-- The request reaches the endpoint of a route. -/
structure Reaches (app : Application α) (request : Request) (route : ApiRoute) : Prop where
  body_read : request.readBody = .ok ()
  passes : Passes app request route.dependencies
  valid : request.validate route.endpoint = .ok ()

theorem serveRequest_of_not_found
    (h : appRouter.dispatch request.method request.path = none) :
    serveRequest app request db = .error .httpException (request.start db) := by
  unfold serveRequest
  rw [h]

theorem serveRequest_of_dispatch {route : ApiRoute}
    (h : appRouter.dispatch request.method request.path = some route) :
    serveRequest app request db =
      (do
        liftExcept request.readBody
        let answer ← solve app request route.endpoint route.dependencies none
        liftExcept answer).run (request.start db) := by
  unfold serveRequest
  rw [h]

/-- No user is known at first. -/
theorem known_none : Known app request none :=
  fun _ h => nomatch h

/-- **A request that does not reach the endpoint of its route is refused.** -/
theorem serveRequest_refused {route : ApiRoute}
    (h : appRouter.dispatch request.method request.path = some route)
    (h_reaches : ¬ Reaches app request route) :
    ∃ e c, serveRequest app request db = .error e c ∧ c.committed = db ∧ c.env.called = [] := by
  rw [serveRequest_of_dispatch h]
  cases hbody : request.readBody with
  -- an unreadable body stops the request before any dependency
  | error e => exact ⟨e, _, rfl, rfl, rfl⟩
  | ok u =>
    rw [run_bind_ok (liftExcept_eq_ok.mpr ⟨rfl, rfl⟩)]
    by_cases hpasses : Passes app request route.dependencies
    · -- the parameters are invalid, and the dependencies are left without an exception
      cases hvalidate : request.validate route.endpoint with
      | ok u => exact absurd ⟨hbody, hpasses, hvalidate⟩ h_reaches
      | error errors =>
        obtain ⟨user, c, -, hcom, hsession, hcalled, hdelivers⟩ :=
          run_solve_ok route.endpoint hpasses known_none (request.start db)
        have hrun : (runEndpoint app request route.endpoint user).run c =
            .ok (.error errors) c := by
          unfold runEndpoint
          rw [hvalidate]
          rfl
        rw [hrun] at hdelivers
        -- nothing was written, so the transactions commit what was there
        have huntouched : c.Untouched := by
          unfold Ctx.Untouched
          rw [hsession, hcom]
          rfl
        obtain ⟨-, hcommitted⟩ := hdelivers.untouched huntouched
        have hcalled' := hdelivers.called_eq
        cases hsolve : (solve app request route.endpoint route.dependencies none).run
            (request.start db) with
        | error e c' =>
          rw [hsolve] at hcommitted hcalled'
          exact ⟨e, c', run_bind_error hsolve, hcommitted.trans hcom, hcalled'.trans hcalled⟩
        | ok answer c' =>
          obtain ⟨_, hgiven⟩ := hdelivers.ok_given answer c' hsolve
          cases hgiven
          rw [hsolve] at hcommitted hcalled'
          rw [run_bind_ok hsolve]
          exact ⟨errors, c', rfl, hcommitted.trans hcom, hcalled'.trans hcalled⟩
    · -- a guard refuses: the endpoint is not reached
      obtain ⟨e, c', hsolve, hcom, hcalled⟩ :=
        run_solve_error route.endpoint hpasses known_none (request.start db)
      exact ⟨e, c', run_bind_error hsolve, hcom, hcalled⟩

/-- **One that does is answered by that endpoint.** -/
theorem serveRequest_reaches {route : ApiRoute}
    (h : appRouter.dispatch request.method request.path = some route)
    (h_reaches : Reaches app request route) :
    ∃ user c, Known app request user ∧ c.committed = db ∧ c.session = .start db ∧
      c.env.called = [] ∧
      Delivers ((callEndpoint app request route.endpoint user).run c)
        (serveRequest app request db) := by
  obtain ⟨hbody, hpasses, hvalidate⟩ := h_reaches
  obtain ⟨user, c, hknown, hcom, hsession, hcalled, hdelivers⟩ :=
    run_solve_ok route.endpoint hpasses known_none (request.start db)
  refine ⟨user, c, hknown, hcom, hsession, hcalled, ?_⟩
  rw [serveRequest_of_dispatch h, hbody, run_bind_ok (liftExcept_eq_ok.mpr ⟨rfl, rfl⟩)]
  unfold runEndpoint at hdelivers
  rw [hvalidate] at hdelivers
  exact hdelivers.answer

theorem run_callEndpoint (endpoint : Endpoint) (user : UserIdentityCtx)
    (c : Ctx Database Write Served) :
    (callEndpoint app request endpoint user).run c =
      (onSession (endpointBody app request user endpoint)).run
        { c with env := { c.env with called := c.env.called ++ [endpoint] } } := rfl

theorem called_callEndpoint (endpoint : Endpoint) (user : UserIdentityCtx)
    (c : Ctx Database Write Served) :
    (endState ((callEndpoint app request endpoint user).run c)).env.called =
      c.env.called ++ [endpoint] := by
  rw [run_callEndpoint, called_onSession]

/-- The bodies that run are those of the endpoints that are reached. -/
theorem mem_called_iff {endpoint : Endpoint} :
    endpoint ∈ (endState (serveRequest app request db)).env.called ↔
      ∃ route, appRouter.dispatch request.method request.path = some route ∧
        Reaches app request route ∧ route.endpoint = endpoint := by
  cases hroute : appRouter.dispatch request.method request.path with
  -- no route: nothing is called
  | none =>
    rw [serveRequest_of_not_found hroute]
    exact ⟨fun h => absurd h List.not_mem_nil, fun ⟨_, h, _⟩ => nomatch h⟩
  | some route =>
    by_cases hreaches : Reaches app request route
    · obtain ⟨user, c, -, -, -, hcalled, hdelivers⟩ :=
        serveRequest_reaches hroute hreaches
      rw [hdelivers.called_eq, called_callEndpoint, hcalled, List.nil_append,
        List.mem_singleton]
      refine ⟨fun h => ⟨route, rfl, hreaches, h.symm⟩, ?_⟩
      rintro ⟨_, heq, -, rfl⟩
      cases heq
      rfl
    · obtain ⟨e, c, hserve, -, hcalled⟩ := serveRequest_refused hroute hreaches
      rw [hserve, endState_error, hcalled]
      refine ⟨fun h => absurd h List.not_mem_nil, ?_⟩
      rintro ⟨_, heq, hreaches', -⟩
      cases heq
      exact absurd hreaches' hreaches

/-- Every route is behind the dependencies of `api_router`, however it was included. -/
theorem guarded_of_mem_appRouter {route : ApiRoute} (h : route ∈ appRouter.routes) :
    [.initCtxDbSession, .getCurrentUser] <+: route.dependencies :=
  Router.dependencies_prefix_of_included h List.not_mem_nil

/-- So no endpoint is reached when the identity service raises. -/
theorem identity_of_reaches {route : ApiRoute}
    (h : appRouter.dispatch request.method request.path = some route)
    (h_reaches : Reaches app request route) :
    ∃ userIdentity, app.identity request = .ok userIdentity := by
  have hguarded := guarded_of_mem_appRouter (Router.mem_of_dispatch h).1
  have hmem : Dependency.getCurrentUser ∈ route.dependencies :=
    hguarded.subset (List.mem_cons_of_mem _ List.mem_cons_self)
  have hcheck := h_reaches.passes _ hmem
  obtain ⟨userIdentity, hidentity, -⟩ := except_bind_eq_ok.mp hcheck
  exact ⟨userIdentity, hidentity⟩

end Serve

/-! ### Who may -/

section Access

variable (app : Application α) (request : Request) (db : Database)

/-- The request is a verified user's. -/
def ByCustomer : Prop :=
  ∃ user, app.identity request = .ok (some user) ∧ user.verified = true

/-- The request is an administrator's. -/
def ByAdmin : Prop :=
  ∃ user, app.identity request = .ok (some user) ∧ user.verified = true ∧
    user.schemaId = app.settings.adminSchema

/-- The request is by the user whose order it asks for. -/
def ByOwner (orderId : UUID) : Prop :=
  ∃ user order, app.identity request = .ok (some user) ∧
    db.orders.find? orderId = some order ∧ order.userId = user.id

/-- Who may have an endpoint serve the request. -/
structure MayServe (endpoint : Endpoint) : Prop where
  admin : endpoint.IsAdmin → ByAdmin app request
  customer : endpoint.IsOrder → ByCustomer app request
  owner : endpoint = .getOrder → ByOwner app request db request.orderId

/-- **Access control.** The bodies of the handlers of administrators run for them only, those
of checkout and orders for verified users only, an order is returned to its owner only, and
anybody else is refused with the database as it is. -/
structure AccessControlled : Prop where
  admin_called : ∀ endpoint ∈ (endState (serveRequest app request db)).env.called,
    endpoint.IsAdmin → ByAdmin app request
  order_called : ∀ endpoint ∈ (endState (serveRequest app request db)).env.called,
    endpoint.IsOrder → ByCustomer app request
  order_returned : ∀ view c, serveRequest app request db = .ok (.order view) c →
    ByOwner app request db view.id
  refused : ∀ route, appRouter.dispatch request.method request.path = some route →
    ¬ MayServe app request db route.endpoint →
      ∃ e c, serveRequest app request db = .error e c ∧ c.committed = db

end Access

section Access

variable {app : Application α} {request : Request} {db : Database}

/-- Whom `check_customer_access` lets pass. -/
theorem check_checkCustomerAccess_iff :
    Dependency.check app request .checkCustomerAccess = .ok () ↔ ByCustomer app request := by
  have hguard : Dependency.check app request .checkCustomerAccess = (do
      let userIdentity ← app.identity request
      let _ ← checkCustomerAccess userIdentity
      return ()) := rfl
  simp only [hguard, except_bind_eq_ok, checkCustomerAccess_eq_ok]
  refine ⟨?_, ?_⟩
  · rintro ⟨userIdentity, hidentity, user, ⟨rfl, hverified⟩, -⟩
    exact ⟨user, hidentity, hverified⟩
  · rintro ⟨user, hidentity, hverified⟩
    exact ⟨some user, hidentity, user, ⟨rfl, hverified⟩, rfl⟩

/-- Whom `check_admin_access` would let pass, if a router had it. -/
theorem check_checkAdminAccess_iff :
    Dependency.check app request .checkAdminAccess = .ok () ↔ ByAdmin app request := by
  have hguard : Dependency.check app request .checkAdminAccess = (do
      let userIdentity ← app.identity request
      let customer ← checkCustomerAccess userIdentity
      let _ ← checkAdminAccess app.settings customer
      return ()) := rfl
  simp only [hguard, except_bind_eq_ok, checkCustomerAccess_eq_ok, checkAdminAccess_eq_ok]
  refine ⟨?_, ?_⟩
  · rintro ⟨userIdentity, hidentity, user, ⟨rfl, hverified⟩, _, ⟨-, hschema⟩, -⟩
    exact ⟨user, hidentity, hverified, hschema⟩
  · rintro ⟨user, hidentity, hverified, hschema⟩
    exact ⟨some user, hidentity, user, ⟨rfl, hverified⟩, user, ⟨rfl, hschema⟩, rfl⟩

/-- A request that reaches a handler of orders has passed `check_customer_access`. -/
theorem byCustomer_of_reaches {route : ApiRoute}
    (h : appRouter.dispatch request.method request.path = some route)
    (h_order : route.endpoint.IsOrder) (h_reaches : Reaches app request route) :
    ByCustomer app request := by
  have hdependencies := dependencies_of_isOrder route (Router.mem_of_dispatch h).1 h_order
  have hmem : Dependency.checkCustomerAccess ∈ route.dependencies := by
    rw [hdependencies]
    decide
  exact check_checkCustomerAccess_iff.mp (h_reaches.passes _ hmem)

/-- A request reaches a handler of administrators whoever makes it, if it has a readable body
and valid parameters and the identity service answers. -/
theorem reaches_admin_iff {route : ApiRoute}
    (h : appRouter.dispatch request.method request.path = some route)
    (h_admin : route.endpoint.IsAdmin) :
    Reaches app request route ↔
      request.readBody = .ok () ∧ (∃ userIdentity, app.identity request = .ok userIdentity) ∧
        request.validate route.endpoint = .ok () := by
  refine ⟨fun hreaches => ⟨hreaches.body_read, identity_of_reaches h hreaches, hreaches.valid⟩, ?_⟩
  rintro ⟨hbody, ⟨userIdentity, hidentity⟩, hvalidate⟩
  refine ⟨hbody, fun dependency hdependency => ?_, hvalidate⟩
  rw [dependencies_of_isAdmin route (Router.mem_of_dispatch h).1 h_admin] at hdependency
  rcases List.mem_pair.mp hdependency with rfl | rfl
  · rfl
  · exact except_bind_eq_ok.mpr ⟨userIdentity, hidentity, rfl⟩

/-- The order that `get_order_entrypoint` returns is the one that was asked for, by its
owner. -/
theorem byOwner_of_getOrderEntrypoint {P : OrderPydantic} {orderId : UUID} {user : UserIdentityCtx}
    (h_known : Known app request user) {c c' : Ctx Database Write SessionData} (hc : c.Clean)
    {view : Order} (h : (getOrderEntrypoint P orderId user).run c = .ok view c') :
    view.id = orderId ∧ ByOwner app request c.session.view orderId := by
  cases user with
  | none => cases h
  | some userIdentity =>
    cases userIdentity with
    | none => cases h
    | some user =>
      obtain ⟨order, hload, howner, hview, -⟩ := (getUserOrder_eq_ok hc).mp h
      obtain ⟨row, hfind, rfl⟩ := Option.map_eq_some_iff.mp hload
      have hid : row.id = orderId := (Table.find?_eq_some.mp hfind).2
      exact ⟨(orderView_id hview).trans hid, user, row, h_known _ rfl, hfind, howner⟩

theorem endState_getOrderEntrypoint (P : OrderPydantic) (orderId : UUID) (user : UserIdentityCtx)
    {c : Ctx Database Write SessionData} (hc : c.Clean) :
    endState ((getOrderEntrypoint P orderId user).run c) = c := by
  cases user with
  | none => rfl
  | some userIdentity =>
    cases userIdentity with
    | none => rfl
    | some user => exact endState_getUserOrder P orderId user.id hc

/-- Only the endpoint of `GET /order` returns an order. -/
theorem eq_getOrder_of_callEndpoint {endpoint : Endpoint} {user : UserIdentityCtx}
    {c c' : Ctx Database Write Served} {view : Order}
    (h : (callEndpoint app request endpoint user).run c = .ok (.order view) c') :
    endpoint = .getOrder := by
  by_contra hne
  have hbody : endpointBody app request user endpoint =
      Answer.other <$> app.body endpoint user := by
    cases endpoint <;> first | rfl | exact absurd rfl hne
  rw [run_callEndpoint, hbody, run_onSession] at h
  cases hrun : (app.body endpoint user).run ⟨c.committed, c.session, c.env.session⟩ with
  | error e c₁ =>
    rw [run_map_error _ hrun] at h
    cases h
  | ok a c₁ =>
    rw [run_map_ok _ hrun] at h
    cases h

/-- **The endpoint of `GET /order`** returns the order that was asked for to its owner, or
raises. It commits nothing. -/
theorem run_callEndpoint_getOrder {user : UserIdentityCtx} (h_known : Known app request user)
    {c : Ctx Database Write Served} (hc : c.session = .start db) :
    (∃ view c', (callEndpoint app request .getOrder user).run c = .ok (.order view) c' ∧
        view.id = request.orderId ∧ ByOwner app request db request.orderId) ∨
      ∃ e c', (callEndpoint app request .getOrder user).run c = .error e c' ∧
        c'.committed = c.committed := by
  have hclean : Ctx.Clean (⟨c.committed, c.session, c.env.session⟩ :
      Ctx Database Write SessionData) := by
    rw [hc]
    exact ⟨rfl, rfl⟩
  -- the service only reads, so its session is left as it was
  have hend := endState_getOrderEntrypoint app.pydantic request.orderId user hclean
  rw [run_callEndpoint, run_onSession]
  unfold endpointBody
  cases hrun : (getOrderEntrypoint app.pydantic request.orderId user).run
      ⟨c.committed, c.session, c.env.session⟩ with
  | error e c₁ =>
    right
    rw [hrun, endState_error] at hend
    have hcom : c₁.committed = c.committed := by rw [hend]
    rw [run_map_error _ hrun]
    exact ⟨e, _, rfl, hcom⟩
  | ok view c₁ =>
    left
    obtain ⟨hid, howner⟩ := byOwner_of_getOrderEntrypoint h_known hclean hrun
    rw [run_map_ok _ hrun]
    rw [hc] at howner
    exact ⟨view, _, rfl, hid, howner⟩

/-- An order is returned to its owner only. -/
theorem byOwner_of_served {view : Order} {c : Ctx Database Write Served}
    (h : serveRequest app request db = .ok (.order view) c) :
    ByOwner app request db view.id := by
  cases hroute : appRouter.dispatch request.method request.path with
  | none =>
    rw [serveRequest_of_not_found hroute] at h
    cases h
  | some route =>
    by_cases hreaches : Reaches app request route
    · obtain ⟨user, c₁, hknown, -, hsession, -, hdelivers⟩ := serveRequest_reaches hroute hreaches
      obtain ⟨c₂, houtcome⟩ := hdelivers.ok_given _ _ h
      -- the order comes from `GET /order`
      rw [eq_getOrder_of_callEndpoint houtcome] at houtcome
      rcases run_callEndpoint_getOrder hknown hsession with
        ⟨view', c₃, hrun, hid, howner⟩ | ⟨e, c₃, hrun, -⟩
      · rw [hrun] at houtcome
        cases houtcome
        rw [hid]
        exact howner
      · rw [hrun] at houtcome
        cases houtcome
    · obtain ⟨e, c₁, hrefused, -⟩ := serveRequest_refused hroute hreaches
      rw [hrefused] at h
      cases h

/-- **Who may not be served is refused**, with the database as it is, if the handlers of
administrators are reached by administrators only. -/
theorem refused_of_not_mayServe {route : ApiRoute}
    (h : appRouter.dispatch request.method request.path = some route)
    (h_admin : route.endpoint.IsAdmin → Reaches app request route → ByAdmin app request)
    (h_may : ¬ MayServe app request db route.endpoint) :
    ∃ e c, serveRequest app request db = .error e c ∧ c.committed = db := by
  by_cases hreaches : Reaches app request route
  · -- what is left to fail is that the order is the user's
    have hnot : ¬ (route.endpoint = .getOrder → ByOwner app request db request.orderId) :=
      fun howner => h_may
        ⟨fun hadmin => h_admin hadmin hreaches,
          fun horder => byCustomer_of_reaches h horder hreaches, howner⟩
    obtain ⟨hgetOrder, hnotOwner⟩ := Classical.not_imp.mp hnot
    obtain ⟨user, c₁, hknown, hcom, hsession, -, hdelivers⟩ := serveRequest_reaches h hreaches
    rw [hgetOrder] at hdelivers
    rcases run_callEndpoint_getOrder hknown hsession with
      ⟨view, c₂, -, -, howner⟩ | ⟨e, c₂, hrun, hcom'⟩
    · exact absurd howner hnotOwner
    · obtain ⟨c₃, hserve, hcom''⟩ := hdelivers.error_passed e c₂ hrun
      exact ⟨e, c₃, hserve, hcom''.trans (hcom'.trans hcom)⟩
  · obtain ⟨e, c, hserve, hcom, -⟩ := serveRequest_refused h hreaches
    exact ⟨e, c, hserve, hcom⟩

/-- The request is an administrator's, or not to a route of administrators, or there is another
reason to refuse it: its body cannot be read, the identity service raises, or its parameters
are invalid. -/
def BarredUnlessAdmin (app : Application α) (request : Request) : Prop :=
  ∀ route, appRouter.dispatch request.method request.path = some route →
    route.endpoint.IsAdmin →
      ByAdmin app request ∨ (∃ e, request.readBody = .error e) ∨
        (∃ e, app.identity request = .error e) ∨ ∃ e, request.validate route.endpoint = .error e

/-- That is, if it reaches a handler of administrators it is an administrator's. -/
theorem barredUnlessAdmin_iff :
    BarredUnlessAdmin app request ↔
      ∀ route, appRouter.dispatch request.method request.path = some route →
        route.endpoint.IsAdmin → Reaches app request route → ByAdmin app request := by
  refine forall_congr' fun route => forall_congr' fun hroute => forall_congr' fun hadmin => ?_
  rw [reaches_admin_iff hroute hadmin]
  cases request.readBody <;> cases app.identity request <;>
    cases request.validate route.endpoint <;> simp

/-- So it is for every request outside `/api/admin`. -/
theorem barredUnlessAdmin_of_path (h : ¬ "/api/admin/".toList <+: request.path.toList) :
    BarredUnlessAdmin app request := by
  intro route hroute hadmin
  obtain ⟨hmem, -, hpath⟩ := Router.mem_of_dispatch hroute
  rw [← hpath] at h
  exact absurd ((isAdmin_iff_path route hmem).mp hadmin) h

/-- **When access is controlled**: exactly when the routes of administrators are barred to the
request unless it is an administrator's, which no dependency of theirs sees to. -/
theorem accessControlled_iff (app : Application α) (request : Request) (db : Database) :
    AccessControlled app request db ↔ BarredUnlessAdmin app request := by
  rw [barredUnlessAdmin_iff]
  refine ⟨?_, ?_⟩
  · intro h route hroute hadmin hreaches
    exact h.admin_called _ (mem_called_iff.mpr ⟨route, hroute, hreaches, rfl⟩) hadmin
  · intro h
    constructor
    case admin_called =>
      intro endpoint hcalled hadmin
      obtain ⟨route, hroute, hreaches, rfl⟩ := mem_called_iff.mp hcalled
      exact h route hroute hadmin hreaches
    -- customers are checked by a dependency of the router, for every request
    case order_called =>
      intro endpoint hcalled horder
      obtain ⟨route, hroute, hreaches, rfl⟩ := mem_called_iff.mp hcalled
      exact byCustomer_of_reaches hroute horder hreaches
    case order_returned =>
      intro view c hserve
      exact byOwner_of_served hserve
    case refused =>
      intro route hroute hmay
      refine refused_of_not_mayServe hroute (fun hadmin => ?_) hmay
      exact h route hroute hadmin

end Access

/-! ### A guest and a handler of administrators -/

/-- The application with a body of `create_category_entrypoint` that answers with an id. -/
def sampleApplication : Application UUID where
  pydantic := .strict
  settings := ⟨"ory_kratos_session", "admin"⟩
  getSession := fun _ => .ok none
  body := fun _ _ => pure 1
  fault := none

/-- `POST /api/admin/category` without cookies. -/
def createCategoryRequest : Request where
  method := .post
  path := "/api/admin/category"
  cookies := .empty
  session := .empty
  orderId := 0
  readBody := .ok ()
  validate := fun _ => .ok ()

theorem createCategory_called_by_guest :
    Endpoint.createCategory ∈ (endState
        (serveRequest sampleApplication createCategoryRequest sampleDatabase)).env.called ∧
      sampleApplication.identity createCategoryRequest = .ok none ∧
      ¬ AccessControlled sampleApplication createCategoryRequest sampleDatabase := by
  have hidentity : sampleApplication.identity createCategoryRequest = .ok none := rfl
  have hroute : appRouter.dispatch createCategoryRequest.method createCategoryRequest.path =
      some ⟨.post, "/api/admin/category", [.initCtxDbSession, .getCurrentUser],
        .createCategory⟩ := by
    decide +kernel
  have hadmin : Endpoint.createCategory.IsAdmin := by decide +kernel
  have hcalled : Endpoint.createCategory ∈
      (endState (serveRequest sampleApplication createCategoryRequest sampleDatabase)).env.called :=
    mem_called_iff.mpr
      ⟨_, hroute, (reaches_admin_iff hroute hadmin).mpr ⟨rfl, ⟨none, hidentity⟩, rfl⟩, rfl⟩
  -- it was called, though nobody is logged in
  refine ⟨hcalled, hidentity, fun h => ?_⟩
  obtain ⟨user, huser, -⟩ := h.admin_called _ hcalled hadmin
  rw [hidentity] at huser
  cases huser

end Storefront
