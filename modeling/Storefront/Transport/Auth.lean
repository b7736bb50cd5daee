import Storefront.Order.Entrypoints

/-!
# The session of a request and its user

The dependencies of `transport/depends/auth.py`, and the session cookie they read and write.

The session is a dictionary that `SessionMiddleware` loads from the cookie and dumps to JSON
with the response; `PrepareSessionMiddleware` fills an empty one. `get_current_user` asks the
identity service for the user of a request that has a session cookie of that service, and
empties the cart of the session when there is one. `check_customer_access` and
`check_admin_access` raise for anybody but a verified user, and a verified user of the schema
of administrators.
-/

namespace Storefront

variable {σ : Type}

/-! ### The session -/

/-- A key of the cart in the session: a text, which is what JSON has for keys, or a UUID. -/
inductive CartKey
  | text (s : String)
  | uuid (u : UUID)
  deriving DecidableEq, Repr

/-- A key that JSON has. -/
def CartKey.isText : CartKey → Bool
  | .text _ => true
  | .uuid _ => false

/-- `request.session`, by the keys that are there. Under `'favorites'` there is never
anything but the empty dictionary. -/
structure SessionData where
  cart : Option (Dict CartKey Int)
  favorites : Bool
  checkoutData : Option (List AvailableCheckoutItem)

/-- The session without a key. -/
def SessionData.empty : SessionData := ⟨none, false, none⟩

/-- `PrepareSessionMiddleware` -/
def prepareSession (session : SessionData) : SessionData :=
  if session.cart.isNone ∧ session.favorites = false ∧ session.checkoutData.isNone then
    { session with cart := some .empty, favorites := true }
  else session

/-- `json.dumps(session)`, as the session that is loaded from it: the keys of a dictionary must
be texts. -/
def dumpSession (session : SessionData) : Except PyExc SessionData :=
  if session.cart.all fun cart => cart.keys.all CartKey.isText then .ok session
  else .error .typeError

/-! ### The user -/

namespace Kratos

/-- `UserIdentity` of `integrations/ory_kratos/models.py`, with what is read of it. -/
structure UserIdentity extends Storefront.UserIdentity where
  schemaId : String
  state : String
  verified : Bool
  deriving DecidableEq, Repr

/-- What the identity service answers to `/sessions/whoami`. -/
structure Session where
  id : UUID
  schemaId : String
  state : String
  email : String
  phone : String
  /-- The `verified` of each of the `verifiable_addresses`. -/
  verifiableAddresses : List Bool
  deriving DecidableEq, Repr

/-- `UserIdentity(…)` of an answer. -/
def Session.userIdentity (session : Session) : UserIdentity where
  id := session.id
  email := session.email
  phone := session.phone
  schemaId := session.schemaId
  state := session.state
  verified := session.verifiableAddresses.any fun verified => verified

end Kratos

/-- `Settings().env.ory_kratos` -/
structure KratosSettings where
  sessionCookie : String
  adminSchema : String
  deriving DecidableEq, Repr

/-- `OryKratosClient.get_session`: the session the cookies belong to, none when the service
answers with an error, or an exception when it does not answer or its answer cannot be read. -/
abbrev GetSession := Dict String String → Except PyExc (Option Kratos.Session)

/-- Whose request it is. -/
def identify (settings : KratosSettings) (getSession : GetSession)
    (cookies : Dict String String) : Except PyExc (Option Kratos.UserIdentity) :=
  if (cookies.get? settings.sessionCookie).getD "" = "" then .ok none
  else do
    let session ← getSession cookies
    return session.map (·.userIdentity)

/-! ### The dependencies -/

/-- `get_current_user`, given whose request it is. A user has no cart in the session. -/
def getCurrentUser (identity : Except PyExc (Option Kratos.UserIdentity)) :
    App SessionData (Option Kratos.UserIdentity) := do
  let userIdentity ← liftExcept identity
  match userIdentity with
  | some user => do
    modify fun c => { c with env := { c.env with cart := some .empty } }
    return some user
  | none => return none

/-- `check_customer_access` -/
def checkCustomerAccess : Option Kratos.UserIdentity → Except PyExc Kratos.UserIdentity
  | none => .error .unauthorizedError
  | some userIdentity =>
    if userIdentity.verified then .ok userIdentity else .error .unverifiedError

/-- `check_admin_access`, on what `check_customer_access` returned. -/
def checkAdminAccess (settings : KratosSettings) (userIdentity : Kratos.UserIdentity) :
    Except PyExc Kratos.UserIdentity :=
  if userIdentity.schemaId = settings.adminSchema then .ok userIdentity
  else .error .forbiddenError

theorem checkCustomerAccess_eq_ok {identity : Option Kratos.UserIdentity}
    {user : Kratos.UserIdentity} :
    checkCustomerAccess identity = .ok user ↔ identity = some user ∧ user.verified = true := by
  cases identity with
  | none => simp [checkCustomerAccess]
  | some user' =>
    cases hverified : user'.verified with
    | false =>
      simp only [checkCustomerAccess, hverified, Bool.false_eq_true, if_false, reduceCtorEq,
        Option.some.injEq, false_iff, not_and]
      rintro rfl
      rw [hverified]
      exact Bool.false_ne_true
    | true =>
      simp only [checkCustomerAccess, hverified, if_true, Except.ok.injEq, Option.some.injEq]
      exact ⟨fun h => ⟨h, h ▸ hverified⟩, fun h => h.1⟩

theorem checkAdminAccess_eq_ok {settings : KratosSettings} {user user' : Kratos.UserIdentity} :
    checkAdminAccess settings user = .ok user' ↔
      user' = user ∧ user.schemaId = settings.adminSchema := by
  unfold checkAdminAccess
  split
  · next h => simp [h, eq_comm]
  · next h => simp [h]

/-- `get_current_user` works on the session cookie only. -/
theorem run_getCurrentUser (identity : Except PyExc (Option Kratos.UserIdentity))
    (c : Ctx Database Write SessionData) :
    (getCurrentUser identity).run c =
      match identity with
      | .error e => .error e c
      | .ok none => .ok none c
      | .ok (some user) =>
        .ok (some user) { c with env := { c.env with cart := some .empty } } := by
  cases identity with
  | error e => rfl
  | ok user => cases user <;> rfl

end Storefront
