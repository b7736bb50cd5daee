import Mathlib

/-!
# Exceptions

The exceptions of the application and of the libraries it calls. A class is known by its
name and its base class (`ExcClass.sub`), so that the hierarchy under `BaseError` is open:
`errors/base.py` declares `BaseError`, `ServerError` and `ExpectedError`, and every module
may derive from any of the three at any depth. `ExcClass.mro` is the method resolution
order; all of these classes have a single base. A class attribute is looked up along it.
-/

namespace Storefront

/-- The body of a class statement: its name and the class attributes it sets. -/
structure ClassBody where
  name : String
  statusCode : Option Nat := none
  message : Option String := none
  captureBySentry : Option Bool := none
  deriving DecidableEq, Repr

/-- An exception class. -/
inductive ExcClass
  | exception
  | baseError
  | serverError
  | expectedError
  | sub (body : ClassBody) (base : ExcClass)
  deriving DecidableEq, Repr

namespace ExcClass

/-- The method resolution order, below `object`. -/
def mro : ExcClass → List ExcClass
  | exception => [exception]
  | baseError => [baseError, exception]
  | serverError => [serverError, baseError, exception]
  | expectedError => [expectedError, serverError, baseError, exception]
  | sub body base => sub body base :: base.mro

/-- `issubclass(c, d)`. -/
def issubclass (c d : ExcClass) : Bool := d ∈ c.mro

/-- Every class of the hierarchy is an `Exception`. -/
theorem issubclass_exception (c : ExcClass) : c.issubclass exception = true := by
  unfold issubclass
  induction c with
  | sub body base ih => simpa [mro] using ih
  | _ => decide

/-- `cls.__name__` -/
def name : ExcClass → String
  | exception => "Exception"
  | baseError => "BaseError"
  | serverError => "ServerError"
  | expectedError => "ExpectedError"
  | sub body _ => body.name

/-- The class attribute `status_code`, which `BaseError` only annotates. -/
def statusCode : ExcClass → Option Nat
  | exception | baseError => none
  | serverError | expectedError => some 520
  | sub body base => body.statusCode.or base.statusCode

/-- The class attribute `message`, likewise. -/
def message : ExcClass → Option String
  | exception | baseError => none
  | serverError | expectedError => some "Что-то пошло не так."
  | sub body base => body.message.or base.message

/-- The class attribute `capture_by_sentry`. -/
def captureBySentry : ExcClass → Option Bool
  | exception => none
  | baseError => some false
  | serverError => some true
  | expectedError => some false
  | sub body base => body.captureBySentry.or base.captureBySentry

/-- A class of the hierarchy derives from what its base does. -/
theorem issubclass_sub {body : ClassBody} {base c : ExcClass} (h : c ≠ sub body base) :
    (sub body base).issubclass c = base.issubclass c := by
  unfold issubclass
  simp [mro, h]

/-- The attributes of `ServerError` are there in the classes that derive from it. -/
theorem isSome_of_serverError {c : ExcClass} (h : c.issubclass serverError = true) :
    c.statusCode.isSome = true ∧ c.message.isSome = true ∧ c.captureBySentry.isSome = true := by
  induction c with
  | exception | baseError => exact absurd h (by decide)
  | serverError | expectedError => exact ⟨rfl, rfl, rfl⟩
  | sub body base ih =>
    rw [issubclass_sub ExcClass.noConfusion] at h
    obtain ⟨hstatus, hmessage, hcapture⟩ := ih h
    refine ⟨?_, ?_, ?_⟩
    · exact Option.isSome_or.trans (by rw [hstatus, Bool.or_true])
    · exact Option.isSome_or.trans (by rw [hmessage, Bool.or_true])
    · exact Option.isSome_or.trans (by rw [hcapture, Bool.or_true])

end ExcClass

/-- An exception instance: its class, the SQLSTATE of the driver error behind it and the
message given to its constructor. -/
structure PyExc where
  cls : ExcClass
  pgcode : Option String := none
  message : Option String := none
  deriving DecidableEq, Repr

namespace PyExc

/-! ### Built-in exceptions and those of the database layer -/

/-- An instance of a class that derives from `Exception` directly. -/
def builtin (name : String) : PyExc := ⟨.sub { name } .exception, none, none⟩

def typeError : PyExc := builtin "TypeError"
def valueError : PyExc := builtin "ValueError"
def attributeError : PyExc := builtin "AttributeError"
def indexError : PyExc := builtin "IndexError"
def keyError : PyExc := builtin "KeyError"
def lookupError : PyExc := builtin "LookupError"
/-- A path or a method that no route takes. -/
def httpException : PyExc := builtin "HTTPException"
/-- A value that a pydantic model does not take. -/
def validationError : PyExc := builtin "ValidationError"
/-- What a coroutine raises when its body raises `StopIteration`. -/
def runtimeError : PyExc := builtin "RuntimeError"
/-- A session that needs a rollback. -/
def pendingRollbackError : PyExc := builtin "PendingRollbackError"

/-- `psycopg2.errorcodes`. -/
def checkViolation : String := "23514"
def uniqueViolation : String := "23505"
def foreignKeyViolation : String := "23503"
def notNullViolation : String := "23502"

/-- A value that the database driver does not take. -/
def dataError : PyExc := builtin "DBAPIError"

/-- A constraint of the database was violated. -/
def integrityError (pgcode : String) : PyExc :=
  ⟨.sub { name := "IntegrityError" } .exception, some pgcode, none⟩

/-! ### Exceptions of the application -/

/-- `raise Cls` for a class with the given body and base. -/
def raised (body : ClassBody) (base : ExcClass) : PyExc := ⟨.sub body base, none, none⟩

/-- `database/repositories/catalog.py` -/
def catalogItemNotFoundError : PyExc :=
  raised { name := "CatalogItemNotFoundError", statusCode := some 404
           message := some "Товар не найден" } .expectedError

def catalogItemOutOfStockError : PyExc :=
  raised { name := "CatalogItemOutOfStockError", statusCode := some 400
           message := some "Отсутствует необходимое кол-во товаров" } .baseError

/-- `database/repositories/user.py` -/
def cartItemNotFoundError : PyExc :=
  raised { name := "CartItemNotFoundError", statusCode := some 404
           message := some "Товар не найден" } .expectedError

/-- `services/catalog/errors.py` -/
def incorrectItemsSectionsError : PyExc :=
  raised { name := "IncorrectItemsSectionsError", statusCode := some 400
           message := some "Товары состоят в разных секциях" } .baseError

/-- `services/order/errors.py` -/
def invalidCheckoutDataError : PyExc :=
  raised { name := "InvalidCheckoutDataError", statusCode := some 400
           message := some "Неверные данные для оформления заказа" } .serverError

def checkoutDataIsEmptyError : PyExc :=
  raised { name := "CheckoutDataIsEmptyError", statusCode := some 400
           message := some "Отсутствуют данные для оформления заказа" } .expectedError

/-- `services/user/errors.py` -/
def cartItemQuantityInvalidError : PyExc :=
  raised { name := "CartItemQuantityInvalidError", statusCode := some 400
           message := some "Неверное кол-во единиц товара в корзине" } .expectedError

/-- `errors/auth.py` -/
def unauthorizedError : PyExc :=
  raised { name := "UnauthorizedError", statusCode := some 401
           message := some "Отсутствует доступ для неавторизованного пользователя." } .expectedError

def unverifiedError : PyExc :=
  raised { name := "UnverifiedError", statusCode := some 401
           message := some "Пользователь не подтвердил свою почту" } .expectedError

def forbiddenError : PyExc :=
  raised { name := "ForbiddenError", statusCode := some 403
           message := some "Недостаточно прав" } .expectedError

/-- `errors/transport.py` -/
def unknownAnswerError : PyExc :=
  raised { name := "UnknownAnswerError", statusCode := some 502
           message := some "Bad Gateway", captureBySentry := some false } .serverError

end PyExc

end Storefront
