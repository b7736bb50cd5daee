import Storefront.Errors

/-!
# Answers to errors

`process_server_error` makes the answer to an instance of `ServerError`, and fills the instance
in. `setup_fastapi_error_handlers` registers it for `ServerError`, and `_redefine_error` for the
errors of FastAPI and pydantic, which are answered as errors of the application. The instance
that such an answer is made from is created at the registration and kept (`Handlers`).

* `error_answers_independent_iff` — the answers to a sequence of redefined errors depend on
  nothing but the error if and only if errors of one kind have one text, up to empty ones;
* `text_of_earlier_request` — otherwise a text is answered to a later request;
* `domain_error_answered_iff` — an exception of the application is answered as itself if and
  only if it derives from `ServerError`;
* `out_of_stock_hidden` — one that derives from `BaseError` directly is answered as an unknown
  error.
-/

namespace Storefront

/-! ### Instances of `ServerError` -/

/-- A class that derives from `ServerError`. -/
structure ServerErrorClass where
  cls : ExcClass
  derives : cls.issubclass .serverError = true

namespace ServerErrorClass

def statusCode (c : ServerErrorClass) : Nat :=
  c.cls.statusCode.get (ExcClass.isSome_of_serverError c.derives).1

def message (c : ServerErrorClass) : String :=
  c.cls.message.get (ExcClass.isSome_of_serverError c.derives).2.1

def captureBySentry (c : ServerErrorClass) : Bool :=
  c.cls.captureBySentry.get (ExcClass.isSome_of_serverError c.derives).2.2

end ServerErrorClass

/-- The truth value of a text that may be `None`. -/
def truthy : Option String → Bool
  | some s => s ≠ ""
  | none => false

/-- An instance of `ServerError`. -/
structure ServerErrorObject where
  cls : ServerErrorClass
  message : String
  debug : Option String
  sentryId : Option String

/-- `ServerError.__init__` -/
def ServerErrorObject.init (cls : ServerErrorClass) (message debug : Option String) :
    ServerErrorObject where
  cls
  message := if truthy message then message.getD "" else cls.message
  debug
  sentryId := none

/-- The body of an answer, with the debug text where `is_debug` is set. -/
structure ErrorBody where
  title : String
  message : String
  debug : Option (Option String)
  deriving DecidableEq, Repr

/-- The response, with its status and the header for the id in Sentry. -/
structure ErrorAnswer where
  statusCode : Nat
  body : ErrorBody
  sentryIdHeader : Option String
  deriving DecidableEq, Repr

/-- `as_dict` -/
def ServerErrorObject.asDict (exc : ServerErrorObject) (isDebug : Bool) : ErrorBody where
  title := exc.cls.cls.name
  message := exc.message
  debug := if isDebug then some exc.debug else none

/-! ### The handlers -/

/-- An error that is answered as one of the application. -/
inductive RedefinedError
  | requestValidation | responseValidation | pydanticValidation | notFound | methodNotAllowed
  deriving DecidableEq, Repr

namespace RedefinedError

/-- The `server_error_type` that it is redefined to (`errors/transport.py`). -/
def serverErrorType : RedefinedError → ServerErrorClass
  | requestValidation =>
    ⟨.sub { name := "InputValidationError", statusCode := some 400
            message := some "Некорректный запрос", captureBySentry := some false } .serverError,
      by decide⟩
  | responseValidation =>
    ⟨.sub { name := "ResponseValidationError", statusCode := some 500
            message := some "Ошибка валидации ответа", captureBySentry := some false } .serverError,
      by decide⟩
  | pydanticValidation =>
    ⟨.sub { name := "ValidationError", statusCode := some 400
            message := some "Ошибка проверки данных", captureBySentry := some false } .serverError,
      by decide⟩
  | notFound =>
    ⟨.sub { name := "NotFoundError", statusCode := some 404
            message := some "Pecypc не найден", captureBySentry := some false } .serverError,
      by decide⟩
  | methodNotAllowed => ⟨PyExc.unknownAnswerError.cls, by decide⟩

/-- The status it is registered for, if it is not registered for a class. -/
def status? : RedefinedError → Option Nat
  | notFound => some 404
  | methodNotAllowed => some 405
  | _ => none

/-- The class it is registered for. -/
def excClass? : RedefinedError → Option ExcClass
  | requestValidation =>
    some (.sub { name := "RequestValidationError" }
      (.sub { name := "ValidationException" } .exception))
  | responseValidation =>
    some (.sub { name := "ResponseValidationError" }
      (.sub { name := "ValidationException" } .exception))
  | pydanticValidation => some PyExc.validationError.cls
  | _ => none

end RedefinedError

/-- `_make_server_error_instance` -/
def makeServerErrorInstance (error : RedefinedError) : ServerErrorObject :=
  match error.status? with
  | some status => .init error.serverErrorType none
      (some s!"redefined internal http status {status}")
  | none => .init error.serverErrorType none none

/-- The instances that the handlers of the application hold. -/
abbrev Handlers := RedefinedError → ServerErrorObject

/-- The handlers that `setup_fastapi_error_handlers` registers with `_redefine_error`. -/
def setupFastapiErrorHandlers : Handlers := makeServerErrorInstance

section Answers

variable (captureException : ExcClass → Option String) (isDebug : Bool)

/-- `prepare_server_exc`; the tags of the scope are left out. -/
def prepareServerExc (exc : ServerErrorObject) (sentryId : Option String) : ServerErrorObject :=
  let sentryId := if exc.cls.captureBySentry && !truthy exc.sentryId then
    captureException exc.cls.cls else sentryId
  if truthy sentryId && !truthy exc.sentryId then { exc with sentryId } else exc

/-- `process_server_error`: the answer, and the instance after it. `oldExc` is the text of the
exception that is redefined, if there is one. -/
def processServerError (exc : ServerErrorObject) (sentryId oldExc : Option String) :
    ErrorAnswer × ServerErrorObject :=
  let exc := if oldExc.isSome && !truthy exc.debug then { exc with debug := oldExc } else exc
  let exc := prepareServerExc captureException exc sentryId
  ({ statusCode := exc.cls.statusCode
     body := exc.asDict isDebug
     sentryIdHeader := if truthy sentryId then sentryId else none }, exc)

/-- A request that fails with an error that is redefined, and the text of the error. -/
structure FailedRequest where
  error : RedefinedError
  text : String
  deriving DecidableEq, Repr

/-- `_redefine_error` -/
def redefineError (handlers : Handlers) (request : FailedRequest) : ErrorAnswer × Handlers :=
  let (answer, exc) := processServerError captureException isDebug (handlers request.error) none
    (some request.text)
  (answer, Function.update handlers request.error exc)

/-- The handlers after a sequence of failed requests. -/
def handlersAfter (requests : List FailedRequest) : Handlers :=
  requests.foldl (fun handlers request =>
    (redefineError captureException isDebug handlers request).2) setupFastapiErrorHandlers

/-- The answer to a request after others. -/
def answerAfter (before : List FailedRequest) (request : FailedRequest) : ErrorAnswer :=
  (redefineError captureException isDebug (handlersAfter captureException isDebug before)
    request).1

end Answers

/-! ### Answers to sequences of redefined errors -/

/-- The first text of an error of the kind that is not empty. -/
def firstText (error : RedefinedError) (requests : List FailedRequest) : Option String :=
  (requests.find? fun request => request.error = error && request.text ≠ "").map (·.text)

/-- Two requests that fail with the same validation error give the same text, or the first an
empty one. -/
def SameText (earlier later : FailedRequest) : Prop :=
  earlier.error = later.error → earlier.error.status? = none →
    earlier.text = "" ∨ earlier.text = later.text

section Sequences

variable (captureException : ExcClass → Option String)

/-- The text that is kept, if it is not empty. -/
def ServerErrorObject.kept (exc : ServerErrorObject) : Option String :=
  exc.debug.filter fun text => text ≠ ""

/-- What `prepare_server_exc` fills in is no part of the answer. -/
theorem prepareServerExc_frame (exc : ServerErrorObject) (sentryId : Option String) :
    (prepareServerExc captureException exc sentryId).cls = exc.cls ∧
      (prepareServerExc captureException exc sentryId).message = exc.message ∧
        (prepareServerExc captureException exc sentryId).debug = exc.debug := by
  unfold prepareServerExc
  extract_lets
  split <;> exact ⟨rfl, rfl, rfl⟩

/-- A text is kept, or the new one is. -/
theorem filled_debug (exc : ServerErrorObject) (text : String) :
    ∃ exc' : ServerErrorObject, (if (some text).isSome && !truthy exc.debug then
        { exc with debug := some text } else exc) = exc' ∧
      exc'.cls = exc.cls ∧ exc'.message = exc.message ∧
        exc'.debug = some (exc.kept.getD text) := by
  obtain ⟨cls, message, debug, sentryId⟩ := exc
  cases debug with
  | none => exact ⟨_, if_pos rfl, rfl, rfl, rfl⟩
  | some s =>
    -- an empty text is falsy, so it is filled like none
    by_cases hs : s = ""
    · subst hs
      exact ⟨_, if_pos rfl, rfl, rfl, rfl⟩
    · have hkept : (some s).filter (fun text => text ≠ "") = some s :=
        Option.filter_eq_some_iff.mpr ⟨rfl, decide_eq_true hs⟩
      refine ⟨_, if_neg (by simp [truthy, hs]), rfl, rfl, ?_⟩
      unfold ServerErrorObject.kept
      rw [hkept]
      rfl

/-- **One turn of a handler.** The instance keeps its class and message, and a text that it has;
the answer has the text that the instance has afterwards. -/
theorem processServerError_redefined (isDebug : Bool) (exc : ServerErrorObject) (text : String) :
    ∃ exc', processServerError captureException isDebug exc none (some text) =
        ({ statusCode := exc.cls.statusCode, body := exc'.asDict isDebug, sentryIdHeader := none },
          exc') ∧
      exc'.cls = exc.cls ∧ exc'.message = exc.message ∧
        exc'.debug = some (exc.kept.getD text) := by
  obtain ⟨filled, hfilled, hcls, hmessage, hdebug⟩ := filled_debug exc text
  obtain ⟨hcls', hmessage', hdebug'⟩ := prepareServerExc_frame captureException filled none
  refine ⟨prepareServerExc captureException filled none, ?_, hcls'.trans hcls,
    hmessage'.trans hmessage, hdebug'.trans hdebug⟩
  unfold processServerError
  simp only [hfilled, hcls', hcls]
  rfl

/-- What is kept after it. -/
theorem kept_of_filled {exc exc' : ServerErrorObject} {text : String}
    (h : exc'.debug = some (exc.kept.getD text)) :
    exc'.kept = exc.kept.or (if text ≠ "" then some text else none) := by
  have hfilter : exc'.kept = (some (exc.kept.getD text)).filter fun text => text ≠ "" := by
    rw [← h]
    rfl
  rw [hfilter]
  cases hkept : exc.kept with
  | none =>
    show (some text).filter _ = if text ≠ "" then some text else none
    rw [Option.filter_some]
    simp
  | some s =>
    have hs : s ≠ "" := of_decide_eq_true (Option.filter_eq_some_iff.mp hkept).2
    exact Option.filter_eq_some_iff.mpr ⟨rfl, decide_eq_true hs⟩

/-- The text that is kept after one more request. -/
theorem firstText_append (error : RedefinedError) (before : List FailedRequest)
    (request : FailedRequest) :
    firstText error (before ++ [request]) = (firstText error before).or
      (if request.error = error ∧ request.text ≠ "" then some request.text else none) := by
  unfold firstText
  rw [List.find?_append, Option.map_or]
  refine congrArg _ ?_
  by_cases h : request.error = error ∧ request.text ≠ ""
  · rw [if_pos h, List.find?_cons_of_pos (by simpa using h)]
    rfl
  · rw [if_neg h, List.find?_cons_of_neg (by simpa using h)]
    rfl

/-- **What the handlers keep**: the text of the registration, or the first one of a request. -/
theorem handlersAfter_spec (isDebug : Bool) (before : List FailedRequest)
    (error : RedefinedError) :
    (handlersAfter captureException isDebug before error).cls = error.serverErrorType ∧
    (handlersAfter captureException isDebug before error).message =
      (makeServerErrorInstance error).message ∧
    (handlersAfter captureException isDebug before error).kept =
      (makeServerErrorInstance error).kept.or (firstText error before) := by
  induction before using List.reverseRecOn with
  | nil =>
    refine ⟨?_, rfl, (Option.or_none).symm⟩
    cases error <;> rfl
  | append_singleton before request ih =>
    obtain ⟨hcls, hmessage, hkept⟩ := ih
    obtain ⟨exc', hprocess, hcls', hmessage', hdebug'⟩ := processServerError_redefined
      captureException isDebug (handlersAfter captureException isDebug before request.error)
      request.text
    -- one request assigns to the one instance of its own handler
    have hafter : handlersAfter captureException isDebug (before ++ [request]) =
        Function.update (handlersAfter captureException isDebug before) request.error exc' := by
      unfold handlersAfter
      rw [List.foldl_append]
      show (redefineError _ _ (handlersAfter captureException isDebug before) request).2 = _
      unfold redefineError
      rw [hprocess]
      rfl
    rw [hafter, firstText_append]
    by_cases herror : request.error = error
    · -- the same handler: a text is kept once there is one
      subst herror
      rw [Function.update_self]
      refine ⟨hcls'.trans hcls, hmessage'.trans hmessage, ?_⟩
      rw [kept_of_filled hdebug', hkept, Option.or_assoc]
      simp only [true_and]
    · rw [Function.update_of_ne (Ne.symm herror), if_neg fun h => herror h.1, Option.or_none]
      exact ⟨hcls, hmessage, hkept⟩

theorem body_answerAfter (before : List FailedRequest) (request : FailedRequest) :
    (answerAfter captureException true before request).body = {
      title := request.error.serverErrorType.cls.name
      message := (makeServerErrorInstance request.error).message
      debug := some (some (((makeServerErrorInstance request.error).kept.or
        (firstText request.error before)).getD request.text)) } := by
  obtain ⟨hcls, hmessage, hkept⟩ := handlersAfter_spec captureException true before request.error
  obtain ⟨exc', hprocess, hcls', hmessage', hdebug'⟩ := processServerError_redefined
    captureException true (handlersAfter captureException true before request.error) request.text
  unfold answerAfter redefineError
  rw [hprocess]
  unfold ServerErrorObject.asDict
  simp only [hcls', hcls, hmessage', hmessage, hdebug', hkept]
  rfl

/-- A text is kept from the registration where the error is registered for a status. -/
theorem kept_makeServerErrorInstance (error : RedefinedError) :
    (makeServerErrorInstance error).kept.isSome = error.status?.isSome := by
  cases error <;> decide

/-- An answer is the one without other requests exactly where the first text before is its own. -/
theorem body_eq_iff (before : List FailedRequest) (request : FailedRequest) :
    (answerAfter captureException true before request).body =
        (answerAfter captureException true [] request).body ↔
      (request.error.status? = none → ∀ text ∈ firstText request.error before,
        text = request.text) := by
  rw [body_answerAfter, body_answerAfter]
  have hkept := kept_makeServerErrorInstance request.error
  cases hstatus : request.error.status? with
  -- an error that is registered for a status has a text from there, which stays
  | some status =>
    rw [hstatus] at hkept
    obtain ⟨preset, hpreset⟩ := Option.isSome_iff_exists.mp hkept
    rw [hpreset]
    exact iff_of_true rfl nofun
  | none =>
    rw [hstatus] at hkept
    have hnone : (makeServerErrorInstance request.error).kept = none := by simpa using hkept
    rw [hnone]
    simp only [ErrorBody.mk.injEq, true_and, Option.some.injEq, Option.none_or, true_implies]
    cases firstText request.error before with
    | none => exact iff_of_true rfl nofun
    | some text =>
      show text = request.text ↔ _
      exact ⟨fun h _ htext => Option.some.inj htext ▸ h, fun h => h text rfl⟩

/-- The first text is one of a request. -/
theorem exists_of_firstText {error : RedefinedError} {requests : List FailedRequest}
    {text : String} (h : firstText error requests = some text) :
    ∃ request ∈ requests, request.error = error ∧ request.text = text ∧ text ≠ "" := by
  obtain ⟨request, hfind, rfl⟩ := Option.map_eq_some_iff.mp h
  have hp := List.find?_some hfind
  rw [Bool.and_eq_true, decide_eq_true_iff, decide_eq_true_iff] at hp
  exact ⟨request, List.mem_of_find?_eq_some hfind, hp.1, rfl, hp.2⟩

/-- Every request finds the first text, or is the one that gives it. -/
theorem firstText_of_append {before after : List FailedRequest} {request : FailedRequest}
    (h_text : request.text ≠ "") (h : ∀ text ∈ firstText request.error before,
      text = request.text) :
    firstText request.error (before ++ request :: after) = some request.text := by
  have hone : firstText request.error (before ++ [request]) = some request.text := by
    rw [firstText_append, if_pos ⟨rfl, h_text⟩]
    cases hfirst : firstText request.error before with
    | none => rfl
    | some text => exact congrArg some (h text hfirst)
  unfold firstText at hone ⊢
  rw [List.append_cons, List.find?_append, Option.map_or, hone]
  rfl

end Sequences

/-- **When error answers do not leak.** In a sequence of requests that fail with redefined errors
every answer has the body that it has without the requests before it if and only if two
requests with the same validation error give the same text, or the first an empty one. -/
theorem error_answers_independent_iff (captureException : ExcClass → Option String)
    (requests : List FailedRequest) :
    (∀ before request after, requests = before ++ request :: after →
      (answerAfter captureException true before request).body =
        (answerAfter captureException true [] request).body) ↔
      requests.Pairwise SameText := by
  refine ⟨?_, ?_⟩
  · intro hbodies
    -- every request answers with the first text before it, so with the text of an earlier one
    have hfirst : ∀ before request after, requests = before ++ request :: after →
        request.error.status? = none → ∀ text ∈ firstText request.error before,
          text = request.text := fun before request after heq =>
      (body_eq_iff captureException before request).mp (hbodies before request after heq)
    refine List.pairwise_iff_forall_sublist.mpr fun {earlier later} hsublist herror hstatus => ?_
    -- two requests in order split the list at both
    obtain ⟨front, back, rfl, hearlier, hlater⟩ := List.cons_sublist_iff.mp hsublist
    obtain ⟨before, middle, rfl⟩ := List.append_of_mem hearlier
    obtain ⟨middle', after, rfl⟩ := List.append_of_mem (List.singleton_sublist.mp hlater)
    refine or_iff_not_imp_left.mpr ?_
    intro hne
    have htext := @firstText_of_append before (middle ++ middle') earlier hne
      (hfirst before earlier (middle ++ (middle' ++ later :: after)) (by simp) hstatus)
    exact hfirst (before ++ earlier :: (middle ++ middle')) later after (by simp)
      (herror ▸ hstatus) earlier.text (herror ▸ htext)
  · -- the text that is kept is that of an earlier request, which has the same
    intro hpairwise
    rintro before request after rfl
    refine (body_eq_iff captureException before request).mpr ?_
    intro hstatus text htext
    obtain ⟨earlier, hmem, herror, rfl, hne⟩ := exists_of_firstText htext
    have hsame : SameText earlier request :=
      (List.pairwise_append.mp hpairwise).2.2 earlier hmem request List.mem_cons_self
    exact (hsame herror (herror ▸ hstatus)).resolve_left hne

/-- **A text is answered to a later request**, of whatever client. -/
theorem text_of_earlier_request :
    (answerAfter (fun _ => none) true [⟨.requestValidation, "body.phone: 79001234567"⟩]
      ⟨.requestValidation, "query.item_id: missing"⟩).body.debug =
        some (some "body.phone: 79001234567") ∧
      (answerAfter (fun _ => none) true []
        ⟨.requestValidation, "query.item_id: missing"⟩).body.debug =
          some (some "query.item_id: missing") :=
  ⟨rfl, rfl⟩

/-! ### Exceptions of the application -/

/-- An exception that a handler raises: an instance of `ServerError`, or of another class. -/
inductive RaisedError
  | server (exc : ServerErrorObject)
  | other (cls : ExcClass) (h : cls.issubclass .serverError = false)

namespace RaisedError

def cls : RaisedError → ExcClass
  | server exc => exc.cls.cls
  | other cls _ => cls

/-- The attribute `message`: only `ServerError` sets it on the instance. -/
def message : RaisedError → Option String
  | server exc => some exc.message
  | other cls _ => cls.message

end RaisedError

/-- The instance that `raise` makes. -/
def PyExc.raisedError (e : PyExc) : RaisedError :=
  if h : e.cls.issubclass .serverError = true then .server (.init ⟨e.cls, h⟩ e.message none)
  else .other e.cls (eq_false_of_ne_true h)

/-- A registered exception handler. -/
inductive ExceptionHandler
  | processServerError
  | redefineError (error : RedefinedError)
  deriving DecidableEq, Repr

/-- The handlers that are registered for classes. -/
def exceptionHandlers : List (ExcClass × ExceptionHandler) :=
  (.serverError, .processServerError) ::
    [RedefinedError.requestValidation, .responseValidation, .pydanticValidation].filterMap
      fun error => error.excClass?.map fun cls => (cls, .redefineError error)

/-- The handler of the first class in the method resolution order that has one. -/
def lookupExceptionHandler (cls : ExcClass) : Option ExceptionHandler :=
  cls.mro.findSome? fun c => exceptionHandlers.lookup c

section Answer

variable (captureException : ExcClass → Option String) (isDebug : Bool) (handlers : Handlers)
  (text traceback : String)

/-- Starlette's `ExceptionMiddleware`: the answer of the handler, if one is registered for the
exception. -/
def exceptionMiddleware (exc : RaisedError) : Option ErrorAnswer :=
  match lookupExceptionHandler exc.cls, exc with
  | some .processServerError, .server exc =>
    some (processServerError captureException isDebug exc none none).1
  | some (.redefineError error), _ =>
    some (redefineError captureException isDebug handlers ⟨error, text⟩).1
  | _, _ => none

/-- `ServerError` itself. -/
def ServerErrorClass.serverError : ServerErrorClass := ⟨.serverError, by decide⟩

/-- The two `except` clauses of `ErrorsHandlerMiddleware.dispatch`. -/
def dispatchError : RaisedError → ErrorAnswer
  | .server exc => (processServerError captureException isDebug exc none none).1
  | .other cls _ => (processServerError captureException isDebug
      (.init .serverError none (some traceback)) (captureException cls) none).1

/-- The answer to a request whose handler raises `exc`. -/
def answerRaised (exc : RaisedError) : ErrorAnswer :=
  (exceptionMiddleware captureException isDebug handlers text exc).getD
    (dispatchError captureException isDebug traceback exc)

/-- The answer has the status of the class, and the title and the message of the exception. -/
structure AnsweredAsItself (exc : RaisedError) (answer : ErrorAnswer) : Prop where
  status : exc.cls.statusCode = some answer.statusCode
  title : answer.body.title = exc.cls.name
  message : exc.message = some answer.body.message

/-- **Which handler is chosen** for an exception of the application. -/
theorem lookupExceptionHandler_of_baseError {cls : ExcClass}
    (h : cls.issubclass .baseError = true) :
    lookupExceptionHandler cls =
      if cls.issubclass .serverError then some .processServerError else none := by
  induction cls with
  | exception => exact absurd h (by decide)
  | baseError => decide
  | serverError => decide
  | expectedError => decide
  | sub body base ih =>
    have hnone : exceptionHandlers.lookup (.sub body base) = none := by
      refine List.lookup_eq_none_iff.mpr fun p hp => bne_iff_ne.mpr fun heq => ?_
      -- the classes of the libraries do not derive from `BaseError`
      have hother : ∀ p ∈ exceptionHandlers,
          p.1 = .serverError ∨ p.1.issubclass .baseError = false := by decide
      rcases hother p hp with hserver | hfalse
      · exact ExcClass.noConfusion (heq.trans hserver)
      · rw [← heq, h] at hfalse
        cases hfalse
    rw [ExcClass.issubclass_sub ExcClass.noConfusion] at h ⊢
    rw [← ih h]
    unfold lookupExceptionHandler
    rw [ExcClass.mro, List.findSome?_cons, hnone]

/-- The registered handlers answer an exception of the application as the middleware does. -/
theorem answerRaised_eq {exc : RaisedError} (h : exc.cls.issubclass .baseError = true) :
    answerRaised captureException isDebug handlers text traceback exc =
      dispatchError captureException isDebug traceback exc := by
  have hlookup := lookupExceptionHandler_of_baseError h
  unfold answerRaised exceptionMiddleware
  cases exc with
  | server exc =>
    rw [hlookup.trans (if_pos exc.cls.derives)]
    rfl
  | other cls hother =>
    rw [hlookup.trans (if_neg (Bool.eq_false_iff.mp hother))]
    rfl

/-- The answer of `process_server_error` to an exception that is not redefined. -/
theorem processServerError_raised (exc : ServerErrorObject) (sentryId : Option String) :
    (processServerError captureException isDebug exc sentryId none).1.statusCode =
        exc.cls.statusCode ∧
      (processServerError captureException isDebug exc sentryId none).1.body.title =
        exc.cls.cls.name ∧
      (processServerError captureException isDebug exc sentryId none).1.body.message =
        exc.message := by
  obtain ⟨hcls, hmessage, -⟩ := prepareServerExc_frame captureException exc sentryId
  refine ⟨?_, ?_, hmessage⟩
  · exact congrArg ServerErrorClass.statusCode hcls
  · exact congrArg (fun cls : ServerErrorClass => cls.cls.name) hcls

end Answer

/-- **When a domain error is answered as itself.** An exception of a class that derives from
`BaseError` and declares its status and message is answered with them, and with its title, if
and only if the class derives from `ServerError`, or has the name, the status and the message
of that. -/
theorem domain_error_answered_iff (captureException : ExcClass → Option String) (isDebug : Bool)
    (handlers : Handlers) (text traceback : String) (exc : RaisedError)
    (h : exc.cls.issubclass .baseError = true) {body : ClassBody} {base : ExcClass}
    (h_cls : exc.cls = .sub body base) {statusCode : Nat} {message : String}
    (h_status : body.statusCode = some statusCode) (h_message : body.message = some message) :
    AnsweredAsItself exc
        (answerRaised captureException isDebug handlers text traceback exc) ↔
      exc.cls.issubclass .serverError = true ∨
        (body.name = "ServerError" ∧ statusCode = 520 ∧ message = "Что-то пошло не так.") := by
  rw [answerRaised_eq captureException isDebug handlers text traceback h]
  cases exc with
  -- the handler of server errors answers with the exception itself
  | server exc =>
    obtain ⟨hstatus, htitle, hmessage⟩ :=
      processServerError_raised captureException isDebug exc none
    refine iff_of_true ⟨?_, htitle, congrArg some hmessage.symm⟩ (.inl exc.cls.derives)
    exact (Option.some_get _).symm.trans (congrArg some hstatus.symm)
  -- any other falls through to the general handler, which answers as a new ServerError
  | other cls hother =>
    obtain ⟨hstatus, htitle, hmessage⟩ := processServerError_raised captureException isDebug
      (.init .serverError none (some traceback)) (captureException cls)
    obtain rfl : cls = .sub body base := h_cls
    have hcode : (ExcClass.sub body base).statusCode = some statusCode := by
      show body.statusCode.or _ = _
      rw [h_status]
      rfl
    have htext : (ExcClass.sub body base).message = some message := by
      show body.message.or _ = _
      rw [h_message]
      rfl
    refine ⟨fun hanswered => .inr ?_, ?_⟩
    · have hcode' := hcode.symm.trans hanswered.status
      have htext' := htext.symm.trans hanswered.message
      rw [dispatchError, hstatus] at hcode'
      rw [dispatchError, hmessage] at htext'
      exact ⟨hanswered.title.symm.trans htitle, Option.some.inj hcode', Option.some.inj htext'⟩
    · rintro (hserver | ⟨hname, rfl, rfl⟩)
      · exact absurd (hother.symm.trans hserver) Bool.false_ne_true
      · refine ⟨?_, ?_, ?_⟩
        · exact hcode.trans (congrArg some hstatus.symm)
        · exact htitle.trans hname.symm
        · exact htext.trans (congrArg some hmessage.symm)

/-- An exception below `ServerError` is answered as itself. -/
theorem domain_error_answered_invalid :
    AnsweredAsItself PyExc.invalidCheckoutDataError.raisedError
      (answerRaised (fun _ => none) true setupFastapiErrorHandlers "" ""
        PyExc.invalidCheckoutDataError.raisedError) := by
  refine (domain_error_answered_iff _ _ _ _ _ _ (by decide) rfl rfl rfl).mpr (.inl ?_)
  decide

/-- **An item that is out of stock is answered as an unknown error.** -/
theorem out_of_stock_hidden :
    (answerRaised (fun _ => none) false setupFastapiErrorHandlers "" ""
        PyExc.catalogItemOutOfStockError.raisedError).statusCode = 520 ∧
      (answerRaised (fun _ => none) false setupFastapiErrorHandlers "" ""
        PyExc.catalogItemOutOfStockError.raisedError).body =
          { title := "ServerError", message := "Что-то пошло не так.", debug := none } ∧
      PyExc.catalogItemOutOfStockError.cls.statusCode = some 400 ∧
      ¬ AnsweredAsItself PyExc.catalogItemOutOfStockError.raisedError
        (answerRaised (fun _ => none) false setupFastapiErrorHandlers "" ""
          PyExc.catalogItemOutOfStockError.raisedError) := by
  refine ⟨rfl, rfl, rfl, fun h => ?_⟩
  exact absurd h.status (by decide)

end Storefront
