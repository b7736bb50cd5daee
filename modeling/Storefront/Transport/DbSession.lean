import Storefront.Errors
import Storefront.Library.UnitOfWork

/-!
# The transaction of a request

`init_ctx_db_session` (`transport/depends/db_session.py`) wraps every handler: it commits
the session of the request after a handler that returned, unless the method is GET, rolls
back after an exception, unless it is an `ExpectedError` or the method is GET, passes the
exception on and removes the scoped session in every case.

`run_initCtxDbSession` says what this comes to for any handler: the exception that leaves
the dependency is the handler's own or the one the commit raised, and the session is gone.
It follows that a request is all or nothing (`initCtxDbSession_all_or_nothing`): a handler
seen as a sequence of writes and flushes (`HandlerBody`) only moves writes into its session.
The invariant of such a sequence is `run_handlerBody`: as long as no flush has failed, the
session's view and its pending writes account for all writes made so far; once one has, the
session stays broken and its commit raises.
-/

namespace Storefront

variable {Db W σ α : Type}

/-- HTTP methods. -/
inductive Method
  | get | head | post | put | patch | delete | options
  deriving DecidableEq, Repr

/-- `init_ctx_db_session` around `handler`. `fault` is what goes wrong at the commit itself,
if anything does. -/
def initCtxDbSession (B : Backend Db W PyExc) (fault : Option PyExc) (method : Method)
    (handler : EStateM PyExc (Ctx Db W σ) α) : EStateM PyExc (Ctx Db W σ) α := do
  try
    let answer ← handler
    if method != .get then
      Session.commit B fault
    pure answer
  catch error =>
    if !error.cls.issubclass .expectedError && method != .get then
      Session.rollback
    throw error
  finally
    Session.remove

/-- The context once the scoped session is removed. -/
def Ctx.closed (c : Ctx Db W σ) : Ctx Db W σ := { c with session := .start c.committed }

@[simp] theorem committed_closed (c : Ctx Db W σ) : c.closed.committed = c.committed := rfl
@[simp] theorem env_closed (c : Ctx Db W σ) : c.closed.env = c.env := rfl

/-- What the dependency does with the outcome of the handler. Whether it rolls back or not,
the removal of the session discards what was not committed. -/
theorem run_initCtxDbSession (B : Backend Db W PyExc) (fault : Option PyExc) (method : Method)
    (handler : EStateM PyExc (Ctx Db W σ) α) (c : Ctx Db W σ) :
    (initCtxDbSession B fault method handler).run c =
      match handler.run c with
      | .error e c' => .error e c'.closed
      | .ok answer c' =>
        if method = .get then .ok answer c'.closed
        else match (Session.commit B fault).run c' with
          | .error e c'' => .error e c''.closed
          | .ok _ c'' => .ok answer c''.closed := by
  -- the rollback, where there is one, changes nothing the removal does not
  have h_except : ∀ (e : PyExc) (c' : Ctx Db W σ), ∃ c'' : Ctx Db W σ,
      (do
        if !e.cls.issubclass .expectedError && method != .get then
          Session.rollback
        throw e : EStateM PyExc (Ctx Db W σ) α).run c' = .error e c'' ∧
      c''.closed = c'.closed := by
    intro e c'
    cases hcond : !e.cls.issubclass .expectedError && method != .get with
    | true => exact ⟨c'.closed, rfl, rfl⟩
    | false => exact ⟨c', rfl, rfl⟩
  -- `finally` closes the session, whatever comes before
  have h_remove : ∀ c' : Ctx Db W σ,
      (Session.remove : EStateM PyExc (Ctx Db W σ) Unit).run c' = .ok () c'.closed :=
    fun _ => rfl
  unfold initCtxDbSession
  rw [run_tryFinally _ h_remove, run_tryCatch, EStateM.run_bind]
  cases hrun : handler.run c with
  | error e c' =>
    obtain ⟨c'', hc'', hclosed⟩ := h_except e c'
    simp only [hc'', hclosed]
  | ok answer c' =>
    by_cases hget : method = .get
    · subst hget
      rfl
    · have hne : (method != .get) = true := by simpa using hget
      simp only [hne, if_true, if_neg hget, EStateM.run_bind]
      cases hcommit : (Session.commit B fault).run c' with
      | ok u c'' => rfl
      | error e c'' =>
        obtain ⟨c₃, hc₃, hclosed⟩ := h_except e c''
        simp only [hne, Bool.and_true] at hc₃
        simp only [Bool.and_true, hc₃, hclosed]

/-- A handler that returned is committed with what it has not flushed yet. -/
theorem run_initCtxDbSession_ok {B : Backend Db W PyExc} {method : Method}
    {handler : EStateM PyExc (Ctx Db W σ) α} {c c' : Ctx Db W σ} {answer : α}
    (h : handler.run c = .ok answer c') (h_method : method ≠ .get)
    (h_broken : c'.session.broken = false) {db : Db}
    (h_apply : B.applyAll c'.session.pending c'.session.view = .ok db) :
    (initCtxDbSession B none method handler).run c = .ok answer (Ctx.start db c'.env) := by
  rw [run_initCtxDbSession, h]
  simp only [if_neg h_method, Session.run_commit_ok B c' h_broken h_apply]
  rfl

/-- A handler that raised leaves the committed state it ran on. -/
theorem run_initCtxDbSession_error {B : Backend Db W PyExc} {fault : Option PyExc}
    {method : Method} {handler : EStateM PyExc (Ctx Db W σ) α} {c c' : Ctx Db W σ} {e : PyExc}
    (h : handler.run c = .error e c') :
    (initCtxDbSession B fault method handler).run c = .error e c'.closed := by
  rw [run_initCtxDbSession, h]

/-- **Inversion of a request that returned**: its handler has, and what the handler had not
flushed was committed unless it was a GET. -/
theorem initCtxDbSession_eq_ok {B : Backend Db W PyExc} {fault : Option PyExc} {method : Method}
    {handler : EStateM PyExc (Ctx Db W σ) α} {c c' : Ctx Db W σ} {answer : α} :
    (initCtxDbSession B fault method handler).run c = .ok answer c' ↔
      ∃ c₁, handler.run c = .ok answer c₁ ∧
        ((method = .get ∧ c' = c₁.closed) ∨
          (method ≠ .get ∧ fault = none ∧ c₁.session.broken = false ∧
            ∃ db, B.applyAll c₁.session.pending c₁.session.view = .ok db ∧
              c' = Ctx.start db c₁.env)) := by
  refine ⟨?_, ?_⟩
  · intro h
    rw [run_initCtxDbSession] at h
    cases hrun : handler.run c with
    | error e c₁ =>
      rw [hrun] at h
      cases h
    | ok answer₁ c₁ =>
      rw [hrun] at h
      by_cases hget : method = .get
      · -- a GET commits nothing
        simp only [if_pos hget] at h
        cases h
        exact ⟨c₁, rfl, .inl ⟨hget, rfl⟩⟩
      · simp only [if_neg hget] at h
        -- the commit flushes what is pending, or raises
        rcases Session.run_commit_cases B c₁ fault with
          ⟨db, hfault, hbroken, happly, hcommit⟩ | ⟨e, c₂, hcommit, -, -⟩
        · rw [hcommit] at h
          cases h
          exact ⟨c₁, rfl, .inr ⟨hget, hfault, hbroken, db, happly, rfl⟩⟩
        · rw [hcommit] at h
          cases h
  · rintro ⟨c₁, hrun, ⟨rfl, rfl⟩ | ⟨hget, rfl, hbroken, db, happly, rfl⟩⟩
    · rw [run_initCtxDbSession, hrun]
      rfl
    · exact run_initCtxDbSession_ok hrun hget hbroken happly

/-- The dependency works on the session only. -/
theorem env_initCtxDbSession (B : Backend Db W PyExc) (fault : Option PyExc) (method : Method)
    (handler : EStateM PyExc (Ctx Db W σ) α) (c : Ctx Db W σ) :
    (endState ((initCtxDbSession B fault method handler).run c)).env =
      (endState (handler.run c)).env := by
  rw [run_initCtxDbSession]
  cases handler.run c with
  | error e c' => rfl
  | ok answer c' =>
    by_cases hget : method = .get
    · simp only [if_pos hget]
      rfl
    · simp only [if_neg hget]
      -- commit and rollback are about the database alone
      rcases Session.run_commit_cases B c' fault with
        ⟨db, -, -, -, hcommit⟩ | ⟨e, c'', hcommit, -, henv⟩
      · rw [hcommit]
        rfl
      · rw [hcommit]
        exact henv

/-- A request that raised has committed nothing itself. -/
theorem committed_initCtxDbSession_error {B : Backend Db W PyExc} {fault : Option PyExc}
    {method : Method} {handler : EStateM PyExc (Ctx Db W σ) α} {c c' : Ctx Db W σ} {e : PyExc}
    (h : (initCtxDbSession B fault method handler).run c = .error e c') :
    c'.committed = (endState (handler.run c)).committed := by
  rw [run_initCtxDbSession] at h
  cases hrun : handler.run c with
  | error e₁ c₁ =>
    rw [hrun] at h
    cases h
    rfl
  | ok answer c₁ =>
    rw [hrun] at h
    by_cases hget : method = .get
    · simp only [if_pos hget] at h
      cases h
    · simp only [if_neg hget] at h
      -- a commit that raises publishes nothing
      rcases Session.run_commit_cases B c₁ fault with
        ⟨db, -, -, -, hcommit⟩ | ⟨e₂, c₂, hcommit, hcom, -⟩
      · rw [hcommit] at h
        cases h
      · rw [hcommit] at h
        cases h
        exact hcom

/-- The session of the context has not been used. -/
def Ctx.Untouched (c : Ctx Db W σ) : Prop := c.session = .start c.committed

/-- After a handler that has not used the session nothing is committed. -/
theorem untouched_initCtxDbSession (B : Backend Db W PyExc) (fault : Option PyExc)
    (method : Method) {handler : EStateM PyExc (Ctx Db W σ) α} {c : Ctx Db W σ}
    (h : (endState (handler.run c)).Untouched) :
    (endState ((initCtxDbSession B fault method handler).run c)).Untouched ∧
      (endState ((initCtxDbSession B fault method handler).run c)).committed =
        (endState (handler.run c)).committed := by
  rw [run_initCtxDbSession]
  cases hrun : handler.run c with
  | error e c' => exact ⟨rfl, rfl⟩
  | ok answer c' =>
    rw [hrun, endState_ok] at h
    by_cases hget : method = .get
    · simp only [if_pos hget]
      exact ⟨rfl, rfl⟩
    · simp only [if_neg hget]
      rcases Session.run_commit_cases B c' fault with
        ⟨db, -, -, happly, hcommit⟩ | ⟨e, c'', hcommit, hcom, -⟩
      · -- there is nothing to commit
        rw [h] at happly
        obtain rfl : c'.committed = db := Except.ok.inj happly
        rw [hcommit]
        exact ⟨rfl, rfl⟩
      · rw [hcommit]
        exact ⟨rfl, hcom⟩

/-! ### Handlers as sequences of writes and flushes -/

/-- The part of a handler that works on its session: writes and flushes, in any number,
ending normally or with an exception. After a flush the handler sees the exception the flush
raised, if it raised one, and goes on in any way. -/
inductive HandlerBody (W : Type)
  | done
  | raise (e : PyExc)
  | write (w : W) (next : HandlerBody W)
  | flush (next : Option PyExc → HandlerBody W)

/-- The exception a flush raises, if it raises one. -/
def flushError (B : Backend Db W PyExc) (c : Ctx Db W σ) : Option PyExc :=
  match (Session.flush B).run c with
  | .ok _ _ => none
  | .error e _ => some e

/-- Run a handler body on the session of its request. -/
def HandlerBody.run (B : Backend Db W PyExc) : HandlerBody W → EStateM PyExc (Ctx Db W σ) Unit
  | .done => pure ()
  | .raise e => throw e
  | .write w next => do
    Session.add w
    next.run B
  | .flush next => do
    let raised ← tryCatch (do Session.flush B; pure none) fun e => pure (some e)
    (next raised).run B

/-- The writes a handler body makes when it is run, in order. -/
def HandlerBody.writes (B : Backend Db W PyExc) : HandlerBody W → Ctx Db W σ → List W
  | .done, _ => []
  | .raise _, _ => []
  | .write w next, c =>
    w :: next.writes B { c with session := { c.session with pending := c.session.pending ++ [w] } }
  | .flush next, c => (next (flushError B c)).writes B (endState ((Session.flush B).run c))

theorem run_flush_body (B : Backend Db W PyExc) (next : Option PyExc → HandlerBody W)
    (c : Ctx Db W σ) :
    ((HandlerBody.flush next).run B).run c =
      ((next (flushError B c)).run B).run (endState ((Session.flush B).run c)) := by
  have hcaught :
      (tryCatch (do Session.flush B; pure none) fun e => pure (some e) :
          EStateM PyExc (Ctx Db W σ) (Option PyExc)).run c =
        .ok (flushError B c) (endState ((Session.flush B).run c)) := by
    rw [run_tryCatch, EStateM.run_bind]
    unfold flushError
    cases (Session.flush B).run c <;> rfl
  exact run_bind_ok hcaught

/-- What a handler body can do to the context it runs in. The committed state and the rest
of the request stay as they were, and a session that is not broken at the end never was:
then the writes pending at the start, followed by those made, lead from the view at the
start to the same state as those pending at the end do from the view at the end. -/
theorem run_handlerBody (B : Backend Db W PyExc) (body : HandlerBody W) (c : Ctx Db W σ) :
    let c' := endState ((body.run B).run c)
    c'.committed = c.committed ∧ c'.env = c.env ∧
      (c'.session.broken = false → c.session.broken = false ∧
        B.applyAll (c.session.pending ++ body.writes B c) c.session.view =
          B.applyAll c'.session.pending c'.session.view) := by
  induction body generalizing c with
  | done =>
    refine ⟨rfl, rfl, fun hb => ⟨hb, ?_⟩⟩
    rw [HandlerBody.writes, List.append_nil]
    rfl
  | raise e =>
    refine ⟨rfl, rfl, fun hb => ⟨hb, ?_⟩⟩
    rw [HandlerBody.writes, List.append_nil]
    rfl
  -- the write joins the pending ones
  | write w next ih =>
    obtain ⟨hcom, henv, hacc⟩ :=
      ih { c with session := { c.session with pending := c.session.pending ++ [w] } }
    refine ⟨hcom, henv, fun hb => ?_⟩
    obtain ⟨hb', heq⟩ := hacc hb
    refine ⟨hb', ?_⟩
    rw [HandlerBody.writes, List.append_cons]
    exact heq
  | flush next ih =>
    obtain ⟨hcom, henv, hacc⟩ := ih (flushError B c) (endState ((Session.flush B).run c))
    rw [run_flush_body]
    rw [HandlerBody.writes]
    cases hb : c.session.broken with
    | true =>
      -- a broken session stays broken
      rw [Session.run_flush_broken B c hb] at hcom henv hacc ⊢
      refine ⟨hcom, henv, fun hb' => ?_⟩
      have hnot := (hacc hb').1
      rw [endState_error, hb] at hnot
      cases hnot
    | false =>
      cases ha : B.applyAll c.session.pending c.session.view with
      | error e =>
        -- the flush breaks the session
        rw [Session.run_flush_error B c hb ha] at hcom henv hacc ⊢
        exact ⟨hcom, henv, fun hb' => by cases (hacc hb').1⟩
      | ok db =>
        rw [Session.run_flush_ok B c hb ha] at hcom henv hacc ⊢
        -- the pending writes are in the view now
        refine ⟨hcom, henv, fun hb' => ⟨rfl, ?_⟩⟩
        rw [Backend.applyAll_append_ok B ha]
        exact (hacc hb').2

/-- **A request is all or nothing.** The exception of a handler that raised is passed on and
the committed state is the one before the request. So it is after a GET, whatever the handler
wrote, and after a commit that raised, whose exception is passed on. Otherwise the committed
state is the one before the request with all writes of the handler. -/
theorem initCtxDbSession_all_or_nothing (B : Backend Db W PyExc) (fault : Option PyExc)
    (method : Method) (body : HandlerBody W) (db : Db) (env : σ) :
    match (body.run B).run (Ctx.start db env) with
    | .error e _ =>
      (initCtxDbSession B fault method (body.run B)).run (Ctx.start db env) =
        .error e (Ctx.start db env)
    | .ok _ c =>
      if method = .get then
        (initCtxDbSession B fault method (body.run B)).run (Ctx.start db env) =
          .ok () (Ctx.start db env)
      else match (Session.commit B fault).run c with
        | .error e _ =>
          (initCtxDbSession B fault method (body.run B)).run (Ctx.start db env) =
            .error e (Ctx.start db env)
        | .ok _ _ =>
          ∃ db', B.applyAll (body.writes B (Ctx.start db env)) db = .ok db' ∧
            (initCtxDbSession B fault method (body.run B)).run (Ctx.start db env) =
              .ok () (Ctx.start db' env) := by
  obtain ⟨hcom, henv, hacc⟩ := run_handlerBody B body (Ctx.start db env)
  -- a context with the committed state and environment of the start closes to the start
  have h_closed : ∀ c : Ctx Db W σ, c.committed = db → c.env = env →
      c.closed = Ctx.start db env := by
    rintro ⟨committed, session, env'⟩ rfl rfl
    rfl
  rw [run_initCtxDbSession]
  cases hrun : (body.run B).run (Ctx.start db env) with
  | error e c =>
    rw [hrun] at hcom henv
    -- the exception of the handler
    simp only [h_closed c hcom henv]
  | ok u c =>
    rw [hrun] at hcom henv hacc
    by_cases hget : method = .get
    · simp only [if_pos hget, h_closed c hcom henv]
    · simp only [if_neg hget]
      rcases Session.run_commit_cases B c fault with
        ⟨db', -, hb, happly, hcommit⟩ | ⟨e, c', hcommit, hcom', henv'⟩
      · -- the commit publishes what the handler wrote
        rw [hcommit]
        refine ⟨db', ?_, ?_⟩
        · exact (hacc hb).2.trans happly
        · rw [show c.env = env from henv]
          rfl
      -- the exception of the commit
      · rw [hcommit]
        simp only [h_closed c' (hcom'.trans hcom) (henv'.trans henv)]

end Storefront
