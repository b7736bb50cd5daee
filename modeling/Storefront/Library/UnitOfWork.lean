import Storefront.Library.Effect

/-!
# A unit of work over a transactional database

An object-relational session collects writes and sends them to the database when it is
flushed; a commit flushes and makes the transaction's view the committed state; a rollback,
or the removal of the session, goes back to the committed state. A flush that violates a
constraint breaks the session: every later flush and commit raises until a rollback.

The database is abstract. A `Backend` says what one write does to a state, raising an
exception when it violates a constraint, and which exception a broken session raises.

* `Backend.applyAll` runs a list of writes; `applyAll_append` and `applyAll_perm` are its
  two laws, the second for writes that commute;
* `Session.flush_eq_ok` and `Session.run_commit_cases` are the inversions of a flush and of
  a commit; in a context with nothing to flush (`Ctx.Clean`) a query only reads.
-/

namespace Storefront

variable {Db W E σ α : Type}

/-- A database: what a write does to a state, or the exception it raises, and the exception
a session raises that needs a rollback. -/
structure Backend (Db W E : Type) where
  apply : W → Db → Except E Db
  pendingRollback : E

namespace Backend

variable (B : Backend Db W E)

/-- Run the writes in order, up to the first that raises. -/
def applyAll (ws : List W) (db : Db) : Except E Db :=
  ws.foldl (fun acc w => acc.bind (B.apply w)) (.ok db)

@[simp] theorem applyAll_nil (db : Db) : B.applyAll [] db = .ok db := rfl

theorem foldl_apply_error (ws : List W) (e : E) :
    ws.foldl (fun acc w => acc.bind (B.apply w)) (.error e : Except E Db) = .error e := by
  induction ws with
  | nil => rfl
  | cons w ws ih => exact ih

theorem foldl_apply (ws : List W) (acc : Except E Db) :
    ws.foldl (fun acc w => acc.bind (B.apply w)) acc = acc.bind (B.applyAll ws) := by
  cases acc with
  | ok db => rfl
  | error e => exact foldl_apply_error B ws e

theorem applyAll_cons (w : W) (ws : List W) (db : Db) :
    B.applyAll (w :: ws) db = (B.apply w db).bind (B.applyAll ws) :=
  foldl_apply B ws (B.apply w db)

theorem applyAll_singleton (w : W) (db : Db) : B.applyAll [w] db = B.apply w db := by
  rw [applyAll_cons]
  cases B.apply w db <;> rfl

theorem applyAll_append (ws ws' : List W) (db : Db) :
    B.applyAll (ws ++ ws') db = (B.applyAll ws db).bind (B.applyAll ws') := by
  unfold applyAll
  rw [List.foldl_append]
  exact foldl_apply B ws' _

theorem applyAll_append_ok {ws ws' : List W} {db db' : Db} (h : B.applyAll ws db = .ok db') :
    B.applyAll (ws ++ ws') db = B.applyAll ws' db' := by
  rw [applyAll_append, h]
  rfl

theorem applyAll_append_eq_ok {ws ws' : List W} {db db'' : Db} :
    B.applyAll (ws ++ ws') db = .ok db'' ↔
      ∃ db', B.applyAll ws db = .ok db' ∧ B.applyAll ws' db' = .ok db'' := by
  rw [applyAll_append]
  cases h : B.applyAll ws db with
  | ok db' => simp [Except.bind]
  | error e => simp [Except.bind]

/-- What every write preserves, a list of writes preserves. -/
theorem applyAll_preserves {P : Db → Prop} {ws : List W} {db db' : Db}
    (h_step : ∀ w ∈ ws, ∀ db db', P db → B.apply w db = .ok db' → P db')
    (h : B.applyAll ws db = .ok db') (h_init : P db) : P db' := by
  induction ws generalizing db with
  | nil =>
    rw [applyAll_nil] at h
    cases h
    exact h_init
  | cons w ws ih =>
    rw [applyAll_cons] at h
    cases hw : B.apply w db with
    | error e =>
      rw [hw] at h
      cases h
    | ok db₁ =>
      rw [hw] at h
      exact ih (fun w' hw' => h_step w' (List.mem_cons_of_mem _ hw')) h
        (h_step w List.mem_cons_self db db₁ h_init hw)

/-- Writes that commute pairwise may be run in any order. -/
theorem applyAll_perm {ws ws' : List W} (h : ws.Perm ws')
    (h_comm : ∀ w ∈ ws, ∀ w' ∈ ws, ∀ db,
      (B.apply w db).bind (B.apply w') = (B.apply w' db).bind (B.apply w)) (db : Db) :
    B.applyAll ws db = B.applyAll ws' db := by
  refine h.foldl_eq' (fun w hw w' hw' acc => ?_) _
  cases acc with
  | error e => rfl
  | ok db => exact h_comm w hw w' hw' db

end Backend

/-! ### Sessions -/

/-- The state of a session: the state its transaction sees, the writes added and not yet
flushed, and whether a flush has failed since the last rollback. -/
structure Session (Db W : Type) where
  view : Db
  pending : List W
  broken : Bool

/-- A new session sees the committed state. -/
def Session.start (db : Db) : Session Db W := ⟨db, [], false⟩

/-- What a computation with a session works on: the committed state, the session, and
everything else (`env`). -/
structure Ctx (Db W σ : Type) where
  committed : Db
  session : Session Db W
  env : σ

/-- The context of a computation that has not touched its session yet. -/
def Ctx.start (db : Db) (env : σ) : Ctx Db W σ := ⟨db, .start db, env⟩

/-- Nothing to flush, and no flush has failed. -/
def Ctx.Clean (c : Ctx Db W σ) : Prop := c.session.pending = [] ∧ c.session.broken = false

theorem Ctx.clean_start (db : Db) (env : σ) : (Ctx.start db env : Ctx Db W σ).Clean := ⟨rfl, rfl⟩

/-- A computation on everything else. -/
def inEnv (x : EStateM E σ α) : EStateM E (Ctx Db W σ) α := fun c =>
  match x.run c.env with
  | .ok a env => .ok a { c with env }
  | .error e env => .error e { c with env }

theorem inEnv_eq_ok {x : EStateM E σ α} {c c' : Ctx Db W σ} {a : α} :
    (inEnv x).run c = .ok a c' ↔ ∃ env, x.run c.env = .ok a env ∧ c' = { c with env } := by
  change inEnv x c = _ ↔ _
  unfold inEnv
  cases x.run c.env with
  | ok a' env => simp [eq_comm]
  | error e env => simp

namespace Session

/-- `session.add(obj)`, or an assignment to a mapped attribute. -/
def add (w : W) : EStateM E (Ctx Db W σ) Unit :=
  modify fun c => { c with session := { c.session with pending := c.session.pending ++ [w] } }

/-- `session.flush()`. -/
def flush (B : Backend Db W E) : EStateM E (Ctx Db W σ) Unit := fun c =>
  if c.session.broken then .error B.pendingRollback c
  else match B.applyAll c.session.pending c.session.view with
    | .ok db => .ok () { c with session := ⟨db, [], false⟩ }
    | .error e => .error e { c with session := { c.session with broken := true } }

/-- A query, which flushes first. -/
def query (B : Backend Db W E) (f : Db → α) : EStateM E (Ctx Db W σ) α := do
  flush B
  return f (← get).session.view

/-- `session.execute(statement)` for a statement that writes. -/
def execute (B : Backend Db W E) (w : W) : EStateM E (Ctx Db W σ) Unit := do
  add w
  flush B

/-- `session.commit()`. `fault` is what goes wrong at the commit itself, if anything does. -/
def commit (B : Backend Db W E) (fault : Option E) : EStateM E (Ctx Db W σ) Unit := do
  flush B
  match fault with
  | some e =>
    modify fun c => { c with session := { c.session with broken := true } }
    throw e
  | none => modify fun c => { c with committed := c.session.view }

/-- `session.rollback()`. -/
def rollback : EStateM E (Ctx Db W σ) Unit :=
  modify fun c => { c with session := .start c.committed }

/-- The removal of a session closes it: what was not committed is discarded. -/
def remove : EStateM E (Ctx Db W σ) Unit :=
  modify fun c => { c with session := .start c.committed }

section Rules

variable (B : Backend Db W E) (c : Ctx Db W σ)

theorem run_add (w : W) :
    (add w : EStateM E (Ctx Db W σ) Unit).run c =
      .ok () { c with session := { c.session with pending := c.session.pending ++ [w] } } := rfl

theorem run_flush_broken (h : c.session.broken = true) :
    (flush B).run c = .error B.pendingRollback c := by
  change flush B c = _
  unfold flush
  rw [if_pos h]

theorem run_flush_ok (h : c.session.broken = false) {db : Db}
    (h_apply : B.applyAll c.session.pending c.session.view = .ok db) :
    (flush B).run c = .ok () { c with session := ⟨db, [], false⟩ } := by
  change flush B c = _
  unfold flush
  rw [if_neg (by simp [h]), h_apply]

theorem run_flush_error (h : c.session.broken = false) {e : E}
    (h_apply : B.applyAll c.session.pending c.session.view = .error e) :
    (flush B).run c = .error e { c with session := { c.session with broken := true } } := by
  change flush B c = _
  unfold flush
  rw [if_neg (by simp [h]), h_apply]

/-- **Inversion of a flush** that returned. -/
theorem flush_eq_ok {c' : Ctx Db W σ} :
    (flush B).run c = .ok () c' ↔
      c.session.broken = false ∧
        ∃ db, B.applyAll c.session.pending c.session.view = .ok db ∧
          c' = { c with session := ⟨db, [], false⟩ } := by
  cases hb : c.session.broken with
  | true => simp [run_flush_broken B c hb]
  | false =>
    cases ha : B.applyAll c.session.pending c.session.view with
    | error e => simp [run_flush_error B c hb ha]
    | ok db => simp [run_flush_ok B c hb ha, eq_comm]

/-- A query sees the writes before it. -/
theorem run_query (h : c.session.broken = false) {db : Db}
    (h_apply : B.applyAll c.session.pending c.session.view = .ok db) (f : Db → α) :
    (query B f).run c = .ok (f db) { c with session := ⟨db, [], false⟩ } := by
  unfold query
  rw [run_bind_ok (run_flush_ok B c h h_apply)]
  rfl

/-- With nothing to flush, a query only reads. -/
theorem run_query_clean (h : c.Clean) (f : Db → α) :
    (query B f).run c = .ok (f c.session.view) c := by
  obtain ⟨com, ⟨view, pending, broken⟩, env⟩ := c
  obtain ⟨rfl, rfl⟩ : pending = [] ∧ broken = false := h
  rw [run_query B _ rfl (B.applyAll_nil view)]

/-- **Inversion of a statement** that was executed with nothing to flush before it. -/
theorem execute_eq_ok (h : c.Clean) {w : W} {c' : Ctx Db W σ} :
    (execute B w).run c = .ok () c' ↔
      ∃ db, B.apply w c.session.view = .ok db ∧ c' = { c with session := ⟨db, [], false⟩ } := by
  obtain ⟨com, ⟨view, pending, broken⟩, env⟩ := c
  obtain ⟨rfl, rfl⟩ : pending = [] ∧ broken = false := h
  unfold execute
  rw [run_bind_ok (run_add _ _), flush_eq_ok]
  simp only [List.nil_append, B.applyAll_singleton, true_and]

/-- A statement that fails breaks the session and does nothing else. -/
theorem run_execute_error (h : c.Clean) {w : W} {e : E}
    (h_apply : B.apply w c.session.view = .error e) :
    ∃ session, (execute B w).run c = .error e { c with session } := by
  obtain ⟨com, ⟨view, pending, broken⟩, env⟩ := c
  obtain ⟨rfl, rfl⟩ : pending = [] ∧ broken = false := h
  have hall : B.applyAll [w] view = .error e := (B.applyAll_singleton w view).trans h_apply
  unfold execute
  rw [run_bind_ok (run_add _ _)]
  exact ⟨_, run_flush_error B _ rfl hall⟩

/-- Several writes added one after the other. -/
theorem run_addAll (ws : List W) :
    (forM ws add : EStateM E (Ctx Db W σ) Unit).run c =
      .ok () { c with session := { c.session with pending := c.session.pending ++ ws } } := by
  induction ws generalizing c with
  | nil =>
    rw [List.append_nil]
    rfl
  | cons w ws ih =>
    rw [List.forM_cons, run_bind_ok (run_add c w), ih]
    rw [List.append_assoc, List.singleton_append]

/-- A flush touches nothing but the session. -/
theorem endState_flush : ∃ session, endState ((flush B).run c) = { c with session } := by
  cases hb : c.session.broken with
  | true => exact ⟨_, by rw [run_flush_broken B c hb]; rfl⟩
  | false =>
    cases ha : B.applyAll c.session.pending c.session.view with
    | error e => exact ⟨_, by rw [run_flush_error B c hb ha]; rfl⟩
    | ok db => exact ⟨_, by rw [run_flush_ok B c hb ha]; rfl⟩

theorem env_flush : (endState ((flush B).run c)).env = c.env := by
  obtain ⟨session, hend⟩ := endState_flush B c
  rw [hend]

theorem committed_flush : (endState ((flush B).run c)).committed = c.committed := by
  obtain ⟨session, hend⟩ := endState_flush B c
  rw [hend]

/-- Nor does a statement. -/
theorem env_execute (w : W) : (endState ((execute B w).run c)).env = c.env := by
  unfold execute
  rw [run_bind_ok (run_add c w), env_flush]

theorem committed_execute (w : W) : (endState ((execute B w).run c)).committed = c.committed := by
  unfold execute
  rw [run_bind_ok (run_add c w), committed_flush]

/-- A commit that nothing goes wrong at. -/
theorem run_commit_ok (h : c.session.broken = false) {db : Db}
    (h_apply : B.applyAll c.session.pending c.session.view = .ok db) :
    (commit B none).run c = .ok () ⟨db, ⟨db, [], false⟩, c.env⟩ := by
  unfold commit
  rw [run_bind_ok (run_flush_ok B c h h_apply)]
  rfl

/-- A commit that returns has flushed and publishes the session's view; one that raises
leaves the committed state as it was. -/
theorem run_commit_cases (fault : Option E) :
    (∃ db, fault = none ∧ c.session.broken = false ∧
        B.applyAll c.session.pending c.session.view = .ok db ∧
        (commit B fault).run c = .ok () ⟨db, ⟨db, [], false⟩, c.env⟩) ∨
      (∃ e c', (commit B fault).run c = .error e c' ∧ c'.committed = c.committed ∧
        c'.env = c.env) := by
  unfold commit
  cases hb : c.session.broken with
  | true =>
    -- the flush raises
    exact .inr ⟨_, _, run_bind_error (run_flush_broken B c hb), rfl, rfl⟩
  | false =>
    cases ha : B.applyAll c.session.pending c.session.view with
    | error e =>
      -- a pending write violates a constraint
      exact .inr ⟨_, _, run_bind_error (run_flush_error B c hb ha), rfl, rfl⟩
    | ok db =>
      rw [run_bind_ok (run_flush_ok B c hb ha)]
      -- the flush went through, the commit itself may still fail
      cases fault with
      | some e => exact .inr ⟨_, _, rfl, rfl, rfl⟩
      | none => exact .inl ⟨db, rfl, rfl, rfl, rfl⟩

end Rules

end Session

end Storefront
