import Storefront.Library.Run
import Storefront.Library.UnitOfWork

/-!
# Transactions that write what they made of a plain read

Transactions over a `Backend` that each serve a request about one and the same row: they read
the committed state without a lock, plan a write from what they have read, make it under the
lock of the row, and commit or abort. This is what statements of their own do under READ
COMMITTED: a read takes no lock and sees the last committed state, a write waits for the
transaction that has written the row before to end, and the lock is kept until the own end.

The lock orders the writes but says nothing of the reads before them. A commit does what the
request would have done alone if what it has read is still so (`serial_of_current`).
-/

namespace Storefront

variable {Db W E Req View T : Type}

/-- What requests about a row read, and what they plan to write then. -/
structure PlainRead (B : Backend Db W E) (Req View : Type) where
  read : Req → Db → Except E View
  plan : Req → View → Except E W

namespace PlainRead

/-- A transaction has read, and may have written. -/
structure Tx (Req View W : Type) where
  request : Req
  view : View
  written : Option W

/-- The committed state, the transaction that has written the row, the transactions that are
running, and the requests whose transactions were committed, in the order of the commits. -/
structure World (Db W Req View T : Type) where
  committed : Db
  writer : Option T
  tx : T → Option (Tx Req View W)
  served : List Req

/-- No transaction is running. -/
def World.initial (db : Db) : World Db W Req View T := ⟨db, none, fun _ => none, []⟩

inductive Event (Req T : Type)
  | read (t : T) (r : Req)
  | write (t : T)
  | commit (t : T)
  | abort (t : T)

variable {B : Backend Db W E} (L : PlainRead B Req View)

/-- What a request does alone. -/
def Serial (db : Db) (r : Req) (db' : Db) : Prop :=
  ∃ view w, L.read r db = .ok view ∧ L.plan r view = .ok w ∧ B.apply w db = .ok db'

/-- Transaction `t` goes on as `tx`. -/
def World.set [DecidableEq T] (w : World Db W Req View T) (t : T) (tx : Tx Req View W) :
    World Db W Req View T :=
  { w with tx := Function.update w.tx t (some tx) }

/-- Transaction `t` ends, leaving `db` as the committed state and `served` as the requests that
were served, and releases its lock. -/
def World.finish [DecidableEq T] (w : World Db W Req View T) (t : T) (db : Db)
    (served : List Req) : World Db W Req View T where
  committed := db
  writer := if w.writer = some t then none else w.writer
  tx := Function.update w.tx t none
  served := served

/-- One action. -/
def next [DecidableEq T] (w : World Db W Req View T) :
    Event Req T → Option (World Db W Req View T)
  | .read t r =>
    match w.tx t, L.read r w.committed with
    | none, .ok view => some (w.set t ⟨r, view, none⟩)
    | _, _ => none
  | .write t =>
    match w.tx t, w.writer with
    | some ⟨r, view, none⟩, none =>
      match L.plan r view with
      | .ok x =>
        match B.apply x w.committed with
        | .ok _ => some { w.set t ⟨r, view, some x⟩ with writer := some t }
        | .error _ => none
      | .error _ => none
    | _, _ => none
  | .commit t =>
    match w.tx t with
    | some ⟨r, _, some x⟩ =>
      match B.apply x w.committed with
      | .ok db => some (w.finish t db (w.served ++ [r]))
      | .error _ => none
    | _ => none
  | .abort t =>
    match w.tx t with
    | some _ => some (w.finish t w.committed w.served)
    | none => none

/-- The steps of all transactions. -/
def step [DecidableEq T] (w : World Db W Req View T) (e : Event Req T)
    (w' : World Db W Req View T) : Prop :=
  L.next w e = some w'

/-- The condition on an action: a transaction commits only what it has planned from a read that
is still right. -/
def Current (w : World Db W Req View T) (e : Event Req T) : Prop :=
  ∀ t tx, e = .commit t → w.tx t = some tx → L.read tx.request w.committed = .ok tx.view

/-- The invariant of all runs: what was written is what was planned. -/
def Inv (w : World Db W Req View T) : Prop :=
  ∀ t tx x, w.tx t = some tx → tx.written = some x → L.plan tx.request tx.view = .ok x

theorem Inv.initial (db : Db) : L.Inv (World.initial db : World Db W Req View T) :=
  fun _ _ _ h => by cases h

variable {L} {w w' : World Db W Req View T} {t : T}

/-- Only a commit has a condition, on what its transaction has read. -/
theorem current_of_ne {e : Event Req T} (h : ∀ t, e ≠ .commit t) : L.Current w e :=
  fun t _ he => absurd he (h t)

theorem current_commit {tx : Tx Req View W} (h_tx : w.tx t = some tx) :
    L.Current w (.commit t) ↔ L.read tx.request w.committed = .ok tx.view := by
  refine ⟨fun h => h t tx rfl h_tx, fun h t' tx' ht htx' => ?_⟩
  cases ht
  obtain rfl : tx = tx' := Option.some.inj (h_tx.symm.trans htx')
  exact h

variable [DecidableEq T]

/-- A transaction goes on with what it has planned. -/
theorem Inv.set (hI : L.Inv w) {tx : Tx Req View W}
    (h : ∀ x, tx.written = some x → L.plan tx.request tx.view = .ok x) : L.Inv (w.set t tx) := by
  intro t' tx' x htx' hx
  by_cases ht : t' = t
  · subst ht
    have hself : (w.set t' tx).tx t' = some tx := Function.update_self ..
    obtain rfl : tx = tx' := Option.some.inj (hself.symm.trans htx')
    exact h x hx
  · have hother : (w.set t tx).tx t' = w.tx t' := Function.update_of_ne ht _ _
    exact hI t' tx' x (hother.symm.trans htx') hx

/-- A transaction ends. -/
theorem Inv.finish (hI : L.Inv w) (t : T) (db : Db) (served : List Req) :
    L.Inv (w.finish t db served) := by
  intro t' tx x htx hx
  by_cases ht : t' = t
  · subst ht
    have hself : (w.finish t' db served).tx t' = none := Function.update_self ..
    rw [hself] at htx
    cases htx
  · have hother : (w.finish t db served).tx t' = w.tx t' := Function.update_of_ne ht _ _
    exact hI t' tx x (hother.symm.trans htx) hx

theorem next_read {r : Req} (h : L.next w (.read t r) = some w') :
    ∃ view, w.tx t = none ∧ L.read r w.committed = .ok view ∧ w' = w.set t ⟨r, view, none⟩ := by
  simp only [next] at h
  split at h
  · next view htx hread => exact ⟨view, htx, hread, (Option.some.inj h).symm⟩
  · cases h

theorem next_write (h : L.next w (.write t) = some w') :
    ∃ r view x, w.tx t = some ⟨r, view, none⟩ ∧ w.writer = none ∧ L.plan r view = .ok x ∧
      w' = { w.set t ⟨r, view, some x⟩ with writer := some t } := by
  simp only [next] at h
  split at h
  · next r view htx hwriter =>
    split at h
    · next x hplan =>
      split at h
      · exact ⟨r, view, x, htx, hwriter, hplan, (Option.some.inj h).symm⟩
      · cases h
    · cases h
  · cases h

theorem next_commit (h : L.next w (.commit t) = some w') :
    ∃ r view x db, w.tx t = some ⟨r, view, some x⟩ ∧ B.apply x w.committed = .ok db ∧
      w' = w.finish t db (w.served ++ [r]) := by
  simp only [next] at h
  split at h
  · next r view x htx =>
    split at h
    · next db hdb => exact ⟨r, view, x, db, htx, hdb, (Option.some.inj h).symm⟩
    · cases h
  · cases h

theorem next_abort (h : L.next w (.abort t) = some w') :
    w' = w.finish t w.committed w.served := by
  simp only [next] at h
  split at h
  · exact (Option.some.inj h).symm
  · cases h

/-- **One action.** It keeps the invariant, and changes the committed state only when a
transaction commits: then by the write it has planned from what it had read. -/
theorem Inv.step (hI : L.Inv w) {e : Event Req T} (h : L.step w e w') :
    L.Inv w' ∧
      (((∀ t, e ≠ .commit t) ∧ w'.committed = w.committed ∧ w'.served = w.served) ∨
        ∃ t tx x, e = .commit t ∧ w.tx t = some tx ∧ L.plan tx.request tx.view = .ok x ∧
          B.apply x w.committed = .ok w'.committed ∧ w'.served = w.served ++ [tx.request]) := by
  cases e with
  | read t r =>
    obtain ⟨view, -, -, rfl⟩ := next_read h
    exact ⟨hI.set nofun, .inl ⟨nofun, rfl, rfl⟩⟩
  | write t =>
    obtain ⟨r, view, x, -, -, hplan, rfl⟩ := next_write h
    -- a transaction writes what it has planned from the row it read
    refine ⟨hI.set fun x' hx' => ?_, .inl ⟨nofun, rfl, rfl⟩⟩
    cases hx'
    exact hplan
  | commit t =>
    obtain ⟨r, view, x, db, htx, hdb, rfl⟩ := next_commit h
    exact ⟨hI.finish t _ _, .inr ⟨t, _, x, rfl, htx, hI t _ x htx rfl, hdb, rfl⟩⟩
  | abort t =>
    obtain rfl := next_abort h
    exact ⟨hI.finish t _ _, .inl ⟨nofun, rfl, rfl⟩⟩

/-- **Current commits are serial.** Where every transaction that commits has read what is still
so, the committed state is that of the served requests, one after the other in the order of
their commits. -/
theorem serial_of_current {db : Db} {es : List (Event Req T)}
    (h : Run (guarded L.Current L.step) (World.initial db) es w) :
    Run L.Serial db w.served w.committed := by
  have hboth : L.Inv w ∧ Run L.Serial db w.served w.committed := by
    refine h.invariant (I := fun w => L.Inv w ∧ Run L.Serial db w.served w.committed)
      ⟨Inv.initial L db, .nil db⟩ ?_
    rintro w e w' ⟨hI, hserial⟩ ⟨hcurrent, hstep⟩
    obtain ⟨hI', ⟨-, hcommitted, hserved⟩ | ⟨t, tx, x, he, htx, hplan, happly, hserved⟩⟩ :=
      hI.step hstep
    · rw [hcommitted, hserved]
      exact ⟨hI', hserial⟩
    · rw [hserved]
      exact ⟨hI', hserial.snoc ⟨tx.view, x, hcurrent t tx he htx, hplan, happly⟩⟩
  exact hboth.2

end PlainRead

end Storefront
