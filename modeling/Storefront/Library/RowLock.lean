import Storefront.Library.Run
import Storefront.Library.UnitOfWork

/-!
# Transactions that lock the rows they rewrite

Transactions over a `Backend` that each serve a request: they lock the rows of one table the
request wants, one at a time and in any order, reading the committed row under the lock; they
then make the writes planned from the rows read, one at a time, and commit or abort. A lock is
held until the transaction ends, and uncommitted writes are seen by nobody else. A `RowLocking`
says which rows a request wants and what it plans, and the little that the argument needs of
the writes: they add and remove no row of the table, and rewrite only the row they target.

The transactions of a run interleave in every way, and yet each commit does what the request
would have done alone (`Inv.step`): the rows a transaction has read are the committed ones as
long as it holds their locks, since whoever writes a row has locked it.
-/

namespace Storefront

variable {Db W E Req Row K T : Type}

/-- A table whose rows are locked, and what the requests do with it. -/
structure RowLocking (B : Backend Db W E) (Req Row K : Type) where
  rows : Db → List Row
  key : Row → K
  /-- The key of the row a write rewrites, if it rewrites one. -/
  target : W → Option K
  /-- The rows a request locks. -/
  wanted : Req → K → Bool
  /-- The writes of a request that has locked and read the given rows. -/
  plan : Req → List Row → Except E (List W)
  nodup_rows : ∀ db, ((rows db).map key).Nodup
  keys_apply : ∀ {w db db'}, B.apply w db = .ok db' → (rows db').map key = (rows db).map key
  frame : ∀ {w db db' row}, B.apply w db = .ok db' → row ∈ rows db →
    target w ≠ some (key row) → row ∈ rows db'
  /-- A request rewrites only rows it has read. -/
  covered : ∀ {r read ws w k}, plan r read = .ok ws → w ∈ ws → target w = some k →
    k ∈ read.map key
  /-- The order in which the rows were read makes no difference to the effect. -/
  plan_perm : ∀ {r read read' ws}, (read.map key).Nodup → read.Perm read' →
    plan r read = .ok ws →
      ∃ ws', plan r read' = .ok ws' ∧ ∀ db, B.applyAll ws db = B.applyAll ws' db

namespace RowLocking

/-- A transaction locks rows, and then makes its writes. -/
inductive Stage (W : Type)
  | locking
  | writing (done todo : List W)

structure Tx (Req Row W : Type) where
  request : Req
  read : List Row
  stage : Stage W

/-- The committed state, who holds the lock of a row, and the transactions that are running. -/
structure World (Db W Req Row K T : Type) where
  committed : Db
  locks : K → Option T
  tx : T → Option (Tx Req Row W)

/-- No transaction is running. -/
def World.initial (db : Db) : World Db W Req Row K T := ⟨db, fun _ => none, fun _ => none⟩

inductive Event (Req K T : Type)
  | start (t : T) (r : Req)
  | lock (t : T) (k : K)
  | plan (t : T)
  | write (t : T)
  | commit (t : T)
  | abort (t : T)

variable {B : Backend Db W E} (L : RowLocking B Req Row K)

/-- The rows a request wants. -/
def selected (r : Req) (db : Db) : List Row := (L.rows db).filter fun row => L.wanted r (L.key row)

/-- What a request does alone. -/
def Serial (r : Req) (db db' : Db) : Prop :=
  ∃ ws, L.plan r (L.selected r db) = .ok ws ∧ B.applyAll ws db = .ok db'

/-- Transaction `t` goes on as `tx`. -/
def World.set [DecidableEq T] (w : World Db W Req Row K T) (t : T) (tx : Tx Req Row W) :
    World Db W Req Row K T :=
  { w with tx := Function.update w.tx t (some tx) }

/-- Transaction `t` ends, leaving `db` as the committed state, and releases its locks. -/
def World.finish [DecidableEq T] (w : World Db W Req Row K T) (t : T) (db : Db) :
    World Db W Req Row K T where
  committed := db
  locks k := if w.locks k = some t then none else w.locks k
  tx := Function.update w.tx t none

/-- One action. A row is locked while nobody holds its lock; a write, and the commit, need
that the writes so far violate no constraint on the committed state. -/
def next [DecidableEq K] [DecidableEq T] (w : World Db W Req Row K T) :
    Event Req K T → Option (World Db W Req Row K T)
  | .start t r =>
    match w.tx t with
    | none => some (w.set t ⟨r, [], .locking⟩)
    | some _ => none
  | .lock t k =>
    match w.tx t, (L.rows w.committed).find? fun row => L.key row = k with
    | some ⟨r, read, .locking⟩, some row =>
      if L.wanted r k ∧ w.locks k = none then
        some { w.set t ⟨r, read ++ [row], .locking⟩ with
          locks := Function.update w.locks k (some t) }
      else none
    | _, _ => none
  | .plan t =>
    match w.tx t with
    | some ⟨r, read, .locking⟩ =>
      if ∀ row ∈ L.rows w.committed, L.wanted r (L.key row) → L.key row ∈ read.map L.key then
        match L.plan r read with
        | .ok ws => some (w.set t ⟨r, read, .writing [] ws⟩)
        | .error _ => none
      else none
    | _ => none
  | .write t =>
    match w.tx t with
    | some ⟨r, read, .writing done (x :: todo)⟩ =>
      match B.applyAll (done ++ [x]) w.committed with
      | .ok _ => some (w.set t ⟨r, read, .writing (done ++ [x]) todo⟩)
      | .error _ => none
    | _ => none
  | .commit t =>
    match w.tx t with
    | some ⟨_, _, .writing done []⟩ =>
      match B.applyAll done w.committed with
      | .ok db => some (w.finish t db)
      | .error _ => none
    | _ => none
  | .abort t =>
    match w.tx t with
    | some _ => some (w.finish t w.committed)
    | none => none

/-! ### The invariant -/

/-- What holds of a running transaction. -/
structure TxOk (w : World Db W Req Row K T) (t : T) (tx : Tx Req Row W) : Prop where
  /-- The rows it has read are the committed ones. -/
  current : ∀ row ∈ tx.read, row ∈ L.rows w.committed
  /-- It holds their locks, and wants them. -/
  locked : ∀ row ∈ tx.read, w.locks (L.key row) = some t ∧ L.wanted tx.request (L.key row) = true
  nodup : (tx.read.map L.key).Nodup
  /-- Once it writes, it has all rows it wants and follows its plan. -/
  planned : ∀ done todo, tx.stage = .writing done todo →
    L.plan tx.request tx.read = .ok (done ++ todo) ∧
    ∀ k ∈ (L.rows w.committed).map L.key, L.wanted tx.request k = true → k ∈ tx.read.map L.key

/-- The invariant of all runs. -/
def Inv (w : World Db W Req Row K T) : Prop := ∀ t tx, w.tx t = some tx → L.TxOk w t tx

theorem Inv.initial (db : Db) : L.Inv (World.initial db : World Db W Req Row K T) :=
  fun _ _ h => by cases h

variable {L} {w w' : World Db W Req Row K T}

/-- What a transaction does touches only its own locks and the rows under them, so the other
transactions are as they were. -/
theorem Inv.replace (hI : L.Inv w) (t : T) (h_tx : ∀ t', t' ≠ t → w'.tx t' = w.tx t')
    (h_locks : ∀ k t', t' ≠ t → w.locks k = some t' → w'.locks k = some t')
    (h_keys : (L.rows w'.committed).map L.key = (L.rows w.committed).map L.key)
    (h_rows : ∀ row ∈ L.rows w.committed, w.locks (L.key row) ≠ some t →
      row ∈ L.rows w'.committed)
    (h_own : ∀ tx, w'.tx t = some tx → L.TxOk w' t tx) : L.Inv w' := by
  intro t' tx htx
  by_cases ht : t' = t
  -- the transaction that acted
  · subst ht
    exact h_own tx htx
  -- another one: its locks are its own, so its rows were not written
  · rw [h_tx t' ht] at htx
    have hok := hI t' tx htx
    refine ⟨fun row hrow => ?_, fun row hrow => ?_, hok.nodup, fun done todo hstage => ?_⟩
    · refine h_rows row (hok.current row hrow) ?_
      rw [(hok.locked row hrow).1]
      exact fun heq => ht (Option.some.inj heq)
    · exact ⟨h_locks _ t' ht (hok.locked row hrow).1, (hok.locked row hrow).2⟩
    · rw [h_keys]
      exact hok.planned done todo hstage

/-- A transaction that only goes on. -/
theorem Inv.set [DecidableEq T] (hI : L.Inv w) {t : T} {tx : Tx Req Row W} (h : L.TxOk w t tx) :
    L.Inv (w.set t tx) := by
  refine hI.replace t (fun t' ht => Function.update_of_ne ht _ _) (fun _ _ _ h => h) rfl
    (fun _ h _ => h) fun tx' htx' => ?_
  have hself : (w.set t tx).tx t = some tx := Function.update_self ..
  obtain rfl : tx = tx' := Option.some.inj (hself.symm.trans htx')
  exact ⟨h.current, h.locked, h.nodup, h.planned⟩

/-- A transaction that ends, with a committed state that differs in the rows it had locked. -/
theorem Inv.finish [DecidableEq T] (hI : L.Inv w) (t : T) {db : Db}
    (h_keys : (L.rows db).map L.key = (L.rows w.committed).map L.key)
    (h_rows : ∀ row ∈ L.rows w.committed, w.locks (L.key row) ≠ some t → row ∈ L.rows db) :
    L.Inv (w.finish t db) := by
  refine hI.replace t (fun t' ht => Function.update_of_ne ht _ _) ?_ h_keys h_rows ?_
  · intro k t' ht hk
    show (if w.locks k = some t then none else w.locks k) = some t'
    rw [hk, if_neg fun heq => ht (Option.some.inj heq)]
  · intro tx htx
    have hnone : (w.finish t db).tx t = none := Function.update_self ..
    rw [hnone] at htx
    cases htx

/-- The rows a transaction in its writing stage has read are those it wants, in some order. -/
theorem TxOk.read_perm {t : T} {tx : Tx Req Row W} (h : L.TxOk w t tx) {done todo : List W}
    (h_stage : tx.stage = .writing done todo) :
    tx.read.Perm (L.selected tx.request w.committed) := by
  have hnodup : (L.rows w.committed).Nodup := (L.nodup_rows w.committed).of_map
  refine (List.perm_ext_iff_of_nodup h.nodup.of_map (hnodup.filter _)).mpr ?_
  intro row
  rw [List.mem_filter]
  refine ⟨?_, ?_⟩
  · exact fun hrow => ⟨h.current row hrow, (h.locked row hrow).2⟩
  · rintro ⟨hrow, hwanted⟩
    obtain ⟨row', hrow', hkey⟩ := List.mem_map.mp
      ((h.planned done todo h_stage).2 _ (List.mem_map_of_mem hrow) hwanted)
    -- rows with one key are one row
    rw [← List.inj_on_of_nodup_map (L.nodup_rows w.committed) (h.current row' hrow') hrow hkey]
    exact hrow'

/-- The committed writes of a transaction leave the rows it has not locked. -/
theorem TxOk.commit_frame {t : T} {tx : Tx Req Row W} (h : L.TxOk w t tx) {done : List W}
    (h_stage : tx.stage = .writing done []) {db : Db}
    (h_apply : B.applyAll done w.committed = .ok db) :
    (L.rows db).map L.key = (L.rows w.committed).map L.key ∧
      ∀ row ∈ L.rows w.committed, w.locks (L.key row) ≠ some t → row ∈ L.rows db := by
  have hplan := (h.planned done [] h_stage).1
  rw [List.append_nil] at hplan
  refine ⟨?_, ?_⟩
  · exact B.applyAll_preserves (P := fun db => (L.rows db).map L.key = _)
      (fun x _ _ _ hkeys hx => (L.keys_apply hx).trans hkeys) h_apply rfl
  · intro row hrow hlock
    refine B.applyAll_preserves (P := fun db => row ∈ L.rows db)
      (fun x hx _ _ hmem happly => L.frame happly hmem fun htarget => ?_) h_apply hrow
    -- a row that is written has been read, and is locked since
    obtain ⟨row', hrow', hkey⟩ := List.mem_map.mp (L.covered hplan hx htarget)
    exact hlock (hkey ▸ (h.locked row' hrow').1)

/-- A commit does what the request would do alone. -/
theorem TxOk.serial {t : T} {tx : Tx Req Row W} (h : L.TxOk w t tx) {done : List W}
    (h_stage : tx.stage = .writing done []) {db : Db}
    (h_apply : B.applyAll done w.committed = .ok db) :
    L.Serial tx.request w.committed db := by
  have hplan := (h.planned done [] h_stage).1
  rw [List.append_nil] at hplan
  obtain ⟨ws, hws, heq⟩ := L.plan_perm h.nodup (h.read_perm h_stage) hplan
  exact ⟨ws, hws, (heq _).symm.trans h_apply⟩

/-! ### One action -/

variable [DecidableEq K] [DecidableEq T] {t : T}

theorem next_start {r : Req} (h : L.next w (.start t r) = some w') :
    w.tx t = none ∧ w' = w.set t ⟨r, [], .locking⟩ := by
  simp only [next] at h
  split at h
  · next htx => exact ⟨htx, (Option.some.inj h).symm⟩
  · cases h

theorem next_lock {k : K} (h : L.next w (.lock t k) = some w') :
    ∃ r read row, w.tx t = some ⟨r, read, .locking⟩ ∧ row ∈ L.rows w.committed ∧
      L.key row = k ∧ L.wanted r k = true ∧ w.locks k = none ∧
      w' = { w.set t ⟨r, read ++ [row], .locking⟩ with
        locks := Function.update w.locks k (some t) } := by
  simp only [next] at h
  split at h
  · next r read row htx hrow =>
    split at h
    · next hcond =>
      exact ⟨r, read, row, htx, List.mem_of_find?_eq_some hrow,
        by simpa using List.find?_some hrow, hcond.1, hcond.2, (Option.some.inj h).symm⟩
    · cases h
  · cases h

theorem next_plan (h : L.next w (.plan t) = some w') :
    ∃ r read ws, w.tx t = some ⟨r, read, .locking⟩ ∧
      (∀ row ∈ L.rows w.committed, L.wanted r (L.key row) → L.key row ∈ read.map L.key) ∧
      L.plan r read = .ok ws ∧ w' = w.set t ⟨r, read, .writing [] ws⟩ := by
  simp only [next] at h
  split at h
  · next r read htx =>
    split at h
    · next hall =>
      split at h
      · next ws hplan => exact ⟨r, read, ws, htx, hall, hplan, (Option.some.inj h).symm⟩
      · cases h
    · cases h
  · cases h

theorem next_write (h : L.next w (.write t) = some w') :
    ∃ r read done x todo, w.tx t = some ⟨r, read, .writing done (x :: todo)⟩ ∧
      w' = w.set t ⟨r, read, .writing (done ++ [x]) todo⟩ := by
  simp only [next] at h
  split at h
  · next r read done x todo htx =>
    split at h
    · exact ⟨r, read, done, x, todo, htx, (Option.some.inj h).symm⟩
    · cases h
  · cases h

theorem next_commit (h : L.next w (.commit t) = some w') :
    ∃ r read done db, w.tx t = some ⟨r, read, .writing done []⟩ ∧
      B.applyAll done w.committed = .ok db ∧ w' = w.finish t db := by
  simp only [next] at h
  split at h
  · next r read done htx =>
    split at h
    · next db hdb => exact ⟨r, read, done, db, htx, hdb, (Option.some.inj h).symm⟩
    · cases h
  · cases h

theorem next_abort (h : L.next w (.abort t) = some w') :
    (∃ tx, w.tx t = some tx) ∧ w' = w.finish t w.committed := by
  simp only [next] at h
  split at h
  · next tx htx => exact ⟨⟨tx, htx⟩, (Option.some.inj h).symm⟩
  · cases h

/-- A lock is granted: the row read under it is new to the transaction, which does not hold
the lock before. -/
theorem Inv.lock (hI : L.Inv w) {r : Req} {read : List Row} {row : Row}
    (h_tx : w.tx t = some ⟨r, read, .locking⟩) (h_row : row ∈ L.rows w.committed)
    (h_wanted : L.wanted r (L.key row) = true) (h_free : w.locks (L.key row) = none) :
    L.Inv { w.set t ⟨r, read ++ [row], .locking⟩ with
      locks := Function.update w.locks (L.key row) (some t) } := by
  have hok := hI t _ h_tx
  refine hI.replace t (fun t' ht => Function.update_of_ne ht _ _) ?_ rfl (fun _ h _ => h) ?_
  -- no other transaction holds the lock that is granted
  · intro k t' ht hk
    have hne : k ≠ L.key row := by
      rintro rfl
      rw [h_free] at hk
      cases hk
    exact (Function.update_of_ne hne _ _).trans hk
  · intro tx htx
    have hself : (w.set t ⟨r, read ++ [row], .locking⟩).tx t =
        some ⟨r, read ++ [row], .locking⟩ := Function.update_self ..
    obtain rfl : (⟨r, read ++ [row], .locking⟩ : Tx Req Row W) = tx :=
      Option.some.inj (hself.symm.trans htx)
    -- the rows read before are locked by `t`, and this one is locked by nobody
    have hnew : ∀ row' ∈ read, L.key row' ≠ L.key row := by
      intro row' hrow' heq
      have hlock := (hok.locked row' hrow').1
      rw [heq, h_free] at hlock
      cases hlock
    -- the new row is committed, locked, and has a new key
    refine ⟨?_, ?_, ?_, fun _ _ hstage => by cases hstage⟩
    · intro row' hrow'
      rcases List.mem_append.mp hrow' with hold | hold
      · exact hok.current row' hold
      · rw [List.mem_singleton.mp hold]
        exact h_row
    · intro row' hrow'
      rcases List.mem_append.mp hrow' with hold | hold
      · exact ⟨(Function.update_of_ne (hnew row' hold) _ _).trans (hok.locked row' hold).1,
          (hok.locked row' hold).2⟩
      · rw [List.mem_singleton.mp hold]
        exact ⟨Function.update_self .., h_wanted⟩
    · rw [List.map_append, List.map_singleton]
      refine hok.nodup.append (List.nodup_singleton _) ?_
      intro k hk hk'
      obtain ⟨row', hrow', rfl⟩ := List.mem_map.mp hk
      exact hnew row' hrow' (List.mem_singleton.mp hk')

/-- **One action.** It preserves the invariant, and changes the committed state only when a
transaction commits: then by what its request does alone. -/
theorem Inv.step (hI : L.Inv w) {e : Event Req K T} (h : L.next w e = some w') :
    L.Inv w' ∧ (w'.committed = w.committed ∨
      ∃ t tx, e = .commit t ∧ w.tx t = some tx ∧
        L.Serial tx.request w.committed w'.committed) := by
  cases e with
  | start t r =>
    -- nothing has been read yet
    obtain ⟨-, rfl⟩ := next_start h
    refine ⟨hI.set ⟨?_, ?_, List.nodup_nil, fun _ _ hstage => by cases hstage⟩, .inl rfl⟩
    · exact fun _ hrow => by cases hrow
    · exact fun _ hrow => by cases hrow
  | lock t k =>
    obtain ⟨r, read, row, htx, hrow, rfl, hwanted, hfree, rfl⟩ := next_lock h
    exact ⟨hI.lock htx hrow hwanted hfree, .inl rfl⟩
  | plan t =>
    -- all rows that are wanted have been read, and the plan is made from them
    obtain ⟨r, read, ws, htx, hall, hplan, rfl⟩ := next_plan h
    have hok := hI t _ htx
    refine ⟨hI.set ⟨hok.current, hok.locked, hok.nodup, ?_⟩, .inl rfl⟩
    intro done todo hstage
    cases hstage
    exact ⟨hplan, List.forall_mem_map.mpr hall⟩
  | write t =>
    -- a write moves from one half of the plan to the other
    obtain ⟨r, read, done, x, todo, htx, rfl⟩ := next_write h
    have hok := hI t _ htx
    refine ⟨hI.set ⟨hok.current, hok.locked, hok.nodup, ?_⟩, .inl rfl⟩
    intro done' todo' hstage
    cases hstage
    obtain ⟨hplan, hall⟩ := hok.planned done (x :: todo) rfl
    rw [List.append_assoc, List.singleton_append]
    exact ⟨hplan, hall⟩
  | commit t =>
    -- the only action that others can see
    obtain ⟨r, read, done, db, htx, hdb, rfl⟩ := next_commit h
    have hok := hI t _ htx
    obtain ⟨hkeys, hrows⟩ := hok.commit_frame rfl hdb
    exact ⟨hI.finish t hkeys hrows, .inr ⟨t, _, rfl, htx, hok.serial rfl hdb⟩⟩
  | abort t =>
    obtain ⟨-, rfl⟩ := next_abort h
    exact ⟨hI.finish t rfl fun _ hrow _ => hrow, .inl rfl⟩

omit [DecidableEq K] in
theorem tx_set {t' : T} {tx tx' : Tx Req Row W} (h : (w.set t tx).tx t' = some tx') :
    w.tx t' = some tx' ∨ t' = t ∧ tx' = tx := by
  by_cases ht : t' = t
  · subst ht
    have hself : (w.set t' tx).tx t' = some tx := Function.update_self ..
    exact .inr ⟨rfl, Option.some.inj (h.symm.trans hself)⟩
  · have hother : (w.set t tx).tx t' = w.tx t' := Function.update_of_ne ht _ _
    exact .inl (hother.symm.trans h)

omit [DecidableEq K] in
theorem tx_finish {t' : T} {db : Db} {tx : Tx Req Row W} (h : (w.finish t db).tx t' = some tx) :
    w.tx t' = some tx := by
  by_cases ht : t' = t
  · subst ht
    have hself : (w.finish t' db).tx t' = none := Function.update_self ..
    rw [hself] at h
    cases h
  · have hother : (w.finish t db).tx t' = w.tx t' := Function.update_of_ne ht _ _
    exact hother.symm.trans h

/-- A transaction that runs after an action ran before it, with the same request, or has been
started by it. -/
theorem request_next {e : Event Req K T} (h : L.next w e = some w') {t' : T}
    {tx' : Tx Req Row W} (h_tx : w'.tx t' = some tx') :
    (∃ tx, w.tx t' = some tx ∧ tx.request = tx'.request) ∨ e = .start t' tx'.request := by
  -- a transaction that only goes on keeps its request
  have hset : ∀ {t : T} {tx₀ tx : Tx Req Row W}, (w.set t tx).tx t' = some tx' →
      w.tx t = some tx₀ → tx₀.request = tx.request →
      ∃ tx, w.tx t' = some tx ∧ tx.request = tx'.request := by
    intro t tx₀ tx hnew htx hreq
    rcases tx_set hnew with hold | ⟨rfl, rfl⟩
    · exact ⟨tx', hold, rfl⟩
    · exact ⟨tx₀, htx, hreq⟩
  cases e with
  | start t r =>
    obtain ⟨-, rfl⟩ := next_start h
    rcases tx_set h_tx with hold | ⟨rfl, rfl⟩
    · exact .inl ⟨tx', hold, rfl⟩
    · exact .inr rfl
  | lock t k =>
    obtain ⟨r, read, row, htx, -, -, -, -, rfl⟩ := next_lock h
    exact .inl (hset h_tx htx rfl)
  | plan t =>
    obtain ⟨r, read, ws, htx, -, -, rfl⟩ := next_plan h
    exact .inl (hset h_tx htx rfl)
  | write t =>
    obtain ⟨r, read, done, x, todo, htx, rfl⟩ := next_write h
    exact .inl (hset h_tx htx rfl)
  -- one that ends leaves the others as they are
  | commit t =>
    obtain ⟨r, read, done, db, -, -, rfl⟩ := next_commit h
    exact .inl ⟨tx', tx_finish h_tx, rfl⟩
  | abort t =>
    obtain ⟨-, rfl⟩ := next_abort h
    exact .inl ⟨tx', tx_finish h_tx, rfl⟩

end RowLocking

end Storefront
