import Storefront.Library.PlainRead
import Storefront.User.CartQuantity

/-!
# Changes of one quantity at once

Any number of changes of one cart row, each in a transaction of its own. A change reads the
quantity with a plain SELECT, and writes the new one as it is (`rowChanges`); alone it does
what the service does (`serial_iff_run`).

* `served_one_by_one` — changes that commit only what they have read right are served as if one
  came after the other;
* `no_update_lost_iff` — in the runs of any number of changes, the quantity is always the one
  at the start, plus the increments and minus the decrements that were committed, if and only
  if every change that commits has read what is still the quantity;
* `update_lost` — two increments that read before either writes count for one.
-/

namespace Storefront

/-! ### The transactions of changes -/

/-- A change of the quantity of one row. -/
structure RowChange where
  availableItems : Option Int
  isIncrementAction : Bool
  deriving DecidableEq, Repr

/-- The changes of the row of a user and an item. -/
def rowChanges (userId itemId : UUID) : PlainRead postgres RowChange Int where
  read _ db := answerOf ((getCartItemQuantity itemId userId).run (Ctx.start db ()))
  plan change cartQuantity :=
    (newCartQuantity change.availableItems change.isIncrementAction cartQuantity).map
      (.updateCartItemQuantity userId itemId)

section RowChanges

variable {userId itemId : UUID} {db db' : Database} {change : RowChange}

/-- What a change reads is the quantity of the row. -/
theorem read_rowChanges {row : CartItemORM} (h : row ∈ db.carts.table.rows) :
    (rowChanges row.userId row.itemId).read change db = .ok row.quantity := by
  show answerOf ((getCartItemQuantity row.itemId row.userId).run (Ctx.start db ())) = _
  rw [run_getCartItemQuantity (Ctx.clean_start db ()) h]
  rfl

/-- What a change plans to write. -/
theorem plan_rowChanges {cartQuantity : Int} {w : Write} :
    (rowChanges userId itemId).plan change cartQuantity = .ok w ↔
      ∃ n, newCartQuantity change.availableItems change.isIncrementAction cartQuantity = .ok n ∧
        w = .updateCartItemQuantity userId itemId n := by
  unfold rowChanges
  simp only
  cases newCartQuantity change.availableItems change.isIncrementAction cartQuantity with
  | error e => exact ⟨nofun, nofun⟩
  | ok n => simp [Except.map, eq_comm]

theorem read_rowChanges_eq_ok {cartQuantity : Int} :
    (rowChanges userId itemId).read change db = .ok cartQuantity ↔
      ∃ row ∈ db.carts.table.rows, row.userId = userId ∧ row.itemId = itemId ∧
        cartQuantity = row.quantity := by
  refine ⟨?_, ?_⟩
  · intro h
    replace h : answerOf ((getCartItemQuantity itemId userId).run (Ctx.start db ())) =
      .ok cartQuantity := h
    cases hrun : (getCartItemQuantity itemId userId).run
        (Ctx.start db () : Ctx Database Write Unit) with
    | error e c =>
      rw [hrun] at h
      cases h
    | ok n c =>
      rw [hrun] at h
      cases h
      exact (getCartItemQuantity_eq_ok (Ctx.clean_start db ()) hrun).2
  · rintro ⟨row, hrow, rfl, rfl, rfl⟩
    exact read_rowChanges hrow

/-- **Alone, a transaction does what the service does.** -/
theorem serial_iff_run {user : Kratos.UserIdentity} {session : SessionData} :
    (rowChanges user.id itemId).Serial db change db' ↔
      (userServiceChangeCartItemQuantity (some user) itemId change.availableItems
        change.isIncrementAction).run (Visit.ctx ⟨session, db⟩ (some user)) =
          .ok () { Visit.ctx ⟨session, db⟩ (some user) with session := ⟨db', [], false⟩ } := by
  have hclean := Visit.clean_ctx ⟨session, db⟩ (some user)
  rw [run_userServiceChangeCartItemQuantity rfl rfl]
  refine ⟨?_, ?_⟩
  · -- read, planned and applied without anything in between
    rintro ⟨cartQuantity, w, hread, hplan, happly⟩
    obtain ⟨row, hrow, huser, rfl, rfl⟩ := read_rowChanges_eq_ok.mp hread
    obtain ⟨n, hnew, rfl⟩ := plan_rowChanges.mp hplan
    have hrun := run_getCartItemQuantity hclean hrow
    rw [← huser] at happly ⊢
    rw [run_bind_ok hrun, hnew]
    exact (Session.execute_eq_ok postgres _ hclean).mpr ⟨db', happly, rfl⟩
  · intro h
    obtain ⟨cartQuantity, c, hread, h₁⟩ := bind_eq_ok.mp h
    obtain ⟨rfl, hrow⟩ := getCartItemQuantity_eq_ok hclean hread
    obtain ⟨n, c', hnew, h₂⟩ := bind_eq_ok.mp h₁
    obtain ⟨hnew', rfl⟩ := liftExcept_eq_ok.mp hnew
    obtain ⟨db'', happly, hc⟩ := (Session.execute_eq_ok postgres _ hclean).mp h₂
    obtain rfl : db' = db'' :=
      congrArg (fun c : Ctx Database Write SessionData => c.session.view) hc
    exact ⟨cartQuantity, _, read_rowChanges_eq_ok.mpr hrow,
      plan_rowChanges.mpr ⟨n, hnew', rfl⟩, happly⟩

end RowChanges

/-- The changes of a row, and the transactions that make them. -/
abbrev RowWorld : Type := PlainRead.World Database Write RowChange Int ℕ

/-- **Changes served one by one.** Where every change that commits has read what is still the
quantity, the service makes the same of the database when it is called for the committed changes
one after the other. -/
theorem served_one_by_one {user : Kratos.UserIdentity} {itemId : UUID} (session : SessionData)
    {db : Database} {events : List (PlainRead.Event RowChange ℕ)} {w : RowWorld}
    (h : Run (guarded (rowChanges user.id itemId).Current (rowChanges user.id itemId).step)
      (.initial db) events w) :
    Run (fun db change db' =>
      (userServiceChangeCartItemQuantity (some user) itemId change.availableItems
        change.isIncrementAction).run (Visit.ctx ⟨session, db⟩ (some user)) =
          .ok () { Visit.ctx ⟨session, db⟩ (some user) with session := ⟨db', [], false⟩ })
      db w.served w.committed :=
  (Run.congr_of_invariant (I := fun _ => True) trivial (fun _ _ _ _ => serial_iff_run)
    fun _ _ _ _ _ => trivial).mp (PlainRead.serial_of_current h)

/-! ### The account of a row -/

/-- The increments and decrements among changes. -/
def increments (served : List RowChange) : ℕ :=
  served.countP fun change => change.isIncrementAction
def decrements (served : List RowChange) : ℕ :=
  served.countP fun change => !change.isIncrementAction

/-- The quantity that a row has after changes. -/
def quantityAfter (row : CartItemORM) (served : List RowChange) : Int :=
  row.quantity + increments served - decrements served

/-- The row, as it was at the start, has the quantity that the committed changes account for. -/
def AccountedFor (row : CartItemORM) (w : RowWorld) : Prop :=
  { row with quantity := quantityAfter row w.served } ∈ w.committed.carts.table.rows

section AccountedFor

variable {row : CartItemORM} {w w' : RowWorld}

/-- One more change in the account is that change of the quantity. -/
theorem quantityAfter_append (served : List RowChange) (change : RowChange) :
    quantityAfter row (served ++ [change]) =
      changedQuantity change.isIncrementAction (quantityAfter row served) := by
  unfold quantityAfter increments decrements changedQuantity
  rw [List.countP_append, List.countP_append, List.countP_singleton, List.countP_singleton]
  cases change.isIncrementAction with
  | true =>
    push_cast
    simp
    ring
  | false =>
    push_cast
    simp
    ring

theorem changedQuantity_injective (isIncrementAction : Bool) :
    Function.Injective (changedQuantity isIncrementAction) := by
  intro q q' h
  unfold changedQuantity at h
  cases isIncrementAction with
  | true => exact add_right_cancel h
  | false => exact sub_left_injective h

/-- After the write of a quantity the row has this one and no other. -/
theorem mem_rows_after_write {db db' : Database} {m n k : Int}
    (h : { row with quantity := m } ∈ db.carts.table.rows) (h_pos : 0 < n)
    (h_apply : postgres.apply (.updateCartItemQuantity row.userId row.itemId n) db = .ok db') :
    { row with quantity := k } ∈ db'.carts.table.rows ↔ k = n := by
  obtain ⟨db'', happly, hstored⟩ := apply_updateCartItemQuantity h h_pos
  obtain rfl : db' = db'' := Except.ok.inj (h_apply.symm.trans happly)
  have hmem := hstored.mem h
  refine ⟨?_, ?_⟩
  · intro hk
    exact congrArg CartItemORM.quantity (Table.eq_of_mem hk hmem rfl)
  · rintro rfl
    exact hmem

/-- **A step keeps the account exactly when it commits what is planned from a right read.** -/
theorem accountedFor_step_iff (hI : (rowChanges row.userId row.itemId).Inv w)
    (h : AccountedFor row w) {e : PlainRead.Event RowChange ℕ}
    (h_step : (rowChanges row.userId row.itemId).step w e w') :
    AccountedFor row w' ↔ (rowChanges row.userId row.itemId).Current w e := by
  obtain ⟨-, ⟨hno, hcommitted, hserved⟩ | ⟨t, tx, x, rfl, htx, hplan, happly, hserved⟩⟩ :=
    hI.step h_step
  · -- nothing is committed, and nothing counts as served
    unfold AccountedFor
    rw [hcommitted, hserved]
    exact iff_of_true h (PlainRead.current_of_ne hno)
  · obtain ⟨n, hnew, rfl⟩ := plan_rowChanges.mp hplan
    obtain ⟨rfl, hpos, -⟩ := newCartQuantity_eq_ok.mp hnew
    have hread := @read_rowChanges w.committed tx.request _ h
    -- the commit stores what was planned from the row as it was read
    calc AccountedFor row w'
        ↔ quantityAfter row w'.served = changedQuantity tx.request.isIncrementAction tx.view :=
          mem_rows_after_write h hpos happly
      _ ↔ quantityAfter row w.served = tx.view := by
          rw [hserved, quantityAfter_append]
          exact (changedQuantity_injective _).eq_iff
      _ ↔ (rowChanges row.userId row.itemId).Current w (.commit t) := by
          rw [PlainRead.current_commit htx, hread]
          exact ⟨congrArg Except.ok, Except.ok.inj⟩

end AccountedFor

/-- **When no update is lost.** The runs of any number of changes of a row in which its quantity
is always accounted for are those in which every change that commits has read what is still the
quantity. -/
theorem no_update_lost_iff (db : Database) (row : CartItemORM)
    (h : row ∈ db.carts.table.rows) (events : List (PlainRead.Event RowChange ℕ)) (w : RowWorld) :
    Run (fun w e w' => (rowChanges row.userId row.itemId).step w e w' ∧ AccountedFor row w')
        (.initial db) events w ↔
      Run (guarded (rowChanges row.userId row.itemId).Current
        (rowChanges row.userId row.itemId).step) (.initial db) events w := by
  -- no change has been served
  have hinitial : AccountedFor row (.initial db) := by
    show { row with quantity := row.quantity + 0 - 0 } ∈ db.carts.table.rows
    rw [add_zero, sub_zero]
    exact h
  refine Run.congr_of_invariant
    (I := fun w => (rowChanges row.userId row.itemId).Inv w ∧ AccountedFor row w)
    ⟨PlainRead.Inv.initial _ db, hinitial⟩ (fun w e w' hI => ?_) ?_
  · refine ⟨?_, ?_⟩
    · rintro ⟨hstep, haccount⟩
      exact ⟨(accountedFor_step_iff hI.1 hI.2 hstep).mp haccount, hstep⟩
    · rintro ⟨hcurrent, hstep⟩
      exact ⟨hstep, (accountedFor_step_iff hI.1 hI.2 hstep).mpr hcurrent⟩
  · exact fun w e w' hI ⟨hstep, haccount⟩ => ⟨(hI.1.step hstep).1, haccount⟩

/-- An increment of an item with a stock of three. -/
def increment : RowChange := ⟨some 3, true⟩

/-- One increment after the other. -/
def inTurn : List (PlainRead.Event RowChange ℕ) :=
  [.read 0 increment, .write 0, .commit 0, .read 1 increment, .write 1, .commit 1]

/-- Both read before either writes. -/
def atOnce : List (PlainRead.Event RowChange ℕ) :=
  [.read 0 increment, .read 1 increment, .write 0, .commit 0, .write 1, .commit 1]

/-- One after the other, two increments count for two. -/
theorem no_update_lost_in_turn :
    ∃ w : RowWorld, Run (fun w e w' => (rowChanges 5 1).step w e w' ∧ AccountedFor ⟨20, 5, 1, 1⟩ w')
        (.initial (cartDatabase 1 (by decide))) inTurn w ∧
      w.served = [increment, increment] ∧ w.committed.carts.table.rows = [⟨20, 5, 1, 3⟩] := by
  have hrun : ∃ w : RowWorld, Run (guarded (rowChanges 5 1).Current (rowChanges 5 1).step)
      (.initial (cartDatabase 1 (by decide))) inTurn w ∧
      w.served = [increment, increment] ∧ w.committed.carts.table.rows = [⟨20, 5, 1, 3⟩] := by
    have hfree : ∀ {w : RowWorld} {e : PlainRead.Event RowChange ℕ}, (∀ t, e ≠ .commit t) →
        (rowChanges 5 1).Current w e := PlainRead.current_of_ne
    refine ⟨_, .cons ⟨hfree nofun, rfl⟩ (.cons ⟨hfree nofun, rfl⟩ (.cons ⟨?_, rfl⟩
      (.cons ⟨hfree nofun, rfl⟩ (.cons ⟨hfree nofun, rfl⟩ (.cons ⟨?_, rfl⟩ (.nil _)))))), rfl, rfl⟩
    · exact (PlainRead.current_commit rfl).mpr rfl
    · exact (PlainRead.current_commit rfl).mpr rfl
  obtain ⟨w, hcurrent, hw⟩ := hrun
  exact ⟨w, (no_update_lost_iff _ ⟨20, 5, 1, 1⟩ List.mem_cons_self _ _).mpr hcurrent, hw⟩

/-- **At once, two increments count for one.** -/
theorem update_lost :
    ∃ w : RowWorld, Run (rowChanges 5 1).step (.initial (cartDatabase 1 (by decide))) atOnce w ∧
      w.served = [increment, increment] ∧ w.committed.carts.table.rows = [⟨20, 5, 1, 2⟩] ∧
      ¬ AccountedFor ⟨20, 5, 1, 1⟩ w := by
  refine ⟨_, .cons rfl (.cons rfl (.cons rfl (.cons rfl (.cons rfl (.cons rfl (.nil _)))))), rfl,
    rfl, fun h => ?_⟩
  exact absurd (List.mem_singleton.mp h) (by decide)

end Storefront
