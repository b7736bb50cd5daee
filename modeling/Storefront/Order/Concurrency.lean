import Storefront.Library.RowLock
import Storefront.Library.Run
import Storefront.Order.Stock

/-!
# Checkouts and orders of many users

Requests of any number of users at once. A `POST /checkout` reads the committed state and
issues a session cookie; a `POST /order` brings a cookie that was issued, by whatever checkout
and as often as it likes, and runs as a transaction that locks the catalog rows it reserves
(`catalogLocking`). Transactions interleave statement by statement, and every one may stop
before its commit.

* `exists_serial_run` — the committed states are those that orders reach one after the other;
* `stock_conserved` — in every state reached, the ordered quantity of an item is the quantity
  in all committed order lines, and at most the stock;
* `quantities_positive_iff` — all session data and order lines have positive quantities, and no
  ordered quantity ever decreases, if and only if every checkout that could be accepted asks for
  positive quantities.
-/

namespace Storefront

/-! ### The transactions of orders -/

/-- The order in which rows were selected makes no difference to a reservation. -/
theorem applyAll_reservationWrites_perm (d : Dict UUID Int) {rows rows' : List CatalogItemORM}
    (h_ids : (rows.map (·.id)).Nodup) (h : rows.Perm rows') (db : Database) :
    postgres.applyAll (reservationWrites d rows) db =
      postgres.applyAll (reservationWrites d rows') db := by
  refine postgres.applyAll_perm (h.map _) (fun x hx x' hx' db => ?_) db
  obtain ⟨row, hrow, rfl⟩ := List.mem_map.mp hx
  obtain ⟨row', hrow', rfl⟩ := List.mem_map.mp hx'
  by_cases hid : row.id = row'.id
  · -- two writes to one item are the same write
    rw [List.inj_on_of_nodup_map h_ids hrow hrow' hid]
  · exact apply_setOrderedQuantity_comm hid _ _ db

/-- `POST /order` as a transaction that locks the rows of its reservation. -/
def catalogLocking (orm : Orm) : RowLocking postgres OrderRequest CatalogItemORM UUID where
  rows db := db.catalog.items.rows
  key := CatalogItemORM.id
  target := Write.item?
  wanted r id := id ∈ r.reservation.keys
  plan := orderPlan orm
  nodup_rows db := db.catalog.items.nodup
  keys_apply h := by
    rw [(stock_apply h).1, List.map_map]
    exact List.map_congr_left fun item _ => id_onItem item _
  frame h h_row h_ne := by
    rw [(stock_apply h).1]
    exact List.mem_map.mpr ⟨_, h_row, onItem_of_ne h_ne⟩
  covered h h_mem h_target := by
    obtain ⟨-, -, stored, hstoring, rfl⟩ := orderPlan_eq_ok.mp h
    -- only the reservation writes catalog rows, and only those it has read
    rcases List.mem_append.mp h_mem with hres | hstored
    · obtain ⟨row, hrow, rfl⟩ := List.mem_map.mp hres
      exact List.mem_map.mpr ⟨row, hrow, Option.some.inj h_target⟩
    · rw [(storing_stock hstoring).2 _ hstored] at h_target
      cases h_target
  plan_perm h_nodup h_perm h := by
    obtain ⟨hne, hcheck, stored, hstoring, rfl⟩ := orderPlan_eq_ok.mp h
    -- what follows the reservation does not depend on the rows
    refine ⟨_, orderPlan_eq_ok.mpr ⟨hne, hcheck, stored, hstoring, rfl⟩, fun db => ?_⟩
    rw [postgres.applyAll_append, postgres.applyAll_append,
      applyAll_reservationWrites_perm _ h_nodup h_perm]

/-- What a transaction does is what its request does alone. -/
theorem serial_iff_commits {orm : Orm} {r : OrderRequest} {db db' : Database} :
    (catalogLocking orm).Serial r db db' ↔ r.Commits orm db db' := Iff.rfl

/-! ### The system -/

/-- The database with the transactions of orders, and the checkout data of all session
cookies that have been issued. -/
structure Shop where
  world : RowLocking.World Database Write OrderRequest CatalogItemORM UUID ℕ
  issued : List (List AvailableCheckoutItem)

namespace Shop

/-- No request has been made. -/
def initial (db : Database) : Shop := ⟨.initial db, []⟩

/-- What happens in a step: a `POST /checkout` with the checkout data of its cookie, or a
transaction of a `POST /order` goes on. -/
inductive Action
  | checkout (user : UserIdentity) (requestData : MakeCheckoutRequestSchema)
      (cookie : List AvailableCheckoutItem) (fault : Option PyExc)
  | order (e : RowLocking.Event OrderRequest UUID ℕ)

variable (P : Pydantic) (orm : Orm)

/-- The checkout data of a request: none, or that of a cookie that has been issued. -/
def Holds (s : Shop) (cookie : List AvailableCheckoutItem) : Prop :=
  cookie = [] ∨ cookie ∈ s.issued

instance (s : Shop) (cookie : List AvailableCheckoutItem) : Decidable (s.Holds cookie) :=
  inferInstanceAs (Decidable (_ ∨ _))

/-- The checkout data that a transaction starts with, if the event starts one. -/
def brings : RowLocking.Event OrderRequest UUID ℕ → List AvailableCheckoutItem
  | .start _ r => r.checkoutData
  | _ => []

/-- What the handler of a request works on. -/
def request (s : Shop) (cookie : List AvailableCheckoutItem) : Ctx Database Write RequestState :=
  .start s.world.committed ⟨cookie, []⟩

/-- One step. -/
def next (s : Shop) : Action → Option Shop
  | .checkout user requestData cookie fault =>
    if s.Holds cookie then
      let c := endState ((postCheckout P fault user requestData).run (s.request cookie))
      some
        { world := { s.world with committed := c.committed }
          issued := s.issued ++ [c.env.checkoutData] }
    else none
  | .order e =>
    if s.Holds (brings e) then
      ((catalogLocking orm).next s.world e).map fun world => { s with world }
    else none

/-- The steps of all requests. -/
def step (s : Shop) (a : Action) (s' : Shop) : Prop := next P orm s a = some s'

variable {P orm} {s s' : Shop}

/-- Inversion of a checkout. -/
theorem step_checkout {user : UserIdentity} {requestData : MakeCheckoutRequestSchema}
    {cookie : List AvailableCheckoutItem} {fault : Option PyExc}
    (h : step P orm s (.checkout user requestData cookie fault) s') :
    s.Holds cookie ∧ s'.world = s.world ∧ ∃ data, s'.issued = s.issued ++ [data] ∧
      ((data = cookie ∧ ¬ Acceptable P s.world.committed requestData.items) ∨
        ((verifyCheckoutData P requestData.items).run (s.request cookie) =
          .ok ⟨data, []⟩ (s.request cookie) ∧
        Acceptable P s.world.committed requestData.items)) := by
  simp only [step, next] at h
  split at h
  · next hholds =>
    obtain ⟨hcom, henv⟩ :=
      endState_postCheckout P user requestData fault s.world.committed ⟨cookie, []⟩
    cases h
    refine ⟨hholds, ?_, _, rfl, ?_⟩
    -- a checkout commits nothing
    · exact congrArg (fun db => { s.world with committed := db }) hcom
    · rcases henv with ⟨hnot, henv⟩ | ⟨items, hverify, henv⟩
      · refine .inl ⟨congrArg RequestState.checkoutData henv, fun hacc => ?_⟩
        obtain ⟨items, hverify⟩ := verifyCheckoutData_accepts_iff.mpr hacc
        exact hnot items hverify
      · refine .inr ⟨?_, verifyCheckoutData_accepts_iff.mp ⟨items, hverify⟩⟩
        rw [show (endState ((postCheckout P fault user requestData).run
          (s.request cookie))).env.checkoutData = items from
            congrArg RequestState.checkoutData henv]
        exact hverify
  · cases h

/-- Inversion of a step of a transaction. -/
theorem step_order {e : RowLocking.Event OrderRequest UUID ℕ} (h : step P orm s (.order e) s') :
    s.Holds (brings e) ∧ (catalogLocking orm).next s.world e = some s'.world ∧
      s'.issued = s.issued := by
  simp only [step, next] at h
  split at h
  · next hholds =>
    obtain ⟨world, hworld, rfl⟩ := Option.map_eq_some_iff.mp h
    exact ⟨hholds, hworld, rfl⟩
  · cases h

/-! ### The invariant -/

/-- The invariant of runs in which every checkout that is accepted stores data with a property
`D`: so has all checkout data that has been issued, and that of every running transaction. -/
structure Inv (orm : Orm) (D : List AvailableCheckoutItem → Prop) (s : Shop) : Prop where
  locking : (catalogLocking orm).Inv s.world
  issued : ∀ data ∈ s.issued, D data
  running : ∀ t tx, s.world.tx t = some tx → D tx.request.checkoutData

variable {D : List AvailableCheckoutItem → Prop}

theorem Inv.initial (db : Database) : Inv orm D (initial db) where
  locking := RowLocking.Inv.initial _ db
  issued _ h := by cases h
  running _ _ h := by cases h

theorem Inv.of_holds (hI : Inv orm D s) (h_nil : D []) {cookie : List AvailableCheckoutItem}
    (h : s.Holds cookie) : D cookie := by
  rcases h with rfl | h
  · exact h_nil
  · exact hI.issued cookie h

/-- **One step.** It keeps the invariant, and changes the committed state only by what one
`POST /order` does alone, with checkout data that has the property. -/
theorem Inv.step (hI : Inv orm D s) (h_nil : D []) {a : Action} (h : step P orm s a s')
    (h_new : ∀ user requestData cookie fault, a = .checkout user requestData cookie fault →
      ∀ data, (verifyCheckoutData P requestData.items).run (s.request cookie) =
        .ok ⟨data, []⟩ (s.request cookie) → D data) :
    Inv orm D s' ∧ (s'.world.committed = s.world.committed ∨
      ∃ r : OrderRequest, D r.checkoutData ∧
        r.Commits orm s.world.committed s'.world.committed) := by
  cases a with
  | checkout user requestData cookie fault =>
    obtain ⟨hholds, hworld, data, hissued, hdata⟩ := step_checkout h
    -- the session keeps the data of its cookie, or gets what was accepted
    have hD : D data := by
      rcases hdata with ⟨rfl, -⟩ | ⟨hverify, -⟩
      · exact hI.of_holds h_nil hholds
      · exact h_new user requestData cookie fault rfl data hverify
    refine ⟨⟨hworld ▸ hI.locking, fun data' hdata' => ?_, hworld ▸ hI.running⟩,
      .inl (by rw [hworld])⟩
    rw [hissued, List.mem_append, List.mem_singleton] at hdata'
    rcases hdata' with hold | rfl
    · exact hI.issued data' hold
    · exact hD
  | order e =>
    obtain ⟨hholds, hnext, hissued⟩ := step_order h
    obtain ⟨hlocking, hcommitted⟩ := hI.locking.step hnext
    refine ⟨⟨hlocking, hissued ▸ hI.issued, fun t tx htx => ?_⟩, ?_⟩
    -- a transaction that runs has been started with a cookie that was issued
    · rcases RowLocking.request_next hnext htx with ⟨tx₀, htx₀, hreq⟩ | rfl
      · exact hreq ▸ hI.running t tx₀ htx₀
      · exact hI.of_holds h_nil hholds
    · refine hcommitted.imp_right ?_
      rintro ⟨t, tx, -, htx, hserial⟩
      exact ⟨tx.request, hI.running t tx htx, serial_iff_commits.mp hserial⟩

/-- `POST /order` runs alone, and goes through. -/
def serial (orm : Orm) (db : Database) (r : OrderRequest) (db' : Database) : Prop :=
  ∃ link c', (postOrder orm r.outside none r.user r.order).run
    (Ctx.start db ⟨r.checkoutData, []⟩) = .ok link c' ∧ c'.committed = db'

/-- **Refinement.** Every committed state that interleaved requests reach is reached by running
some `POST /order` requests one after the other. -/
theorem exists_serial_run {db : Database} {as : List Action}
    (h : Run (step P orm) (initial db) as s) :
    ∃ rs, Run (serial orm) db rs s.world.committed := by
  have hrun : Inv orm (fun _ => True) s ∧ ∃ rs, Run (serial orm) db rs s.world.committed := by
    refine h.invariant (I := fun s => Inv orm (fun _ => True) s ∧
      ∃ rs, Run (serial orm) db rs s.world.committed) ⟨.initial db, [], .nil db⟩ ?_
    rintro s a s' ⟨hI, rs, hserial⟩ hstep
    obtain ⟨hI', hcommitted⟩ := hI.step trivial hstep fun _ _ _ _ _ _ _ => trivial
    refine ⟨hI', ?_⟩
    -- a commit appends its request
    rcases hcommitted with heq | ⟨r, -, hcommits⟩
    · exact ⟨rs, heq ▸ hserial⟩
    · exact ⟨rs ++ [r], hserial.snoc (postOrder_commits_iff.mpr hcommits)⟩
  exact hrun.2

/-! ### Stock conservation -/

/-- Checkout data in which no item comes twice. -/
def Distinct (data : List AvailableCheckoutItem) : Prop := (data.map (·.id)).Nodup

/-- A checkout stores no item twice. -/
theorem distinct_of_verify {requestData : MakeCheckoutRequestSchema}
    {data : List AvailableCheckoutItem} {c : Ctx Database Write RequestState} (hc : c.Clean)
    (h : (verifyCheckoutData P requestData.items).run c = .ok ⟨data, []⟩ c) : Distinct data := by
  obtain ⟨-, hnodup, -, hall⟩ := verifyCheckoutData_eq_ok hc h
  have hlines : data.map (·.id) = requestData.items.map (·.id) := by
    rw [← hall rfl, List.map_map]
    rfl
  unfold Distinct
  rw [hlines]
  exact hnodup

/-- **Stock conservation.** In every state that checkouts and orders reach from one in which
the counters agree with the order lines, whatever the number of users and however the
transactions interleave, each item's ordered quantity is the quantity of all committed order
lines for it, and that is at most the item's stock. -/
theorem stock_conserved (P : Pydantic) (orm : Orm) {db : Database} (h_balanced : Balanced db)
    {as : List Action} {s : Shop} (h : Run (step P orm) (initial db) as s) :
    ∀ item ∈ s.world.committed.catalog.items.rows,
      item.orderedQuantity = orderedLines s.world.committed.orderItems.rows item.id ∧
        ∀ q ∈ item.quantity, orderedLines s.world.committed.orderItems.rows item.id ≤ q := by
  have hrun : Inv orm Distinct s ∧ Balanced s.world.committed := by
    refine h.invariant (I := fun s => Inv orm Distinct s ∧ Balanced s.world.committed)
      ⟨.initial db, h_balanced⟩ ?_
    rintro s a s' ⟨hI, hbalanced⟩ hstep
    obtain ⟨hI', hcommitted⟩ := hI.step List.nodup_nil hstep
      fun _ _ _ _ _ _ hverify => distinct_of_verify (Ctx.clean_start _ _) hverify
    refine ⟨hI', ?_⟩
    -- only a commit touches the two tables, and it moves both alike
    rcases hcommitted with heq | ⟨r, hdistinct, hcommits⟩
    · rw [heq]
      exact hbalanced
    · exact Commits.balanced hcommits hdistinct hbalanced
  intro item hitem
  have hcount := hrun.2 item hitem
  refine ⟨hcount, fun q hq => ?_⟩
  rw [← hcount]
  exact s.world.committed.catalog.quantity_limit item hitem q hq

/-- The checkout data of two pieces of the item of the sample database. -/
def twoPieces : List AvailableCheckoutItem := [⟨⟨1, 2⟩, none, 100, "", none⟩]

/-- An order of the given checkout data, delivered to a point. -/
def sampleOrder (data : List AvailableCheckoutItem) : OrderRequest where
  user := sampleUser
  order :=
    { deliveryData := some ⟨⟨"Name", "+70000000000"⟩, .cdek, some ⟨"address", "code"⟩⟩
      creditIds := [] }
  outside := sampleOutside
  checkoutData := data

/-- The statements of transaction `t` for an order of one item, to its commit. -/
def orderRun (t : ℕ) (r : OrderRequest) : List Action :=
  List.map Action.order <|
    [.start t r, .lock t 1, .plan t] ++ List.replicate 7 (.write t) ++ [.commit t]

/-- A checkout of two pieces, and two orders of them at once, of which one goes through. -/
def twoOrders : List Action :=
  .checkout sampleUser ⟨[⟨1, 2⟩]⟩ [] none :: .order (.start 1 (sampleOrder twoPieces)) ::
    orderRun 0 (sampleOrder twoPieces) ++ [.order (.lock 1 1), .order (.plan 1), .order (.abort 1)]

theorem twoOrders_isSome :
    (exec (next .strict .flattening) (initial sampleDatabase) twoOrders).isSome := by
  decide +kernel

theorem stock_conserved_two_orders :
    ∃ s, Run (step .strict .flattening) (initial sampleDatabase) twoOrders s ∧
      s.world.committed.orderItems.rows.map (·.quantity) = [2] ∧
      ∀ item ∈ s.world.committed.catalog.items.rows,
        item.orderedQuantity = orderedLines s.world.committed.orderItems.rows item.id ∧
          ∀ q ∈ item.quantity, orderedLines s.world.committed.orderItems.rows item.id ≤ q := by
  have hrun := run_of_exec (Option.some_get twoOrders_isSome).symm
  exact ⟨_, hrun, by decide +kernel, stock_conserved .strict .flattening
    (balanced_of_no_lines rfl (by decide)) hrun⟩

/-! ### Positive quantities -/

/-- Checkout data in which every quantity is at least one. -/
def Positive (data : List AvailableCheckoutItem) : Prop := ∀ item ∈ data, 1 ≤ item.quantity

instance (data : List AvailableCheckoutItem) : Decidable (Positive data) :=
  inferInstanceAs (Decidable (∀ item ∈ data, 1 ≤ item.quantity))

/-- A checkout that could be accepted asks for quantities of at least one. -/
def AsksPositive (P : Pydantic) (s : Shop) : Action → Prop
  | .checkout _ requestData _ _ =>
    Acceptable P s.world.committed requestData.items →
      ∀ line ∈ requestData.items, 1 ≤ line.quantity
  | .order _ => True

/-- The lines that are stored are those of the body. -/
theorem positive_iff_of_verify {requestData : MakeCheckoutRequestSchema}
    {data : List AvailableCheckoutItem} {c : Ctx Database Write RequestState} (hc : c.Clean)
    (h : (verifyCheckoutData P requestData.items).run c = .ok ⟨data, []⟩ c) :
    Positive data ↔ ∀ line ∈ requestData.items, 1 ≤ line.quantity := by
  obtain ⟨-, -, -, hall⟩ := verifyCheckoutData_eq_ok hc h
  rw [← hall rfl, List.forall_mem_map]
  rfl

/-- Session data stays issued. -/
theorem issued_subset {a : Action} (h : step P orm s a s') : s.issued ⊆ s'.issued := by
  cases a with
  | checkout user requestData cookie fault =>
    obtain ⟨-, -, data, hissued, -⟩ := step_checkout h
    rw [hissued]
    exact List.subset_append_left _ _
  | order e =>
    obtain ⟨-, -, hissued⟩ := step_order h
    rw [hissued]
    exact List.Subset.refl _

/-- A step that leaves only positive session data asked for it. -/
theorem asksPositive_of_issued {a : Action} (h : step P orm s a s')
    (h_issued : ∀ data ∈ s'.issued, Positive data) : AsksPositive P s a := by
  cases a with
  | checkout user requestData cookie fault =>
    obtain ⟨-, -, data, hissued, hdata⟩ := step_checkout h
    intro hacc
    rcases hdata with ⟨-, hnot⟩ | ⟨hverify, -⟩
    · exact absurd hacc hnot
    · refine (positive_iff_of_verify (Ctx.clean_start _ _) hverify).mp (h_issued data ?_)
      rw [hissued]
      exact List.mem_append_right _ (List.mem_singleton.mpr rfl)
  | order e => trivial

/-- A run that leaves only positive session data asked for it at every checkout. -/
theorem guarded_of_issued {as : List Action} (h : Run (step P orm) s as s')
    (h_issued : ∀ data ∈ s'.issued, Positive data) :
    Run (guarded (AsksPositive P) (step P orm)) s as s' := by
  induction h with
  | nil => exact .nil _
  | snoc _ hstep ih =>
    exact (ih fun data hdata => h_issued data (issued_subset hstep hdata)).snoc
      ⟨asksPositive_of_issued hstep h_issued, hstep⟩

/-- The invariant of runs whose checkouts ask for positive quantities. -/
structure PositiveInv (orm : Orm) (s : Shop) : Prop where
  shop : Inv orm (fun data => Distinct data ∧ Positive data) s
  stock : PositiveStock s.world.committed

theorem PositiveInv.step (hI : PositiveInv orm s) {a : Action}
    (h : guarded (AsksPositive P) (step P orm) s a s') :
    PositiveInv orm s' ∧ OrderedLe s.world.committed s'.world.committed := by
  obtain ⟨hasks, hstep⟩ := h
  obtain ⟨hshop, hcommitted⟩ := hI.shop.step ⟨List.nodup_nil, nofun⟩ hstep (by
    rintro user requestData cookie fault rfl data hverify
    have hc := Ctx.clean_start (W := Write) s.world.committed (RequestState.mk cookie [])
    refine ⟨distinct_of_verify hc hverify, (positive_iff_of_verify hc hverify).mpr ?_⟩
    exact hasks (verifyCheckoutData_accepts_iff.mp ⟨data, hverify⟩))
  rcases hcommitted with heq | ⟨r, ⟨hdistinct, hpositive⟩, hcommits⟩
  · rw [heq]
    exact ⟨⟨hshop, heq ▸ hI.stock⟩, .refl _⟩
  · obtain ⟨hstock, hle⟩ := Commits.positive hcommits hdistinct hpositive hI.stock
    exact ⟨⟨hshop, hstock⟩, hle⟩

/-- **When no quantity is below one.** In a run `as` followed by a run `bs`, all session data
and all order lines have quantities of at least one, no ordered quantity is negative, and none
decreases from the end of `as` to the end of `bs`, if and only if every checkout that could
be accepted asks for quantities of at least one. -/
theorem quantities_positive_iff (P : Pydantic) (orm : Orm) {db : Database}
    (h_stock : PositiveStock db) {as bs : List Action} {s s' : Shop}
    (h : Run (step P orm) (initial db) as s) (h' : Run (step P orm) s bs s') :
    ((∀ data ∈ s'.issued, ∀ item ∈ data, 1 ≤ item.quantity) ∧
      (∀ line ∈ s'.world.committed.orderItems.rows, 1 ≤ line.quantity) ∧
      (∀ item ∈ s'.world.committed.catalog.items.rows, 0 ≤ item.orderedQuantity) ∧
      OrderedLe s.world.committed s'.world.committed) ↔
    Run (guarded (AsksPositive P) (step P orm)) (initial db) (as ++ bs) s' := by
  have hinit : PositiveInv orm (initial db) := ⟨.initial db, h_stock⟩
  refine ⟨?_, ?_⟩
  · -- data that is issued has the quantities that were asked for
    rintro ⟨hissued, -⟩
    exact guarded_of_issued (h.append h') hissued
  · intro hguarded
    have hI' : PositiveInv orm s' :=
      hguarded.invariant hinit fun _ _ _ hI hstep => (hI.step hstep).1
    have hissued : ∀ data ∈ s'.issued, Positive data :=
      fun data hdata => (hI'.shop.issued data hdata).2
    -- session data is never taken back, so the first part meets the condition too
    have hsub : s.issued ⊆ s'.issued :=
      h'.monotone (I := fun _ => True) (r := fun s s' => s.issued ⊆ s'.issued)
        (fun _ => List.Subset.refl _) (fun h₁ h₂ => List.Subset.trans h₁ h₂) trivial
        fun _ _ _ _ hstep => ⟨trivial, issued_subset hstep⟩
    have hguarded₁ := guarded_of_issued h fun data hdata => hissued data (hsub hdata)
    have hguarded₂ := guarded_of_issued h' hissued
    have hI : PositiveInv orm s :=
      hguarded₁.invariant hinit fun _ _ _ hI hstep => (hI.step hstep).1
    -- from the middle on every step meets the condition, so no ordered quantity falls
    have hle : OrderedLe s.world.committed s'.world.committed :=
      hguarded₂.monotone (r := fun s s' : Shop => OrderedLe s.world.committed s'.world.committed)
        (fun s => .refl s.world.committed) (fun h₁ h₂ => OrderedLe.trans h₁ h₂) hI
        fun _ _ _ hI hstep => hI.step hstep
    exact ⟨hissued, hI'.stock.lines, hI'.stock.ordered, hle⟩

/-- In the run of the two orders every quantity is at least one. -/
theorem quantities_positive_two_orders :
    ∃ s, Run (step .strict .flattening) (initial sampleDatabase) twoOrders s ∧
      (∀ data ∈ s.issued, ∀ item ∈ data, 1 ≤ item.quantity) ∧
      (∀ line ∈ s.world.committed.orderItems.rows, 1 ≤ line.quantity) ∧
      (∀ item ∈ s.world.committed.catalog.items.rows, 0 ≤ item.orderedQuantity) ∧
      OrderedLe sampleDatabase s.world.committed := by
  have hrun := run_of_exec (Option.some_get twoOrders_isSome).symm
  exact ⟨_, hrun, (quantities_positive_iff .strict .flattening ⟨by decide, by decide⟩ (.nil _)
    hrun).mpr (guarded_of_issued hrun (by decide +kernel))⟩

/-- The checkout data of minus one piece of the item of the sample database. -/
def minusOnePiece : List AvailableCheckoutItem := [⟨⟨1, -1⟩, none, 100, "", none⟩]

/-- A checkout of minus one piece, and its order. -/
def negativeOrder : List Action :=
  .checkout sampleUser ⟨[⟨1, -1⟩]⟩ [] none :: orderRun 0 (sampleOrder minusOnePiece)

theorem negativeOrder_isSome :
    (exec (next .strict .flattening) (initial sampleDatabase) negativeOrder).isSome := by
  decide +kernel

/-- The negative quantity is accepted, stored and ordered, and gives stock back. -/
theorem negative_quantity_ordered :
    ∃ s, Run (step .strict .flattening) (initial sampleDatabase) negativeOrder s ∧
      (∃ data ∈ s.issued, ∃ item ∈ data, item.quantity < 1) ∧
      (∃ line ∈ s.world.committed.orderItems.rows, line.quantity < 1) ∧
      (∃ item ∈ s.world.committed.catalog.items.rows, item.orderedQuantity < 0) ∧
      ¬ OrderedLe sampleDatabase s.world.committed := by
  refine ⟨_, run_of_exec (Option.some_get negativeOrder_isSome).symm, ?_, ?_, ?_, ?_⟩
  · decide +kernel
  · decide +kernel
  · decide +kernel
  · unfold OrderedLe
    decide +kernel

end Shop

end Storefront
