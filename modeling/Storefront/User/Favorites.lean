import Storefront.Library.Run
import Storefront.User.CartQuantity

/-!
# Favorites

The favorites of a user, which `UserService.add_favorite_item` and `remove_favorite_item`
change. An addition inserts a row, whatever is there, and a removal deletes all rows of the
user and the item (`userFavorites_step`).

So what is shown has an item exactly when the last operation on it was an addition
(`mem_userFavorites_run`), and may have it several times:

* `favorites_set_iff` — in the runs of operations of any users, the favorites of a user are
  always shown as a set if and only if the user adds no item that is among them;
* `favorite_added_twice` — an addition that is repeated is shown twice.
-/

namespace Storefront

variable {σ : Type}

/-! ### The operations -/

/-- `UserService.add_favorite_item`: `create` adds the row and flushes. The id is drawn for the
row. -/
def addFavoriteItem (drawn catalogItemId userId : UUID) : App σ Unit :=
  Session.execute postgres (.insertFavorite { id := drawn, userId, catalogItemId })

/-- `UserRepository.remove_favorite_item` -/
def removeFavoriteItem (catalogItemId userId : UUID) : App σ Unit :=
  Session.execute postgres (.deleteFavorites userId catalogItemId)

/-- `add_favorite` -/
def addFavorite (drawn itemId : UUID) (user : Option Kratos.UserIdentity) : App σ Unit := do
  let user ← liftExcept (attributeOf user)
  addFavoriteItem drawn itemId user.id

/-- `delete_favorite` -/
def deleteFavorite (itemId : UUID) (user : Option Kratos.UserIdentity) : App σ Unit := do
  let user ← liftExcept (attributeOf user)
  removeFavoriteItem itemId user.id

/-- A request about the favorites. -/
inductive FavoriteOperation
  | add (itemId drawn : UUID)
  | remove (itemId : UUID)
  deriving DecidableEq, Repr

namespace FavoriteOperation

def itemId : FavoriteOperation → UUID
  | add itemId _ => itemId
  | remove itemId => itemId

def isAdd : FavoriteOperation → Bool
  | add _ _ => true
  | remove _ => false

def method : FavoriteOperation → Method
  | add _ _ => .post
  | remove _ => .delete

/-- The handler of a request. -/
def endpoint (user : Option Kratos.UserIdentity) : FavoriteOperation → App SessionData Unit
  | add itemId drawn => addFavorite drawn itemId user
  | remove itemId => deleteFavorite itemId user

/-- The statement of a request of a user. -/
def write (userId : UUID) : FavoriteOperation → Write
  | add itemId drawn => .insertFavorite ⟨drawn, userId, itemId⟩
  | remove itemId => .deleteFavorites userId itemId

/-- It is about a catalog item, and the id that is drawn is a new one. -/
def Valid (db : Database) : FavoriteOperation → Prop
  | add itemId drawn => itemId ∈ db.catalog.items.keys ∧ drawn ∉ db.favorites.keys
  | remove _ => True

/-- What it makes of the favorites of its user. -/
def onFavorites (favorites : List UUID) : FavoriteOperation → List UUID
  | add itemId _ => favorites ++ [itemId]
  | remove itemId => favorites.filter fun id => id ≠ itemId

end FavoriteOperation

/-- A request about the favorites, made by a guest or by a user. -/
def serveFavorite (identity : Option Kratos.UserIdentity) (v : Visit) (op : FavoriteOperation) :
    Except PyExc Unit × Visit :=
  visit op.method
    (do
      let user ← getCurrentUser (.ok identity)
      op.endpoint user) v

/-- An operation of some user, with any cookie. -/
def favoriteStep (db : Database) (a : Kratos.UserIdentity × FavoriteOperation) (db' : Database) :
    Prop :=
  a.2.Valid db ∧ ∃ session, db' = (serveFavorite (some a.1) ⟨session, db⟩ a.2).2.db

/-! ### What is shown -/

/-- The items that are listed for a user. -/
def userFavorites (db : Database) (userId : UUID) : List UUID :=
  (db.favorites.rows.filter fun row => row.userId = userId).map (·.catalogItemId)

/-- The last operation of a user on an item. -/
def lastOperation (userId itemId : UUID)
    (as : List (Kratos.UserIdentity × FavoriteOperation)) : Option FavoriteOperation :=
  ((as.filter fun a => a.1.id = userId && a.2.itemId = itemId).getLast?).map Prod.snd

/-- The last operation of the user on the item was an addition; without one, the item was there
at the start. -/
def Favored (userId : UUID) (start : List UUID)
    (as : List (Kratos.UserIdentity × FavoriteOperation)) (itemId : UUID) : Prop :=
  match lastOperation userId itemId as with
  | some op => op.isAdd = true
  | none => itemId ∈ start

/-- After the operations `as` the user is shown each favorite once. -/
def FavoritesShown (user : Kratos.UserIdentity) (start : List UUID)
    (as : List (Kratos.UserIdentity × FavoriteOperation)) (db : Database) : Prop :=
  ∀ session, ∃ items v, serveCart (some user) ⟨session, db⟩ .items = (.ok (some items), v) ∧
    items.favorites.Nodup ∧ ∀ itemId, itemId ∈ items.favorites ↔ Favored user.id start as itemId

/-- The user adds no item that is among their favorites. -/
def AddsNew (userId : UUID) (db : Database) (a : Kratos.UserIdentity × FavoriteOperation) :
    Prop :=
  a.1.id = userId → a.2.isAdd = true → a.2.itemId ∉ userFavorites db userId

section Favorites

variable {db db' : Database} {user : Kratos.UserIdentity} {userId : UUID}
  {a : Kratos.UserIdentity × FavoriteOperation}
  {as : List (Kratos.UserIdentity × FavoriteOperation)}

theorem serveFavorite_statement (user : Kratos.UserIdentity) (v : Visit)
    (op : FavoriteOperation) :
    ∃ session, serveFavorite (some user) v op = match (op.write user.id).apply v.db with
      | .ok db => (.ok (), ⟨session, db⟩)
      | .error e => (.error e, ⟨session, v.db⟩) := by
  have hendpoint : op.endpoint (some user) =
      (fun _ => ()) <$> Session.execute postgres (op.write user.id) := by
    cases op <;> exact (id_map _).symm
  have hrun : (do
      let user ← getCurrentUser (.ok (some user))
      op.endpoint user).run (Ctx.start v.db (prepareSession v.session)) =
        (op.endpoint (some user)).run (v.ctx (some user)) :=
    run_bind_ok (run_getCurrentUser (.ok (some user)) _)
  rw [hendpoint] at hrun
  exact visit_statement hrun (by cases op <;> exact Method.noConfusion)

/-- **What an operation does to the favorites of each user.** -/
theorem userFavorites_step (h : favoriteStep db a db') (userId : UUID) :
    userFavorites db' userId =
      if a.1.id = userId then a.2.onFavorites (userFavorites db userId)
      else userFavorites db userId := by
  obtain ⟨hvalid, session, rfl⟩ := h
  obtain ⟨other, op⟩ := a
  obtain ⟨session', hserve⟩ := serveFavorite_statement other ⟨session, db⟩ op
  rw [hserve]
  unfold userFavorites
  cases op with
  | add itemId drawn =>
    obtain ⟨hitem, hfresh⟩ := hvalid
    obtain ⟨t, hinsert, hrows⟩ := @insertInto_of_notMem _ _ _ _ db.favorites
      ⟨drawn, other.id, itemId⟩ (fun t => { db with favorites := t }) hfresh
    have happly : (FavoriteOperation.write other.id (.add itemId drawn)).apply db =
        .ok { db with favorites := t } := (if_pos hitem).trans hinsert
    simp only [happly, hrows]
    -- the new row is last, and belongs to one user
    by_cases huser : other.id = userId
    · rw [if_pos huser, List.filter_append, List.map_append]
      simp [huser, FavoriteOperation.onFavorites]
    · rw [if_neg huser, List.filter_append]
      simp [huser]
  | remove itemId =>
    show List.map _ (List.filter _ (List.filter _ _)) = _
    -- what is deleted is only seen by the user who deletes it
    rw [List.filter_comm]
    by_cases huser : other.id = userId
    · rw [if_pos huser]
      show _ = List.filter _ (List.map _ _)
      rw [List.filter_map]
      refine congrArg (List.map _) (List.filter_congr fun row hrow => ?_)
      have hrow := of_decide_eq_true (List.mem_filter.mp hrow).2
      simp [hrow, huser]
    · rw [if_neg huser, List.filter_eq_self.mpr]
      intro row hrow
      have hrow := of_decide_eq_true (List.mem_filter.mp hrow).2
      simp [hrow, Ne.symm huser]

theorem lastOperation_append (userId itemId : UUID)
    (as : List (Kratos.UserIdentity × FavoriteOperation))
    (a : Kratos.UserIdentity × FavoriteOperation) :
    lastOperation userId itemId (as ++ [a]) =
      if a.1.id = userId ∧ a.2.itemId = itemId then some a.2
      else lastOperation userId itemId as := by
  unfold lastOperation
  rw [List.filter_append]
  by_cases ha : a.1.id = userId ∧ a.2.itemId = itemId
  · have hkept : [a].filter (fun a => a.1.id = userId && a.2.itemId = itemId) = [a] :=
      List.filter_eq_self.mpr (by simpa using ha)
    rw [if_pos ha, hkept, List.getLast?_append_of_ne_nil _ (List.cons_ne_nil a [])]
    rfl
  · have hdropped : [a].filter (fun a => a.1.id = userId && a.2.itemId = itemId) = [] :=
      List.filter_eq_nil_iff.mpr (by simpa using ha)
    rw [if_neg ha, hdropped, List.append_nil]

/-- **What is shown is what was added last.** -/
theorem mem_userFavorites_run (h : Run favoriteStep db as db') (userId itemId : UUID) :
    itemId ∈ userFavorites db' userId ↔ Favored userId (userFavorites db userId) as itemId := by
  refine h.history (I := fun as db' => itemId ∈ userFavorites db' userId ↔
    Favored userId (userFavorites db userId) as itemId) .rfl ?_
  intro as db₁ a db₂ ih hstep
  rw [userFavorites_step hstep]
  unfold Favored at ih ⊢
  rw [lastOperation_append]
  obtain ⟨other, op⟩ := a
  by_cases huser : other.id = userId
  · rw [if_pos huser]
    by_cases hitem : op.itemId = itemId
    · obtain rfl := hitem
      rw [if_pos ⟨huser, rfl⟩]
      cases op <;> simp [FavoriteOperation.onFavorites, FavoriteOperation.isAdd,
        FavoriteOperation.itemId]
    -- an operation on another item
    · have hne : itemId ≠ op.itemId := fun heq => hitem heq.symm
      rw [if_neg fun h => hitem h.2, ← ih]
      cases op with
      | add other' drawn =>
        exact List.mem_append.trans (or_iff_left (List.mem_singleton.not.mpr hne))
      | remove other' => exact List.mem_filter.trans (and_iff_left (decide_eq_true hne))
  · rw [if_neg huser, if_neg fun h => huser h.1, ih]

/-- What a user is shown after a run. -/
theorem favoritesShown_iff {user : Kratos.UserIdentity} (h : Run favoriteStep db as db') :
    FavoritesShown user (userFavorites db user.id) as db' ↔ (userFavorites db' user.id).Nodup := by
  refine ⟨?_, ?_⟩
  · intro hshown
    obtain ⟨items, v, hserve, hnodup, -⟩ := hshown .empty
    obtain ⟨session, hitems⟩ := serveCart_items user ⟨.empty, db'⟩
    have hsame := congrArg Prod.fst (hitems.symm.trans hserve)
    obtain rfl := Option.some.inj (Except.ok.inj hsame)
    exact hnodup
  · intro hnodup session
    obtain ⟨session', hitems⟩ := serveCart_items user ⟨session, db'⟩
    exact ⟨_, _, hitems, hnodup, fun itemId => mem_userFavorites_run h user.id itemId⟩

/-- An operation keeps the favorites of a user distinct exactly where it adds a new one. -/
theorem nodup_step_iff (h : (userFavorites db userId).Nodup) (h_step : favoriteStep db a db') :
    (userFavorites db' userId).Nodup ↔ AddsNew userId db a := by
  obtain ⟨other, op⟩ := a
  rw [userFavorites_step h_step]
  unfold AddsNew
  by_cases huser : other.id = userId
  · rw [if_pos huser]
    cases op with
    | add itemId drawn =>
      show (userFavorites db userId ++ [itemId]).Nodup ↔ _
      rw [List.nodup_append_comm, List.singleton_append, List.nodup_cons]
      exact ⟨fun hnew _ _ => hnew.1, fun hnew => ⟨hnew huser rfl, h⟩⟩
    -- nothing is doubled by a removal
    | remove itemId => exact iff_of_true (h.filter _) fun _ hadd => by cases hadd
  · rw [if_neg huser]
    exact iff_of_true h fun hother => absurd hother huser

/-- The database after a valid operation, which the cookie has no part in. -/
def favoriteNext (db : Database) (a : Kratos.UserIdentity × FavoriteOperation) : Database :=
  (serveFavorite (some a.1) ⟨.empty, db⟩ a.2).2.db

theorem favoriteStep_iff : favoriteStep db a db' ↔ a.2.Valid db ∧ db' = favoriteNext db a := by
  refine and_congr_right fun _ => ⟨?_, fun h => ⟨.empty, h⟩⟩
  rintro ⟨session, rfl⟩
  obtain ⟨_, hserve⟩ := serveFavorite_statement a.1 ⟨session, db⟩ a.2
  obtain ⟨_, hnext⟩ := serveFavorite_statement a.1 ⟨.empty, db⟩ a.2
  unfold favoriteNext
  rw [hserve, hnext]
  cases (a.2.write a.1.id).apply db <;> rfl

theorem favoriteStep_deterministic {db₁ db₂ : Database} (h₁ : favoriteStep db a db₁)
    (h₂ : favoriteStep db a db₂) : db₁ = db₂ :=
  (favoriteStep_iff.mp h₁).2.trans (favoriteStep_iff.mp h₂).2.symm

end Favorites

/-- **When favorites are a set.** Along a run of operations of any users, from a state where the
favorites of a user are distinct, the user is shown in every state each item once that was added
last, and no other, if and only if the user adds no item that is among their favorites. -/
theorem favorites_set_iff (user : Kratos.UserIdentity) {db db' : Database}
    {as : List (Kratos.UserIdentity × FavoriteOperation)}
    (h_nodup : (userFavorites db user.id).Nodup) (h_run : Run favoriteStep db as db') :
    (∀ as₁ as₂ db₁, as = as₁ ++ as₂ → Run favoriteStep db as₁ db₁ →
        FavoritesShown user (userFavorites db user.id) as₁ db₁) ↔
      Run (guarded (AddsNew user.id) favoriteStep) db as db' := by
  refine ⟨?_, ?_⟩
  · intro hshown
    induction h_run with
    | nil => exact .nil _
    | @snoc s' s'' as a hrun hstep ih =>
      have hprefix := ih fun as₁ as₂ db₁ heq =>
        hshown as₁ (as₂ ++ [a]) db₁ (by rw [heq, List.append_assoc])
      have hbefore := (favoritesShown_iff hrun).mp (hshown as [a] s' rfl hrun)
      have hafter := (favoritesShown_iff (hrun.snoc hstep)).mp
        (hshown (as ++ [a]) [] s'' (List.append_nil _).symm (hrun.snoc hstep))
      exact hprefix.snoc ⟨(nodup_step_iff hbefore hstep).mp hafter, hstep⟩
  · rintro hguarded as₁ as₂ db₁ rfl hrun
    obtain ⟨db₂, hfirst, -⟩ := hguarded.split
    -- the state after the first operations is the one of the run
    have hweak : Run favoriteStep db as₁ db₂ := hfirst.weaken fun _ _ _ h => h.2
    obtain rfl := hrun.deterministic hweak fun _ _ _ _ => favoriteStep_deterministic
    refine (favoritesShown_iff hrun).mpr ?_
    exact hfirst.invariant h_nodup fun _ _ _ hnodup hstep =>
      (nodup_step_iff hnodup hstep.2).mpr hstep.1

/-- An item that is added, removed and added again is shown once. -/
theorem favorites_set_readded :
    ∃ db', Run favoriteStep sampleDatabase
        [(cartUser, .add 1 31), (cartUser, .remove 1), (cartUser, .add 1 32)] db' ∧
      FavoritesShown cartUser (userFavorites sampleDatabase cartUser.id)
        [(cartUser, .add 1 31), (cartUser, .remove 1), (cartUser, .add 1 32)] db' := by
  let added := favoriteNext sampleDatabase (cartUser, .add 1 31)
  let removed := favoriteNext added (cartUser, .remove 1)
  have hadd : guarded (AddsNew cartUser.id) favoriteStep sampleDatabase
      (cartUser, .add 1 31) added :=
    ⟨fun _ _ => List.not_mem_nil,
      favoriteStep_iff.mpr ⟨⟨List.mem_singleton.mpr rfl, List.not_mem_nil⟩, rfl⟩⟩
  have hremove : guarded (AddsNew cartUser.id) favoriteStep added (cartUser, .remove 1) removed :=
    ⟨fun _ hadd => (by cases hadd), favoriteStep_iff.mpr ⟨trivial, rfl⟩⟩
  -- it was removed in between, so it is new again
  have hadd' : guarded (AddsNew cartUser.id) favoriteStep removed (cartUser, .add 1 32) _ :=
    ⟨fun _ _ => List.not_mem_nil,
      favoriteStep_iff.mpr ⟨⟨List.mem_singleton.mpr rfl, List.not_mem_nil⟩, rfl⟩⟩
  have hguarded := (((Run.nil _).snoc hadd).snoc hremove).snoc hadd'
  have hrun := hguarded.weaken fun _ _ _ h => h.2
  have hnone : (userFavorites sampleDatabase cartUser.id).Nodup := List.nodup_nil
  exact ⟨_, hrun, (favorites_set_iff cartUser hnone hrun).mpr hguarded _ [] _
    (List.append_nil _).symm hrun⟩

/-- **A repeated addition is shown twice.** -/
theorem favorite_added_twice :
    ∃ db', Run favoriteStep sampleDatabase [(cartUser, .add 1 31), (cartUser, .add 1 32)] db' ∧
      (serveCart (some cartUser) ⟨.empty, db'⟩ .items).1 =
        .ok (some { cart := [], favorites := [1, 1] }) ∧
      ¬ FavoritesShown cartUser (userFavorites sampleDatabase cartUser.id)
        [(cartUser, .add 1 31), (cartUser, .add 1 32)] db' := by
  let added := favoriteNext sampleDatabase (cartUser, .add 1 31)
  have hadd : favoriteStep sampleDatabase (cartUser, .add 1 31) added :=
    favoriteStep_iff.mpr ⟨⟨List.mem_singleton.mpr rfl, List.not_mem_nil⟩, rfl⟩
  have hfresh : (32 : UUID) ∉ added.favorites.keys := by decide
  have hagain : favoriteStep added (cartUser, .add 1 32) _ :=
    favoriteStep_iff.mpr ⟨⟨List.mem_singleton.mpr rfl, hfresh⟩, rfl⟩
  have hrun := ((Run.nil _).snoc hadd).snoc hagain
  refine ⟨_, hrun, rfl, fun hshown => ?_⟩
  have hnodup : [(1 : UUID), 1].Nodup := (favoritesShown_iff hrun).mp hshown
  exact absurd hnodup (by decide)

end Storefront
