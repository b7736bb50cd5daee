import Storefront.User.Cart

/-!
# Guests and users

The cart of a guest and the cart of a user represent the same abstract cart (`CartsMatch`):
the items that were added, in the order they were added first, each with the id that was drawn
for its row. A request keeps the two carts matched (`CartsMatch.step`), except for a removal,
which works for the user only. The answers differ further where the cart is listed: the guest
is answered with the ids of the items, the user with the ids of the rows.

* `guest_cart_agrees_iff` — a sequence of requests is answered alike exactly when its removals
  are of nothing, and wherever the cart is listed the ids of the rows are those of the items;
* `guest_cart_differs` — it is not for an addition and a listing.
-/

namespace Storefront

/-- Two answers are alike: both requests fail, or both succeed and list the same ids with the
same quantities. -/
def SameAnswer : Except PyExc (Option UserItems) → Except PyExc (Option UserItems) → Prop
  | .ok a, .ok b =>
    a.elim [] (·.cart) ⊆ b.elim [] (·.cart) ∧ b.elim [] (·.cart) ⊆ a.elim [] (·.cart)
  | .error _, .error _ => True
  | _, _ => False

instance : ∀ a b, Decidable (SameAnswer a b)
  | .ok _, .ok _ => inferInstanceAs (Decidable (_ ∧ _))
  | .error _, .error _ => .isTrue trivial
  | .ok _, .error _ => .isFalse id
  | .error _, .ok _ => .isFalse id

/-- The abstract cart after a request. -/
def nextCart (cart : List (UUID × UUID)) : CartRequest → List (UUID × UUID)
  | .add id drawn => addRow cart id drawn
  | _ => cart

/-- A guest and a user with this cart are answered alike: nothing is removed, and the rows have
the ids of the items where the cart is listed. -/
def AnsweredAlike (cart : List (UUID × UUID)) : CartRequest → Prop
  | .remove ids => ids = []
  | .items => cart.map Prod.fst ⊆ cart.map Prod.snd ∧ cart.map Prod.snd ⊆ cart.map Prod.fst
  | _ => True

/-- The id that a request draws. -/
def CartRequest.drawn? : CartRequest → Option UUID
  | .add _ drawn => some drawn
  | _ => none

/-- What is added is in the catalog. -/
def CartRequest.ItemExists (catalog : Catalog) : CartRequest → Prop
  | .add id _ => id ∈ catalog.items.keys
  | _ => True

/-- The cookie of a guest and the database of a user represent the cart, while the requests are
still to come: the ids drawn for them are new, and their items exist. -/
structure CartsMatch (user : Kratos.UserIdentity) (requests : List CartRequest)
    (cart : List (UUID × UUID)) (guest visit : Visit) : Prop where
  guest_cart : GuestCart (cart.map Prod.fst) guest.session
  user_cart : UserCart user.id cart visit.db
  fresh : ∀ id ∈ requests.filterMap CartRequest.drawn?, id ∉ visit.db.carts.table.keys
  nodup : (requests.filterMap CartRequest.drawn?).Nodup
  items_exist : ∀ r ∈ requests, r.ItemExists visit.db.catalog

section Match

variable {user : Kratos.UserIdentity} {r : CartRequest} {requests : List CartRequest}
  {cart : List (UUID × UUID)} {guest visit : Visit}

theorem fst_addRow (cart : List (UUID × UUID)) (id drawn : UUID) :
    (addRow cart id drawn).map Prod.fst = addItem (cart.map Prod.fst) id := by
  unfold addRow addItem
  by_cases hmem : id ∈ cart.map Prod.fst
  · rw [if_pos hmem, if_pos hmem]
  · rw [if_neg hmem, if_neg hmem, List.map_append]
    rfl

/-- The listed carts, with one of each. -/
theorem map_cartItem_subset {l l' : List UUID} :
    l.map (fun id => (⟨id, 1⟩ : CartItem)) ⊆ l'.map (fun id => ⟨id, 1⟩) ↔ l ⊆ l' := by
  have hinj : Function.Injective fun id : UUID => (⟨id, 1⟩ : CartItem) :=
    fun _ _ h => congrArg CartItem.id h
  refine ⟨fun h id hid => ?_, fun h => List.map_subset _ h⟩
  exact (List.mem_map_of_injective hinj).mp (h (List.mem_map_of_mem hid))

/-- **When one request is answered alike.** -/
theorem CartsMatch.sameAnswer_iff (h : CartsMatch user (r :: requests) cart guest visit) :
    SameAnswer (serveCart none guest r).1 (serveCart (some user) visit r).1 ↔
      AnsweredAlike cart r := by
  cases r with
  | items =>
    obtain ⟨favorites, session, huser⟩ := serveCart_user_items h.user_cart
    -- a guest is shown item ids, a user row ids: both as sets
    have hrows : cart.map (fun p => (⟨p.2, 1⟩ : CartItem)) =
        (cart.map Prod.snd).map fun id => ⟨id, 1⟩ := by
      rw [List.map_map]
      rfl
    rw [serveCart_guest_items h.guest_cart, huser]
    show (_ ⊆ cart.map _ ∧ cart.map _ ⊆ _) ↔ _
    rw [hrows]
    exact and_congr map_cartItem_subset map_cartItem_subset
  | add id drawn =>
    obtain ⟨session, hguest, -⟩ := serveCart_guest_add h.guest_cart id drawn
    obtain ⟨visit', huser, -⟩ := serveCart_user_add h.user_cart
      (h.items_exist _ List.mem_cons_self) (h.fresh drawn List.mem_cons_self)
    rw [hguest, huser]
    exact iff_of_true ⟨List.Subset.refl _, List.Subset.refl _⟩ trivial
  -- both raise, though not the same
  | change id isIncrementAction =>
    obtain ⟨e, hguest⟩ := serveCart_guest_change h.guest_cart id isIncrementAction
    obtain ⟨e', visit', huser, -⟩ := serveCart_user_change user visit id isIncrementAction
    rw [hguest, huser]
    exact iff_of_true trivial trivial
  -- a guest is refused, unless nothing is asked
  | remove ids =>
    obtain ⟨visit', huser, -⟩ := serveCart_user_remove user visit ids
    rw [serveCart_guest_remove h.guest_cart, huser]
    show SameAnswer (if ids = [] then .ok none else .error .keyError) (.ok none) ↔ ids = []
    by_cases hids : ids = []
    · rw [if_pos hids]
      exact iff_of_true ⟨List.Subset.refl _, List.Subset.refl _⟩ hids
    · rw [if_neg hids]
      exact iff_of_false id hids

/-- **A request that is answered alike keeps the carts matched.** -/
theorem CartsMatch.step (h : CartsMatch user (r :: requests) cart guest visit)
    (h_alike : AnsweredAlike cart r) :
    CartsMatch user requests (nextCart cart r) (serveCart none guest r).2
      (serveCart (some user) visit r).2 := by
  have hexist : ∀ r' ∈ requests, r'.ItemExists visit.db.catalog :=
    fun r' hr' => h.items_exist r' (List.mem_cons_of_mem _ hr')
  cases r with
  | items =>
    obtain ⟨favorites, session, huser⟩ := serveCart_user_items h.user_cart
    rw [serveCart_guest_items h.guest_cart, huser]
    exact ⟨h.guest_cart.prepared, h.user_cart, h.fresh, h.nodup, hexist⟩
  | add id drawn =>
    obtain ⟨hdrawn, hnodup⟩ :=
      List.nodup_cons.mp (show (drawn :: requests.filterMap _).Nodup from h.nodup)
    obtain ⟨session, hguest, hcart⟩ := serveCart_guest_add h.guest_cart id drawn
    obtain ⟨visit', huser, hcatalog, hrows, hkeys⟩ := serveCart_user_add h.user_cart
      (h.items_exist _ List.mem_cons_self) (h.fresh drawn List.mem_cons_self)
    rw [hguest, huser]
    refine ⟨?_, hrows, fun drawn' hdrawn' hmem => ?_, hnodup, hcatalog ▸ hexist⟩
    · show GuestCart ((addRow cart id drawn).map Prod.fst) session
      exact fst_addRow cart id drawn ▸ hcart
    -- the new row has the id that was drawn, and the later ones are others
    · rcases List.mem_append.mp (hkeys hmem) with hold | hnew
      · exact h.fresh drawn' (List.mem_cons_of_mem _ hdrawn') hold
      · exact hdrawn (List.mem_singleton.mp hnew ▸ hdrawn')
  | change id isIncrementAction =>
    obtain ⟨e, hguest⟩ := serveCart_guest_change h.guest_cart id isIncrementAction
    obtain ⟨e', visit', huser, hdb⟩ := serveCart_user_change user visit id isIncrementAction
    rw [hguest, huser]
    exact ⟨h.guest_cart.prepared, hdb.symm ▸ h.user_cart, hdb.symm ▸ h.fresh, h.nodup,
      hdb.symm ▸ hexist⟩
  | remove ids =>
    -- only the empty removal is answered alike, and it removes nothing
    obtain rfl : ids = [] := h_alike
    obtain ⟨visit', huser, hdb⟩ := serveCart_user_remove user visit []
    have htable : visit'.db.carts.table = visit.db.carts.table := by
      rw [hdb]
      exact deleteItems_nil visit.db.carts user.id
    have hcatalog : visit'.db.catalog = visit.db.catalog := by rw [hdb]
    have hrows : UserCart user.id cart visit'.db := by
      unfold UserCart
      rw [htable]
      exact h.user_cart
    rw [serveCart_guest_remove h.guest_cart, huser]
    exact ⟨h.guest_cart.prepared, hrows, htable.symm ▸ h.fresh, h.nodup, hcatalog.symm ▸ hexist⟩

/-- **When a guest is answered like a user.** From empty carts, a sequence of requests about
existing items is answered alike exactly when nothing is removed, and wherever the cart is
listed the ids drawn for the rows are the ids of the items. -/
theorem guest_cart_agrees_iff (user : Kratos.UserIdentity)
    (h_guest : GuestCart [] guest.session) (h_user : UserCart user.id [] visit.db)
    (h_items : ∀ r ∈ requests, r.ItemExists visit.db.catalog)
    (h_fresh : ∀ id ∈ requests.filterMap CartRequest.drawn?, id ∉ visit.db.carts.table.keys)
    (h_nodup : (requests.filterMap CartRequest.drawn?).Nodup) :
    List.Forall₂ SameAnswer (responses (serveCart none) guest requests)
        (responses (serveCart (some user)) visit requests) ↔
      ∀ before r after, requests = before ++ r :: after →
        AnsweredAlike (before.foldl nextCart []) r := by
  have hmatch : CartsMatch user requests [] guest visit :=
    ⟨h_guest, h_user, h_fresh, h_nodup, h_items⟩
  rw [← along_iff]
  exact forall₂_responses_iff CartsMatch.sameAnswer_iff CartsMatch.step hmatch

end Match

/-! ### Two sequences of requests -/

/-- A verified customer. -/
def sampleIdentity : Kratos.UserIdentity where
  toUserIdentity := sampleUser
  schemaId := "customer"
  state := "active"
  verified := true

/-- A client without a cookie. -/
def sampleVisit : Visit := ⟨.empty, sampleDatabase⟩

theorem guestCart_sampleVisit : GuestCart [] sampleVisit.session := ⟨.empty, rfl, rfl⟩

theorem userCart_sampleVisit : UserCart sampleIdentity.id [] sampleVisit.db := rfl

/-- Guests and users are answered alike where the cart is listed before anything is added. -/
theorem guest_cart_agrees_sample :
    List.Forall₂ SameAnswer
      (responses (serveCart none) sampleVisit [.items, .remove [], .add 1 21, .change 1 true])
      (responses (serveCart (some sampleIdentity)) sampleVisit
        [.items, .remove [], .add 1 21, .change 1 true]) := by
  refine (guest_cart_agrees_iff sampleIdentity guestCart_sampleVisit userCart_sampleVisit
    ?_ ?_ ?_).mpr ?_
  · intro r hr
    simp only [List.mem_cons, List.not_mem_nil, or_false] at hr
    rcases hr with rfl | rfl | rfl | rfl <;> first | trivial | exact List.mem_singleton.mpr rfl
  · exact fun id _ => List.not_mem_nil
  · exact List.nodup_singleton _
  · exact along_iff.mp ⟨⟨List.Subset.refl _, List.Subset.refl _⟩, rfl, trivial, trivial, trivial⟩

/-- After item 1 is added, the guest is answered with item 1, and the user with the row. -/
theorem guest_cart_differs :
    GuestCart [] sampleVisit.session ∧ UserCart sampleIdentity.id [] sampleVisit.db ∧
      (1 : UUID) ∈ sampleVisit.db.catalog.items.keys ∧
      ¬ List.Forall₂ SameAnswer (responses (serveCart none) sampleVisit [.add 1 21, .items])
        (responses (serveCart (some sampleIdentity)) sampleVisit [.add 1 21, .items]) := by
  refine ⟨guestCart_sampleVisit, userCart_sampleVisit, List.mem_singleton.mpr rfl, ?_⟩
  rintro (_ | ⟨-, _ | ⟨h, -⟩⟩)
  exact absurd h (by decide +kernel)

end Storefront
