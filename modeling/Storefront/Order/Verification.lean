import Storefront.Order.CartCorrection

/-!
# The check of a checkout

`CatalogService.verify_checkout_data` (`services/catalog/service.py`) as a whole. The loop over
the requested lines is a traversal that gives a verdict on each (`foldlM_verifyItem_eq`); what
comes before it compares the number of rows of one query with the number of ids.

* `verifyCheckoutData_partitions` — a check that returns has sorted the requested lines into
  available and adjusted ones, each exactly once and in order;
* `correction_accepted` — the request with the adjusted quantities is accepted as a whole;
* `failsAsDeclared_iff` — the check raises its two errors, each exactly where it should, and
  nothing else, if and only if the ids are unknown, or there is a line and the credit plans of
  the items pass the models they go through;
* `empty_request_raises` — the empty request raises a `RuntimeError`.
-/

namespace Storefront

variable {σ : Type}

/-! ### The loop -/

/-- The verdict on one line: an item that is available, or an adjusted one. -/
abbrev Verdict : Type := AvailableCheckoutItem ⊕ ShortCheckoutItem

/-- What the loop makes of one line. -/
def verdict (P : Pydantic) (data : Dict UUID CatalogItemCheckoutDataDTO)
    (line : CatalogItemQuantity) : Except PyExc Verdict := do
  let dbItem ← attributeOf (data.get? line.id)
  match adjustment data line with
  | some s => return .inr s
  | none =>
    let parts ← creditPaymentParts P dbItem.creditParts
    return .inl ⟨⟨line.id, line.quantity⟩, dbItem.preorderId, dbItem.price, dbItem.title, parts⟩

/-- The result of the loop, from its verdicts. -/
def CheckoutData.extend (result : CheckoutData) (verdicts : List Verdict) : CheckoutData where
  availableItems := result.availableItems ++ verdicts.filterMap Sum.getLeft?
  adjustedItems := result.adjustedItems ++ verdicts.filterMap Sum.getRight?

section Loop

variable {P : Pydantic} {data : Dict UUID CatalogItemCheckoutDataDTO}

theorem verifyItem_eq_verdict (result : CheckoutData) (line : CatalogItemQuantity) :
    verifyItem P data result line = (verdict P data line).map fun v => result.extend [v] := by
  unfold verifyItem verdict adjustment addAvailableItem CheckoutData.extend
  cases data.get? line.id with
  | none => rfl
  | some dbItem =>
    simp only [attributeOf, bind, Except.bind, pure, Except.pure, Option.bind_some]
    -- unlimited items and items in stock are made available alike
    cases dbItem.available with
    | none =>
      cases creditPaymentParts P dbItem.creditParts with
      | error e => rfl
      | ok parts => simp [Except.map]
    | some a =>
      simp only [Option.bind_some]
      by_cases hlt : line.quantity > a
      · simp [Except.map, hlt]
      · cases creditPaymentParts P dbItem.creditParts with
        | error e => simp [Except.map, hlt]
        | ok parts => simp [Except.map, hlt]

/-- **The loop gives a verdict on every line**, and sorts them. -/
theorem foldlM_verifyItem_eq (lines : List CatalogItemQuantity) (result : CheckoutData) :
    lines.foldlM (verifyItem P data) result =
      (lines.mapM (verdict P data)).map result.extend := by
  induction lines generalizing result with
  | nil =>
    show Except.ok result = .ok (result.extend [])
    unfold CheckoutData.extend
    simp
  | cons line lines ih =>
    rw [List.foldlM_cons, List.mapM_cons, verifyItem_eq_verdict]
    cases verdict P data line with
    | error e => rfl
    | ok v =>
      show lines.foldlM (verifyItem P data) (result.extend [v]) = _
      -- the verdict that comes first is extended by the later ones
      rw [ih]
      show _ = Except.map result.extend ((lines.mapM (verdict P data)).map fun vs => v :: vs)
      cases lines.mapM (verdict P data) with
      | error e => rfl
      | ok vs =>
        refine congrArg Except.ok ?_
        unfold CheckoutData.extend
        rw [List.append_assoc, List.append_assoc, ← List.filterMap_append,
          ← List.filterMap_append, List.singleton_append]

/-- A verdict of either kind. -/
theorem verdict_eq_ok {line : CatalogItemQuantity} {v : Verdict}
    (h : verdict P data line = .ok v) :
    ∃ dbItem, data.get? line.id = some dbItem ∧
      ((∃ s, adjustment data line = some s ∧ v = .inr s) ∨
        ∃ parts, adjustment data line = none ∧
          creditPaymentParts P dbItem.creditParts = .ok parts ∧
          v = .inl ⟨⟨line.id, line.quantity⟩, dbItem.preorderId, dbItem.price, dbItem.title,
            parts⟩) := by
  unfold verdict at h
  obtain ⟨dbItem, hget, h₁⟩ := except_bind_eq_ok.mp h
  refine ⟨dbItem, attributeOf_eq_ok.mp hget, ?_⟩
  cases hadjust : adjustment data line with
  | some s =>
    rw [hadjust] at h₁
    cases h₁
    exact .inl ⟨s, rfl, rfl⟩
  | none =>
    rw [hadjust] at h₁
    obtain ⟨parts, hparts, h₂⟩ := except_bind_eq_ok.mp h₁
    cases h₂
    exact .inr ⟨parts, rfl, hparts, rfl⟩

/-- **When there is a verdict** on a line whose item is there. -/
theorem exists_verdict {line : CatalogItemQuantity} {dbItem : CatalogItemCheckoutDataDTO}
    (h : data.get? line.id = some dbItem) :
    (∃ v, verdict P data line = .ok v) ↔
      (adjustment data line = none →
        ∃ parts, creditPaymentParts P dbItem.creditParts = .ok parts) := by
  unfold verdict
  rw [h]
  cases adjustment data line with
  | some s => exact iff_of_true ⟨.inr s, rfl⟩ nofun
  | none =>
    show (∃ v, (creditPaymentParts P dbItem.creditParts >>= _) = _) ↔ _
    simp only [except_bind_eq_ok, forall_const]
    refine ⟨?_, ?_⟩
    · rintro ⟨v, parts, hparts, -⟩
      exact ⟨parts, hparts⟩
    · rintro ⟨parts, hparts⟩
      exact ⟨_, parts, hparts, rfl⟩

end Loop

/-! ### What comes before the loop -/

/-- The requested ids are pairwise distinct, and each is that of an active item. -/
structure KnownItems (db : Database) (ids : List UUID) : Prop where
  distinct : ids.Nodup
  active : ∀ id ∈ ids, ∃ item ∈ db.catalog.items.rows, item.id = id ∧ item.isActive = true

/-- Two requested items have different preorders. -/
def Mixed (db : Database) (ids : List UUID) : Prop :=
  ∃ item ∈ selectActiveItems ids db, ∃ item' ∈ selectActiveItems ids db,
    db.catalog.preorderId item ≠ db.catalog.preorderId item'

/-- What the check makes of the data of the items. -/
def checkLines (P : Pydantic) (lines : List CatalogItemQuantity)
    (data : Dict UUID CatalogItemCheckoutDataDTO) : Except PyExc CheckoutData := do
  let firstItem ← firstValue data.values
  if data.values.all (·.preorderId = firstItem.preorderId) then
    lines.foldlM (verifyItem P data) ⟨[], []⟩
  else throw .incorrectItemsSectionsError

section Before

variable {P : Pydantic} {db : Database} {env : σ} {lines : List CatalogItemQuantity}

theorem mem_selectActiveItems {ids : List UUID} {item : CatalogItemORM} :
    item ∈ selectActiveItems ids db ↔
      item ∈ db.catalog.items.rows ∧ item.isActive = true ∧ item.id ∈ ids := by
  unfold selectActiveItems
  rw [List.mem_filter, Bool.and_eq_true, decide_eq_true_iff]

theorem length_selectActiveItems_iff_known {ids : List UUID} :
    (selectActiveItems ids db).length = ids.length ↔ KnownItems db ids :=
  length_selectActiveItems_iff.trans ⟨fun h => ⟨h.1, h.2⟩, fun h => ⟨h.distinct, h.active⟩⟩

theorem checkLines_of_firstValue {data : Dict UUID CatalogItemCheckoutDataDTO}
    {first : CatalogItemCheckoutDataDTO} (h : firstValue data.values = .ok first) :
    checkLines P lines data =
      if data.values.all (·.preorderId = first.preorderId) then
        lines.foldlM (verifyItem P data) ⟨[], []⟩
      else .error .incorrectItemsSectionsError := by
  unfold checkLines
  rw [h]
  rfl

/-- The check of lines whose items have data. -/
theorem run_verifyCheckoutData_of_data {c : Ctx Database Write σ}
    {data : Dict UUID CatalogItemCheckoutDataDTO}
    (h : (getCatalogItemsCheckoutData P (lines.map (·.id))).run c = .ok data c) :
    (verifyCheckoutData P lines).run c =
      (liftExcept (checkLines P lines data) : App σ CheckoutData).run c := by
  unfold verifyCheckoutData
  rw [run_bind_ok h]
  cases hfirst : firstValue data.values with
  | error e =>
    unfold checkLines
    rw [hfirst]
    rfl
  | ok first =>
    rw [run_bind_ok (liftExcept_eq_ok.mpr ⟨rfl, rfl⟩), checkLines_of_firstValue hfirst]
    by_cases hall : data.values.all (·.preorderId = first.preorderId) = true
    · rw [run_bind_ok (run_raiseIf_of_not (not_not.mpr hall) _ _), if_pos hall]
    · rw [run_bind_error (run_raiseIf_of_pos hall _ _), if_neg hall]
      rfl

/-- The data of the requested items: what the query found under each id, and nothing else. -/
structure DataOf (P : Pydantic) (db : Database) (ids : List UUID)
    (data : Dict UUID CatalogItemCheckoutDataDTO) : Prop where
  found : ∀ id ∈ ids, ∃ item ∈ db.catalog.items.rows, item.id = id ∧ item.isActive = true ∧
    ∃ parts, creditParts P (db.catalog.creditPlan item) = .ok parts ∧
      data.get? id = some (db.catalog.checkoutDataOf item parts)
  values : ∀ d ∈ data.values, ∃ id ∈ ids, data.get? id = some d

/-- **Up to the loop.** Unknown ids raise; known ones have data, if their credit plans pass. -/
theorem getCatalogItemsCheckoutData_cases (P : Pydantic) (db : Database) (env : σ)
    (ids : List UUID) :
    (¬ KnownItems db ids ∧ (getCatalogItemsCheckoutData P ids).run (Ctx.start db env) =
      .error .catalogItemNotFoundError (Ctx.start db env)) ∨
    (KnownItems db ids ∧ ∃ data, (getCatalogItemsCheckoutData P ids).run (Ctx.start db env) =
      .ok data (Ctx.start db env) ∧ DataOf P db ids data) ∨
    (KnownItems db ids ∧ ∃ e, (getCatalogItemsCheckoutData P ids).run (Ctx.start db env) =
      .error e (Ctx.start db env) ∧ ∃ item ∈ selectActiveItems ids db,
        creditParts P (db.catalog.creditPlan item) = .error e) := by
  have hrun := @run_getCatalogItemsCheckoutData σ P ids _ (Ctx.clean_start db env)
  rw [show (Ctx.start db env : Ctx Database Write σ).session.view = db from rfl] at hrun
  -- the count of the selected rows tells whether every id is known
  by_cases hknown : KnownItems db ids
  · rw [if_neg (not_not.mpr (length_selectActiveItems_iff_known.mpr hknown))] at hrun
    right
    cases hdtos : ((selectActiveItems ids db).map db.catalog.load).mapM
        (catalogItemCheckoutData P) with
    | ok dtos =>
      rw [hdtos] at hrun
      have hget := getCatalogItemsCheckoutData_get? (Ctx.clean_start db env) hrun
      exact .inl ⟨hknown, _, hrun, hget.1, hget.2⟩
    | error e =>
      rw [hdtos] at hrun
      -- the plan of one of the items did not pass
      obtain ⟨loaded, hloaded, herror⟩ := mapM_eq_error hdtos
      obtain ⟨item, hitem, rfl⟩ := List.mem_map.mp hloaded
      rw [catalogItemCheckoutData_load P (mem_selectActiveItems.mp hitem).1] at herror
      refine .inr ⟨hknown, e, hrun, item, hitem, ?_⟩
      cases hparts : creditParts P (db.catalog.creditPlan item) with
      | error e' =>
        rw [hparts] at herror
        cases herror
        rfl
      | ok parts =>
        rw [hparts] at herror
        cases herror
  · refine .inl ⟨hknown, ?_⟩
    rwa [if_pos fun hlen => hknown (length_selectActiveItems_iff_known.mp hlen)] at hrun

/-- The data has the preorders of the requested items. -/
theorem DataOf.preorderId {ids : List UUID} {data : Dict UUID CatalogItemCheckoutDataDTO}
    (h : DataOf P db ids data) {p : Option UUID} :
    (∃ d ∈ data.values, d.preorderId = p) ↔
      ∃ item ∈ selectActiveItems ids db, db.catalog.preorderId item = p := by
  refine ⟨?_, ?_⟩
  · rintro ⟨d, hd, hp⟩
    obtain ⟨id, hid, hget⟩ := h.values d hd
    obtain ⟨item, hitem, rfl, hactive, parts, -, hget'⟩ := h.found id hid
    obtain rfl : _ = d := Option.some.inj (hget'.symm.trans hget)
    exact ⟨item, mem_selectActiveItems.mpr ⟨hitem, hactive, hid⟩, hp⟩
  · rintro ⟨item, hitem, hp⟩
    obtain ⟨hrow, -, hid⟩ := mem_selectActiveItems.mp hitem
    obtain ⟨item', hitem', hid', -, parts, -, hget⟩ := h.found item.id hid
    obtain rfl : item' = item := Table.eq_of_mem hitem' hrow hid'
    exact ⟨_, mem_values_of_get? hget, hp⟩

/-- The items have one preorder exactly when their data agrees with that of the first. -/
theorem DataOf.all_iff {ids : List UUID} {data : Dict UUID CatalogItemCheckoutDataDTO}
    (h : DataOf P db ids data) {first : CatalogItemCheckoutDataDTO}
    (h_first : firstValue data.values = .ok first) :
    data.values.all (·.preorderId = first.preorderId) = true ↔ ¬ Mixed db ids := by
  rw [List.all_eq_true]
  simp only [decide_eq_true_iff]
  obtain ⟨item₀, hitem₀, hp₀⟩ := h.preorderId.mp ⟨first, firstValue_eq_ok h_first, rfl⟩
  refine ⟨?_, ?_⟩
  · -- two preorders would both be that of the first entry
    rintro hall ⟨item, hitem, item', hitem', hne⟩
    obtain ⟨d, hd, hp⟩ := h.preorderId.mpr ⟨item, hitem, rfl⟩
    obtain ⟨d', hd', hp'⟩ := h.preorderId.mpr ⟨item', hitem', rfl⟩
    apply hne
    calc db.catalog.preorderId item
        = d.preorderId := hp.symm
      _ = first.preorderId := hall d hd
      _ = d'.preorderId := (hall d' hd').symm
      _ = db.catalog.preorderId item' := hp'
  · -- an entry with another preorder would be mixed with the first
    intro hmixed d hd
    obtain ⟨item, hitem, hp⟩ := h.preorderId.mp ⟨d, hd, rfl⟩
    by_contra hne
    exact hmixed ⟨item, hitem, item₀, hitem₀, fun heq => hne (hp.symm.trans (heq.trans hp₀))⟩

/-- **Inversion of the check.** -/
theorem checkLines_eq_ok {data : Dict UUID CatalogItemCheckoutDataDTO} {result : CheckoutData} :
    checkLines P lines data = .ok result ↔
      ∃ first, firstValue data.values = .ok first ∧
        data.values.all (·.preorderId = first.preorderId) = true ∧
        ∃ verdicts, lines.mapM (verdict P data) = .ok verdicts ∧
          result = CheckoutData.extend ⟨[], []⟩ verdicts := by
  -- a result is the verdicts, sorted into the two lists
  have hmap : ∀ x : Except PyExc (List Verdict),
      x.map (CheckoutData.extend ⟨[], []⟩) = .ok result ↔
        ∃ verdicts, x = .ok verdicts ∧ result = CheckoutData.extend ⟨[], []⟩ verdicts := by
    intro x
    cases x with
    | error e => exact ⟨nofun, nofun⟩
    | ok verdicts => simp [Except.map, eq_comm]
  rw [← hmap, ← foldlM_verifyItem_eq]
  -- the first entry sets the preorder for all
  cases hfirst : firstValue data.values with
  | error e =>
    unfold checkLines
    rw [hfirst]
    exact ⟨nofun, nofun⟩
  | ok first =>
    rw [checkLines_of_firstValue hfirst]
    by_cases hall : data.values.all (·.preorderId = first.preorderId) = true
    · rw [if_pos hall]
      exact ⟨fun h => ⟨first, rfl, hall, h⟩, fun ⟨_, _, _, h⟩ => h⟩
    · rw [if_neg hall]
      refine ⟨nofun, ?_⟩
      rintro ⟨first', hfirst', hall', -⟩
      cases hfirst'
      exact absurd hall' hall

end Before

/-! ### A check that returns -/

/-- `part` is what a customer is shown of a stored part. -/
structure CarriesPart (P : Pydantic) (stored : CreditPartORM) (part : CreditPaymentPart) :
    Prop where
  sum : part.sum = stored.sum
  deadline : ∃ date, P.date stored.deadline = .ok date ∧ P.str date = .ok part.deadline

/-- The credit parts of an available item are those of the stored plan, if there is one. -/
def CarriesPlan (P : Pydantic) :
    Option CreditPlanORM → Option (List CreditPaymentPart) → Prop :=
  Option.Rel fun plan parts => List.Forall₂ (CarriesPart P) plan.parts parts

/-- `CatalogItemCheckoutDataDTO.available` of a stored item. -/
def Catalog.available (catalog : Catalog) (item : CatalogItemORM) : Option Int :=
  (catalog.checkoutDataOf item none).available

/-- An available line carries the data of the stored item. -/
structure IsAvailable (P : Pydantic) (catalog : Catalog) (item : CatalogItemORM)
    (a : AvailableCheckoutItem) : Prop where
  id : a.id = item.id
  preorder : a.preorderId = catalog.preorderId item
  price : a.price = item.price
  title : ∃ product, catalog.product item = some product ∧ a.title = product.title
  credit : CarriesPlan P (catalog.creditPlan item) a.creditParts
  stock : ∀ n, catalog.available item = some n → a.quantity ≤ n

/-- The requested lines, sorted into available and adjusted ones. -/
structure Partitioned (P : Pydantic) (db : Database) (lines : List CatalogItemQuantity)
    (result : CheckoutData) : Prop where
  known : KnownItems db (lines.map (·.id))
  one_preorder : ¬ Mixed db (lines.map (·.id))
  once : (result.availableItems.map (·.id) ++ result.adjustedItems.map (·.id)).Perm
    (lines.map (·.id))
  available_order : (result.availableItems.map AvailableCheckoutItem.line).Sublist lines
  adjusted_order : (result.adjustedItems.map (·.id)).Sublist (lines.map (·.id))
  available : ∀ a ∈ result.availableItems, ∃ item ∈ db.catalog.items.rows,
    IsAvailable P db.catalog item a
  adjusted : ∀ s ∈ result.adjustedItems, ∃ line ∈ lines, s.id = line.id ∧
    ∃ item ∈ db.catalog.items.rows, item.id = line.id ∧
      ∃ n, db.catalog.available item = some n ∧ s.quantity = min n MAX_CART_ITEM_QUANTITY ∧
        s.quantity < line.quantity

section Returns

variable {P : Pydantic} {db : Database} {env : σ} {lines : List CatalogItemQuantity}

/-- The parts that passed both models, one by one. -/
theorem forall₂_carriesPart {stored : List CreditPartORM} {parts : List CreditPart}
    {parts' : List CreditPaymentPart} (h : stored.mapM (creditPart P) = .ok parts)
    (h' : parts.mapM (creditPaymentPart P) = .ok parts') :
    List.Forall₂ (CarriesPart P) stored parts' := by
  induction stored generalizing parts parts' with
  | nil =>
    cases h
    cases h'
    exact .nil
  | cons part stored ih =>
    obtain ⟨d, ds, hpart, hrest, rfl⟩ := mapM_cons_eq_ok.mp h
    obtain ⟨d', ds', hpart', hrest', rfl⟩ := mapM_cons_eq_ok.mp h'
    obtain ⟨date, hdate, hd⟩ := except_bind_eq_ok.mp hpart
    cases hd
    obtain ⟨text, htext, hd'⟩ := except_bind_eq_ok.mp hpart'
    cases hd'
    exact .cons ⟨rfl, date, hdate, htext⟩ (ih hrest hrest')

theorem carriesPlan_of_parts {plan : Option CreditPlanORM} {parts : Option (List CreditPart)}
    {parts' : Option (List CreditPaymentPart)} (h : creditParts P plan = .ok parts)
    (h' : creditPaymentParts P parts = .ok parts') : CarriesPlan P plan parts' := by
  cases plan with
  | none =>
    cases h
    cases h'
    exact .none
  | some plan =>
    obtain ⟨ps, hps, heq⟩ := except_bind_eq_ok.mp h
    cases heq
    obtain ⟨ps', hps', heq'⟩ := except_bind_eq_ok.mp h'
    cases heq'
    exact .some (forall₂_carriesPart hps hps')

/-- A line that is not adjusted asks for no more than there is. -/
theorem adjustment_eq_none {data : Dict UUID CatalogItemCheckoutDataDTO}
    {line : CatalogItemQuantity} {d : CatalogItemCheckoutDataDTO}
    (h : data.get? line.id = some d) :
    adjustment data line = none ↔ ∀ n, d.available = some n → line.quantity ≤ n := by
  unfold adjustment
  rw [h, Option.bind_some]
  cases d.available with
  | none => exact iff_of_true rfl nofun
  | some n =>
    rw [Option.bind_some]
    by_cases hlt : line.quantity > n
    · rw [if_pos hlt]
      exact iff_of_false nofun fun hle => absurd (hle n rfl) (not_le.mpr hlt)
    · rw [if_neg hlt]
      refine iff_of_true rfl ?_
      intro n' hn
      cases hn
      exact not_lt.mp hlt

theorem adjustment_eq_some {data : Dict UUID CatalogItemCheckoutDataDTO}
    {line : CatalogItemQuantity} {d : CatalogItemCheckoutDataDTO}
    (h : data.get? line.id = some d) {s : ShortCheckoutItem} :
    adjustment data line = some s ↔ ∃ n, d.available = some n ∧ n < line.quantity ∧
      s = ⟨line.id, min n MAX_CART_ITEM_QUANTITY⟩ := by
  unfold adjustment
  rw [h, Option.bind_some, Option.bind_eq_some_iff]
  refine exists_congr fun n => and_congr_right fun _ => ?_
  by_cases hlt : line.quantity > n
  · rw [if_pos hlt]
    simp [hlt, eq_comm]
  · rw [if_neg hlt]
    exact iff_of_false nofun fun h => hlt h.1

/-- A verdict that a line is available carries the data of its item. -/
theorem isAvailable_of_verdict {data : Dict UUID CatalogItemCheckoutDataDTO} {ids : List UUID}
    (h_data : DataOf P db ids data) {line : CatalogItemQuantity} (h_line : line.id ∈ ids)
    {a : AvailableCheckoutItem} (h : verdict P data line = .ok (.inl a)) :
    a.line = line ∧ ∃ item ∈ db.catalog.items.rows, IsAvailable P db.catalog item a := by
  obtain ⟨item, hitem, hid, -, parts, hparts, hget⟩ := h_data.found line.id h_line
  obtain ⟨product, hproduct⟩ := Catalog.exists_product hitem
  obtain ⟨d, hget', ⟨s, -, hv⟩ | ⟨parts', hadjust, hparts', hv⟩⟩ := verdict_eq_ok h
  · cases hv
  · obtain rfl : _ = d := Option.some.inj (hget.symm.trans hget')
    cases hv
    refine ⟨rfl, item, hitem, ?_⟩
    exact {
      id := hid.symm
      preorder := rfl
      price := rfl
      title := ⟨product, hproduct, by
        show ((db.catalog.product item).map (·.title)).getD "" = _
        rw [hproduct]
        rfl⟩
      credit := carriesPlan_of_parts hparts hparts'
      stock := (adjustment_eq_none hget).mp hadjust }

/-- An adjusted line is above the stock of its item. -/
theorem isAdjusted_of_verdict {data : Dict UUID CatalogItemCheckoutDataDTO} {ids : List UUID}
    (h_data : DataOf P db ids data) {line : CatalogItemQuantity} (h_line : line.id ∈ ids)
    {s : ShortCheckoutItem} (h : verdict P data line = .ok (.inr s)) :
    s.id = line.id ∧ ∃ item ∈ db.catalog.items.rows, item.id = line.id ∧
      ∃ n, db.catalog.available item = some n ∧ s.quantity = min n MAX_CART_ITEM_QUANTITY ∧
        s.quantity < line.quantity := by
  obtain ⟨item, hitem, hid, -, parts, -, hget⟩ := h_data.found line.id h_line
  obtain ⟨d, hget', ⟨s', hadjust, hv⟩ | ⟨parts', -, -, hv⟩⟩ := verdict_eq_ok h
  · obtain rfl : _ = d := Option.some.inj (hget.symm.trans hget')
    cases hv
    obtain ⟨n, hn, hlt, rfl⟩ := (adjustment_eq_some hget).mp hadjust
    exact ⟨rfl, item, hitem, hid, n, hn, rfl, lt_of_le_of_lt (min_le_left _ _) hlt⟩
  · cases hv

/-- A verdict names its line. -/
theorem id_of_verdict {data : Dict UUID CatalogItemCheckoutDataDTO} {line : CatalogItemQuantity}
    {v : Verdict} (h : verdict P data line = .ok v) : v.elim (·.id) (·.id) = line.id := by
  obtain ⟨d, hget, ⟨s, hadjust, rfl⟩ | ⟨parts, -, -, rfl⟩⟩ := verdict_eq_ok h
  · obtain ⟨n, -, -, rfl⟩ := (adjustment_eq_some hget).mp hadjust
    rfl
  · rfl

/-- **What a check that returns says.** -/
theorem partitioned_of_run {result : CheckoutData} {c : Ctx Database Write σ}
    (h : (verifyCheckoutData P lines).run (Ctx.start db env) = .ok result c) :
    Partitioned P db lines result ∧ lines ≠ [] := by
  rcases getCatalogItemsCheckoutData_cases P db env (lines.map (·.id)) with
    ⟨-, herror⟩ | ⟨hknown, data, hok, hdata⟩ | ⟨-, e, herror, -⟩
  · unfold verifyCheckoutData at h
    rw [run_bind_error herror] at h
    cases h
  · rw [run_verifyCheckoutData_of_data hok] at h
    obtain ⟨first, hfirst, hall, verdicts, hverdicts, rfl⟩ :=
      checkLines_eq_ok.mp (liftExcept_eq_ok.mp h).1
    -- the verdicts name the lines, in their order
    have hids : verdicts.map (Sum.elim (·.id) (·.id)) = lines.map (·.id) :=
      map_of_mapM_ok (fun _ _ hv => id_of_verdict hv) hverdicts
    have hresult := verifyCheckoutData_eq_ok (Ctx.clean_start db env)
      ((run_verifyCheckoutData_of_data hok).trans h)
    have hverdict : ∀ v ∈ verdicts, ∃ line ∈ lines, verdict P data line = .ok v :=
      fun v hv => exists_of_mem_mapM hverdicts hv
    refine ⟨⟨hknown, (hdata.all_iff hfirst).mp hall, ?_, hresult.2.2.1, ?_, ?_, ?_⟩, ?_⟩
    · rw [← hids]
      exact partition_perm _ _ verdicts
    · rw [← hids]
      exact partition_sublist _ _ verdicts
    · intro a ha
      obtain ⟨v, hv, ha⟩ := List.mem_filterMap.mp ha
      rw [Sum.getLeft?_eq_some_iff.mp ha] at hv
      obtain ⟨line, hline, hverdict⟩ := hverdict _ hv
      exact (isAvailable_of_verdict hdata (List.mem_map_of_mem hline) hverdict).2
    · intro s hs
      obtain ⟨v, hv, hs⟩ := List.mem_filterMap.mp hs
      rw [Sum.getRight?_eq_some_iff.mp hs] at hv
      obtain ⟨line, hline, hverdict⟩ := hverdict _ hv
      exact ⟨line, hline, isAdjusted_of_verdict hdata (List.mem_map_of_mem hline) hverdict⟩
    · -- with no lines there would be no first entry
      rintro rfl
      obtain ⟨id, hid, -⟩ := hdata.values first (firstValue_eq_ok hfirst)
      cases hid
  · unfold verifyCheckoutData at h
    rw [run_bind_error herror] at h
    cases h

/-- **The check partitions the request.** -/
theorem verifyCheckoutData_partitions {result : CheckoutData} {c : Ctx Database Write σ}
    (h : (verifyCheckoutData P lines).run (Ctx.start db env) = .ok result c) :
    Partitioned P db lines result :=
  (partitioned_of_run h).1

end Returns

/-- The item of the samples, of which three pieces are left, and one with five. -/
def twoItemsDatabase : Database :=
  let items : List CatalogItemORM := [{ soldOutItem with quantity := some 3 },
    { soldOutItem with id := 4, price := 50, quantity := some 5 }]
  { sampleDatabase with
    catalog :=
      { sampleDatabase.catalog with
        items := ⟨items, by decide⟩
        publication_fk := by decide
        product_fk := by decide
        credit_plan_fk := by simp [items, soldOutItem]
        quantity_limit := by decide } }

/-- A line above the stock, which is adjusted, and one that is available. -/
def mixedResult : CheckoutData := ⟨[⟨⟨4, 2⟩, none, 50, "", none⟩], [⟨1, 3⟩]⟩

theorem run_mixedResult :
    (verifyCheckoutData .strict [⟨1, 4⟩, ⟨4, 2⟩]).run (Ctx.start twoItemsDatabase ()) =
      .ok mixedResult (Ctx.start twoItemsDatabase () : Ctx Database Write Unit) := rfl

theorem verifyCheckoutData_partitions_sample :
    (verifyCheckoutData .strict [⟨1, 4⟩, ⟨4, 2⟩]).run (Ctx.start twoItemsDatabase ()) =
        .ok mixedResult (Ctx.start twoItemsDatabase () : Ctx Database Write Unit) ∧
      Partitioned .strict twoItemsDatabase [⟨1, 4⟩, ⟨4, 2⟩] mixedResult :=
  ⟨run_mixedResult, verifyCheckoutData_partitions run_mixedResult⟩

/-! ### A corrected request -/

/-- The line, with the adjusted quantity if it was adjusted. -/
def correctedLine (adjusted : List ShortCheckoutItem) (line : CatalogItemQuantity) :
    CatalogItemQuantity :=
  match adjusted.find? fun s => s.id = line.id with
  | some s => { line with quantity := s.quantity }
  | none => line

/-- A field of an arbitrary type takes its instances only, and a text is not an instance of
`pendulum.Date`. -/
def Pydantic.ChecksInstances (P : Pydantic) : Prop :=
  ∀ text, P.date text = .error .validationError

section Correction

variable {P : Pydantic} {db : Database} {env : σ} {lines : List CatalogItemQuantity}

/-- Then a plan passes the first model only if it has no parts, and so passes the second. -/
theorem Pydantic.ChecksInstances.planAccepted (h : P.ChecksInstances) {item : CatalogItemORM}
    {parts : Option (List CreditPart)}
    (h_parts : creditParts P (db.catalog.creditPlan item) = .ok parts) :
    PlanAccepted P db item := by
  refine ⟨parts, ?_⟩
  rw [h_parts]
  cases hplan : db.catalog.creditPlan item with
  | none =>
    rw [hplan] at h_parts
    cases h_parts
    exact ⟨none, rfl, rfl⟩
  | some plan =>
    rw [hplan] at h_parts
    obtain ⟨ps, hps, heq⟩ := except_bind_eq_ok.mp h_parts
    cases heq
    cases hstored : plan.parts with
    | nil =>
      rw [hstored] at hps
      cases hps
      exact ⟨some [], rfl, rfl⟩
    -- the deadline of a part would have to be an instance already, which a loaded one is not
    | cons part rest =>
      rw [hstored] at hps
      obtain ⟨d, ds, hpart, -⟩ := mapM_cons_eq_ok.mp hps
      obtain ⟨date, hdate, -⟩ := except_bind_eq_ok.mp hpart
      rw [h part.deadline] at hdate
      cases hdate

theorem id_correctedLine (adjusted : List ShortCheckoutItem) (line : CatalogItemQuantity) :
    (correctedLine adjusted line).id = line.id := by
  unfold correctedLine
  split <;> rfl

/-- A line that was adjusted gets the quantity of its adjusted item, another is kept. -/
theorem correctedLine_cases {result : CheckoutData} (h : Partitioned P db lines result)
    {line : CatalogItemQuantity} (h_line : line ∈ lines) :
    (∃ s ∈ result.adjustedItems, s.id = line.id ∧
      (correctedLine result.adjustedItems line).quantity = s.quantity) ∨
    ∃ a ∈ result.availableItems, a.line = line ∧
      correctedLine result.adjustedItems line = line := by
  cases hfind : result.adjustedItems.find? fun s => s.id = line.id with
  | some s =>
    left
    have hfound := List.find?_some hfind
    refine ⟨s, List.mem_of_find?_eq_some hfind, of_decide_eq_true hfound, ?_⟩
    unfold correctedLine
    rw [hfind]
  | none =>
    right
    -- every requested id is in one of the two lists
    have hmem : line.id ∈ result.availableItems.map (·.id) ++ result.adjustedItems.map (·.id) :=
      h.once.mem_iff.mpr (List.mem_map_of_mem h_line)
    rcases List.mem_append.mp hmem with havailable | hadjusted
    · obtain ⟨a, ha, hid⟩ := List.mem_map.mp havailable
      have haline : a.line ∈ lines := h.available_order.subset (List.mem_map_of_mem ha)
      refine ⟨a, ha, List.inj_on_of_nodup_map h.known.distinct haline h_line hid, ?_⟩
      unfold correctedLine
      rw [hfind]
    · obtain ⟨s, hs, hid⟩ := List.mem_map.mp hadjusted
      exact absurd (decide_eq_true hid) (List.find?_eq_none.mp hfind s hs)

/-- **A request that was corrected once is accepted**, if the plans of the adjusted items
pass. -/
theorem acceptable_corrected {result : CheckoutData} (h : Partitioned P db lines result)
    (h_ne : lines ≠ []) (h_plans : ∀ item ∈ selectActiveItems (lines.map (·.id)) db,
      PlanAccepted P db item) :
    Acceptable P db (lines.map (correctedLine result.adjustedItems)) := by
  have hids : (lines.map (correctedLine result.adjustedItems)).map (·.id) = lines.map (·.id) := by
    rw [List.map_map]
    exact List.map_congr_left fun line _ => id_correctedLine _ line
  refine ⟨fun hnil => h_ne (List.map_eq_nil_iff.mp hnil), hids ▸ h.known.distinct, ?_⟩
  -- the preorder is that of any of the items
  obtain ⟨line₀, hline₀⟩ := List.exists_mem_of_ne_nil lines h_ne
  obtain ⟨item₀, hitem₀, hid₀, hactive₀⟩ :=
    h.known.active line₀.id (List.mem_map_of_mem hline₀)
  have hselected₀ : item₀ ∈ selectActiveItems (lines.map (·.id)) db :=
    mem_selectActiveItems.mpr ⟨hitem₀, hactive₀, hid₀ ▸ List.mem_map_of_mem hline₀⟩
  refine ⟨db.catalog.preorderId item₀, List.forall_mem_map.mpr fun line hline => ?_⟩
  obtain ⟨item, hitem, hid, hactive⟩ := h.known.active line.id (List.mem_map_of_mem hline)
  have hselected : item ∈ selectActiveItems (lines.map (·.id)) db :=
    mem_selectActiveItems.mpr ⟨hitem, hactive, hid ▸ List.mem_map_of_mem hline⟩
  refine ⟨item, hitem, hid.trans (id_correctedLine _ line).symm, hactive, ?_,
    h_plans item hselected, fun t ht h0 => ?_⟩
  · by_contra hne
    exact h.one_preorder ⟨item, hselected, item₀, hselected₀, hne⟩
  · have hstock : db.catalog.available item = some (t - item.orderedQuantity) :=
      available_eq_some.mpr ⟨t, ht, h0, rfl⟩
    rcases correctedLine_cases h hline with ⟨s, hs, hsid, hquantity⟩ | ⟨a, ha, haline, hsame⟩
    -- an adjusted quantity is at most what there is
    · obtain ⟨line', -, hline', item', hitem', hid', n, hn, hmin, -⟩ := h.adjusted s hs
      have hids : item'.id = item.id :=
        calc item'.id = line'.id := hid'
          _ = s.id := hline'.symm
          _ = line.id := hsid
          _ = item.id := hid.symm
      obtain rfl : item' = item := Table.eq_of_mem hitem' hitem hids
      obtain rfl : n = t - item'.orderedQuantity := Option.some.inj (hn.symm.trans hstock)
      rw [hquantity, hmin]
      exact min_le_left _ _
    · obtain ⟨item', hitem', havailable⟩ := h.available a ha
      obtain rfl : item' = item := by
        refine Table.eq_of_mem hitem' hitem (havailable.id.symm.trans ?_)
        exact (congrArg CatalogItemQuantity.id haline).trans hid.symm
      rw [hsame, ← haline]
      exact havailable.stock _ hstock

/-- **One correction is enough.** -/
theorem correction_accepted (h_P : P.ChecksInstances) {result : CheckoutData}
    {c : Ctx Database Write σ}
    (h : (verifyCheckoutData P lines).run (Ctx.start db env) = .ok result c) :
    ∃ items, (verifyCheckoutData P (lines.map (correctedLine result.adjustedItems))).run
        (Ctx.start db env) = .ok ⟨items, []⟩ (Ctx.start db env) ∧
      items.map AvailableCheckoutItem.line =
        lines.map (correctedLine result.adjustedItems) := by
  obtain ⟨hpartitioned, hne⟩ := partitioned_of_run h
  -- every plan passed the first model when the data was read
  have hplans : ∀ item ∈ selectActiveItems (lines.map (·.id)) db, PlanAccepted P db item := by
    rcases getCatalogItemsCheckoutData_cases P db env (lines.map (·.id)) with
      ⟨hnot, -⟩ | ⟨-, data, -, hdata⟩ | ⟨-, e, herror, -⟩
    · exact absurd hpartitioned.known hnot
    · intro item hitem
      obtain ⟨hrow, -, hid⟩ := mem_selectActiveItems.mp hitem
      obtain ⟨item', hitem', hid', -, parts, hparts, -⟩ := hdata.found item.id hid
      obtain rfl : item' = item := Table.eq_of_mem hitem' hrow hid'
      exact h_P.planAccepted hparts
    · unfold verifyCheckoutData at h
      rw [run_bind_error herror] at h
      cases h
  have hacceptable := acceptable_corrected hpartitioned hne hplans
  obtain ⟨items, hitems⟩ := @Acceptable.exists_verifyCheckoutData _ _ _ env _ hacceptable
  refine ⟨items, hitems, ?_⟩
  exact (verifyCheckoutData_eq_ok (Ctx.clean_start db env) hitems).2.2.2 rfl

end Correction

/-- Four pieces of which three are left, and two of which five are: the first is adjusted, and
the corrected request is accepted. -/
theorem correction_accepted_sample :
    (verifyCheckoutData .strict [⟨1, 4⟩, ⟨4, 2⟩]).run (Ctx.start twoItemsDatabase ()) =
        .ok mixedResult (Ctx.start twoItemsDatabase () : Ctx Database Write Unit) ∧
      ∃ items, (verifyCheckoutData .strict [⟨1, 3⟩, ⟨4, 2⟩]).run (Ctx.start twoItemsDatabase ()) =
          .ok ⟨items, []⟩ (Ctx.start twoItemsDatabase () : Ctx Database Write Unit) ∧
        items.map AvailableCheckoutItem.line = [⟨1, 3⟩, ⟨4, 2⟩] :=
  ⟨run_mixedResult, @correction_accepted Unit .strict twoItemsDatabase () [⟨1, 4⟩, ⟨4, 2⟩]
    (fun _ => rfl) mixedResult _ run_mixedResult⟩

/-! ### The errors of the check -/

/-- `verify_checkout_data` raises `e`. -/
def Raises (P : Pydantic) (db : Database) (env : σ) (lines : List CatalogItemQuantity)
    (e : PyExc) : Prop :=
  (verifyCheckoutData P lines).run (Ctx.start db env) = .error e (Ctx.start db env)

/-- The check fails in its two declared ways, each where it should, and in no other. -/
structure FailsAsDeclared (P : Pydantic) (db : Database) (env : σ)
    (lines : List CatalogItemQuantity) : Prop where
  not_found : Raises P db env lines .catalogItemNotFoundError ↔ ¬ KnownItems db (lines.map (·.id))
  sections : KnownItems db (lines.map (·.id)) →
    (Raises P db env lines .incorrectItemsSectionsError ↔ Mixed db (lines.map (·.id)))
  returns : KnownItems db (lines.map (·.id)) → ¬ Mixed db (lines.map (·.id)) →
    ∃ result, (verifyCheckoutData P lines).run (Ctx.start db env) = .ok result (Ctx.start db env)

/-- What pydantic raises is a `ValidationError`. -/
structure Pydantic.RaisesValidationErrors (P : Pydantic) : Prop where
  date : ∀ text e, P.date text = .error e → e = .validationError
  str : ∀ date e, P.str date = .error e → e = .validationError

/-- The plans of the requested items pass where they are validated: all of them as
`CreditPart`, and, when the items are of one preorder, those of the lines that are not above
the stock as `CreditPaymentPart`. -/
structure PlansPass (P : Pydantic) (db : Database) (lines : List CatalogItemQuantity) :
    Prop where
  read : ∀ item ∈ selectActiveItems (lines.map (·.id)) db,
    ∃ parts, creditParts P (db.catalog.creditPlan item) = .ok parts
  shown : ¬ Mixed db (lines.map (·.id)) → ∀ line ∈ lines, ∀ item ∈ db.catalog.items.rows,
    item.id = line.id → (∀ n, db.catalog.available item = some n → line.quantity ≤ n) →
      PlanAccepted P db item

section Errors

variable {P : Pydantic} {db : Database} {env : σ} {lines : List CatalogItemQuantity}

theorem Pydantic.RaisesValidationErrors.creditParts (h : P.RaisesValidationErrors)
    {plan : Option CreditPlanORM} {e : PyExc} (h_error : creditParts P plan = .error e) :
    e = .validationError := by
  cases plan with
  | none => cases h_error
  | some plan =>
    rcases except_bind_eq_error.mp h_error with hps | ⟨ps, -, hpure⟩
    · obtain ⟨part, -, hpart⟩ := mapM_eq_error hps
      rcases except_bind_eq_error.mp hpart with hdate | ⟨date, -, hpure⟩
      · exact h.date _ _ hdate
      · cases hpure
    · cases hpure

theorem Pydantic.RaisesValidationErrors.creditPaymentParts (h : P.RaisesValidationErrors)
    {parts : Option (List CreditPart)} {e : PyExc}
    (h_error : creditPaymentParts P parts = .error e) : e = .validationError := by
  cases parts with
  | none => cases h_error
  | some parts =>
    rcases except_bind_eq_error.mp h_error with hps | ⟨ps, -, hpure⟩
    · obtain ⟨part, -, hpart⟩ := mapM_eq_error hps
      rcases except_bind_eq_error.mp hpart with hstr | ⟨text, -, hpure⟩
      · exact h.str _ _ hstr
      · cases hpure
    · cases hpure

theorem Pydantic.RaisesValidationErrors.verdict (h : P.RaisesValidationErrors)
    {data : Dict UUID CatalogItemCheckoutDataDTO} {line : CatalogItemQuantity}
    {d : CatalogItemCheckoutDataDTO} (h_get : data.get? line.id = some d) {e : PyExc}
    (h_error : verdict P data line = .error e) : e = .validationError := by
  unfold Storefront.verdict at h_error
  rw [h_get] at h_error
  rcases except_bind_eq_error.mp h_error with hattr | ⟨d', -, hrest⟩
  · cases hattr
  · split at hrest
    · cases hrest
    · rcases except_bind_eq_error.mp hrest with hparts | ⟨ps, -, hpure⟩
      · exact h.creditPaymentParts hparts
      · cases hpure

/-! What the check makes of the data, once it is there. -/

section Data

variable {data : Dict UUID CatalogItemCheckoutDataDTO} (h : DataOf P db (lines.map (·.id)) data)

include h

/-- Without lines there is no first item. -/
theorem DataOf.checkLines_nil (h_nil : lines = []) :
    checkLines P lines data = .error .runtimeError := by
  have hvalues : data.values = [] := by
    refine List.eq_nil_iff_forall_not_mem.mpr ?_
    intro d hd
    obtain ⟨id, hid, -⟩ := h.values d hd
    rw [h_nil] at hid
    cases hid
  unfold checkLines
  rw [hvalues]
  rfl

theorem DataOf.exists_first (h_lines : lines ≠ []) :
    ∃ first, firstValue data.values = .ok first := by
  obtain ⟨line, hline⟩ := List.exists_mem_of_ne_nil lines h_lines
  obtain ⟨item, -, -, -, parts, -, hget⟩ := h.found line.id (List.mem_map_of_mem hline)
  exact exists_firstValue (List.ne_nil_of_mem (mem_values_of_get? hget))

/-- Different preorders raise, whatever the loop would do. -/
theorem DataOf.checkLines_mixed (h_lines : lines ≠ []) (h_mixed : Mixed db (lines.map (·.id))) :
    checkLines P lines data = .error .incorrectItemsSectionsError := by
  obtain ⟨first, hfirst⟩ := h.exists_first h_lines
  rw [checkLines_of_firstValue hfirst, if_neg fun hall => (h.all_iff hfirst).mp hall h_mixed]

/-- Items of one preorder are left to the loop. -/
theorem DataOf.checkLines_unmixed (h_lines : lines ≠ [])
    (h_mixed : ¬ Mixed db (lines.map (·.id))) :
    checkLines P lines data =
      (lines.mapM (verdict P data)).map (CheckoutData.extend ⟨[], []⟩) := by
  obtain ⟨first, hfirst⟩ := h.exists_first h_lines
  rw [checkLines_of_firstValue hfirst, if_pos ((h.all_iff hfirst).mpr h_mixed),
    foldlM_verifyItem_eq]

/-- The loop has a verdict on every line exactly when the plans pass. -/
theorem DataOf.exists_verdicts_iff :
    (∃ verdicts, lines.mapM (verdict P data) = .ok verdicts) ↔
      ∀ line ∈ lines, ∀ item ∈ db.catalog.items.rows, item.id = line.id →
        (∀ n, db.catalog.available item = some n → line.quantity ≤ n) →
          PlanAccepted P db item := by
  rw [exists_mapM_eq_ok]
  refine forall₂_congr ?_
  intro line hline
  obtain ⟨item, hitem, hid, -, parts, hparts, hget⟩ := h.found line.id (List.mem_map_of_mem hline)
  rw [exists_verdict hget, adjustment_eq_none hget]
  -- the plan has been read; what may fail is to pass its deadlines on
  have hplan : PlanAccepted P db item ↔ ∃ parts', creditPaymentParts P parts = .ok parts' := by
    unfold PlanAccepted
    rw [hparts]
    simp
  refine ⟨?_, ?_⟩
  · intro hpass item' hitem' hid' hstock
    obtain rfl : item' = item := Table.eq_of_mem hitem' hitem (hid'.trans hid.symm)
    exact hplan.mpr (hpass hstock)
  · intro hpass hstock
    exact hplan.mp (hpass item hitem hid hstock)

/-- All the plans have passed as they were read. -/
theorem DataOf.exists_creditParts : ∀ item ∈ selectActiveItems (lines.map (·.id)) db,
    ∃ parts, creditParts P (db.catalog.creditPlan item) = .ok parts := by
  intro item hitem
  obtain ⟨hrow, -, hid⟩ := mem_selectActiveItems.mp hitem
  obtain ⟨item', hitem', hid', -, parts, hparts, -⟩ := h.found item.id hid
  obtain rfl : item' = item := Table.eq_of_mem hitem' hrow hid'
  exact ⟨parts, hparts⟩

end Data

/-! An outcome of the check, and whether it is a declared one. -/

theorem failsAsDeclared_of_not_known (h : Raises P db env lines .catalogItemNotFoundError)
    (h_not : ¬ KnownItems db (lines.map (·.id))) : FailsAsDeclared P db env lines where
  not_found := iff_of_true h h_not
  sections h_known := absurd h_known h_not
  returns h_known := absurd h_known h_not

theorem failsAsDeclared_of_mixed (h : Raises P db env lines .incorrectItemsSectionsError)
    (h_known : KnownItems db (lines.map (·.id))) (h_mixed : Mixed db (lines.map (·.id))) :
    FailsAsDeclared P db env lines where
  not_found := by
    refine iff_of_false (fun hnot => ?_) (not_not.mpr h_known)
    have hboth := h.symm.trans hnot
    exact absurd (EStateM.Result.error.inj hboth).1 (by decide)
  sections _ := iff_of_true h h_mixed
  returns _ h_unmixed := absurd h_mixed h_unmixed

theorem failsAsDeclared_of_returns {result : CheckoutData}
    (h : (verifyCheckoutData P lines).run (Ctx.start db env) = .ok result (Ctx.start db env))
    (h_known : KnownItems db (lines.map (·.id))) (h_mixed : ¬ Mixed db (lines.map (·.id))) :
    FailsAsDeclared P db env lines := by
  have hnot : ∀ e, ¬ Raises P db env lines e := fun e herror => by
    have hboth := h.symm.trans herror
    cases hboth
  exact {
    not_found := iff_of_false (hnot _) (not_not.mpr h_known)
    sections := fun _ => iff_of_false (hnot _) h_mixed
    returns := fun _ _ => ⟨result, h⟩ }

/-- Where the outcome is an exception that was not declared, the check fails as declared only
if the ids are unknown. -/
theorem not_failsAsDeclared_of_raises {e : PyExc} (h : Raises P db env lines e)
    (h_known : KnownItems db (lines.map (·.id))) (h_sections : e ≠ .incorrectItemsSectionsError) :
    ¬ FailsAsDeclared P db env lines := by
  intro hdeclared
  by_cases hmixed : Mixed db (lines.map (·.id))
  · have hraises := (hdeclared.sections h_known).mpr hmixed
    exact h_sections (EStateM.Result.error.inj (h.symm.trans hraises)).1
  · obtain ⟨result, hok⟩ := hdeclared.returns h_known hmixed
    have hboth := h.symm.trans hok
    cases hboth

/-- The check raises what is raised while the data is read. -/
theorem raises_of_read {e : PyExc}
    (h : (getCatalogItemsCheckoutData P (lines.map (·.id))).run (Ctx.start db env) =
      .error e (Ctx.start db env)) : Raises P db env lines e := by
  unfold Raises verifyCheckoutData
  exact run_bind_error h

/-- The check of known items whose data is there. -/
theorem DataOf.failsAsDeclared_iff_plansPass {data : Dict UUID CatalogItemCheckoutDataDTO}
    (h : DataOf P db (lines.map (·.id)) data)
    (h_read : (getCatalogItemsCheckoutData P (lines.map (·.id))).run (Ctx.start db env) =
      .ok data (Ctx.start db env))
    (h_known : KnownItems db (lines.map (·.id))) (h_P : P.RaisesValidationErrors) :
    FailsAsDeclared P db env lines ↔ lines ≠ [] ∧ PlansPass P db lines := by
  have hraises : ∀ e, checkLines P lines data = .error e → Raises P db env lines e := by
    intro e herror
    unfold Raises
    rw [run_verifyCheckoutData_of_data h_read, herror]
    rfl
  by_cases hnil : lines = []
  · refine iff_of_false ?_ fun hpass => hpass.1 hnil
    exact not_failsAsDeclared_of_raises (hraises _ (h.checkLines_nil hnil)) h_known (by decide)
  by_cases hmixed : Mixed db (lines.map (·.id))
  · exact iff_of_true
      (failsAsDeclared_of_mixed (hraises _ (h.checkLines_mixed hnil hmixed)) h_known hmixed)
      ⟨hnil, h.exists_creditParts, fun hunmixed => absurd hmixed hunmixed⟩
  have hcheck := h.checkLines_unmixed hnil hmixed
  have hverdicts : lines ≠ [] ∧ PlansPass P db lines ↔
      ∃ verdicts, lines.mapM (verdict P data) = .ok verdicts := by
    rw [h.exists_verdicts_iff]
    exact ⟨fun hpass => hpass.2.shown hmixed,
      fun hpass => ⟨hnil, h.exists_creditParts, fun _ => hpass⟩⟩
  rw [hverdicts]
  cases hmapM : lines.mapM (verdict P data) with
  | ok verdicts =>
    rw [hmapM] at hcheck
    have hrun := run_verifyCheckoutData_of_data h_read
    rw [hcheck] at hrun
    exact iff_of_true (failsAsDeclared_of_returns hrun h_known hmixed) ⟨verdicts, rfl⟩
  | error e =>
    rw [hmapM] at hcheck
    -- the plan of a line did not pass
    obtain ⟨line, hline, herror⟩ := mapM_eq_error hmapM
    obtain ⟨item, -, -, -, parts, -, hget⟩ := h.found line.id (List.mem_map_of_mem hline)
    have he : e = .validationError := h_P.verdict hget herror
    refine iff_of_false ?_ nofun
    exact not_failsAsDeclared_of_raises (hraises e hcheck) h_known (by rw [he]; decide)

/-- **When the check fails only as declared**: the ids are unknown, or there are lines at all
and every plan passes where it is validated. -/
theorem failsAsDeclared_iff (h_P : P.RaisesValidationErrors) :
    FailsAsDeclared P db env lines ↔
      ¬ KnownItems db (lines.map (·.id)) ∨ (lines ≠ [] ∧ PlansPass P db lines) := by
  rcases getCatalogItemsCheckoutData_cases P db env (lines.map (·.id)) with
    ⟨hnot, herror⟩ | ⟨hknown, data, hok, hdata⟩ | ⟨hknown, e, herror, item, hitem, hplan⟩
  -- unknown ids
  · exact iff_of_true (failsAsDeclared_of_not_known (raises_of_read herror) hnot) (.inl hnot)
  · rw [or_iff_right (not_not.mpr hknown)]
    exact hdata.failsAsDeclared_iff_plansPass hok hknown h_P
  -- a plan that does not pass as it is read
  · have he : e = .validationError := h_P.creditParts hplan
    refine iff_of_false
      (not_failsAsDeclared_of_raises (raises_of_read herror) hknown (by rw [he]; decide)) ?_
    rintro (hnot | ⟨-, hpass⟩)
    · exact hnot hknown
    · obtain ⟨parts, hparts⟩ := hpass.read item hitem
      rw [hplan] at hparts
      cases hparts

end Errors

theorem raisesValidationErrors_strict : Pydantic.strict.RaisesValidationErrors where
  date _ _ h := (Except.error.inj h).symm
  str _ _ h := (Except.error.inj h).symm

/-- A request with one known item and without a plan. -/
theorem failsAsDeclared_iff_sample : FailsAsDeclared .strict sampleDatabase () [⟨1, 2⟩] := by
  refine (failsAsDeclared_iff raisesValidationErrors_strict).mpr (.inr ⟨nofun, ?_, ?_⟩)
  · intro item hitem
    obtain rfl := List.mem_singleton.mp (mem_selectActiveItems.mp hitem).1
    exact ⟨none, rfl⟩
  · intro _ line _ item hitem _ _
    obtain rfl := List.mem_singleton.mp hitem
    exact ⟨none, none, rfl, rfl⟩

/-- The empty request raises a `RuntimeError`. -/
theorem empty_request_raises :
    Raises .strict sampleDatabase () [] .runtimeError ∧
      ¬ FailsAsDeclared .strict sampleDatabase () [] := by
  have hraises : Raises .strict sampleDatabase () [] .runtimeError := rfl
  exact ⟨hraises, not_failsAsDeclared_of_raises hraises ⟨List.nodup_nil, nofun⟩ (by decide)⟩

end Storefront
