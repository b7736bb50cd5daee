import Storefront.Catalog.Service

/-!
# The invoices of an order

`make_order_invoices_objects` (`services/order/utils.py`) builds the invoices of an order
before it is stored: one INITIAL invoice and, for the items sold by instalments, CREDIT
invoices grouped under the id of the item. It takes the list of item ids the customer chose
to pay by instalments, but looks only at whether that list is empty.

* `get?_initial`, `get?_item` — what the mapping holds under each key;
* `sum_invoiceObjects` — the sum of all invoice amounts;
* `schedule_makeOrderInvoicesObjects` — with any item chosen, every part of every plan is billed
  once, by the INITIAL invoice or by a CREDIT invoice of its own;
* `splitsChosen_iff` — exactly the chosen items are split, and flagged `by_credit`, if and
  only if nothing is chosen or the chosen items are those that have a credit plan.
-/

namespace Storefront

/-- An `InvoiceORM` as it is constructed, before it has an id, an order or an order line. -/
structure InvoiceObject where
  title : String
  creditPartIndex : Option Nat
  type : InvoiceType
  amount : Int
  status : InvoiceStatus
  deriving DecidableEq, Repr

/-- The keys of the mapping: `'INITIAL'`, or `str(item.id)`. -/
inductive InvoiceKey
  | initial
  | item (id : UUID)
  deriving DecidableEq, Repr

/-- The values of the mapping: `InvoiceORM | list[InvoiceORM]`. -/
inductive InvoiceEntry
  | one (invoice : InvoiceObject)
  | many (invoices : List InvoiceObject)
  deriving DecidableEq, Repr

/-! ### The builder -/

/-- The invoice of the credit part with the given index. -/
def creditInvoice (item : AvailableCheckoutItem) (index : Nat) (part : CreditPaymentPart) :
    InvoiceObject where
  title := "Оплата рассрочки"
  creditPartIndex := some index
  type := .credit
  amount := part.sum * item.quantity
  status := .unpaid

/-- The body of the loop over `enumerate(item.credit_parts)`. -/
def addCreditPart (item : AvailableCheckoutItem) (acc : Int × List InvoiceObject)
    (part : CreditPaymentPart × Nat) : Int × List InvoiceObject :=
  if part.2 = 0 then (acc.1 + part.1.sum * item.quantity, acc.2)
  else (acc.1, acc.2 ++ [creditInvoice item part.2 part.1])

/-- `sorted(item_invoices, key=lambda x: x.credit_part_index)` -/
def sortedByPartIndex (invoices : List InvoiceObject) : List InvoiceObject :=
  invoices.insertionSort fun a b => a.creditPartIndex.getD 0 ≤ b.creditPartIndex.getD 0

/-- The body of the loop over the items; an absent plan and an empty one are false in Python. -/
def addInvoicesOf (acc : Int × Dict UUID (List InvoiceObject)) (item : AvailableCheckoutItem) :
    Int × Dict UUID (List InvoiceObject) :=
  match item.creditParts with
  | some (part :: parts) =>
    let (initialSum, itemInvoices) :=
      (part :: parts).zipIdx.foldl (addCreditPart item) (acc.1, [])
    (initialSum, acc.2.set item.id (sortedByPartIndex itemInvoices))
  | _ => (acc.1 + item.price * item.quantity, acc.2)

/-- The INITIAL invoice, which either branch of the builder makes. -/
def initialInvoice (title : String) (amount : Int) : InvoiceObject where
  title
  creditPartIndex := none
  type := .initial
  amount
  status := .unpaid

/-- `make_order_invoices_objects` -/
def makeOrderInvoicesObjects (checkoutItems : List AvailableCheckoutItem)
    (creditItemsIds : List UUID) : Dict InvoiceKey InvoiceEntry :=
  if creditItemsIds = [] then
    Dict.ofList [(.initial, .one (initialInvoice "Оплата заказа"
      (checkoutItems.map fun item => item.price * item.quantity).sum))]
  else
    let (initialSum, creditItemInvoices) := checkoutItems.foldl addInvoicesOf (0, .empty)
    Dict.ofList ((.initial, .one (initialInvoice "Оплата депозита заказа" initialSum)) ::
      creditItemInvoices.rows.map fun p => (.item p.1, .many p.2))

/-- `by_credit=item.id in credit_items_ids`, the flag `create_order` gives an order line. -/
def byCredit (creditItemsIds : List UUID) (item : AvailableCheckoutItem) : Bool :=
  item.id ∈ creditItemsIds

/-! ### What an item contributes -/

namespace AvailableCheckoutItem

/-- The parts of the credit plan, none for an item without one. -/
def plan (item : AvailableCheckoutItem) : List CreditPaymentPart := item.creditParts.getD []

/-- The price of the whole line. -/
def fullPrice (item : AvailableCheckoutItem) : Int := item.price * item.quantity

/-- What a line that is split adds to the INITIAL invoice. -/
def deposit (item : AvailableCheckoutItem) : Int :=
  match item.plan with
  | part :: _ => part.sum * item.quantity
  | [] => item.fullPrice

/-- The CREDIT invoices of a line that is split: one for each part after the first. -/
def creditInvoices (item : AvailableCheckoutItem) : List InvoiceObject :=
  (item.plan.tail.zipIdx 1).map fun p => creditInvoice item p.2 p.1

/-- Without a plan the deposit is the price. -/
theorem deposit_of_plan_nil {item : AvailableCheckoutItem} (h : item.plan = []) :
    item.deposit = item.fullPrice := by
  unfold deposit
  rw [h]

end AvailableCheckoutItem

section Builder

variable {item : AvailableCheckoutItem} {items : List AvailableCheckoutItem}
  {creditIds : List UUID}

/-- After the first part the loop only collects CREDIT invoices. -/
theorem foldl_addCreditPart (parts : List CreditPaymentPart) {n : Nat} (hn : 0 < n)
    (acc : Int × List InvoiceObject) :
    (parts.zipIdx n).foldl (addCreditPart item) acc =
      (acc.1, acc.2 ++ (parts.zipIdx n).map fun p => creditInvoice item p.2 p.1) := by
  induction parts generalizing n acc with
  | nil => simp
  | cons part parts ih =>
    have hpart : addCreditPart item acc (part, n) =
        (acc.1, acc.2 ++ [creditInvoice item n part]) := if_neg (Nat.ne_of_gt hn)
    rw [List.zipIdx_cons, List.foldl_cons, hpart, ih (Nat.succ_pos n), List.map_cons,
      List.append_assoc, List.singleton_append]

/-- The CREDIT invoices of an item are made in the order of their parts. -/
theorem sortedByPartIndex_creditInvoices (item : AvailableCheckoutItem) :
    sortedByPartIndex item.creditInvoices = item.creditInvoices := by
  refine List.Pairwise.insertionSort_eq ?_
  -- the loop numbers the parts in order
  have hindices : ((item.plan.tail.zipIdx 1).map Prod.snd).Pairwise (· < ·) := by
    rw [List.zipIdx_map_snd]
    exact List.pairwise_lt_range'
  unfold AvailableCheckoutItem.creditInvoices
  rw [List.pairwise_map] at hindices ⊢
  exact hindices.imp fun h => Nat.le_of_lt h

/-- **What one turn of the loop does**: the item adds its deposit to the initial sum and,
when it has a plan, its CREDIT invoices to the dictionary. -/
theorem addInvoicesOf_eq (acc : Int × Dict UUID (List InvoiceObject)) :
    addInvoicesOf acc item =
      (acc.1 + item.deposit,
        if item.plan = [] then acc.2 else acc.2.set item.id item.creditInvoices) := by
  have hsorted := sortedByPartIndex_creditInvoices item
  unfold addInvoicesOf AvailableCheckoutItem.deposit
  unfold AvailableCheckoutItem.creditInvoices AvailableCheckoutItem.plan at hsorted ⊢
  -- no plan and an empty plan are the same to the loop
  match hparts : item.creditParts with
  | none => rfl
  | some [] => rfl
  | some (part :: parts) =>
    rw [hparts] at hsorted
    -- the first part goes into the initial sum, the others become invoices
    have hfirst : addCreditPart item (acc.1, []) (part, 0) =
        (acc.1 + part.sum * item.quantity, []) := rfl
    simp only [List.zipIdx_cons, List.foldl_cons, hfirst,
      foldl_addCreditPart parts (Nat.succ_pos 0), List.nil_append]
    simp only [Option.getD_some, List.tail_cons, reduceCtorEq, if_false] at hsorted ⊢
    rw [hsorted]

/-- The initial sum is the sum of the deposits. -/
theorem foldl_addInvoicesOf_fst (acc : Int × Dict UUID (List InvoiceObject)) :
    (items.foldl addInvoicesOf acc).1 =
      acc.1 + (items.map AvailableCheckoutItem.deposit).sum := by
  induction items generalizing acc with
  | nil => simp
  | cons item items ih =>
    rw [List.foldl_cons, ih, addInvoicesOf_eq, List.map_cons, List.sum_cons, add_assoc]

/-- The dictionary lists the items that have a plan, when their ids are pairwise distinct. -/
theorem foldl_addInvoicesOf_rows (acc : Int × Dict UUID (List InvoiceObject))
    (h : (acc.2.keys ++ items.map (·.id)).Nodup) :
    (items.foldl addInvoicesOf acc).2.rows =
      acc.2.rows ++ (items.filter fun item => item.plan ≠ []).map fun item =>
        (item.id, item.creditInvoices) := by
  induction items generalizing acc with
  | nil => simp
  | cons item items ih =>
    rw [List.foldl_cons, addInvoicesOf_eq]
    -- the item is new to the dictionary, so its entry goes to the end
    have hid : item.id ∉ acc.2.keys := fun hmem =>
      (List.nodup_append.mp h).2.2 _ hmem _ (List.mem_map_of_mem List.mem_cons_self) rfl
    have hrest : (acc.2.keys ++ items.map (·.id)).Nodup :=
      h.sublist ((List.sublist_cons_self _ _).append_left _)
    by_cases hplan : item.plan = []
    · rw [if_pos hplan, ih (acc.1 + item.deposit, acc.2) hrest,
        List.filter_cons_of_neg (by simpa using hplan)]
    · have hkeys := Dict.keys_set_of_notMem (v := item.creditInvoices) hid
      have hset : ((acc.2.set item.id item.creditInvoices).keys ++ items.map (·.id)).Nodup := by
        rw [hkeys, List.append_assoc, List.singleton_append]
        exact h
      rw [if_neg hplan, ih (acc.1 + item.deposit, acc.2.set item.id item.creditInvoices) hset,
        List.filter_cons_of_pos (by simpa using hplan), List.map_cons,
        Dict.rows_set_of_notMem hid, List.append_assoc, List.singleton_append]

/-- The invoices under an id are those of an item with this id, for any items. -/
theorem foldl_addInvoicesOf_get? {acc : Int × Dict UUID (List InvoiceObject)} {id : UUID}
    {invoices : List InvoiceObject}
    (h : (items.foldl addInvoicesOf acc).2.get? id = some invoices) :
    acc.2.get? id = some invoices ∨
      ∃ item ∈ items, item.id = id ∧ invoices = item.creditInvoices := by
  induction items generalizing acc with
  | nil => exact .inl h
  | cons item items ih =>
    rcases @ih (addInvoicesOf acc item) h with hget | ⟨item', hitem', hid, hinvoices⟩
    · rw [addInvoicesOf_eq] at hget
      by_cases hplan : item.plan = []
      · rw [if_pos hplan] at hget
        exact .inl hget
      · -- the turn has put the invoices of its own item under the item's id
        rw [if_neg hplan, Dict.get?_set] at hget
        by_cases hid : id = item.id
        · rw [if_pos hid] at hget
          exact .inr ⟨item, List.mem_cons_self, hid.symm, (Option.some.inj hget).symm⟩
        · rw [if_neg hid] at hget
          exact .inl hget
    · exact .inr ⟨item', List.mem_cons_of_mem _ hitem', hid, hinvoices⟩

/-- The amount of the INITIAL invoice. -/
def initialAmount (items : List AvailableCheckoutItem) (creditIds : List UUID) : Int :=
  if creditIds = [] then (items.map AvailableCheckoutItem.fullPrice).sum
  else (items.map AvailableCheckoutItem.deposit).sum

/-- The items that are split: with any id chosen, those that have a plan. -/
def splitItems (items : List AvailableCheckoutItem) (creditIds : List UUID) :
    List AvailableCheckoutItem :=
  if creditIds = [] then [] else items.filter fun item => item.plan ≠ []

/-- Each item adds its deposit or its price to the INITIAL invoice. -/
theorem initialAmount_eq (items : List AvailableCheckoutItem) (creditIds : List UUID) :
    initialAmount items creditIds = (items.map fun item =>
      if creditIds ≠ [] ∧ item.plan ≠ [] then item.deposit else item.fullPrice).sum := by
  unfold initialAmount
  split
  · next hids => simp only [hids, ne_eq, not_true_eq_false, false_and, if_false]
  · next hids =>
    refine congrArg List.sum (List.map_congr_left fun item _ => ?_)
    by_cases hplan : item.plan = []
    · rw [if_neg fun h => h.2 hplan, item.deposit_of_plan_nil hplan]
    · rw [if_pos ⟨hids, hplan⟩]

/-- The mapping is the INITIAL invoice followed by lists of invoices under item ids, each the
CREDIT invoices of an item with this id. -/
theorem rows_makeOrderInvoicesObjects (items : List AvailableCheckoutItem)
    (creditIds : List UUID) :
    ∃ title, ∃ credit : Dict UUID (List InvoiceObject),
      (makeOrderInvoicesObjects items creditIds).rows =
          (.initial, .one (initialInvoice title (initialAmount items creditIds))) ::
            credit.rows.map (fun p => (.item p.1, .many p.2)) ∧
      (∀ p ∈ credit.rows, ∃ item ∈ items, item.id = p.1 ∧ p.2 = item.creditInvoices) ∧
      ((items.map (·.id)).Nodup →
        credit.rows = (splitItems items creditIds).map fun item =>
          (item.id, item.creditInvoices)) := by
  unfold makeOrderInvoicesObjects initialAmount splitItems
  by_cases hids : creditIds = []
  · simp only [if_pos hids]
    exact ⟨"Оплата заказа", .empty, Dict.rows_ofList (by simp),
      fun p hp => absurd hp List.not_mem_nil, fun _ => rfl⟩
  · simp only [if_neg hids]
    -- `'INITIAL'` is no item's id, and item ids are distinct keys
    have hkeys : ∀ (e : InvoiceEntry) (d : Dict UUID (List InvoiceObject)),
        ((((.initial, e) :: d.rows.map fun p => (.item p.1, .many p.2)) :
          List (InvoiceKey × InvoiceEntry)).map Prod.fst).Nodup := by
      intro e d
      rw [List.map_cons, List.map_map, List.nodup_cons]
      refine ⟨by simp, ?_⟩
      have hinj : Function.Injective InvoiceKey.item := fun _ _ h => InvoiceKey.item.inj h
      have hnodup := d.nodup.map hinj
      rwa [List.map_map] at hnodup
    have hitems : ∀ p ∈ (items.foldl addInvoicesOf (0, .empty)).2.rows,
        ∃ item ∈ items, item.id = p.1 ∧ p.2 = item.creditInvoices := fun p hp =>
      (foldl_addInvoicesOf_get? (Dict.get?_eq_some.mpr hp)).resolve_left (by simp)
    refine ⟨"Оплата депозита заказа", (items.foldl addInvoicesOf (0, .empty)).2, ?_,
      hitems, foldl_addInvoicesOf_rows (0, .empty)⟩
    have hsum : (items.foldl addInvoicesOf (0, .empty)).1 =
        (items.map AvailableCheckoutItem.deposit).sum :=
      (foldl_addInvoicesOf_fst (0, .empty)).trans (zero_add _)
    rw [← hsum]
    exact Dict.rows_ofList (hkeys _ _)

theorem rows_initial_cons (items : List AvailableCheckoutItem) (creditIds : List UUID) :
    ∃ title, ∃ credit : Dict UUID (List InvoiceObject),
      (makeOrderInvoicesObjects items creditIds).rows =
          (.initial, .one (initialInvoice title (initialAmount items creditIds))) ::
            credit.rows.map (fun p => (.item p.1, .many p.2)) ∧
      ((items.map (·.id)).Nodup →
        credit.rows = (splitItems items creditIds).map fun item =>
          (item.id, item.creditInvoices)) := by
  obtain ⟨title, credit, hrows, -, hcredit⟩ := rows_makeOrderInvoicesObjects items creditIds
  exact ⟨title, credit, hrows, hcredit⟩

/-- Under the id of an item are the CREDIT invoices of an item with this id. -/
theorem exists_creditInvoices_of_get? {id : UUID} {entry : InvoiceEntry}
    (h : (makeOrderInvoicesObjects items creditIds).get? (.item id) = some entry) :
    ∃ item ∈ items, item.id = id ∧ entry = .many item.creditInvoices := by
  obtain ⟨title, credit, hrows, hitems, -⟩ := rows_makeOrderInvoicesObjects items creditIds
  rw [Dict.get?_eq_some, hrows, List.mem_cons] at h
  rcases h with h | h
  · cases h
  · obtain ⟨p, hp, heq⟩ := List.mem_map.mp h
    cases heq
    obtain ⟨item, hitem, hid, hinvoices⟩ := hitems p hp
    exact ⟨item, hitem, hid, congrArg _ hinvoices⟩

/-- What the mapping holds under `'INITIAL'`, for any items. -/
theorem get?_initial (items : List AvailableCheckoutItem) (creditIds : List UUID) :
    ∃ title, (makeOrderInvoicesObjects items creditIds).get? .initial =
      some (.one (initialInvoice title (initialAmount items creditIds))) := by
  obtain ⟨title, credit, hrows, -⟩ := rows_initial_cons items creditIds
  exact ⟨title, Dict.get?_eq_some.mpr (by rw [hrows]; exact List.mem_cons_self)⟩

/-- What the mapping holds under the id of an item. -/
theorem get?_item (h : (items.map (·.id)).Nodup) (hitem : item ∈ items) :
    (makeOrderInvoicesObjects items creditIds).get? (.item item.id) =
      if creditIds ≠ [] ∧ item.plan ≠ [] then some (.many item.creditInvoices) else none := by
  obtain ⟨title, credit, hrows, hcredit⟩ := rows_initial_cons items creditIds
  -- an item is under its id exactly when it is split
  have hmem : ∀ entry, (InvoiceKey.item item.id, entry) ∈
      (makeOrderInvoicesObjects items creditIds).rows ↔
        (creditIds ≠ [] ∧ item.plan ≠ []) ∧ entry = .many item.creditInvoices := by
    intro entry
    rw [hrows, hcredit h, List.map_map, List.mem_cons]
    unfold splitItems
    refine ⟨?_, ?_⟩
    · rintro (heq | hin)
      · cases heq
      · obtain ⟨item', hin', heq⟩ := List.mem_map.mp hin
        by_cases hids : creditIds = []
        · rw [if_pos hids] at hin'
          cases hin'
        · rw [if_neg hids, List.mem_filter] at hin'
          obtain ⟨hin', hplan⟩ := hin'
          -- ids are pairwise distinct
          have hid : item'.id = item.id := InvoiceKey.item.inj (congrArg Prod.fst heq)
          obtain rfl : item' = item := List.inj_on_of_nodup_map h hin' hitem hid
          exact ⟨⟨hids, of_decide_eq_true hplan⟩, (congrArg Prod.snd heq).symm⟩
    · rintro ⟨⟨hids, hplan⟩, rfl⟩
      rw [if_neg hids]
      exact .inr (List.mem_map_of_mem (List.mem_filter.mpr ⟨hitem, decide_eq_true hplan⟩))
  split
  · next hsplit => exact Dict.get?_eq_some.mpr ((hmem _).mpr ⟨hsplit, rfl⟩)
  · next hsplit =>
    rw [Dict.get?_eq_none, Table.mem_keys]
    rintro ⟨⟨key, entry⟩, hrow, rfl⟩
    exact hsplit ((hmem entry).mp hrow).1

/-! ### All invoices -/

/-- The invoices of a value of the mapping. -/
def InvoiceEntry.toList : InvoiceEntry → List InvoiceObject
  | .one invoice => [invoice]
  | .many invoices => invoices

/-- All invoices of the mapping. -/
def invoiceObjects (invoices : Dict InvoiceKey InvoiceEntry) : List InvoiceObject :=
  invoices.values.flatMap InvoiceEntry.toList

/-- All invoices: the INITIAL one, then the CREDIT invoices of the items that are split. -/
theorem invoiceObjects_eq (creditIds : List UUID) (h : (items.map (·.id)).Nodup) :
    ∃ title, invoiceObjects (makeOrderInvoicesObjects items creditIds) =
      initialInvoice title (initialAmount items creditIds) ::
        (splitItems items creditIds).flatMap AvailableCheckoutItem.creditInvoices := by
  obtain ⟨title, credit, hrows, hcredit⟩ := rows_initial_cons items creditIds
  refine ⟨title, ?_⟩
  unfold invoiceObjects Dict.values
  rw [hrows, hcredit h, List.map_cons, List.flatMap_cons, List.map_map, List.map_map,
    List.flatMap_map]
  rfl

/-- A CREDIT invoice bills its part. -/
theorem amount_creditInvoices (item : AvailableCheckoutItem) :
    item.creditInvoices.map (·.amount) =
      item.plan.tail.map fun part => part.sum * item.quantity := by
  unfold AvailableCheckoutItem.creditInvoices
  calc ((item.plan.tail.zipIdx 1).map fun p => creditInvoice item p.2 p.1).map (·.amount)
      = ((item.plan.tail.zipIdx 1).map Prod.fst).map fun part => part.sum * item.quantity := by
        rw [List.map_map, List.map_map]
        rfl
    _ = item.plan.tail.map fun part => part.sum * item.quantity := by rw [List.zipIdx_map_fst]

/-- The deposit and the CREDIT invoices of a line with a plan make the whole plan. -/
theorem deposit_add_creditInvoices (h : item.plan ≠ []) :
    item.deposit + (item.creditInvoices.map (·.amount)).sum =
      item.quantity * (item.plan.map (·.sum)).sum := by
  rw [amount_creditInvoices]
  unfold AvailableCheckoutItem.deposit
  cases hplan : item.plan with
  | nil => exact absurd hplan h
  | cons part parts =>
    rw [List.tail_cons, List.sum_map_mul_right, List.map_cons, List.sum_cons]
    ring

/-- **The sum of all invoices**: the whole plan for the lines that are split and the price
for the others. -/
theorem sum_invoiceObjects (h : (items.map (·.id)).Nodup) :
    ((invoiceObjects (makeOrderInvoicesObjects items creditIds)).map (·.amount)).sum =
      (items.map fun item =>
        if creditIds ≠ [] ∧ item.plan ≠ [] then item.quantity * (item.plan.map (·.sum)).sum
        else item.fullPrice).sum := by
  obtain ⟨title, hobjects⟩ := invoiceObjects_eq creditIds h
  rw [hobjects, List.map_cons, List.sum_cons]
  change initialAmount items creditIds + _ = _
  unfold initialAmount splitItems
  by_cases hids : creditIds = []
  · simp [hids]
  · simp only [ne_eq, hids, not_false_eq_true, true_and, if_false]
    -- with any id chosen, item by item
    clear h hobjects
    induction items with
    | nil => rfl
    | cons item items ih =>
      by_cases hplan : item.plan = []
      · rw [List.filter_cons_of_neg (by simpa using hplan), List.map_cons, List.sum_cons,
          List.map_cons, List.sum_cons, ← ih, item.deposit_of_plan_nil hplan,
          if_neg (not_not.mpr hplan)]
        ring
      · rw [List.filter_cons_of_pos (by simpa using hplan), List.map_cons, List.sum_cons,
          List.map_cons, List.sum_cons, ← ih, if_pos hplan, ← deposit_add_creditInvoices hplan,
          List.flatMap_cons, List.map_append, List.sum_append]
        ring

/-! ### The instalment schedule -/

/-- The CREDIT invoices of an item are numbered from 1, one for each part after the first. -/
theorem creditPartIndex_creditInvoices (item : AvailableCheckoutItem) :
    item.creditInvoices.map (·.creditPartIndex) =
      (List.range' 1 (item.plan.length - 1)).map some := by
  unfold AvailableCheckoutItem.creditInvoices
  calc ((item.plan.tail.zipIdx 1).map fun p => creditInvoice item p.2 p.1).map (·.creditPartIndex)
      = ((item.plan.tail.zipIdx 1).map Prod.snd).map some := by
        rw [List.map_map, List.map_map]
        rfl
    _ = (List.range' 1 (item.plan.length - 1)).map some := by
        rw [List.zipIdx_map_snd, List.length_tail]

/-- What is summed over a list is summed over the two halves of a filter. -/
theorem sum_filter_add_sum_filter_not {α : Type} (p : α → Prop) [DecidablePred p] {f g h : α → Int}
    (hf : ∀ a, p a → h a = f a) (hg : ∀ a, ¬ p a → h a = g a) (l : List α) :
    ((l.filter fun a => p a).map f).sum + ((l.filter fun a => ¬ p a).map g).sum =
      (l.map h).sum := by
  induction l with
  | nil => rfl
  | cons a l ih =>
    rw [List.map_cons, List.sum_cons, ← ih]
    by_cases ha : p a
    · rw [List.filter_cons_of_pos (by simpa using ha), List.filter_cons_of_neg (by simpa using ha),
        List.map_cons, List.sum_cons, hf a ha]
      ring
    · rw [List.filter_cons_of_neg (by simpa using ha), List.filter_cons_of_pos (by simpa using ha),
        List.map_cons, List.sum_cons, hg a ha]
      ring

/-- A mapping that bills every part of every plan once, and the price of every item without
a plan. -/
structure Schedule (items : List AvailableCheckoutItem)
    (invoices : Dict InvoiceKey InvoiceEntry) : Prop where
  /-- The INITIAL invoice bills the first parts, and the items without a plan. -/
  initial : ∃ invoice, invoices.get? .initial = some (.one invoice) ∧ invoice.type = .initial ∧
    invoice.amount =
      ((items.filter fun item => item.plan ≠ []).map fun item =>
        item.quantity * (item.plan.headD ⟨0, ""⟩).sum).sum +
      ((items.filter fun item => ¬ item.plan ≠ []).map fun item => item.price * item.quantity).sum
  /-- The other `n - 1` parts of a plan are billed by CREDIT invoices, numbered from 1. -/
  credit : ∀ item ∈ items, item.plan ≠ [] → ∃ credit,
    invoices.get? (.item item.id) = some (.many credit) ∧
      (∀ invoice ∈ credit, invoice.type = .credit) ∧
      credit.map (·.creditPartIndex) = (List.range' 1 (item.plan.length - 1)).map some ∧
      credit.map (·.amount) = item.plan.tail.map fun part => item.quantity * part.sum
  keys : ∀ key ∈ invoices.keys,
    key = .initial ∨ ∃ item ∈ items, item.plan ≠ [] ∧ key = .item item.id
  total : ((invoiceObjects invoices).map (·.amount)).sum =
    (items.map fun item => item.quantity *
      if item.plan ≠ [] then (item.plan.map (·.sum)).sum else item.price).sum

/-- **The schedule loses and invents no money.** -/
theorem schedule_makeOrderInvoicesObjects (h : (items.map (·.id)).Nodup)
    (h_ids : creditIds ≠ []) : Schedule items (makeOrderInvoicesObjects items creditIds) := by
  refine ⟨?_, ?_, ?_, ?_⟩
  · -- the INITIAL invoice: deposits of what is split, the price of the rest
    obtain ⟨title, hinitial⟩ := get?_initial items creditIds
    refine ⟨_, hinitial, rfl, ?_⟩
    show initialAmount items creditIds = _
    unfold initialAmount
    rw [if_neg h_ids]
    refine (sum_filter_add_sum_filter_not _ (fun item hplan => ?_) (fun item hplan => ?_) _).symm
    · unfold AvailableCheckoutItem.deposit
      cases hparts : item.plan with
      | nil => exact absurd hparts hplan
      | cons part parts => exact mul_comm _ _
    · exact item.deposit_of_plan_nil (not_not.mp hplan)
  · -- the entry of an item with a plan: one invoice a part, in the order of the plan
    intro item hitem hplan
    refine ⟨_, (get?_item h hitem).trans (if_pos ⟨h_ids, hplan⟩), ?_,
      creditPartIndex_creditInvoices item, ?_⟩
    · intro invoice hinvoice
      obtain ⟨p, -, rfl⟩ := List.mem_map.mp hinvoice
      rfl
    · rw [amount_creditInvoices]
      exact List.map_congr_left fun part _ => mul_comm _ _
  · -- there are no other entries
    intro key hkey
    obtain ⟨title, credit, hrows, hcredit⟩ := rows_initial_cons items creditIds
    obtain ⟨p, hp, rfl⟩ := Table.mem_keys.mp hkey
    rw [hrows, hcredit h, List.map_map, List.mem_cons] at hp
    rcases hp with rfl | hp
    · exact .inl rfl
    · right
      obtain ⟨item, hitem, rfl⟩ := List.mem_map.mp hp
      unfold splitItems at hitem
      rw [if_neg h_ids, List.mem_filter, decide_eq_true_iff] at hitem
      exact ⟨item, hitem.1, hitem.2, rfl⟩
  · -- the total, item by item
    rw [sum_invoiceObjects h]
    refine congrArg List.sum (List.map_congr_left fun item _ => ?_)
    by_cases hplan : item.plan ≠ []
    · rw [if_pos ⟨h_ids, hplan⟩, if_pos hplan]
    · rw [if_neg fun hboth => hplan hboth.2, if_neg hplan]
      exact mul_comm _ _

end Builder

/-! ### Which items are sold by instalments -/

/-- The customer chose to pay the item by instalments and it has a plan for that. -/
def Chosen (creditIds : List UUID) (item : AvailableCheckoutItem) : Prop :=
  item.id ∈ creditIds ∧ item.plan ≠ []

instance (creditIds : List UUID) (item : AvailableCheckoutItem) :
    Decidable (Chosen creditIds item) := by
  unfold Chosen
  infer_instance

/-- Only the items the customer chose are sold by instalments. -/
structure SplitsChosen (items : List AvailableCheckoutItem) (creditIds : List UUID) : Prop where
  /-- The CREDIT invoices of a chosen item are those of its parts after the first; no other
  item has an entry. -/
  credit : ∀ item ∈ items, (makeOrderInvoicesObjects items creditIds).get? (.item item.id) =
    if Chosen creditIds item then some (.many item.creditInvoices) else none
  /-- The INITIAL invoice bills the first part of the chosen items and the price of the
  others. -/
  initial : ∃ title, (makeOrderInvoicesObjects items creditIds).get? .initial =
    some (.one (initialInvoice title (items.map fun item =>
      if Chosen creditIds item then item.deposit else item.fullPrice).sum))
  /-- The order lines flagged are those of the chosen items. -/
  by_credit : ∀ item ∈ items, byCredit creditIds item = true ↔ Chosen creditIds item
  /-- All invoices together bill the plan of the chosen items and the price of the others. -/
  total : ((invoiceObjects (makeOrderInvoicesObjects items creditIds)).map (·.amount)).sum =
    (items.map fun item =>
      if Chosen creditIds item then item.quantity * (item.plan.map (·.sum)).sum
      else item.fullPrice).sum

/-- **When only the chosen items are split**: when nothing is chosen, or when the chosen
items are exactly those with a credit plan. -/
theorem splitsChosen_iff {items : List AvailableCheckoutItem} {creditIds : List UUID}
    (h : (items.map (·.id)).Nodup) :
    SplitsChosen items creditIds ↔
      creditIds = [] ∨ ∀ item ∈ items, (item.id ∈ creditIds ↔ item.plan ≠ []) := by
  refine ⟨?_, ?_⟩
  · intro hsplits
    by_cases hids : creditIds = []
    · exact .inl hids
    · refine .inr fun item hitem => ⟨fun hmem => ?_, fun hplan => ?_⟩
      · -- a chosen item is flagged, so it has a plan
        exact ((hsplits.by_credit item hitem).mp (decide_eq_true hmem)).2
      · -- an item with a plan has an entry, so it is chosen
        have hentry := hsplits.credit item hitem
        rw [get?_item h hitem, if_pos ⟨hids, hplan⟩] at hentry
        by_contra hmem
        rw [if_neg fun hchosen => hmem hchosen.1] at hentry
        cases hentry
  · intro hcond
    -- under the condition an item is chosen exactly when the builder splits it
    have hchosen : ∀ item ∈ items, (Chosen creditIds item ↔ creditIds ≠ [] ∧ item.plan ≠ []) := by
      intro item hitem
      unfold Chosen
      rcases hcond with hids | hall
      · simp [hids]
      · refine ⟨?_, ?_⟩
        · exact fun hc => ⟨List.ne_nil_of_mem hc.1, hc.2⟩
        · exact fun hs => ⟨(hall item hitem).mpr hs.2, hs.2⟩
    -- the entries, the INITIAL invoice, the flags and the total
    refine ⟨?_, ?_, ?_, ?_⟩
    · intro item hitem
      rw [get?_item h hitem]
      simp only [hchosen item hitem]
    · obtain ⟨title, htitle⟩ := get?_initial items creditIds
      refine ⟨title, htitle.trans ?_⟩
      have hamount : initialAmount items creditIds = (items.map fun item =>
          if Chosen creditIds item then item.deposit else item.fullPrice).sum := by
        rw [initialAmount_eq]
        refine congrArg List.sum (List.map_congr_left fun item hitem => ?_)
        simp only [hchosen item hitem]
      rw [hamount]
    · intro item hitem
      rw [hchosen item hitem]
      unfold byCredit
      rw [decide_eq_true_iff]
      rcases hcond with hids | hall
      · simp [hids]
      · refine ⟨?_, ?_⟩
        · exact fun hmem => ⟨List.ne_nil_of_mem hmem, (hall item hitem).mp hmem⟩
        · exact fun hs => (hall item hitem).mpr hs.2
    · rw [sum_invoiceObjects h]
      refine congrArg List.sum (List.map_congr_left fun item hitem => ?_)
      simp only [hchosen item hitem]

/-- An item at 100 with a plan of two parts. -/
def planItem (id : UUID) : AvailableCheckoutItem where
  id := id
  quantity := 1
  preorderId := none
  price := 100
  title := "item"
  creditParts := some [⟨40, "2024-01-01"⟩, ⟨60, "2024-02-01"⟩]

/-- Two items with plans of two parts each. -/
theorem schedule_two_plans :
    Schedule [planItem 1, planItem 2]
      (makeOrderInvoicesObjects [planItem 1, planItem 2] [1]) :=
  schedule_makeOrderInvoicesObjects (by decide) (by decide)

/-- With one of two items with plans chosen, the other is split as well. -/
theorem unchosen_item_split : ¬ SplitsChosen [planItem 1, planItem 2] [1] := by
  intro hsplits
  have hentry := hsplits.credit (planItem 2) (by simp)
  rw [if_neg (by decide)] at hentry
  exact absurd hentry (by decide)

/-- With both items chosen, both are split. -/
theorem splitsChosen_both : SplitsChosen [planItem 1, planItem 2] [2, 1] :=
  (splitsChosen_iff (by decide)).mpr (.inr (by decide))

end Storefront
