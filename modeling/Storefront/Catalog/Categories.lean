import Storefront.Catalog.ProductList

/-!
# Categories

`create_category` and `get_categories` (`services/catalog/service.py`). Products name their
category by its link. Links and titles are unique, and no category is ever changed or removed, so
that a link that is found stays with its category.

* `categoryServed_cases` — a request stores its category behind the others, or changes nothing;
* `categories_listed` — what `get_categories` lists after a run of such requests;
* `productRows_withCategory` — and products are loaded as before.
-/

namespace Storefront

variable {σ : Type}

/-! ### The tables with one more category -/

/-- A category behind the others. -/
def ProductTables.withCategory (t : ProductTables) (category : ProductCategoryORM)
    (h_id : category.id ∉ t.categories.keys)
    (h_link : category.link ∉ t.categories.rows.map (·.link)) : ProductTables :=
  have h_keys : ∀ id ∈ t.categories.keys, id ∈ (t.categories.rows ++ [category]).map (·.id) :=
    fun id hid => by
      rw [List.map_append]
      exact List.mem_append_left _ hid
  { t with
    categories := ⟨t.categories.rows ++ [category], Table.nodup_append_row h_id⟩
    unique_link := by
      rw [List.map_append]
      refine t.unique_link.append (List.nodup_singleton _) fun link hlink hnew => h_link ?_
      rw [List.mem_singleton.mp hnew] at hlink
      exact hlink
    category_fk := fun group hgroup => h_keys _ (t.category_fk group hgroup)
    product_category_fk := fun product hproduct =>
      h_keys _ (t.product_category_fk product hproduct) }

/-- The same with the attachments of the products. -/
def AdminTables.withCategory (t : AdminTables) (category : ProductCategoryORM)
    (h_id : category.id ∉ t.products.categories.keys)
    (h_link : category.link ∉ t.products.categories.rows.map (·.link)) : AdminTables :=
  { t with products := t.products.withCategory category h_id h_link }

/-- The database of the application, with the categories that are added to it. -/
def categoryBackend : Backend AdminTables ProductCategoryORM PyExc where
  apply category t :=
    if h : category.id ∉ t.products.categories.keys ∧
        category.link ∉ t.products.categories.rows.map (·.link) ∧
        category.title ∉ t.products.categories.rows.map (·.title) then
      .ok (t.withCategory category h.1 h.2.1)
    else .error (.integrityError PyExc.uniqueViolation)
  pendingRollback := .pendingRollbackError

/-! ### The handlers -/

/-- The id that is drawn for a category, and the time. -/
structure CategoryDraw where
  categoryId : UUID
  now : Int

/-- `CreateCategoryRequestSchema` -/
structure CreateCategoryRequestSchema where
  title : String
  link : String

/-- `ProductCategoryORM(title=title, link=link)` -/
def categoryORM (drawn : CategoryDraw) (title link : String) : ProductCategoryORM where
  id := drawn.categoryId
  createdAt := drawn.now
  updatedAt := some drawn.now
  link
  title

/-- `CatalogService.create_category` -/
def createCategory (drawn : CategoryDraw) (title link : String) :
    EStateM PyExc (Ctx AdminTables ProductCategoryORM σ) UUID := do
  Session.add (categoryORM drawn title link)
  Session.flush categoryBackend
  return drawn.categoryId

/-- `CatalogService.get_categories` -/
def getCategories :
    EStateM PyExc (Ctx AdminTables ProductCategoryORM σ) (List CatalogCategory) := do
  let categories ← Session.query categoryBackend (·.products.categories.rows)
  return categories.map categoryView

/-- A request: what is drawn for it, what it asks for, and what goes wrong at its commit. -/
structure CategoryRequest where
  drawn : CategoryDraw
  category : CreateCategoryRequestSchema
  fault : Option PyExc

/-- `POST /admin/category`, in its transaction. -/
def serveCategory (t : AdminTables) (s : CategoryRequest) :
    EStateM.Result PyExc (Ctx AdminTables ProductCategoryORM Unit) UUID :=
  (initCtxDbSession categoryBackend s.fault .post
    (createCategory s.drawn s.category.title s.category.link)).run (Ctx.start t ())

/-- `get_categories` returns the views. -/
def ListsCategories (t : AdminTables) (views : List CatalogCategory) : Prop :=
  getCategories.run (Ctx.start t () : Ctx AdminTables ProductCategoryORM Unit) =
    .ok views (Ctx.start t ())

/-- The row of the category of a request. -/
def CategoryRequest.row (s : CategoryRequest) : ProductCategoryORM :=
  categoryORM s.drawn s.category.title s.category.link

/-! ### What they do -/

section Served

variable {t : AdminTables} {s : CategoryRequest}

theorem listsCategories_iff {views : List CatalogCategory} :
    ListsCategories t views ↔ views = t.products.categories.rows.map categoryView := by
  have hquery : (Session.query categoryBackend (·.products.categories.rows) :
      EStateM PyExc (Ctx AdminTables ProductCategoryORM Unit) _).run (Ctx.start t ()) =
        .ok t.products.categories.rows (Ctx.start t ()) :=
    Session.run_query_clean categoryBackend _ (Ctx.clean_start t ()) _
  unfold ListsCategories getCategories
  rw [run_bind_ok hquery]
  refine ⟨fun h => (EStateM.Result.ok.inj h).1.symm, ?_⟩
  rintro rfl
  rfl

/-- The handler stores its category in its transaction, or it raises. -/
theorem run_createCategory_cases :
    (∃ e c, (createCategory s.drawn s.category.title s.category.link).run
        (Ctx.start t () : Ctx AdminTables ProductCategoryORM Unit) = .error e c ∧
      c.committed = t) ∨
    ∃ h_id h_link, (createCategory s.drawn s.category.title s.category.link).run
        (Ctx.start t () : Ctx AdminTables ProductCategoryORM Unit) =
      .ok s.drawn.categoryId ⟨t, ⟨t.withCategory s.row h_id h_link, [], false⟩, ()⟩ := by
  let added : Ctx AdminTables ProductCategoryORM Unit := ⟨t, ⟨t, [s.row], false⟩, ()⟩
  have hadd : (Session.add s.row : EStateM PyExc _ Unit).run (Ctx.start t ()) =
    .ok () added := rfl
  unfold createCategory
  cases happly : categoryBackend.apply s.row t with
  | error e =>
    -- the flush raises what the constraints say
    have hflush : (Session.flush categoryBackend).run added =
        .error e { added with session := { added.session with broken := true } } :=
      Session.run_flush_error categoryBackend added rfl
        ((categoryBackend.applyAll_singleton s.row t).trans happly)
    exact .inl ⟨e, _, (run_bind_ok hadd).trans (run_bind_error hflush), rfl⟩
  | ok t' =>
    have hflush : (Session.flush categoryBackend).run added =
        .ok () { added with session := ⟨t', [], false⟩ } :=
      Session.run_flush_ok categoryBackend added rfl
        ((categoryBackend.applyAll_singleton s.row t).trans happly)
    -- links, titles and ids are unique, or the INSERT would have been refused
    have hrow : ∃ h_id h_link, t' = t.withCategory s.row h_id h_link := by
      unfold categoryBackend at happly
      dsimp only at happly
      split at happly
      · next h => exact ⟨h.1, h.2.1, (Except.ok.inj happly).symm⟩
      · cases happly
    obtain ⟨h_id, h_link, rfl⟩ := hrow
    exact .inr ⟨h_id, h_link, (run_bind_ok hadd).trans (run_bind_ok hflush)⟩

/-- **What a request does**: it raises and changes nothing, or it stores its category behind the
others. -/
theorem categoryServed_cases :
    (∃ e c, serveCategory t s = .error e c ∧ c.committed = t) ∨
    ∃ c h_id h_link, serveCategory t s = .ok s.drawn.categoryId c ∧
      c.committed = t.withCategory s.row h_id h_link := by
  unfold serveCategory
  rw [run_initCtxDbSession]
  rcases run_createCategory_cases (t := t) (s := s) with ⟨e, c, hrun, hc⟩ | ⟨h_id, h_link, hrun⟩
  · rw [hrun]
    exact .inl ⟨e, _, rfl, hc⟩
  · rw [hrun]
    simp only [if_neg (show Method.post ≠ .get by decide)]
    rcases Session.run_commit_cases categoryBackend _ s.fault with
      ⟨t', -, -, happly, hcommit⟩ | ⟨e, c', hcommit, hcommitted, -⟩
    · rw [hcommit]
      -- nothing is left to flush
      obtain rfl := Except.ok.inj happly
      exact .inr ⟨_, h_id, h_link, rfl, rfl⟩
    · rw [hcommit]
      exact .inl ⟨e, _, rfl, hcommitted⟩

end Served

/-- One request after another, whatever goes wrong in it. -/
def categoryStep (t : AdminTables) (s : CategoryRequest) (t' : AdminTables) : Prop :=
  t' = (endState (serveCategory t s)).committed

/-- **What is listed after a run**: the categories from before, and behind them those of some of the
requests, in their order, no link twice. -/
theorem categories_listed {t t' : AdminTables} {requests : List CategoryRequest}
    (h : Run categoryStep t requests t') {views : List CatalogCategory}
    (h_views : ListsCategories t views) :
    ∃ created : List CategoryRequest, created.Sublist requests ∧
      ListsCategories t' (views ++ created.map fun s => categoryView s.row) ∧
      ((views ++ created.map fun s => categoryView s.row).map (·.link)).Nodup := by
  -- a request adds a row behind the others, or none
  have hrows : ∃ created : List CategoryRequest, created.Sublist requests ∧
      t'.products.categories.rows = t.products.categories.rows ++
        created.map CategoryRequest.row := by
    refine h.history (I := fun requests t' => ∃ created : List CategoryRequest,
      created.Sublist requests ∧ t'.products.categories.rows =
        t.products.categories.rows ++ created.map CategoryRequest.row)
      ⟨[], .slnil, (List.append_nil _).symm⟩ ?_
    rintro before t₁ s t₂ ⟨created, hsublist, hbefore⟩ hstep
    obtain rfl : t₂ = _ := hstep
    rcases categoryServed_cases (t := t₁) (s := s) with
      ⟨e, c, hserve, hc⟩ | ⟨c, h_id, h_link, hserve, hc⟩
    · refine ⟨created, hsublist.trans (List.sublist_append_left _ _), ?_⟩
      rw [hserve, endState_error, hc]
      exact hbefore
    · refine ⟨created ++ [s], hsublist.append (List.Sublist.refl _), ?_⟩
      rw [hserve, endState_ok, hc, List.map_append, ← List.append_assoc, ← hbefore]
      rfl
  obtain ⟨created, hsublist, hrows⟩ := hrows
  -- and the list is made of the rows
  have hlisted : t'.products.categories.rows.map categoryView =
      views ++ created.map fun s => categoryView s.row := by
    rw [hrows, listsCategories_iff.mp h_views, List.map_append, List.map_map]
    rfl
  refine ⟨created, hsublist, listsCategories_iff.mpr hlisted.symm, ?_⟩
  rw [← hlisted, List.map_map]
  exact t'.products.unique_link

/-! ### What stays -/

section Kept

variable {t : AdminTables} {category : ProductCategoryORM}
  (h_id : category.id ∉ t.products.categories.keys)
  (h_link : category.link ∉ t.products.categories.rows.map (·.link))

/-- The rows of the tables of products, as publications load them. -/
def AdminTables.productRows (t : AdminTables) : List ProductRow :=
  t.loaded.loadAllProducts.map (·.toProductRow)

theorem AdminTables.mem_productRows {row : ProductRow} :
    row ∈ t.productRows ↔
      ∃ loaded, t.loaded.loadProduct row.id = some loaded ∧ loaded.toProductRow = row := by
  unfold AdminTables.productRows
  rw [List.mem_map]
  simp only [mem_loadAllProducts]
  refine ⟨?_, ?_⟩
  · rintro ⟨loaded, ⟨product, -, hload⟩, rfl⟩
    have hid : loaded.id = product.id := (id_of_loadProduct hload).1
    exact ⟨loaded, hid ▸ hload, rfl⟩
  · rintro ⟨loaded, hload, heq⟩
    obtain ⟨product, hproduct, hid⟩ := Table.mem_keys.mp (id_of_loadProduct hload).2
    exact ⟨loaded, ⟨product, hproduct, hid ▸ hload⟩, heq⟩

/-- A category that was there is found as before. -/
theorem find?_withCategory {id : UUID} (h : id ∈ t.products.categories.keys) :
    (t.withCategory category h_id h_link).products.categories.find? id =
      t.products.categories.find? id := by
  obtain ⟨stored, hstored, rfl⟩ := Table.mem_keys.mp h
  rw [Table.find?_of_mem hstored]
  exact Table.find?_of_mem (List.mem_append_left _ hstored)

/-- **Products are loaded as before** when a category is created. -/
theorem productRows_withCategory :
    (t.withCategory category h_id h_link).productRows = t.productRows := by
  have hload : ∀ product ∈ t.loaded.products.rows,
      (t.withCategory category h_id h_link).loaded.loadProduct product.id =
        t.loaded.loadProduct product.id := by
    intro product hproduct
    have hfound : (t.withCategory category h_id h_link).loaded.products.find? product.id =
      some product := Table.find?_of_mem hproduct
    -- the category of a stored product is an old one, so it is found as before
    have hcategory : (t.withCategory category h_id h_link).loaded.categories.find?
        product.categoryId = t.loaded.categories.find? product.categoryId :=
      find?_withCategory h_id h_link (t.loaded.product_category_fk product hproduct)
    unfold ProductTables.loadProduct
    rw [hfound, Table.find?_of_mem hproduct, Option.bind_eq_bind, Option.bind_some,
      Option.bind_eq_bind, Option.bind_some, hcategory]
    rfl
  exact congrArg (List.map _) (List.filterMap_congr hload)

end Kept

end Storefront
