import Storefront.Catalog.CreatedProducts

/-!
# The list of products

`get_product_list` (`services/catalog/service.py`) shows all products, and `get_product` shows
one. The list shows a product without physical properties; alone it is not shown. Neither shows a
product of whose properties one is missing, and then there is no list.

No product is ever changed or removed, so that one with a property missing would take the list away
for good. It is the form that keeps such products out.

* `getsProduct_iff_listed` — where there is a list, the two views agree;
* `product_list_shown_iff` — after any requests there is a list if and only if there was one before,
  and it has what was created in the meantime behind what it had.
-/

namespace Storefront

variable {σ Bytes Image : Type}

/-! ### `get_product_list` -/

/-- `CatalogRepository.get_all_products`, in the order in which the rows were inserted: they are
never updated. -/
def ProductTables.loadAllProducts (t : ProductTables) : List LoadedProduct :=
  t.products.rows.filterMap fun product => t.loadProduct product.id

/-- `ProductDetailed(…)` of a product, in `get_product_list`. A stored JSON has all four keys, so
that it passes for true. -/
def productListView (product : LoadedProduct) : Except PyExc ProductDetailed := do
  let physicalProperties ← product.physicalProperties.elim (.ok none) fun dto =>
    (physicalPropertiesView (some dto)).map some
  return {
    id := product.id
    createdAt := product.createdAt
    updatedAt := product.updatedAt
    title := product.title
    description := product.description
    category := categoryView product.category
    physicalProperties
    filterGroups := prepareFilterGroups product.filters
    images := getAttachmentUrlsByType product.attachments .image
    isPublished := product.catalogItems ≠ [] }

/-- `CatalogService.get_product_list` -/
def getProductList : EStateM PyExc (Ctx ProductTables ProductObject σ) (List ProductDetailed) := do
  let products ← Session.query productBackend (·.loadAllProducts)
  liftExcept (products.mapM productListView)

/-- `get_product_list` returns the views. -/
def ListsProducts (t : ProductTables) (views : List ProductDetailed) : Prop :=
  getProductList.run (Ctx.start t () : Ctx ProductTables ProductObject Unit) =
    .ok views (Ctx.start t ())

section Listed

variable {t : ProductTables} {views : List ProductDetailed}

theorem listsProducts_iff :
    ListsProducts t views ↔ t.loadAllProducts.mapM productListView = .ok views := by
  have hquery : (Session.query productBackend (·.loadAllProducts) :
      EStateM PyExc (Ctx ProductTables ProductObject Unit) _).run (Ctx.start t ()) =
        .ok t.loadAllProducts (Ctx.start t ()) :=
    Session.run_query_clean productBackend _ (Ctx.clean_start t ()) _
  unfold ListsProducts getProductList
  rw [run_bind_ok hquery, liftExcept_eq_ok]
  exact and_iff_left rfl

/-- Every stored product is loaded: the foreign key of its category resolves. -/
theorem exists_loadProduct {product : StoredProduct} (h : product ∈ t.products.rows) :
    ∃ loaded, t.loadProduct product.id = some loaded ∧ loaded.id = product.id ∧
      loaded.physicalProperties = product.physicalProperties := by
  obtain ⟨category, hcategory, hid⟩ := Table.mem_keys.mp (t.product_category_fk product h)
  unfold ProductTables.loadProduct
  rw [Table.find?_of_mem h, Option.bind_eq_bind, Option.bind_some, ← hid,
    Table.find?_of_mem hcategory]
  exact ⟨_, rfl, rfl, rfl⟩

theorem mem_loadAllProducts {loaded : LoadedProduct} :
    loaded ∈ t.loadAllProducts ↔ ∃ product ∈ t.products.rows,
      t.loadProduct product.id = some loaded := List.mem_filterMap

/-- A product is loaded by its id. -/
theorem id_of_loadProduct {productId : UUID} {loaded : LoadedProduct}
    (h : t.loadProduct productId = some loaded) :
    loaded.id = productId ∧ productId ∈ t.products.keys := by
  obtain ⟨product, hproduct, hrest⟩ := Option.bind_eq_some_iff.mp h
  obtain ⟨category, -, heq⟩ := Option.bind_eq_some_iff.mp hrest
  cases heq
  obtain ⟨hmem, rfl⟩ := Table.find?_eq_some.mp hproduct
  exact ⟨rfl, Table.mem_keys_of_mem hmem⟩

/-- No property is missing of a product that has any. -/
def NoneMissing (physicalProperties : Option PhysicalPropertiesDTO) : Prop :=
  ∀ dto ∈ physicalProperties, dto.Complete

theorem exists_productListView {product : LoadedProduct} :
    (∃ view, productListView product = .ok view) ↔ NoneMissing product.physicalProperties := by
  -- what there is of the properties is validated as for a product page
  have hproperties : ∀ dto : PhysicalPropertiesDTO,
      (∃ view, physicalPropertiesView (some dto) = .ok view) ↔ dto.Complete := by
    intro dto
    have hview : (∃ view, productView { product.toProductRow with
        physicalProperties := some dto } = .ok view) ↔ _ := exists_productView
    have hcomplete : ({ product.toProductRow with physicalProperties := some dto } :
        ProductRow).Complete ↔ dto.Complete :=
      ⟨fun ⟨_, hdto, h⟩ => Option.some.inj hdto ▸ h, fun h => ⟨dto, rfl, h⟩⟩
    rw [← hcomplete, ← hview]
    unfold productView
    exact exists_map_eq_ok.symm
  unfold productListView NoneMissing
  refine exists_map_eq_ok.trans ?_
  rw [exists_elim_eq_ok]
  simp only [exists_map_eq_ok, hproperties]

/-- **When there is a list**: no stored product has a property missing. -/
theorem exists_listsProducts :
    (∃ views, ListsProducts t views) ↔
      ∀ product ∈ t.products.rows, NoneMissing product.physicalProperties := by
  simp only [listsProducts_iff]
  rw [exists_mapM_eq_ok]
  simp only [exists_productListView]
  refine ⟨fun h product hproduct => ?_, fun h loaded hloaded => ?_⟩
  · obtain ⟨loaded, hload, -, hsame⟩ := exists_loadProduct hproduct
    rw [← hsame]
    exact h loaded (mem_loadAllProducts.mpr ⟨product, hproduct, hload⟩)
  · obtain ⟨product, hproduct, hload⟩ := mem_loadAllProducts.mp hloaded
    obtain ⟨loaded', hload', -, hsame⟩ := exists_loadProduct hproduct
    obtain rfl := Option.some.inj (hload.symm.trans hload')
    rw [hsame]
    exact h product hproduct

/-- The view of a product alone is that of the list, if it has physical properties. -/
theorem productDetailedView_iff {product : LoadedProduct} {view : ProductDetailed} :
    productDetailedView product = .ok view ↔
      productListView product = .ok view ∧ view.physicalProperties.isSome = true := by
  unfold productDetailedView productView productListView
  cases product.physicalProperties with
  -- the list shows such a product without them, the page does not show it
  | none =>
    refine iff_of_false nofun ?_
    rintro ⟨hview, hsome⟩
    cases hview
    cases hsome
  | some dto =>
    rw [Option.elim_some]
    cases physicalPropertiesView (some dto) with
    | error e => exact iff_of_false nofun (fun h => nomatch h.1)
    | ok properties =>
      refine ⟨fun h => ?_, fun h => ?_⟩
      · cases h
        exact ⟨rfl, rfl⟩
      · cases h.1
        rfl

/-- The view of a product in the list has its id. -/
theorem id_productListView {product : LoadedProduct} {view : ProductDetailed}
    (h : productListView product = .ok view) : view.id = product.id := by
  obtain ⟨properties, -, heq⟩ := except_bind_eq_ok.mp h
  cases heq
  rfl

/-- **The two views agree.** A product is shown alone exactly as in the list, where it has physical
properties there. -/
theorem getsProduct_iff_listed (h : ListsProducts t views) {productId : UUID}
    {view : ProductDetailed} :
    GetsProduct t productId view ↔
      view ∈ views ∧ view.id = productId ∧ view.physicalProperties.isSome = true := by
  rw [listsProducts_iff] at h
  rw [getsProduct_iff]
  refine ⟨?_, ?_⟩
  · -- the product page loads what the list loads under this id
    rintro ⟨loaded, hload, hview⟩
    obtain ⟨hlist, hsome⟩ := productDetailedView_iff.mp hview
    obtain ⟨hid, hkey⟩ := id_of_loadProduct hload
    obtain ⟨product, hproduct, rfl⟩ := Table.mem_keys.mp hkey
    obtain ⟨view', hmem, hview'⟩ :=
      exists_of_mapM_ok h (mem_loadAllProducts.mpr ⟨product, hproduct, hload⟩)
    obtain rfl := Except.ok.inj (hlist.symm.trans hview')
    exact ⟨hmem, (id_productListView hlist).trans hid, hsome⟩
  · rintro ⟨hmem, rfl, hsome⟩
    obtain ⟨loaded, hloaded, hview⟩ := exists_of_mem_mapM h hmem
    obtain ⟨product, hproduct, hload⟩ := mem_loadAllProducts.mp hloaded
    refine ⟨loaded, ?_, productDetailedView_iff.mpr ⟨hview, hsome⟩⟩
    rw [id_productListView hview, (id_of_loadProduct hload).1]
    exact hload

/-- The list has every stored product once, in stored order. -/
theorem ids_listsProducts (h : ListsProducts t views) : views.map (·.id) = t.products.keys := by
  rw [listsProducts_iff] at h
  rw [map_of_mapM_ok (fun _ _ => id_productListView) h]
  unfold ProductTables.loadAllProducts Table.keys
  rw [List.map_filterMap, ← List.filterMap_eq_map]
  refine List.filterMap_congr fun product hproduct => ?_
  obtain ⟨loaded, hload, hid, -⟩ := exists_loadProduct hproduct
  rw [hload]
  exact congrArg some hid

end Listed

/-! ### After any requests -/

/-- What a request is answered: the id of its product, or an error. -/
def productIdOf {S : Type} : EStateM.Result PyExc S UUID → Option UUID
  | .ok id _ => some id
  | .error _ _ => none

/-- The step relation of the requests with their answers. -/
def ProductAnswered (P : Pillow Bytes Image) (publicUrl : String) (w : AdminWorld Bytes)
    (event : ProductRequest Bytes × Option UUID) (w' : AdminWorld Bytes) : Prop :=
  ProductServed P publicUrl w event.1 w' ∧
    event.2 = productIdOf (serveProduct P publicUrl w event.1)

/-- The id that is drawn for the product is not in use. -/
def NewProduct (w : AdminWorld Bytes) (event : ProductRequest Bytes × Option UUID) : Prop :=
  event.1.drawn.productId ∉ w.tables.products.products.keys

section Answered

variable {P : Pillow Bytes Image} {publicUrl : String} {w w' : AdminWorld Bytes}
  {event : ProductRequest Bytes × Option UUID}

/-- No property is missing of a stored product. -/
def AllShown (t : AdminTables) : Prop :=
  ∀ product ∈ t.products.products.rows, NoneMissing product.physicalProperties

/-- There is a list of the products. -/
theorem exists_list_iff {t : AdminTables} :
    (∃ views, ListsProducts t.loaded views) ↔ AllShown t :=
  exists_listsProducts.trans List.forall_mem_map

/-- **One request** stores a product from a complete form behind the others, or none; the list is
shown as long as it was. -/
theorem allShown_step (h_new : NewProduct w event) (h : ProductAnswered P publicUrl w event w') :
    (AllShown w'.tables ↔ AllShown w.tables) ∧ (∀ id, event.2 = some id → event.1.form.Complete) ∧
      w'.tables.products.products.keys = w.tables.products.products.keys ++ event.2.toList := by
  obtain ⟨hserved, hanswer⟩ := h
  rcases productServed_cases hserved with
    ⟨⟨e, c, herror⟩, htables, -⟩ | ⟨product, category, attachments, hform, -, -, ⟨c, hok⟩,
      hmerged, -⟩
  -- a request that raises changes no table
  · rw [herror] at hanswer
    rw [htables, hanswer]
    exact ⟨.rfl, nofun, (List.append_nil _).symm⟩
  · rw [hok] at hanswer
    have hnew : (storedObject event.1.drawn product category).product.id ∉
      w.tables.products.products.keys := h_new
    have hproducts : w'.tables.products.products =
        w.tables.products.products.merge
          (storedObject event.1.drawn product category).product := by
      rw [hmerged.products, copiedOnto_find?_of_notMem hnew]
    refine ⟨?_, fun id _ => ?_, ?_⟩
    -- the new product has all its properties
    · have hmem : ∀ stored, stored ∈ w'.tables.products.products.rows ↔
          stored = (storedObject event.1.drawn product category).product ∨
            stored ∈ w.tables.products.products.rows := by
        intro stored
        rw [hproducts, Table.mem_merge]
        refine or_congr_right (and_iff_left_of_imp fun hold heq => hnew ?_)
        have hid : stored.id = (storedObject event.1.drawn product category).product.id := heq
        exact hid ▸ Table.mem_keys_of_mem hold
      have hcomplete : NoneMissing (some product.physicalProperties.dump) := by
        rintro dto hdto
        obtain rfl := Option.some.inj hdto
        exact ⟨rfl, rfl, rfl, rfl⟩
      unfold AllShown
      simp only [hmem, or_imp, forall_and, forall_eq]
      exact and_iff_right hcomplete
    · exact exists_parceCreateProductForm.mp ⟨product, parceCreateProductForm_eq_ok.mpr hform⟩
    · rw [hproducts, Table.keys_merge_of_notMem hnew, hanswer]
      rfl

/-- **The list of products stays.** After any requests, whatever fails in them, there is a list if
and only if there was one before: a request is answered with the id of its product only if its
form gave all four physical properties. Where there is a list it has the products that were there,
and behind them those that were created, in the order of the requests; and a product is shown
alone exactly as it is in the list, where it has physical properties. -/
theorem product_list_shown_iff {w₀ : AdminWorld Bytes}
    {events : List (ProductRequest Bytes × Option UUID)}
    (h : Run (guarded NewProduct (ProductAnswered P publicUrl)) w₀ events w) :
    ((∃ views, ListsProducts w.tables.loaded views) ↔
      ∃ views, ListsProducts w₀.tables.loaded views) ∧
    (∀ r id, (r, some id) ∈ events → r.form.Complete) ∧
    ∀ views, ListsProducts w.tables.loaded views →
      views.map (·.id) = w₀.tables.products.products.keys ++ events.filterMap Prod.snd ∧
      ∀ productId view, GetsProduct w.tables.loaded productId view ↔
        view ∈ views ∧ view.id = productId ∧ view.physicalProperties.isSome = true := by
  -- what the events so far have made of the list
  have hboth : (AllShown w.tables ↔ AllShown w₀.tables) ∧
      (∀ r id, (r, some id) ∈ events → r.form.Complete) ∧
      w.tables.products.products.keys =
        w₀.tables.products.products.keys ++ events.filterMap Prod.snd := by
    refine h.history (I := fun events w => (AllShown w.tables ↔ AllShown w₀.tables) ∧
      (∀ r id, (r, some id) ∈ events → r.form.Complete) ∧ w.tables.products.products.keys =
        w₀.tables.products.products.keys ++ events.filterMap Prod.snd) ?_ ?_
    · exact ⟨.rfl, fun _ _ hmem => absurd hmem List.not_mem_nil, (List.append_nil _).symm⟩
    · rintro events w event w' ⟨hlist, hcomplete, hkeys⟩ ⟨hnew, hstep⟩
      obtain ⟨hlist', hcomplete', hkeys'⟩ := allShown_step hnew hstep
      refine ⟨hlist'.trans hlist, fun r id hmem => ?_, ?_⟩
      · -- the event is an earlier one, or the last
        rcases List.mem_append.mp hmem with hold | hlast
        · exact hcomplete r id hold
        · obtain rfl := List.mem_singleton.mp hlast
          exact hcomplete' id rfl
      · have hlast : event.2.toList = [event].filterMap Prod.snd := by
          rw [List.filterMap_cons]
          cases event.2 <;> rfl
        rw [hkeys', hkeys, List.filterMap_append, List.append_assoc, hlast]
  obtain ⟨hlist, hcomplete, hkeys⟩ := hboth
  refine ⟨?_, hcomplete, fun views hviews => ⟨?_, fun productId view =>
    getsProduct_iff_listed hviews⟩⟩
  · rw [exists_list_iff, exists_list_iff]
    exact hlist
  · rw [ids_listsProducts hviews, ← hkeys]
    exact List.map_map

end Answered

/-- A pencil is refused without its weight, and with it put behind the pen. -/
theorem product_list_grows :
    ∃ w views, Run (guarded NewProduct (ProductAnswered samplePillow "url")) penWorld
        [(weightlessRequest, none), (pencilRequest, some 8)] w ∧
      ListsProducts w.tables.loaded views ∧ views.map (·.id) = [7, 8] := by
  have hrefused : guarded NewProduct (ProductAnswered samplePillow "url") penWorld
      (weightlessRequest, none) penWorld := ⟨penDraw_new.product, rfl, rfl⟩
  have hstored : guarded NewProduct (ProductAnswered samplePillow "url") penWorld
      (pencilRequest, some 8) _ := ⟨penDraw_new.product, rfl, rfl⟩
  have hrun := Run.cons hrefused (.cons hstored (.nil _))
  obtain ⟨hlist, -, hshown⟩ := product_list_shown_iff hrun
  obtain ⟨views, hviews⟩ := hlist.mpr ⟨_, rfl⟩
  exact ⟨_, views, hrun, hviews, (hshown views hviews).1⟩

end Storefront
