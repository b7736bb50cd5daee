import Storefront.Catalog.PublicationViews
import Storefront.Library.Cache

/-!
# The cached catalog

`GET /market/catalog` (`transport/handlers/client/catalog/entrypoints.py`) is decorated with
`@cache(expire=3600, namespace='catalog', key_builder=query_params_key_builder)`. The key
(`integrations/redis/utils.py`) has the method and the path of a request and nothing else, and
nothing in the application removes an entry when the catalog is edited. The decorator and Redis
are those of `Library/Cache.lean`. The catalog is read in one step, as it is committed: the code
loads the items and what belongs to them with further SELECTs of the same transaction, and an edit
that commits between two of them is seen in part.

* `catalog_was_on_sale` — whatever is done to the catalog, and however requests overlap, every
  answer is what was on sale at a moment of the last hour and the time a request takes;
* `sold_out_still_shown` — it may be no longer.
-/

namespace Storefront

/-- What the decorator sees of a request. -/
structure CatalogRequest where
  method : String
  path : String
  query : String
  deriving DecidableEq, Repr

/-- `query_params_key_builder` -/
def queryParamsKeyBuilder (cacheNamespace : String) (request : CatalogRequest) : String :=
  ":".intercalate [cacheNamespace, request.method.toLower, request.path]

/-- `get_catalog_entrypoint`, on the catalog as it is committed. -/
def getCatalogEntrypoint (P : ListingPydantic) (l : Listing) : Except PyExc (List Publication) :=
  match (getPublications P).run (Ctx.start l () : Ctx Listing PublicationObject Unit) with
  | .ok views _ => .ok views
  | .error e _ => .error e

theorem getCatalogEntrypoint_eq_ok {P : ListingPydantic} {l : Listing} {views : List Publication} :
    getCatalogEntrypoint P l = .ok views ↔
      publicationViews P (l.publications.rows.map l.load) = .ok views := by
  have hrun : (getPublications P).run (Ctx.start l () : Ctx Listing PublicationObject Unit) =
      (liftExcept (publicationViews P (l.publications.rows.map l.load)) :
        EStateM PyExc (Ctx Listing PublicationObject Unit) _).run (Ctx.start l ()) :=
    run_bind_ok (Session.run_query_clean listingBackend _ (Ctx.clean_start l ()) _)
  unfold getCatalogEntrypoint
  rw [hrun, run_liftExcept]
  cases publicationViews P (l.publications.rows.map l.load) with
  | ok views' => exact ⟨fun h => h, fun h => h⟩
  | error e => exact iff_of_false nofun nofun

/-- The route with its cache. -/
def catalogCache (P : ListingPydantic) (redis : TtlStore String (List Publication)) :
    CachedRead String (List Publication) PyExc CatalogRequest Listing where
  toTtlStore := redis
  key := queryParamsKeyBuilder "catalog"
  answer := fun _ => getCatalogEntrypoint P
  expire := 3600
  answer_eq := fun _ _ _ _ => rfl

/-- A list of exactly the publications on sale, each with its active items. -/
def ListsOnSale (P : Pydantic) (l : Listing) (views : List Publication) : Prop :=
  List.Forall₂ (fun publication shown => shown.id = publication.row.id ∧
    shown.link = publication.row.link ∧
    List.Forall₂ (ShowsListedItem P) (publication.items.filter (·.row.isActive)) shown.items)
    l.onSale views

theorem listsOnSale_of_answer {P : ListingPydantic} {l : Listing} {views : List Publication}
    (h : getCatalogEntrypoint P l = .ok views) : ListsOnSale P.toPydantic l views := by
  have hviews := getCatalogEntrypoint_eq_ok.mp h
  rw [publicationViews_eq] at hviews
  have hloaded : ∀ publication ∈ l.onSale, ∃ row ∈ l.publications.rows,
      l.load row = publication := fun publication hmem =>
    List.mem_map.mp (List.mem_filter.mp hmem).1
  refine ((List.forall₂_and_left _ _).mpr ⟨hloaded, mapM_eq_ok_iff_forall₂.mp hviews⟩).imp ?_
  rintro publication shown ⟨⟨row, -, rfl⟩, hview⟩
  obtain ⟨hid, hlink, hitems, -⟩ := publicationView_eq_ok hview
  exact ⟨hid, hlink, hitems⟩

section Cached

variable {P : ListingPydantic} {redis : TtlStore String (List Publication)} {D now : Nat}
  {l : Listing} {s s' : CacheState (catalogCache P redis)} {r : CatalogRequest}
  {as : List (CacheAction (List Publication) CatalogRequest Listing)}
  {a : CacheAction (List Publication) CatalogRequest Listing} {views : List Publication}

/-- **The catalog that is answered was on sale within the last hour**, and the time `D` that a
request takes from its query to its answer: as it was at a moment, where the query sees one state
of the catalog. An answer from the cache is given when it is looked up, and an error is never
stored, by `CachedRead.Step.fail`. -/
theorem catalog_was_on_sale
    (h : Run ((catalogCache P redis).PromptStep D) ((catalogCache P redis).start now l) as s)
    (h_step : (catalogCache P redis).PromptStep D s a s') (h_answer : a.answer? = some (r, views)) :
    ∃ m, Moment ((catalogCache P redis).PromptStep D) ((catalogCache P redis).start now l) as s m ∧
      s.now ≤ m.now + D + 3600 ∧ getCatalogEntrypoint P m.world = .ok views ∧
      ListsOnSale P.toPydantic m.world views := by
  obtain ⟨m, hm, hlate, hanswer⟩ := CachedRead.answer_of_moment h h_step h_answer
  exact ⟨m, hm, hlate, hanswer, listsOnSale_of_answer hanswer⟩

end Cached

/-- The cache with the entries in a list. -/
abbrev sampleCache : CachedRead String (List Publication) PyExc CatalogRequest Listing :=
  catalogCache .strict (.entries String (List Publication))

/-- **What is no longer on sale is still shown** to a request with another query, a second before
the hour is over. -/
theorem sold_out_still_shown :
    ∃ as s views, Run (sampleCache.PromptStep 0) (sampleCache.start 0 (saleListing .stock)) as s ∧
      (∀ r, r.method = "GET" → r.path = "/api/market/catalog" →
        sampleCache.PromptStep 0 s (.hit r views) s) ∧
      s.world = sampleListing ∧ s.world.onSale = [] ∧ views ≠ [] ∧
      ∃ m, Moment (sampleCache.PromptStep 0) (sampleCache.start 0 (saleListing .stock)) as s m ∧
        s.now ≤ m.now + 0 + 3600 ∧ getCatalogEntrypoint .strict m.world = .ok views ∧
        ListsOnSale ListingPydantic.strict.toPydantic m.world views := by
  have hviews : ∃ views, getCatalogEntrypoint .strict (saleListing .stock) = .ok views ∧
      views ≠ [] := ⟨_, rfl, List.cons_ne_nil _ _⟩
  obtain ⟨views, hviews, hne⟩ := hviews
  let r : CatalogRequest := ⟨"GET", "/api/market/catalog", ""⟩
  have hnone : ∀ s : CacheState sampleCache, s.fetched = [] → ∀ a, sampleCache.Prompt 0 s a := by
    intro s hs a p hp
    rw [hs] at hp
    cases hp
  -- the catalog is cached, then sold out
  let soldOut : CacheState sampleCache :=
    ⟨3599, sampleListing, [(queryParamsKeyBuilder "catalog" r, views, 3600)], [], []⟩
  have hrun : Run (sampleCache.PromptStep 0) (sampleCache.start 0 (saleListing .stock))
      [.miss r, .fetch r, .finish r views true, .write sampleListing, .tick 3599] soldOut := by
    refine .cons ⟨hnone _ rfl _, .miss _ r⟩ ?_
    refine .cons ⟨hnone _ rfl _, .fetch _ [] [] r views rfl hviews⟩ ?_
    refine .cons ⟨?_, .finish _ [] [] r views 0 true rfl⟩ ?_
    · intro p hp
      rw [List.mem_singleton.mp hp]
      exact Nat.le_refl 0
    refine .cons ⟨hnone _ rfl _, .write _ sampleListing⟩ ?_
    have hlast : Run (sampleCache.PromptStep 0) _ [] soldOut := .nil soldOut
    exact .cons ⟨hnone _ rfl _, .tick _ 3599⟩ hlast
  have hhit : ∀ r, r.method = "GET" → r.path = "/api/market/catalog" →
      sampleCache.PromptStep 0 soldOut (.hit r views) soldOut := by
    rintro ⟨method, path, query⟩ rfl rfl
    have hentry : sampleCache.get soldOut.store (queryParamsKeyBuilder "catalog" r) 3599 =
        some views := by
      show Option.map _ (List.find? _ [(queryParamsKeyBuilder "catalog" r, views, 3600)]) = _
      rw [List.find?_cons_of_pos (by simp)]
      rfl
    exact ⟨hnone _ rfl _, .hit _ _ views hentry⟩
  exact ⟨_, _, views, hrun, hhit, rfl, rfl, hne, catalog_was_on_sale hrun (hhit r rfl rfl) rfl⟩

end Storefront
