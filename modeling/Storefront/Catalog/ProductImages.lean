import Storefront.Catalog.Products
import Storefront.FileManager.Images
import Storefront.Library.Run

/-!
# Products with their images

`create_product_entrypoint` (`transport/handlers/admin/catalog/entrypoints.py`) stores the product
of a form, uploads its images and adds their attachments, in this order and in one transaction. A
request that raises in between leaves the files it has uploaded in the bucket and nothing in the
database; nothing ever deletes a file.

The form is read first, by `parce_create_product_form` (`utils.py` there), which asks for what
`create_product` itself does not: all four physical properties of the product.

The bucket is shared: while a request uploads, others upload too. `Puts` is what is relied on of
`upload_file` then.

* `parceCreateProductForm_eq_ok` — what is read of a form is all that it holds;
* `productServed_cases` — what a request does;
* `uploaded_of_run` — images that were uploaded are in the bucket, each once for every
  breakpoint;
* `images_in_bucket` — in every run of requests, whatever fails in any of them, each attachment in
  the database is of an image that is in the bucket, under the keys that its url stands for, in
  all its sizes; a request that raises adds none.
-/

namespace Storefront

variable {Bytes Image : Type}

/-! ### The form -/

/-- The form of a product, with what its JSON texts hold: the numbers of the object that is
`physicalProperties`, and the groups of the list that is `filterGroups`, where they are such. Each
file comes with the id that is drawn for it. -/
structure CreateProductForm (Bytes : Type) where
  title : String
  description : Option String
  categoryLink : String
  physicalProperties : Option PhysicalPropertiesDTO
  filterGroups : Option (List FilterGroup)
  images : List (Bytes × UUID)

structure CreateProductSchema (Bytes : Type) where
  title : String
  description : Option String
  categoryLink : String
  physicalProperties : PhysicalProperties
  filterGroups : List FilterGroup
  images : List (Bytes × UUID)

/-- `parce_create_product_form` -/
def parceCreateProductForm (form : CreateProductForm Bytes) :
    Except PyExc (CreateProductSchema Bytes) :=
  let product : Except PyExc (CreateProductSchema Bytes) := do
    let physicalProperties ← physicalPropertiesView form.physicalProperties
    let filterGroups ← required form.filterGroups
    return {
      title := form.title
      description := form.description
      categoryLink := form.categoryLink
      physicalProperties
      filterGroups
      images := form.images }
  -- `raise RequestValidationError from e` calls the class without the errors it asks for
  product.mapError fun _ => .typeError

/-- `physical_properties.model_dump()` -/
def PhysicalProperties.dump (properties : PhysicalProperties) : PhysicalPropertiesDTO where
  length := some properties.length
  height := some properties.height
  width := some properties.width
  weight := some properties.weight

/-- `CreateProductDTO.model_validate(product)` -/
def createProductDTO (product : CreateProductSchema Bytes) : CreateProductDTO where
  title := product.title
  categoryLink := product.categoryLink
  description := product.description
  physicalProperties := some product.physicalProperties.dump
  filterGroups := product.filterGroups

/-- The form that a product is read from. -/
def CreateProductSchema.form (product : CreateProductSchema Bytes) : CreateProductForm Bytes where
  title := product.title
  description := product.description
  categoryLink := product.categoryLink
  physicalProperties := some product.physicalProperties.dump
  filterGroups := some product.filterGroups
  images := product.images

/-- The texts of the form hold what they are to hold, and the four properties are among it. -/
structure CreateProductForm.Complete (form : CreateProductForm Bytes) : Prop where
  properties : ∃ dto ∈ form.physicalProperties, dto.Complete
  filter_groups : form.filterGroups.isSome

section Form

variable {form : CreateProductForm Bytes} {product : CreateProductSchema Bytes}

theorem physicalPropertiesView_eq_ok {dto : Option PhysicalPropertiesDTO}
    {properties : PhysicalProperties} :
    physicalPropertiesView dto = .ok properties ↔ dto = some properties.dump := by
  cases dto with
  | none => exact iff_of_false nofun nofun
  | some dto =>
    unfold physicalPropertiesView
    simp only [except_bind_eq_ok, required_eq_ok, Option.some.injEq]
    refine ⟨?_, ?_⟩
    · rintro ⟨width, hwidth, height, hheight, length, hlength, weight, hweight, heq⟩
      cases heq
      unfold PhysicalProperties.dump
      rw [← hwidth, ← hheight, ← hlength, ← hweight]
    · rintro rfl
      exact ⟨_, rfl, _, rfl, _, rfl, _, rfl, rfl⟩

/-- **What is read of a form is all that it holds.** -/
theorem parceCreateProductForm_eq_ok :
    parceCreateProductForm form = .ok product ↔ form = product.form := by
  -- which error is raised does not matter here
  have hread : parceCreateProductForm form = .ok product ↔ (do
      let physicalProperties ← physicalPropertiesView form.physicalProperties
      let filterGroups ← required form.filterGroups
      return ⟨form.title, form.description, form.categoryLink, physicalProperties, filterGroups,
        form.images⟩) = (.ok product : Except PyExc _) := by
    unfold parceCreateProductForm
    cases physicalPropertiesView form.physicalProperties with
    | error e => exact iff_of_false nofun nofun
    | ok properties =>
      cases required form.filterGroups with
      | error e => exact iff_of_false nofun nofun
      | ok groups => rfl
  rw [hread]
  simp only [except_bind_eq_ok, physicalPropertiesView_eq_ok, required_eq_ok]
  obtain ⟨title, description, link, dto, groups, images⟩ := form
  refine ⟨?_, ?_⟩
  · -- what was read gives the form back
    rintro ⟨properties, hproperties, filters, hfilters, heq⟩
    cases heq
    unfold CreateProductSchema.form
    rw [← hproperties, ← hfilters]
  · rintro heq
    cases heq
    exact ⟨_, rfl, _, rfl, rfl⟩

/-- **When a form is read**: when it is complete. -/
theorem exists_parceCreateProductForm :
    (∃ product, parceCreateProductForm form = .ok product) ↔ form.Complete := by
  simp only [parceCreateProductForm_eq_ok]
  refine ⟨?_, ?_⟩
  · rintro ⟨product, rfl⟩
    exact ⟨⟨_, rfl, rfl, rfl, rfl, rfl⟩, rfl⟩
  · rintro ⟨⟨dto, hdto, hcomplete⟩, hgroups⟩
    obtain ⟨width, hwidth⟩ := Option.isSome_iff_exists.mp hcomplete.width
    obtain ⟨height, hheight⟩ := Option.isSome_iff_exists.mp hcomplete.height
    obtain ⟨length, hlength⟩ := Option.isSome_iff_exists.mp hcomplete.length
    obtain ⟨weight, hweight⟩ := Option.isSome_iff_exists.mp hcomplete.weight
    obtain ⟨groups, hgroups⟩ := Option.isSome_iff_exists.mp hgroups
    refine ⟨⟨form.title, form.description, form.categoryLink, ⟨width, height, length, weight⟩,
      groups, form.images⟩, ?_⟩
    unfold CreateProductSchema.form PhysicalProperties.dump
    rw [← hwidth, ← hheight, ← hlength, ← hweight, ← hgroups, ← Option.mem_def.mp hdto]

end Form

/-! ### The bucket -/

/-- The files in the bucket, by their keys. -/
abbrev Bucket (Bytes : Type) := String → Option Bytes

/-- `upload_file`, as a request sees it: a file that was uploaded is there, and other files stay,
whatever is uploaded by others meanwhile. -/
structure Puts (uploadFile : Bytes → String → EStateM PyExc (Bucket Bytes) Unit) : Prop where
  stored : ∀ file key s s', (uploadFile file key).run s = .ok () s' → s' key = some file
  kept : ∀ file key s key' file', key' ≠ key → s key' = some file' →
    endState ((uploadFile file key).run s) key' = some file'

/-- The key of the file for one breakpoint. -/
def variationKey (productId identifier : UUID) (breakpoint : String × ℕ) : String :=
  keyPrefix productId ++ "/" ++ variationName identifier.str breakpoint.1

/-- The files of an image are in the bucket, one for each breakpoint. -/
def HasVariations (P : Pillow Bytes Image) (productId identifier : UUID) (file : Bytes)
    (bucket : Bucket Bytes) : Prop :=
  ∃ img, P.openImage file = .ok img ∧ ∀ breakpoint ∈ IMAGE_SIZED_BREAKPOINTS,
    ∃ picture saved, sizedImage P img breakpoint.2 = .ok picture ∧
      P.saveWebp picture = .ok saved ∧
      bucket (variationKey productId identifier breakpoint) = some saved

/-- An image was uploaded as the attachment: its files are in the bucket. -/
structure Uploaded (P : Pillow Bytes Image) (publicUrl : String) (productId : UUID)
    (image : (Bytes × UUID) × ℕ) (attachment : Attachment) (bucket : Bucket Bytes) : Prop where
  attachment_eq : attachment = ⟨productId, .image, image.2,
    publicUrl ++ "/" ++ keyPrefix productId ++ "/" ++ image.1.2.str⟩
  files : HasVariations P productId image.1.2 image.1.1 bucket

section Keys

variable {productId identifier identifier' : UUID} {breakpoint breakpoint' : String × ℕ}

/-- The keys of different images are different. -/
theorem variationKey_ne (h : identifier ≠ identifier') :
    variationKey productId identifier breakpoint ≠
      variationKey productId identifier' breakpoint' := by
  intro heq
  have hname := (String.append_right_inj _).mp heq
  unfold variationName at hname
  have hlists := congrArg String.toList hname
  simp only [toString, String.toList_append, List.append_assoc] at hlists
  -- the two texts begin with the identifiers, which have one length
  have hlength : identifier.str.toList.length = identifier'.str.toList.length := by
    rw [String.length_toList, String.length_toList, UUID.length_str, UUID.length_str]
  have hstr := (List.append_inj hlists hlength).1
  exact h (UUID.str_injective (String.toList_injective hstr))

end Keys

/-! ### What is uploaded -/

section Upload

variable {P : Pillow Bytes Image}
  {uploadFile : Bytes → String → EStateM PyExc (Bucket Bytes) Unit} {publicUrl : String}
  {productId : UUID}

theorem identifierOr_str (drawn : UUID) : identifierOr drawn (some drawn.str) = drawn.str := by
  unfold identifierOr
  dsimp only
  split <;> rfl

/-- The files of an image that was compressed. -/
theorem rows_compressAndResize {drawn : UUID} {file : Bytes} {files : Dict String Bytes}
    (h : compressAndResize P drawn file (some drawn.str) = .ok files) :
    ∃ img, P.openImage file = .ok img ∧
      IMAGE_SIZED_BREAKPOINTS.mapM (compressVariation P img drawn.str) = .ok files.rows := by
  obtain ⟨img, hopen, -⟩ := except_bind_eq_ok.mp h
  obtain ⟨variations, hmap, rfl⟩ := (compressAndResize_eq_ok hopen).mp h
  rw [identifierOr_str] at hmap
  have hnames : variations.map Prod.fst =
      IMAGE_SIZED_BREAKPOINTS.map fun b => variationName drawn.str b.1 :=
    map_of_mapM_ok (fun breakpoint variation hok => by
      obtain ⟨_, _, _, _, rfl⟩ := compressVariation_eq_ok.mp hok
      rfl) hmap
  refine ⟨img, hopen, ?_⟩
  rw [Dict.rows_ofList (hnames ▸ nodup_variationNames _)]
  exact hmap

/-- A file that is not of the variation stays. -/
theorem kept_uploadVariation (h_puts : Puts uploadFile) {variation : String × Bytes} {key : String}
    (h : key ≠ keyPrefix productId ++ "/" ++ variation.1) {file : Bytes} {s : Bucket Bytes}
    (h_file : s key = some file) :
    endState ((uploadVariation uploadFile productId variation).run s) key = some file := by
  have hkept := h_puts.kept variation.2 _ s key file h h_file
  unfold uploadVariation
  rw [run_tryCatch]
  cases hrun : (uploadFile variation.2 (keyPrefix productId ++ "/" ++ variation.1)).run s with
  | ok u s' =>
    rw [hrun] at hkept
    exact hkept
  | error e s' =>
    rw [hrun] at hkept
    exact hkept

theorem uploadVariation_eq_ok (h_puts : Puts uploadFile) {variation : String × Bytes}
    {s s' : Bucket Bytes} {u : Unit}
    (h : (uploadVariation uploadFile productId variation).run s = .ok u s') :
    s' (keyPrefix productId ++ "/" ++ variation.1) = some variation.2 := by
  unfold uploadVariation at h
  rw [run_tryCatch] at h
  cases hrun : (uploadFile variation.2 (keyPrefix productId ++ "/" ++ variation.1)).run s with
  | ok u' s₁ =>
    rw [hrun] at h
    cases h
    exact h_puts.stored _ _ _ _ hrun
  | error e s₁ =>
    rw [hrun] at h
    cases h

/-- The upload of an image leaves the files that are not its own. -/
theorem kept_uploadProductImage (h_puts : Puts uploadFile) {image : (Bytes × UUID) × ℕ}
    {key : String} (h : ∀ b ∈ IMAGE_SIZED_BREAKPOINTS, key ≠ variationKey productId image.1.2 b)
    {file : Bytes} {s : Bucket Bytes} (h_file : s key = some file) :
    endState ((uploadProductImage P uploadFile publicUrl productId image).run s) key =
      some file := by
  unfold uploadProductImage
  dsimp only
  cases hcompress : compressAndResize P image.1.2 image.1.1 (some image.1.2.str) with
  | error e =>
    -- nothing is uploaded
    have hraised : (liftExcept (.error e) : EStateM PyExc (Bucket Bytes)
        (Dict String Bytes)).run s = .error e s := rfl
    rw [run_bind_error hraised]
    exact h_file
  | ok files =>
    obtain ⟨img, -, hmap⟩ := rows_compressAndResize hcompress
    have hother : ∀ variation ∈ files.rows, key ≠ keyPrefix productId ++ "/" ++ variation.1 := by
      intro variation hmem
      obtain ⟨breakpoint, hb, hok⟩ := exists_of_mem_mapM hmap hmem
      obtain ⟨_, _, _, _, rfl⟩ := compressVariation_eq_ok.mp hok
      exact h breakpoint hb
    rw [run_bind_ok (liftExcept_eq_ok.mpr ⟨rfl, rfl⟩), frame_bind (fun s => s) (fun _ _ => rfl)]
    exact endState_mapM_preserves (I := fun s : Bucket Bytes => s key = some file)
      (fun variation hmem _ hs => kept_uploadVariation h_puts (hother variation hmem) hs) h_file

/-- An image that was uploaded has its files in the bucket. -/
theorem uploadProductImage_eq_ok (h_puts : Puts uploadFile) {image : (Bytes × UUID) × ℕ}
    {s s' : Bucket Bytes} {attachment : Attachment}
    (h : (uploadProductImage P uploadFile publicUrl productId image).run s = .ok attachment s') :
    Uploaded P publicUrl productId image attachment s' := by
  unfold uploadProductImage at h
  dsimp only at h
  obtain ⟨files, s₁, hlift, hrest⟩ := bind_eq_ok.mp h
  obtain ⟨hcompress, rfl⟩ := liftExcept_eq_ok.mp hlift
  obtain ⟨us, s₂, hstored, hpure⟩ := bind_eq_ok.mp hrest
  cases hpure
  obtain ⟨img, hopen, hmap⟩ := rows_compressAndResize hcompress
  -- the names are distinct, so that each file stays when the others are uploaded
  have hnames : files.rows.Pairwise fun v v' => v.1 ≠ v'.1 := List.pairwise_map.mp files.nodup
  have hall : List.Forall₂ (fun variation _ =>
      s' (keyPrefix productId ++ "/" ++ variation.1) = some variation.2) files.rows us := by
    refine forall₂_of_run_mapM (Q := fun variation _ (s : Bucket Bytes) =>
      s (keyPrefix productId ++ "/" ++ variation.1) = some variation.2) ?_ ?_ hstored
    · intro variation _ s u s' hrun
      exact uploadVariation_eq_ok h_puts hrun
    · refine hnames.imp fun {v v'} hne _ s hs => kept_uploadVariation h_puts ?_ hs
      exact fun heq => hne ((String.append_right_inj _).mp heq)
  refine ⟨rfl, img, hopen, fun breakpoint hb => ?_⟩
  -- every breakpoint has its file
  obtain ⟨variation, hmem, hok⟩ := exists_of_mapM_ok hmap hb
  obtain ⟨picture, saved, hsized, hsave, rfl⟩ := compressVariation_eq_ok.mp hok
  obtain ⟨u, -, hfile⟩ := exists_mem_zip_of_forall₂ hall hmem
  exact ⟨picture, saved, hsized, hsave, hfile⟩

/-- A key is none of the images'. -/
def OtherKey (productId : UUID) (images : List (Bytes × UUID)) (key : String) : Prop :=
  ∀ image ∈ images, ∀ b ∈ IMAGE_SIZED_BREAKPOINTS, key ≠ variationKey productId image.2 b

theorem kept_uploadProductImages (h_puts : Puts uploadFile) {images : List (Bytes × UUID)}
    {key : String} (h : OtherKey productId images key) {file : Bytes} {s : Bucket Bytes}
    (h_file : s key = some file) :
    endState ((uploadProductImages P uploadFile publicUrl productId images).run s) key =
      some file := by
  have hkept : ∀ image ∈ images.zipIdx, ∀ s : Bucket Bytes, s key = some file →
      endState ((uploadProductImage P uploadFile publicUrl productId image).run s) key =
        some file := by
    intro image hmem s hs
    have hkeys := h image.1 (List.fst_mem_of_mem_zipIdx hmem)
    exact kept_uploadProductImage h_puts hkeys hs
  unfold uploadProductImages
  exact endState_mapM_preserves (I := fun s : Bucket Bytes => s key = some file) hkept h_file

/-- The files of an image stay when another image is uploaded. -/
theorem Uploaded.kept (h_puts : Puts uploadFile) {image image' : (Bytes × UUID) × ℕ}
    {attachment : Attachment} {s : Bucket Bytes}
    (h : Uploaded P publicUrl productId image attachment s) (h_ne : image.1.2 ≠ image'.1.2) :
    Uploaded P publicUrl productId image attachment
      (endState ((uploadProductImage P uploadFile publicUrl productId image').run s)) := by
  obtain ⟨heq, img, hopen, hfiles⟩ := h
  refine ⟨heq, img, hopen, fun breakpoint hb => ?_⟩
  obtain ⟨picture, saved, hsized, hsave, hfile⟩ := hfiles breakpoint hb
  exact ⟨picture, saved, hsized, hsave,
    kept_uploadProductImage h_puts (fun b _ => variationKey_ne h_ne) hfile⟩

/-- **Images that were uploaded are in the bucket**, with their attachments in order. -/
theorem uploaded_of_run (h_puts : Puts uploadFile) {images : List (Bytes × UUID)}
    (h_distinct : (images.map Prod.snd).Nodup) {s s' : Bucket Bytes}
    {attachments : List Attachment}
    (h : (uploadProductImages P uploadFile publicUrl productId images).run s =
      .ok attachments s') :
    List.Forall₂ (fun image attachment => Uploaded P publicUrl productId image attachment s')
      images.zipIdx attachments := by
  have hidentifiers : images.zipIdx.Pairwise fun a a' => a.1.2 ≠ a'.1.2 := by
    have hmap : images.zipIdx.map (fun a => a.1.2) = images.map Prod.snd := by
      conv_rhs => rw [← List.zipIdx_map_fst 0 images, List.map_map]
      rfl
    exact List.pairwise_map.mp (hmap ▸ h_distinct)
  unfold uploadProductImages at h
  refine forall₂_of_run_mapM (fun image _ s attachment s' hrun => ?_) ?_ h
  · exact uploadProductImage_eq_ok h_puts hrun
  · exact hidentifiers.imp fun hne attachment s hs => hs.kept h_puts hne

end Upload

/-! ### The tables -/

/-- An `AttachmentORM`. -/
structure AttachmentRow where
  productId : UUID
  type : AttachmentType
  index : ℕ
  url : String
  deriving DecidableEq, Repr

/-- The tables of products with that of their attachments. -/
structure AdminTables where
  products : ProductTables
  attachments : List AttachmentRow
  product_fk : ∀ row ∈ attachments, row.productId ∈ products.products.keys

/-- A product that is merged, or an attachment that is added. -/
inductive AdminWrite
  | mergeProduct (object : ProductObject)
  | insertAttachment (row : AttachmentRow)

/-- No product is lost by a merge. -/
theorem keys_products_of_merged {t t' : ProductTables} {object : ProductObject}
    (h : t.Merged object t') : t.products.keys ⊆ t'.products.keys := by
  rw [h.products]
  exact Table.keys_subset_mergeAll [object.product.copiedOnto (t.products.find? object.product.id)]

def AdminWrite.apply : AdminWrite → AdminTables → Except PyExc AdminTables
  | .mergeProduct object, t =>
    match h : t.products.mergeProduct object with
    | .ok products => .ok ⟨products, t.attachments, fun row hrow =>
        keys_products_of_merged (mergeProduct_merged h) (t.product_fk row hrow)⟩
    | .error e => .error e
  | .insertAttachment row, t =>
    if h : row.productId ∈ t.products.products.keys then
      .ok { t with
        attachments := t.attachments ++ [row]
        product_fk := List.forall_mem_append.mpr
          ⟨t.product_fk, List.forall_mem_singleton.mpr h⟩ }
    else .error (.integrityError PyExc.foreignKeyViolation)

/-- The database of the application, with the products and their attachments. -/
def adminBackend : Backend AdminTables AdminWrite PyExc where
  apply := AdminWrite.apply
  pendingRollback := .pendingRollbackError

/-- **Inversion of the writes of a request**: its product is merged, and its attachments are
added behind those that are there. -/
theorem applyAll_adminBackend {object : ProductObject} {rows : List AttachmentRow}
    {t t' : AdminTables}
    (h : adminBackend.applyAll (.mergeProduct object :: rows.map .insertAttachment) t = .ok t') :
    t.products.Merged object t'.products ∧ t'.attachments = t.attachments ++ rows := by
  -- the attachments are inserted one by one, by induction on their rows
  have hrows : ∀ (rows : List AttachmentRow) (t t' : AdminTables),
      adminBackend.applyAll (rows.map .insertAttachment) t = .ok t' →
        t'.products = t.products ∧ t'.attachments = t.attachments ++ rows := by
    intro rows
    induction rows with
    | nil =>
      intro t t' h
      cases h
      exact ⟨rfl, (List.append_nil _).symm⟩
    | cons row rows ih =>
      intro t t' h
      rw [List.map_cons, Backend.applyAll_cons] at h
      obtain ⟨t₁, hfirst, hrest⟩ := except_bind_eq_ok.mp h
      have hrow : t₁.products = t.products ∧ t₁.attachments = t.attachments ++ [row] := by
        replace hfirst : AdminWrite.apply (.insertAttachment row) t = .ok t₁ := hfirst
        simp only [AdminWrite.apply] at hfirst
        split at hfirst
        · cases hfirst
          exact ⟨rfl, rfl⟩
        · cases hfirst
      obtain ⟨hproducts, hattachments⟩ := ih t₁ t' hrest
      refine ⟨hproducts.trans hrow.1, ?_⟩
      rw [hattachments, hrow.2, List.append_assoc]
      rfl
  rw [Backend.applyAll_cons] at h
  obtain ⟨t₁, hfirst, hrest⟩ := except_bind_eq_ok.mp h
  obtain ⟨hproducts, hattachments⟩ := hrows rows t₁ t' hrest
  -- and before them the product is merged
  have hmerge : t.products.Merged object t₁.products ∧ t₁.attachments = t.attachments := by
    replace hfirst : AdminWrite.apply (.mergeProduct object) t = .ok t₁ := hfirst
    simp only [AdminWrite.apply] at hfirst
    split at hfirst
    · next products hmerge =>
      cases hfirst
      exact ⟨mergeProduct_merged hmerge, rfl⟩
    · cases hfirst
  rw [hproducts, hattachments, hmerge.2]
  exact ⟨hmerge.1, rfl⟩

/-! ### The requests -/

variable {σ : Type}

/-- `CatalogService.create_product`, in a database with more tables. -/
def createProductAs {Db W : Type} (B : Backend Db W PyExc) (tables : Db → ProductTables)
    (write : ProductObject → W) (drawn : ProductDraw) (productDto : CreateProductDTO) :
    EStateM PyExc (Ctx Db W σ) UUID := do
  let category ← Session.query B fun db => (tables db).getCategoryByLink productDto.categoryLink
  let category ← liftExcept (attributeOf category)
  let physicalProperties ← liftExcept (attributeOf productDto.physicalProperties)
  Session.add (write (productObject drawn productDto category physicalProperties))
  return drawn.productId

/-- It is the service's own when there are no more. -/
theorem createProductAs_id (drawn : ProductDraw) (productDto : CreateProductDTO) :
    (createProductAs productBackend id id drawn productDto :
      EStateM PyExc (Ctx ProductTables ProductObject σ) UUID) = createProduct drawn productDto :=
  rfl

/-- `AttachmentORM(…)` of an attachment. -/
def attachmentORM (attachment : Attachment) : AttachmentRow where
  productId := attachment.productId
  type := attachment.type
  index := attachment.index
  url := attachment.url

/-- `CatalogService.add_attachments_to_product` -/
def addAttachmentsToProduct (attachments : List Attachment) :
    EStateM PyExc (Ctx AdminTables AdminWrite σ) Unit :=
  forM ((attachments.map attachmentORM).map AdminWrite.insertAttachment) Session.add

/-- `create_product_entrypoint` -/
def createProductEntrypoint (P : Pillow Bytes Image)
    (uploadFile : Bytes → String → EStateM PyExc (Bucket Bytes) Unit) (publicUrl : String)
    (drawn : ProductDraw) (product : CreateProductSchema Bytes) :
    EStateM PyExc (Ctx AdminTables AdminWrite (Bucket Bytes)) UUID := do
  let productId ← createProductAs adminBackend AdminTables.products .mergeProduct drawn
    (createProductDTO product)
  let attachments ← inEnv (uploadProductImages P uploadFile publicUrl productId product.images)
  addAttachmentsToProduct attachments
  return productId

/-- A request: its form, the ids that are drawn for it, what happens in the bucket while it
uploads, and what goes wrong at its commit. -/
structure ProductRequest (Bytes : Type) where
  drawn : ProductDraw
  form : CreateProductForm Bytes
  uploadFile : Bytes → String → EStateM PyExc (Bucket Bytes) Unit
  fault : Option PyExc

/-- The committed tables and the bucket. -/
structure AdminWorld (Bytes : Type) where
  tables : AdminTables
  bucket : Bucket Bytes

/-- The endpoint, which depends on the form. -/
def handleProduct (P : Pillow Bytes Image) (publicUrl : String) (r : ProductRequest Bytes) :
    EStateM PyExc (Ctx AdminTables AdminWrite (Bucket Bytes)) UUID := do
  let product ← liftExcept (parceCreateProductForm r.form)
  createProductEntrypoint P r.uploadFile publicUrl r.drawn product

/-- `POST /admin/product`, in its transaction, which the router begins before the form is read. -/
def serveProduct (P : Pillow Bytes Image) (publicUrl : String) (w : AdminWorld Bytes)
    (r : ProductRequest Bytes) :
    EStateM.Result PyExc (Ctx AdminTables AdminWrite (Bucket Bytes)) UUID :=
  (initCtxDbSession adminBackend r.fault .post (handleProduct P publicUrl r)).run
    (Ctx.start w.tables w.bucket)

/-- The step relation of the requests. -/
def ProductServed (P : Pillow Bytes Image) (publicUrl : String) (w : AdminWorld Bytes)
    (r : ProductRequest Bytes) (w' : AdminWorld Bytes) : Prop :=
  w' = ⟨(endState (serveProduct P publicUrl w r)).committed,
    (endState (serveProduct P publicUrl w r)).env⟩

/-- The ids of the images are drawn anew: no two are the same, and the bucket has no file under
a key of one of them. -/
structure FreshImages (w : AdminWorld Bytes) (r : ProductRequest Bytes) : Prop where
  puts : Puts r.uploadFile
  distinct : (r.form.images.map Prod.snd).Nodup
  unused : ∀ image ∈ r.form.images, ∀ b ∈ IMAGE_SIZED_BREAKPOINTS,
    w.bucket (variationKey r.drawn.productId image.2 b) = none

/-- The attachment is of an image whose files are in the bucket: under the url of the attachment
with the name of the breakpoint there is the image, sized for the breakpoint, where the shorter
side is the exact quotient of `newSize` rather than a floating point one. -/
def InBucket (P : Pillow Bytes Image) (publicUrl : String) (bucket : Bucket Bytes)
    (row : AttachmentRow) : Prop :=
  row.type = .image ∧ ∃ file img, P.openImage file = .ok img ∧
    ∀ breakpoint ∈ IMAGE_SIZED_BREAKPOINTS, ∃ key picture saved,
      publicUrl ++ "/" ++ key = row.url ++ "_" ++ breakpoint.1 ++ ".webp" ∧
      sizedImage P img breakpoint.2 = .ok picture ∧ P.saveWebp picture = .ok saved ∧
      bucket key = some saved

section Served

variable {P : Pillow Bytes Image} {publicUrl : String} {w w' : AdminWorld Bytes}
  {r : ProductRequest Bytes}

/-- `upload_product_images` of a request. -/
def ProductRequest.uploads (P : Pillow Bytes Image) (publicUrl : String)
    (r : ProductRequest Bytes) : EStateM PyExc (Bucket Bytes) (List Attachment) :=
  uploadProductImages P r.uploadFile publicUrl r.drawn.productId r.form.images

/-- What is stored of a product. -/
def storedObject (drawn : ProductDraw) (product : CreateProductSchema Bytes)
    (category : ProductCategoryORM) : ProductObject :=
  productObject drawn (createProductDTO product) category product.physicalProperties.dump

/-- What the endpoint does: it raises before it uploads, or while it does, or it uploads the images
and leaves the product and its attachments to the commit. -/
theorem run_createProductEntrypoint_cases {t : AdminTables} {bucket : Bucket Bytes}
    {uploadFile : Bytes → String → EStateM PyExc (Bucket Bytes) Unit} {drawn : ProductDraw}
    {product : CreateProductSchema Bytes} :
    let uploads := uploadProductImages P uploadFile publicUrl drawn.productId product.images
    let handler := createProductEntrypoint P uploadFile publicUrl drawn product
    (∃ e, handler.run (Ctx.start t bucket) = .error e (Ctx.start t bucket)) ∨
    (∃ e session, handler.run (Ctx.start t bucket) =
      .error e ⟨t, session, endState (uploads.run bucket)⟩) ∨
    ∃ category attachments bucket',
      t.products.getCategoryByLink product.categoryLink = some category ∧
      uploads.run bucket = .ok attachments bucket' ∧
      handler.run (Ctx.start t bucket) = .ok drawn.productId
        ⟨t, ⟨t, .mergeProduct (storedObject drawn product category) ::
          (attachments.map attachmentORM).map .insertAttachment, false⟩, bucket'⟩ := by
  intro uploads handler
  have hquery : (Session.query adminBackend fun db : AdminTables =>
      db.products.getCategoryByLink product.categoryLink).run (Ctx.start t bucket) =
        .ok (t.products.getCategoryByLink product.categoryLink) (Ctx.start t bucket) :=
    Session.run_query_clean adminBackend _ (Ctx.clean_start t bucket) _
  cases hcategory : t.products.getCategoryByLink product.categoryLink with
  | none =>
    rw [hcategory] at hquery
    -- without a category its id is an attribute of None
    exact .inl ⟨.attributeError, run_bind_error (run_bind_ok hquery)⟩
  | some category =>
    right
    -- the product only waits for the commit
    have hcreated : (createProductAs adminBackend AdminTables.products .mergeProduct drawn
        (createProductDTO product)).run (Ctx.start t bucket) = .ok drawn.productId
          ⟨t, ⟨t, [.mergeProduct (storedObject drawn product category)], false⟩, bucket⟩ := by
      rw [hcategory] at hquery
      exact run_bind_ok hquery
    cases hupload : uploads.run bucket with
    | error e bucket' =>
      have hin : (inEnv uploads :
          EStateM PyExc (Ctx AdminTables AdminWrite (Bucket Bytes)) _).run
            ⟨t, ⟨t, [.mergeProduct (storedObject drawn product category)], false⟩, bucket⟩ =
          .error e
            ⟨t, ⟨t, [.mergeProduct (storedObject drawn product category)], false⟩, bucket'⟩ := by
        change inEnv _ _ = _
        unfold inEnv
        rw [hupload]
      -- what was uploaded before the failure is in the bucket, and the product is given up
      exact .inl ⟨e, _, (run_bind_ok hcreated).trans (run_bind_error hin)⟩
    | ok attachments bucket' =>
      have hin : (inEnv uploads :
          EStateM PyExc (Ctx AdminTables AdminWrite (Bucket Bytes)) _).run
            ⟨t, ⟨t, [.mergeProduct (storedObject drawn product category)], false⟩, bucket⟩ =
          .ok attachments
            ⟨t, ⟨t, [.mergeProduct (storedObject drawn product category)], false⟩, bucket'⟩ :=
        inEnv_eq_ok.mpr ⟨bucket', hupload, rfl⟩
      refine .inr ⟨category, attachments, bucket', rfl, rfl, ?_⟩
      exact (run_bind_ok hcreated).trans
        ((run_bind_ok hin).trans (run_bind_ok (Session.run_addAll _ _)))

/-- What comes of a request before its commit. -/
theorem run_handleProduct_cases {t : AdminTables} {bucket : Bucket Bytes} :
    (∃ e, (handleProduct P publicUrl r).run (Ctx.start t bucket) =
      .error e (Ctx.start t bucket)) ∨
    (∃ e session, (handleProduct P publicUrl r).run (Ctx.start t bucket) =
      .error e ⟨t, session, endState ((r.uploads P publicUrl).run bucket)⟩) ∨
    ∃ product category attachments bucket', r.form = product.form ∧
      t.products.getCategoryByLink product.categoryLink = some category ∧
      (r.uploads P publicUrl).run bucket = .ok attachments bucket' ∧
      (handleProduct P publicUrl r).run (Ctx.start t bucket) = .ok r.drawn.productId
        ⟨t, ⟨t, .mergeProduct (storedObject r.drawn product category) ::
          (attachments.map attachmentORM).map .insertAttachment, false⟩, bucket'⟩ := by
  cases hread : parceCreateProductForm r.form with
  | error e =>
    -- the form is refused
    have hraised : (liftExcept (parceCreateProductForm r.form) :
        EStateM PyExc (Ctx AdminTables AdminWrite (Bucket Bytes)) _).run (Ctx.start t bucket) =
          .error e (Ctx.start t bucket) := by
      rw [hread]
      rfl
    exact .inl ⟨e, run_bind_error hraised⟩
  | ok product =>
    have hrun : (handleProduct P publicUrl r).run (Ctx.start t bucket) =
        (createProductEntrypoint P r.uploadFile publicUrl r.drawn product).run
          (Ctx.start t bucket) := run_bind_ok (liftExcept_eq_ok.mpr ⟨hread, rfl⟩)
    have hform : r.form = product.form := parceCreateProductForm_eq_ok.mp hread
    have huploads : r.uploads P publicUrl =
        uploadProductImages P r.uploadFile publicUrl r.drawn.productId product.images := by
      unfold ProductRequest.uploads
      rw [hform]
      rfl
    -- the form is read, and the endpoint does the rest
    rw [hrun, huploads]
    have hcases := @run_createProductEntrypoint_cases _ _ P publicUrl t bucket r.uploadFile r.drawn
      product
    rcases hcases with
      herror | herror | ⟨category, attachments, bucket', hcategory, hupload, hok⟩
    · exact .inl herror
    · exact .inr (.inl herror)
    · exact .inr (.inr ⟨product, category, attachments, bucket', hform, hcategory, hupload, hok⟩)

/-- **What a request does**: it raises and changes no table, or its form is read, and it uploads
its images and commits its product with their attachments. -/
theorem productServed_cases (h : ProductServed P publicUrl w r w') :
    ((∃ e c, serveProduct P publicUrl w r = .error e c) ∧ w'.tables = w.tables ∧
      (w'.bucket = w.bucket ∨ w'.bucket = endState ((r.uploads P publicUrl).run w.bucket))) ∨
    ∃ product category attachments, r.form = product.form ∧
      w.tables.products.getCategoryByLink product.categoryLink = some category ∧
      (r.uploads P publicUrl).run w.bucket = .ok attachments w'.bucket ∧
      (∃ c, serveProduct P publicUrl w r = .ok r.drawn.productId c) ∧
      w.tables.products.Merged (storedObject r.drawn product category) w'.tables.products ∧
      w'.tables.attachments = w.tables.attachments ++ attachments.map attachmentORM := by
  obtain rfl : w' = ⟨(endState (serveProduct P publicUrl w r)).committed,
    (endState (serveProduct P publicUrl w r)).env⟩ := h
  unfold serveProduct
  rw [run_initCtxDbSession]
  rcases run_handleProduct_cases (P := P) (r := r) with
    ⟨e, hrun⟩ | ⟨e, session, hrun⟩ | ⟨product, category, attachments, bucket', hform, hcategory,
      hupload, hrun⟩
  -- the form is refused, or there is no such category
  · rw [hrun]
    exact .inl ⟨⟨_, _, rfl⟩, rfl, .inl rfl⟩
  -- an upload fails
  · rw [hrun]
    exact .inl ⟨⟨_, _, rfl⟩, rfl, .inr rfl⟩
  · rw [hrun]
    simp only [if_neg (show Method.post ≠ .get by decide)]
    rcases Session.run_commit_cases adminBackend _ r.fault with
      ⟨t', -, -, happly, hcommit⟩ | ⟨e, c', hcommit, hcommitted, henv⟩
    · rw [hcommit]
      obtain ⟨hmerged, hattachments⟩ := applyAll_adminBackend happly
      exact .inr ⟨product, category, attachments, hform, hcategory, hupload, ⟨_, rfl⟩, hmerged,
        hattachments⟩
    -- the commit fails, when everything has been uploaded
    · rw [hcommit]
      refine .inl ⟨⟨_, _, rfl⟩, hcommitted, .inr ?_⟩
      rw [hupload]
      exact henv

/-- **A form that is not complete is refused**: nothing is stored, and nothing uploaded. -/
theorem serveProduct_incomplete (h : ¬ r.form.Complete) :
    ∃ e c, serveProduct P publicUrl w r = .error e c ∧ c.committed = w.tables ∧
      c.env = w.bucket := by
  cases hform : parceCreateProductForm r.form with
  | ok product => exact absurd (exists_parceCreateProductForm.mp ⟨product, hform⟩) h
  | error e =>
    have hrun : (handleProduct P publicUrl r).run (Ctx.start w.tables w.bucket) =
        .error e (Ctx.start w.tables w.bucket) := by
      unfold handleProduct
      rw [hform]
      rfl
    unfold serveProduct
    rw [run_initCtxDbSession, hrun]
    exact ⟨_, _, rfl, rfl, rfl⟩

/-- A request whose images are drawn anew leaves the files of the others. -/
theorem kept_productServed (h_fresh : FreshImages w r) (h : ProductServed P publicUrl w r w')
    {key : String} {file : Bytes} (h_file : w.bucket key = some file) :
    w'.bucket key = some file := by
  -- a file that is there has none of the keys that are drawn now
  have hother : OtherKey r.drawn.productId r.form.images key := by
    rintro image himage b hb rfl
    rw [h_fresh.unused image himage b hb] at h_file
    cases h_file
  have hkept : endState ((r.uploads P publicUrl).run w.bucket) key = some file :=
    kept_uploadProductImages h_fresh.puts hother h_file
  rcases productServed_cases h with
    ⟨-, -, heq | heq⟩ | ⟨_, _, attachments, -, -, hupload, -⟩
  · rw [heq]
    exact h_file
  · rw [heq]
    exact hkept
  · rw [hupload] at hkept
    exact hkept

/-- An image that was uploaded is in the bucket under the url of its attachment. -/
theorem inBucket_of_uploaded {productId : UUID} {image : (Bytes × UUID) × ℕ}
    {attachment : Attachment} {bucket : Bucket Bytes}
    (h : Uploaded P publicUrl productId image attachment bucket) :
    InBucket P publicUrl bucket (attachmentORM attachment) := by
  obtain ⟨rfl, img, hopen, hfiles⟩ := h
  refine ⟨rfl, image.1.1, img, hopen, fun breakpoint hb => ?_⟩
  obtain ⟨picture, saved, hsized, hsave, hfile⟩ := hfiles breakpoint hb
  refine ⟨_, picture, saved, ?_, hsized, hsave, hfile⟩
  unfold variationKey variationName attachmentORM
  simp only [toString, String.append_assoc]

/-- **One request** keeps the attachments' images in the bucket, and adds those of its own. -/
theorem inBucket_step (h_fresh : FreshImages w r) (h : ProductServed P publicUrl w r w')
    (h_before : ∀ row ∈ w.tables.attachments, InBucket P publicUrl w.bucket row) :
    ∀ row ∈ w'.tables.attachments, InBucket P publicUrl w'.bucket row := by
  -- old attachments keep their files, whether or not this request succeeds
  have hold : ∀ row ∈ w.tables.attachments, InBucket P publicUrl w'.bucket row := by
    intro row hrow
    obtain ⟨htype, file, img, hopen, hfiles⟩ := h_before row hrow
    refine ⟨htype, file, img, hopen, fun breakpoint hb => ?_⟩
    obtain ⟨key, picture, saved, hurl, hsized, hsave, hfile⟩ := hfiles breakpoint hb
    exact ⟨key, picture, saved, hurl, hsized, hsave, kept_productServed h_fresh h hfile⟩
  rcases productServed_cases h with
    ⟨-, htables, -⟩ | ⟨_, _, attachments, -, -, hupload, -, -, hattachments⟩
  · rw [htables]
    exact hold
  · rw [hattachments]
    refine List.forall_mem_append.mpr ⟨hold, List.forall_mem_map.mpr fun attachment hmem => ?_⟩
    -- new attachments are of images whose upload came through
    have huploaded := uploaded_of_run h_fresh.puts h_fresh.distinct hupload
    obtain ⟨image, -, himage⟩ := exists_mem_zip_of_forall₂ huploaded.flip hmem
    exact inBucket_of_uploaded himage

/-- A request that raises changes no table. -/
theorem tables_of_error {e : PyExc} {c : Ctx AdminTables AdminWrite (Bucket Bytes)}
    (h : serveProduct P publicUrl w r = .error e c) (h_step : ProductServed P publicUrl w r w') :
    w'.tables = w.tables := by
  rcases productServed_cases h_step with ⟨-, htables, -⟩ | ⟨_, _, _, -, -, -, ⟨c', hok⟩, -⟩
  · exact htables
  · rw [hok] at h
    cases h

/-- **Every attachment in the database is of an image in the bucket.** So it is after any requests,
whatever fails in them and whatever others upload meanwhile, if it was before; and a request that
raises changes no table. -/
theorem images_in_bucket {w₀ : AdminWorld Bytes} {requests : List (ProductRequest Bytes)}
    (h₀ : ∀ row ∈ w₀.tables.attachments, InBucket P publicUrl w₀.bucket row)
    (h : Run (guarded FreshImages (ProductServed P publicUrl)) w₀ requests w) :
    (∀ row ∈ w.tables.attachments, InBucket P publicUrl w.bucket row) ∧
      ∀ r e c w', serveProduct P publicUrl w r = .error e c → ProductServed P publicUrl w r w' →
        w'.tables = w.tables := by
  refine ⟨?_, fun r e c w' herror hstep => tables_of_error herror hstep⟩
  exact h.invariant (I := fun w => ∀ row ∈ w.tables.attachments,
    InBucket P publicUrl w.bucket row) h₀ fun _ _ _ hI hs => inBucket_step hs.1 hs.2 hI

end Served

/-- A bucket that nobody else uploads to. -/
def putFile (file : ℕ × ℕ) (key : String) : EStateM PyExc (Bucket (ℕ × ℕ)) Unit :=
  modify fun bucket key' => if key' = key then some file else bucket key'

theorem puts_putFile : Puts putFile where
  stored file key s s' h := by
    cases h
    exact if_pos rfl
  kept file key s key' file' hne hfile := (if_neg hne).trans hfile

/-- No attachment, and an empty bucket. -/
def penWorld : AdminWorld (ℕ × ℕ) := ⟨⟨penTables, [], nofun⟩, fun _ => none⟩

/-- A form of a product with a stored filter and one image. -/
def penForm : CreateProductForm (ℕ × ℕ) where
  title := "Pencil"
  description := none
  categoryLink := "pens"
  physicalProperties := some ⟨some 1, some 2, some 3, some 4⟩
  filterGroups := some [⟨some 5, "Colour", [⟨some 6, "red"⟩]⟩]
  images := [((30, 20), 7)]

def penImageRequest : ProductRequest (ℕ × ℕ) where
  drawn := penDraw
  form := penForm
  uploadFile := putFile
  fault := none

theorem freshImages_pen : FreshImages penWorld penImageRequest where
  puts := puts_putFile
  distinct := List.nodup_singleton _
  unused _ _ _ _ := rfl

/-- The image of the request is in the bucket, and its attachment in the database. -/
theorem images_in_bucket_pen :
    ∃ w, Run (guarded FreshImages (ProductServed samplePillow "url")) penWorld [penImageRequest] w ∧
      w.tables.attachments ≠ [] ∧
      ∀ row ∈ w.tables.attachments, InBucket samplePillow "url" w.bucket row := by
  have hrun : Run (guarded FreshImages (ProductServed samplePillow "url")) penWorld
      [penImageRequest] _ := .cons ⟨freshImages_pen, rfl⟩ (.nil _)
  have hnone : ∀ row ∈ penWorld.tables.attachments,
      InBucket samplePillow "url" penWorld.bucket row := fun row hrow =>
    absurd hrow List.not_mem_nil
  refine ⟨_, hrun, ?_, (images_in_bucket hnone hrun).1⟩
  exact List.cons_ne_nil _ _

end Storefront
