import Storefront.Database.Models
import Storefront.Errors
import Storefront.Library.Effect

/-!
# Uploaded images

`compress_and_resize` (`services/file_manager/utils.py`) saves a picture once for every
breakpoint, scaled down where its longer side is above it, and `upload_product_images` stores
what it returns. What they use of Pillow is `Pillow`.

The shorter side of a scaled picture is a truncated quotient (`newSize_eq`), which is 0 when
the longer side is more than the limit times the shorter one.

* `images_resized_iff` — a picture is saved right for a breakpoint if and only if its longer
  side is at most the limit, or at most the limit times the shorter side; images can be
  uploaded if and only if none is more than 40 times as long as wide;
* `narrow_image_rejected` — an image of 1 × 41 cannot be.
-/

namespace Storefront

variable {Bytes Image Storage : Type}

/-! ### The functions -/

/-- `IMAGE_SIZED_BREAKPOINTS` -/
def IMAGE_SIZED_BREAKPOINTS : List (String × ℕ) :=
  [("xs", 40), ("s", 96), ("m", 360), ("l", 630), ("xl", 1280)]

/-- Pillow, as far as the file manager uses it: `Image.open`, the two sides of an image,
`resize`, and `convert('RGB')` with `save` as WEBP. -/
structure Pillow (Bytes Image : Type) where
  openImage : Bytes → Except PyExc Image
  width : Image → ℕ
  height : Image → ℕ
  resize : Image → ℕ × ℕ → Except PyExc Image
  saveWebp : Image → Except PyExc Bytes

/-- `max_size` and `new_size`, with an exact quotient. The code truncates a floating point product,
which may be one pixel less: of a picture of 370 × 259 it makes 360 × 251, and not 360 × 252. -/
def newSize (width height sizeLimit : ℕ) : ℕ × (ℕ × ℕ) :=
  if width > height then
    let aspectRatio : ℚ := height / width
    (width, (sizeLimit, ⌊aspectRatio * sizeLimit⌋₊))
  else
    let aspectRatio : ℚ := width / height
    (height, (⌊aspectRatio * sizeLimit⌋₊, sizeLimit))

/-- The picture that is saved for one breakpoint. -/
def sizedImage (P : Pillow Bytes Image) (img : Image) (sizeLimit : ℕ) : Except PyExc Image :=
  let (maxSize, size) := newSize (P.width img) (P.height img) sizeLimit
  if maxSize > sizeLimit then P.resize img size else .ok img

/-- The name of the file for one breakpoint. -/
def variationName (fileIdentifier sizePostfix : String) : String :=
  s!"{fileIdentifier}_{sizePostfix}.webp"

/-- One turn of the loop of `compress_and_resize`. -/
def compressVariation (P : Pillow Bytes Image) (original : Image) (fileIdentifier : String)
    (breakpoint : String × ℕ) : Except PyExc (String × Bytes) := do
  let img ← sizedImage P original breakpoint.2
  let file ← P.saveWebp img
  return (variationName fileIdentifier breakpoint.1, file)

/-- `if not file_identifier: file_identifier = uuid4()` -/
def identifierOr (drawn : UUID) (fileIdentifier : Option String) : String :=
  match fileIdentifier with
  | some s => if s = "" then drawn.str else s
  | none => drawn.str

/-- `compress_and_resize`, with the id drawn for a file that comes without one. -/
def compressAndResize (P : Pillow Bytes Image) (drawn : UUID) (file : Bytes)
    (fileIdentifier : Option String) : Except PyExc (Dict String Bytes) := do
  let original ← P.openImage file
  let files ← IMAGE_SIZED_BREAKPOINTS.mapM
    (compressVariation P original (identifierOr drawn fileIdentifier))
  return Dict.ofList files

/-- `services/file_manager/models.py` -/
structure Attachment where
  productId : UUID
  type : AttachmentType
  index : ℕ
  url : String
  deriving DecidableEq, Repr

/-- `integrations/s3/errors.py` -/
def PyExc.s3UploadFileError : PyExc :=
  raised { name := "S3UploadFileError", message := some "Не удалось загрузить файл" } .serverError

/-- `key_prefix` -/
def keyPrefix (productId : UUID) : String :=
  let id := productId.str
  s!"products/{id}"

/-- `upload_file` of one variation; what it raises becomes a `S3UploadFileError`. -/
def uploadVariation (uploadFile : Bytes → String → EStateM PyExc Storage Unit)
    (productId : UUID) (variation : String × Bytes) : EStateM PyExc Storage Unit :=
  tryCatch (uploadFile variation.2 (keyPrefix productId ++ "/" ++ variation.1)) fun _ =>
    throw .s3UploadFileError

/-- One image of `upload_product_images`, with the id drawn for it. -/
def uploadProductImage (P : Pillow Bytes Image)
    (uploadFile : Bytes → String → EStateM PyExc Storage Unit) (publicUrl : String)
    (productId : UUID) (image : (Bytes × UUID) × ℕ) : EStateM PyExc Storage Attachment := do
  let imageIdentifier := image.1.2.str
  let imageVariations ← liftExcept (compressAndResize P image.1.2 image.1.1 (some imageIdentifier))
  let _ ← imageVariations.rows.mapM (uploadVariation uploadFile productId)
  return {
    productId
    url := publicUrl ++ "/" ++ keyPrefix productId ++ "/" ++ imageIdentifier
    type := .image
    index := image.2 }

/-- `FileManagerService.upload_product_images` -/
def uploadProductImages (P : Pillow Bytes Image)
    (uploadFile : Bytes → String → EStateM PyExc Storage Unit) (publicUrl : String)
    (productId : UUID) (images : List (Bytes × UUID)) :
    EStateM PyExc Storage (List Attachment) :=
  images.zipIdx.mapM (uploadProductImage P uploadFile publicUrl productId)

/-! ### What is relied on -/

/-- The documented behaviour of Pillow. A WEBP picture has sides of at most 16383 pixels. -/
structure Pillow.Documented (P : Pillow Bytes Image) : Prop where
  resize_ok : ∀ img w h, 0 < w → 0 < h →
    ∃ img', P.resize img (w, h) = .ok img' ∧ P.width img' = w ∧ P.height img' = h
  resize_zero : ∀ img w h, w = 0 ∨ h = 0 → ∃ e, P.resize img (w, h) = .error e
  save_ok : ∀ img, 0 < P.width img → P.width img ≤ 16383 → 0 < P.height img →
    P.height img ≤ 16383 → ∃ file, P.saveWebp img = .ok file

/-- The bytes are an image, which has two sides. -/
def Pillow.Opens (P : Pillow Bytes Image) (file : Bytes) (img : Image) : Prop :=
  P.openImage file = .ok img ∧ 0 < P.width img ∧ 0 < P.height img

/-- The storage accepts every file. -/
def AcceptsFiles (uploadFile : Bytes → String → EStateM PyExc Storage Unit) : Prop :=
  ∀ file key s, ∃ s', (uploadFile file key).run s = .ok () s'

/-! ### What is saved -/

namespace Pillow

/-- The longer side. -/
def longer (P : Pillow Bytes Image) (img : Image) : ℕ := max (P.width img) (P.height img)

/-- The shorter side. -/
def shorter (P : Pillow Bytes Image) (img : Image) : ℕ := min (P.width img) (P.height img)

end Pillow

/-- A picture is saved at its own size if no side is above the limit, and otherwise scaled, in
the same orientation, to the limit and a shorter side that is in proportion to it. -/
structure SizedRight (P : Pillow Bytes Image) (img : Image) (limit : ℕ) (picture : Image) :
    Prop where
  own : P.longer img ≤ limit → P.width picture = P.width img ∧ P.height picture = P.height img
  scaled : limit < P.longer img → ∃ s, 1 ≤ s ∧ s ≤ limit ∧
    (1 ≤ P.shorter img * limit / P.longer img → s = P.shorter img * limit / P.longer img) ∧
    (P.width picture, P.height picture) =
      if P.height img < P.width img then (limit, s) else (s, limit)
  not_enlarged : P.width picture ≤ P.width img ∧ P.height picture ≤ P.height img

/-- The image is sized right for the limit, and can be saved. -/
def ResizedRight (P : Pillow Bytes Image) (img : Image) (limit : ℕ) : Prop :=
  ∃ picture file, sizedImage P img limit = .ok picture ∧ P.saveWebp picture = .ok file ∧
    SizedRight P img limit picture

/-- There is one file for each breakpoint, with the image sized right for it. -/
def CompressedRight (P : Pillow Bytes Image) (img : Image) (files : Dict String Bytes) : Prop :=
  List.Forall₂ (fun breakpoint variation => ∃ picture, SizedRight P img breakpoint.2 picture ∧
    P.saveWebp picture = .ok variation.2) IMAGE_SIZED_BREAKPOINTS files.rows

/-- The longer side is at most the limit, or at most the limit times the shorter side. -/
def Fits (P : Pillow Bytes Image) (img : Image) (limit : ℕ) : Prop :=
  P.longer img ≤ limit ∨ P.longer img ≤ P.shorter img * limit

/-- The sides of a scaled picture, in whole numbers. -/
theorem newSize_eq (w h limit : ℕ) :
    newSize w h limit = (max w h, if h < w then (limit, min w h * limit / max w h)
      else (min w h * limit / max w h, limit)) := by
  have hfloor : ∀ a b : ℕ, ⌊(a / b : ℚ) * limit⌋₊ = a * limit / b := by
    intro a b
    rw [div_mul_eq_mul_div, ← Nat.cast_mul, Nat.floor_div_eq_div]
  unfold newSize
  simp only [hfloor]
  by_cases hlt : h < w
  · rw [if_pos hlt, if_pos hlt, max_eq_left hlt.le, min_eq_right hlt.le]
  · rw [if_neg hlt, if_neg hlt, max_eq_right (not_lt.mp hlt), min_eq_left (not_lt.mp hlt)]

section Sized

variable {P : Pillow Bytes Image} {img : Image} {limit : ℕ}

theorem sizedImage_eq (P : Pillow Bytes Image) (img : Image) (limit : ℕ) :
    sizedImage P img limit = if limit < P.longer img then
      P.resize img (if P.height img < P.width img then
          (limit, P.shorter img * limit / P.longer img)
        else (P.shorter img * limit / P.longer img, limit))
      else .ok img := by
  unfold sizedImage
  rw [newSize_eq]
  rfl

/-- **An image that fits is sized right.** -/
theorem sizedImage_of_fits (hP : P.Documented) (h_limit : 0 < limit) (h : Fits P img limit) :
    ∃ picture, sizedImage P img limit = .ok picture ∧ SizedRight P img limit picture := by
  rw [sizedImage_eq]
  by_cases hlt : limit < P.longer img
  · have hmul : P.longer img ≤ P.shorter img * limit := h.resolve_left (not_le.mpr hlt)
    -- the new shorter side is at least one pixel, and at most the limit
    have hpos : 1 ≤ P.shorter img * limit / P.longer img :=
      Nat.div_pos hmul (h_limit.trans hlt)
    have hle : P.shorter img * limit / P.longer img ≤ limit := by
      refine Nat.div_le_of_le_mul (Nat.mul_le_mul_right limit ?_)
      exact min_le_max
    -- the shorter side gets shorter too
    have hshrunk : P.shorter img * limit / P.longer img ≤ P.shorter img := by
      refine Nat.div_le_of_le_mul ?_
      rw [mul_comm]
      exact Nat.mul_le_mul_right _ hlt.le
    rw [if_pos hlt]
    by_cases horient : P.height img < P.width img
    · -- a landscape picture: the width becomes the limit
      rw [if_pos horient]
      obtain ⟨picture, hresize, hwidth, hheight⟩ := hP.resize_ok img _ _ h_limit hpos
      refine ⟨picture, hresize, fun hle => absurd hlt (not_lt.mpr hle), fun _ => ?_, ?_⟩
      · exact ⟨_, hpos, hle, fun _ => rfl, by rw [hwidth, hheight, if_pos horient]⟩
      · rw [hwidth, hheight]
        exact ⟨hlt.le.trans (max_eq_left horient.le).le,
          hshrunk.trans (min_eq_right horient.le).le⟩
    · -- a portrait or a square: the height does
      rw [if_neg horient]
      obtain ⟨picture, hresize, hwidth, hheight⟩ := hP.resize_ok img _ _ hpos h_limit
      refine ⟨picture, hresize, fun hle => absurd hlt (not_lt.mpr hle), fun _ => ?_, ?_⟩
      · exact ⟨_, hpos, hle, fun _ => rfl, by rw [hwidth, hheight, if_neg horient]⟩
      · rw [hwidth, hheight]
        exact ⟨hshrunk.trans (min_eq_left (not_lt.mp horient)).le,
          hlt.le.trans (max_eq_right (not_lt.mp horient)).le⟩
  · -- small enough already: nothing is resized
    rw [if_neg hlt]
    exact ⟨img, rfl, fun _ => ⟨rfl, rfl⟩, fun h => absurd h hlt, le_rfl, le_rfl⟩

/-- An image that does not fit is resized to a side of 0. -/
theorem sizedImage_of_not_fits (hP : P.Documented) (h : ¬ Fits P img limit) :
    ∃ e, sizedImage P img limit = .error e := by
  obtain ⟨hlonger, hmul⟩ := not_or.mp h
  have hzero : P.shorter img * limit / P.longer img = 0 := Nat.div_eq_of_lt (not_le.mp hmul)
  rw [sizedImage_eq, if_pos (not_le.mp hlonger), hzero]
  by_cases horient : P.height img < P.width img
  · rw [if_pos horient]
    exact hP.resize_zero img _ _ (.inr rfl)
  · rw [if_neg horient]
    exact hP.resize_zero img _ _ (.inl rfl)

/-- The sides of what is saved are positive and within the limit. -/
theorem SizedRight.sides {picture : Image} (h : SizedRight P img limit picture)
    (h_limit : 0 < limit) (h_width : 0 < P.width img) (h_height : 0 < P.height img) :
    0 < P.width picture ∧ P.width picture ≤ limit ∧
      0 < P.height picture ∧ P.height picture ≤ limit := by
  by_cases hle : P.longer img ≤ limit
  · obtain ⟨hwidth, hheight⟩ := h.own hle
    rw [hwidth, hheight]
    exact ⟨h_width, (le_max_left _ _).trans hle, h_height, (le_max_right _ _).trans hle⟩
  · obtain ⟨s, hpos, hs, -, hsides⟩ := h.scaled (not_le.mp hle)
    split at hsides
    · cases hsides
      exact ⟨h_limit, le_rfl, hpos, hs⟩
    · cases hsides
      exact ⟨hpos, hs, h_limit, le_rfl⟩

/-- Every breakpoint is at least the smallest one, and small enough for WEBP. -/
theorem breakpoint_bounds {breakpoint : String × ℕ} (h : breakpoint ∈ IMAGE_SIZED_BREAKPOINTS) :
    40 ≤ breakpoint.2 ∧ breakpoint.2 ≤ 16383 := by
  have hall : ∀ breakpoint ∈ IMAGE_SIZED_BREAKPOINTS, 40 ≤ breakpoint.2 ∧ breakpoint.2 ≤ 16383 := by
    decide
  exact hall breakpoint h

/-- **When a picture is saved right for a breakpoint.** -/
theorem resizedRight_iff (hP : P.Documented) (h_width : 0 < P.width img)
    (h_height : 0 < P.height img) {breakpoint : String × ℕ}
    (h : breakpoint ∈ IMAGE_SIZED_BREAKPOINTS) :
    ResizedRight P img breakpoint.2 ↔ Fits P img breakpoint.2 := by
  obtain ⟨hmin, hmax⟩ := breakpoint_bounds h
  have hpos : 0 < breakpoint.2 := by omega
  refine ⟨?_, ?_⟩
  · rintro ⟨picture, file, hsized, -, -⟩
    by_contra hnot
    obtain ⟨e, herror⟩ := sizedImage_of_not_fits hP hnot
    rw [herror] at hsized
    cases hsized
  · intro hfits
    obtain ⟨picture, hsized, hright⟩ := sizedImage_of_fits hP hpos hfits
    -- the limits of the breakpoints are those that WebP can save
    obtain ⟨hw, hw', hh, hh'⟩ := hright.sides hpos h_width h_height
    obtain ⟨file, hsave⟩ := hP.save_ok picture hw (hw'.trans hmax) hh (hh'.trans hmax)
    exact ⟨picture, file, hsized, hsave, hright⟩

/-- The smallest breakpoint decides. -/
theorem fits_all_iff (h_width : 0 < P.width img) (h_height : 0 < P.height img) :
    (∀ breakpoint ∈ IMAGE_SIZED_BREAKPOINTS, Fits P img breakpoint.2) ↔
      P.longer img ≤ 40 * P.shorter img := by
  have hshorter : 1 ≤ P.shorter img := le_min h_width h_height
  refine ⟨fun hall => ?_, fun hle breakpoint hb => .inr ?_⟩
  · rcases hall ("xs", 40) List.mem_cons_self with hsmall | hmul
    · exact hsmall.trans (Nat.le_mul_of_pos_right 40 hshorter)
    · exact mul_comm (P.shorter img) 40 ▸ hmul
  · rw [mul_comm] at hle
    exact hle.trans (Nat.mul_le_mul_left _ (breakpoint_bounds hb).1)

end Sized

/-! ### What is uploaded -/

/-- The files of one image have different names. -/
theorem nodup_variationNames (fileIdentifier : String) :
    (IMAGE_SIZED_BREAKPOINTS.map fun b => variationName fileIdentifier b.1).Nodup := by
  have hinjective : Function.Injective (variationName fileIdentifier) := by
    intro p q h
    unfold variationName at h
    exact (String.append_right_inj _).mp ((String.append_left_inj _).mp h)
  have hpostfixes : (IMAGE_SIZED_BREAKPOINTS.map Prod.fst).Nodup := by decide
  have hnames := hpostfixes.map hinjective
  rwa [List.map_map] at hnames

section Upload

variable {P : Pillow Bytes Image} {img : Image} {file : Bytes} {drawn : UUID}
  {fileIdentifier : Option String}

theorem compressVariation_eq_ok {identifier : String} {breakpoint : String × ℕ}
    {variation : String × Bytes} :
    compressVariation P img identifier breakpoint = .ok variation ↔
      ∃ picture saved, sizedImage P img breakpoint.2 = .ok picture ∧
        P.saveWebp picture = .ok saved ∧
          variation = (variationName identifier breakpoint.1, saved) := by
  unfold compressVariation
  simp only [except_bind_eq_ok, pure, Except.pure, Except.ok.injEq, exists_and_left]
  refine exists_congr fun picture => and_congr_right fun _ => ?_
  exact exists_congr fun saved => and_congr_right fun _ => eq_comm

theorem compressAndResize_eq_ok (h_open : P.openImage file = .ok img) {files : Dict String Bytes} :
    compressAndResize P drawn file fileIdentifier = .ok files ↔
      ∃ variations, IMAGE_SIZED_BREAKPOINTS.mapM
        (compressVariation P img (identifierOr drawn fileIdentifier)) = .ok variations ∧
          Dict.ofList variations = files := by
  unfold compressAndResize
  rw [h_open, except_bind_eq_ok]
  simp only [except_bind_eq_ok, pure, Except.pure, Except.ok.injEq]
  exact ⟨fun ⟨_, himg, h⟩ => himg ▸ h, fun h => ⟨img, rfl, h⟩⟩

/-- What is returned for an image has it sized right. -/
theorem compressAndResize_right (hP : P.Documented) (h_open : P.Opens file img)
    {files : Dict String Bytes} (h : compressAndResize P drawn file fileIdentifier = .ok files) :
    CompressedRight P img files ∧
      ∀ breakpoint ∈ IMAGE_SIZED_BREAKPOINTS, Fits P img breakpoint.2 := by
  obtain ⟨variations, hmap, rfl⟩ := (compressAndResize_eq_ok h_open.1).mp h
  -- the names are distinct, so that no file is overwritten
  have hnames := map_of_mapM_ok (g := Prod.fst) (fun breakpoint variation hok => by
    obtain ⟨_, _, _, _, rfl⟩ := compressVariation_eq_ok.mp hok
    rfl) hmap
  unfold CompressedRight
  rw [Dict.rows_ofList (hnames ▸ nodup_variationNames _)]
  -- all variations were made, so none of the sizes was rounded down to zero
  have hfits : ∀ breakpoint ∈ IMAGE_SIZED_BREAKPOINTS, Fits P img breakpoint.2 := by
    intro breakpoint hb
    obtain ⟨variation, -, hok⟩ := exists_of_mapM_ok hmap hb
    obtain ⟨picture, saved, hsized, -, -⟩ := compressVariation_eq_ok.mp hok
    by_contra hnot
    obtain ⟨e, herror⟩ := sizedImage_of_not_fits hP hnot
    rw [herror] at hsized
    cases hsized
  refine ⟨?_, hfits⟩
  have hboth := (List.forall₂_and_left _ _).mpr ⟨fun b hb => hb, mapM_eq_ok_iff_forall₂.mp hmap⟩
  refine hboth.imp ?_
  rintro breakpoint variation ⟨hb, hok⟩
  obtain ⟨picture, saved, hsized, hsave, rfl⟩ := compressVariation_eq_ok.mp hok
  have hpos : 0 < breakpoint.2 := (by decide : 0 < 40).trans_le (breakpoint_bounds hb).1
  obtain ⟨picture', hsized', hright⟩ := sizedImage_of_fits hP hpos (hfits breakpoint hb)
  obtain rfl := Except.ok.inj (hsized.symm.trans hsized')
  exact ⟨picture, hright, hsave⟩

/-- **When an image can be compressed**, and then it is sized right for every breakpoint. -/
theorem exists_compressAndResize_iff (hP : P.Documented) (h_open : P.Opens file img) :
    (∃ files, compressAndResize P drawn file fileIdentifier = .ok files) ↔
      P.longer img ≤ 40 * P.shorter img := by
  obtain ⟨hopen, hwidth, hheight⟩ := h_open
  rw [← fits_all_iff hwidth hheight]
  refine ⟨?_, ?_⟩
  · rintro ⟨files, h⟩
    exact (compressAndResize_right hP ⟨hopen, hwidth, hheight⟩ h).2
  · intro hfits
    -- no variation fails
    have hsaved : ∀ breakpoint ∈ IMAGE_SIZED_BREAKPOINTS, ∃ variation,
        compressVariation P img (identifierOr drawn fileIdentifier) breakpoint =
          .ok variation := by
      intro breakpoint hb
      obtain ⟨picture, saved, hsized, hsave, -⟩ :=
        (resizedRight_iff hP hwidth hheight hb).mpr (hfits breakpoint hb)
      exact ⟨_, compressVariation_eq_ok.mpr ⟨picture, saved, hsized, hsave, rfl⟩⟩
    obtain ⟨variations, hmap⟩ := exists_mapM_eq_ok.mpr hsaved
    exact ⟨_, (compressAndResize_eq_ok hopen).mpr ⟨variations, hmap, rfl⟩⟩

/-- An image is uploaded exactly when it can be compressed. -/
theorem run_uploadProductImage_iff {uploadFile : Bytes → String → EStateM PyExc Storage Unit}
    (h_accepts : AcceptsFiles uploadFile) {publicUrl : String} {productId : UUID} {index : ℕ}
    (s : Storage) :
    (∃ attachment s', (uploadProductImage P uploadFile publicUrl productId
      ((file, drawn), index)).run s = .ok attachment s') ↔
        ∃ files, compressAndResize P drawn file (some drawn.str) = .ok files := by
  unfold uploadProductImage
  simp only [bind_eq_ok, liftExcept_eq_ok]
  refine ⟨?_, ?_⟩
  · rintro ⟨_, _, files, _, ⟨hfiles, -⟩, -⟩
    exact ⟨files, hfiles⟩
  · rintro ⟨files, hfiles⟩
    -- the bucket takes every file, so only the compression can fail
    have hstored : ∀ variation ∈ files.rows, ∀ s : Storage,
        (∃ u s', (uploadVariation uploadFile productId variation).run s = .ok u s') ↔ True := by
      intro variation _ s
      obtain ⟨s', hupload⟩ := h_accepts variation.2 (keyPrefix productId ++ "/" ++ variation.1) s
      unfold uploadVariation
      rw [run_tryCatch, hupload]
      exact iff_of_true ⟨(), s', rfl⟩ trivial
    obtain ⟨us, s', hall⟩ := (exists_run_mapM_eq_ok hstored s).mpr fun _ _ => trivial
    exact ⟨_, s', files, s, ⟨hfiles, rfl⟩, us, s', hall, rfl⟩

end Upload

/-- **Which images can be resized.** A picture is saved right for a breakpoint if and only if its
longer side is at most the limit, or at most the limit times the shorter side; for all
breakpoints, if and only if it is at most 40 times the shorter side. A list of images can be
uploaded if and only if this holds of each. -/
theorem images_resized_iff {P : Pillow Bytes Image} (hP : P.Documented)
    {uploadFile : Bytes → String → EStateM PyExc Storage Unit}
    (h_accepts : AcceptsFiles uploadFile) (publicUrl : String) (productId : UUID) :
    (∀ img, 0 < P.width img → 0 < P.height img → ∀ breakpoint ∈ IMAGE_SIZED_BREAKPOINTS,
      (ResizedRight P img breakpoint.2 ↔
        P.longer img ≤ breakpoint.2 ∨ P.longer img ≤ P.shorter img * breakpoint.2)) ∧
    (∀ drawn file fileIdentifier img, P.Opens file img →
      ((∃ files, compressAndResize P drawn file fileIdentifier = .ok files ∧
          CompressedRight P img files) ↔
        P.longer img ≤ 40 * P.shorter img)) ∧
    ∀ (images : List (Bytes × UUID)) (s : Storage),
      (∀ image ∈ images, ∃ img, P.Opens image.1 img) →
        ((∃ attachments s', (uploadProductImages P uploadFile publicUrl productId images).run s =
            .ok attachments s') ↔
          ∀ image ∈ images, ∀ img, P.Opens image.1 img → P.longer img ≤ 40 * P.shorter img) := by
  refine ⟨?_, ?_, ?_⟩
  · intro img hwidth hheight breakpoint hb
    exact resizedRight_iff hP hwidth hheight hb
  · intro drawn file fileIdentifier img hopen
    rw [← exists_compressAndResize_iff hP hopen]
    exact exists_congr fun files =>
      and_iff_left_of_imp fun h => (compressAndResize_right hP hopen h).1
  · intro images s hopens
    have heach : ∀ image ∈ images.zipIdx, ∀ s, (∃ attachment s',
        (uploadProductImage P uploadFile publicUrl productId image).run s = .ok attachment s') ↔
          ∀ img, P.Opens image.1.1 img → P.longer img ≤ 40 * P.shorter img := by
      rintro ⟨⟨file, drawn⟩, index⟩ hmem s
      obtain ⟨img, hopen⟩ := hopens (file, drawn) (List.fst_mem_of_mem_zipIdx hmem)
      rw [run_uploadProductImage_iff h_accepts, exists_compressAndResize_iff hP hopen]
      refine ⟨fun hle img' hopen' => ?_, fun hall => hall img hopen⟩
      obtain rfl := Except.ok.inj (hopen.1.symm.trans hopen'.1)
      exact hle
    unfold uploadProductImages
    rw [exists_run_mapM_eq_ok heach s]
    -- the indices make no difference
    conv_rhs => rw [← List.zipIdx_map_fst 0 images, List.forall_mem_map]

/-- A Pillow whose images are their two sides, and their own files. -/
def samplePillow : Pillow (ℕ × ℕ) (ℕ × ℕ) where
  openImage := .ok
  width := Prod.fst
  height := Prod.snd
  resize _ size := if size.1 = 0 ∨ size.2 = 0 then .error .valueError else .ok size
  saveWebp := .ok

theorem documented_samplePillow : samplePillow.Documented where
  resize_ok img w h hw hh := ⟨(w, h), if_neg (by simp; omega), rfl, rfl⟩
  resize_zero img w h hzero := ⟨.valueError, if_pos hzero⟩
  save_ok img _ _ _ _ := ⟨img, rfl⟩

/-- A storage of files under their keys. -/
def storeFile (file : ℕ × ℕ) (key : String) : EStateM PyExc (List (String × (ℕ × ℕ))) Unit :=
  modify fun files => files ++ [(key, file)]

/-- An image of 100 × 50 is uploaded. -/
theorem images_resized_landscape :
    ResizedRight samplePillow (100, 50) 40 ∧
      (∃ files, compressAndResize samplePillow 7 (100, 50) none = .ok files ∧
        CompressedRight samplePillow (100, 50) files) ∧
      ∃ attachments files, (uploadProductImages samplePillow storeFile "" 1
        [((100, 50), 7)]).run [] = .ok attachments files := by
  have hclaim := @images_resized_iff _ _ _ samplePillow documented_samplePillow storeFile
    (fun _ _ files => ⟨_, rfl⟩) "" 1
  have hopen : samplePillow.Opens (100, 50) (100, 50) := ⟨rfl, by decide, by decide⟩
  refine ⟨?_, ?_, ?_⟩
  · exact (hclaim.1 (100, 50) (by decide) (by decide) ("xs", 40) List.mem_cons_self).mpr
      (.inr (by decide))
  · exact (hclaim.2.1 7 (100, 50) none (100, 50) hopen).mpr (by decide)
  · refine (hclaim.2.2 [((100, 50), 7)] [] fun image himage => ?_).mpr fun image himage img h => ?_
    · obtain rfl := List.mem_singleton.mp himage
      exact ⟨_, hopen⟩
    · obtain rfl := List.mem_singleton.mp himage
      obtain rfl := Except.ok.inj h.1
      decide

/-- **An image of 1 × 41 cannot be uploaded**: it is resized to a width of 0. -/
theorem narrow_image_rejected :
    samplePillow.Opens (1, 41) (1, 41) ∧ ¬ ResizedRight samplePillow (1, 41) 40 ∧
      (uploadProductImages samplePillow storeFile "" 1 [((1, 41), 7)]).run [] =
        .error .valueError [] := by
  -- 1 * 40 / 41 is 0, which the resizing refuses
  have hzero : sizedImage samplePillow (1, 41) 40 = .error .valueError := by
    rw [sizedImage_eq]
    rfl
  refine ⟨⟨rfl, by decide, by decide⟩, ?_, ?_⟩
  · rintro ⟨picture, file, hsized, -, -⟩
    rw [hzero] at hsized
    cases hsized
  · -- `xs` is the first breakpoint, so nothing has been written before
    have hvariation : compressVariation samplePillow (1, 41) (identifierOr 7 (some (UUID.str 7)))
        ("xs", 40) = .error .valueError := by
      unfold compressVariation
      rw [hzero]
      rfl
    have hfiles : compressAndResize samplePillow 7 (1, 41) (some (UUID.str 7)) =
        .error .valueError := by
      unfold compressAndResize IMAGE_SIZED_BREAKPOINTS
      show (do
        let files ← List.mapM (compressVariation samplePillow (1, 41) _) _
        return Dict.ofList files : Except PyExc _) = _
      rw [List.mapM_cons, hvariation]
      rfl
    unfold uploadProductImages
    rw [List.zipIdx_cons, List.mapM_cons]
    have hlift : (liftExcept (compressAndResize samplePillow 7 (1, 41) (some (UUID.str 7))) :
        EStateM PyExc (List (String × (ℕ × ℕ))) _).run [] = .error .valueError [] := by
      rw [hfiles]
      rfl
    exact run_bind_error (run_bind_error hlift)

end Storefront
