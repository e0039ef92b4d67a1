import SlideFill.Proofs.Image.Fit

/-!
# Resized images

What comes out of resizing has the format that was asked for and a size that follows from the image and the box
(`Resize.resize_ok`). Bytes that hold no picture and a box without pixels are refused, and `Resize.resize_fails_only`
says what else an image and a box need so that nothing but that goes wrong.
-/

namespace SlideFill

/-- The number of pixels in a row and in a column. -/
def Raster.size (r : Raster) : Nat × Nat :=
  (r.width, r.height)

namespace EncodedImage

variable {e e' : EncodedImage}

/-- An image can be opened exactly if it does not have too many pixels. -/
theorem opened_eq_ok : e.opened = .ok e' ↔ e.raster.width * e.raster.height ≤ mostPixels ∧ e = e' := by
  simp only [opened]
  split
  · simp only [reduceCtorEq, false_iff, not_and]
    omega
  · simp only [Except.ok.injEq, iff_and_self]
    omega

/-- Encoding keeps the size. -/
theorem encode_size (format : ImageFormat) (r : Raster) : (encode format r).raster.size = r.size := by
  cases format <;> rfl

end EncodedImage

/-- An image that is read has fewer pixels than the numbers that are told apart. -/
theorem area_le {n : Nat} (h : n ≤ mostPixels) : n ≤ 2 ^ 28 :=
  h.trans (by decide)

namespace Resize

variable {r r' : Raster} {span : Dyadic} {size : Nat × Nat} {mode : FitMode} {format : ImageFormat}
  {w h : Nat} {e : EncodedImage}

/-! ## Rows -/

/-- Each step shows one more pixel. -/
theorem stepOn_length (step : Dyadic) (xs : List Nat) (walk : Dyadic × List Nat) :
    (xs.foldl (fun walk _ => stepOn step walk) walk).2.length = walk.2.length + xs.length := by
  induction xs generalizing walk with
  | nil => rfl
  | cons x rest ih =>
    rw [List.foldl_cons, ih, stepOn, List.length_cons, List.length_cons]
    omega

/-- As many pixels are shown as are asked for. -/
theorem shownPixels_length (r : Raster) (span : Dyadic) (count : Nat) : (shownPixels r span count).length = count := by
  unfold shownPixels
  split
  · rw [steppedThrough, List.length_reverse, stepOn_length, List.length_range, List.length_nil, Nat.zero_add]
  · rw [List.length_map, List.length_range]

/-! ## Sizes -/

/-- Nothing is in the way of an image exactly if no side is too long for its mode. -/
theorem obstacle?_eq_none {mode : PixelMode} :
    obstacle? mode size = none ↔ size.1 ≤ longestSide mode ∧ size.2 ≤ longestSide mode := by
  have hlongest : longestSide mode < 0x80000000 := by cases mode <;> decide
  have hbeyond : ∀ bound, [size.1, size.2].find? (bound ≤ ·) = none ↔ size.1 < bound ∧ size.2 < bound := by
    simp [List.find?_eq_none]
  rw [obstacle?]
  split
  · rename_i n hword
    have hlarge : ¬(size.1 < 0x80000000 ∧ size.2 < 0x80000000) := fun hsmall => by
      cases hword.symm.trans ((hbeyond 0x80000000).mpr hsmall)
    simp only [reduceCtorEq, false_iff]
    omega
  · rw [ite_eq_right_iff]
    simp only [reduceCtorEq, imp_false, Bool.not_eq_true, Option.isSome_eq_false_iff, Option.isNone_iff_eq_none, hbeyond]
    omega

/-- An image that is brought to a size has that size and its mode, and sides that are not too long unless it had that
size before. -/
theorem toSize_ok (hsize : toSize r span size = .ok r') :
    r'.size = size ∧ r'.mode = r.mode ∧ (size = r.size ∨ size.1 ≤ longestSide r.mode ∧ size.2 ≤ longestSide r.mode) := by
  unfold toSize at hsize
  split at hsize
  · rename_i hown
    cases hsize
    exact ⟨hown.symm, rfl, .inl hown⟩
  · split at hsize
    · cases hsize
    · rename_i hnone
      cases hsize
      refine ⟨?_, rfl, .inr (obstacle?_eq_none.mp hnone)⟩
      rw [Raster.size, Raster.width, List.length_map, shownPixels_length]

/-- An image can be brought to any size with sides that are not too long. -/
theorem toSize_of_le (r : Raster) (span : Dyadic) (hfirst : size.1 ≤ longestSide r.mode)
    (hsecond : size.2 ≤ longestSide r.mode) : ∃ r', toSize r span size = .ok r' := by
  rw [toSize, obstacle?_eq_none.mpr ⟨hfirst, hsecond⟩]
  split
  · exact ⟨r, rfl⟩
  · exact ⟨_, rfl⟩

/-- Whether a size is one that an image takes for a box: that of the box itself if it is cropped. -/
def IsTaken (mode : FitMode) (own box size : Nat × Nat) : Prop :=
  match mode with
  | .crop => size = box
  | .fit => IsFitted own.1 own.2 box.1 box.2 size

/-- An image that is scaled has taken its size from the box in its mode's way. -/
theorem scale_ok (hwidth : 0 < r.width) (hheight : 0 < r.height) (hw : 0 < w) (hh : 0 < h)
    (harea : r.width * r.height ≤ mostPixels) (hscale : scale r mode w h = .ok r') :
    IsTaken mode r.size (w, h) r'.size ∧ r'.mode = r.mode := by
  cases mode with
  | crop =>
    rw [scale] at hscale
    split at hscale
    · cases hscale
    · obtain ⟨hsize, hmode, -⟩ := toSize_ok hscale
      exact ⟨hsize, hmode⟩
  | fit =>
    rw [scale] at hscale
    split at hscale
    · cases hscale
    · rename_i size hfit
      obtain ⟨hsize, hmode, hbound⟩ := toSize_ok hscale
      have hlongest : longestSide r.mode ≤ 2 ^ 29 := by cases r.mode <;> decide
      obtain ⟨hwidth', hheight'⟩ := sides_le hwidth hheight (area_le harea)
      -- Only sides that can be made come out, and they are short enough for the rounding not to show.
      have hsides : size.1 ≤ 2 ^ 29 ∧ size.2 ≤ 2 ^ 29 := by
        rcases hbound with rfl | hbound
        · exact ⟨hwidth'.trans (by decide), hheight'.trans (by decide)⟩
        · exact ⟨hbound.1.trans hlongest, hbound.2.trans hlongest⟩
      refine ⟨?_, hmode⟩
      rw [hsize]
      exact isFitted_of_ok hwidth hheight hw hh (area_le harea) hsides.1 hsides.2 hfit

/-! ## Encoding -/

/-- Conversion keeps the size. -/
theorem converted_size (format : ImageFormat) (r : Raster) : (converted format r).size = r.size := by
  unfold converted
  split
  · split
    · rfl
    · rw [Raster.size, Raster.width, List.length_map]
      rfl
  · rfl

/-- Conversion keeps the mode or makes it that of plain colours. -/
theorem converted_mode (format : ImageFormat) (r : Raster) :
    (converted format r).mode = r.mode ∨ (converted format r).mode = .rgb := by
  unfold converted
  split
  · split
    · exact .inl rfl
    · exact .inr rfl
  · exact .inl rfl

/-- An image that no format refuses is not empty. -/
theorem refusal?_none (hrefusal : refusal? format r = none) : 0 < r.width ∧ 0 < r.height := by
  unfold refusal? at hrefusal
  split at hrefusal
  · cases hrefusal
  · omega

/-- What has been encoded has its format and its size, and is not empty. -/
theorem encode_ok (hencode : encode format r = .ok e) :
    e.format = format ∧ e.raster.size = r.size ∧ 0 < r.width ∧ 0 < r.height := by
  have hsize := converted_size format r
  rw [encode] at hencode
  split at hencode
  · cases hencode
  · rename_i hrefusal
    split at hencode
    · cases hencode
    · cases hencode
      obtain ⟨hwidth, hheight⟩ := refusal?_none hrefusal
      have hwidth' : (converted format r).width = r.width := congrArg Prod.fst hsize
      have hheight' : (converted format r).height = r.height := congrArg Prod.snd hsize
      rw [EncodedImage.encode_size]
      exact ⟨rfl, hsize, hwidth' ▸ hwidth, hheight' ▸ hheight⟩

/-- The longest side of a picture in a format, or else the longest one that can be made. -/
def longestSideIn : ImageFormat → Nat
  | .jpeg => 65500
  | .gif => 65535
  | _ => 53687091

/-- Whether a format takes no cyan, magenta, yellow and black, and is not given red, green and blue instead. -/
def lacksCmyk : ImageFormat → Bool
  | .png => true
  | .gif => true
  | _ => false

/-- An image that is not empty, has no side too long and a mode that the format has is not refused. -/
theorem refusal?_of_le (hwidth : 0 < r.width) (hheight : 0 < r.height)
    (hmode : r.mode = .cmyk → lacksCmyk format = false) (hwidth' : r.width ≤ longestSideIn format)
    (hheight' : r.height ≤ longestSideIn format) : refusal? format r = none := by
  unfold refusal?
  rw [if_neg (by omega)]
  split
  · simp only [longestSideIn] at hwidth' hheight'
    rw [if_neg (by omega)]
  · rename_i hcmyk
    cases hmode hcmyk
  · rename_i hcmyk
    cases hmode hcmyk
  · rfl

/-- An image that is not empty, has no side too long and a mode that the format has can be encoded. -/
theorem encode_of_le (hwidth : 0 < r.width) (hheight : 0 < r.height) (hmode : r.mode = .cmyk → lacksCmyk format = false)
    (hwidth' : r.width ≤ longestSideIn format) (hheight' : r.height ≤ longestSideIn format) :
    ∃ e, encode format r = .ok e := by
  have hsize := converted_size format r
  rw [Raster.size, Raster.size, Prod.mk.injEq] at hsize
  have hmode' : (converted format r).mode = .cmyk → lacksCmyk format = false := fun hcmyk => by
    rcases converted_mode format r with hsame | hrgb
    · exact hmode (hsame ▸ hcmyk)
    · rw [hrgb] at hcmyk
      cases hcmyk
  have hnone : refusal? format (converted format r) = none := by
    apply refusal?_of_le <;> simpa only [hsize.1, hsize.2]
  have hside : ¬(format = .gif ∧ 65535 < max r.width r.height) := by
    rintro ⟨rfl, hlong⟩
    simp only [longestSideIn] at hwidth' hheight'
    omega
  refine ⟨.encode format (converted format r), ?_⟩
  simp only [encode, hnone, hsize.1, hsize.2, if_neg hside]

/-! ## Resizing -/

/-- Resizing is decoding, scaling and encoding, and the sides must be positive. -/
theorem resize_eq_ok {bytes : ImageBytes} {width height : Int} :
    bytes.resize format width height mode = .ok e ↔ 0 < width ∧ 0 < height ∧
      ∃ source r, bytes.decode = .ok source ∧ scale source.raster mode width.toNat height.toNat = .ok r ∧
        encode format r = .ok e := by
  unfold ImageBytes.resize
  split
  · simp only [reduceCtorEq, false_iff, not_and]
    omega
  · simp only [bind_eq_ok]
    constructor
    · rintro ⟨source, hsource, r, hscale, hencode⟩
      exact ⟨by omega, by omega, source, r, hsource, hscale, hencode⟩
    · rintro ⟨-, -, source, r, hsource, hscale, hencode⟩
      exact ⟨source, hsource, r, hscale, hencode⟩

/-- What comes out of resizing is in the format that was asked for, and it has a size for the box, with pixels. -/
theorem resize_ok {source : EncodedImage} {width height : Int} (hwidth : 0 < source.raster.width)
    (hheight : 0 < source.raster.height)
    (hresize : (ImageBytes.picture source).resize format width height mode = .ok e) :
    e.format = format ∧ IsTaken mode source.raster.size (width.toNat, height.toNat) e.raster.size ∧
      0 < e.raster.width ∧ 0 < e.raster.height := by
  obtain ⟨hw, hh, opened, r, hopen, hscale, hencode⟩ := resize_eq_ok.mp hresize
  obtain ⟨harea, rfl⟩ := EncodedImage.opened_eq_ok.mp hopen
  obtain ⟨htaken, -⟩ := scale_ok hwidth hheight (by omega) (by omega) harea hscale
  obtain ⟨hformat, hsize, hpos, hpos'⟩ := encode_ok hencode
  have hwidth' : e.raster.width = r.width := congrArg Prod.fst hsize
  have hheight' : e.raster.height = r.height := congrArg Prod.snd hsize
  rw [hsize]
  exact ⟨hformat, htaken, hwidth' ▸ hpos, hheight' ▸ hpos'⟩

/-- What a picture and a box need so that the picture is brought to the box: both have pixels, but not too many, the
format is not too small for the sides of the box and takes the pixel mode, and no side is rounded to no pixels. -/
structure IsResizable (source : EncodedImage) (format : ImageFormat) (mode : FitMode) (w h : Nat) : Prop where
  width : 0 < source.raster.width
  height : 0 < source.raster.height
  area : source.raster.width * source.raster.height ≤ mostPixels
  box : w * h ≤ mostPixels
  sides : max w h ≤ longestSideIn format
  pixelMode : source.raster.mode = .cmyk → lacksCmyk format = false
  wide : mode = .fit → source.raster.width < 2 * (source.raster.height * w)
  high : mode = .fit → source.raster.height < 2 * (source.raster.width * h)

/-- No side that is taken from a box is longer than that of the box. -/
theorem IsTaken.le {own box : Nat × Nat} (htaken : IsTaken mode own box size) : size.1 ≤ box.1 ∧ size.2 ≤ box.2 := by
  cases mode with
  | crop => exact ⟨(congrArg Prod.fst htaken).le, (congrArg Prod.snd htaken).le⟩
  | fit => exact IsFitted.le htaken

/-- What can be resized can be scaled, and is not empty then. -/
theorem scale_of_isResizable {source : EncodedImage} (hw : 0 < w) (hh : 0 < h)
    (hsource : IsResizable source format mode w h) :
    ∃ r, scale source.raster mode w h = .ok r ∧ 0 < r.width ∧ 0 < r.height := by
  have hlongest : longestSideIn format ≤ 53687091 := by cases format <;> decide
  have hsides := hsource.sides
  have hlongest' : 53687091 ≤ longestSide source.raster.mode := by cases source.raster.mode <;> decide
  have harea := area_le hsource.area
  obtain ⟨hwidth', hheight'⟩ := sides_le hsource.width hsource.height harea
  have hw' : w ≤ 2 ^ 28 := by omega
  have hh' : h ≤ 2 ^ 28 := by omega
  have hscaled : ∃ r, scale source.raster mode w h = .ok r := by
    cases mode with
    | crop =>
      obtain ⟨span, hspan⟩ := cropSpan_of_le hsource.height hw hh hwidth' hheight' hw' hh'
      simp only [scale, hspan]
      exact toSize_of_le source.raster span (by omega) (by omega)
    | fit =>
      obtain ⟨size, hsize⟩ := fitSize_of_le hsource.width hsource.height hw hh hwidth' hheight' hw' hh'
      have hle := (isFitted_of_box hsource.width hsource.height hw hh harea (hw'.trans (by decide))
        (hh'.trans (by decide)) hsize).le
      simp only [scale, hsize]
      exact toSize_of_le source.raster _ (by omega) (by omega)
  obtain ⟨r, hr⟩ := hscaled
  obtain ⟨htaken, -⟩ := scale_ok hsource.width hsource.height hw hh hsource.area hr
  refine ⟨r, hr, ?_⟩
  cases mode with
  | crop =>
    have hsize : r.width = w ∧ r.height = h := Prod.mk.inj htaken
    omega
  | fit => exact IsFitted.pos htaken hw hh (hsource.wide rfl) (hsource.high rfl)

/-- What can be resized is resized, and can be decoded again. -/
theorem resize_of_isResizable {source : EncodedImage} {width height : Int} (hw : 0 < width) (hh : 0 < height)
    (hsource : IsResizable source format mode width.toNat height.toNat) :
    ∃ e, (ImageBytes.picture source).resize format width height mode = .ok e ∧
      (ImageBytes.picture e).decode = .ok e := by
  have hsides := hsource.sides
  obtain ⟨r, hr, hpos, hpos'⟩ := scale_of_isResizable (by omega) (by omega) hsource
  obtain ⟨htaken, hmode⟩ := scale_ok hsource.width hsource.height (by omega) (by omega) hsource.area hr
  obtain ⟨hle, hle'⟩ := htaken.le
  simp only [Raster.size] at hle hle'
  obtain ⟨e, he⟩ := encode_of_le hpos hpos' (fun hcmyk => hsource.pixelMode (hmode ▸ hcmyk))
    (by omega) (by omega)
  obtain ⟨-, hsize, -, -⟩ := encode_ok he
  rw [Raster.size, Raster.size, Prod.mk.injEq] at hsize
  refine ⟨e, ?_, ?_⟩
  · have hopen := EncodedImage.opened_eq_ok.mpr ⟨hsource.area, rfl⟩
    exact resize_eq_ok.mpr ⟨hw, hh, source, r, hopen, hr, he⟩
  · refine EncodedImage.opened_eq_ok.mpr ⟨?_, rfl⟩
    rw [hsize.1, hsize.2]
    exact (Nat.mul_le_mul hle hle').trans hsource.box

/-! ## Failures -/

/-- If a picture and a box have what they need, resizing fails only for bytes that hold no picture and for a box without
pixels, and what it gives can be read and has pixels. -/
theorem resize_fails_only {bytes : ImageBytes} {width height : Int}
    (hbytes : ∀ source, bytes = .picture source → 0 < width → 0 < height →
      IsResizable source format mode width.toNat height.toNat) :
    (∃ e, bytes.resize format width height mode = .ok e ∧ (ImageBytes.picture e).decode = .ok e ∧ e.format = format ∧
      0 < e.raster.width ∧ 0 < e.raster.height) ∨
    bytes.resize format width height mode = .error (.image (.emptyBox width height)) ∧ (width ≤ 0 ∨ height ≤ 0) ∨
    bytes.resize format width height mode = .error (.image .undecodable) ∧ ∀ source, bytes ≠ .picture source := by
  by_cases hempty : width ≤ 0 ∨ height ≤ 0
  · exact .inr (.inl ⟨by rw [ImageBytes.resize, if_pos hempty], hempty⟩)
  cases bytes with
  | other size =>
    refine .inr (.inr ⟨?_, by simp⟩)
    rw [ImageBytes.resize, if_neg hempty]
    rfl
  | picture source =>
    have hsource := hbytes source rfl (by omega) (by omega)
    obtain ⟨e, hresize, hdecode⟩ := resize_of_isResizable (by omega) (by omega) hsource
    obtain ⟨hformat, -, hwidth, hheight⟩ := resize_ok hsource.width hsource.height hresize
    exact .inl ⟨e, hresize, hdecode, hformat, hwidth, hheight⟩

/-- A picture in cyan, magenta, yellow and black. -/
def inks : EncodedImage :=
  ⟨.tiff, ⟨.cmyk, 8, List.replicate 12 [10, 200, 30, 40]⟩⟩

/-- A picture of four inks is resized for a format that converts it. -/
theorem resize_inks : ∃ e, (ImageBytes.picture inks).resize .bmp 6 4 .crop = .ok e ∧
    (ImageBytes.picture e).decode = .ok e ∧ e.format = .bmp ∧ 0 < e.raster.width ∧ 0 < e.raster.height := by
  have hbytes : ∀ source, ImageBytes.picture inks = .picture source → 0 < (6 : Int) → 0 < (4 : Int) →
      IsResizable source .bmp .crop (6 : Int).toNat (4 : Int).toNat := by
    rintro source hsource - -
    cases hsource
    constructor <;> decide
  rcases resize_fails_only hbytes with hok | ⟨-, hempty⟩ | ⟨-, hnone⟩
  · exact hok
  · omega
  · exact absurd rfl (hnone inks)

/-- A long thin picture. -/
def streak : EncodedImage :=
  ⟨.png, ⟨.rgb, 1, List.replicate 200 [200, 30, 30]⟩⟩

/-- Cyan, magenta, yellow and black are not turned into red, green and blue for each format that lacks them, and a long
thin picture can lose all pixels of a side: neither can be written. -/
theorem resize_refuses_pictures :
    (ImageBytes.picture inks).decode = .ok inks ∧
    (ImageBytes.picture inks).resize .png 6 4 .crop =
      .error (.image (.unencodable "PNG" "cannot write mode CMYK as PNG")) ∧
    (ImageBytes.picture streak).decode = .ok streak ∧
    (ImageBytes.picture streak).resize .png 10 10 .fit =
      .error (.image (.unencodable "PNG" "cannot write empty image")) := by
  refine ⟨?_, ?_, ?_, ?_⟩ <;> decide +kernel

end Resize

end SlideFill
