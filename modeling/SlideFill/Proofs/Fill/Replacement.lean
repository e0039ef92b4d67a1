import SlideFill.Fill.Replacement
import SlideFill.Proofs.Image.Resize

/-!
# The place of a replaced picture

A picture that takes the place of another one keeps to its anchor (`Picture.replaceBy_keeps_anchor`): it stands at the
same corner, a cropped image fills the anchor and has a pixel for each whole point of it, and a fitted image has points
for its pixels and lies within the anchor.
-/

namespace SlideFill

/-! ## Whole points -/

/-- So many units are many points, though rounding may not show how many. -/
theorem le_points {units : Nat} {whole points : Dyadic} (hunits : 2 ^ 53 ≤ units)
    (hwhole : Dyadic.nearest? units 1 = some whole)
    (hpoints : Dyadic.nearest? whole.num (whole.den * unitsPerPoint) = some points) : 2 ^ 30 ≤ points.floor := by
  have hunits' : (2 : ℚ) ^ 53 ≤ units := by exact_mod_cast hunits
  have hlarge : (2 : ℚ) ^ 52 ≤ whole.value := by
    have hhalf := Dyadic.le_rounded (k := 0) (a := units) (by omega) Nat.one_pos (by decide) (by omega)
    rw [← Dyadic.nearest?_eq hwhole, Nat.cast_one, div_one] at hhalf
    linarith
  have hden : 0 < whole.den * unitsPerPoint := Nat.mul_pos whole.den_pos (by decide)
  have hscaled : (whole.num : ℚ) / (whole.den * unitsPerPoint : Nat) = whole.value / 12700 := by
    rw [Dyadic.value, unitsPerPoint]
    push_cast
    field_simp
  have hratio : whole.den * unitsPerPoint ≤ whole.num := by
    have hone : (1 : ℚ) ≤ whole.num / (whole.den * unitsPerPoint : Nat) := by
      rw [hscaled]
      linarith
    rw [one_le_div (by exact_mod_cast hden)] at hone
    exact_mod_cast hone
  have hhalf := Dyadic.le_rounded (k := 0) (hden.trans_le hratio) hden (by decide) (by omega)
  rw [← Dyadic.nearest?_eq hpoints, hscaled] at hhalf
  refine Dyadic.le_floor ?_
  push_cast
  linarith

/-- Very long lengths may not be read exactly, but they are not taken for short ones. -/
theorem wholePoints_cases {units n : Int} (hunits : 1 ≤ units / unitsPerPoint) (h : wholePoints units = .ok n) :
    n = units / unitsPerPoint ∨ 2 ^ 30 ≤ n ∧ 2 ^ 30 ≤ units / unitsPerPoint := by
  obtain ⟨len, rfl⟩ : ∃ len : Nat, units = len := ⟨units.toNat, by simp only [unitsPerPoint] at hunits; omega⟩
  rw [wholePoints, Int.natAbs_natCast] at h
  split at h
  · cases h
    exact .inl (Int.tdiv_eq_ediv_of_nonneg (Int.natCast_nonneg len))
  · rename_i hexact
    split at h
    · rename_i points hpoints
      obtain ⟨whole, hwhole, hpoints⟩ := Option.bind_eq_some_iff.mp hpoints
      rw [if_neg (by omega)] at h
      cases h
      rw [exactUnits, not_lt] at hexact
      have hfloor := le_points hexact hwhole hpoints
      refine .inr ⟨by exact_mod_cast hfloor, ?_⟩
      simp only [unitsPerPoint]
      omega
    · cases h

/-- The box of an anchor: as many pixels as it has whole points. -/
def Anchor.box (a : Anchor) : Nat × Nat :=
  ((a.width / unitsPerPoint).toNat, (a.height / unitsPerPoint).toNat)

/-- The points of pixels that lie in a box lie in the length that the box is of. -/
theorem points_le {len : Int} {n : Nat} (hlen : 1 ≤ len / 12700) (hn : n ≤ (len / unitsPerPoint).toNat) :
    12700 * (n : Int) ≤ len := by
  simp only [unitsPerPoint] at hn
  omega

namespace Resize

/-- Sides beyond what an image has are all the same. -/
theorem IsTaken.congr {mode : FitMode} {own box box' size : Nat × Nat} (h : IsTaken mode own box' size)
    (hfirst : size.1 < 2 ^ 30) (hsecond : size.2 < 2 ^ 30) (hw : box'.1 = box.1 ∨ 2 ^ 30 ≤ box'.1 ∧ 2 ^ 30 ≤ box.1)
    (hh : box'.2 = box.2 ∨ 2 ^ 30 ≤ box'.2 ∧ 2 ^ 30 ≤ box.2) : IsTaken mode own box size := by
  cases mode with
  | crop =>
    have hsize : size = box' := h
    rw [hsize] at hfirst hsecond
    exact Prod.ext (by rw [hsize]; omega) (by rw [hsize]; omega)
  | fit =>
    rcases h with ⟨hside, hprop, hle⟩ | ⟨hside, hprop, hle⟩
    · have hsame : box'.1 = box.1 := by omega
      exact .inl ⟨hside.trans hsame, hsame ▸ hprop, by omega⟩
    · have hsame : box'.2 = box.2 := by omega
      exact .inr ⟨hside.trans hsame, hsame ▸ hprop, by omega⟩

end Resize

namespace Picture

/-! ## Replacing -/

/-- An image that is rendered is resized to the whole points of the anchor, in the mode and format that are read. -/
theorem render_ok {r : Replacement} {a : Anchor} {mode : FitMode} {image : EncodedImage}
    (h : render r a = .ok (mode, image)) :
    ∃ width height format, r.mode.decide FitMode.read = .ok mode ∧ wholePoints a.width = .ok width ∧
      wholePoints a.height = .ok height ∧ r.bytes.resize format width height mode = .ok image ∧
      image.raster.width * image.raster.height ≤ mostPixels := by
  unfold render at h
  split at h
  · cases h
  · cases h
  · cases h
  · cases h
  · rename_i mode' width height format hmode hwidth hheight hformat
    obtain ⟨resized, hresized, h⟩ := bind_eq_ok.mp h
    obtain ⟨opened, hopened, h⟩ := bind_eq_ok.mp h
    obtain ⟨hpixels, rfl⟩ := EncodedImage.opened_eq_ok.mp hopened
    cases h
    exact ⟨width, height, format, hmode, hwidth, hheight, hresized, hpixels⟩

/-- The image that takes the place of a picture has pixels, and a size for the box of the anchor. -/
theorem render_taken {r : Replacement} {a : Anchor} {source image : EncodedImage} {mode : FitMode}
    (hsource : r.bytes = .picture source) (hwidth : 0 < source.raster.width) (hheight : 0 < source.raster.height)
    (hw : 1 ≤ a.width / unitsPerPoint) (hh : 1 ≤ a.height / unitsPerPoint) (h : render r a = .ok (mode, image)) :
    Resize.IsTaken mode source.raster.size a.box image.raster.size ∧ 0 < image.raster.width ∧
      0 < image.raster.height := by
  obtain ⟨width, height, format, -, hpoints, hpoints', hresize, hpixels⟩ := render_ok h
  rw [hsource] at hresize
  obtain ⟨-, htaken, hpos, hpos'⟩ := Resize.resize_ok hwidth hheight hresize
  obtain ⟨hfirst, hsecond⟩ := Resize.sides_le hpos hpos' (area_le hpixels)
  refine ⟨?_, hpos, hpos'⟩
  apply htaken.congr
  · exact lt_of_le_of_lt hfirst (by decide)
  · exact lt_of_le_of_lt hsecond (by decide)
  · rcases wholePoints_cases hw hpoints with rfl | hlarge
    · exact .inl rfl
    · simp only [Anchor.box]
      omega
  · rcases wholePoints_cases hh hpoints' with rfl | hlarge
    · exact .inl rfl
    · simp only [Anchor.box]
      omega

/-- A picture that replaces one with an anchor has the rendered image, from the same corner on. -/
theorem replaceBy_ok {p new : Picture} {r : Replacement} {id : Nat} {note : Note} {a : Anchor} (ha : p.anchor = some a)
    (h : p.replaceBy r id = .ok (new, note)) :
    ∃ mode, render r a = .ok (mode, new.image) ∧
      new.anchor = some ⟨a.left, a.top, (extentOf mode a new.image).1, (extentOf mode a new.image).2⟩ := by
  rw [replaceBy, ha] at h
  simp only at h
  split at h
  · cases h
  · rename_i mode image hrender
    cases h
    exact ⟨mode, hrender, rfl⟩

/-- The extent of a fitted image is its size in points. -/
theorem extentOf_fit (a : Anchor) (image : EncodedImage) :
    extentOf .fit a image = (12700 * (image.raster.size.1 : Int), 12700 * (image.raster.size.2 : Int)) := by
  simp only [extentOf, unitsPerPoint, Raster.size, Nat.mul_comm _ 12700]
  push_cast
  rfl

/-- How an anchor becomes that of a picture with an image of some size that takes its place: the corner stays, and what
lies there is the anchor as it was or the points that the pixels are. -/
def KeepsAnchor (mode : FitMode) (own : Nat × Nat) (a after : Anchor) (size : Nat × Nat) : Prop :=
  after.left = a.left ∧ after.top = a.top ∧
    match mode with
    | .crop => after.width = a.width ∧ after.height = a.height ∧ size = a.box
    | .fit =>
      (1 ≤ size.1 ∧ size.1 ≤ a.box.1) ∧ (1 ≤ size.2 ∧ size.2 ≤ a.box.2) ∧
        Resize.IsFitted own.1 own.2 a.box.1 a.box.2 size ∧
        after.width = 12700 * size.1 ∧ after.height = 12700 * size.2 ∧ after.width ≤ a.width ∧ after.height ≤ a.height

/-- A picture that takes the place of another one keeps to its anchor. -/
theorem replaceBy_keeps_anchor {p new : Picture} {r : Replacement} {a : Anchor} {source : EncodedImage} {id : Nat}
    {note : Note} (ha : p.anchor = some a) (hsource : r.bytes = .picture source) (hwidth : 0 < source.raster.width)
    (hheight : 0 < source.raster.height) (hw : 1 ≤ a.width / 12700) (hh : 1 ≤ a.height / 12700)
    (h : p.replaceBy r id = .ok (new, note)) :
    ∃ mode after, r.mode.decide FitMode.read = .ok mode ∧ new.anchor = some after ∧
      KeepsAnchor mode source.raster.size a after new.image.raster.size := by
  obtain ⟨mode, hrender, hanchor⟩ := replaceBy_ok ha h
  obtain ⟨-, -, -, hmode, -⟩ := render_ok hrender
  obtain ⟨htaken, hpos, hpos'⟩ := render_taken hsource hwidth hheight hw hh hrender
  refine ⟨mode, _, hmode, hanchor, rfl, rfl, ?_⟩
  cases mode with
  | crop => exact ⟨rfl, rfl, htaken⟩
  | fit =>
    obtain ⟨hle, hle'⟩ := htaken.le
    rw [extentOf_fit]
    exact ⟨⟨hpos, hle⟩, ⟨hpos', hle'⟩, htaken, rfl, rfl, points_le hw hle, points_le hh hle'⟩

/-- A picture, and an image of another shape to fit into its place. -/
def framed : Picture × Replacement :=
  ({ id := 2, name := "logo", link := none, anchor := some ⟨100000, 200000, 700000, 400000⟩,
     image := ⟨.png, ⟨.gray, 4, List.replicate 7 [0]⟩⟩ },
    { bytes := .picture ⟨.jpeg, ⟨.rgb, 10, List.replicate 20 [200, 30, 30]⟩⟩, format := .made .png, mode := .made .fit })

/-- An image of twenty dots by ten, fitted into a frame. -/
theorem framed_keeps_anchor : ∃ new note mode after, framed.1.replaceBy framed.2 3 = .ok (new, note) ∧
    framed.2.mode.decide FitMode.read = .ok mode ∧ new.anchor = some after ∧
    KeepsAnchor mode (20, 10) ⟨100000, 200000, 700000, 400000⟩ after new.image.raster.size := by
  have hreplaced : (framed.1.replaceBy framed.2 3).isOk := by decide +kernel
  obtain ⟨⟨new, note⟩, h⟩ := isOk_iff.mp hreplaced
  obtain ⟨mode, after, hmode, hafter, hkeeps⟩ :=
    replaceBy_keeps_anchor rfl rfl (by decide) (by decide) (by decide) (by decide) h
  exact ⟨new, note, mode, after, h, hmode, hafter, hkeeps⟩

end Picture

end SlideFill
