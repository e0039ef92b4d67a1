import Mathlib.Data.List.Forall2
import SlideFill.Proofs.Deck.Ids
import SlideFill.Proofs.Fill.Slide

/-!
# The shapes of a filled slide

`fill_transforms_slides` says shape by shape what becomes of a slide that is filled: hidden shapes are gone, pictures
with an image are replaced where they stand by new ones with the ids behind the greatest that is left, and all other
shapes stay. The last note of the fill counts the hidden and the replaced shapes of all slides.
-/

namespace SlideFill

/-- How the shapes of a slide become those of the filled slide, from back to front. New pictures take the ids behind
`n`, one after the other. -/
inductive Transformed (m : Mapping) : Nat → List Shape → List Shape → Prop where
  | nil (n : Nat) : Transformed m n [] []
  | hidden {n : Nat} {x : Shape} {rest after : List Shape} (hx : x.isHidden m) (h : Transformed m n rest after) :
      Transformed m n (x :: rest) after
  | replaced {n : Nat} {p new : Picture} {r : Replacement} {note : Note} {rest after : List Shape}
      (hx : (Shape.picture p).isHidden m = false) (hr : (Shape.picture p).replacement? m = some r)
      (hnew : p.replaceBy r (n + 1) = .ok (new, note)) (hid : new.id = n + 1) (hlink : new.link = none)
      (h : Transformed m (n + 1) rest after) : Transformed m n (.picture p :: rest) (.picture new :: after)
  | kept {n : Nat} {x : Shape} {rest after : List Shape} (hx : x.isHidden m = false) (hr : x.replacement? m = none)
      (hkeeps : x.Keeps (x.filled m)) (h : Transformed m n rest after) :
      Transformed m n (x :: rest) (x.filled m :: after)

/-- How a slide becomes the filled slide: `n` is the greatest id once the hidden shapes are gone. -/
def Slide.TransformsTo (m : Mapping) (s after : Slide) : Prop :=
  ∃ n, IsGreatest {i | i ∈ Slide.ids (s.shown m)} n ∧ Transformed m n s after

/-- Whether a note sums up a fill. -/
def Note.isSummary : Note → Bool
  | .filled .. => true
  | _ => false

/-! ## Replacing one picture -/

namespace Picture

/-- A picture that takes the place of another one has the id that it was given and no link, and the note of it is no
summary. -/
theorem replaceBy_new {p new : Picture} {r : Replacement} {id : Nat} {note : Note}
    (h : p.replaceBy r id = .ok (new, note)) : new.id = id ∧ new.link = none ∧ note.isSummary = false := by
  unfold replaceBy at h
  split at h
  · cases h
  · split at h
    · cases h
    · cases h
      exact ⟨rfl, rfl, rfl⟩

/-- Whether a picture can be replaced has nothing to do with the id of what is to take its place. -/
theorem replaceBy_error {p : Picture} {r : Replacement} {id : Nat} {e : Fault}
    (h : p.replaceBy r id = .error e) (id' : Nat) : p.replaceBy r id' = .error e := by
  unfold replaceBy at h ⊢
  split at h
  · exact h
  · split at h
    · exact h
    · cases h

/-- What takes the place of a picture does not depend on the picture's link. -/
theorem replaceBy_link (p : Picture) (link : Option Link) (r : Replacement) (id : Nat) :
    { p with link := link }.replaceBy r id = p.replaceBy r id := rfl

end Picture

/-! ## Replacing all of them -/

namespace Slide

variable {m : Mapping}

/-- The invariant of the replacement: the shapes `settled` are so, and `n` is the greatest id of the slide as it stands.
The shapes are gone through up to their end, or up to a picture that cannot be replaced. -/
theorem replaceFrom_splits {s : Slide} {settled : List Shape} {n : Nat}
    (hn : IsGreatest {i | i ∈ Slide.ids (settled ++ (judged m s).map (·.1))} n) :
    ∃ before rest left, s = before ++ rest ∧ Transformed m n before left ∧
      (replaceFrom settled (judged m s)).1 = settled ++ (left ++ (judged m rest).map (·.1)) ∧
      ((replaceFrom settled (judged m s)).2.2.isOk ∧ rest = [] ∨
        ∃ e p r behind, (replaceFrom settled (judged m s)).2.2 = .error e ∧ rest = .picture p :: behind ∧
          (Shape.picture p).isHidden m = false ∧ (Shape.picture p).replacement? m = some r ∧
          ∀ id, p.replaceBy r id = .error e) := by
  induction s generalizing settled n with
  | nil => exact ⟨[], [], [], rfl, .nil n, (List.append_nil settled).symm, .inl ⟨rfl, rfl⟩⟩
  | cons x shapes ih =>
    rcases x.fates m with hx | ⟨hx, p, r, rfl, hr⟩ | ⟨hx, hr⟩
    · rw [judged_cons_of_hidden hx] at hn ⊢
      obtain ⟨before, rest, left, rfl, htrans, hafter, hend⟩ := ih hn
      exact ⟨x :: before, rest, left, rfl, .hidden hx htrans, hafter, hend⟩
    · have hjudged := judged_cons_of_replacement hx hr shapes
      rw [hjudged] at hn ⊢
      rw [List.map_cons] at hn
      cases hnew : p.replaceBy r (n + 1) with
      | error e =>
        have hstep := hnew
        rw [← p.replaceBy_link (settledLink p.link), ← nextId_eq hn] at hstep
        rw [replaceFrom_cons_error hstep]
        refine ⟨[], .picture p :: shapes, [], rfl, .nil n, ?_, .inr ⟨e, p, r, shapes, rfl, rfl, hx, hr, ?_⟩⟩
        · rw [hjudged]
          rfl
        · exact Picture.replaceBy_error hnew
      | ok result =>
        obtain ⟨new, note⟩ := result
        obtain ⟨hid, hlink, -⟩ := Picture.replaceBy_new hnew
        have hstep := hnew
        rw [← p.replaceBy_link (settledLink p.link), ← nextId_eq hn] at hstep
        rw [replaceFrom_cons_replaced hstep]
        -- From here on the id of the new picture is the greatest, whether or not the old one's was.
        have hn' := isGreatest_ids_replace hn hid
        rw [List.append_cons] at hn'
        obtain ⟨before, rest, left, rfl, htrans, hafter, hend⟩ := ih hn'
        refine ⟨.picture p :: before, rest, .picture new :: left, rfl, .replaced hx hr hnew hid hlink htrans, ?_, ?_⟩
        · rw [hafter, ← List.append_cons]
          rfl
        · simpa only [isOk_map, map_eq_error] using hend
    · rw [judged_cons_of_kept hx hr] at hn ⊢
      rw [replaceFrom_cons_kept]
      rw [List.map_cons, List.append_cons] at hn
      obtain ⟨before, rest, left, rfl, htrans, hafter, hend⟩ := ih hn
      refine ⟨x :: before, rest, x.filled m :: left, rfl, .kept hx hr (x.filled_keeps m) htrans, ?_, hend⟩
      rw [hafter, ← List.append_cons]
      rfl

/-- The notes of a replacement are of pictures. -/
theorem replaceFrom_notes {s : Slide} {behind : List Shape} :
    ∀ note ∈ (replaceFrom behind (judged m s)).2.1, note.isSummary = false := by
  induction s generalizing behind with
  | nil => simp [judged, shown, replaceFrom]
  | cons x rest ih =>
    rcases x.fates m with hx | ⟨hx, p, r, rfl, hr⟩ | ⟨hx, hr⟩
    · rw [judged_cons_of_hidden hx]
      exact ih
    · rw [judged_cons_of_replacement hx hr]
      generalize ({ p with link := settledLink p.link } : Picture) = q
      cases hnew : q.replaceBy r (Slide.nextId (behind ++ Shape.picture q :: (judged m rest).map (·.1))) with
      | error e =>
        rw [replaceFrom_cons_error hnew]
        simp
      | ok result =>
        obtain ⟨new, note⟩ := result
        rw [replaceFrom_cons_replaced hnew]
        exact List.forall_mem_cons.mpr ⟨(Picture.replaceBy_new hnew).2.2, ih⟩
    · rw [judged_cons_of_kept hx hr, replaceFrom_cons_kept]
      exact ih

/-- No note on a slide is a summary. -/
theorem notes_not_summary {s : Slide} : ∀ note ∈ notes m s, note.isSummary = false := by
  intro note hnote
  rcases List.mem_append.mp hnote with hremoval | hreplaced
  · obtain ⟨x, -, rfl⟩ := List.mem_map.mp hremoval
    rfl
  · exact replaceFrom_notes note hreplaced

/-- The shapes that are shown have their ids when they are filled. -/
theorem judged_ids (m : Mapping) (s : Slide) : Slide.ids ([] ++ (judged m s).map (·.1)) = Slide.ids (shown m s) := by
  rw [List.nil_append, judged_fst, Slide.ids, Slide.ids, Shape.idsOfAll_map (Shape.filled_ids m)]

/-- A slide whose pictures are all replaced has been transformed. -/
theorem replaceAll_transforms {s : Slide} (h : (replaceAll m s).2.2.isOk) : s.TransformsTo m (replaceAll m s).1 := by
  have hn := isGreatest_ids ([] ++ (judged m s).map (·.1))
  obtain ⟨before, rest, left, rfl, htrans, hafter, ⟨-, rfl⟩ | ⟨e, p, r, behind, hfault, -⟩⟩ := replaceFrom_splits hn
  · rw [judged_ids] at hn htrans
    rw [replaceAll, hafter]
    simp only [List.append_nil] at hn htrans ⊢
    exact ⟨_, hn, by simpa [judged, shown] using htrans⟩
  · rw [replaceAll, hfault] at h
    cases h

/-- A slide that is filled has been transformed. -/
theorem fill_transforms {number : Nat} {s : Slide} (h : (fill m number s).outcome.isOk) :
    s.TransformsTo m (fill m number s).after := by
  rw [fill_after h]
  exact replaceAll_transforms (fill_isOk_iff.mp h).2

end Slide

/-- What filling slides and decks comes to. If a slide is filled, its shapes are those it had, in their order, but for
the hidden ones, which are gone, and the pictures with an image, each of which has given its place to a new one; and as
many are counted as there were of both. If a deck is filled, all its slides are, and the last note counts the hidden and
the replaced shapes of all of them. -/
theorem fill_transforms_slides (m : Mapping) :
    (∀ (number : Nat) (s : Slide) (t : Tally), (Slide.fill m number s).outcome = .ok t →
      s.TransformsTo m (Slide.fill m number s).after ∧
      t = ⟨s.countP (·.isHidden m), s.countP (·.isReplaced m)⟩) ∧
    ∀ (d : Deck) (t : Tally), (Deck.fill m d).outcome = .ok t →
      List.Forall₂ (Slide.TransformsTo m) d (Deck.fill m d).after ∧
      ∃ notes, (Deck.fill m d).log =
          notes ++ [.filled d.length (d.map fun s => s.countP (·.isHidden m)).sum
            (d.map fun s => s.countP (·.isReplaced m)).sum] ∧
        ∀ note ∈ notes, note.isSummary = false := by
  constructor
  · intro number s t h
    exact ⟨Slide.fill_transforms (isOk_iff.mpr ⟨t, h⟩), Slide.fill_result h⟩
  · intro d t h
    have hok := isOk_iff.mpr ⟨t, h⟩
    obtain ⟨hafter, hlog⟩ := Deck.fill_eq hok
    refine ⟨?_, _, hlog, ?_⟩
    · rw [hafter, List.forall₂_map_right_iff, List.forall₂_same]
      intro s hs
      have hslide := Deck.fillFrom_isOk_iff.mp (Deck.fill_isOk_iff.mp hok) s hs
      exact Slide.replaceAll_transforms (Slide.fill_isOk_iff.mp hslide).2
    · intro note hnote
      obtain ⟨s, -, hs⟩ := List.mem_flatMap.mp hnote
      exact Slide.notes_not_summary note hs

namespace TransformationWitness

/-- A mapping that hides what carries one variable and has an image for another. -/
def mapping : Mapping :=
  { Mapping.silent with
    hide := fun v => some (v.name == "secret")
    image := fun name =>
      if name = "logo" then some ⟨.picture ⟨.png, ⟨.rgb, 1, [[0, 0, 255]]⟩⟩, .made .png, .made .crop⟩ else none }

/-- A slide with a hidden box that has the greatest id, two pictures to be replaced, a group and a table. -/
def slide : Slide :=
  [.text ⟨12, "Note", some ⟨.external "$/secret/", none⟩, []⟩,
    .picture ⟨3, "Logo", some ⟨.external "$/logo/", none⟩, some ⟨0, 0, 12700, 12700⟩, ⟨.png, ⟨.rgb, 1, [[0, 0, 0]]⟩⟩⟩,
    .group 4 "Group" [.connector 9 "Line"],
    .picture ⟨5, "Logo", some ⟨.external "$/logo/", none⟩, some ⟨0, 0, 12700, 12700⟩, ⟨.png, ⟨.rgb, 1, [[0, 0, 0]]⟩⟩⟩,
    .table ⟨6, "Table", [[none]]⟩]

end TransformationWitness

open TransformationWitness in
/-- A slide with a hidden shape and two pictures that are replaced. -/
theorem fill_transforms_slides_pictures :
    ((Slide.fill mapping 1 slide).outcome = .ok ⟨1, 2⟩ ∧
      slide.TransformsTo mapping (Slide.fill mapping 1 slide).after) ∧
    (Deck.fill mapping [slide]).outcome = .ok ⟨1, 2⟩ ∧
    List.Forall₂ (Slide.TransformsTo mapping) [slide] (Deck.fill mapping [slide]).after := by
  have hslide : (Slide.fill mapping 1 slide).outcome = .ok ⟨1, 2⟩ := eq_ok_of_toOption (by decide +kernel)
  have hdeck : (Deck.fill mapping [slide]).outcome = .ok ⟨1, 2⟩ := eq_ok_of_toOption (by decide +kernel)
  have h := fill_transforms_slides mapping
  exact ⟨⟨hslide, (h.1 1 slide _ hslide).1⟩, hdeck, (h.2 [slide] _ hdeck).1⟩

end SlideFill
