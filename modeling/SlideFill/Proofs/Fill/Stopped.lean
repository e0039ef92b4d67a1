import SlideFill.Proofs.Fill.Directives
import SlideFill.Proofs.Fill.OnePass

/-!
# What a fill that stops leaves

A fill stops at the first fault. `stopped_fill_leaves` says that the slides before the one where that happens are
filled, and those behind it are as they were; how that slide itself is left is told by `Slide.Stopped`, and what a filled
shape is by going through its text once. Hidden shapes are removed and pictures replaced only once all shapes of a slide
have been read.
-/

namespace SlideFill

/-- How a slide is left whose fill stops at a fault. -/
inductive Slide.Stopped (m : Mapping) (e : Fault) : Slide → Slide → Prop where
  /-- A shape cannot be read. The shapes before it are read: a hidden one has lost its directive, any other one is what
  going through it once makes of it, with no directive in its text either. The shapes behind it are as they were. All of
  them are there, with their ids. -/
  | reading {before behind : List Shape} {x : Shape} (hbefore : ∀ y ∈ before, (y.fill m).outcome.isOk)
      (hx : (x.fill m).outcome = .error e) (hkeeps : x.Keeps (x.fill m).after)
      (hstay : ∀ y ∈ before, y.Keeps (y.asRead m))
      (hcleared : ∀ y ∈ before, shapeVariable (y.asRead m).link = .ok none ∧
        (y.isHidden m = false → (y.asRead m).IsPlain))
      (hids : (before.map (Shape.asRead m) ++ (x.fill m).after :: behind).map Shape.ids =
        (before ++ x :: behind).map Shape.ids) :
      Stopped m e (before ++ x :: behind) (before.map (Shape.asRead m) ++ (x.fill m).after :: behind)
  /-- All shapes are read and the hidden ones are gone, but a picture cannot be replaced. The pictures before it are
  replaced; this one and those behind it are there and have lost nothing but their directives. Whatever is filled is what
  going through it once makes of it. -/
  | replacing {before behind left : List Shape} {p : Picture} {r : Replacement} {n : Nat}
      (hread : ∀ y ∈ before ++ .picture p :: behind, (y.fill m).outcome.isOk)
      (hfilled : ∀ y ∈ before, y.isHidden m = false → y.filled m = y.inOnePass m)
      (hn : IsGreatest {i | i ∈ Slide.ids (Slide.shown m (before ++ .picture p :: behind))} n)
      (hbefore : Transformed m n before left) (hshown : (Shape.picture p).isHidden m = false)
      (hr : (Shape.picture p).replacement? m = some r) (hfault : ∀ id, p.replaceBy r id = .error e)
      (hlinks : ∀ q, .picture q ∈ behind → (Shape.picture q).isReplaced m →
        (Shape.picture q).inOnePass m = .picture { q with link := none }) :
      Stopped m e (before ++ .picture p :: behind)
        (left ++ .picture { p with link := none } :: (Slide.shown m behind).map (Shape.inOnePass m))

variable {m : Mapping}

/-! ## Shapes that are read -/

namespace Shape

/-- A shape that is read carries no directive of its own any more. -/
theorem asRead_cleared {s : Shape} (h : (s.fill m).outcome.isOk) :
    shapeVariable (s.asRead m).link = .ok none ∧ (s.isHidden m = false → (s.asRead m).IsPlain) := by
  have hlink : (s.asRead m).link = settledLink s.link := by
    rw [asRead]
    split <;> cases s <;> rfl
  refine ⟨?_, ?_⟩
  · rw [hlink]
    exact shapeVariable_settledLink (fill_isOk_iff.mp h).1
  · intro hshown
    rw [asRead, if_neg (by simp [hshown]), ← filled_eq_inOnePass h hshown]
    exact filled_isPlain h hshown

/-- A picture that has an image has a directive, and loses it. -/
theorem settledLink_of_replacement {p : Picture} {r : Replacement} (h : (Shape.picture p).replacement? m = some r) :
    settledLink p.link = none := by
  obtain ⟨v, hv, -⟩ := Option.bind_eq_some_iff.mp h
  rw [settledLink, hv]
  rfl

/-- A picture to be replaced loses its directive and no more. -/
theorem inOnePass_of_isReplaced {p : Picture} (h : (Shape.picture p).isReplaced m) :
    (Shape.picture p).inOnePass m = .picture { p with link := none } := by
  rw [isReplaced, Bool.and_eq_true, Option.isSome_iff_exists] at h
  obtain ⟨-, r, hr⟩ := h
  rw [inOnePass, settledLink_of_replacement hr]

end Shape

namespace Slide

/-! ## Slides -/

/-- The shapes of a slide that cannot be read to its end. -/
theorem read_stopped {number : Nat} {s : Slide} {e : Fault} (h : (read m number s).outcome = .error e) :
    s.Stopped m e (read m number s).after := by
  obtain ⟨before, x, behind, rfl, hbefore, hx, hafter⟩ := Passage.each_error h
  have hread : before.map (fun y => (y.fill m).after) = before.map (Shape.asRead m) :=
    List.map_congr_left fun y hy => Shape.fill_after_asRead (hbefore y hy)
  have hids : (before.map (Shape.asRead m) ++ (x.fill m).after :: behind).map Shape.ids =
      (before ++ x :: behind).map Shape.ids := by
    rw [List.map_append, List.map_append, List.map_cons, List.map_cons, List.map_map, (x.fill_keeps m).ids]
    congr 1
    exact List.map_congr_left fun y _ => (y.asRead_keeps m).ids
  rw [read, hafter]
  simp only [Passage.mapAsked, hread]
  exact .reading hbefore hx (x.fill_keeps m) (fun y _ => y.asRead_keeps m)
    (fun y hy => Shape.asRead_cleared (hbefore y hy)) hids

/-- The shapes of a slide that is read, but not all of whose pictures can be replaced. -/
theorem replaceAll_stopped {s : Slide} {e : Fault} (hread : ∀ x ∈ s, (x.fill m).outcome.isOk)
    (h : (replaceAll m s).2.2 = .error e) : s.Stopped m e (replaceAll m s).1 := by
  have hn := isGreatest_ids ([] ++ (judged m s).map (·.1))
  obtain ⟨before, rest, left, rfl, htrans, hafter, ⟨hok, -⟩ | ⟨e', p, r, behind, hfault, rfl, hp, hr, hpicture⟩⟩ :=
    replaceFrom_splits hn
  · rw [← replaceAll, h] at hok
    cases hok
  · rw [← replaceAll, h] at hfault
    cases hfault
    rw [judged_ids] at hn htrans
    have hfilled : ∀ y ∈ before ++ .picture p :: behind, y.isHidden m = false → y.filled m = y.inOnePass m :=
      fun y hy => Shape.filled_eq_inOnePass (hread y hy)
    have hbehind : (shown m behind).map (Shape.filled m) = (shown m behind).map (Shape.inOnePass m) := by
      apply List.map_congr_left
      intro y hy
      obtain ⟨hmem, hshown⟩ := List.mem_filter.mp hy
      exact hfilled y (List.mem_append_right _ (List.mem_cons_of_mem _ hmem)) (by simpa using hshown)
    rw [replaceAll, hafter, List.nil_append, judged_cons_of_replacement hp hr, List.map_cons, judged_fst,
      Shape.settledLink_of_replacement hr, hbehind]
    exact .replacing hread (fun y hy => hfilled y (List.mem_append_left _ hy)) hn htrans hp hr hpicture
      fun q _ hq => Shape.inOnePass_of_isReplaced hq

/-- A slide whose fill stops does so while its shapes are read or while its pictures are replaced. -/
theorem fill_stopped {number : Nat} {s : Slide} {e : Fault} (h : (fill m number s).outcome = .error e) :
    s.Stopped m e (fill m number s).after := by
  cases hread : (read m number s).outcome with
  | error e' =>
    rw [fill] at h ⊢
    simp only [hread] at h ⊢
    cases h
    exact read_stopped hread
  | ok verdicts =>
    have hshapes := (read_isOk_iff number).mp (isOk_iff.mpr ⟨verdicts, hread⟩)
    rw [fill_eq hshapes] at h ⊢
    exact replaceAll_stopped hshapes (map_eq_error.mp h)

end Slide

/-! ## Decks -/

/-- Slides whose fill stops at one of them, the first having a number. -/
theorem Deck.fillFrom_error {number : Nat} {d : Deck} {e : Fault} (h : (fillFrom m number d).outcome = .error e) :
    ∃ before s behind, d = before ++ s :: behind ∧ (fillFrom m number before).outcome.isOk ∧
      (Slide.fill m (number + before.length) s).outcome = .error e ∧
      (fillFrom m number d).after =
        (fillFrom m number before).after ++ (Slide.fill m (number + before.length) s).after :: behind := by
  -- The slide that fails is the first one that does: all slides before it have been filled.
  induction d generalizing number with
  | nil => cases h
  | cons s rest ih =>
    cases hs : (Slide.fill m number s).outcome with
    | error e' =>
      rw [fillFrom_cons_error hs] at h ⊢
      cases h
      exact ⟨[], s, rest, rfl, rfl, hs, rfl⟩
    | ok t =>
      rw [fillFrom_cons_ok hs, map_eq_error] at h
      obtain ⟨before, s', behind, rfl, hbefore, hfault, hafter⟩ := ih h
      have hnumber : number + 1 + before.length = number + (s :: before).length := by
        rw [List.length_cons]
        omega
      rw [hnumber] at hfault hafter
      refine ⟨s :: before, s', behind, rfl, ?_, hfault, ?_⟩
      · rwa [fillFrom_cons_ok hs, isOk_map]
      · rw [fillFrom_cons_ok hs, fillFrom_cons_ok hs, hafter]
        rfl

/-- A fill leaves the deck with what it has made of its slides. -/
theorem Deck.fill_after_eq (m : Mapping) (d : Deck) : (fill m d).after = (fillFrom m 1 d).after := by
  unfold fill
  cases h : (fillFrom m 1 d).outcome <;> simp [h]

/-- A fill that fails has failed on the slides. -/
theorem Deck.fill_error {d : Deck} {e : Fault} (h : (fill m d).outcome = .error e) :
    (fillFrom m 1 d).outcome = .error e := by
  unfold fill at h
  cases hout : (fillFrom m 1 d).outcome with
  | error e' =>
    simp only [hout] at h
    rw [← h]
  | ok t => simp [hout] at h

/-- What a fill that stops leaves of a deck. There is a slide at which it stops: the slides before are what they are
once filled, those behind are as they were, and the slide itself is left as its own fill leaves it when it stops. -/
theorem stopped_fill_leaves (m : Mapping) (d : Deck) (e : Fault) (h : (Deck.fill m d).outcome = .error e) :
    ∃ before s behind left, d = before ++ s :: behind ∧ (Deck.fill m before).outcome.isOk ∧ s.Stopped m e left ∧
      (Deck.fill m d).after = (Deck.fill m before).after ++ left :: behind := by
  obtain ⟨before, s, behind, hd, hbefore, hs, hafter⟩ := Deck.fillFrom_error (Deck.fill_error h)
  refine ⟨before, s, behind, _, hd, Deck.fill_isOk_iff.mpr hbefore, Slide.fill_stopped hs, ?_⟩
  rw [Deck.fill_after_eq, Deck.fill_after_eq, hafter]

namespace StoppedWitness

/-- A mapping that hides what carries one variable, has an image for another and a text for the third. -/
def mapping : Mapping :=
  { Mapping.silent with
    text := fun v => if v.name = "day" then some "Monday" else none
    hide := fun v => some (v.name == "secret")
    image := fun name =>
      if name = "logo" then some ⟨.picture ⟨.png, ⟨.rgb, 1, [[0, 0, 255]]⟩⟩, .made .png, .made .crop⟩ else none }

/-- A text box that asks for a text. -/
def greeting : Shape :=
  .text ⟨2, "Greeting", none, [⟨[.run ⟨"On $/day/", none, {}⟩]⟩]⟩

/-- A picture to be replaced, which may lack a position. -/
def logo (id : Nat) (anchor : Option Anchor) : Shape :=
  .picture ⟨id, "Logo", some ⟨.external "$/logo/", none⟩, anchor, ⟨.png, ⟨.rgb, 1, [[0, 0, 0]]⟩⟩⟩

/-- A slide with a hidden box and three pictures to be replaced, the second of which has no position. -/
def gallery : Slide :=
  [.text ⟨12, "Note", some ⟨.external "$/secret/", none⟩, []⟩, logo 3 (some ⟨0, 0, 12700, 12700⟩), logo 4 none,
    logo 5 (some ⟨0, 0, 12700, 12700⟩), greeting]

/-- A slide that has a shape with a broken link behind a hidden box. -/
def torn : Slide :=
  [.text ⟨12, "Note", some ⟨.external "$/secret/", none⟩, []⟩, greeting, .text ⟨6, "Torn", some ⟨.missing "rId7", none⟩, []⟩,
    logo 3 (some ⟨0, 0, 12700, 12700⟩)]

end StoppedWitness

open StoppedWitness in
/-- A fill that stops at a picture without an anchor, and one that stops at a broken link. -/
theorem stopped_fill_leaves_gallery :
    ((Deck.fill mapping [[greeting], gallery, torn]).outcome = .error (.noAnchor "Logo") ∧
      ∃ before s behind left, [[greeting], gallery, torn] = before ++ s :: behind ∧
        (Deck.fill mapping before).outcome.isOk ∧ s.Stopped mapping (.noAnchor "Logo") left ∧
        (Deck.fill mapping [[greeting], gallery, torn]).after =
          (Deck.fill mapping before).after ++ left :: behind) ∧
    (Deck.fill mapping [[greeting], torn, gallery]).outcome = .error (.brokenLink "rId7") ∧
      ∃ before s behind left, [[greeting], torn, gallery] = before ++ s :: behind ∧
        (Deck.fill mapping before).outcome.isOk ∧ s.Stopped mapping (.brokenLink "rId7") left ∧
        (Deck.fill mapping [[greeting], torn, gallery]).after =
          (Deck.fill mapping before).after ++ left :: behind := by
  have hgallery : (Deck.fill mapping [[greeting], gallery, torn]).outcome = .error (.noAnchor "Logo") := by
    decide +kernel
  have htorn : (Deck.fill mapping [[greeting], torn, gallery]).outcome = .error (.brokenLink "rId7") := by decide +kernel
  exact ⟨⟨hgallery, stopped_fill_leaves mapping _ _ hgallery⟩, htorn, stopped_fill_leaves mapping _ _ htorn⟩

end SlideFill
