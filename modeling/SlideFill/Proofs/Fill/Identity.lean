import Mathlib.Data.List.Flatten
import SlideFill.Proofs.Fill.Stopped

/-!
# Ids over many fills

The ids on a slide stay apart however often its deck is filled, be it to the end or not, and a shape that stays on its
slide keeps its ids (`fills_keep_ids_apart`). Hidden shapes give up their ids before new pictures get theirs, so an id
can come back, but never while it is on the slide.
-/

namespace SlideFill

variable {m : Mapping}

/-- A shape that is left as it is keeps what it is. -/
theorem Shape.Keeps.refl (x : Shape) : x.Keeps x := by
  cases x with
  | text box => exact ⟨rfl, rfl⟩
  | table t => exact ⟨rfl, rfl⟩
  | picture p => exact rfl
  | connector id name => exact rfl
  | group id name children => exact rfl

namespace Slide

/-- What becomes of shapes in a fill, from back to front: one stays with its ids, or it is hidden and gone, or it is a
picture that has given its place to a new one, whose id is behind `n`. -/
inductive Survive (m : Mapping) (n : Nat) : List Shape → List Shape → Prop where
  | nil : Survive m n [] []
  | stays {x y : Shape} {rest after : List Shape} (hkeeps : x.Keeps y) (hids : y.ids = x.ids)
      (h : Survive m n rest after) : Survive m n (x :: rest) (y :: after)
  | gone {x : Shape} {rest after : List Shape} (hx : x.isHidden m) (h : Survive m n rest after) :
      Survive m n (x :: rest) after
  | replaced {p new : Picture} {rest after : List Shape} (hp : (Shape.picture p).isReplaced m) (hid : n < new.id)
      (h : Survive m n rest after) : Survive m n (.picture p :: rest) (.picture new :: after)

/-- How a slide comes out of a fill of its deck, be it filled, left halfway or not come to. The id of a new picture is
greater than those of all shapes that are not hidden. -/
def PassesTo (m : Mapping) (s after : Slide) : Prop :=
  ∃ n, (∀ i ∈ Slide.ids (s.shown m), i ≤ n) ∧ Survive m n s after

/-- How a slide comes out of a row of fills. -/
inductive Lineage : List Mapping → Slide → Slide → Prop where
  | nil (s : Slide) : Lineage [] s s
  | cons {m : Mapping} {ms : List Mapping} {s next after : Slide} (hfirst : s.PassesTo m next)
      (hrest : Lineage ms next after) : Lineage (m :: ms) s after

/-! ## Shapes that survive -/

/-- Shapes survive part by part. -/
theorem Survive.append {n : Nat} {a a' b b' : List Shape} (ha : Survive m n a a') (hb : Survive m n b b') :
    Survive m n (a ++ b) (a' ++ b') := by
  induction ha with
  | nil => exact hb
  | stays hkeeps hids _ ih => exact .stays hkeeps hids ih
  | gone hx _ ih => exact .gone hx ih
  | replaced hp hid _ ih => exact .replaced hp hid ih

/-- Shapes survive what keeps each of them. -/
theorem survive_map {f : Shape → Shape} (hf : ∀ x : Shape, x.Keeps (f x)) (n : Nat) (s : List Shape) :
    Survive m n s (s.map f) := by
  induction s with
  | nil => exact .nil
  | cons x rest ih => exact .stays (hf x) (hf x).ids ih

/-- Shapes that are left as they are survive. -/
theorem survive_refl (n : Nat) (s : List Shape) : Survive m n s s := by
  have h := survive_map (m := m) Shape.Keeps.refl n s
  rwa [List.map_id'] at h

/-- Shapes survive if the hidden ones among them go and the others keep what they are. -/
theorem survive_shown {f : Shape → Shape} (hf : ∀ x : Shape, x.Keeps (f x)) (n : Nat) (s : List Shape) :
    Survive m n s ((shown m s).map f) := by
  induction s with
  | nil => exact .nil
  | cons x rest ih =>
    cases hx : x.isHidden m with
    | true =>
      rw [shown_cons_of_hidden hx]
      exact .gone hx ih
    | false =>
      rw [shown_cons_of_shown hx]
      exact .stays (hf x) (hf x).ids ih

/-- A slide that is not come to keeps all its shapes. -/
theorem passesTo_refl (s : Slide) : s.PassesTo m s :=
  ⟨_, (isGreatest_ids (shown m s)).2, survive_refl _ s⟩

end Slide

/-! ## Slides that are filled -/

/-- New pictures have ids of their own: one after the other, they are behind all ids that are on the slide, those of the
shapes and `others`. -/
theorem Transformed.ids_nodup {n : Nat} {s after : List Shape} {others : List Nat} (h : Transformed m n s after)
    (hle : ∀ i ∈ others ++ Shape.idsOfAll (Slide.shown m s), i ≤ n)
    (hnodup : (others ++ Shape.idsOfAll (Slide.shown m s)).Nodup) : (others ++ Shape.idsOfAll after).Nodup := by
  -- `others` are the ids in front, to which the shapes that have been passed are added one by one.
  induction h generalizing others with
  | nil n => exact hnodup
  | hidden hx _ ih =>
    rw [Slide.shown_cons_of_hidden hx] at hle hnodup
    exact ih hle hnodup
  | @replaced n p new r note rest after hx hr hnew hid hlink _ ih =>
    rw [Slide.shown_cons_of_shown hx, Shape.idsOfAll, Shape.ids, List.singleton_append] at hle hnodup
    have hrest : ∀ i ∈ others ++ Shape.idsOfAll (Slide.shown m rest), i ≤ n := fun i hi =>
      hle i (List.mem_append.mpr ((List.mem_append.mp hi).imp_right (List.mem_cons_of_mem _)))
    have hfresh : new.id ∉ others ++ Shape.idsOfAll (Slide.shown m rest) := fun hmem => by
      have := hrest _ hmem
      omega
    have hstays : (others ++ Shape.idsOfAll (Slide.shown m rest)).Nodup :=
      hnodup.sublist ((List.sublist_cons_self _ _).append_left _)
    rw [Shape.idsOfAll, Shape.ids, List.singleton_append]
    have hbehind : (new.id :: others ++ Shape.idsOfAll after).Nodup := by
      refine ih ?_ (List.nodup_cons.mpr ⟨hfresh, hstays⟩)
      exact List.forall_mem_cons.mpr ⟨by omega, fun i hi => Nat.le_succ_of_le (hrest i hi)⟩
    exact List.perm_middle.nodup_iff.mpr hbehind
  | @kept n x rest after hx _ hkeeps _ ih =>
    rw [Slide.shown_cons_of_shown hx, Shape.idsOfAll, ← List.append_assoc] at hle hnodup
    rw [Shape.idsOfAll, hkeeps.ids, ← List.append_assoc]
    exact ih hle hnodup

/-- Of a slide that is filled, the shapes survive that are neither hidden nor replaced. -/
theorem Transformed.survive {n k : Nat} {s after : List Shape} (h : Transformed m k s after) (hn : n ≤ k) :
    Slide.Survive m n s after := by
  induction h with
  | nil k => exact .nil
  | hidden hx _ ih => exact .gone hx (ih hn)
  | replaced hx hr _ hid _ _ ih =>
    refine .replaced ?_ (by omega) (ih (by omega))
    rw [Shape.isReplaced, hx, hr]
    rfl
  | kept _ _ hkeeps _ ih => exact .stays hkeeps hkeeps.ids (ih hn)

namespace Slide

/-- The ids of the shapes that are shown are ids of the slide, in order. -/
theorem ids_shown_sublist (s : Slide) : (Slide.ids (shown m s)).Sublist (Slide.ids s) := by
  rw [Slide.ids, Slide.ids, Shape.idsOfAll_eq_flatMap, Shape.idsOfAll_eq_flatMap]
  exact (List.filter_sublist.flatMap _).cons_cons _

/-- A slide that is filled has distinct ids if it had before. -/
theorem TransformsTo.ids_nodup {s after : Slide} (h : s.TransformsTo m after) (hnodup : (Slide.ids s).Nodup) :
    (Slide.ids after).Nodup := by
  obtain ⟨n, hn, htrans⟩ := h
  have hids : ([treeId] ++ Shape.idsOfAll after).Nodup :=
    htrans.ids_nodup (fun i hi => hn.2 hi) (hnodup.sublist s.ids_shown_sublist)
  exact hids

/-- On a slide that is filled, shapes go, survive, or are replaced by new ones. -/
theorem TransformsTo.passesTo {s after : Slide} (h : s.TransformsTo m after) : s.PassesTo m after := by
  obtain ⟨n, hn, htrans⟩ := h
  exact ⟨n, fun i hi => hn.2 hi, htrans.survive le_rfl⟩

/-! ## Slides whose fill stops -/

/-- A shape that is shown stays between those that are shown around it. -/
theorem shown_append_of_shown {before behind : List Shape} {x : Shape} (hx : x.isHidden m = false) :
    shown m (before ++ x :: behind) = shown m before ++ x :: shown m behind := by
  rw [shown, List.filter_append]
  exact congrArg (shown m before ++ ·) (shown_cons_of_shown hx behind)

/-- A slide on which a fill has stopped has distinct ids if it had before. -/
theorem Stopped.ids_nodup {s left : Slide} {e : Fault} (h : s.Stopped m e left) (hnodup : (Slide.ids s).Nodup) :
    (Slide.ids left).Nodup := by
  cases h with
  | reading _ _ _ _ _ hids =>
    rw [Slide.ids, Shape.idsOfAll_congr hids]
    exact hnodup
  | @replacing before behind left p r n _ _ hn hbefore hshown =>
    -- The picture that is not replaced holds its id, and so do the shapes behind it: only the ids before it change.
    have hfront : Slide.ids (.picture { p with link := none } :: (shown m behind).map (Shape.inOnePass m)) =
        Slide.ids (.picture p :: shown m behind) := by
      rw [Slide.ids, Shape.idsOfAll, Shape.idsOfAll_map fun x => (x.inOnePass_keeps m).ids]
      rfl
    have hids := ids_append_perm (shown m before) (.picture p :: shown m behind)
    rw [shown_append_of_shown hshown] at hn
    refine (ids_append_perm left _).nodup_iff.mpr ?_
    rw [hfront]
    refine hbefore.ids_nodup (fun i hi => hn.2 (hids.mem_iff.mpr hi)) (hids.nodup_iff.mp ?_)
    rw [← shown_append_of_shown hshown]
    exact hnodup.sublist (ids_shown_sublist _)

/-- On a slide on which a fill has stopped, shapes go, survive, or are replaced by new ones. -/
theorem Stopped.passesTo {s left : Slide} {e : Fault} (h : s.Stopped m e left) : s.PassesTo m left := by
  cases h with
  | @reading before behind x _ _ hkeeps =>
    refine ⟨_, (isGreatest_ids (shown m _)).2, (survive_map (Shape.asRead_keeps m) _ before).append ?_⟩
    exact .stays hkeeps hkeeps.ids (survive_refl _ behind)
  | @replacing before behind left p r n _ _ hn hbefore =>
    refine ⟨n, hn.2, (hbefore.survive le_rfl).append ?_⟩
    exact .stays rfl rfl (survive_shown (Shape.inOnePass_keeps m) n behind)

/-! ## Fills -/

/-- A fill passes a slide on and keeps its ids distinct, whether it succeeds or stops. -/
theorem fill_passesTo (m : Mapping) (number : Nat) (s : Slide) : s.PassesTo m (fill m number s).after ∧
    ((Slide.ids s).Nodup → (Slide.ids (fill m number s).after).Nodup) := by
  cases h : (fill m number s).outcome with
  | error e => exact ⟨(fill_stopped h).passesTo, (fill_stopped h).ids_nodup⟩
  | ok t =>
    have htrans := fill_transforms (isOk_iff.mpr ⟨t, h⟩)
    exact ⟨htrans.passesTo, htrans.ids_nodup⟩

end Slide

namespace Deck

/-- A deck after a row of fills, each of which may stop. -/
def afterFills (ms : List Mapping) (d : Deck) : Deck :=
  ms.foldl (fun d m => (fill m d).after) d

/-- What is true of slides that are filled or stopped at, and of those that are not come to, is true of all slides of a
deck. -/
theorem fillFrom_forall₂ {R : Slide → Slide → Prop} (hfill : ∀ number s, R s (Slide.fill m number s).after)
    (hrefl : ∀ s, R s s) (number : Nat) (d : Deck) : List.Forall₂ R d (fillFrom m number d).after := by
  induction d generalizing number with
  | nil => exact .nil
  | cons s rest ih =>
    cases h : (Slide.fill m number s).outcome with
    | error e =>
      rw [fillFrom_cons_error h]
      exact .cons (hfill number s) (List.forall₂_same.mpr fun s _ => hrefl s)
    | ok t =>
      rw [fillFrom_cons_ok h]
      exact .cons (hfill number s) (ih (number + 1))

/-- A fill passes each slide of a deck on and keeps its ids distinct, whether it succeeds or stops. -/
theorem fill_passesTo (m : Mapping) (d : Deck) : List.Forall₂
    (fun s after => s.PassesTo m after ∧ ((Slide.ids s).Nodup → (Slide.ids after).Nodup)) d (fill m d).after := by
  rw [fill_after_eq]
  exact fillFrom_forall₂ (Slide.fill_passesTo m) (fun s => ⟨s.passesTo_refl, id⟩) 1 d

/-- A fill keeps ids distinct on all slides. -/
theorem fill_ids_nodup (m : Mapping) {d : Deck} (h : ∀ s ∈ d, (Slide.ids s).Nodup) :
    ∀ s ∈ (fill m d).after, (Slide.ids s).Nodup := by
  have hfill := fill_passesTo m d
  generalize (fill m d).after = after at hfill ⊢
  induction hfill with
  | nil => exact h
  | cons hs _ ih =>
    obtain ⟨hfirst, hrest⟩ := List.forall_mem_cons.mp h
    exact List.forall_mem_cons.mpr ⟨hs.2 hfirst, ih hrest⟩

end Deck

/-- Slides that are passed on by one fill and then by others have a lineage. -/
theorem Slide.forall₂_lineage {m : Mapping} {ms : List Mapping} {d next after : Deck}
    (hfirst : List.Forall₂ (Slide.PassesTo m) d next) (hrest : List.Forall₂ (Slide.Lineage ms) next after) :
    List.Forall₂ (Slide.Lineage (m :: ms)) d after := by
  induction hfirst generalizing after with
  | nil =>
    cases hrest
    exact .nil
  | cons hs _ ih =>
    cases hrest with
    | cons hs' hrest => exact .cons (.cons hs hs') (ih hrest)

/-- Fills in a row, each of which may stop midway, leave the ids on every slide apart if they were so before; and of a
slide, each shape that is neither hidden nor replaced by one of the fills keeps its ids through all of them. -/
theorem fills_keep_ids_apart (ms : List Mapping) (d : Deck) (h : ∀ s ∈ d, (Slide.ids s).Nodup) :
    (∀ s ∈ d.afterFills ms, (Slide.ids s).Nodup) ∧ List.Forall₂ (Slide.Lineage ms) d (d.afterFills ms) := by
  induction ms generalizing d with
  | nil => exact ⟨h, List.forall₂_same.mpr fun s _ => .nil s⟩
  | cons m ms ih =>
    obtain ⟨hapart, hlineage⟩ := ih _ (Deck.fill_ids_nodup m h)
    exact ⟨hapart, Slide.forall₂_lineage ((Deck.fill_passesTo m d).imp fun _ _ => And.left) hlineage⟩

namespace IdentityWitness

/-- A mapping that hides what carries one variable, and has an image for all others. -/
def mapping (name : String) : Mapping :=
  { Mapping.silent with
    hide := fun v => some (v.name == name)
    image := fun _ => some ⟨.picture ⟨.png, ⟨.rgb, 1, [[0, 0, 255]]⟩⟩, .made .png, .made .crop⟩ }

/-- A picture with a variable, which may lack a position. -/
def picture (id : Nat) (name : String) (anchor : Option Anchor) : Shape :=
  .picture ⟨id, "Picture", some ⟨.external ("$/" ++ name ++ "/"), none⟩, anchor, ⟨.png, ⟨.rgb, 1, [[0, 0, 0]]⟩⟩⟩

/-- A deck whose first fill stops: of the pictures on the first slide, the last one has no position. The box that is
hidden has the greatest id, the next one is that of a line in a group. -/
def deck : Deck :=
  [[.text ⟨12, "Note", some ⟨.external "$/secret/", none⟩, []⟩, picture 3 "logo" (some ⟨0, 0, 12700, 12700⟩),
      .group 4 "Group" [.connector 9 "Line"], picture 5 "badge" none],
    [picture 2 "badge" (some ⟨0, 0, 12700, 12700⟩), picture 7 "logo" (some ⟨0, 0, 12700, 12700⟩)]]

end IdentityWitness

open IdentityWitness in
/-- A fill that stops and one after it leave distinct ids. -/
theorem fills_keep_ids_apart_twice :
    (∀ s ∈ deck, (Slide.ids s).Nodup) ∧
      (Deck.fill (mapping "secret") deck).outcome = .error (.noAnchor "Picture") ∧
      (∀ s ∈ deck.afterFills [mapping "secret", mapping "logo"], (Slide.ids s).Nodup) ∧
      List.Forall₂ (Slide.Lineage [mapping "secret", mapping "logo"]) deck
        (deck.afterFills [mapping "secret", mapping "logo"]) := by
  have hids : ∀ s ∈ deck, (Slide.ids s).Nodup := by decide +kernel
  exact ⟨hids, by decide +kernel, fills_keep_ids_apart _ deck hids⟩

end SlideFill
