import Mathlib.Order.Bounds.Basic
import SlideFill.Deck.Basic

/-!
# The greatest id of a slide

A new shape gets the id behind the greatest on the slide (`Slide.nextId_eq`), and is then the one with the greatest id
(`Slide.isGreatest_ids_replace`).
-/

namespace SlideFill

namespace Shape

/-- The ids of shapes are those of each, in order. -/
theorem idsOfAll_eq_flatMap (shapes : List Shape) : idsOfAll shapes = shapes.flatMap ids := by
  induction shapes with
  | nil => rfl
  | cons s rest ih => rw [idsOfAll, List.flatMap_cons, ih]

/-- The ids of two rows of shapes stand one behind the other. -/
theorem idsOfAll_append (a b : List Shape) : idsOfAll (a ++ b) = idsOfAll a ++ idsOfAll b := by
  simp only [idsOfAll_eq_flatMap, List.flatMap_append]

/-- Shapes that have the same ids one by one have them together. -/
theorem idsOfAll_congr {a b : List Shape} (h : a.map ids = b.map ids) : idsOfAll a = idsOfAll b := by
  simp only [idsOfAll_eq_flatMap, List.flatMap_def, h]

/-- Shapes that keep their ids keep them together. -/
theorem idsOfAll_map {f : Shape → Shape} (h : ∀ s, (f s).ids = s.ids) (shapes : List Shape) :
    idsOfAll (shapes.map f) = idsOfAll shapes := by
  apply idsOfAll_congr
  rw [List.map_map]
  exact List.map_congr_left fun s _ => h s

end Shape

namespace Slide

/-- The ids of a slide, those of the shapes behind coming last. -/
theorem ids_append_perm (behind front : List Shape) :
    (Slide.ids (behind ++ front)).Perm (Slide.ids front ++ Shape.idsOfAll behind) := by
  rw [Slide.ids, Slide.ids, Shape.idsOfAll_append, List.cons_append]
  exact List.perm_append_comm.cons _

/-- The largest id of a slide is one of its ids. -/
theorem isGreatest_ids (s : Slide) : IsGreatest {i | i ∈ Slide.ids s} ((Slide.ids s).foldl max 0) := by
  have hmax : (Slide.ids s).max? = some ((Slide.ids s).foldl max 0) := List.max?_cons'
  obtain ⟨hmem, hle⟩ := List.max?_eq_some_iff.mp hmax
  exact ⟨hmem, fun i hi => hle i hi⟩

/-- A new shape gets the id behind the greatest. -/
theorem nextId_eq {s : Slide} {n : Nat} (h : IsGreatest {i | i ∈ Slide.ids s} n) : Slide.nextId s = n + 1 := by
  rw [nextId, (isGreatest_ids s).unique h]

/-- A picture that takes the place of another one and has the next id has the greatest id. -/
theorem isGreatest_ids_replace {behind front : List Shape} {old new : Picture} {n : Nat}
    (h : IsGreatest {i | i ∈ Slide.ids (behind ++ .picture old :: front)} n) (hnew : new.id = n + 1) :
    IsGreatest {i | i ∈ Slide.ids (behind ++ .picture new :: front)} (n + 1) := by
  have hle : ∀ i ∈ Slide.ids (behind ++ .picture old :: front), i ≤ n := fun i hi => h.2 hi
  simp only [Slide.ids, Shape.idsOfAll_append, Shape.idsOfAll, Shape.ids, List.mem_cons, List.mem_append,
    List.not_mem_nil, or_false] at hle
  constructor
  · simp [Slide.ids, Shape.idsOfAll_append, Shape.idsOfAll, Shape.ids, hnew]
  · intro i hi
    replace hi : i ∈ Slide.ids (behind ++ .picture new :: front) := hi
    simp only [Slide.ids, Shape.idsOfAll_append, Shape.idsOfAll, Shape.ids, List.mem_cons, List.mem_append,
      List.not_mem_nil, or_false, hnew] at hi
    rcases hi with rfl | hi | rfl | hi
    · exact Nat.le_succ_of_le (hle _ (.inl rfl))
    · exact Nat.le_succ_of_le (hle i (.inr (.inl hi)))
    · exact Nat.le_refl _
    · exact Nat.le_succ_of_le (hle i (.inr (.inr (.inr hi))))

end Slide

end SlideFill
