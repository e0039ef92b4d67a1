import Mathlib.Data.List.Pairwise
import SlideFill.Variable.Substitution

/-!
# Where occurrences lie

The scan for variables goes from left to right and skips a variable it has found as a whole, so occurrences are
stretches of the text that are not empty, in order and apart (`occurrences_pairwise`). What is said of occurrences here
holds of the edits made from them too.
-/

namespace SlideFill

namespace Variable

/-- An occurrence found from an offset on lies behind what is skipped and within the text, and is not empty. -/
theorem occurrencesFrom_bounds (i skip : Nat) (cs : List Char) :
    ∀ o ∈ occurrencesFrom i skip cs, i + skip ≤ o.start ∧ o.start < o.stop ∧ o.stop ≤ i + cs.length := by
  fun_induction occurrencesFrom i skip cs with
  | case1 => simp
  | case2 i skip c rest ih =>
    intro o ho
    have := ih o ho
    simp only [List.length_cons]
    omega
  | case3 i c rest hlead ih =>
    intro o ho
    have := ih o ho
    simp only [List.length_cons]
    omega
  | case4 i c rest v after hlead width ih =>
    intro o ho
    have hwidth : width ≤ rest.length := Nat.sub_le ..
    rcases List.mem_cons.mp ho with rfl | ho
    · simp only [List.length_cons]
      omega
    · have := ih o ho
      simp only [List.length_cons]
      omega

/-- An occurrence ends before the next one starts. -/
theorem occurrencesFrom_pairwise (i skip : Nat) (cs : List Char) :
    (occurrencesFrom i skip cs).Pairwise fun a b => a.stop ≤ b.start := by
  fun_induction occurrencesFrom i skip cs with
  | case1 => exact List.Pairwise.nil
  | case2 i skip c rest ih => exact ih
  | case3 i c rest hlead ih => exact ih
  | case4 i c rest v after hlead width ih =>
    refine List.Pairwise.cons ?_ ih
    intro o ho
    exact (occurrencesFrom_bounds _ _ _ o ho).1

/-- Variables in a text come one after the other. -/
theorem occurrences_pairwise (t : String) : (occurrences t).Pairwise fun a b => a.stop ≤ b.start :=
  occurrencesFrom_pairwise 0 0 t.toList

/-- An occurrence is not empty and lies within the text. -/
theorem occurrences_bounds {t : String} {o : Occurrence} (h : o ∈ occurrences t) :
    o.start < o.stop ∧ o.stop ≤ t.length := by
  have := occurrencesFrom_bounds 0 0 t.toList o h
  rw [← String.length_toList]
  omega

end Variable

namespace Edit

/-- Edits in order and apart, none of them of an empty stretch. -/
structure InOrder (edits : List Edit) : Prop where
  nonempty : ∀ e ∈ edits, e.start < e.stop
  apart : edits.Pairwise fun a b => a.stop ≤ b.start

/-- Edits in order stay in order without the first one. -/
theorem InOrder.tail {e : Edit} {edits : List Edit} (h : InOrder (e :: edits)) : InOrder edits :=
  ⟨fun e he => h.nonempty e (List.mem_cons_of_mem _ he), h.apart.of_cons⟩

/-- The first of edits in order replaces some text. -/
theorem InOrder.head_nonempty {e : Edit} {edits : List Edit} (h : InOrder (e :: edits)) : e.start < e.stop :=
  h.nonempty e List.mem_cons_self

/-- All edits behind the first one start where it has ended. -/
theorem InOrder.stop_le_start {e : Edit} {edits : List Edit} (h : InOrder (e :: edits)) :
    ∀ f ∈ edits, e.stop ≤ f.start :=
  (List.pairwise_cons.mp h.apart).1

end Edit

namespace Asked

variable {α β : Type} (ask : α → Asked β) (xs : List α)

/-- The answers for a list are those for its items. -/
theorem each_answer : (each ask xs).answer = xs.map fun x => (ask x).answer := by
  induction xs with
  | nil => rfl
  | cons x rest ih => rw [each, ih, List.map_cons]

/-- The questions about a list are those about its items, one after the other. -/
theorem each_queries : (each ask xs).queries = xs.flatMap fun x => (ask x).queries := by
  induction xs with
  | nil => rfl
  | cons x rest ih => rw [each, ih, List.flatMap_cons]

end Asked

section editsOf

variable (ask : Variable → Asked (Option String)) (text : String)

/-- The edits of a text, as they follow from the answers for its occurrences. -/
theorem editsOf_answer :
    (editsOf ask text).answer = (Variable.occurrences text).filterMap fun o => editOf? o (ask o.var).answer := by
  simp [editsOf, Asked.map, Asked.each_answer, List.filterMap_map]

/-- Each variable within a text is asked about, from left to right. -/
theorem editsOf_queries :
    (editsOf ask text).queries = (Variable.occurrences text).flatMap fun o => (ask o.var).queries := by
  simp [editsOf, Asked.map, Asked.each_queries]

variable {ask text}

/-- An edit made from a text stands for an occurrence that has a value. -/
theorem mem_editsOf {e : Edit} :
    e ∈ (editsOf ask text).answer ↔
      ∃ o ∈ Variable.occurrences text, ∃ v, (ask o.var).answer = some v ∧ ⟨o.start, o.stop, v.toList⟩ = e := by
  simp only [editsOf_answer, editOf?, List.mem_filterMap, Option.map_eq_some_iff]

/-- An edit made from a text lies within it. -/
theorem stop_le_of_mem_editsOf {e : Edit} (h : e ∈ (editsOf ask text).answer) : e.stop ≤ text.length := by
  obtain ⟨o, ho, v, -, rfl⟩ := mem_editsOf.mp h
  exact (Variable.occurrences_bounds ho).2

variable (ask text)

/-- The edits made from a text are in order and apart. -/
theorem editsOf_inOrder : Edit.InOrder (editsOf ask text).answer := by
  refine ⟨?_, ?_⟩
  · intro e he
    obtain ⟨o, ho, v, -, rfl⟩ := mem_editsOf.mp he
    exact (Variable.occurrences_bounds ho).1
  · rw [editsOf_answer, List.pairwise_filterMap]
    refine (Variable.occurrences_pairwise text).imp ?_
    intro a b hab e he f hf
    obtain ⟨v, -, rfl⟩ := Option.map_eq_some_iff.mp he
    obtain ⟨w, -, rfl⟩ := Option.map_eq_some_iff.mp hf
    exact hab

end editsOf

end SlideFill
