import Mathlib.Data.List.Basic

/-!
# Lists in parts and without doubles

Facts on lists that both the grouping of issues and the accounts of links use: what erasing duplicates leaves, and how the
items that each part of a list comes to stand among those that all parts come to.
-/

namespace SlideFill

section eraseDups

variable {α : Type} [BEq α] [LawfulBEq α]

/-- Nothing stands twice where duplicates are erased. -/
theorem nodup_eraseDups : (l : List α) → l.eraseDups.Nodup
  | [] => List.nodup_nil
  | x :: rest => by
    rw [List.eraseDups_cons, List.nodup_cons]
    refine ⟨fun hx => ?_, nodup_eraseDups _⟩
    simp [List.mem_eraseDups] at hx
termination_by l => l.length
decreasing_by exact Nat.lt_succ_of_le (List.length_filter_le _ _)

/-- One more item counts if it has not been there yet. -/
theorem eraseDups_concat (l : List α) (x : α) [Decidable (x ∈ l)] :
    (l ++ [x]).eraseDups = if x ∈ l then l.eraseDups else l.eraseDups ++ [x] := by
  rw [List.eraseDups_append]
  by_cases h : x ∈ l
  · have hold : [x].removeAll l = [] := by simpa [List.removeAll] using h
    rw [if_pos h, hold, List.eraseDups_nil, List.append_nil]
  · have hnew : [x].removeAll l = [x] := by simpa [List.removeAll] using h
    rw [if_neg h, hnew, List.eraseDups_cons, List.filter_nil, List.eraseDups_nil]

end eraseDups

section flatMap

variable {α β : Type}

/-- What one item comes to stands in a row within what all come to. -/
theorem infix_flatMap {a : α} {as : List α} (h : a ∈ as) (f : α → List β) : f a <:+: as.flatMap f := by
  rw [List.flatMap_def]
  exact List.infix_of_mem_flatten (List.mem_map_of_mem h)

/-- If each part counts no more in one list than in another, so do all parts together. -/
theorem count_flatMap_le [BEq β] {f g : α → List β} {b : β} {as : List α}
    (h : ∀ a ∈ as, (f a).count b ≤ (g a).count b) : (as.flatMap f).count b ≤ (as.flatMap g).count b := by
  induction as with
  | nil => exact Nat.le_refl _
  | cons a rest ih =>
    obtain ⟨ha, hrest⟩ := List.forall_mem_cons.mp h
    rw [List.flatMap_cons, List.flatMap_cons, List.count_append, List.count_append]
    exact Nat.add_le_add ha (ih hrest)

end flatMap

end SlideFill
