import SlideFill.Fill.Text

/-!
# What is left after removing positions

Positions are removed one after the other from a list that shrinks. `removePositions_eq` says what that comes to if all
of them are in the list: the items that stand at other positions are left, in their order.
-/

namespace SlideFill

namespace Positions

variable {α : Type}

/-- The items that do not stand at any of some positions, the first item standing at `p`. -/
def others (positions : List Int) : Int → List α → List α
  | _, [] => []
  | p, x :: xs => if p ∈ positions then others positions (p + 1) xs else x :: others positions (p + 1) xs

/-! ## Positions in ascending order -/

/-- Inserting a position adds it and no other. -/
theorem mem_insert {i j : Int} {positions : List Int} : j ∈ insert i positions ↔ j = i ∨ j ∈ positions := by
  induction positions with
  | nil => simp [insert]
  | cons k rest ih =>
    simp only [insert]
    split
    · simp
    · split
      · rename_i h
        simp [h]
      · simp only [List.mem_cons, ih]
        exact or_left_comm

/-- Positions ascend after another one is inserted. -/
theorem insert_pairwise {i : Int} {positions : List Int} (h : positions.Pairwise (· < ·)) :
    (insert i positions).Pairwise (· < ·) := by
  induction positions with
  | nil => simp [insert]
  | cons k rest ih =>
    obtain ⟨hk, hrest⟩ := List.pairwise_cons.mp h
    simp only [insert]
    split
    · rename_i hik
      refine List.pairwise_cons.mpr ⟨?_, h⟩
      intro j hj
      rcases List.mem_cons.mp hj with rfl | hj
      · exact hik
      · exact Int.lt_trans hik (hk j hj)
    · split
      · exact h
      · refine List.pairwise_cons.mpr ⟨?_, ih hrest⟩
        intro j hj
        rcases mem_insert.mp hj with rfl | hj
        · omega
        · exact hk j hj

/-- Putting positions in order neither adds nor loses one. -/
theorem mem_ascending {j : Int} {positions : List Int} : j ∈ ascending positions ↔ j ∈ positions := by
  induction positions with
  | nil => rfl
  | cons i rest ih =>
    rw [ascending, List.foldr_cons, mem_insert, List.mem_cons]
    exact or_congr_right ih

/-- Positions put in order ascend, without doubles. -/
theorem ascending_pairwise (positions : List Int) : (ascending positions).Pairwise (· < ·) := by
  induction positions with
  | nil => exact List.Pairwise.nil
  | cons i rest ih => exact insert_pairwise ih

/-! ## The items at other positions -/

/-- What stands elsewhere is found part by part. -/
theorem others_append (positions : List Int) (p : Int) (a b : List α) :
    others positions p (a ++ b) = others positions p a ++ others positions (p + a.length) b := by
  induction a generalizing p with
  | nil => simp [others]
  | cons x a ih =>
    have hp : p + 1 + (a.length : Int) = p + ((x :: a).length : Int) := by
      rw [List.length_cons]
      omega
    simp only [List.cons_append, others, ih, hp]
    split <;> rfl

/-- Positions in front of a list do not matter. -/
theorem others_congr {positions positions' : List Int} {p : Int} {xs : List α}
    (h : ∀ i, p ≤ i → (i ∈ positions ↔ i ∈ positions')) : others positions p xs = others positions' p xs := by
  induction xs generalizing p with
  | nil => rfl
  | cons x xs ih =>
    have hrest := ih (p := p + 1) fun i hi => h i (by omega)
    simp only [others, h p (Int.le_refl p), hrest]

/-- If all positions lie behind a list, all of it stands elsewhere. -/
theorem others_eq_self {positions : List Int} {p : Int} {xs : List α} (h : ∀ i ∈ positions, p + xs.length ≤ i) :
    others positions p xs = xs := by
  induction xs generalizing p with
  | nil => rfl
  | cons x xs ih =>
    have hp : p ∉ positions := by
      intro hmem
      have := h p hmem
      rw [List.length_cons] at this
      omega
    rw [others, if_neg hp, ih]
    intro i hi
    have := h i hi
    rw [List.length_cons] at this
    omega

/-! ## Removal -/

/-- Popping the item behind a list of known length. -/
theorem pop_append (done : List α) (x : α) (rest : List α) {i : Int} (hi : i = done.length) :
    pop (done ++ x :: rest) i = .ok (done ++ rest) := by
  have hlen : ((done ++ x :: rest).length : Int) = done.length + rest.length + 1 := by
    rw [List.length_append, List.length_cons]
    omega
  rw [pop]
  simp only [if_neg (show ¬i < 0 by omega)]
  rw [if_pos (by omega), hi, Int.toNat_natCast, List.eraseIdx_append_of_length_le (Nat.le_refl _), Nat.sub_self]
  rfl

/-- The invariant of the removal: `done` is settled, `removed` items have gone from it, and what stands behind it stood
from position `p` on before any removal. -/
theorem removeFrom_eq {positions : List Int} (hasc : positions.Pairwise (· < ·)) (done tail : List α) (p : Int)
    (removed : Nat) (hdone : (done.length : Int) = p - removed)
    (hin : ∀ i ∈ positions, p ≤ i ∧ i < p + tail.length) :
    removeFrom removed positions (done ++ tail) =
      (done ++ others positions p tail, .ok (removed + positions.length)) := by
  induction positions generalizing done tail p removed with
  | nil => rw [removeFrom, others_eq_self (by simp), List.length_nil, Nat.add_zero]
  | cons i rest ih =>
    obtain ⟨hi, hrest⟩ := List.pairwise_cons.mp hasc
    obtain ⟨hpi, hlt⟩ := hin i List.mem_cons_self
    obtain ⟨k, rfl⟩ : ∃ k : Nat, i = p + k := ⟨(i - p).toNat, by omega⟩
    have hk : k < tail.length := by omega
    -- The next item to go is `x`; what stands before it joins what is settled.
    obtain ⟨a, x, b, rfl, rfl⟩ : ∃ a x b, tail = a ++ x :: b ∧ a.length = k :=
      ⟨tail.take k, tail[k], tail.drop (k + 1), by rw [← List.drop_eq_getElem_cons, List.take_append_drop],
        by rw [List.length_take]; omega⟩
    have hsplit : others ((p + a.length) :: rest) p (a ++ x :: b) = a ++ others rest (p + a.length + 1) b := by
      rw [others_append, others, if_pos List.mem_cons_self, others_eq_self]
      · congr 1
        apply others_congr
        intro j hj
        rw [List.mem_cons]
        exact or_iff_right (by omega)
      · intro j hj
        rcases List.mem_cons.mp hj with rfl | hj
        · exact Int.le_refl _
        · exact Int.le_of_lt (hi j hj)
    rw [hsplit, removeFrom, ← List.append_assoc, pop_append (done ++ a) x b (by rw [List.length_append]; omega)]
    simp only
    rw [ih hrest (done ++ a) b (p + a.length + 1) (removed + 1), List.length_cons, List.append_assoc, Nat.add_assoc,
      Nat.add_comm 1]
    · rw [List.length_append]
      omega
    · intro j hj
      have := hi j hj
      have := (hin j (List.mem_cons_of_mem _ hj)).2
      rw [List.length_append, List.length_cons] at this
      omega

end Positions

/-- Removing positions of a list leaves the items at all others, in their order. -/
theorem removePositions_eq {α : Type} {positions : List Int} {xs : List α}
    (h : ∀ i ∈ positions, 0 ≤ i ∧ i < xs.length) :
    removePositions positions xs =
      (Positions.others positions 0 xs, .ok (Positions.ascending positions).length) := by
  have hin : ∀ i ∈ Positions.ascending positions, 0 ≤ i ∧ i < 0 + (xs.length : Int) := by
    intro i hi
    have := h i (Positions.mem_ascending.mp hi)
    omega
  have hrun := Positions.removeFrom_eq (Positions.ascending_pairwise positions) [] xs 0 0 rfl hin
  rw [Positions.others_congr fun i _ => Positions.mem_ascending] at hrun
  simpa [removePositions] using hrun

/-! ## Removing what is flagged -/

/-- The flagged positions are those of flags that are up. -/
theorem mem_flagged {flags : List Bool} {i : Int} :
    i ∈ flagged flags ↔ ∃ k : Nat, flags[k]? = some true ∧ (k : Int) = i := by
  simp only [flagged, List.mem_filterMap, Prod.exists, List.mem_zipIdx_iff_getElem?]
  constructor
  · rintro ⟨flag, k, hk, hi⟩
    cases flag with
    | true => exact ⟨k, hk, Option.some.inj hi⟩
    | false => cases hi
  · rintro ⟨k, hk, rfl⟩
    exact ⟨true, k, hk, rfl⟩

/-- Of items and their flags, those are left whose flag is not set. -/
theorem others_flagged {α β : Type} (f : α → β) (flag : α → Bool) (positions : List Int) (p : Int) (xs : List α)
    (h : ∀ k : Nat, ∀ x, xs[k]? = some x → (p + k ∈ positions ↔ flag x)) :
    Positions.others positions p (xs.map f) = (xs.filter (!flag ·)).map f := by
  induction xs generalizing p with
  | nil => rfl
  | cons x xs ih =>
    have hx : p ∈ positions ↔ flag x := by simpa using h 0 x rfl
    have hrest : Positions.others positions (p + 1) (xs.map f) = (xs.filter (!flag ·)).map f := by
      apply ih
      intro k y hy
      have hk : p + 1 + (k : Int) = p + (k + 1 : Nat) := by omega
      rw [hk]
      exact h (k + 1) y hy
    rw [List.map_cons, Positions.others, hrest]
    by_cases hflag : flag x
    · rw [if_pos (hx.mpr hflag), List.filter_cons_of_neg (by simpa using hflag)]
    · rw [if_neg (fun hp => hflag (hx.mp hp)), List.filter_cons_of_pos (by simpa using hflag)]
      rfl

/-- Removing what is flagged leaves the items whose flag is not set. -/
theorem removePositions_flagged {α β : Type} (f : α → β) (flag : α → Bool) (xs : List α) :
    (removePositions (flagged (xs.map flag)) (xs.map f)).1 = (xs.filter (!flag ·)).map f := by
  rw [removePositions_eq]
  · apply others_flagged
    intro k x hx
    rw [mem_flagged, Int.zero_add]
    constructor
    · rintro ⟨k', hk', heq⟩
      rw [Int.ofNat.inj heq] at hk'
      simpa [hx] using hk'
    · intro hflag
      exact ⟨k, by simp [hx, hflag], rfl⟩
  · intro i hi
    obtain ⟨k, hk, rfl⟩ := mem_flagged.mp hi
    have := (List.getElem?_eq_some_iff.mp hk).1
    rw [List.length_map] at this ⊢
    omega

end SlideFill
