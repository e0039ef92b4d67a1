import Mathlib.Data.Finset.Card
import Mathlib.Data.Finset.Max
import SlideFill.Proofs.Fill.Positions

/-!
# Positions in any order, and beyond the end

Positions are removed from the least on, so those that a list has are gone before it refuses the first that it does not
have. Main statement: `removePositions_leaves_elsewhere`. Which fault a list refuses a position with depends on how far
beyond the end the position is (`removePositions_noSuchPosition_false`).
-/

namespace SlideFill

variable {α : Type} {positions : List Int} {xs : List α}

namespace Positions

/-- The items that stand at none of some positions, in their order. -/
def elsewhere (positions : List Int) (xs : List α) : List α :=
  (xs.zipIdx.filter fun (_, k) => (k : Int) ∉ positions).map Prod.fst

/-- Those of some positions that are not beyond the end of a list. -/
def within (positions : List Int) (xs : List α) : List Int :=
  positions.filter (· < (xs.length : Int))

/-- The fault with which a list refuses a position beyond its end. -/
def refusal (xs : List α) (i : Int) : Fault :=
  if i < bound then .noSuchPosition xs.isEmpty else .positionTooLarge

/-! ## Items and positions -/

/-- What stands elsewhere, told by the place of each item from a given one on. -/
theorem others_eq_filter (positions : List Int) (p : Nat) (xs : List α) :
    others positions p xs = ((xs.zipIdx p).filter fun (_, k) => (k : Int) ∉ positions).map Prod.fst := by
  induction xs generalizing p with
  | nil => rfl
  | cons x xs ih =>
    have hrest := ih (p + 1)
    rw [Int.natCast_add, Int.natCast_one] at hrest
    by_cases hp : (p : Int) ∈ positions
    · simp [others, hp, hrest]
    · simp [others, hp, hrest]

/-- Told from the first place on, it is what stands elsewhere. -/
theorem others_eq_elsewhere (positions : List Int) (xs : List α) : others positions 0 xs = elsewhere positions xs :=
  others_eq_filter positions 0 xs

/-- The positions within a list are those below its length. -/
theorem mem_within {i : Int} : i ∈ within positions xs ↔ i ∈ positions ∧ i < xs.length := by
  simp [within]

/-- Ascending positions are as many as there are different ones among those they come from. -/
theorem length_eq_card {asc : List Int} (hasc : asc.Pairwise (· < ·)) (hmem : ∀ i, i ∈ asc ↔ i ∈ positions) :
    asc.length = positions.toFinset.card := by
  have hsame : asc.toFinset = positions.toFinset := by
    ext i
    rw [List.mem_toFinset, List.mem_toFinset, hmem]
  rw [← hsame, List.toFinset_card_of_nodup (hasc.imp Int.ne_of_lt)]

/-- In ascending order, just the positions that a list has come before the least beyond its end. -/
theorem ascending_eq_append {i : Int} (hleast : IsLeast {j | j ∈ positions ∧ xs.length ≤ j} i) :
    ∃ front behind, ascending positions = front ++ i :: behind ∧ front.Pairwise (· < ·) ∧
      ∀ j, j ∈ front ↔ j ∈ within positions xs := by
  obtain ⟨⟨hi, hlen⟩, hle⟩ := hleast
  obtain ⟨front, behind, hsplit⟩ := List.append_of_mem (mem_ascending.mpr hi)
  have hasc := ascending_pairwise positions
  rw [hsplit] at hasc
  obtain ⟨hfront, hrest, hlt⟩ := List.pairwise_append.mp hasc
  refine ⟨front, behind, hsplit, hfront, fun j => ?_⟩
  have hmem : j ∈ positions ↔ j ∈ front ∨ j = i ∨ j ∈ behind := by
    rw [← mem_ascending, hsplit, List.mem_append, List.mem_cons]
  rw [mem_within, hmem]
  constructor
  · intro hj
    have hji := hlt j hj i List.mem_cons_self
    exact ⟨.inl hj, Int.not_le.mp fun hjlen => Int.not_le.mpr hji (hle ⟨hmem.mpr (.inl hj), hjlen⟩)⟩
  · rintro ⟨hj | rfl | hj, hjlen⟩
    · exact hj
    · exact absurd hlen (Int.not_le.mpr hjlen)
    · have hij := List.rel_of_pairwise_cons hrest hj
      omega

/-! ## Popping and removing -/

/-- Popping takes one item. -/
theorem length_of_pop {i : Int} {ys : List α} (h : pop xs i = .ok ys) : ys.length + 1 = xs.length := by
  simp only [pop] at h
  generalize (if i < 0 then i + xs.length else i) = j at h
  split at h
  · rename_i hj
    obtain rfl := Except.ok.inj h
    rw [List.length_eraseIdx_of_lt (by omega)]
    omega
  · split at h <;> cases h

/-- Nothing can be taken out beyond the end. -/
theorem pop_beyond {i : Int} (h : xs.length ≤ i) : pop xs i = .error (refusal xs i) := by
  have hbound : ¬i < -bound := by
    rw [bound]
    omega
  rw [pop, refusal]
  simp only [if_neg (show ¬i < 0 by omega)]
  rw [if_neg (by omega)]
  by_cases hi : i < bound
  · rw [if_pos hi, if_neg (by omega)]
  · rw [if_neg hi, if_pos (by omega)]

/-- Removing takes one item for each position. -/
theorem length_of_removeFrom {removed n : Nat} {left : List α} (h : removeFrom removed positions xs = (left, .ok n)) :
    left.length + n = xs.length + removed := by
  induction positions generalizing removed xs with
  | nil =>
    obtain ⟨rfl, hn⟩ := Prod.mk.inj h
    rw [Except.ok.inj hn]
  | cons i rest ih =>
    rw [removeFrom] at h
    split at h
    · cases h
    · rename_i ys hpop
      have := ih h
      have := length_of_pop hpop
      omega

/-- Positions behind others are removed from what these leave. -/
theorem removeFrom_append {removed n : Nat} {front : List Int} (behind : List Int) {left : List α}
    (h : removeFrom removed front xs = (left, .ok n)) :
    removeFrom removed (front ++ behind) xs = removeFrom n behind left := by
  induction front generalizing removed xs with
  | nil =>
    obtain ⟨rfl, hn⟩ := Prod.mk.inj h
    rw [List.nil_append, Except.ok.inj hn]
  | cons i rest ih =>
    rw [removeFrom] at h
    rw [List.cons_append, removeFrom]
    split at h
    · cases h
    · exact ih h

end Positions

open Positions

/-- If a list has all positions, the items elsewhere are left. -/
theorem removePositions_within (hpos : ∀ i ∈ positions, 0 ≤ i) (hin : ∀ i ∈ positions, i < xs.length) :
    removePositions positions xs = (elsewhere positions xs, .ok positions.toFinset.card) := by
  rw [removePositions_eq fun i hi => ⟨hpos i hi, hin i hi⟩, others_eq_elsewhere,
    length_eq_card (ascending_pairwise positions) fun _ => mem_ascending]

/-- If a list lacks some positions, those that it has are removed, and then it refuses the least of the others. -/
theorem removePositions_beyond (hpos : ∀ i ∈ positions, 0 ≤ i) {i : Int}
    (hleast : IsLeast {j | j ∈ positions ∧ xs.length ≤ j} i) :
    removePositions positions xs =
      (elsewhere (within positions xs) xs,
        .error (refusal (elsewhere (within positions xs) xs) (i - (within positions xs).toFinset.card))) := by
  obtain ⟨front, behind, hsplit, hfront, hmem⟩ := ascending_eq_append hleast
  have hin : ∀ j ∈ front, 0 ≤ j ∧ j < 0 + (xs.length : Int) := by
    intro j hj
    obtain ⟨hj, hlt⟩ := mem_within.mp ((hmem j).mp hj)
    have := hpos j hj
    omega
  -- the positions in front are all within the list, so that their part of the run does not fail
  have hrun := removeFrom_eq hfront [] xs 0 0 rfl hin
  rw [others_congr fun j _ => hmem j, others_eq_elsewhere, length_eq_card hfront hmem, List.nil_append, List.nil_append,
    Nat.zero_add] at hrun
  have hlength := length_of_removeFrom hrun
  have hlen := hleast.1.2
  rw [removePositions, hsplit, removeFrom_append _ hrun, removeFrom, pop_beyond (by omega)]

/-- Positions may come in any order and more than once. If none is negative and a list has them all, the items elsewhere
are left in their order, and as many are gone as there are different positions. If some are beyond the end, the items
that stand at none of those within are left, and the list refuses the least position beyond its end, moved down by the
number of items that are gone. -/
theorem removePositions_leaves_elsewhere (positions : List Int) (xs : List α) (hpos : ∀ i ∈ positions, 0 ≤ i) :
    ((∀ i ∈ positions, i < xs.length) →
      removePositions positions xs = (elsewhere positions xs, .ok positions.toFinset.card)) ∧
    ((∃ i ∈ positions, xs.length ≤ i) →
      ∃ i, IsLeast {j | j ∈ positions ∧ xs.length ≤ j} i ∧
        removePositions positions xs =
          (elsewhere (within positions xs) xs,
            .error (refusal (elsewhere (within positions xs) xs) (i - (within positions xs).toFinset.card)))) := by
  refine ⟨removePositions_within hpos, fun ⟨i, hi, hlen⟩ => ?_⟩
  have hsome : (positions.toFinset.filter ((xs.length : Int) ≤ ·)).Nonempty := ⟨i, by simp [hi, hlen]⟩
  have hleast := Finset.isLeast_min' _ hsome
  simp only [Finset.coe_filter, List.mem_toFinset] at hleast
  exact ⟨_, hleast, removePositions_beyond hpos hleast⟩

namespace RemovalWitness

/-- Some letters, all of them different. -/
def letters : List Char := ['a', 'b', 'c', 'd', 'e', 'f']

/-- Positions that all are within the letters, one of them twice. -/
def inside : List Int := [4, 1, 3, 1]

/-- Positions of which two are beyond the letters, one of them too large for any list. -/
def astray : List Int := [0x8000000000000000, 0, 7, 2, 0]

end RemovalWitness

open RemovalWitness in
/-- Letters are taken out within the list, also where a position beyond it is refused later. -/
theorem removePositions_leaves_elsewhere_letters :
    (∀ i ∈ inside, 0 ≤ i) ∧ (∀ i ∈ inside, i < letters.length) ∧
      removePositions inside letters = (['a', 'c', 'f'], .ok 3) ∧
      (∀ i ∈ astray, 0 ≤ i) ∧ (∃ i ∈ astray, letters.length ≤ i) ∧
      removePositions astray letters = (['b', 'd', 'e', 'f'], .error (.noSuchPosition false)) := by
  have hpos : ∀ i ∈ inside, 0 ≤ i := by decide
  have hin : ∀ i ∈ inside, i < letters.length := by decide
  have hpos' : ∀ i ∈ astray, 0 ≤ i := by decide
  have hbeyond : ∃ i ∈ astray, letters.length ≤ i := by decide
  have hle : ∀ i ∈ astray, letters.length ≤ i → 7 ≤ i := by decide
  obtain ⟨i, hleast, hrun⟩ := (removePositions_leaves_elsewhere astray letters hpos').2 hbeyond
  obtain rfl : i = 7 := hleast.unique ⟨by decide, fun j hj => hle j hj.1 hj.2⟩
  exact ⟨hpos, hin, (removePositions_leaves_elsewhere inside letters hpos).1 hin, hpos', hbeyond, hrun⟩

/-- A position too large for any list is refused as such, and not as one that this list does not have. -/
theorem removePositions_noSuchPosition_false :
    removePositions [0x8000000000000000] ["a"] = (["a"], .error .positionTooLarge) ∧
      ¬∀ (positions : List Int) (xs : List String), (∀ i ∈ positions, 0 ≤ i) → (∃ i ∈ positions, xs.length ≤ i) →
        ∃ empty, removePositions positions xs =
          (elsewhere (within positions xs) xs, .error (.noSuchPosition empty)) := by
  have hrun : removePositions [0x8000000000000000] ["a"] = (["a"], .error .positionTooLarge) := rfl
  refine ⟨hrun, fun h => ?_⟩
  obtain ⟨empty, hclaimed⟩ := h [0x8000000000000000] ["a"] (by decide) (by decide)
  rw [hrun] at hclaimed
  cases congrArg Prod.snd hclaimed

end SlideFill
