import Mathlib.Data.List.DropRight
import SlideFill.Text.Blank

/-!
# Texts without their blanks

Trimming takes blanks from the two ends of a text and loses nothing else. A text that neither begins nor ends with a blank
stays as it is, and so does the beginning of a text up to its last character that is no blank.
-/

namespace SlideFill

namespace Text

/-- A character that ends the dropping is kept. -/
theorem mem_dropWhile {p : Char → Bool} {c : Char} {cs : List Char} (hc : c ∈ cs) (hp : p c = false) :
    c ∈ cs.dropWhile p := by
  rw [← List.takeWhile_append_dropWhile (p := p) (l := cs), List.mem_append] at hc
  rcases hc with htaken | hleft
  · rw [List.all_eq_true.mp List.all_takeWhile c htaken] at hp
    cases hp
  · exact hleft

/-- Trimming keeps what is no blank. -/
theorem mem_trimChars {c : Char} {cs : List Char} (hc : c ∈ cs) (hblank : isBlank c = false) : c ∈ trimChars cs := by
  rw [trimChars, List.mem_reverse]
  exact mem_dropWhile (List.mem_reverse.mpr (mem_dropWhile hc hblank)) hblank

/-- Something is left of a text that is not all blank. -/
theorem trim_ne_empty {c : Char} {s : String} (hc : c ∈ s.toList) (hblank : isBlank c = false) : trim s ≠ "" := by
  intro hempty
  have htrimmed := mem_trimChars hc hblank
  have hnil : trimChars s.toList = [] := String.ofList_eq_empty_iff.mp hempty
  rw [hnil] at htrimmed
  cases htrimmed

/-- Trimming drops blanks in front, then behind. -/
theorem trimChars_eq (cs : List Char) : trimChars cs = (cs.dropWhile isBlank).rdropWhile isBlank := rfl

/-- Trimming takes nothing but blanks, and only from the ends. -/
theorem trimChars_split (cs : List Char) :
    ∃ before behind, cs = before ++ trimChars cs ++ behind ∧ before.all isBlank ∧ behind.all isBlank := by
  refine ⟨cs.takeWhile isBlank, (cs.dropWhile isBlank).rtakeWhile isBlank, ?_, List.all_takeWhile, ?_⟩
  · rw [trimChars_eq, List.append_assoc, List.rdropWhile_append_rtakeWhile, List.takeWhile_append_dropWhile]
  · exact List.all_eq_true.mpr fun c => List.mem_rtakeWhile_imp

/-- Whether characters neither begin nor end with a blank. -/
structure IsTrimmed (cs : List Char) : Prop where
  head : ∀ c ∈ cs.head?, isBlank c = false
  last : ∀ c ∈ cs.getLast?, isBlank c = false

/-- Nothing is dropped of a text with no blank in front. -/
theorem dropWhile_eq_self {cs : List Char} (h : ∀ c ∈ cs.head?, isBlank c = false) : cs.dropWhile isBlank = cs := by
  cases cs with
  | nil => rfl
  | cons c rest => exact List.dropWhile_cons_of_neg (by simp [h c rfl])

/-- Trimming leaves a text that has blanks on neither side. -/
theorem trimChars_eq_self {cs : List Char} (h : IsTrimmed cs) : trimChars cs = cs := by
  rw [trimChars_eq, dropWhile_eq_self h.head, List.rdropWhile_eq_self_iff]
  intro hne
  simp [h.last _ (List.getLast?_eq_some_getLast hne)]

/-- A trimmed text has blanks on neither side. -/
theorem isTrimmed_trimChars (cs : List Char) : IsTrimmed (trimChars cs) where
  head c hc := by
    -- trimming the end leaves a beginning, and with it the first character
    obtain ⟨behind, hbehind⟩ := List.rdropWhile_prefix (p := isBlank) (l := cs.dropWhile isBlank)
    have hdropped : (cs.dropWhile isBlank).head? = some c := by
      rw [← hbehind, List.head?_append]
      exact congrArg (Option.or · _) hc
    have hnot := List.head?_dropWhile_not isBlank cs
    rw [hdropped] at hnot
    exact hnot
  last c hc := by
    obtain ⟨hne, rfl⟩ := List.mem_getLast?_eq_getLast hc
    exact Bool.eq_false_iff.mpr (List.rdropWhile_last_not isBlank (cs.dropWhile isBlank) hne)

/-- A text that has been trimmed stays as it is. -/
theorem trim_trim (s : String) : trim (trim s) = trim s := by
  rw [trim, trim, String.toList_ofList, trimChars_eq_self (isTrimmed_trimChars s.toList)]

/-- Trimming leaves a beginning that starts without a blank as it is, if there is more behind it than blanks, and some of
that is left. -/
theorem trimChars_append {front back : List Char} {c : Char} (hfront : ∀ c ∈ front.head?, isBlank c = false)
    (hne : front ≠ []) (hc : c ∈ back) (hblank : isBlank c = false) :
    ∃ left, left ≠ [] ∧ trimChars (front ++ back) = front ++ left := by
  have hhead : ∀ c ∈ (front ++ back).head?, isBlank c = false := by
    rwa [List.head?_append_of_ne_nil _ hne]
  have hleft : back.reverse.dropWhile isBlank ≠ [] :=
    List.ne_nil_of_mem (mem_dropWhile (List.mem_reverse.mpr hc) hblank)
  refine ⟨back.rdropWhile isBlank, by simpa [List.rdropWhile] using hleft, ?_⟩
  rw [trimChars_eq, dropWhile_eq_self hhead, List.rdropWhile, List.reverse_append, List.dropWhile_append,
    if_neg (by simpa using hleft), List.reverse_append, List.reverse_reverse]
  rfl

end Text

end SlideFill
