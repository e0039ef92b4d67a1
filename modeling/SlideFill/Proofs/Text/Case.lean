import SlideFill.Proofs.Text.Blank
import SlideFill.Text.Case

/-!
# Texts in one case

A text whose small form is made of small letters has their capitals as its capital form. The letter `k` is left out, since
it is the small form of a character outside ASCII, too.
-/

namespace SlideFill

namespace Text

/-- Whether a character is a small letter whose capital is no other character's small form. -/
def isPlain (c : Char) : Bool :=
  97 ≤ c.toNat && c.toNat ≤ 122 && c != 'k'

/-- What holds of each ASCII character by its code point holds of a character in ASCII. -/
theorem ascii_forall {P : Char → Prop} (h : ∀ n : Fin 128, P (Char.ofNat n)) {c : Char} (hc : c.toNat < 128) : P c := by
  have htable := h ⟨c.toNat, hc⟩
  rwa [Char.ofNat_toNat] at htable

/-- The small form of a character outside ASCII is not plain. -/
theorem small_of_not_ascii {c : Char} (h : 128 ≤ c.toNat) : isPlain (small c) = false := by
  unfold small
  split
  · rfl
  · have hval : 128 ≤ c.val.toNat := h
    have hupper : ¬(c.val ≥ 'A'.val ∧ c.val ≤ 'Z'.val) := by
      rintro ⟨-, hle⟩
      have hle' : c.val.toNat ≤ 90 := hle
      omega
    have hlower : c.toLower = c := dif_neg hupper
    rw [hlower]
    simp only [isPlain, Bool.and_eq_false_iff, decide_eq_false_iff_not]
    exact .inl (.inr (by omega))

/-- A character whose small form is plain has the capital of that letter as its capital form, and nothing else. -/
theorem capital_of_small {c : Char} (h : isPlain (small c)) : capital c = [(small c).toUpper] := by
  by_cases hascii : c.toNat < 128
  · exact ascii_forall (P := fun c => isPlain (small c) → capital c = [(small c).toUpper]) (by decide) hascii h
  · rw [small_of_not_ascii (Nat.not_lt.mp hascii)] at h
    cases h

/-- The capital form of characters whose small form is plain. -/
theorem flatMap_capital {cs : List Char} (h : ∀ c ∈ cs.map small, isPlain c) :
    cs.flatMap capital = (cs.map small).map Char.toUpper := by
  induction cs with
  | nil => rfl
  | cons c rest ih =>
    obtain ⟨hfirst, hrest⟩ := List.forall_mem_cons.mp h
    rw [List.flatMap_cons, capital_of_small hfirst, ih hrest]
    rfl

/-- A text whose small form is plain has the capitals of it as its capital form. -/
theorem upper_of_lower {s name : String} (hlower : lower s = name) (hplain : name.toList.all isPlain) :
    upper s = String.ofList (name.toList.map Char.toUpper) := by
  have hchars : s.toList.map small = name.toList := by rw [← hlower, lower, String.toList_ofList]
  rw [upper, flatMap_capital, hchars]
  rw [hchars]
  exact List.all_eq_true.mp hplain

/-- What is no blank has its small form in that of the trimmed text. -/
theorem mem_lower_trim {c : Char} {s : String} (hc : c ∈ s.toList) (hblank : isBlank c = false) :
    small c ∈ (lower (trim s)).toList := by
  rw [lower, trim, String.toList_ofList, String.toList_ofList]
  exact List.mem_map_of_mem (mem_trimChars hc hblank)

end Text

end SlideFill
