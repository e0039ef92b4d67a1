import SlideFill.Mapping.OfData
import SlideFill.Proofs.Text.Case

/-!
# Spelled choices

The check of a choice and its reading go about it in different ways: the one compares small forms with a list of names,
the other capital forms with names of its own, and what counts as a default is told by null in the one and by truth in the
other. `choice_of_checked` says that they agree: what passes the check is lacking, null or a string that spells a choice,
and is read as that.
-/

namespace SlideFill

/-! ## Texts of other values -/

namespace Check

/-- Characters of which one is in the text of any value but null, strings and infinity. -/
def marks : List Char :=
  "0123456789.+-[\x7bau".toList

/-- Marks are not trimmed away, and have no other small form. -/
theorem small_of_mark {c : Char} (hc : c ∈ marks) : Text.isBlank c = false ∧ Text.small c = c := by
  have htable : marks.all fun c => !Text.isBlank c && Text.small c == c := by decide
  simpa using List.all_eq_true.mp htable c hc

/-- Digits are marks. -/
theorem mem_marks_of_isDigit {c : Char} (h : c.isDigit) : c ∈ marks := by
  have hascii : c.toNat < 128 := by
    simp only [Char.isDigit, Bool.and_eq_true, decide_eq_true_eq] at h
    exact Nat.lt_of_le_of_lt h.2 (by decide)
  exact Text.ascii_forall (P := fun c => c.isDigit → c ∈ marks) (by decide) hascii h

/-- Whether a text has a mark in it. -/
def IsMarked (s : String) : Prop :=
  ∃ c ∈ s.toList, c ∈ marks

/-- A text with a mark keeps it if more follows. -/
theorem IsMarked.append_left {s : String} (h : IsMarked s) (t : String) : IsMarked (s ++ t) := by
  obtain ⟨c, hc, hmark⟩ := h
  exact ⟨c, by rw [String.toList_append]; exact List.mem_append_left _ hc, hmark⟩

/-- A text with a mark keeps it if more goes before. -/
theorem IsMarked.append_right {t : String} (h : IsMarked t) (s : String) : IsMarked (s ++ t) := by
  obtain ⟨c, hc, hmark⟩ := h
  exact ⟨c, by rw [String.toList_append]; exact List.mem_append_right _ hc, hmark⟩

/-- Natural numbers are written with marks. -/
theorem isMarked_nat (n : Nat) : IsMarked (toString n) := by
  obtain ⟨c, hc⟩ := List.exists_mem_of_ne_nil _ (Nat.toDigits_ne_nil (n := n) (b := 10))
  refine ⟨c, ?_, mem_marks_of_isDigit (Nat.isDigit_of_mem_toDigits (by decide) (by decide) hc)⟩
  rw [Nat.toString_eq_repr, Nat.repr, String.toList_ofList]
  exact hc

/-- Whole numbers are written with marks. -/
theorem isMarked_int (n : Int) : IsMarked (toString n) := by
  cases n with
  | ofNat n => exact isMarked_nat n
  | negSucc n => exact (isMarked_nat (n + 1)).append_right "-"

/-- Exponents are written with marks. -/
theorem isMarked_exponent (l : Layout) (e : Int) : IsMarked (l.exponentText e) := by
  unfold Layout.exponentText
  refine IsMarked.append_left (IsMarked.append_left ?_ _) _
  split
  · exact ⟨'-', by decide, by decide⟩
  · exact ⟨'+', by decide, by decide⟩

/-- Decimal numbers are written with marks. -/
theorem isMarked_unsigned (d : Decimal) : IsMarked (Layout.data.unsigned d) := by
  have hwhole : IsMarked Layout.data.wholeEnd := ⟨'.', by decide, by decide⟩
  unfold Layout.unsigned
  simp only
  split
  · exact hwhole.append_right _
  · split
    · split
      · exact ⟨'0', by simp, by decide⟩
      · split
        · exact ⟨'.', by simp, by decide⟩
        · exact hwhole.append_right _
    · exact (isMarked_exponent _ _).append_right _

/-- The text of a value that is no string has a mark in it, unless the value is null or infinity. -/
theorem isMarked_text {j : Json} (hnull : j ≠ .null) (hstring : ∀ s, j ≠ .string s) :
    IsMarked j.text ∨ j.text = "inf" := by
  cases j with
  | null => exact absurd rfl hnull
  | string s => exact absurd rfl (hstring s)
  | bool b =>
    left
    cases b with
    | true => exact ⟨'u', by decide, by decide⟩
    | false => exact ⟨'a', by decide, by decide⟩
  | int n => exact .inl (isMarked_int n)
  | float x =>
    have htext : (Json.float x).text = Layout.data.float x := rfl
    rw [htext, Layout.float]
    split
    · exact .inl ⟨'a', by decide, by decide⟩
    · split
      · exact .inl ⟨'-', by decide, by decide⟩
      · exact .inr rfl
    · exact .inl ((isMarked_unsigned _).append_right _)
  | array items =>
    left
    rw [Json.text, Json.written]
    · exact ⟨'[', by simp, by decide⟩
    · simp
  | object fields =>
    left
    rw [Json.text, Json.written]
    · exact ⟨'\x7b', by simp, by decide⟩
    · simp

/-- What spells one of some names without marks is null or a string. -/
theorem spells_cases {names : List String} {j : Json} (hnames : names.all fun name => name.toList.all (!marks.contains ·))
    (hinf : "inf" ∉ names) (h : spells names j) :
    j = .null ∨ ∃ s, j = .string s ∧ Text.lower (Text.trim s) ∈ names := by
  by_cases hnull : j = .null
  · exact .inl hnull
  have hname : Text.lower (Text.trim j.text) ∈ names := by
    cases j with
    | null => exact absurd rfl hnull
    | _ => simpa only [spells, List.contains_iff_mem] using h
  by_cases hstring : ∃ s, j = .string s
  · obtain ⟨s, rfl⟩ := hstring
    exact .inr ⟨s, rfl, hname⟩
  · rcases isMarked_text hnull (fun s hs => hstring ⟨s, hs⟩) with ⟨c, hc, hmark⟩ | hinfinite
    · obtain ⟨hblank, hsmall⟩ := small_of_mark hmark
      have hmem := Text.mem_lower_trim hc hblank
      have hclean := List.all_eq_true.mp (List.all_eq_true.mp hnames _ hname) _ hmem
      rw [hsmall, List.contains_iff_mem.mpr hmark] at hclean
      cases hclean
    · rw [hinfinite] at hname
      exact absurd hname hinf

end Check

/-! ## Fields -/

/-- A value under a key passes the check of its field if that has no issue. -/
theorem Check.pass_of_field {fields : List (String × Json)} {key : String} {pass : Json → Bool} {issue : Issue}
    (h : field fields key pass issue = []) {j : Json} (hj : fields.lookup key = some j) : pass j := by
  rw [field, hj] at h
  simpa using h

/-! ## Reading -/

/-- The names of a format in template data. -/
def ImageFormat.spellings : ImageFormat → List String
  | .png => ["png"]
  | .jpeg => ["jpeg", "jpg"]
  | .gif => ["gif"]
  | .bmp => ["bmp"]
  | .tiff => ["tiff", "tif"]

/-- The names of a fit mode in template data. -/
def FitMode.spellings : FitMode → List String
  | .fit => ["fit"]
  | .crop => ["crop"]

/-- A text is its own spelling. -/
theorem spellingOf_string (s : String) : spellingOf (.string s) = s := by
  by_cases hempty : s = ""
  · subst hempty
    rfl
  · have htrue : (Json.string s).truthy := bne_iff_ne.mpr hempty
    rw [spellingOf, if_pos htrue]
    rfl

/-- A spelling of a format is read as that format, whatever its case and the blanks around it. -/
theorem ImageFormat.read_of_spelling {f : ImageFormat} {s : String} (h : Text.lower (Text.trim s) ∈ f.spellings) :
    read (.string s) = .ok f := by
  have hplain : ∀ name ∈ f.spellings, name.toList.all Text.isPlain := by cases f <;> decide
  have hnamed : ∀ name ∈ f.spellings,
      ofName? (String.ofList ((String.ofList (name.toList.map Char.toUpper)).toList.dropWhile (· = '.'))) = some f := by
    cases f <;> decide
  have hupper := Text.upper_of_lower rfl (hplain _ h)
  delta read
  simp only [spellingOf_string, hupper, hnamed _ h]

/-- A spelling of a mode is read as that mode, whatever its case and the blanks around it. -/
theorem FitMode.read_of_spelling {m : FitMode} {s : String} (h : Text.lower (Text.trim s) ∈ m.spellings) :
    read (.string s) = .ok m := by
  have hnamed : ∀ name ∈ m.spellings, ofName? name = some m := by cases m <;> decide
  delta read
  simp only [spellingOf_string, hnamed _ h]

/-- What the field of a choice says: nothing or null for a default, or else a string that spells the choice in any case
and with blanks around it. -/
inductive IsSpelled {α : Type} (spellings : α → List String) (default : α) : Option Json → α → Prop where
  | absent : IsSpelled spellings default none default
  | null : IsSpelled spellings default (some .null) default
  | spelled {s : String} {a : α} (h : Text.lower (Text.trim s) ∈ spellings a) :
      IsSpelled spellings default (some (.string s)) a

/-- A choice that passes its check is read as what is spelled. -/
theorem choice_of_checked {α ε : Type} {spellings : α → List String} {default : α} {names : List String} {other : Json}
    {read : Json → Except ε α} (hnames : names.all fun name => name.toList.all (!Check.marks.contains ·))
    (hinf : "inf" ∉ names) (hempty : "" ∉ names) (hspelled : ∀ name ∈ names, ∃ a, name ∈ spellings a)
    (hread : ∀ a s, Text.lower (Text.trim s) ∈ spellings a → read (.string s) = .ok a) (hother : read other = .ok default)
    {fields : List (String × Json)} {key : String} {issue : Issue}
    (h : Check.field fields key (Check.spells names) issue = []) :
    ∃ a, IsSpelled spellings default (fields.lookup key) a ∧ read (OfData.fieldOr fields key other) = .ok a := by
  rw [OfData.fieldOr]
  cases hvalue : fields.lookup key with
  | none => exact ⟨default, .absent, hother⟩
  | some j =>
    have hspells := Check.pass_of_field h hvalue
    rcases Check.spells_cases hnames hinf hspells with rfl | ⟨s, rfl, hname⟩
    · exact ⟨default, .null, hother⟩
    · obtain ⟨a, ha⟩ := hspelled _ hname
      have htrue : (Json.string s).truthy = true := by
        simp only [Json.truthy, bne_iff_ne]
        rintro rfl
        exact hempty hname
      refine ⟨a, .spelled ha, ?_⟩
      rw [Option.filter_some, if_pos htrue, Option.getD_some]
      exact hread a s ha

/-- A format that passes its check is read as what it spells. -/
theorem format_of_checked {fields : List (String × Json)} {issue : Issue}
    (h : Check.field fields "format" (Check.spells Check.formatNames) issue = []) :
    ∃ f, IsSpelled ImageFormat.spellings .png (fields.lookup "format") f ∧
      ImageFormat.read (OfData.fieldOr fields "format" (.string "png")) = .ok f := by
  refine choice_of_checked (by decide) (by decide) (by decide) ?_ (fun _ _ => ImageFormat.read_of_spelling)
    (ImageFormat.read_of_spelling (by decide)) h
  simp only [Check.formatNames, List.forall_mem_cons]
  exact ⟨⟨.png, by decide⟩, ⟨.jpeg, by decide⟩, ⟨.jpeg, by decide⟩, ⟨.gif, by decide⟩, ⟨.bmp, by decide⟩,
    ⟨.tiff, by decide⟩, ⟨.tiff, by decide⟩, by simp⟩

/-- A mode that passes its check is read as what it spells. -/
theorem mode_of_checked {fields : List (String × Json)} {issue : Issue}
    (h : Check.field fields "mode" (Check.spells Check.modeNames) issue = []) :
    ∃ m, IsSpelled FitMode.spellings .crop (fields.lookup "mode") m ∧
      FitMode.read (OfData.fieldOr fields "mode" (.string "crop")) = .ok m := by
  refine choice_of_checked (by decide) (by decide) (by decide) ?_ (fun _ _ => FitMode.read_of_spelling)
    (FitMode.read_of_spelling (by decide)) h
  simp only [Check.modeNames, List.forall_mem_cons]
  exact ⟨⟨.crop, by decide⟩, ⟨.fit, by decide⟩, by simp⟩

end SlideFill
