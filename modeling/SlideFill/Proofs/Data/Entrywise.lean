import Mathlib.Data.List.Sort
import Mathlib.Data.String.Basic
import SlideFill.Proofs.Data.Wording
import SlideFill.Proofs.Lists

/-!
# Entries checked one by one

The check of data finds for each entry what it finds for the entry when that is all there is, and these findings stand side
by side (`checks_entry_by_entry`). So an entry that does not pass neither hides nor changes what is reported of another.
-/

namespace SlideFill

/-- What is reported of data: nothing if it is taken. -/
def reported (j : Json) : List String :=
  match validate j with
  | .ok _ => []
  | .error r => r.issues

/-- Data with one entry in one section, and nothing else. -/
def Json.alone (s : DataSection) (e : String × Json) : Json :=
  .object [(s.name, .object [e])]

/-- What is reported of keys that are no sections. -/
def reportedUnknown (keys : List String) : List String :=
  if keys = [] then []
  else ["Unsupported top-level keys: " ++ ", ".intercalate keys ++ " (supported: text, hide, style, images)"]

/-- What is reported of a section that is neither null nor an object. -/
def reportedShape (s : DataSection) : Json → List String
  | .null => []
  | .object _ => []
  | _ => [s.name ++ " must be an object mapping variable names to values"]

/-- What is reported of the entries of a section when each is alone, in document order. -/
def reportedEach (s : DataSection) : Json → List String
  | .object entries => entries.flatMap fun e => reported (.alone s e)
  | _ => []

/-- Whether a section is lacking or null, or an object of which each entry is taken alone. -/
def EachTaken (s : DataSection) (j : Json) : Prop :=
  j = .null ∨ ∃ entries, j = .object entries ∧ ∀ e ∈ entries, validate (.alone s e) = .ok (.alone s e)

/-! ## Validation -/

/-- Data is taken as it is or rejected for its issues, each trimmed. -/
theorem validate_cases (j : Json) :
    checkData j = [] ∧ validate j = .ok j ∨
      checkData j ≠ [] ∧ validate j = .error ⟨(checkData j).map fun i => Text.trim i.message, none⟩ := by
  unfold validate
  by_cases h : checkData j = []
  · exact .inl ⟨h, by rw [h]; rfl⟩
  · exact .inr ⟨h, by rw [Rejection.ofIssues_issues h, if_neg (by simpa using h)]⟩

/-- Data is taken exactly if its check finds no issue. -/
theorem validate_eq_ok_iff {j : Json} : validate j = .ok j ↔ checkData j = [] := by
  rcases validate_cases j with ⟨hnil, hok⟩ | ⟨hne, herror⟩
  · simp [hnil, hok]
  · simp [hne, herror]

/-- What is reported of data is what its check finds, each issue trimmed. -/
theorem reported_eq (j : Json) : reported j = (checkData j).map fun i => Text.trim i.message := by
  unfold reported
  rcases validate_cases j with ⟨hnil, hok⟩ | ⟨-, herror⟩
  · rw [hok, hnil]
    rfl
  · rw [herror]

/-! ## Sorted names -/

namespace Check

/-- Inserting a name is insertion by the order of texts. -/
theorem insertName_eq (name : String) (names : List String) :
    insertName name names = names.orderedInsert (· ≤ ·) name := by
  induction names with
  | nil => rfl
  | cons other rest ih =>
    rw [insertName, List.orderedInsert, ih]
    by_cases h : other < name
    · rw [if_pos h, if_neg (not_le.mpr h)]
    · rw [if_neg h, if_pos (not_lt.mp h)]

/-- Names are sorted by insertion. -/
theorem sortNames_eq (names : List String) : sortNames names = names.insertionSort (· ≤ ·) := by
  induction names with
  | nil => rfl
  | cons name rest ih =>
    rw [List.insertionSort_cons, ← ih, ← insertName_eq]
    rfl

/-- Sorting neither loses nor adds a name. -/
theorem sortNames_perm (names : List String) : (sortNames names).Perm names := by
  rw [sortNames_eq]
  exact List.perm_insertionSort _ names

/-- Sorted names ascend. -/
theorem sortNames_pairwise (names : List String) : (sortNames names).Pairwise (· ≤ ·) := by
  rw [sortNames_eq]
  exact List.pairwise_insertionSort _ names

end Check

/-! ## Entries -/

/-- There are no other sections. -/
theorem DataSection.mem_all (s : DataSection) : s ∈ all := by
  cases s <;> decide

/-- An object with one section has a value for that section only. -/
theorem lookup_alone (s s' : DataSection) (j : Json) :
    [(s.name, j)].lookup s'.name = if s' = s then some j else none := by
  cases s <;> cases s' <;> rfl

/-- The check of an entry that is alone finds what is wrong with the entry. -/
theorem checkData_alone (s : DataSection) (e : String × Json) : checkData (.alone s e) = Check.entry s e.1 e.2 := by
  have hunknown : Check.unknownKeys (DataSection.all.map DataSection.name) [(s.name, .object [e])] = [] := by
    cases s <;> rfl
  have hsection : ∀ s', Check.sectionIssues s' (([(s.name, Json.object [e])].lookup s'.name).getD .null) =
      if s' = s then Check.entry s e.1 e.2 else [] := by
    intro s'
    rw [lookup_alone]
    by_cases h : s' = s
    · simp [h, Check.sectionIssues]
    · simp [h, Check.sectionIssues]
  rw [Json.alone, checkData, hunknown]
  simp only [hsection]
  cases s <;> simp [DataSection.all]

/-- Of an entry that stands alone, its own issues are reported. -/
theorem reported_alone (s : DataSection) (e : String × Json) :
    reported (.alone s e) = (Check.entry s e.1 e.2).map fun i => Text.trim i.message := by
  rw [reported_eq, checkData_alone]

/-- A section is checked by its shape and then by its entries. -/
theorem reported_section (s : DataSection) (j : Json) :
    (Check.sectionIssues s j).map (fun i => Text.trim i.message) = reportedShape s j ++ reportedEach s j := by
  cases j with
  | null => rfl
  | object entries =>
    simp only [Check.sectionIssues, reportedShape, reportedEach, List.map_flatMap, reported_alone, List.nil_append]
  | _ => exact congrArg (fun text => [text]) (Issue.trim_sectionNotObject s)

/-- A section has no issues exactly if it is an object, or left out, and each of its entries is taken alone. -/
theorem sectionIssues_eq_nil_iff (s : DataSection) (j : Json) : Check.sectionIssues s j = [] ↔ EachTaken s j := by
  have hentry : ∀ e, Check.entry s e.1 e.2 = [] ↔ validate (.alone s e) = .ok (.alone s e) := by
    intro e
    rw [validate_eq_ok_iff, checkData_alone]
  cases j with
  | null => simp [Check.sectionIssues, EachTaken]
  | object entries => simp [Check.sectionIssues, EachTaken, hentry]
  | _ => simp [Check.sectionIssues, EachTaken]

/-! ## Data -/

/-- The unknown sections are the other keys, sorted. -/
theorem unknownKeys_eq_sortNames (fields : List (String × Json)) :
    Check.unknownKeys (DataSection.all.map DataSection.name) fields =
      Check.sortNames ((fields.map (·.1)).filter (· ∉ DataSection.all.map DataSection.name)) := by
  simp only [Check.unknownKeys, List.contains_eq_mem, decide_not]

/-- The issues of data are those of its keys, and section by section those of the shape and of the entries. -/
theorem reported_object (fields : List (String × Json)) :
    reported (.object fields) =
      reportedUnknown (Check.unknownKeys (DataSection.all.map DataSection.name) fields) ++
        DataSection.all.flatMap fun s =>
          reportedShape s ((fields.lookup s.name).getD .null) ++ reportedEach s ((fields.lookup s.name).getD .null) := by
  rw [reported_eq, checkData, List.map_append, List.map_flatMap]
  simp only [reported_section]
  congr 1
  unfold reportedUnknown
  by_cases hnil : Check.unknownKeys (DataSection.all.map DataSection.name) fields = []
  · rw [hnil]
    rfl
  · rw [if_neg hnil, if_neg (by simpa using hnil), List.map_singleton, Issue.trim_unknownSections]
    rfl

/-- An object is taken exactly if it has no unknown sections and each section is taken. -/
theorem validate_object_iff (fields : List (String × Json)) :
    validate (.object fields) = .ok (.object fields) ↔
      Check.unknownKeys (DataSection.all.map DataSection.name) fields = [] ∧
        ∀ s : DataSection, EachTaken s ((fields.lookup s.name).getD .null) := by
  rw [validate_eq_ok_iff, checkData, List.append_eq_nil_iff, List.flatMap_eq_nil_iff]
  simp only [DataSection.mem_all, forall_const, sectionIssues_eq_nil_iff]
  refine and_congr_left fun _ => ?_
  by_cases hnil : Check.unknownKeys (DataSection.all.map DataSection.name) fields = []
  · simp [hnil]
  · simp [hnil]

/-- What is reported of an entry alone stands in a row within what is reported of the whole. -/
theorem reported_alone_infix {s : DataSection} {fields entries : List (String × Json)} {e : String × Json}
    (hentries : fields.lookup s.name = some (.object entries)) (he : e ∈ entries) :
    reported (.alone s e) <:+: reported (.object fields) := by
  have hentry := infix_flatMap he fun e => reported (.alone s e)
  have hsection := infix_flatMap s.mem_all fun s =>
    reportedShape s ((fields.lookup s.name).getD .null) ++ reportedEach s ((fields.lookup s.name).getD .null)
  rw [hentries] at hsection
  rw [reported_object]
  exact (hentry.trans hsection).trans (List.suffix_append _ _).isInfix

/-- What is reported of data are the keys that are no sections, sorted, and then section by section that it is no object, or
what is reported of each of its entries alone, in document order. So data is taken exactly if it has no such key and each
entry is taken alone, and what is wrong with one entry neither hides nor changes what is reported of another. -/
theorem checks_entry_by_entry (fields : List (String × Json)) :
    ∃ unknown : List String,
      unknown.Perm ((fields.map (·.1)).filter (· ∉ DataSection.all.map DataSection.name)) ∧
      unknown.Pairwise (· ≤ ·) ∧
      reported (.object fields) = reportedUnknown unknown ++
        (DataSection.all.flatMap fun s =>
          reportedShape s ((fields.lookup s.name).getD .null) ++ reportedEach s ((fields.lookup s.name).getD .null)) ∧
      (validate (.object fields) = .ok (.object fields) ↔
        unknown = [] ∧ ∀ s : DataSection, EachTaken s ((fields.lookup s.name).getD .null)) ∧
      ∀ (s : DataSection) (entries : List (String × Json)) (e : String × Json),
        fields.lookup s.name = some (.object entries) → e ∈ entries →
          reported (.alone s e) <:+: reported (.object fields) := by
  refine ⟨Check.unknownKeys (DataSection.all.map DataSection.name) fields, ?_, ?_, reported_object fields,
    validate_object_iff fields, fun s entries e => reported_alone_infix⟩
  · rw [unknownKeys_eq_sortNames]
    exact Check.sortNames_perm _
  · rw [unknownKeys_eq_sortNames]
    exact Check.sortNames_pairwise _

end SlideFill
