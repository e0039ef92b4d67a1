import SlideFill.Data.Check
import SlideFill.Proofs.Text.Blank

/-!
# How issues are worded

An issue of an entry begins with the section and the name of the entry and says something of it, whatever the name is
(`Issue.message_remarks`). No issue is blank, so all issues of a check are kept when they are trimmed
(`Rejection.ofIssues_issues`).
-/

namespace SlideFill

namespace Issue

/-- The section and the name of the entry that an issue is about; none if it is about the data as a whole. -/
def subject? : Issue → Option (DataSection × String)
  | textValue name => some (.text, name)
  | hideValue name => some (.hide, name)
  | styleNotObject name => some (.style, name)
  | styleKeys name _ => some (.style, name)
  | styleFlag name _ => some (.style, name)
  | styleSize name => some (.style, name)
  | styleColor name => some (.style, name)
  | styleFont name => some (.style, name)
  | imageNotObject name => some (.images, name)
  | imageKeys name _ => some (.images, name)
  | imagePath name => some (.images, name)
  | imageFormat name _ => some (.images, name)
  | imageMode name => some (.images, name)
  | imageNotFound name _ => some (.images, name)
  | _ => none

/-- Whether a text begins with a section and a name and says something behind them. -/
def Remarks (s : DataSection) (name text : String) : Prop :=
  ∃ remark, text = about s name ++ remark ∧ ∃ c ∈ remark.toList, Text.isBlank c = false

variable {s : DataSection} {name : String}

/-- What is said about a name is a remark on it, unless it is blank. -/
theorem Remarks.of {remark : String} (h : ∃ c ∈ remark.toList, Text.isBlank c = false) :
    Remarks s name (about s name ++ remark) :=
  ⟨remark, rfl, h⟩

/-- A remark stays one if more is said. -/
theorem Remarks.append {text : String} (h : Remarks s name text) (more : String) : Remarks s name (text ++ more) := by
  obtain ⟨remark, rfl, c, hc, hblank⟩ := h
  refine ⟨remark ++ more, String.append_assoc, c, ?_, hblank⟩
  rw [String.toList_append]
  exact List.mem_append_left _ hc

/-- An issue of an entry begins with the section and the name of the entry. -/
theorem message_remarks {i : Issue} (h : i.subject? = some (s, name)) : Remarks s name i.message := by
  cases i with
  | textValue name => cases h; exact .of ⟨'m', by decide, by decide⟩
  | hideValue name => cases h; exact .of ⟨'m', by decide, by decide⟩
  | styleNotObject name => cases h; exact .of ⟨'m', by decide, by decide⟩
  | styleKeys name keys => cases h; exact ((Remarks.of ⟨'h', by decide, by decide⟩).append _).append _
  | styleFlag name flag => cases h; exact ((Remarks.of ⟨'.', by decide, by decide⟩).append _).append _
  | styleSize name => cases h; exact .of ⟨'.', by decide, by decide⟩
  | styleColor name => cases h; exact .of ⟨'.', by decide, by decide⟩
  | styleFont name => cases h; exact .of ⟨'.', by decide, by decide⟩
  | imageNotObject name => cases h; exact .of ⟨'m', by decide, by decide⟩
  | imageKeys name keys => cases h; exact (Remarks.of ⟨'h', by decide, by decide⟩).append _
  | imagePath name => cases h; exact .of ⟨'.', by decide, by decide⟩
  | imageFormat name given => cases h; exact ((Remarks.of ⟨'.', by decide, by decide⟩).append _).append _
  | imageMode name => cases h; exact .of ⟨'.', by decide, by decide⟩
  | imageNotFound name path => cases h; exact (Remarks.of ⟨'.', by decide, by decide⟩).append _
  | _ => cases h

/-- Trimming an issue of an entry leaves the section, the name and something behind them. -/
theorem trim_message_remarks {i : Issue} (h : i.subject? = some (s, name)) :
    ∃ remark, remark ≠ "" ∧ Text.trim i.message = about s name ++ remark := by
  obtain ⟨remark, hmessage, c, hc, hblank⟩ := message_remarks h
  have hhead : ∀ c ∈ (about s name).toList.head?, Text.isBlank c = false := by
    rw [about, String.append_assoc, String.toList_append]
    cases s <;> exact fun c hc => by cases hc; decide
  have hne : (about s name).toList ≠ [] := by
    rw [about, String.append_assoc, String.toList_append]
    cases s <;> simp [DataSection.name]
  obtain ⟨left, hleft, htrim⟩ := Text.trimChars_append hhead hne hc hblank
  refine ⟨String.ofList left, fun hempty => hleft (String.ofList_eq_empty_iff.mp hempty), ?_⟩
  rw [hmessage, Text.trim, String.toList_append, htrim, String.ofList_append, String.ofList_toList]

/-- There is nothing to trim in what is said of unknown sections. -/
theorem trim_unknownSections (names : List String) :
    Text.trim (unknownSections names).message = (unknownSections names).message := by
  have hmessage : (unknownSections names).message =
      "Unsupported top-level keys: " ++ listed names ++ " (supported: text, hide, style, images)" := rfl
  have htrimmed : Text.IsTrimmed (unknownSections names).message.toList := by
    rw [hmessage, String.toList_append, String.toList_append]
    refine ⟨fun c hc => ?_, fun c hc => ?_⟩
    · cases hc
      decide
    · rw [List.getLast?_append] at hc
      cases hc
      decide
  rw [Text.trim, Text.trimChars_eq_self htrimmed, String.ofList_toList]

/-- There is nothing to trim in what is said of a section that is no object. -/
theorem trim_sectionNotObject (s : DataSection) :
    Text.trim (sectionNotObject s).message = (sectionNotObject s).message := by
  cases s <;> decide +kernel

/-- No issue is blank. -/
theorem trim_message_ne_empty (i : Issue) : Text.trim i.message ≠ "" := by
  cases hsubject : i.subject? with
  | some subject =>
    obtain ⟨remark, hne, htrim⟩ := trim_message_remarks hsubject
    rw [htrim]
    intro hempty
    exact hne (String.append_eq_empty_iff.mp hempty).2
  | none =>
    cases i with
    | rootNotObject => decide +kernel
    | unknownSections names =>
      have hmessage : (unknownSections names).message =
          "Unsupported top-level keys: " ++ listed names ++ " (supported: text, hide, style, images)" := rfl
      have hmem : 'U' ∈ "Unsupported top-level keys: ".toList := by decide
      refine Text.trim_ne_empty (c := 'U') ?_ (by decide)
      simp only [hmessage, String.toList_append, List.mem_append]
      exact .inl (.inl hmem)
    | sectionNotObject s => cases s <;> decide +kernel
    | noDataFile => decide +kernel
    | notJson line column problem =>
      have hmessage : (notJson line column problem).message =
          "Invalid JSON at line " ++ toString line ++ ", column " ++ toString column ++ ": " ++ problem := rfl
      have hmem : 'I' ∈ "Invalid JSON at line ".toList := by decide
      refine Text.trim_ne_empty (c := 'I') ?_ (by decide)
      simp only [hmessage, String.toList_append, List.mem_append]
      exact .inl (.inl (.inl (.inl (.inl hmem))))
    | _ => cases hsubject

end Issue

/-! ## Issues of entries -/

namespace Check

variable {s : DataSection} {name : String} {i issue : Issue}

/-- What is in a list of at most one item is that item. -/
theorem eq_of_mem_unless {α : Type} {a b : α} {c : Prop} [Decidable c] (h : a ∈ if c then [] else [b]) : a = b := by
  split at h
  · cases h
  · exact List.mem_singleton.mp h

/-- A field has no other issue than its own. -/
theorem eq_of_mem_field {fields : List (String × Json)} {key : String} {pass : Json → Bool}
    (h : i ∈ field fields key pass issue) : i = issue := by
  unfold field at h
  split at h
  · exact eq_of_mem_unless h
  · cases h

/-- All issues of a style are about its name. -/
theorem subject_of_mem_style {j : Json} (h : i ∈ style name j) : i.subject? = some (.style, name) := by
  cases j with
  | object fields =>
    simp only [style, List.mem_append, List.mem_flatMap] at h
    rcases h with (((hkeys | ⟨flag, -, hflag⟩) | hsize) | hcolor) | hfont
    · rw [eq_of_mem_unless hkeys]; rfl
    · rw [eq_of_mem_field hflag]; rfl
    · rw [eq_of_mem_field hsize]; rfl
    · rw [eq_of_mem_field hcolor]; rfl
    · rw [eq_of_mem_field hfont]; rfl
  | _ => rw [List.mem_singleton.mp h]; rfl

/-- All issues of the fields of an image are about its name. -/
theorem subject_of_mem_imageFields {fields : List (String × Json)} (h : i ∈ imageFields name fields) :
    i.subject? = some (.images, name) := by
  simp only [imageFields, List.mem_append] at h
  rcases h with ((hkeys | hpath) | hformat) | hmode
  · rw [eq_of_mem_unless hkeys]; rfl
  · rw [eq_of_mem_unless hpath]; rfl
  · rw [eq_of_mem_field hformat]; rfl
  · rw [eq_of_mem_field hmode]; rfl

/-- The issues of an entry are about the entry. -/
theorem subject_of_mem_entry {j : Json} (h : i ∈ entry s name j) : i.subject? = some (s, name) := by
  cases s with
  | text => rw [eq_of_mem_unless h]; rfl
  | hide =>
    cases j with
    | bool b => cases h
    | array items => rw [eq_of_mem_unless h]; rfl
    | _ => rw [List.mem_singleton.mp h]; rfl
  | style => exact subject_of_mem_style h
  | images =>
    cases j with
    | string path => exact subject_of_mem_imageFields h
    | object fields => exact subject_of_mem_imageFields h
    | _ => rw [List.mem_singleton.mp h]; rfl

end Check

/-! ## Issues that are kept -/

namespace Rejection

/-- What has a text besides blanks is kept as an issue. -/
theorem kept_eq {texts : List String} (hne : texts ≠ []) (h : ∀ t ∈ texts, Text.trim t ≠ "") :
    kept texts = texts.map Text.trim := by
  have hall : (texts.map Text.trim).filter (· ≠ "") = texts.map Text.trim := by
    rw [List.filter_eq_self]
    intro t ht
    obtain ⟨s, hs, rfl⟩ := List.mem_map.mp ht
    simpa using h s hs
  rw [kept, hall, if_neg]
  simpa using hne

/-- The rejection for issues holds all of them, trimmed. -/
theorem ofIssues_issues {issues : List Issue} (h : issues ≠ []) (source : Option Path) :
    ofIssues issues source = ⟨issues.map fun i => Text.trim i.message, source⟩ := by
  have hkept : kept (issues.map Issue.message) = (issues.map Issue.message).map Text.trim := by
    refine kept_eq (by simpa using h) fun t ht => ?_
    obtain ⟨i, -, rfl⟩ := List.mem_map.mp ht
    exact i.trim_message_ne_empty
  rw [ofIssues, ofTexts, hkept, List.map_map]
  rfl

end Rejection

end SlideFill
