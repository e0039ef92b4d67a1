import SlideFill.Mapping.OfData
import SlideFill.Proofs.Fill.Passage

/-!
# Answers from checked data

What passes the check of an entry can be read, so data without issues gives answers for all sections but that of the
images (`OfData.ofData_eq`). There is one exception: the check does not say whether a whole number among the texts is
short enough to be written out, and one that is not is the fault (`OfData.ofData_of_long`). Nor does the check of an image
say whether there is a file at its path, so the images are left to be added.
-/

namespace SlideFill

/-- Data is taken exactly if its check finds no issue. -/
theorem validate_isOk_iff {j : Json} : (validate j).isOk ↔ checkData j = [] := by
  unfold validate
  cases checkData j <;> simp

/-- The check finds no issue in data that has been taken. -/
theorem checkData_of_validate {j j' : Json} (h : validate j = .ok j') : checkData j' = [] := by
  have hvalid := validate_isOk_iff.mp (isOk_iff.mpr ⟨j', h⟩)
  rw [validate, hvalid] at h
  rwa [← Except.ok.inj h]

namespace Json

/-- The entries of a section. -/
def entriesOf (j : Json) (s : DataSection) : List (String × Json) :=
  match j.field? s.name with
  | some (.object es) => es
  | _ => []

/-- The style that an entry gives. -/
def styleOf : Json → Style
  | .object fields => Style.ofFields fields
  | _ => {}

end Json

/-- Whether all texts of data can be written out: no whole number among them has too many digits. -/
def Json.HasShortTexts (j : Json) : Prop :=
  ∀ e ∈ j.entriesOf .text, e.2.isPrintable

instance (j : Json) : Decidable j.HasShortTexts :=
  inferInstanceAs (Decidable (∀ e ∈ j.entriesOf .text, e.2.isPrintable))

/-- Whether data has no images: there is no such section, or it has no entries. -/
def Json.IsImageless (j : Json) : Prop :=
  ∀ images, j.field? "images" = some (.object images) → images = []

/-- Data without images has no entries for them. -/
theorem Json.IsImageless.entriesOf_images {j : Json} (h : j.IsImageless) : j.entriesOf .images = [] := by
  unfold entriesOf
  split
  · rename_i images hsection
    exact h images hsection
  · rfl

namespace OfData

/-! ## Sections -/

/-- In data without issues each section has entries, and they have no issues. -/
theorem entries_eq {j : Json} (h : checkData j = []) (s : DataSection) :
    entries j s = .ok (j.entriesOf s) ∧ ∀ e ∈ j.entriesOf s, Check.entry s e.1 e.2 = [] := by
  cases j with
  | object fields =>
    have hsection : Check.sectionIssues s ((fields.lookup s.name).getD .null) = [] := by
      have hall := List.flatMap_eq_nil_iff.mp (List.append_eq_nil_iff.mp h).2
      exact hall s (by cases s <;> decide)
    cases hvalue : fields.lookup s.name with
    | none => simp [entries, Json.entriesOf, Json.field?, hvalue, Json.truthy]
    | some value =>
      rw [hvalue, Option.getD_some] at hsection
      cases value with
      | null => simp [entries, Json.entriesOf, Json.field?, hvalue, Json.truthy]
      | object es =>
        simp only [entries, Json.entriesOf, Json.field?, hvalue, Option.getD_some]
        exact ⟨trivial, List.flatMap_eq_nil_iff.mp hsection⟩
      | _ => cases hsection
  | _ => cases h

/-- Looked up from the end, a first entry counts if no later one has its name. -/
theorem lookup_reverse_cons {α : Type} (e : String × α) (rest : List (String × α)) (name : String) :
    (e :: rest).reverse.lookup name = (rest.reverse.lookup name).or ([e].lookup name) := by
  rw [List.reverse_cons, List.lookup_append]

/-- What is found from the end is an entry. -/
theorem mem_of_lookup_reverse {α : Type} {es : List (String × α)} {name : String} {v : α}
    (h : es.reverse.lookup name = some v) : (name, v) ∈ es := by
  obtain ⟨front, behind, hes, -⟩ := List.lookup_eq_some_iff.mp h
  exact List.mem_reverse.mp (hes ▸ List.mem_append_right _ List.mem_cons_self)

/-- Answers with values put in for entries, one by one. -/
def addAll {α : Type} (add : Answers → String → α → Answers) (value : Json → α) (es : List (String × Json))
    (a : Answers) : Answers :=
  es.foldl (fun a e => add a e.1 (value e.2)) a

section addAll

variable {α β : Type} (add : Answers → String → α → Answers) (value : Json → α) {es : List (String × Json)}

/-- The first entry is put in first. -/
theorem addAll_cons (e : String × Json) (rest : List (String × Json)) (a : Answers) :
    addAll add value (e :: rest) a = addAll add value rest (add a e.1 (value e.2)) := rfl

/-- Entries that can all be read are put in by what they are read as. -/
theorem addEach_eq (read : Json → Except Fault α) (hread : ∀ e ∈ es, read e.2 = .ok (value e.2)) (a : Answers) :
    addEach read add es a = .ok (addAll add value es a) := by
  induction es generalizing a with
  | nil => rfl
  | cons e rest ih =>
    obtain ⟨hfirst, hrest⟩ := List.forall_mem_cons.mp hread
    rw [addEach, hfirst]
    exact ih hrest (add a e.1 (value e.2))

/-- Entries of which one cannot be read come to its fault, if there is no other one. -/
theorem addEach_error (read : Json → Except Fault α) {fault : Fault}
    (hread : ∀ e ∈ es, read e.2 = .ok (value e.2) ∨ read e.2 = .error fault)
    (hfault : ∃ e ∈ es, read e.2 = .error fault) (a : Answers) : addEach read add es a = .error fault := by
  induction es generalizing a with
  | nil => simp at hfault
  | cons e rest ih =>
    obtain ⟨hfirst, hrest⟩ := List.forall_mem_cons.mp hread
    rw [addEach]
    -- Entries in front of the faulty one are put in, and what was put in is forgotten.
    rcases hfirst with hok | herror
    · obtain ⟨e', he', herror⟩ := hfault
      rcases List.mem_cons.mp he' with rfl | he'
      · rw [hok] at herror
        cases herror
      · rw [hok]
        exact ih hrest ⟨e', he', herror⟩ _
    · rw [herror]

/-- The last entry of a name counts, and for other names what was there before. -/
theorem addAll_lookup (view : Answers → List (String × α))
    (hview : ∀ a name v, view (add a name v) = (name, v) :: view a) (a : Answers) (name : String) :
    (view (addAll add value es a)).lookup name = ((es.reverse.lookup name).map value).or ((view a).lookup name) := by
  induction es generalizing a with
  | nil => rfl
  | cons e rest ih =>
    rw [addAll_cons, ih, hview, lookup_reverse_cons]
    cases rest.reverse.lookup name with
    | some j => rfl
    | none =>
      rw [List.lookup_cons, List.lookup_cons]
      cases name == e.1 <;> rfl

/-- What no entry touches stays. -/
theorem addAll_keeps (view : Answers → β) (hview : ∀ a name v, view (add a name v) = view a) (a : Answers) :
    view (addAll add value es a) = view a := by
  induction es generalizing a with
  | nil => rfl
  | cons e rest ih => exact (ih _).trans (hview a e.1 (value e.2))

end addAll

/-! ## Entries -/

/-- Strings are arguments as they are. -/
theorem mapM_searchable {items : List Json} (h : ∀ j ∈ items, Check.isString j) :
    items.mapM Json.searchable = .ok items := by
  induction items with
  | nil => rfl
  | cons j rest ih =>
    obtain ⟨hfirst, hrest⟩ := List.forall_mem_cons.mp h
    have hj : j.searchable = .ok j := by cases j <;> first | rfl | cases hfirst
    rw [List.mapM_cons, hj, ih hrest]
    rfl

/-- The rule for a text that an entry gives. -/
def textOf (j : Json) : TextRule :=
  .fixed (some j.text)

/-- A text that can be written out is put in as it is written. -/
theorem textRule_of_printable {j : Json} (h : j.isPrintable) : (textRule j).mapError Fault.number = .ok (textOf j) := by
  rw [textRule, if_pos h]
  rfl

/-- A text with too many digits cannot be read. -/
theorem textRule_of_long {j : Json} (h : ¬j.isPrintable) : (textRule j).mapError Fault.number = .error (.number .tooLong) := by
  rw [textRule, if_neg h]
  rfl

/-- The rule for hiding that an entry gives. -/
def ruleOf : Json → HideRule
  | .bool b => .always b
  | .array items => .keyed items
  | _ => .always false

/-- A list for hiding that passes its check has texts only. -/
theorem isString_of_checked {name : String} {items : List Json} (h : Check.hide name (.array items) = []) :
    ∀ j ∈ items, Check.isString j := by
  simpa [Check.hide] using h

/-- A rule for hiding that passes its check can be read. -/
theorem hideRule_of_checked {name : String} {j : Json} (h : Check.hide name j = []) :
    (hideRule j).mapError Fault.kind = .ok (ruleOf j) := by
  cases j with
  | bool b => rfl
  | array items =>
    rw [hideRule, mapM_searchable (isString_of_checked h)]
    rfl
  | _ => cases h

/-- A style that passes its check can be read. -/
theorem style_of_checked {name : String} {j : Json} (h : Check.style name j = []) :
    (Style.ofJson j).mapError Fault.kind = .ok j.styleOf := by
  cases j with
  | object fields => rfl
  | _ => cases h

/-! ## Data -/

/-- The answers of all sections but that of the images. -/
def worded (j : Json) : Answers :=
  addAll Answers.setStyle Json.styleOf (j.entriesOf .style)
    (addAll Answers.setHide ruleOf (j.entriesOf .hide)
      (addAll Answers.setText textOf (j.entriesOf .text) {}))

/-- No other section touches the images. -/
theorem worded_images (j : Json) : (worded j).images = [] := by
  rw [worded, addAll_keeps Answers.setStyle _ Answers.images fun _ _ _ => rfl,
    addAll_keeps Answers.setHide _ Answers.images fun _ _ _ => rfl,
    addAll_keeps Answers.setText _ Answers.images fun _ _ _ => rfl]

/-- The texts of checked data are put in if they can all be written out. -/
theorem addTexts_of_short {j : Json} (h : checkData j = []) (hshort : j.HasShortTexts) (a : Answers) :
    addTexts j a = .ok (addAll Answers.setText textOf (j.entriesOf .text) a) := by
  simp only [addTexts, (entries_eq h .text).1]
  exact addEach_eq Answers.setText textOf (fun e => (textRule e).mapError .number)
    (fun e he => textRule_of_printable (hshort e he)) a

/-- One text that cannot be written out is the fault, whatever the others are. -/
theorem addTexts_of_long {j : Json} (h : checkData j = []) (hlong : ¬j.HasShortTexts) (a : Answers) :
    addTexts j a = .error (.number .tooLong) := by
  obtain ⟨e, he, hlong⟩ : ∃ e ∈ j.entriesOf .text, ¬e.2.isPrintable := by
    simpa [Json.HasShortTexts] using hlong
  simp only [addTexts, (entries_eq h .text).1]
  refine addEach_error Answers.setText textOf (fun e => (textRule e).mapError .number) (fun e' _ => ?_)
    ⟨e, he, textRule_of_long hlong⟩ a
  by_cases hprintable : e'.2.isPrintable
  · exact .inl (textRule_of_printable hprintable)
  · exact .inr (textRule_of_long hprintable)

/-- The rules for hiding of checked data are all put in. -/
theorem addHides_of_checked {j : Json} (h : checkData j = []) (a : Answers) :
    addHides j a = .ok (addAll Answers.setHide ruleOf (j.entriesOf .hide) a) := by
  obtain ⟨hentries, hchecked⟩ := entries_eq h .hide
  simp only [addHides, hentries]
  exact addEach_eq Answers.setHide ruleOf (fun e => (hideRule e).mapError .kind)
    (fun e he => hideRule_of_checked (hchecked e he)) a

/-- The styles of checked data are all put in. -/
theorem addStyles_of_checked {j : Json} (h : checkData j = []) (a : Answers) :
    addStyles j a = .ok (addAll Answers.setStyle Json.styleOf (j.entriesOf .style) a) := by
  obtain ⟨hentries, hchecked⟩ := entries_eq h .style
  simp only [addStyles, hentries]
  exact addEach_eq Answers.setStyle Json.styleOf (fun e => (Style.ofJson e).mapError .kind)
    (fun e he => style_of_checked (hchecked e he)) a

/-- Checked data whose texts can be written out gives answers from all entries of its texts, rules and styles; what is
left is to add the images. -/
theorem ofData_eq {p : Place} {j : Json} (h : checkData j = []) (hshort : j.HasShortTexts) :
    Answers.ofData p j = addImages p j (worded j) := by
  simp only [Answers.ofData, addTexts_of_short h hshort, addHides_of_checked h, addStyles_of_checked h, Except.bind]
  rfl

/-- Checked data with a text that cannot be written out gives no answers, be there images without a file or not. -/
theorem ofData_of_long {p : Place} {j : Json} (h : checkData j = []) (hlong : ¬j.HasShortTexts) :
    Answers.ofData p j = .error (.number .tooLong) := by
  rw [Answers.ofData, addTexts_of_long h hlong]
  rfl

end OfData

end SlideFill
