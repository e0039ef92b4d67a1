import SlideFill.Proofs.Data.Wording
import SlideFill.Proofs.Mapping.Checked
import SlideFill.Proofs.Mapping.Spelling

/-!
# What checked data denotes

Checked data whose texts can be written out gives a mapping unless there are images without a file, and then all of those
are reported (`OfData.ofData_cases`). The mapping is read off the entries of the data, name by name (`Denotes`). The check
lets whole numbers pass that have too many digits to be written out, and such a text is a fault of another kind.
-/

namespace SlideFill

/-! ## Entries -/

namespace Json

/-- The value that a section has for a name. Were there more than one, the last would count. -/
def valueIn? (j : Json) (s : DataSection) (name : String) : Option Json :=
  (j.entriesOf s).reverse.lookup name

/-- The path that an image gives; a string is the path of one. -/
def imagePath? (j : Json) : Option Path :=
  match j with
  | .string s => some (.ofString s)
  | j =>
    match j.field? "path" with
    | some (.string s) => some (.ofString s)
    | _ => none

/-- Whether a rule hides a variable with an argument, or without one. -/
def hidesFor (argument : Option String) : Json → Bool
  | .bool b => b
  | .array items =>
    match argument with
    | none => false
    | some s => items.any fun item =>
      match item with
      | .string t => s == t
      | _ => false
  | _ => false

end Json

namespace OfData

/-- The issue of an image without a file at its path. -/
def Place.unfound? (p : Place) (e : String × Json) : Option Issue :=
  match e.2.imagePath?.map p.locate with
  | some (.ok path) =>
    if (p.tree.file? p.directory path).isSome then none else some (.imageNotFound e.1 path.render)
  | _ => none

/-- The issues of all images without a file, in document order. -/
def Place.unfound (p : Place) (j : Json) : List Issue :=
  (j.entriesOf .images).filterMap p.unfound?

/-- Whether it can be told what is at the paths of all images. -/
def Place.CanLook (p : Place) (j : Json) : Prop :=
  ∀ e ∈ j.entriesOf .images, ∀ given, e.2.imagePath? = some given → (p.fetch given).isOk

/-- Whether a replacement is the one that an image gives: the bytes of the file at its path, with the format and the mode
that it spells. -/
def Place.Gives (p : Place) (j : Json) (r : Replacement) : Prop :=
  ∃ given path content format mode, j.imagePath? = some given ∧ p.locate given = .ok path ∧
    p.tree.file? p.directory path = some content ∧ IsSpelled ImageFormat.spellings .png (j.field? "format") format ∧
    IsSpelled FitMode.spellings .crop (j.field? "mode") mode ∧
    r = ⟨content.imageBytes, .made format, .made mode⟩

end OfData

/-- Whether a mapping is the one that data means, with the images of a place. -/
structure Denotes (p : OfData.Place) (j : Json) (m : Mapping) : Prop where
  text : ∀ v, m.text v = (j.valueIn? .text v.name).map Json.text
  hide : ∀ v, m.hide v = (j.valueIn? .hide v.name).map (Json.hidesFor v.argument)
  style : ∀ name, m.style name = (j.valueIn? .style name).map Json.styleOf
  noImage : ∀ name, j.valueIn? .images name = none → m.image name = none
  image : ∀ name e, j.valueIn? .images name = some e → ∃ r, m.image name = some r ∧ p.Gives e r

namespace OfData

/-! ## Rules for hiding -/

/-- An argument is among strings if it is one of them. -/
theorem any_same {items : List Json} (h : ∀ j ∈ items, Check.isString j) (v : Variable) :
    items.any (Json.same (Answers.argumentOf v)) = Json.hidesFor v.argument (.array items) := by
  cases hargument : v.argument with
  | none =>
    rw [Answers.argumentOf, hargument, Json.hidesFor, List.any_eq_false]
    intro j hj
    cases j with
    | string t => simp [Json.same, Json.sameAtom, Json.asInt?]
    | _ => cases h _ hj
  | some s =>
    simp only [Answers.argumentOf, hargument, Json.hidesFor]
    rw [Bool.eq_iff_iff, List.any_eq_true, List.any_eq_true]
    refine exists_congr fun j => and_congr_right fun hj => ?_
    cases j with
    | string t => simp [Json.same, Json.sameAtom]
    | _ => cases h _ hj

/-- A rule hides what its entry says. -/
theorem ruleOf_answer {name : String} {j : Json} (h : Check.hide name j = []) (v : Variable) :
    (ruleOf j).answer (Answers.argumentOf v) = Json.hidesFor v.argument j := by
  cases j with
  | bool b => rfl
  | array items => exact any_same (isString_of_checked h) v
  | _ => cases h

/-! ## Images -/

/-- If it can be told what is at the path of an image, the content there is that of the file that the path leads to. -/
theorem fetch_ok {p : Place} {given : Path} (h : (p.fetch given).isOk) :
    ∃ path, p.locate given = .ok path ∧ p.fetch given = .ok (path, p.tree.file? p.directory path) := by
  obtain ⟨found, hfetch⟩ := isOk_iff.mp h
  obtain ⟨path, hpath, hlook⟩ := bind_eq_ok.mp hfetch
  refine ⟨path, hpath, ?_⟩
  rw [hfetch]
  obtain ⟨entry, hentry, rfl⟩ := map_eq_ok.mp hlook
  unfold FileTree.look at hentry
  unfold FileTree.file?
  cases hfind : p.tree.find p.directory path with
  | ok e =>
    rw [hfind] at hentry
    cases hentry
    cases e <;> rfl
  | error obstacle =>
    rw [hfind] at hentry
    cases obstacle with
    | tooLong => cases hentry
    | _ =>
      cases hentry
      rfl

/-- The fields of an image that passes its check have a path. -/
theorem fields_of_checked {name : String} {j : Json} (h : Check.image name j = []) :
    ∃ fields given, imageFields j = .ok fields ∧ imagePath fields = .ok given ∧ j.imagePath? = some given ∧
      (∀ key, key ≠ "path" → j.field? key = fields.lookup key) ∧ Check.imageFields name fields = [] := by
  cases j with
  | string s =>
    refine ⟨[("path", .string s)], .ofString s, rfl, rfl, rfl, fun key hkey => ?_, h⟩
    rw [List.lookup_cons, beq_false_of_ne hkey]
    rfl
  | object fields =>
    have hpath : Check.isFilledString ((fields.lookup "path").getD .null) := by
      have hissues := (List.append_eq_nil_iff.mp (List.append_eq_nil_iff.mp h).1).1
      simpa using (List.append_eq_nil_iff.mp hissues).2
    cases hvalue : fields.lookup "path" with
    | none =>
      rw [hvalue] at hpath
      cases hpath
    | some value =>
      rw [hvalue] at hpath
      cases value with
      | string s =>
        refine ⟨fields, .ofString s, rfl, ?_, ?_, fun key _ => rfl, h⟩
        · rw [imagePath, hvalue]
        · simp only [Json.imagePath?, Json.field?, hvalue]
      | _ => cases hpath
  | _ => cases h

/-- The replacement that an image gives, if there is a file. -/
def Place.replacement (p : Place) (j : Json) : Replacement :=
  match image p j with
  | .ok (.inr r) => r
  | _ => ⟨.other 0, .made .png, .made .crop⟩

/-- An image that passes its check either is one without a file or gives a replacement. -/
theorem image_of_checked {p : Place} {name : String} {j : Json} (h : Check.image name j = [])
    (hlook : ∀ given, j.imagePath? = some given → (p.fetch given).isOk) :
    (∃ path, image p j = .ok (.inl path) ∧ p.unfound? (name, j) = some (.imageNotFound name path.render)) ∨
      image p j = .ok (.inr (p.replacement j)) ∧ p.Gives j (p.replacement j) ∧ p.unfound? (name, j) = none := by
  obtain ⟨fields, given, hfields, hgiven, hpath, hkeys, hissues⟩ := fields_of_checked h
  obtain ⟨path, hlocate, hfetch⟩ := fetch_ok (hlook given hpath)
  have hunfound : p.unfound? (name, j) =
      if (p.tree.file? p.directory path).isSome then none else some (.imageNotFound name path.render) := by
    simp only [Place.unfound?, hpath, Option.map_some, hlocate]
  -- The file decides first: the format and the mode of an image are read only if there is one.
  cases hcontent : p.tree.file? p.directory path with
  | none =>
    left
    refine ⟨path, ?_, by rw [hunfound, hcontent]; rfl⟩
    rw [hcontent] at hfetch
    simp only [image, hfields, hgiven, hfetch]
  | some content =>
    right
    obtain ⟨hissues, hmode⟩ := List.append_eq_nil_iff.mp hissues
    obtain ⟨-, hformat⟩ := List.append_eq_nil_iff.mp hissues
    obtain ⟨format, hspelled, hread⟩ := format_of_checked hformat
    obtain ⟨mode, hspelled', hread'⟩ := mode_of_checked hmode
    rw [hcontent] at hfetch
    have himage : image p j = .ok (.inr ⟨content.imageBytes, .made format, .made mode⟩) := by
      simp only [image, hfields, hgiven, hfetch, hread, hread']
    have hreplacement : p.replacement j = ⟨content.imageBytes, .made format, .made mode⟩ := by
      rw [Place.replacement, himage]
    rw [hreplacement]
    refine ⟨himage, ⟨given, path, content, format, mode, hpath, hlocate, hcontent, ?_, ?_, rfl⟩, ?_⟩
    · rw [hkeys "format" (by decide)]
      exact hspelled
    · rw [hkeys "mode" (by decide)]
      exact hspelled'
    · rw [hunfound, hcontent]
      rfl

/-- Images are added one by one, and all those without a file are issues. -/
theorem addImageEach_ok {p : Place} {es : List (String × Json)}
    (hes : ∀ e ∈ es, (∃ path, image p e.2 = .ok (.inl path) ∧ p.unfound? e = some (.imageNotFound e.1 path.render)) ∨
      image p e.2 = .ok (.inr (p.replacement e.2)) ∧ p.Gives e.2 (p.replacement e.2) ∧ p.unfound? e = none)
    (a : Answers) :
    ∃ a', addImageEach p es a = .ok (a', es.filterMap p.unfound?) ∧
      (es.filterMap p.unfound? = [] → a' = addAll Answers.setImage p.replacement es a) := by
  induction es generalizing a with
  | nil => exact ⟨a, rfl, fun _ => rfl⟩
  | cons e rest ih =>
    obtain ⟨hfirst, hrest⟩ := List.forall_mem_cons.mp hes
    rcases hfirst with ⟨path, himage, hunfound⟩ | ⟨himage, -, hunfound⟩
    · obtain ⟨a', ha', -⟩ := ih hrest a
      rw [List.filterMap_cons_some hunfound]
      refine ⟨a', ?_, fun hnil => by cases hnil⟩
      simp only [addImageEach, himage, ha', Except.map]
    · obtain ⟨a', ha', hall⟩ := ih hrest (a.setImage e.1 (p.replacement e.2))
      rw [List.filterMap_cons_none hunfound]
      refine ⟨a', ?_, hall⟩
      simp only [addImageEach, himage, ha']

/-! ## Data -/

/-- The text of a name is what its value in the data is read as. -/
theorem worded_texts (j : Json) (name : String) :
    (worded j).texts.lookup name = (j.valueIn? .text name).map textOf := by
  rw [worded, addAll_keeps Answers.setStyle _ Answers.texts fun _ _ _ => rfl,
    addAll_keeps Answers.setHide _ Answers.texts fun _ _ _ => rfl,
    addAll_lookup Answers.setText _ Answers.texts fun _ _ _ => rfl]
  exact Option.or_none

/-- The rule of a name for hiding is what its value in the data is read as. -/
theorem worded_hides (j : Json) (name : String) : (worded j).hides.lookup name = (j.valueIn? .hide name).map ruleOf := by
  rw [worded, addAll_keeps Answers.setStyle _ Answers.hides fun _ _ _ => rfl,
    addAll_lookup Answers.setHide _ Answers.hides fun _ _ _ => rfl,
    addAll_keeps Answers.setText _ Answers.hides fun _ _ _ => rfl]
  exact Option.or_none

/-- The style of a name is what its value in the data is read as. -/
theorem worded_styles (j : Json) (name : String) :
    (worded j).styles.lookup name = (j.valueIn? .style name).map Json.styleOf := by
  rw [worded, addAll_lookup Answers.setStyle _ Answers.styles fun _ _ _ => rfl,
    addAll_keeps Answers.setHide _ Answers.styles fun _ _ _ => rfl,
    addAll_keeps Answers.setText _ Answers.styles fun _ _ _ => rfl]
  exact Option.or_none

/-- The answers of all sections, where all images have files. -/
def complete (p : Place) (j : Json) : Answers :=
  addAll Answers.setImage p.replacement (j.entriesOf .images) (worded j)

/-- The replacement of a name is what its value in the data gives. -/
theorem complete_images (p : Place) (j : Json) (name : String) :
    (complete p j).images.lookup name = (j.valueIn? .images name).map p.replacement := by
  rw [complete, addAll_lookup Answers.setImage _ Answers.images fun _ _ _ => rfl, worded_images]
  exact Option.or_none

/-- Checked data is denoted by the answers of all its entries, if its images are given. -/
theorem complete_denotes {p : Place} {j : Json} (h : checkData j = [])
    (hgives : ∀ e ∈ j.entriesOf .images, p.Gives e.2 (p.replacement e.2)) : Denotes p j (complete p j).mapping where
  text v := by
    have htexts : (complete p j).texts = (worded j).texts := addAll_keeps Answers.setImage _ Answers.texts (fun _ _ _ => rfl) _
    simp only [Answers.mapping, Answers.text, htexts, worded_texts]
    cases j.valueIn? .text v.name <;> rfl
  hide v := by
    have hhides : (complete p j).hides = (worded j).hides := addAll_keeps Answers.setImage _ Answers.hides (fun _ _ _ => rfl) _
    simp only [Answers.mapping, Answers.hide, hhides, worded_hides]
    cases hentry : j.valueIn? .hide v.name with
    | none => rfl
    | some rule =>
      have hchecked := (entries_eq h .hide).2 _ (mem_of_lookup_reverse hentry)
      exact congrArg some (ruleOf_answer hchecked v)
  style name := by
    have hstyles : (complete p j).styles = (worded j).styles := addAll_keeps Answers.setImage _ Answers.styles (fun _ _ _ => rfl) _
    simp only [Answers.mapping, hstyles, worded_styles]
  noImage name hentry := by
    simp only [Answers.mapping, complete_images, hentry, Option.map_none]
  image name e hentry := by
    refine ⟨p.replacement e, ?_, hgives _ (mem_of_lookup_reverse hentry)⟩
    simp only [Answers.mapping, complete_images, hentry, Option.map_some]

/-- How it goes with checked data whose texts can be written out: it gives the mapping that it means or, if there are
images without a file, all of these are reported. -/
theorem ofData_cases {p : Place} {j : Json} (h : checkData j = []) (hshort : j.HasShortTexts) (hlook : p.CanLook j) :
    p.unfound j = [] ∧ Answers.ofData p j = .ok (complete p j) ∧ Denotes p j (complete p j).mapping ∨
      p.unfound j ≠ [] ∧ Answers.ofData p j =
        .error (.rejected ⟨(p.unfound j).map fun i => Text.trim i.message, none⟩) := by
  obtain ⟨himages, hchecked⟩ := entries_eq h .images
  have hes := fun e he => image_of_checked (p := p) (hchecked e he) (hlook e he)
  obtain ⟨a, hadd, hall⟩ := addImageEach_ok hes (worded j)
  rw [ofData_eq h hshort, addImages, himages]
  by_cases hunfound : p.unfound j = []
  · refine .inl ⟨hunfound, ?_, complete_denotes h fun e he => ?_⟩
    · rw [Place.unfound] at hunfound
      rw [hall hunfound, hunfound] at hadd
      simp only [hadd]
      rfl
    · rcases hes e he with ⟨path, -, hmissing⟩ | ⟨-, hgives, -⟩
      · have hnone := List.filterMap_eq_nil_iff.mp hunfound e he
        rw [hmissing] at hnone
        cases hnone
      · exact hgives
  · refine .inr ⟨hunfound, ?_⟩
    rw [← Rejection.ofIssues_issues hunfound none]
    rw [Place.unfound] at hunfound ⊢
    simp only [hadd]

end OfData

/-- Checked data whose texts can be written out gives the mapping that it means unless there are images without a file,
and then it is rejected with one issue for each of these and with no other. A text that cannot be written out is the
fault, whatever the images are. -/
theorem Answers.ofData_denotes {p : OfData.Place} {j : Json} (hvalid : (validate j).isOk) (hlook : p.CanLook j) :
    (j.HasShortTexts →
      (p.unfound j = [] → ∃ a, Answers.ofData p j = .ok a ∧ Denotes p j a.mapping) ∧
      (p.unfound j ≠ [] → ∃ r, Answers.ofData p j = .error (.rejected r) ∧
        r.issues = (p.unfound j).map (fun i => Text.trim i.message) ∧ r.source = none)) ∧
    (¬j.HasShortTexts → Answers.ofData p j = .error (.number .tooLong)) := by
  have hchecked := validate_isOk_iff.mp hvalid
  refine ⟨fun hshort => ?_, OfData.ofData_of_long hchecked⟩
  rcases OfData.ofData_cases hchecked hshort hlook with ⟨hfound, hok, hdenotes⟩ | ⟨hmissing, herror⟩
  · exact ⟨fun _ => ⟨_, hok, hdenotes⟩, fun hmissing => absurd hfound hmissing⟩
  · exact ⟨fun hfound => absurd hfound hmissing, fun _ => ⟨_, herror, rfl, rfl⟩⟩

/-- Data with an entry in each of three sections. -/
def letterhead : Json :=
  .object [("text", .object [("title", .string "Report")]),
    ("hide", .object [("draft", .array [.string "no"])]),
    ("images", .object [("logo", .object [("path", .string "logo.png"), ("format", .string " JPG ")])])]

/-- A directory with one file. -/
def desk (name : String) : OfData.Place where
  tree := FileTree.empty.put [name] (.file (.image ⟨.png, ⟨.rgb, 1, [[200, 30, 30]]⟩⟩))
  directory := []
  base := none

/-- Data with one text, which is a whole number. -/
def ledger (total : Int) : Json :=
  .object [("text", .object [("total", .int total)])]

/-- The least number of more digits than can be written out. -/
def tooMuch : Int :=
  Int.ofNat (Nat.pow 10 Json.maxDigits)

/-- A natural number is short if it is below the least one that is not. -/
theorem isShort_ofNat (n : Nat) : Json.isShort (Int.ofNat n) = decide (n < Nat.pow 10 Json.maxDigits) :=
  rfl

/-- The power is not computed: that it is less than itself is what is denied. -/
theorem tooMuch_isLong : Json.isShort tooMuch = false := by
  rw [tooMuch, isShort_ofNat]
  exact decide_eq_false (Nat.lt_irrefl _)

/-- The check does not look at how long a number is. -/
theorem ledger_validates (total : Int) : (validate (ledger total)).isOk :=
  validate_isOk_iff.mpr rfl

/-- A number that is too long makes its data have a text that is. -/
theorem ledger_isLong {total : Int} (h : Json.isShort total = false) : ¬(ledger total).HasShortTexts := by
  intro hshort
  have htotal : Json.isShort total = true := hshort ("total", .int total) List.mem_cons_self
  rw [h] at htotal
  cases htotal

/-- Data without images is looked up anywhere. -/
theorem ledger_canLook (p : OfData.Place) (total : Int) : p.CanLook (ledger total) := by
  intro e he
  cases he

/-- Data with a logo gives a mapping where the logo is, is rejected where it is not, and data with a number that is too
long gives none. -/
theorem letterhead_denotes :
    (∃ a, Answers.ofData (desk "logo.png") letterhead = .ok a ∧ Denotes (desk "logo.png") letterhead a.mapping) ∧
      (∃ r, Answers.ofData (desk "photo.png") letterhead = .error (.rejected r) ∧
        r.issues = ["images.logo.path not found: logo.png"]) ∧
      Answers.ofData (desk "logo.png") (ledger tooMuch) = .error (.number .tooLong) := by
  have hvalid : (validate letterhead).isOk := by decide +kernel
  have hshort : letterhead.HasShortTexts := by
    intro e he
    obtain rfl := List.mem_singleton.mp he
    rfl
  have hlook : ∀ name ∈ ["logo.png", "photo.png"], (desk name).CanLook letterhead := by
    intro name hname e he given hgiven
    obtain rfl := List.mem_singleton.mp he
    obtain rfl := Option.some.inj hgiven
    revert name
    decide +kernel
  refine ⟨((Answers.ofData_denotes hvalid (hlook _ (by decide))).1 hshort).1 (by decide +kernel), ?_, ?_⟩
  · obtain ⟨r, hr, hissues, -⟩ :=
      ((Answers.ofData_denotes hvalid (hlook "photo.png" (by decide))).1 hshort).2 (by decide +kernel)
    exact ⟨r, hr, hissues.trans (by decide +kernel)⟩
  · exact (Answers.ofData_denotes (ledger_validates _) (ledger_canLook _ _)).2 (ledger_isLong tooMuch_isLong)

/-- Checked data need not give a mapping or be rejected for its images: a whole number can be too long to be a text. -/
theorem ofData_maps_or_rejects_false :
    ¬∀ (p : OfData.Place) (j : Json), (validate j).isOk → p.CanLook j →
      (∃ a, Answers.ofData p j = .ok a) ∨ ∃ r, Answers.ofData p j = .error (.rejected r) := by
  intro h
  have hfault := OfData.ofData_of_long (p := desk "logo.png") (validate_isOk_iff.mp (ledger_validates tooMuch))
    (ledger_isLong tooMuch_isLong)
  -- The fault is neither a mapping nor a rejection.
  rcases h (desk "logo.png") _ (ledger_validates tooMuch) (ledger_canLook _ _) with ⟨a, ha⟩ | ⟨r, hr⟩
  · rw [hfault] at ha
    cases ha
  · rw [hfault] at hr
    cases hr

end SlideFill
