import SlideFill.Proofs.Fill.Dependence
import SlideFill.Proofs.Mapping.Denotation
import SlideFill.Proofs.Mapping.Styling

/-!
# Fills that cannot fail

A fill fails with a broken link, with a style or a text that a deck does not take, or with an image. Where there are no
images, `Deck.fill_isOk_of_asked` says that it succeeds if no link is broken and everything given in answer can be taken.
The check of template data does not look that far: `checked_data_fills` says which values are left to be bounded in data
that passes it.
-/

namespace SlideFill

/-! ## Texts that can be written -/

/-- Whether a run can be given a character. Control characters are written out. -/
def isWritable (c : Char) : Bool :=
  c.toNat != 0xFFFE && c.toNat != 0xFFFF

/-- Whether a run can be given a text. -/
def isWritableText (text : String) : Bool :=
  text.toList.all isWritable

/-- A character that a file can hold can be written. -/
theorem isWritable_of_isStorable {c : Char} (h : isStorable c) : isWritable c := by
  rw [isStorable, Bool.or_eq_true, decide_eq_true_eq] at h
  rcases h with rfl | h
  · decide
  · simp only [Bool.and_eq_true] at h
    simp [isWritable, h.1.2, h.2]

/-- A text that a file can hold can be written. -/
theorem isWritableText_of_isStorableText {text : String} (h : isStorableText text) : isWritableText text :=
  List.all_eq_true.mpr fun c hc => isWritable_of_isStorable (List.all_eq_true.mp h c hc)

/-- Control characters are written out with characters that a deck can hold. -/
theorem hexDigits_storable : ∀ n < 0x20, ((Text.hexDigits 4 n).map Char.toUpper).all isStorable := by
  decide +kernel

/-- A character that can be written is escaped to what a file can hold. -/
theorem escapeControl_storable {c : Char} (h : isWritable c) : ∀ d ∈ escapeControl c, isStorable d := by
  intro d hd
  rw [escapeControl] at hd
  cases hc : isControl c with
  | true =>
    have hlt : c.toNat < 0x20 := by
      simp only [isControl, Bool.and_eq_true, decide_eq_true_eq] at hc
      exact hc.1.1
    rw [if_pos hc] at hd
    have hd : d = '_' ∨ d = 'x' ∨ d ∈ (Text.hexDigits 4 c.toNat).map Char.toUpper ∨ d = '_' := by simpa using hd
    rcases hd with rfl | rfl | hd | rfl
    · decide
    · decide
    · exact List.all_eq_true.mp (hexDigits_storable c.toNat hlt) d hd
    · decide
  | false =>
    rw [if_neg (by simp [hc]), List.mem_singleton] at hd
    rw [isWritable, Bool.and_eq_true] at h
    rw [hd, isStorable, hc, h.1, h.2]
    simp

/-- A text that can be written is one that a deck can hold once it is. -/
theorem setText_storable {text : String} (h : isWritableText text) (r : Run) : isStorableText (r.setText text).text := by
  rw [Run.setText, isStorableText, String.toList_ofList, List.all_eq_true]
  intro d hd
  obtain ⟨c, hc, hd⟩ := List.mem_flatMap.mp hd
  exact escapeControl_storable (List.all_eq_true.mp h c hc) d hd

/-! ## What a mapping can give -/

/-- Whether a style can be applied: there is nothing wrong with its size, and a deck can hold its font name. -/
structure Style.IsApplicable (s : Style) : Prop where
  size : ∀ e, s.size ≠ some (.error e)
  font : s.font.all isStorableText

/-- A style that is applicable does not fail on any font. -/
theorem Style.apply_fault {s : Style} (h : s.IsApplicable) (f : Font) : (s.apply f).2 = none := by
  have hface : ∀ f, (s.applyFace f).2 = none := by
    intro f
    rw [applyFace, if_pos h.font]
  unfold apply
  cases hsize : s.size with
  | none => exact hface _
  | some size =>
    cases size with
    | ok units => exact hface _
    | error e => exact absurd hsize (h.size e)

/-- Whether what a mapping gives in answer can be taken: a style can be applied, and a text can be written. -/
def Mapping.CanGive (m : Mapping) : Query → Prop
  | .style name => ∀ s, m.style name = some s → s.IsApplicable
  | .text v => ∀ t, m.text v = some t → isWritableText t
  | .hide _ => True
  | .image _ => True

/-- A mapping that can give the style of a variable restyles any font. -/
theorem Mapping.restyle_fault {m : Mapping} {v : Variable} (h : m.CanGive (.style v.name)) (f : Font) :
    (m.restyle v f).2 = none := by
  rw [restyle]
  cases hs : m.style v.name with
  | none => rfl
  | some s => exact Style.apply_fault (h s hs) f

/-! ## Runs and paragraphs -/

/-- Whether a run could be given the text that it has, if the item is one. -/
def Item.IsWritable (item : Item) : Prop :=
  ∀ text, item.text? = some text → isWritableText text

/-- Whether all runs of a paragraph could be given the texts that they have. -/
def Paragraph.IsWritable (p : Paragraph) : Prop :=
  ∀ item ∈ p.items, item.IsWritable

variable {m : Mapping}

namespace Item

/-- Following the link of a run keeps its text or takes it, whatever comes of it. -/
theorem direct_text (m : Mapping) (alone : Bool) (item : Item) :
    (item.direct m alone).after.text? = item.text? ∨ (item.direct m alone).after.text? = some "" := by
  cases item with
  | run r =>
    rw [direct, Run.direct_eq]
    cases r.variable? with
    | none => exact .inl rfl
    | some v =>
      cases hs : (m.restyle v r.font).2 with
      | some e => exact .inl (by simp [hs, Passage.mapAfter, text?])
      | none => cases hh : m.hides v <;> cases alone <;> simp [hs, hh, Passage.mapAfter, text?]
  | lineBreak => exact .inl rfl
  | field text => exact .inl rfl

/-- An item with a text that can be written has one after its link is followed. -/
theorem IsWritable.direct {item : Item} (h : item.IsWritable) (alone : Bool) :
    (item.direct m alone).after.IsWritable := by
  intro text htext
  rcases item.direct_text m alone with hsame | hempty
  · exact h text (hsame ▸ htext)
  · rw [hempty] at htext
    cases htext
    rfl

/-- A run can be styled if the style that is given for its directive can be applied. -/
theorem direct_isOk_of_asked {alone : Bool} {item : Item}
    (h : ∀ c ∈ (item.direct m alone).asked, m.CanGive c.query) : (item.direct m alone).outcome.isOk := by
  rw [direct_isOk_iff]
  cases item with
  | run r =>
    rw [direct, Passage.mapAfter, Run.direct_asked] at h
    rw [styleFault?, Run.styleFault?]
    cases hv : r.variable? with
    | none => rfl
    | some v =>
      simp only [hv] at h
      exact Mapping.restyle_fault (h ⟨.runLink, .style v.name⟩ List.mem_cons_self) r.font
  | lineBreak => rfl
  | field text => rfl

/-- Runs that could be given the texts that they have can be given those with the values of edits, if these can be
written. -/
theorem canTakeEach_of_isWritable {edits : List Edit} (hedits : ∀ e ∈ edits, e.value.all isWritable) {i : Nat}
    {items : List Item} (h : ∀ item ∈ items, item.IsWritable) : canTakeEach edits i items := by
  induction items generalizing i with
  | nil => rfl
  | cons item rest ih =>
    obtain ⟨hitem, hrest⟩ := List.forall_mem_cons.mp h
    rw [canTakeEach, ih hrest, Bool.and_true]
    cases item with
    | run r =>
      have htext : isWritableText (r.rewrittenText edits i) := by
        rw [Run.rewrittenText, isWritableText, String.toList_ofList, List.all_eq_true]
        intro c hc
        rcases Edit.mem_rewrite hc with hc | ⟨e, he, hc⟩
        · exact List.all_eq_true.mp (hitem r.text rfl) c hc
        · exact List.all_eq_true.mp (hedits e he) c hc
      rw [canTake, Run.canTake, setText_storable htext, Bool.or_true]
    | lineBreak => rfl
    | field text => rfl

end Item

/-- A paragraph can be filled if all that it is given in answer can be taken. -/
theorem Paragraph.fill_isOk_of_asked {p : Paragraph} (hp : p.IsWritable)
    (h : ∀ c ∈ (p.fill m).asked, m.CanGive c.query) : (p.fill m).outcome.isOk := by
  rw [fill_asked] at h
  have hitems : (Passage.each (Item.direct m (p.runs.length == 1)) p.items).outcome.isOk :=
    Passage.each_isOk_of_asked (fun _ _ => Item.direct_isOk_of_asked) fun c hc => h c (List.mem_append_left _ hc)
  -- The texts of variables are asked for only if no link of a run has stopped the work before.
  have htexts : ∀ c ∈ (p.directed m).textCalls, m.CanGive c.query := by
    intro c hc
    refine h c (List.mem_append_right _ ?_)
    rwa [if_pos hitems]
  rw [fill_isOk_iff, substitute_isOk_iff]
  refine ⟨fun item hitem => Item.direct_isOk_iff.mp (Passage.each_isOk_iff.mp hitems item hitem), ?_⟩
  apply Item.canTakeEach_of_isWritable
  · intro e he
    obtain ⟨o, ho, v, hv, rfl⟩ := mem_editsOf.mp he
    exact htexts ⟨.text, .text o.var⟩ (List.mem_map_of_mem ho) v hv
  · rw [directed, Passage.each_after hitems]
    intro item hitem
    obtain ⟨original, horiginal, rfl⟩ := List.mem_map.mp hitem
    exact (hp original horiginal).direct _

/-! ## Shapes -/

/-- A body of text can be filled if all that its paragraphs are given in answer can be taken. -/
theorem fillBody_isOk_of_asked {body : List Paragraph} (hbody : ∀ p ∈ body, p.IsWritable)
    (h : ∀ c ∈ (fillBody m body).asked, m.CanGive c.query) : (fillBody m body).outcome.isOk := by
  rw [fillBody_asked] at h
  rw [fillBody_isOk_iff, ← Passage.each_isOk_iff]
  exact Passage.each_isOk_of_asked (fun p hp => Paragraph.fill_isOk_of_asked (hbody p hp)) h

/-- A cell is filled if the mapping can give what it asks for. -/
theorem fillCell_isOk_of_asked {cell : Option (List Paragraph)} (hcell : ∀ p ∈ cell.getD [], p.IsWritable)
    (h : ∀ c ∈ (fillCell m cell).asked, m.CanGive c.query) : (fillCell m cell).outcome.isOk := by
  cases cell with
  | none => rfl
  | some body => exact fillBody_isOk_of_asked hcell h

/-- A text box that is shown asks what its body does. -/
theorem TextBox.mem_fill_asked {box : TextBox} (hlink : (shapeVariable box.link).isOk)
    (hshown : (Shape.text box).isHidden m = false) {c : Call} (hc : c ∈ (fillBody m box.body).asked) :
    c ∈ (box.fill m).asked := by
  obtain ⟨v, hv⟩ := isOk_iff.mp hlink
  rw [Shape.isHidden, Shape.link, linkVariable?_of_ok hv] at hshown
  cases v with
  | none =>
    rw [fill, hv]
    exact hc
  | some v =>
    rw [fill_of_shows hv hshown]
    exact List.mem_cons_of_mem _ hc

/-- A shape whose link is not broken can be filled if all that it is given in answer can be taken. -/
theorem Shape.fill_isOk_of_asked {s : Shape} (hlink : (shapeVariable s.link).isOk)
    (hs : ∀ p ∈ s.paragraphs, p.IsWritable) (h : ∀ c ∈ (s.fill m).asked, m.CanGive c.query) :
    (s.fill m).outcome.isOk := by
  cases s with
  | text box =>
    rw [fill_isOk_iff]
    refine ⟨hlink, fun hshown => fillBody_isOk_iff.mp (fillBody_isOk_of_asked hs ?_)⟩
    exact fun c hc => h c (TextBox.mem_fill_asked hlink hshown hc)
  | table t =>
    rw [fill, Table.fill, isOk_map]
    refine Passage.each_isOk_of_asked (fun row hrow => Passage.each_isOk_of_asked fun cell hcell => ?_) h
    apply fillCell_isOk_of_asked
    exact fun p hp => hs p (List.mem_flatMap.mpr ⟨cell, List.mem_flatten.mpr ⟨row, hrow, hcell⟩, hp⟩)
  | picture p =>
    rw [fill_isOk_iff]
    exact ⟨hlink, fun _ p hp => by cases hp⟩
  | connector id name => rfl
  | group id name children => rfl

/-! ## Decks -/

/-- Whether the texts of all runs are such as runs can be given. -/
def Slide.IsWritable (s : Slide) : Prop :=
  ∀ x ∈ s, ∀ p ∈ x.paragraphs, p.IsWritable

/-- A slide without broken links can be filled if all that it is given in answer can be taken, and no image is. -/
theorem Slide.fill_isOk_of_asked {number : Nat} {s : Slide} (himages : ∀ name, m.image name = none)
    (hlinks : ∀ x ∈ s, (shapeVariable x.link).isOk) (hs : s.IsWritable)
    (h : ∀ r ∈ (fill m number s).asked, m.CanGive r.query) : (fill m number s).outcome.isOk := by
  rw [fill_asked] at h
  have hread : (read m number s).outcome.isOk := by
    refine Passage.each_isOk_of_asked (fun x hx hasked => ?_) h
    refine Shape.fill_isOk_of_asked (hlinks x hx) (hs x hx) fun c hc => ?_
    exact hasked ⟨number, x.name, c.channel, c.query⟩ (List.mem_map_of_mem hc)
  rw [fill_isOk_iff, replaceAll_of_imageless himages]
  exact ⟨(read_isOk_iff number).mp hread, rfl⟩

namespace Deck

/-- Slides are filled if the mapping can give what they ask for and replaces no picture. -/
theorem fillFrom_isOk_of_asked {number : Nat} {d : Deck} (himages : ∀ name, m.image name = none) (hlinks : d.IsLinked)
    (hd : ∀ s ∈ d, Slide.IsWritable s) (h : ∀ r ∈ (fillFrom m number d).asked, m.CanGive r.query) :
    (fillFrom m number d).outcome.isOk := by
  -- A fill that stops asks nothing about the slides behind, so each slide is needed to come to the next.
  induction d generalizing number with
  | nil => rfl
  | cons s rest ih =>
    obtain ⟨hlinked, hothers⟩ := List.forall_mem_cons.mp hlinks
    obtain ⟨hs, hrest⟩ := List.forall_mem_cons.mp hd
    have hfirst : (∀ r ∈ (Slide.fill m number s).asked, m.CanGive r.query) → (Slide.fill m number s).outcome.isOk :=
      Slide.fill_isOk_of_asked himages hlinked hs
    cases hout : (Slide.fill m number s).outcome with
    | error e =>
      rw [fillFrom_cons_error hout] at h
      rw [hout] at hfirst
      cases hfirst h
    | ok t =>
      rw [fillFrom_cons_ok hout] at h ⊢
      rw [isOk_map]
      exact ih hothers hrest fun r hr => h r (List.mem_append_right _ hr)

/-- A fill without images succeeds if no link is broken and all that is given in answer can be taken. -/
theorem fill_isOk_of_asked {d : Deck} (himages : ∀ name, m.image name = none) (hlinks : d.IsLinked)
    (hd : ∀ s ∈ d, Slide.IsWritable s) (h : ∀ r ∈ (fill m d).asked, m.CanGive r.query) : (fill m d).outcome.isOk := by
  rw [fill_asked] at h
  exact fill_isOk_iff.mpr (fillFrom_isOk_of_asked himages hlinks hd h)

end Deck

/-! ## Decks that were read -/

/-- A paragraph that a file can hold has texts that can be written. -/
theorem Paragraph.isWritable_of_isStorable {p : Paragraph} (h : p.isStorable) : p.IsWritable := by
  intro item hitem text htext
  have hstorable := List.all_eq_true.mp h item hitem
  cases item with
  | run r =>
    cases htext
    simp only [Item.isStorable, Run.isStorable, Bool.and_eq_true] at hstorable
    exact isWritableText_of_isStorableText hstorable.1.1
  | lineBreak => cases htext
  | field text => cases htext

/-- A shape that a file can hold has paragraphs that it can hold. -/
theorem Shape.paragraphs_isStorable {s : Shape} (h : s.isStorable) : ∀ p ∈ s.paragraphs, p.isStorable := by
  intro p hp
  cases s with
  | text box =>
    simp only [isStorable, Bool.and_eq_true] at h
    exact List.all_eq_true.mp h.2 p hp
  | table t =>
    obtain ⟨cell, hcell, hp⟩ := List.mem_flatMap.mp hp
    obtain ⟨row, hrow, hcell⟩ := List.mem_flatten.mp hcell
    simp only [isStorable, Table.isStorable, Bool.and_eq_true, List.all_eq_true] at h
    have hbody := h.2 row hrow cell hcell
    cases cell with
    | none => cases hp
    | some body => exact List.all_eq_true.mp hbody p hp
  | picture p => cases hp
  | connector id name => cases hp
  | group id name children => cases hp

/-- A file can hold shapes exactly if it can hold each of them. -/
theorem Shape.areStorable_iff {s : Slide} : areStorable s ↔ ∀ x ∈ s, x.isStorable := by
  induction s with
  | nil => simp [areStorable]
  | cons x rest ih => simp [areStorable, ih]

namespace Deck

/-- The texts of a deck are such as runs can be given. -/
theorem isWritable_of_isStorable {d : Deck} (h : d.isStorable) : ∀ s ∈ d, Slide.IsWritable s := by
  intro s hs x hx p hp
  have hx := Shape.areStorable_iff.mp (List.all_eq_true.mp h s hs) x hx
  exact Paragraph.isWritable_of_isStorable (x.paragraphs_isStorable hx p hp)

/-- Whether the links of all shapes lead to relationships that exist. -/
def HasTargets (d : Deck) : Prop :=
  ∀ s ∈ d, ∀ x ∈ s, ∀ l, x.link = some l → ∀ id, l.target ≠ .missing id

/-- A link that leads to a relationship that exists is not broken. -/
theorem HasTargets.isLinked {d : Deck} (h : d.HasTargets) : d.IsLinked := by
  intro s hs x hx
  cases hlink : x.link with
  | none => rfl
  | some l =>
    have htarget := h s hs x hx l hlink
    rw [shapeVariable, isOk_map, Link.shapeAddress]
    cases hkind : l.target with
    | missing id => exact absurd hkind (htarget id)
    | external url => cases l.action <;> simp
    | internal => cases l.action <;> simp
    | nothing => cases l.action <;> simp

end Deck

/-! ## Checked data -/

/-- A number of points that a font can have as its size: a whole number from one to four thousand, or a broken one that
comes, in units of length, to at least one point and less than the next hundredth after four thousand. -/
inductive Json.IsFontSize : Json → Prop where
  | whole {n : Int} (h : 1 ≤ n ∧ n ≤ 4000) : IsFontSize (.int n)
  | broken {x : Float} {units : Int} (hunits : truncate? (x * Float.ofNat unitsPerPoint) = some units)
      (h : unitsPerPoint ≤ units ∧ units < 4000 * unitsPerPoint + unitsPerHundredth) : IsFontSize (.float x)

/-- A number of units of length is a font size if the hundredths of a point in it are. -/
theorem fontSize_isOk_iff {units : Int} :
    (fontSize units).isOk ↔ unitsPerPoint ≤ units ∧ units < 4000 * unitsPerPoint + unitsPerHundredth := by
  have hrange : (100 ≤ units.fdiv unitsPerHundredth ∧ units.fdiv unitsPerHundredth ≤ 400000) ↔
      unitsPerPoint ≤ units ∧ units < 4000 * unitsPerPoint + unitsPerHundredth := by
    rw [Int.fdiv_eq_ediv_of_nonneg _ (Int.natCast_nonneg _)]
    simp only [unitsPerPoint, unitsPerHundredth]
    omega
  rw [← hrange, fontSize]
  by_cases h : 100 ≤ units.fdiv unitsPerHundredth ∧ units.fdiv unitsPerHundredth ≤ 400000
  · simp [h]
  · simp only [h, if_false, iff_false]
    split <;> simp

/-- A font size can be set. -/
theorem Json.IsFontSize.isOk {j : Json} (h : j.IsFontSize) : ((unitsOfPoints j).bind fontSize).isOk := by
  cases h with
  | @whole n h =>
    have hunits : (unitsOfPoints (.int n)).bind fontSize = fontSize (n * unitsPerPoint) := rfl
    rw [hunits, fontSize_isOk_iff]
    simp only [unitsPerPoint, unitsPerHundredth]
    omega
  | @broken x units hunits h =>
    rw [unitsOfPoints, wholeOfFloat_eq_ok.mpr hunits]
    exact fontSize_isOk_iff.mpr h

/-- Whether the values that data has in answer to a question are such as a deck can take: the size and the font name of a
style, and a text. -/
def Json.CanAnswer (j : Json) : Query → Prop
  | .style name => ∀ fields, j.valueIn? .style name = some (.object fields) →
      (∀ size, fields.lookup "size" = some size → size.IsFontSize) ∧
        ∀ font, fields.lookup "font" = some (.string font) → isStorableText font
  | .text v => ∀ value, j.valueIn? .text v.name = some value → isWritableText value.text
  | .hide _ => True
  | .image _ => True

/-- A style whose size and font name a deck can take can be applied. -/
theorem Style.isApplicable_of_fields {name : String} {fields : List (String × Json)}
    (hcheck : Check.style name (.object fields) = [])
    (hsize : ∀ size, fields.lookup "size" = some size → size.IsFontSize)
    (hfont : ∀ font, fields.lookup "font" = some (.string font) → isStorableText font) :
    (Style.ofFields fields).IsApplicable where
  size e he := by
    obtain ⟨size, hentry, hfault⟩ := Option.map_eq_some_iff.mp he
    have hok := (hsize size hentry).isOk
    rw [hfault] at hok
    cases hok
  font := by
    simp only [Check.style, List.append_eq_nil_iff] at hcheck
    rw [ofFields, Option.all_eq_true]
    intro font hgiven
    obtain ⟨j, hj, rfl⟩ := Option.map_eq_some_iff.mp hgiven
    obtain ⟨hentry, -⟩ := Option.filter_eq_some_iff.mp hj
    have hfilled := Check.pass_of_field hcheck.2 hentry
    cases j with
    | string s => exact hfont s hentry
    | _ => cases hfilled

/-- The mapping that checked data means gives what can be taken if the values of the data can. -/
theorem Denotes.canGive {p : OfData.Place} {j : Json} {m : Mapping} (h : Denotes p j m) (hcheck : checkData j = [])
    {query : Query} (hquery : j.CanAnswer query) : m.CanGive query := by
  cases query with
  | style name =>
    intro s hs
    rw [h.style] at hs
    obtain ⟨value, hvalue, rfl⟩ := Option.map_eq_some_iff.mp hs
    have hchecked := (OfData.entries_eq hcheck .style).2 _ (OfData.mem_of_lookup_reverse hvalue)
    cases value with
    | object fields =>
      obtain ⟨hsize, hfont⟩ := hquery fields hvalue
      exact Style.isApplicable_of_fields hchecked hsize hfont
    | _ => cases hchecked
  | text v =>
    intro t ht
    rw [h.text] at ht
    obtain ⟨value, hvalue, rfl⟩ := Option.map_eq_some_iff.mp ht
    exact hquery value hvalue
  | hide v => trivial
  | image name => trivial

/-- Data without images means a mapping without images. -/
theorem OfData.ofData_of_imageless (p : Place) {j : Json} (hcheck : checkData j = []) (himages : j.IsImageless)
    (hshort : j.HasShortTexts) :
    ∃ a, Answers.ofData p j = .ok a ∧ Denotes p j a.mapping ∧ ∀ name, a.mapping.image name = none := by
  have hnil := himages.entriesOf_images
  have hlook : p.CanLook j := by
    intro e he
    rw [hnil] at he
    cases he
  rcases ofData_cases hcheck hshort hlook with ⟨-, hok, hdenotes⟩ | ⟨hmissing, -⟩
  · refine ⟨_, hok, hdenotes, fun name => hdenotes.noImage name ?_⟩
    rw [Json.valueIn?, hnil]
    rfl
  · rw [Place.unfound, hnil] at hmissing
    exact absurd rfl hmissing

/-- Data that passes its check and has no images gives answers, unless it has a whole number among its texts that is too
long to be written out. The answers fill every deck that a file can hold and in which the links of shapes lead to
relationships that exist, as long as deck and font can take the values that the data has in answer to what the fill asks:
as size of a style a number of points that a font can have, as its font name and as a text one without the characters
that a deck cannot hold. -/
theorem checked_data_fills (p : OfData.Place) (j : Json) (hvalid : (validate j).isOk) (himages : j.IsImageless)
    (hshort : j.HasShortTexts) :
    ∃ a, Answers.ofData p j = .ok a ∧
      ∀ d : Deck, d.isStorable → d.HasTargets →
        (∀ r ∈ (Deck.fill a.mapping d).asked, j.CanAnswer r.query) → (Deck.fill a.mapping d).outcome.isOk := by
  have hcheck := validate_isOk_iff.mp hvalid
  obtain ⟨a, ha, hdenotes, hnone⟩ := OfData.ofData_of_imageless p hcheck himages hshort
  refine ⟨a, ha, fun d hd htargets hvalues => ?_⟩
  exact Deck.fill_isOk_of_asked hnone htargets.isLinked (Deck.isWritable_of_isStorable hd) fun r hr =>
    hdenotes.canGive hcheck (hvalues r hr)

namespace SafetyWitness

/-- No files at all. -/
def place : OfData.Place :=
  ⟨⟨fun _ => none⟩, [], none⟩

/-- A style with a size in points. -/
def style (points : Int) : List (String × Json) :=
  [("bold", .bool true), ("size", .int points)]

/-- Data with a text, a rule for hiding and that style. -/
def data (points : Int) : Json :=
  .object
    [("text", .object [("user", .string "Eve")]), ("hide", .object [("draft", .array [.string "yes"])]),
      ("style", .object [("warning", .object (style points))])]

/-- The answers that the data gives. -/
def answers (points : Int) : Answers where
  texts := [("user", .fixed (some "Eve"))]
  hides := [("draft", .keyed [.string "yes"])]
  styles := [("warning", .ofFields (style points))]

/-- What that data is read as. -/
theorem data_answers (points : Int) : Answers.ofData place (data points) = .ok (answers points) := rfl

/-- A deck with a variable in the text of a run and one in its link. -/
def deck : Deck :=
  [[.text ⟨2, "Box", none, [⟨[.run ⟨"Dear $/user/", some ⟨.external "$/warning/", none⟩, {}⟩]⟩]⟩]]

end SafetyWitness

open SafetyWitness in
/-- Data with a style of fourteen points and a text fills a deck that asks for both. -/
theorem checked_data_fills_warning :
    (validate (data 14)).isOk ∧ (data 14).IsImageless ∧ (data 14).HasShortTexts ∧
      Answers.ofData place (data 14) = .ok (answers 14) ∧
      (∀ r ∈ (Deck.fill (answers 14).mapping deck).asked, (data 14).CanAnswer r.query) ∧
      (Deck.fill (answers 14).mapping deck).outcome.isOk := by
  have hvalid : (validate (data 14)).isOk := by decide +kernel
  have himages : (data 14).IsImageless := by
    intro images h
    cases h
  have hshort : (data 14).HasShortTexts := by
    intro e he
    obtain rfl := List.mem_singleton.mp he
    rfl
  have hasked : (Deck.fill (answers 14).mapping deck).asked =
      [⟨1, "Box", .runLink, .style "warning"⟩, ⟨1, "Box", .runLink, .hide ⟨"warning", none⟩⟩,
        ⟨1, "Box", .text, .text ⟨"user", none⟩⟩] := by decide +kernel
  have hvalues : ∀ r ∈ (Deck.fill (answers 14).mapping deck).asked, (data 14).CanAnswer r.query := by
    rw [hasked, List.forall_mem_cons, List.forall_mem_cons, List.forall_mem_singleton]
    refine ⟨fun fields hfields => ?_, trivial, fun value hvalue => ?_⟩
    · obtain rfl : style 14 = fields := Json.object.inj (Option.some.inj hfields)
      refine ⟨fun size hsize => ?_, fun font hfont => by cases hfont⟩
      obtain rfl : Json.int 14 = size := Option.some.inj hsize
      exact .whole (by decide)
    · obtain rfl : Json.string "Eve" = value := Option.some.inj hvalue
      decide
  obtain ⟨a, ha, hfill⟩ := checked_data_fills place (data 14) hvalid himages hshort
  obtain rfl : answers 14 = a := Except.ok.inj ((data_answers 14).symm.trans ha)
  exact ⟨hvalid, himages, hshort, data_answers 14, hvalues,
    hfill deck (by decide +kernel) (by simp [Deck.HasTargets, deck, Shape.link]) hvalues⟩

/-- It is not true that checked data fills every deck: a size can be more than a font can have. -/
theorem checked_data_fills_always_false :
    ¬∀ (p : OfData.Place) (j : Json), (validate j).isOk → j.IsImageless →
      ∃ a, Answers.ofData p j = .ok a ∧
        ∀ d : Deck, d.isStorable → d.HasTargets → (Deck.fill a.mapping d).outcome.isOk := by
  intro h
  obtain ⟨a, ha, hfill⟩ := h SafetyWitness.place (SafetyWitness.data 5000) (by decide +kernel) fun images h => by cases h
  obtain rfl : SafetyWitness.answers 5000 = a := Except.ok.inj ((SafetyWitness.data_answers 5000).symm.trans ha)
  have hok := hfill SafetyWitness.deck (by decide +kernel) (by simp [Deck.HasTargets, SafetyWitness.deck, Shape.link])
  have hfault : (Deck.fill (SafetyWitness.answers 5000).mapping SafetyWitness.deck).outcome.isOk = false := by
    decide +kernel
  rw [hfault] at hok
  cases hok

end SlideFill
