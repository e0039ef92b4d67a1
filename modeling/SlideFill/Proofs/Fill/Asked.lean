import Mathlib.Data.List.Basic
import SlideFill.Fill.Deck
import SlideFill.Proofs.Fill.Shape
import SlideFill.Proofs.Fill.Substitution

/-!
# What a fill asks

A fill records the questions that it asks. `Deck.fill_congr` says that nothing else matters: a mapping with the same
answers to all of them comes to the same fill, whether that succeeds or stops.
-/

namespace SlideFill

/-- Whether another mapping gives the same answer to a question. -/
def Mapping.AnswersAlike (m m' : Mapping) : Query → Prop
  | .hide v => m'.hides v = m.hides v
  | .style name => m'.style name = m.style name
  | .text v => m'.text v = m.text v
  | .image name => m'.image name = m.image name

/-- Whether another mapping gives the same answers for a variable, whatever is asked about it. -/
structure Mapping.AgreesOn (m m' : Mapping) (v : Variable) : Prop where
  hides : m'.hides v = m.hides v
  style : m'.style v.name = m.style v.name
  text : m'.text v = m.text v
  image : m'.image v.name = m.image v.name

variable {m m' : Mapping}

namespace Mapping

/-- The same answer to a question is the same when it is asked for. -/
theorem AnswersAlike.askHide {v : Variable} (h : m.AnswersAlike m' (.hide v)) : m'.askHide v = m.askHide v :=
  congrArg (Asked.single (.hide v)) h

/-- Mappings that answer a question about a style alike are asked it alike. -/
theorem AnswersAlike.askStyle {name : String} (h : m.AnswersAlike m' (.style name)) :
    m'.askStyle name = m.askStyle name :=
  congrArg (Asked.single (.style name)) h

/-- Mappings that answer a question about a text alike are asked it alike. -/
theorem AnswersAlike.askText {v : Variable} (h : m.AnswersAlike m' (.text v)) : m'.askText v = m.askText v :=
  congrArg (Asked.single (.text v)) h

end Mapping

/-! ## Runs and paragraphs -/

/-- Following the link of a run asks for the style and, unless that is a fault, whether to hide. -/
theorem Run.direct_asked (m : Mapping) (alone : Bool) (r : Run) :
    (r.direct m alone).asked =
      match r.variable? with
      | none => []
      | some v =>
        ⟨.runLink, .style v.name⟩ :: if (r.styleFault? m).isSome then [] else [⟨.runLink, .hide v⟩] := by
  rw [direct_eq, styleFault?]
  cases r.variable? with
  | none => rfl
  | some v =>
    cases hs : (m.restyle v r.font).2 with
    | some e => simp [hs]
    | none => cases hh : m.hides v <;> cases alone <;> simp [hs, hh]

/-- The link of a run is followed the same by mappings that answer alike what it asks. -/
theorem Run.direct_congr {alone : Bool} {r : Run}
    (h : ∀ c ∈ (r.direct m alone).asked, m.AnswersAlike m' c.query) : r.direct m' alone = r.direct m alone := by
  rw [direct_asked] at h
  cases hv : r.variable? with
  | none => rw [direct, direct, hv]
  | some v =>
    simp only [hv] at h
    have hstyle : m.AnswersAlike m' (.style v.name) := h ⟨.runLink, .style v.name⟩ List.mem_cons_self
    have hrestyle : m'.restyle v r.font = m.restyle v r.font := congrArg r.font.restyle hstyle
    rw [direct_eq, direct_eq, hv]
    simp only [hstyle.askStyle, hrestyle]
    cases hs : (m.restyle v r.font).2 with
    | some e => rfl
    | none =>
      have hhide : m.AnswersAlike m' (.hide v) := h ⟨.runLink, .hide v⟩ (by simp [styleFault?, hv, hs])
      simp only [hhide.askHide]

/-- What an item asks, only runs asking anything. -/
theorem Item.direct_congr {alone : Bool} {item : Item}
    (h : ∀ c ∈ (item.direct m alone).asked, m.AnswersAlike m' c.query) :
    item.direct m' alone = item.direct m alone := by
  cases item with
  | run r => exact congrArg (Passage.mapAfter Item.run) (Run.direct_congr h)
  | lineBreak => rfl
  | field text => rfl

/-- Edits depend on the answers for the variables within the text only. -/
theorem editsOf_congr {ask ask' : Variable → Asked (Option String)} {text : String}
    (h : ∀ o ∈ Variable.occurrences text, ask' o.var = ask o.var) : editsOf ask' text = editsOf ask text := by
  have heach : ∀ os : List Variable.Occurrence, (∀ o ∈ os, ask' o.var = ask o.var) →
      Asked.each (fun o => (ask' o.var).map (editOf? o)) os = Asked.each (fun o => (ask o.var).map (editOf? o)) os := by
    intro os hos
    induction os with
    | nil => rfl
    | cons o rest ih =>
      obtain ⟨hfirst, hrest⟩ := List.forall_mem_cons.mp hos
      rw [Asked.each, Asked.each, hfirst, ih hrest]
  rw [editsOf, heach _ h, editsOf]

namespace Paragraph

/-- The questions about the variables in the text of a paragraph. -/
def textCalls (p : Paragraph) : List Call :=
  (Variable.occurrences p.joined).map fun o => ⟨.text, .text o.var⟩

/-- Substituting a paragraph asks for the text of each variable in it. -/
theorem substitute_asked (m : Mapping) (p : Paragraph) : (p.substitute m).asked = p.textCalls := by
  rw [substitute_eq, textCalls]

/-- A paragraph is substituted the same by mappings that answer alike what it asks. -/
theorem substitute_congr {p : Paragraph} (h : ∀ c ∈ (p.substitute m).asked, m.AnswersAlike m' c.query) :
    p.substitute m' = p.substitute m := by
  have hedits : editsOf m'.askText (String.join (p.runs.map (·.text))) =
      editsOf m.askText (String.join (p.runs.map (·.text))) := by
    apply editsOf_congr
    intro o ho
    rw [substitute_asked] at h
    exact (h ⟨.text, .text o.var⟩ (List.mem_map_of_mem ho)).askText
  simp only [substitute, SlideFill.substitute, hedits]

/-- The links of the runs come first; if one of them stops the work, no text is searched. -/
theorem fill_asked (m : Mapping) (p : Paragraph) :
    (p.fill m).asked =
      let items := Passage.each (Item.direct m (p.runs.length == 1)) p.items
      items.asked ++ if items.outcome.isOk then textCalls ⟨items.after⟩ else [] := by
  unfold fill
  cases h : (Passage.each (Item.direct m (p.runs.length == 1)) p.items).outcome with
  | error e => simp [h]
  | ok flags => simp [h, substitute_asked]

/-- A paragraph is filled the same by mappings that answer alike what it asks. -/
theorem fill_congr {p : Paragraph} (h : ∀ c ∈ (p.fill m).asked, m.AnswersAlike m' c.query) : p.fill m' = p.fill m := by
  rw [fill_asked] at h
  have hitems : Passage.each (Item.direct m' (p.runs.length == 1)) p.items =
      Passage.each (Item.direct m (p.runs.length == 1)) p.items :=
    Passage.each_congr (fun _ _ => Item.direct_congr) fun c hc => h c (List.mem_append_left _ hc)
  unfold fill
  rw [hitems]
  cases hout : (Passage.each (Item.direct m (p.runs.length == 1)) p.items).outcome with
  | error e => simp only [hout]
  | ok flags =>
    have htext : substitute m' ⟨(Passage.each (Item.direct m (p.runs.length == 1)) p.items).after⟩ =
        substitute m ⟨(Passage.each (Item.direct m (p.runs.length == 1)) p.items).after⟩ := by
      apply substitute_congr
      intro c hc
      rw [substitute_asked] at hc
      exact h c (List.mem_append_right _ (by simpa [hout] using hc))
    simp only [hout, htext]

end Paragraph

/-! ## Bodies of text and shapes -/

/-- Removing paragraphs asks nothing more. -/
theorem fillBody_asked (m : Mapping) (body : List Paragraph) :
    (fillBody m body).asked = (Passage.each (Paragraph.fill m) body).asked := by
  unfold fillBody
  cases h : (Passage.each (Paragraph.fill m) body).outcome <;> simp [h]

/-- A body of text is filled the same by mappings that answer alike what it asks. -/
theorem fillBody_congr {body : List Paragraph} (h : ∀ c ∈ (fillBody m body).asked, m.AnswersAlike m' c.query) :
    fillBody m' body = fillBody m body := by
  rw [fillBody_asked] at h
  have heach : Passage.each (Paragraph.fill m') body = Passage.each (Paragraph.fill m) body :=
    Passage.each_congr (fun _ _ => Paragraph.fill_congr) h
  rw [fillBody, heach, fillBody]

/-- A cell is filled the same by mappings that answer alike what it asks. -/
theorem fillCell_congr {cell : Option (List Paragraph)}
    (h : ∀ c ∈ (fillCell m cell).asked, m.AnswersAlike m' c.query) :
    fillCell m' cell = fillCell m cell := by
  cases cell with
  | none => rfl
  | some body => exact congrArg (Passage.mapAfter some) (fillBody_congr h)

/-- The text of a box is filled the same by mappings that answer alike what it asks. -/
theorem TextBox.fillText_congr {box : TextBox} (h : ∀ c ∈ (box.fillText m).asked, m.AnswersAlike m' c.query) :
    box.fillText m' = box.fillText m := by
  rw [fillText, fillBody_congr h, fillText]

/-- A hidden box asks about its link only, any other one goes on with its body. -/
theorem TextBox.fill_congr {box : TextBox} (h : ∀ c ∈ (box.fill m).asked, m.AnswersAlike m' c.query) :
    box.fill m' = box.fill m := by
  cases hv : shapeVariable box.link with
  | error e => rw [fill, fill, hv]
  | ok v =>
    cases v with
    | none =>
      rw [fill, hv] at h
      rw [fill, fill, hv]
      exact fillText_congr h
    | some v =>
      cases hh : m.hides v with
      | true =>
        rw [fill_of_hides hv hh] at h
        have hh' : m'.hides v = m.hides v := h ⟨.shapeLink, .hide v⟩ List.mem_cons_self
        rw [fill_of_hides hv hh, fill_of_hides hv (hh'.trans hh)]
      | false =>
        rw [fill_of_shows hv hh] at h
        obtain ⟨hhide, hbody⟩ := List.forall_mem_cons.mp h
        have hh' : m'.hides v = m.hides v := hhide
        rw [fill_of_shows hv hh, fill_of_shows hv (hh'.trans hh), fillBody_congr hbody]

/-- A table is filled the same by mappings that answer alike what it asks. -/
theorem Table.fill_congr {t : Table}
    (h : ∀ c ∈ (t.fill m).asked, m.AnswersAlike m' c.query) : t.fill m' = t.fill m := by
  have hrows : Passage.each (Passage.each (fillCell m')) t.rows = Passage.each (Passage.each (fillCell m)) t.rows :=
    Passage.each_congr (fun _ _ => Passage.each_congr fun _ _ => fillCell_congr) h
  rw [fill, hrows, fill]

/-- A picture asks for an image only if it is not hidden. -/
theorem Picture.fill_congr {p : Picture}
    (h : ∀ c ∈ (p.fill m).asked, m.AnswersAlike m' c.query) : p.fill m' = p.fill m := by
  cases hv : shapeVariable p.link with
  | error e => rw [fill, fill, hv]
  | ok v =>
    cases v with
    | none => rw [fill, fill, hv]
    | some v =>
      rw [fill_of_variable hv] at h
      have hhides : m'.hides v = m.hides v := h ⟨.pictureLink, .hide v⟩ List.mem_cons_self
      rw [fill_of_variable hv, fill_of_variable hv, hhides]
      cases hh : m.hides v with
      | true => rfl
      | false =>
        have himage : m'.image v.name = m.image v.name := h ⟨.pictureLink, .image v.name⟩ (by simp [hh])
        rw [himage]

/-- A shape is filled the same by mappings that answer alike what it asks. -/
theorem Shape.fill_congr {s : Shape}
    (h : ∀ c ∈ (s.fill m).asked, m.AnswersAlike m' c.query) : s.fill m' = s.fill m := by
  cases s with
  | text box => exact TextBox.fill_congr h
  | table t => exact Table.fill_congr h
  | picture p => exact Picture.fill_congr h
  | connector id name => rfl
  | group id name children => rfl

/-! ## Slides and decks -/

namespace Slide

/-- Removing and replacing shapes asks nothing more. -/
theorem fill_asked (m : Mapping) (number : Nat) (s : Slide) : (fill m number s).asked = (read m number s).asked := by
  unfold fill
  cases h : (read m number s).outcome <;> simp [h]

/-- A slide is read the same by mappings that answer alike what it asks. -/
theorem read_congr {number : Nat} {s : Slide} (h : ∀ c ∈ (read m number s).asked, m.AnswersAlike m' c.query) :
    read m' number s = read m number s := by
  refine Passage.each_congr ?_ h
  intro shape _ hshape
  rw [Shape.fill_congr]
  intro x hx
  exact hshape _ (List.mem_map_of_mem hx)

/-- A slide is filled the same by mappings that answer alike what it asks. -/
theorem fill_congr {number : Nat} {s : Slide} (h : ∀ c ∈ (fill m number s).asked, m.AnswersAlike m' c.query) :
    fill m' number s = fill m number s := by
  rw [fill_asked] at h
  rw [fill, read_congr h, fill]

end Slide

namespace Deck

/-- Slides are filled the same by mappings that answer alike what they ask. -/
theorem fillFrom_congr {number : Nat} {d : Deck}
    (h : ∀ c ∈ (fillFrom m number d).asked, m.AnswersAlike m' c.query) :
    fillFrom m' number d = fillFrom m number d := by
  induction d generalizing number with
  | nil => rfl
  | cons s rest ih =>
    unfold fillFrom at h ⊢
    cases hout : (Slide.fill m number s).outcome with
    | error e =>
      simp only [hout] at h ⊢
      rw [Slide.fill_congr h, hout]
    | ok t =>
      simp only [hout, List.mem_append] at h ⊢
      rw [Slide.fill_congr fun c hc => h c (.inl hc), hout, ih fun c hc => h c (.inr hc)]

/-- Summing up a fill asks nothing more. -/
theorem fill_asked (m : Mapping) (d : Deck) : (fill m d).asked = (fillFrom m 1 d).asked := by
  unfold fill
  cases h : (fillFrom m 1 d).outcome <;> simp [h]

/-- A mapping with the same answers to all that a fill asks comes to the same fill: the same deck, log and outcome, be it
a fault. -/
theorem fill_congr {d : Deck} (h : ∀ c ∈ (fill m d).asked, m.AnswersAlike m' c.query) : fill m' d = fill m d := by
  rw [fill_asked] at h
  rw [fill, fillFrom_congr h, fill]

end Deck

end SlideFill
