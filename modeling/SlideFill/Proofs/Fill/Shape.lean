import SlideFill.Fill.Shape
import SlideFill.Proofs.Fill.Text

/-!
# What filling a shape comes to

One statement for each question: whether filling a shape fails (`Shape.fill_isOk_iff`), what becomes of the shape
(`Shape.fill_result`), and how it is left, be it one that stays (`Shape.fill_after`) or one that is hidden and goes
later (`Shape.fill_after_of_hidden`). Its kind, id and name are kept even by a fill that fails (`Shape.fill_keeps`).
-/

namespace SlideFill

/-- The variable that the link of a shape spells, if there is one. -/
def linkVariable? (link : Option Link) : Option Variable :=
  match shapeVariable link with
  | .ok v => v
  | .error _ => none

/-- The link that a shape is left with: one that spells a variable goes. -/
def settledLink (link : Option Link) : Option Link :=
  if (linkVariable? link).isSome then none else link

/-- A body of text once it has been filled: the paragraphs that are not doomed. -/
def filledBody (m : Mapping) (body : List Paragraph) : List Paragraph :=
  (body.filter (!·.isDoomed m)).map fun p => (p.fill m).after

namespace Shape

/-- The link of a shape. Only text boxes and pictures have one that is looked at. -/
def link : Shape → Option Link
  | text box => box.link
  | picture p => p.link
  | _ => none

/-- Whether a mapping hides a shape: its link spells a variable, and that is hidden. -/
def isHidden (m : Mapping) (s : Shape) : Bool :=
  (linkVariable? s.link).any m.hides

/-- The image that a mapping has for a picture whose link spells a variable. -/
def replacement? (m : Mapping) : Shape → Option Replacement
  | picture p => (linkVariable? p.link).bind fun v => m.image v.name
  | _ => none

/-- Whether a shape is replaced: it is not hidden and has an image to be replaced with. -/
def isReplaced (m : Mapping) (s : Shape) : Bool :=
  !s.isHidden m && (s.replacement? m).isSome

/-- What becomes of a shape. -/
def verdict (m : Mapping) (s : Shape) : Verdict :=
  if s.isHidden m then .remove
  else
    match s.replacement? m with
    | some r => .replace r
    | none => .keep

/-- The paragraphs that stand in a shape itself, not in the shapes that it groups. -/
def paragraphs : Shape → List Paragraph
  | text box => box.body
  | table t => t.rows.flatten.flatMap (·.getD [])
  | _ => []

/-- A shape that stays, once it has been filled. -/
def filled (m : Mapping) : Shape → Shape
  | text box => .text { box with link := settledLink box.link, body := filledBody m box.body }
  | table t => .table { t with rows := t.rows.map fun row => row.map fun cell => cell.map (filledBody m) }
  | picture p => .picture { p with link := settledLink p.link }
  | s => s

/-- What a shape that is not replaced keeps: its kind, its id and its name; a picture all but its link, and a connector
or a group everything. -/
def Keeps : Shape → Shape → Prop
  | text a, text b => a.id = b.id ∧ a.name = b.name
  | table a, table b => a.id = b.id ∧ a.name = b.name
  | picture a, picture b => { a with link := b.link } = b
  | a, b => a = b

/-- A shape that is filled keeps what it is. -/
theorem filled_keeps (m : Mapping) (s : Shape) : s.Keeps (s.filled m) := by
  cases s with
  | text box => exact ⟨rfl, rfl⟩
  | table t => exact ⟨rfl, rfl⟩
  | picture p => exact rfl
  | connector id name => exact rfl
  | group id name children => exact rfl

/-- A shape without its directive. -/
def undirected : Shape → Shape
  | text box => .text { box with link := settledLink box.link }
  | picture p => .picture { p with link := settledLink p.link }
  | s => s

/-- A shape whose link is cleared keeps what it is. -/
theorem undirected_keeps (s : Shape) : s.Keeps s.undirected := by
  cases s with
  | text box => exact ⟨rfl, rfl⟩
  | table t => exact ⟨rfl, rfl⟩
  | picture p => exact rfl
  | connector id name => exact rfl
  | group id name children => exact rfl

/-- What a shape is includes its name. -/
theorem Keeps.name {a b : Shape} (h : a.Keeps b) : b.name = a.name := by
  unfold Keeps at h
  split at h
  · exact h.2.symm
  · exact h.2.symm
  · rw [← h]
    rfl
  · rw [h]

/-- What a shape is includes its ids. -/
theorem Keeps.ids {a b : Shape} (h : a.Keeps b) : b.ids = a.ids := by
  unfold Keeps at h
  split at h
  · rw [Shape.ids, Shape.ids, h.1]
  · rw [Shape.ids, Shape.ids, h.1]
  · rw [← h]
    rfl
  · rw [h]

/-- A shape that is filled keeps its ids. -/
theorem filled_ids (m : Mapping) (s : Shape) : (s.filled m).ids = s.ids :=
  (s.filled_keeps m).ids

end Shape

/-! ## Cells of tables -/

/-- A cell is filled exactly if all its paragraphs are. -/
theorem fillCell_isOk_iff {m : Mapping} {cell : Option (List Paragraph)} :
    (fillCell m cell).outcome.isOk ↔ ∀ p ∈ cell.getD [], (p.fill m).outcome.isOk := by
  cases cell with
  | none => simp [fillCell, Passage.done]
  | some body => exact fillBody_isOk_iff

/-- A cell that is filled has its body filled, if it has one. -/
theorem fillCell_after {m : Mapping} {cell : Option (List Paragraph)} (h : (fillCell m cell).outcome.isOk) :
    (fillCell m cell).after = cell.map (filledBody m) := by
  cases cell with
  | none => rfl
  | some body => exact congrArg some (fillBody_after h)

namespace Table

/-- A table is filled exactly if all paragraphs of its cells are. -/
theorem fill_isOk_iff {m : Mapping} {t : Table} :
    (t.fill m).outcome.isOk ↔ ∀ p ∈ (Shape.table t).paragraphs, (p.fill m).outcome.isOk := by
  simp only [fill, isOk_map, Passage.each_isOk_iff, fillCell_isOk_iff, Shape.paragraphs, List.mem_flatMap,
    List.mem_flatten]
  constructor
  · rintro h p ⟨cell, ⟨row, hrow, hcell⟩, hp⟩
    exact h row hrow cell hcell p hp
  · intro h row hrow cell hcell p hp
    exact h p ⟨cell, ⟨row, hrow, hcell⟩, hp⟩

/-- A table that is filled has all its cells filled. -/
theorem fill_after {m : Mapping} {t : Table} (h : (t.fill m).outcome.isOk) :
    (t.fill m).after = (Shape.table t).filled m := by
  have hrows : (Passage.each (Passage.each (fillCell m)) t.rows).outcome.isOk := by simpa [fill] using h
  simp only [fill, Shape.filled, Passage.each_after hrows]
  congr 2
  apply List.map_congr_left
  intro row hrow
  have hcells := Passage.each_isOk_iff.mp hrows row hrow
  rw [Passage.each_after hcells]
  apply List.map_congr_left
  intro cell hcell
  exact fillCell_after (Passage.each_isOk_iff.mp hcells cell hcell)

/-- Changes that come to the same for each body of text in a table come to the same for the table. -/
theorem map_bodies_congr {t : Table} {f g : List Paragraph → List Paragraph}
    (h : ∀ body, (∀ p ∈ body, p ∈ (Shape.table t).paragraphs) → f body = g body) :
    (t.rows.map fun row => row.map fun cell => cell.map f) = t.rows.map fun row => row.map fun cell => cell.map g := by
  apply List.map_congr_left
  intro row hrow
  apply List.map_congr_left
  intro cell hcell
  cases cell with
  | none => rfl
  | some body =>
    refine congrArg some (h body fun p hp => ?_)
    exact List.mem_flatMap.mpr ⟨some body, List.mem_flatten.mpr ⟨row, hrow, hcell⟩, hp⟩

end Table

/-! ## Links of shapes -/

/-- A link that can be read leads to the variable that is read. -/
theorem linkVariable?_of_ok {link : Option Link} {v : Option Variable} (h : shapeVariable link = .ok v) :
    linkVariable? link = v := by
  rw [linkVariable?, h]

/-- A link to no variable stays. -/
theorem settledLink_of_none {link : Option Link} (h : shapeVariable link = .ok none) : settledLink link = link := by
  rw [settledLink, linkVariable?_of_ok h]
  rfl

/-- A link to a variable is cleared. -/
theorem settledLink_of_some {link : Option Link} {v : Variable} (h : shapeVariable link = .ok (some v)) :
    settledLink link = none := by
  rw [settledLink, linkVariable?_of_ok h]
  rfl

/-- The link that a shape is left with spells no variable. -/
theorem shapeVariable_settledLink {link : Option Link} (h : (shapeVariable link).isOk) :
    shapeVariable (settledLink link) = .ok none := by
  obtain ⟨v, hv⟩ := isOk_iff.mp h
  cases v with
  | none => rw [settledLink_of_none hv, hv]
  | some v =>
    rw [settledLink_of_some hv]
    rfl

namespace TextBox

variable {m : Mapping} {box : TextBox} {v : Variable}

/-- A box that is hidden loses its directive and is not looked into. -/
theorem fill_of_hides (hv : shapeVariable box.link = .ok (some v)) (hh : m.hides v) :
    box.fill m = ⟨.text { box with link := none }, [⟨.shapeLink, .hide v⟩], .ok .remove⟩ := by
  rw [fill, hv]
  simp only [Passage.asking, Mapping.askHide_answer, hh, if_true]
  rfl

/-- A box with a directive that is not hidden loses it and is filled. -/
theorem fill_of_shows (hv : shapeVariable box.link = .ok (some v)) (hh : m.hides v = false) :
    box.fill m =
      ⟨.text { box with link := none, body := (fillBody m box.body).after },
        ⟨.shapeLink, .hide v⟩ :: (fillBody m box.body).asked, (fillBody m box.body).outcome.map fun _ => .keep⟩ := by
  rw [fill, hv]
  simp only [Passage.asking, Mapping.askHide_answer, hh, Bool.false_eq_true, if_false]
  rfl

/-- A text box fails with its link, or with its body if it is not hidden. -/
theorem fill_outcome (m : Mapping) (box : TextBox) :
    (box.fill m).outcome =
      match shapeVariable box.link with
      | .error e => .error e
      | .ok _ =>
        if (Shape.text box).isHidden m then .ok .remove else (fillBody m box.body).outcome.map fun _ => .keep := by
  cases h : shapeVariable box.link with
  | error e =>
    rw [fill, h]
    rfl
  | ok v =>
    rw [Shape.isHidden, Shape.link, linkVariable?_of_ok h]
    cases v with
    | none =>
      rw [fill, h]
      rfl
    | some v =>
      cases hv : m.hides v with
      | true => simp [fill_of_hides h hv, hv]
      | false => simp [fill_of_shows h hv, hv]

/-- A text box is filled exactly when its link is not broken and, unless it is hidden, all its paragraphs are. -/
theorem fill_isOk_iff :
    (box.fill m).outcome.isOk ↔ (shapeVariable box.link).isOk ∧
      ((Shape.text box).isHidden m = false → ∀ p ∈ box.body, (p.fill m).outcome.isOk) := by
  rw [fill_outcome]
  cases shapeVariable box.link with
  | error e => simp
  | ok v => cases (Shape.text box).isHidden m <;> simp [fillBody_isOk_iff]

/-- A text box that is filled says what becomes of it. -/
theorem fill_result {verdict : Verdict} (h : (box.fill m).outcome = .ok verdict) :
    verdict = (Shape.text box).verdict m := by
  rw [fill_outcome] at h
  have hnone : (Shape.text box).replacement? m = none := rfl
  rw [Shape.verdict, hnone]
  cases hlink : shapeVariable box.link with
  | error e => simp [hlink] at h
  | ok w =>
    cases hhid : (Shape.text box).isHidden m with
    | true => simpa [hlink, hhid] using h.symm
    | false =>
      simp only [hlink, hhid, Bool.false_eq_true, if_false] at h ⊢
      obtain ⟨u, -, hkeep⟩ := map_eq_ok.mp h
      exact hkeep.symm

/-- A text box that stays is left filled. -/
theorem fill_after (h : (box.fill m).outcome.isOk) (hshown : (Shape.text box).isHidden m = false) :
    (box.fill m).after = (Shape.text box).filled m := by
  obtain ⟨hlink, hbody⟩ := fill_isOk_iff.mp h
  obtain ⟨v, hv⟩ := isOk_iff.mp hlink
  have hafter := fillBody_after (fillBody_isOk_iff.mpr (hbody hshown))
  rw [Shape.filled, filledBody, ← hafter]
  rw [Shape.isHidden, Shape.link, linkVariable?_of_ok hv] at hshown
  cases v with
  | none =>
    rw [fill, hv, settledLink_of_none hv]
    rfl
  | some v => rw [fill_of_shows hv hshown, settledLink_of_some hv]

end TextBox

namespace Picture

variable {m : Mapping} {p : Picture} {v : Variable}

/-- A picture with a directive loses it. There is an image to be asked for only if it is not hidden. -/
theorem fill_of_variable (hv : shapeVariable p.link = .ok (some v)) :
    p.fill m =
      ⟨.picture { p with link := none },
        ⟨.pictureLink, .hide v⟩ :: if m.hides v then [] else [⟨.pictureLink, .image v.name⟩],
        .ok (if m.hides v then .remove else .ofImage (m.image v.name))⟩ := by
  rw [fill, hv]
  cases hh : m.hides v <;> simp [Passage.asking, hh]

/-- A picture fails with its link only. -/
theorem fill_outcome (m : Mapping) (p : Picture) :
    (p.fill m).outcome = (shapeVariable p.link).map fun _ => (Shape.picture p).verdict m := by
  cases h : shapeVariable p.link with
  | error e =>
    rw [fill, h]
    rfl
  | ok v =>
    rw [Shape.verdict, Shape.isHidden, Shape.link, Shape.replacement?, linkVariable?_of_ok h]
    cases v with
    | none =>
      rw [fill, h]
      rfl
    | some v =>
      rw [fill_of_variable h]
      rfl

/-- A picture loses its directive, whether it is hidden or not. -/
theorem fill_after (h : (p.fill m).outcome.isOk) : (p.fill m).after = (Shape.picture p).filled m := by
  rw [fill_outcome, isOk_map] at h
  obtain ⟨v, hv⟩ := isOk_iff.mp h
  rw [Shape.filled]
  cases v with
  | none =>
    rw [fill, hv, settledLink_of_none hv]
    rfl
  | some v => rw [fill_of_variable hv, settledLink_of_some hv]

end Picture

/-! ## Shapes -/

namespace Shape

/-- Filling a shape fails with a broken link, or with a paragraph unless the shape is hidden. -/
theorem fill_isOk_iff {m : Mapping} {s : Shape} :
    (s.fill m).outcome.isOk ↔ (shapeVariable s.link).isOk ∧
      (s.isHidden m = false → ∀ p ∈ s.paragraphs, (p.fill m).outcome.isOk) := by
  cases s with
  | text box => exact TextBox.fill_isOk_iff
  | table t =>
    rw [fill, Table.fill_isOk_iff]
    simp [link, shapeVariable, isHidden, linkVariable?]
  | picture p =>
    rw [fill, Picture.fill_outcome, isOk_map]
    simp [link, paragraphs]
  | connector id name => simp [fill, Passage.done, link, shapeVariable, paragraphs]
  | group id name children => simp [fill, Passage.done, link, shapeVariable, paragraphs]

/-- A shape that is filled says what becomes of it. -/
theorem fill_result {m : Mapping} (s : Shape) (v : Verdict) (h : (s.fill m).outcome = .ok v) : v = s.verdict m := by
  cases s with
  | text box => exact TextBox.fill_result h
  | table t =>
    obtain ⟨u, -, hkeep⟩ := map_eq_ok.mp h
    exact hkeep.symm
  | picture p =>
    rw [fill, Picture.fill_outcome] at h
    obtain ⟨w, -, hverdict⟩ := map_eq_ok.mp h
    exact hverdict.symm
  | connector id name => exact (Except.ok.inj h).symm
  | group id name children => exact (Except.ok.inj h).symm

/-- A shape that stays is left filled. -/
theorem fill_after {m : Mapping} {s : Shape} (h : (s.fill m).outcome.isOk) (hshown : s.isHidden m = false) :
    (s.fill m).after = s.filled m := by
  cases s with
  | text box => exact TextBox.fill_after h hshown
  | table t => exact Table.fill_after h
  | picture p => exact Picture.fill_after h
  | connector id name => rfl
  | group id name children => rfl

/-- A shape is hidden exactly if its link spells a variable that is. -/
theorem isHidden_iff {m : Mapping} {s : Shape} :
    s.isHidden m ↔ ∃ v, shapeVariable s.link = .ok (some v) ∧ m.hides v := by
  rw [isHidden, linkVariable?]
  cases shapeVariable s.link with
  | error e => simp
  | ok v => cases v <;> simp

/-- A hidden shape loses its directive and is not looked into. -/
theorem fill_after_of_hidden {m : Mapping} {s : Shape} (h : s.isHidden m) : (s.fill m).after = s.undirected := by
  obtain ⟨v, hv, hhides⟩ := isHidden_iff.mp h
  cases s with
  | text box =>
    have hv : shapeVariable box.link = .ok (some v) := hv
    rw [fill, TextBox.fill_of_hides hv hhides, undirected, settledLink_of_some hv]
  | table t => cases hv
  | picture p =>
    have hv : shapeVariable p.link = .ok (some v) := hv
    rw [fill, Picture.fill_of_variable hv, undirected, settledLink_of_some hv]
  | connector id name => cases hv
  | group id name children => cases hv

/-- Filling a shape keeps its kind, id and name, even if it stops. -/
theorem fill_keeps (m : Mapping) (s : Shape) : s.Keeps (s.fill m).after := by
  cases s with
  | text box =>
    cases hv : shapeVariable box.link with
    | error e =>
      rw [fill, TextBox.fill, hv]
      exact ⟨rfl, rfl⟩
    | ok v =>
      cases v with
      | none =>
        rw [fill, TextBox.fill, hv]
        exact ⟨rfl, rfl⟩
      | some v =>
        cases hh : m.hides v with
        | true =>
          rw [fill, TextBox.fill_of_hides hv hh]
          exact ⟨rfl, rfl⟩
        | false =>
          rw [fill, TextBox.fill_of_shows hv hh]
          exact ⟨rfl, rfl⟩
  | table t => exact ⟨rfl, rfl⟩
  | picture p =>
    cases hv : shapeVariable p.link with
    | error e =>
      rw [fill, Picture.fill, hv]
      exact rfl
    | ok v =>
      cases v with
      | none =>
        rw [fill, Picture.fill, hv]
        exact rfl
      | some v =>
        rw [fill, Picture.fill_of_variable hv]
        exact rfl
  | connector id name => exact rfl
  | group id name children => exact rfl

/-- Filling keeps the name of a shape, whether it succeeds or stops. -/
theorem fill_name (m : Mapping) (s : Shape) : (s.fill m).after.name = s.name :=
  (s.fill_keeps m).name

end Shape

end SlideFill
