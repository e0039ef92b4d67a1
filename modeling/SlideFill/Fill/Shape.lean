import SlideFill.Fill.Text

/-!
# Filling shapes

Text boxes and pictures are hidden or kept by the variable of their link, and lose that link. Bodies of text are
filled, and a picture can be marked for replacement. Connectors and groups stay as they are.
-/

namespace SlideFill

/-- What becomes of a shape once its slide has been read. -/
inductive Verdict where
  | keep
  | remove
  | replace (r : Replacement)

/-- Fills the cells of a table; one without a body of text stays. -/
def fillCell (m : Mapping) : Option (List Paragraph) → Passage Call (Option (List Paragraph)) Unit
  | none => .done none ()
  | some body => (fillBody m body).mapAfter some

namespace TextBox

/-- A text box with its body filled. -/
def fillText (m : Mapping) (box : TextBox) : Passage Call Shape Verdict :=
  let body := fillBody m box.body
  ⟨.text { box with body := body.after }, body.asked, body.outcome.map fun _ => .keep⟩

/-- Fills a text box. A hidden one is not read. -/
def fill (m : Mapping) (box : TextBox) : Passage Call Shape Verdict :=
  match shapeVariable box.link with
  | .error e => .stop (.text box) e
  | .ok none => box.fillText m
  | .ok (some v) =>
    let cleared := { box with link := none }
    .asking .shapeLink (m.askHide v) fun hidden =>
      if hidden then .done (.text cleared) .remove else cleared.fillText m

end TextBox

/-- Fills a table, row by row and cell by cell. -/
def Table.fill (m : Mapping) (t : Table) : Passage Call Shape Verdict :=
  let rows := Passage.each (Passage.each (fillCell m)) t.rows
  ⟨.table { t with rows := rows.after }, rows.asked, rows.outcome.map fun _ => .keep⟩

/-- What becomes of a picture that is shown: it is replaced if there is an image for it. -/
def Verdict.ofImage : Option Replacement → Verdict
  | some r => .replace r
  | none => .keep

/-- Reads a picture: one whose link is a variable is hidden, replaced or kept. -/
def Picture.fill (m : Mapping) (p : Picture) : Passage Call Shape Verdict :=
  match shapeVariable p.link with
  | .error e => .stop (.picture p) e
  | .ok none => .done (.picture p) .keep
  | .ok (some v) =>
    let cleared := Shape.picture { p with link := none }
    .asking .pictureLink (m.askHide v) fun hidden =>
      if hidden then .done cleared .remove
      else .asking .pictureLink (m.askImage v.name) fun image => .done cleared (.ofImage image)

/-- Fills a shape. The result says what becomes of it. -/
def Shape.fill (m : Mapping) : Shape → Passage Call Shape Verdict
  | .text box => box.fill m
  | .table t => t.fill m
  | .picture p => p.fill m
  | s => .done s .keep

end SlideFill
