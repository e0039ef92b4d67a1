import Mathlib.Data.List.Basic
import SlideFill.Proofs.Fill.Slide
import SlideFill.Proofs.Fill.Substitution

/-!
# What is hidden stays off the slides

Two decks are alike if they become the same once all that a mapping hides is blanked. `Deck.fill_of_alike` says that alike
decks are filled alike, with one reservation: in a paragraph whose only run is hidden, text is substituted before the
paragraph is removed, and that can fail.
-/

namespace SlideFill

/-! ## Blanking -/

/-- A run with its text gone if a mapping hides it. -/
def Run.blank (m : Mapping) (r : Run) : Run :=
  if r.isHidden m then { r with text := "" } else r

/-- An item without the text that a mapping hides. -/
def Item.blank (m : Mapping) : Item → Item
  | .run r => .run (r.blank m)
  | item => item

/-- A paragraph without the texts that a mapping hides. -/
def Paragraph.blank (m : Mapping) (p : Paragraph) : Paragraph :=
  ⟨p.items.map (Item.blank m)⟩

/-- An image without pixels. -/
def blankImage : EncodedImage :=
  ⟨.png, ⟨.rgb, 0, []⟩⟩

/-- A shape with all gone that a mapping hides: the paragraphs of a hidden text box, the image of a hidden picture, and
the texts of hidden runs. -/
def Shape.blank (m : Mapping) : Shape → Shape
  | .text box =>
    .text { box with body := if (Shape.text box).isHidden m then [] else box.body.map (Paragraph.blank m) }
  | .table t => .table { t with rows := t.rows.map (List.map (Option.map (List.map (Paragraph.blank m)))) }
  | .picture p => .picture { p with image := if (Shape.picture p).isHidden m then blankImage else p.image }
  | s => s

/-- A deck without what a mapping hides. -/
def Deck.blank (m : Mapping) (d : Deck) : Deck :=
  d.map fun s => s.map (Shape.blank m)

/-- Two decks that differ only in what a mapping hides. -/
def Deck.Alike (m : Mapping) (d₁ d₂ : Deck) : Prop :=
  d₁.blank m = d₂.blank m

/-! ## Paragraphs that go -/

/-- Whether the run of a paragraph that goes can be given its text before that. -/
def Paragraph.IsClean (m : Mapping) (p : Paragraph) : Prop :=
  p.isDoomed m → Item.canTakeEach (p.edits m) 0 p.items

/-- Whether all paragraphs of a shape are clean. Those of a hidden shape are not read. -/
def Shape.IsClean (m : Mapping) (s : Shape) : Prop :=
  s.isHidden m = false → ∀ p ∈ s.paragraphs, p.IsClean m

/-- Whether all paragraphs of a deck that go can be substituted first. -/
def Deck.IsClean (m : Mapping) (d : Deck) : Prop :=
  ∀ s ∈ d, ∀ x ∈ s, x.IsClean m

variable {m : Mapping}

namespace Run

/-- Blanking keeps the link of a run. -/
theorem blank_link (m : Mapping) (r : Run) : (r.blank m).link = r.link := by
  rw [blank]
  split <;> rfl

/-- Blanking keeps the font of a run. -/
theorem blank_font (m : Mapping) (r : Run) : (r.blank m).font = r.font := by
  rw [blank]
  split <;> rfl

/-- Blanking keeps the variable that a run links to. -/
theorem blank_variable (m : Mapping) (r : Run) : Run.variable? (r.blank m) = r.variable? := by
  unfold Run.variable?
  rw [blank_link]

/-- Blanking keeps whether a run is hidden. -/
theorem blank_isHidden (m : Mapping) (r : Run) : (r.blank m).isHidden m = r.isHidden m := by
  rw [isHidden, blank_variable]
  rfl

/-- Blanking keeps whether the style of a run fails. -/
theorem blank_styleFault (m : Mapping) (r : Run) : (r.blank m).styleFault? m = r.styleFault? m := by
  rw [styleFault?, blank_variable, blank_font]
  rfl

/-- In a paragraph that stays, blanking a run changes nothing: the text of a hidden run is taken anyway. -/
theorem blank_directed (m : Mapping) (r : Run) : (r.blank m).directed m = r.directed m := by
  rw [directed, directed, blank_variable, blank_font]
  cases hv : r.variable? with
  | none => simp [blank, isHidden, hv]
  | some v =>
    by_cases hh : m.hides v
    · simp [hh]
    · simp [blank, isHidden, hv, hh]

end Run

namespace Item

/-- Blanking keeps whether an item is hidden. -/
theorem blank_isHidden (m : Mapping) (item : Item) : (item.blank m).isHidden m = item.isHidden m := by
  cases item with
  | run r => exact r.blank_isHidden m
  | lineBreak => rfl
  | field text => rfl

/-- Blanking keeps whether the style of an item fails. -/
theorem blank_styleFault (m : Mapping) (item : Item) : (item.blank m).styleFault? m = item.styleFault? m := by
  cases item with
  | run r => exact r.blank_styleFault m
  | lineBreak => rfl
  | field text => rfl

/-- Following the link of an item takes away the text that blanking takes away. -/
theorem blank_directed (m : Mapping) (item : Item) : (item.blank m).directed m = item.directed m := by
  cases item with
  | run r => exact congrArg Item.run (r.blank_directed m)
  | lineBreak => rfl
  | field text => rfl

end Item

namespace Paragraph

/-- Blanking a paragraph blanks its runs. -/
theorem blank_runs (m : Mapping) (p : Paragraph) : (p.blank m).runs = p.runs.map (Run.blank m) := by
  rw [runs, runs, blank, List.filterMap_map, List.map_filterMap]
  congr 1
  funext item
  cases item <;> rfl

/-- Blanking keeps whether a paragraph goes. -/
theorem blank_isDoomed (m : Mapping) (p : Paragraph) : (p.blank m).isDoomed m = p.isDoomed m := by
  rw [isDoomed, isDoomed, blank_runs, List.length_map, blank, List.any_map]
  congr 2
  funext item
  exact item.blank_isHidden m

/-- Blanking keeps whether the styles of a paragraph fail. -/
theorem blank_styles {p : Paragraph} :
    (∀ item ∈ (p.blank m).items, item.styleFault? m = none) ↔ ∀ item ∈ p.items, item.styleFault? m = none := by
  rw [blank, List.forall_mem_map]
  exact forall₂_congr fun item _ => by rw [item.blank_styleFault]

/-- In a paragraph that stays, nothing that is blanked is left once the links have been followed. -/
theorem blank_directed {p : Paragraph} (hstyles : ∀ item ∈ p.items, item.styleFault? m = none)
    (h : p.isDoomed m = false) : (p.blank m).directed m = p.directed m := by
  rw [directed_of_not_doomed hstyles h, directed_of_not_doomed (blank_styles.mpr hstyles) (by rwa [blank_isDoomed]),
    blank, List.map_map]
  congr 2
  funext item
  exact item.blank_directed m

/-- Runs without text can be given what substitution gives them, which is no text. -/
theorem substitute_isOk_of_empty {p : Paragraph} (h : ∀ r ∈ p.runs, r.text = "") : (p.substitute m).outcome.isOk := by
  have hupdated := updated_updateTexts (p.edits m) 0 p.items
  rw [substitute_isOk_iff, ← hupdated.isOk_iff]
  generalize SlideFill.updateTexts p.items (Item.textsFrom (p.edits m) 0 p.items) = result at hupdated
  cases hupdated with
  | all _ => rfl
  | upTo before r behind hitems _ hr =>
    have hmem : r ∈ p.runs := by
      rw [runs, hitems]
      simp [runOf?]
    rw [Run.canTake, Run.rewrittenText, h r hmem] at hr
    simp [Edit.rewrite] at hr

/-- The runs of a paragraph that goes have no text once they are blanked. -/
theorem blank_empty {p : Paragraph} (h : p.isDoomed m) : ∀ r ∈ (p.blank m).runs, r.text = "" := by
  rw [isDoomed, Bool.and_eq_true, beq_iff_eq, List.any_eq_true] at h
  obtain ⟨hlength, item, hitem, hhidden⟩ := h
  obtain ⟨r, hr⟩ := List.length_eq_one_iff.mp hlength
  cases item with
  | run r' =>
    have hmem : r' ∈ p.runs := List.mem_filterMap.mpr ⟨.run r', hitem, rfl⟩
    rw [hr, List.mem_singleton] at hmem
    have hhidden : r.isHidden m := hmem ▸ hhidden
    simp [blank_runs, hr, Run.blank, hhidden]
  | lineBreak => cases hhidden
  | field text => cases hhidden

/-- A paragraph is filled exactly when it is once it has been blanked, unless it goes and cannot be substituted. -/
theorem fill_isOk_blank {p : Paragraph} :
    (p.fill m).outcome.isOk ↔ ((p.blank m).fill m).outcome.isOk ∧ p.IsClean m := by
  rw [fill_isOk_iff, fill_isOk_iff, blank_styles, and_assoc]
  refine and_congr_right fun hstyles => ?_
  -- Hidden text is gone before the substitution in a paragraph that stays, and only after it in one that goes.
  cases hdoomed : p.isDoomed m with
  | false =>
    rw [blank_directed hstyles hdoomed]
    simp [IsClean, hdoomed]
  | true =>
    have hblank := directed_texts (blank_styles.mpr hstyles) ((p.blank_isDoomed m).trans hdoomed)
    rw [substitute_isOk_congr m (directed_texts hstyles hdoomed), substitute_isOk_congr m hblank,
      substitute_isOk_of_empty (blank_empty hdoomed), substitute_isOk_iff]
    simp [IsClean, hdoomed]

/-- A paragraph that stays is left the same if what is hidden in it is blank. -/
theorem fill_after_blank {p : Paragraph} (h : (p.fill m).outcome.isOk) (hstays : p.isDoomed m = false) :
    ((p.blank m).fill m).after = (p.fill m).after := by
  rw [fill_after h, fill_after (fill_isOk_blank.mp h).1, blank_directed (fill_isOk_iff.mp h).1 hstays]

end Paragraph

/-! ## Shapes -/

/-- A body of text is left the same if what is hidden in it is blank. -/
theorem filledBody_blank {body : List Paragraph} (h : ∀ p ∈ body, (p.fill m).outcome.isOk) :
    filledBody m (body.map (Paragraph.blank m)) = filledBody m body := by
  have hfilter : (body.map (Paragraph.blank m)).filter (!·.isDoomed m) =
      (body.filter (!·.isDoomed m)).map (Paragraph.blank m) := by
    rw [List.filter_map]
    congr 2
    funext p
    exact congrArg not (p.blank_isDoomed m)
  rw [filledBody, filledBody, hfilter, List.map_map]
  apply List.map_congr_left
  intro p hp
  obtain ⟨hmem, hstays⟩ := List.mem_filter.mp hp
  exact Paragraph.fill_after_blank (h p hmem) (by simpa using hstays)

namespace Shape

/-- Blanking keeps the link of a shape. -/
theorem blank_link (m : Mapping) (s : Shape) : (s.blank m).link = s.link := by
  cases s <;> rfl

/-- Blanking keeps the name of a shape. -/
theorem blank_name (m : Mapping) (s : Shape) : (s.blank m).name = s.name := by
  cases s <;> rfl

/-- Blanking keeps whether a shape is hidden. -/
theorem blank_isHidden (m : Mapping) (s : Shape) : (s.blank m).isHidden m = s.isHidden m := by
  rw [isHidden, blank_link]
  rfl

/-- Blanking keeps what a shape is replaced by. -/
theorem blank_replacement (m : Mapping) (s : Shape) : (s.blank m).replacement? m = s.replacement? m := by
  cases s <;> rfl

/-- Blanking keeps what becomes of a shape. -/
theorem blank_verdict (m : Mapping) (s : Shape) : (s.blank m).verdict m = s.verdict m := by
  rw [verdict, blank_isHidden, blank_replacement]
  rfl

/-- Blanking keeps whether a shape is replaced. -/
theorem blank_isReplaced (m : Mapping) (s : Shape) : (s.blank m).isReplaced m = s.isReplaced m := by
  rw [isReplaced, blank_isHidden, blank_replacement]
  rfl

/-- Blanking a shape that is shown blanks its paragraphs. -/
theorem blank_paragraphs {s : Shape} (hshown : s.isHidden m = false) :
    (s.blank m).paragraphs = s.paragraphs.map (Paragraph.blank m) := by
  cases s with
  | text box => simp [blank, paragraphs, hshown]
  | table t =>
    simp only [blank, paragraphs, ← List.map_flatten, List.flatMap_map, List.map_flatMap]
    congr 1
    funext cell
    cases cell <;> rfl
  | picture p => rfl
  | connector id name => rfl
  | group id name children => rfl

/-- A shape is filled exactly if it is filled blank, and all its paragraphs that go can be substituted first. -/
theorem fill_isOk_blank {s : Shape} :
    (s.fill m).outcome.isOk ↔ ((s.blank m).fill m).outcome.isOk ∧ s.IsClean m := by
  rw [fill_isOk_iff, fill_isOk_iff, blank_link, blank_isHidden, and_assoc]
  refine and_congr_right fun _ => ?_
  rw [IsClean, ← forall_and]
  refine forall_congr' fun hshown => ?_
  rw [blank_paragraphs hshown, List.forall_mem_map, ← forall₂_and]
  exact forall₂_congr fun p _ => Paragraph.fill_isOk_blank

/-- Of a shape that stays nothing that is blanked is left. -/
theorem filled_blank {s : Shape} (h : (s.fill m).outcome.isOk) (hshown : s.isHidden m = false) :
    (s.blank m).filled m = s.filled m := by
  have hparagraphs := (fill_isOk_iff.mp h).2 hshown
  cases s with
  | text box =>
    have hbody : filledBody m (box.body.map (Paragraph.blank m)) = filledBody m box.body := filledBody_blank hparagraphs
    simp [blank, filled, hshown, hbody]
  | table t =>
    have hbodies := t.map_bodies_congr (f := fun body => filledBody m (body.map (Paragraph.blank m)))
      fun body hbody => filledBody_blank fun p hp => hparagraphs p (hbody p hp)
    simpa [blank, filled, Function.comp_def] using hbodies
  | picture p => simp [blank, filled, hshown]
  | connector id name => rfl
  | group id name children => rfl

end Shape

/-! ## Slides and decks -/

namespace Slide

/-- The shapes that are shown and what becomes of them are the same once all that is hidden is blanked. -/
theorem judged_blank {s : Slide} (h : ∀ x ∈ s, (x.fill m).outcome.isOk) :
    judged m (s.map (Shape.blank m)) = judged m s := by
  induction s with
  | nil => rfl
  | cons x rest ih =>
    obtain ⟨hx, hrest⟩ := List.forall_mem_cons.mp h
    rw [List.map_cons]
    cases hhidden : x.isHidden m with
    | true => rw [judged_cons_of_hidden hhidden, judged_cons_of_hidden (x.blank_isHidden m ▸ hhidden), ih hrest]
    | false =>
      rw [judged_cons_of_shown hhidden, judged_cons_of_shown (x.blank_isHidden m ▸ hhidden), ih hrest,
        Shape.filled_blank hx hhidden, Shape.blank_verdict]

/-- Pictures are replaced the same if what is hidden on the slide is blank. -/
theorem replaceAll_blank {s : Slide} (h : ∀ x ∈ s, (x.fill m).outcome.isOk) :
    replaceAll m (s.map (Shape.blank m)) = replaceAll m s := by
  rw [replaceAll, judged_blank h, replaceAll]

/-- The notes name shapes, and a name is not blanked. -/
theorem notes_blank {s : Slide} (h : ∀ x ∈ s, (x.fill m).outcome.isOk) :
    notes m (s.map (Shape.blank m)) = notes m s := by
  rw [notes, notes, replaceAll_blank h, List.filter_map, List.map_map]
  simp only [Function.comp_def, Shape.blank_isHidden, Shape.blank_name]

/-- A slide is filled exactly if it is filled blank, and all its paragraphs that go can be substituted first. -/
theorem fill_isOk_blank {number : Nat} {s : Slide} :
    (fill m number s).outcome.isOk ↔
      (fill m number (s.map (Shape.blank m))).outcome.isOk ∧ ∀ x ∈ s, x.IsClean m := by
  have hshapes : (∀ x ∈ s, (x.fill m).outcome.isOk) ↔
      (∀ x ∈ s.map (Shape.blank m), (x.fill m).outcome.isOk) ∧ ∀ x ∈ s, x.IsClean m := by
    rw [List.forall_mem_map, ← forall₂_and]
    exact forall₂_congr fun x _ => Shape.fill_isOk_blank
  rw [fill_isOk_iff, fill_isOk_iff, and_right_comm, ← hshapes]
  exact and_congr_right fun h => by rw [replaceAll_blank h]

end Slide

namespace Deck

/-- A deck is filled exactly when it is once all that is hidden is blanked, unless a paragraph that goes cannot be
substituted. -/
theorem fill_isOk_blank {d : Deck} :
    (fill m d).outcome.isOk ↔ (fill m (d.blank m)).outcome.isOk ∧ d.IsClean m := by
  rw [fill_isOk_iff, fillFrom_isOk_iff, fill_isOk_iff, fillFrom_isOk_iff, blank, List.forall_mem_map, IsClean,
    ← forall₂_and]
  exact forall₂_congr fun s _ => Slide.fill_isOk_blank

/-- A deck is filled as it is once all that is hidden is blanked, and the same is told of it. -/
theorem fill_blank {d : Deck} (h : (fill m d).outcome.isOk) :
    (fill m (d.blank m)).after = (fill m d).after ∧ (fill m (d.blank m)).log = (fill m d).log := by
  have hshapes : ∀ s ∈ d, ∀ x ∈ s, (x.fill m).outcome.isOk := fun s hs =>
    (Slide.fill_isOk_iff.mp (fillFrom_isOk_iff.mp (fill_isOk_iff.mp h) s hs)).1
  obtain ⟨hafter, hlog⟩ := fill_eq h
  obtain ⟨hafter', hlog'⟩ := fill_eq (fill_isOk_blank.mp h).1
  constructor
  · rw [hafter, hafter', blank, List.map_map]
    apply List.map_congr_left
    intro s hs
    exact congrArg (·.1) (Slide.replaceAll_blank (hshapes s hs))
  · have hnotes : (d.blank m).flatMap (Slide.notes m) = d.flatMap (Slide.notes m) := by
      rw [blank, List.flatMap_map]
      exact List.flatMap_congr fun s hs => Slide.notes_blank (hshapes s hs)
    have hhidden : ((d.blank m).map fun s => s.countP (·.isHidden m)) = d.map fun s => s.countP (·.isHidden m) := by
      simp only [blank, List.map_map, Function.comp_def, List.countP_map, Shape.blank_isHidden]
    have hreplaced :
        ((d.blank m).map fun s => s.countP (·.isReplaced m)) = d.map fun s => s.countP (·.isReplaced m) := by
      simp only [blank, List.map_map, Function.comp_def, List.countP_map, Shape.blank_isReplaced]
    rw [hlog, hlog', hnotes, hhidden, hreplaced, blank, List.length_map]

end Deck

/-- Nothing of what is hidden reaches the filled slides. Of two decks that differ in it only, one is filled exactly when
the other is, if in both all paragraphs that go can be substituted first; a deck in which one cannot is not filled. And
if both are filled, they are left the same, and the same is told of them. -/
theorem Deck.fill_of_alike (m : Mapping) (d₁ d₂ : Deck) (h : d₁.Alike m d₂) :
    (d₁.IsClean m → d₂.IsClean m → ((Deck.fill m d₁).outcome.isOk ↔ (Deck.fill m d₂).outcome.isOk)) ∧
    ((Deck.fill m d₁).outcome.isOk → d₁.IsClean m) ∧
    ((Deck.fill m d₁).outcome.isOk → (Deck.fill m d₂).outcome.isOk →
      (Deck.fill m d₁).after = (Deck.fill m d₂).after ∧ (Deck.fill m d₁).log = (Deck.fill m d₂).log) := by
  refine ⟨?_, fun hok => (Deck.fill_isOk_blank.mp hok).2, ?_⟩
  · intro hclean₁ hclean₂
    rw [Deck.fill_isOk_blank, Deck.fill_isOk_blank (d := d₂), h]
    exact and_congr_right fun _ => iff_of_true hclean₁ hclean₂
  · intro hok₁ hok₂
    obtain ⟨hafter₁, hlog₁⟩ := Deck.fill_blank hok₁
    obtain ⟨hafter₂, hlog₂⟩ := Deck.fill_blank hok₂
    rw [← hafter₁, ← hlog₁, ← hafter₂, ← hlog₂, h]
    exact ⟨rfl, rfl⟩

end SlideFill
