import SlideFill.Proofs.Fill.Passage
import SlideFill.Proofs.Fill.Positions

/-!
# What filling text comes to

One statement for each part: `Run.direct_outcome` and `Run.direct_after` for a run, `Paragraph.fill_isOk_iff` and
`Paragraph.fill_after` for a paragraph, `fillBody_isOk_iff` and `fillBody_after` for a body of text. A paragraph is
doomed if its only run is hidden; filling a body removes exactly the doomed paragraphs.
-/

namespace SlideFill

/-- The font that a mapping gives to a run whose link is a variable, and the fault that kept it from doing so. -/
def Mapping.restyle (m : Mapping) (v : Variable) (f : Font) : Font × Option Fault :=
  f.restyle (m.style v.name)

namespace Run

/-- Whether a mapping hides a run: the link of the run spells a variable, and that is hidden. -/
def isHidden (m : Mapping) (r : Run) : Bool :=
  r.variable?.any m.hides

/-- The fault that keeps a run from being styled, if there is one. -/
def styleFault? (m : Mapping) (r : Run) : Option Fault :=
  r.variable?.bind fun v => (m.restyle v r.font).2

/-- A run whose paragraph stays, once its link has been followed: styled, empty if it is hidden, and without its
directive. -/
def directed (m : Mapping) (r : Run) : Run :=
  match r.variable? with
  | none => r
  | some v => ⟨if m.hides v then "" else r.text, none, (m.restyle v r.font).1⟩

/-- What following the link of a run comes to: nothing if it is no directive, the style's fault if there is one, and else
a run that is hidden or shown. -/
theorem direct_eq (m : Mapping) (alone : Bool) (r : Run) :
    r.direct m alone =
      match r.variable? with
      | none => .done r false
      | some v =>
        .asking .runLink (m.askStyle v.name) fun _ =>
          match (m.restyle v r.font).2 with
          | some e => .stop { r with font := (m.restyle v r.font).1 } e
          | none =>
            .asking .runLink (m.askHide v) fun hidden =>
              if hidden then
                if alone then .done { r with font := (m.restyle v r.font).1 } true
                else .done { text := "", link := none, font := (m.restyle v r.font).1 } false
              else .done { r with link := none, font := (m.restyle v r.font).1 } false := rfl

/-- Following the link of a run fails with the style only, and says whether the run is hidden and alone. -/
theorem direct_outcome (m : Mapping) (alone : Bool) (r : Run) :
    (r.direct m alone).outcome =
      match r.styleFault? m with
      | some e => .error e
      | none => .ok (alone && r.isHidden m) := by
  rw [direct_eq, styleFault?, isHidden]
  cases r.variable? with
  | none => simp
  | some v =>
    cases hs : (m.restyle v r.font).2 with
    | some e => simp [hs]
    | none => cases hh : m.hides v <;> cases alone <;> simp [hs, hh]

/-- A run that does not take its paragraph along is left styled and without its directive. -/
theorem direct_after {m : Mapping} {alone : Bool} {r : Run} (h : (r.direct m alone).outcome = .ok false) :
    (r.direct m alone).after = r.directed m := by
  rw [direct_eq] at h ⊢
  rw [directed]
  cases hv : r.variable? with
  | none => rfl
  | some v =>
    rw [hv] at h
    cases hs : (m.restyle v r.font).2 with
    | some e => simp [hs] at h
    | none =>
      cases hh : m.hides v with
      | true =>
        cases alone with
        | true => simp [hs, hh] at h
        | false => simp [hs, hh]
      | false => simp [hs, hh]

/-- A run that is alone keeps its text, even if it is hidden. -/
theorem direct_alone_text (m : Mapping) (r : Run) : (r.direct m true).after.text = r.text := by
  rw [direct_eq]
  cases r.variable? with
  | none => rfl
  | some v =>
    cases hs : (m.restyle v r.font).2 with
    | some e => simp [hs]
    | none => cases hh : m.hides v <;> simp [hs, hh]

end Run

namespace Item

/-- The text of an item, if it is a run. -/
def text? : Item → Option String
  | .run r => some r.text
  | _ => none

/-- Whether a mapping hides an item: only runs are hidden. -/
def isHidden (m : Mapping) : Item → Bool
  | .run r => r.isHidden m
  | _ => false

/-- The fault that keeps an item from being styled, if there is one. -/
def styleFault? (m : Mapping) : Item → Option Fault
  | .run r => r.styleFault? m
  | _ => none

/-- An item whose paragraph stays, once its link has been followed. -/
def directed (m : Mapping) : Item → Item
  | .run r => .run (r.directed m)
  | item => item

/-- Following the link of an item fails with its style, and tells otherwise whether a hidden item was alone. -/
theorem direct_outcome (m : Mapping) (alone : Bool) (item : Item) :
    (item.direct m alone).outcome =
      match item.styleFault? m with
      | some e => .error e
      | none => .ok (alone && item.isHidden m) := by
  cases item with
  | run r => exact r.direct_outcome m alone
  | lineBreak => simp [direct, Passage.done, styleFault?, isHidden]
  | field text => simp [direct, Passage.done, styleFault?, isHidden]

/-- The link of an item is followed exactly if its style does not fail. -/
theorem direct_isOk_iff {m : Mapping} {alone : Bool} {item : Item} :
    (item.direct m alone).outcome.isOk ↔ item.styleFault? m = none := by
  rw [direct_outcome]
  cases item.styleFault? m <;> simp

/-- What is told of an item is whether it is hidden and alone. -/
theorem direct_result {m : Mapping} {alone : Bool} (item : Item) (b : Bool)
    (h : (item.direct m alone).outcome = .ok b) : b = (alone && item.isHidden m) := by
  rw [direct_outcome] at h
  cases hs : item.styleFault? m with
  | some e =>
    rw [hs] at h
    cases h
  | none =>
    rw [hs] at h
    exact (Except.ok.inj h).symm

/-- An item that is not hidden and alone is left as following its link leaves it. -/
theorem direct_after {m : Mapping} {alone : Bool} {item : Item} (h : (item.direct m alone).outcome = .ok false) :
    (item.direct m alone).after = item.directed m := by
  cases item with
  | run r => exact congrArg Item.run (Run.direct_after h)
  | lineBreak => rfl
  | field text => rfl

/-- An item that is alone keeps its text. -/
theorem direct_alone_text (m : Mapping) (item : Item) : (item.direct m true).after.text? = item.text? := by
  cases item with
  | run r => exact congrArg some (r.direct_alone_text m)
  | lineBreak => rfl
  | field text => rfl

end Item

/-! ## Texts of runs -/

/-- An item without a text takes none. -/
theorem updateTexts_cons_fixed {item : Item} (h : item.text? = none) (items : List Item) (texts : List String) :
    updateTexts (item :: items) texts = (item :: (updateTexts items texts).1, (updateTexts items texts).2) := by
  cases item with
  | run r => cases h
  | lineBreak => rfl
  | field text => rfl

/-- A run takes the first text, and the others wait for it. -/
theorem updateTexts_cons_run (r : Run) (items : List Item) (t : String) (texts : List String) :
    (updateTexts (.run r :: items) (t :: texts)).2 = (r.updateText t).2.bind fun _ => (updateTexts items texts).2 := by
  rw [updateTexts]
  obtain ⟨r', outcome⟩ := r.updateText t
  cases outcome <;> rfl

/-- Whether a run takes a text depends on the text that it has only. -/
theorem Run.updateText_outcome_congr {r r' : Run} (h : r.text = r'.text) (t : String) :
    (r.updateText t).2 = (r'.updateText t).2 := by
  have hset : (r.setText t).text = (r'.setText t).text := rfl
  unfold updateText
  rw [h, hset]
  split
  · rfl
  · split <;> rfl

/-- Whether items take texts depends on the texts that their runs have only. -/
theorem updateTexts_outcome_congr {items items' : List Item} (h : items.map Item.text? = items'.map Item.text?)
    (texts : List String) : (updateTexts items texts).2 = (updateTexts items' texts).2 := by
  induction items generalizing items' texts with
  | nil =>
    cases items' with
    | nil => rfl
    | cons item' rest' => cases h
  | cons item rest ih =>
    cases items' with
    | nil => cases h
    | cons item' rest' =>
      obtain ⟨hitem, hrest⟩ := List.cons.inj h
      cases item with
      | run r =>
        cases item' with
        | run r' =>
          cases texts with
          | nil => rfl
          | cons t texts =>
            rw [updateTexts_cons_run, updateTexts_cons_run, Run.updateText_outcome_congr (Option.some.inj hitem),
              ih hrest]
        | lineBreak => cases hitem
        | field text => cases hitem
      | lineBreak => rw [updateTexts_cons_fixed rfl, updateTexts_cons_fixed hitem.symm, ih hrest]
      | field text => rw [updateTexts_cons_fixed rfl, updateTexts_cons_fixed hitem.symm, ih hrest]

namespace Paragraph

/-- The texts of runs are those of the items that have one. -/
theorem runs_texts (p : Paragraph) : p.runs.map (·.text) = p.items.filterMap Item.text? := by
  rw [runs, List.map_filterMap]
  congr 1
  funext item
  cases item <;> rfl

/-- Whether a paragraph can be substituted depends on its texts only. -/
theorem substitute_isOk_congr (m : Mapping) {p q : Paragraph} (h : p.items.map Item.text? = q.items.map Item.text?) :
    (p.substitute m).outcome.isOk = (q.substitute m).outcome.isOk := by
  have htexts : p.runs.map (·.text) = q.runs.map (·.text) := by
    have := congrArg (List.filterMap id) h
    rwa [List.filterMap_map, List.filterMap_map, Function.id_comp, ← runs_texts, ← runs_texts] at this
  simp only [substitute, Paragraph.updateTexts, Passage.asking_outcome, isOk_map, htexts, updateTexts_outcome_congr h]

/-! ## Paragraphs -/

/-- Whether a paragraph goes: its only run is hidden. -/
def isDoomed (m : Mapping) (p : Paragraph) : Bool :=
  p.runs.length == 1 && p.items.any (Item.isHidden m)

/-- A paragraph once the links of its runs have been followed. -/
def directed (m : Mapping) (p : Paragraph) : Paragraph :=
  ⟨(Passage.each (Item.direct m (p.runs.length == 1)) p.items).after⟩

/-- A paragraph whose links could all be followed is left to the substitution. -/
theorem fill_eq_of_ok {m : Mapping} {p : Paragraph} {flags : List Bool}
    (h : (Passage.each (Item.direct m (p.runs.length == 1)) p.items).outcome = .ok flags) :
    (p.fill m).after = ((p.directed m).substitute m).after ∧
      (p.fill m).outcome = ((p.directed m).substitute m).outcome.map fun _ => flags.any id := by
  unfold fill directed
  simp only [h]
  exact ⟨trivial, trivial⟩

/-- Filling a paragraph fails with a style or with a text. -/
theorem fill_isOk_iff {m : Mapping} {p : Paragraph} :
    (p.fill m).outcome.isOk ↔
      (∀ item ∈ p.items, item.styleFault? m = none) ∧ ((p.directed m).substitute m).outcome.isOk := by
  have hstyles : (Passage.each (Item.direct m (p.runs.length == 1)) p.items).outcome.isOk ↔
      ∀ item ∈ p.items, item.styleFault? m = none := by
    rw [Passage.each_isOk_iff]
    exact forall₂_congr fun item _ => Item.direct_isOk_iff
  rw [← hstyles]
  cases h : (Passage.each (Item.direct m (p.runs.length == 1)) p.items).outcome with
  | error e => simp [fill, h]
  | ok flags =>
    rw [(fill_eq_of_ok h).2, isOk_map]
    simp

/-- A paragraph that is filled says whether it goes. -/
theorem fill_result {m : Mapping} (p : Paragraph) (b : Bool) (h : (p.fill m).outcome = .ok b) : b = p.isDoomed m := by
  cases hitems : (Passage.each (Item.direct m (p.runs.length == 1)) p.items).outcome with
  | error e =>
    rw [fill] at h
    simp [hitems] at h
  | ok flags =>
    have hflags := Passage.each_results Item.direct_result hitems
    rw [(fill_eq_of_ok hitems).2] at h
    obtain ⟨n, -, hany⟩ := map_eq_ok.mp h
    rw [← hany, hflags, isDoomed, List.any_map, Function.id_comp]
    cases p.runs.length == 1 <;> simp

/-- A paragraph that is filled is substituted once its links have been followed. -/
theorem fill_after {m : Mapping} {p : Paragraph} (h : (p.fill m).outcome.isOk) :
    (p.fill m).after = ((p.directed m).substitute m).after := by
  cases hitems : (Passage.each (Item.direct m (p.runs.length == 1)) p.items).outcome with
  | error e => simp [fill, hitems] at h
  | ok flags => exact (fill_eq_of_ok hitems).1

/-- Following the links goes through all items if all can be styled. -/
theorem directed_eq_map {m : Mapping} {p : Paragraph} (hstyles : ∀ item ∈ p.items, item.styleFault? m = none) :
    p.directed m = ⟨p.items.map fun item => (item.direct m (p.runs.length == 1)).after⟩ := by
  have hok : (Passage.each (Item.direct m (p.runs.length == 1)) p.items).outcome.isOk :=
    Passage.each_isOk_iff.mpr fun item hitem => Item.direct_isOk_iff.mpr (hstyles item hitem)
  rw [directed, Passage.each_after hok]

/-- In a paragraph that stays, following the links leaves each item as it does in any paragraph that stays. -/
theorem directed_of_not_doomed {m : Mapping} {p : Paragraph} (hstyles : ∀ item ∈ p.items, item.styleFault? m = none)
    (h : p.isDoomed m = false) : p.directed m = ⟨p.items.map (Item.directed m)⟩ := by
  rw [directed_eq_map hstyles, mk.injEq]
  apply List.map_congr_left
  intro item hitem
  apply Item.direct_after
  rw [Item.direct_outcome, hstyles item hitem]
  have hstays : (p.runs.length == 1 && item.isHidden m) = false := by
    cases halone : p.runs.length == 1 with
    | false => rfl
    | true =>
      rw [isDoomed, halone, Bool.true_and, List.any_eq_false] at h
      simpa using h item hitem
  simp only [hstays]

/-- Following the link of a run that is alone changes no text. -/
theorem directed_texts_of_alone {m : Mapping} {p : Paragraph} (hstyles : ∀ item ∈ p.items, item.styleFault? m = none)
    (halone : (p.runs.length == 1) = true) : (p.directed m).items.map Item.text? = p.items.map Item.text? := by
  rw [directed_eq_map hstyles, List.map_map, halone]
  apply List.map_congr_left
  intro item _
  exact Item.direct_alone_text m item

/-- Following the links changes no text of a paragraph that goes. -/
theorem directed_texts {m : Mapping} {p : Paragraph} (hstyles : ∀ item ∈ p.items, item.styleFault? m = none)
    (h : p.isDoomed m) : (p.directed m).items.map Item.text? = p.items.map Item.text? := by
  rw [isDoomed, Bool.and_eq_true] at h
  exact directed_texts_of_alone hstyles h.1

end Paragraph

/-! ## Bodies of text -/

/-- A body of text is filled exactly when all its paragraphs are. -/
theorem fillBody_isOk_iff {m : Mapping} {body : List Paragraph} :
    (fillBody m body).outcome.isOk ↔ ∀ p ∈ body, (p.fill m).outcome.isOk := by
  rw [← Passage.each_isOk_iff]
  cases h : (Passage.each (Paragraph.fill m) body).outcome with
  | error e => simp [fillBody, h]
  | ok flags => simp [fillBody, h]

/-- Filling a body of text takes out the paragraphs that are doomed, and fills all others. -/
theorem fillBody_after {m : Mapping} {body : List Paragraph} (h : (fillBody m body).outcome.isOk) :
    (fillBody m body).after = (body.filter (!·.isDoomed m)).map fun p => (p.fill m).after := by
  have hok := Passage.each_isOk_iff.mpr (fillBody_isOk_iff.mp h)
  obtain ⟨flags, hflags⟩ := isOk_iff.mp hok
  rw [fillBody]
  simp only [hflags, Passage.each_after hok, Passage.each_results Paragraph.fill_result hflags]
  exact removePositions_flagged _ _ body

end SlideFill
