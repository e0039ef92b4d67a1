import Mathlib.Data.List.Basic
import SlideFill.Proofs.Deck.Ids
import SlideFill.Proofs.Fill.Slide
import SlideFill.Proofs.Fill.Substitution

/-!
# Texts and styles apart

The texts of a mapping decide the texts of runs and its styles their fonts, and neither decides anything else
(`channels_kept_apart`). There is one reservation: a text that a deck cannot hold ends the fill. Without it, it would
not be true that the texts have no say in whether a deck is filled.
-/

namespace SlideFill

/-! ## Runs changed one by one -/

/-- Changes an item if it is a run. -/
def Item.mapRuns (f : Run → Run) : Item → Item
  | .run r => .run (f r)
  | item => item

/-- Changes the runs of a paragraph. -/
def Paragraph.mapRuns (f : Run → Run) (p : Paragraph) : Paragraph :=
  ⟨p.items.map (Item.mapRuns f)⟩

/-- A shape with a change made to all its runs. A group stays, as it does when it is filled. -/
def Shape.mapRuns (f : Run → Run) : Shape → Shape
  | .text box => .text { box with body := box.body.map (Paragraph.mapRuns f) }
  | .table t => .table { t with rows := t.rows.map (List.map (Option.map (List.map (Paragraph.mapRuns f)))) }
  | s => s

/-- Changes all runs of a deck. -/
def Deck.mapRuns (f : Run → Run) (d : Deck) : Deck :=
  d.map fun s => s.map (Shape.mapRuns f)

/-- A run without its text. -/
def Run.textless (r : Run) : Run :=
  { r with text := "" }

/-- A run without its font. -/
def Run.fontless (r : Run) : Run :=
  { r with font := {} }

/-! ## Texts that runs can be given -/

/-- Whether the runs of a paragraph can be given their texts, once their links have been followed. -/
def Paragraph.TakesTexts (m : Mapping) (p : Paragraph) : Prop :=
  Item.canTakeEach ((p.directed m).edits m) 0 (p.directed m).items

/-- Whether the runs of a shape can be given their texts. Those of a hidden shape are not given any. -/
def Shape.TakesTexts (m : Mapping) (s : Shape) : Prop :=
  s.isHidden m = false → ∀ p ∈ s.paragraphs, p.TakesTexts m

/-- Whether all paragraphs that are filled can take the texts that a mapping gives them. -/
def Deck.TakesTexts (m : Mapping) (d : Deck) : Prop :=
  ∀ s ∈ d, ∀ x ∈ s, x.TakesTexts m

/-- Two mappings that hide the same, have the same images, and leave a paragraph that both fill the same but for what
`f` takes away from its runs. -/
structure Mapping.AgreeUpTo (f : Run → Run) (m m' : Mapping) : Prop where
  hide : m.hide = m'.hide
  image : m.image = m'.image
  fill : ∀ p : Paragraph, (p.fill m).outcome.isOk → (p.fill m').outcome.isOk →
    (p.fill m).after.mapRuns f = (p.fill m').after.mapRuns f

variable {f : Run → Run} {m m' : Mapping}

/-! ## What is hidden, and what is replaced -/

/-- What is hidden follows from the answers about hiding. -/
theorem Mapping.hides_congr (h : m.hide = m'.hide) : m.hides = m'.hides := by
  funext v
  rw [hides, hides, h]

/-- Which paragraphs go follows from the answers about hiding. -/
theorem Paragraph.isDoomed_congr (h : m.hide = m'.hide) (p : Paragraph) : p.isDoomed m = p.isDoomed m' := by
  have hitem : Item.isHidden m = Item.isHidden m' := by
    funext item
    cases item with
    | run r => simp only [Item.isHidden, Run.isHidden, Mapping.hides_congr h]
    | lineBreak => rfl
    | field text => rfl
  rw [isDoomed, isDoomed, hitem]

namespace Shape

/-- Which shapes are hidden follows from the answers about hiding. -/
theorem isHidden_congr (h : m.hide = m'.hide) (s : Shape) : s.isHidden m = s.isHidden m' := by
  rw [isHidden, isHidden, Mapping.hides_congr h]

/-- Which pictures are replaced follows from the answers about images. -/
theorem replacement_congr (h : m.image = m'.image) (s : Shape) : s.replacement? m = s.replacement? m' := by
  cases s <;> simp only [replacement?, h]

/-- What becomes of a shape follows from the answers about hiding and images. -/
theorem verdict_congr (h : m.hide = m'.hide) (himage : m.image = m'.image) (s : Shape) :
    s.verdict m = s.verdict m' := by
  rw [verdict, verdict, isHidden_congr h, replacement_congr himage]

/-- A picture has no runs to change. -/
theorem mapRuns_picture (f : Run → Run) (p : Picture) : (Shape.picture p).mapRuns f = .picture p := rfl

/-- Changing runs keeps ids. -/
theorem mapRuns_ids (f : Run → Run) (s : Shape) : (s.mapRuns f).ids = s.ids := by
  cases s <;> rfl

end Shape

/-! ## Shapes that both mappings fill -/

/-- Bodies of text are left the same up to a change of runs if their paragraphs are. -/
theorem filledBody_agree (h : m.AgreeUpTo f m') {body : List Paragraph} (hok : ∀ p ∈ body, (p.fill m).outcome.isOk)
    (hok' : ∀ p ∈ body, (p.fill m').outcome.isOk) :
    (filledBody m body).map (Paragraph.mapRuns f) = (filledBody m' body).map (Paragraph.mapRuns f) := by
  have hdoomed : (fun p : Paragraph => !p.isDoomed m) = fun p => !p.isDoomed m' := by
    funext p
    rw [p.isDoomed_congr h.hide]
  rw [filledBody, filledBody, hdoomed, List.map_map, List.map_map]
  apply List.map_congr_left
  intro p hp
  have hmem := (List.mem_filter.mp hp).1
  exact h.fill p (hok p hmem) (hok' p hmem)

/-- A shape is left the same up to a change of runs if its paragraphs can be filled by both mappings. -/
theorem Shape.filled_agree (h : m.AgreeUpTo f m') {s : Shape} (hok : ∀ p ∈ s.paragraphs, (p.fill m).outcome.isOk)
    (hok' : ∀ p ∈ s.paragraphs, (p.fill m').outcome.isOk) :
    (s.filled m).mapRuns f = (s.filled m').mapRuns f := by
  cases s with
  | text box =>
    have hok : ∀ p ∈ box.body, (p.fill m).outcome.isOk := hok
    have hok' : ∀ p ∈ box.body, (p.fill m').outcome.isOk := hok'
    simp only [filled, mapRuns, filledBody_agree h hok hok']
  | table t =>
    have hbodies := t.map_bodies_congr (f := fun body => (filledBody m body).map (Paragraph.mapRuns f))
      fun body hbody => filledBody_agree h (fun p hp => hok p (hbody p hp)) fun p hp => hok' p (hbody p hp)
    simpa [filled, mapRuns, Function.comp_def] using hbodies
  | picture p => rfl
  | connector id name => rfl
  | group id name children => rfl

namespace Slide

/-- The shapes of a slide are left the same up to a change of runs, and the same becomes of them. -/
theorem judged_agree (h : m.AgreeUpTo f m') {s : Slide} (hok : ∀ x ∈ s, (x.fill m).outcome.isOk)
    (hok' : ∀ x ∈ s, (x.fill m').outcome.isOk) :
    (judged m s).map (Prod.map (Shape.mapRuns f) id) = (judged m' s).map (Prod.map (Shape.mapRuns f) id) := by
  have hshown : shown m s = shown m' s := by
    simp only [shown, Shape.isHidden_congr h.hide]
  rw [judged, judged, hshown, List.map_map, List.map_map]
  apply List.map_congr_left
  intro x hx
  obtain ⟨hmem, hx⟩ := List.mem_filter.mp hx
  have hx' : x.isHidden m' = false := by simpa using hx
  have hx : x.isHidden m = false := (x.isHidden_congr h.hide).trans hx'
  refine Prod.ext ?_ (x.verdict_congr h.hide h.image)
  exact Shape.filled_agree h ((Shape.fill_isOk_iff.mp (hok x hmem)).2 hx) ((Shape.fill_isOk_iff.mp (hok' x hmem)).2 hx')

/-- Changing runs keeps the ids of a slide. -/
theorem ids_mapRuns (f : Run → Run) (s : List Shape) : Slide.ids (s.map (Shape.mapRuns f)) = Slide.ids s := by
  rw [Slide.ids, Slide.ids, Shape.idsOfAll_map (Shape.mapRuns_ids f)]

/-- Replacing pictures does not look at runs. -/
theorem replaceFrom_mapRuns (f : Run → Run) (behind : List Shape) (shapes : List (Shape × Verdict)) :
    replaceFrom (behind.map (Shape.mapRuns f)) (shapes.map (Prod.map (Shape.mapRuns f) id)) =
      ((replaceFrom behind shapes).1.map (Shape.mapRuns f), (replaceFrom behind shapes).2) := by
  induction shapes generalizing behind with
  | nil => rfl
  | cons xv rest ih =>
    obtain ⟨x, v⟩ := xv
    have hstep : ∀ y : Shape, behind.map (Shape.mapRuns f) ++ [y.mapRuns f] = (behind ++ [y]).map (Shape.mapRuns f) :=
      fun y => by rw [List.map_append, List.map_singleton]
    rw [List.map_cons, Prod.map_apply, id]
    by_cases hpicture : ∃ p r, (x, v) = (.picture p, .replace r)
    · obtain ⟨p, r, heq⟩ := hpicture
      obtain ⟨rfl, rfl⟩ := Prod.mk.inj heq
      -- The next id is the same, so the new picture is.
      have hslide : behind.map (Shape.mapRuns f) ++ .picture p :: (rest.map (Prod.map (Shape.mapRuns f) id)).map (·.1) =
          (behind ++ .picture p :: rest.map (·.1)).map (Shape.mapRuns f) := by
        simp [Shape.mapRuns, Function.comp_def]
      have hnext : Slide.nextId ((behind ++ .picture p :: rest.map (·.1)).map (Shape.mapRuns f)) =
          Slide.nextId (behind ++ .picture p :: rest.map (·.1)) := by
        rw [Slide.nextId, ids_mapRuns, Slide.nextId]
      cases hnew : p.replaceBy r (Slide.nextId (behind ++ .picture p :: rest.map (·.1))) with
      | error e =>
        have hnew' := hnew
        rw [← hnext, ← hslide] at hnew'
        rw [replaceFrom_cons_error hnew, Shape.mapRuns_picture, replaceFrom_cons_error hnew', hslide]
      | ok result =>
        have hnew' := hnew
        rw [← hnext, ← hslide] at hnew'
        rw [replaceFrom_cons_replaced hnew, Shape.mapRuns_picture, replaceFrom_cons_replaced hnew']
        have hrest := ih (behind ++ [.picture result.1])
        rw [← hstep, Shape.mapRuns_picture] at hrest
        rw [hrest]
    · have hpassed : ∀ p r, (x, v) ≠ (.picture p, .replace r) := fun p r heq => hpicture ⟨p, r, heq⟩
      have hpassed' : ∀ p r, (x.mapRuns f, v) ≠ (.picture p, .replace r) := by
        intro p r heq
        obtain ⟨hx, rfl⟩ := Prod.mk.inj heq
        cases x with
        | picture q => exact hpassed q r rfl
        | text box => cases hx
        | table t => cases hx
        | connector id name => cases hx
        | group id name children => cases hx
      rw [replaceFrom_cons_passed hpassed, replaceFrom_cons_passed hpassed', hstep, ih]

/-- Both mappings replace the same pictures, or fail to, and leave all other shapes the same. -/
theorem replaceAll_agree (h : m.AgreeUpTo f m') {s : Slide} (hok : ∀ x ∈ s, (x.fill m).outcome.isOk)
    (hok' : ∀ x ∈ s, (x.fill m').outcome.isOk) :
    (replaceAll m s).1.map (Shape.mapRuns f) = (replaceAll m' s).1.map (Shape.mapRuns f) ∧
      (replaceAll m s).2 = (replaceAll m' s).2 := by
  have hreplace := replaceFrom_mapRuns f [] (judged m s)
  rw [judged_agree h hok hok', replaceFrom_mapRuns f [] (judged m' s)] at hreplace
  exact ⟨(congrArg Prod.fst hreplace).symm, (congrArg Prod.snd hreplace).symm⟩

end Slide

/-- Two mappings that agree leave a deck that both fill the same. -/
theorem Deck.fill_agree (h : m.AgreeUpTo f m') {d : Deck} (hok : (fill m d).outcome.isOk)
    (hok' : (fill m' d).outcome.isOk) : (fill m d).after.mapRuns f = (fill m' d).after.mapRuns f := by
  rw [(fill_eq hok).1, (fill_eq hok').1, mapRuns, mapRuns, List.map_map, List.map_map]
  apply List.map_congr_left
  intro s hs
  have hslide := fillFrom_isOk_iff.mp (fill_isOk_iff.mp hok) s hs
  have hslide' := fillFrom_isOk_iff.mp (fill_isOk_iff.mp hok') s hs
  exact (Slide.replaceAll_agree h (Slide.fill_isOk_iff.mp hslide).1 (Slide.fill_isOk_iff.mp hslide').1).1

/-! ## Mappings that differ in their texts -/

/-- Updating a text changes nothing else of the run. -/
theorem Run.updateText_textless (r : Run) (t : String) : (r.updateText t).1.textless = r.textless := by
  rw [updateText]
  split
  · rfl
  · split <;> rfl

/-- Updating texts changes nothing else of the items. -/
theorem updateTexts_textless (items : List Item) (texts : List String) :
    (updateTexts items texts).1.map (Item.mapRuns Run.textless) = items.map (Item.mapRuns Run.textless) := by
  induction items generalizing texts with
  | nil => cases texts <;> rfl
  | cons item rest ih =>
    cases item with
    | run r =>
      cases texts with
      | nil => rfl
      | cons t texts =>
        have hr := r.updateText_textless t
        rw [updateTexts]
        generalize r.updateText t = result at hr ⊢
        obtain ⟨r', outcome⟩ := result
        cases outcome with
        | error e => exact congrArg (Item.run · :: _) hr
        | ok u => exact congrArg₂ (Item.run · :: ·) hr (ih texts)
    | lineBreak => rw [updateTexts_cons_fixed rfl, List.map_cons, List.map_cons, ih]
    | field text => rw [updateTexts_cons_fixed rfl, List.map_cons, List.map_cons, ih]

/-- Substituting changes nothing but texts. -/
theorem Paragraph.substitute_textless (m : Mapping) (p : Paragraph) :
    (p.substitute m).1.mapRuns Run.textless = p.mapRuns Run.textless :=
  congrArg mk (updateTexts_textless p.items _)

namespace Mapping

/-- Following links has nothing to do with texts. -/
theorem directed_retext (m : Mapping) (text' : Variable → Option String) (p : Paragraph) :
    p.directed { m with text := text' } = p.directed m := rfl

/-- Mappings that differ in their texts fill paragraphs the same up to texts. -/
theorem agreeUpTo_retext (m : Mapping) (text' : Variable → Option String) :
    m.AgreeUpTo Run.textless { m with text := text' } where
  hide := rfl
  image := rfl
  fill p hok hok' := by
    rw [Paragraph.fill_after hok, Paragraph.fill_after hok', directed_retext m text', Paragraph.substitute_textless,
      Paragraph.substitute_textless]

end Mapping

/-- If a paragraph is filled with some texts, it is filled with others exactly when its runs can be given these. -/
theorem Paragraph.fill_isOk_retext {p : Paragraph} (hok : (p.fill m).outcome.isOk) (text' : Variable → Option String) :
    (p.fill { m with text := text' }).outcome.isOk ↔ p.TakesTexts { m with text := text' } := by
  rw [fill_isOk_iff, substitute_isOk_iff]
  exact and_iff_right (fill_isOk_iff.mp hok).1

/-- A shape that is filled is filled with other texts if it can take them. -/
theorem Shape.fill_isOk_retext {s : Shape} (hok : (s.fill m).outcome.isOk) (text' : Variable → Option String) :
    (s.fill { m with text := text' }).outcome.isOk ↔ s.TakesTexts { m with text := text' } := by
  obtain ⟨hlink, hparagraphs⟩ := fill_isOk_iff.mp hok
  rw [fill_isOk_iff, TakesTexts, and_iff_right hlink]
  refine forall_congr' fun hshown => forall₂_congr fun p hp => ?_
  exact Paragraph.fill_isOk_retext (hparagraphs hshown p hp) text'

/-- A slide that is filled is filled with other texts if its shapes can take them. -/
theorem Slide.fill_isOk_retext {number : Nat} {s : Slide} (hok : (fill m number s).outcome.isOk)
    (text' : Variable → Option String) :
    (fill { m with text := text' } number s).outcome.isOk ↔ ∀ x ∈ s, x.TakesTexts { m with text := text' } := by
  obtain ⟨hshapes, hreplace⟩ := fill_isOk_iff.mp hok
  have hiff : (∀ x ∈ s, (x.fill { m with text := text' }).outcome.isOk) ↔
      ∀ x ∈ s, x.TakesTexts { m with text := text' } :=
    forall₂_congr fun x hx => Shape.fill_isOk_retext (hshapes x hx) text'
  rw [fill_isOk_iff, ← hiff]
  refine and_iff_left_of_imp fun hshapes' => ?_
  rwa [← (replaceAll_agree (m.agreeUpTo_retext text') hshapes hshapes').2]

/-- A deck that is filled is filled with other texts if it can take them. -/
theorem Deck.fill_isOk_retext {d : Deck} (hok : (fill m d).outcome.isOk) (text' : Variable → Option String) :
    (fill { m with text := text' } d).outcome.isOk ↔ d.TakesTexts { m with text := text' } := by
  rw [fill_isOk_iff, fillFrom_isOk_iff]
  have hslides := fillFrom_isOk_iff.mp (fill_isOk_iff.mp hok)
  exact forall₂_congr fun s hs => Slide.fill_isOk_retext (hslides s hs) text'

/-! ## Mappings that differ in their styles -/

/-- Updating a text does not look at the font. -/
theorem Run.updateText_fontless (r : Run) (t : String) :
    r.fontless.updateText t = ((r.updateText t).1.fontless, (r.updateText t).2) := by
  have hset : ∀ t, r.fontless.setText t = (r.setText t).fontless := fun _ => rfl
  unfold updateText
  rw [hset, hset]
  change (if r.text = t then _ else if isStorableText (r.setText t).text then _ else _) = _
  split
  · rfl
  · split <;> rfl

/-- Updating texts does not look at fonts. -/
theorem updateTexts_fontless (items : List Item) (texts : List String) :
    updateTexts (items.map (Item.mapRuns Run.fontless)) texts =
      ((updateTexts items texts).1.map (Item.mapRuns Run.fontless), (updateTexts items texts).2) := by
  induction items generalizing texts with
  | nil => cases texts <;> rfl
  | cons item rest ih =>
    cases item with
    | run r =>
      cases texts with
      | nil => rfl
      | cons t texts =>
        have hr := r.updateText_fontless t
        rw [List.map_cons, Item.mapRuns, updateTexts, updateTexts, hr]
        generalize r.updateText t = result
        obtain ⟨r', outcome⟩ := result
        cases outcome with
        | error e => rfl
        | ok u =>
          rw [ih]
          rfl
    | lineBreak =>
      rw [List.map_cons, updateTexts_cons_fixed rfl, updateTexts_cons_fixed rfl, ih]
      rfl
    | field text =>
      rw [List.map_cons, updateTexts_cons_fixed rfl, updateTexts_cons_fixed rfl, ih]
      rfl

/-- Substituting does not look at fonts. -/
theorem Paragraph.substitute_fontless (m : Mapping) (p : Paragraph) :
    ((p.mapRuns Run.fontless).substitute m).after = (p.substitute m).after.mapRuns Run.fontless := by
  have htexts : (p.mapRuns Run.fontless).runs.map (·.text) = p.runs.map (·.text) := by
    rw [runs_texts, runs_texts, mapRuns, List.filterMap_map]
    congr 1
    funext item
    cases item <;> rfl
  rw [substitute, Passage.asking_after, htexts]
  exact congrArg (fun result => mk result.1) (updateTexts_fontless p.items _)

/-- A run that both mappings can style is left the same but for its font. -/
theorem Run.direct_restyle {style' : String → Option Style} {r : Run} (alone : Bool) (hok : r.styleFault? m = none)
    (hok' : r.styleFault? { m with style := style' } = none) :
    (r.direct m alone).after.fontless = (r.direct { m with style := style' } alone).after.fontless := by
  have hhides : ∀ v, ({ m with style := style' } : Mapping).hides v = m.hides v := fun _ => rfl
  rw [styleFault?] at hok hok'
  rw [direct_eq, direct_eq]
  cases hv : r.variable? with
  | none => rfl
  | some v =>
    rw [hv, Option.bind_some] at hok hok'
    cases hh : m.hides v <;> cases alone <;> simp [hok, hok', hhides, hh, fontless]

/-- Following a link with other styles comes to the same up to the font, if no style fails. -/
theorem Item.direct_restyle {style' : String → Option Style} {item : Item} (alone : Bool)
    (hok : item.styleFault? m = none) (hok' : item.styleFault? { m with style := style' } = none) :
    (item.direct m alone).after.mapRuns Run.fontless =
      (item.direct { m with style := style' } alone).after.mapRuns Run.fontless := by
  cases item with
  | run r => exact congrArg Item.run (Run.direct_restyle alone hok hok')
  | lineBreak => rfl
  | field text => rfl

/-- Following links with other styles comes to the same up to fonts, if no style fails. -/
theorem Paragraph.directed_restyle {style' : String → Option Style} {p : Paragraph}
    (hok : ∀ item ∈ p.items, item.styleFault? m = none)
    (hok' : ∀ item ∈ p.items, item.styleFault? { m with style := style' } = none) :
    (p.directed m).mapRuns Run.fontless = (p.directed { m with style := style' }).mapRuns Run.fontless := by
  rw [directed_eq_map hok, directed_eq_map hok', mapRuns, mapRuns, List.map_map, List.map_map]
  congr 1
  exact List.map_congr_left fun item hitem => Item.direct_restyle _ (hok item hitem) (hok' item hitem)

/-- Mappings that differ in their styles fill paragraphs the same up to fonts. -/
theorem Mapping.agreeUpTo_restyle (m : Mapping) (style' : String → Option Style) :
    m.AgreeUpTo Run.fontless { m with style := style' } where
  hide := rfl
  image := rfl
  fill p hok hok' := by
    have hstyles := (Paragraph.fill_isOk_iff.mp hok).1
    have hstyles' := (Paragraph.fill_isOk_iff.mp hok').1
    have htext : ∀ q : Paragraph, q.substitute { m with style := style' } = q.substitute m := fun _ => rfl
    rw [Paragraph.fill_after hok, Paragraph.fill_after hok', htext, ← Paragraph.substitute_fontless,
      ← Paragraph.substitute_fontless, Paragraph.directed_restyle hstyles hstyles']

/-- The texts of a mapping have no say in how a deck is left but for the texts of its runs, and its styles none but for
their fonts. With other texts, a deck is filled exactly when it is with these, if its runs can be given both; a deck
with a run that cannot be given its text is not filled. -/
theorem channels_kept_apart (m : Mapping) (d : Deck) :
    (∀ text', (d.TakesTexts m → d.TakesTexts { m with text := text' } →
        ((Deck.fill m d).outcome.isOk ↔ (Deck.fill { m with text := text' } d).outcome.isOk)) ∧
      ((Deck.fill m d).outcome.isOk → d.TakesTexts m) ∧
      ((Deck.fill m d).outcome.isOk → (Deck.fill { m with text := text' } d).outcome.isOk →
        (Deck.fill m d).after.mapRuns Run.textless =
          (Deck.fill { m with text := text' } d).after.mapRuns Run.textless)) ∧
    ∀ style', (Deck.fill m d).outcome.isOk → (Deck.fill { m with style := style' } d).outcome.isOk →
      (Deck.fill m d).after.mapRuns Run.fontless =
        (Deck.fill { m with style := style' } d).after.mapRuns Run.fontless := by
  refine ⟨fun text' => ⟨fun htexts htexts' => ⟨fun hok => ?_, fun hok' => ?_⟩, fun hok => ?_, fun hok hok' => ?_⟩,
    fun style' hok hok' => ?_⟩
  · exact (Deck.fill_isOk_retext hok text').mpr htexts'
  · exact (Deck.fill_isOk_retext hok' m.text).mpr htexts
  · exact (Deck.fill_isOk_retext hok m.text).mp hok
  · exact Deck.fill_agree (m.agreeUpTo_retext text') hok hok'
  · exact Deck.fill_agree (m.agreeUpTo_restyle style') hok hok'

namespace ChannelsWitness

/-- A mapping with a text and a style for two variables, which hides what carries a third. -/
def mapping (text : String) (bold : Bool) : Mapping :=
  { Mapping.silent with
    hide := fun v => some (v.name == "secret")
    text := fun v => if v.name = "user" then some text else none
    style := fun name => if name = "loud" then some { bold := some bold } else none }

/-- A deck with a hidden box, a hidden paragraph, and a run that is styled and asks for a text. -/
def deck : Deck :=
  [[.text ⟨2, "Note", some ⟨.external "$/secret/", none⟩, []⟩,
    .text ⟨3, "Box", none, [⟨[.run ⟨"gone", some ⟨.external "$/secret/", none⟩, {}⟩]⟩,
      ⟨[.run ⟨"Dear $/user/", some ⟨.external "$/loud/", none⟩, {}⟩, .lineBreak]⟩]⟩]]

end ChannelsWitness

open ChannelsWitness in
/-- A letter to Alice and one to Bob differ in texts, and a bold one and a plain one in fonts. -/
theorem channels_kept_apart_dear :
    (Deck.fill (mapping "Alice" true) deck).outcome.isOk ∧
      (Deck.fill (mapping "Bob" true) deck).outcome.isOk ∧ (Deck.fill (mapping "Alice" false) deck).outcome.isOk ∧
      deck.TakesTexts (mapping "Alice" true) ∧ deck.TakesTexts (mapping "Bob" true) ∧
      (Deck.fill (mapping "Alice" true) deck).after.mapRuns Run.textless =
        (Deck.fill (mapping "Bob" true) deck).after.mapRuns Run.textless ∧
      (Deck.fill (mapping "Alice" true) deck).after.mapRuns Run.fontless =
        (Deck.fill (mapping "Alice" false) deck).after.mapRuns Run.fontless := by
  have hok : (Deck.fill (mapping "Alice" true) deck).outcome.isOk := by decide +kernel
  have htext : (Deck.fill (mapping "Bob" true) deck).outcome.isOk := by decide +kernel
  have hstyle : (Deck.fill (mapping "Alice" false) deck).outcome.isOk := by decide +kernel
  obtain ⟨hretext, hrestyle⟩ := channels_kept_apart (mapping "Alice" true) deck
  obtain ⟨hiff, htakes, hsame⟩ := hretext (mapping "Bob" true).text
  have htakes' := ((channels_kept_apart (mapping "Bob" true) deck).1 (mapping "Bob" true).text).2.1 htext
  exact ⟨hok, (hiff (htakes hok) htakes').mp hok, hstyle, htakes hok, htakes', hsame hok htext,
    hrestyle (mapping "Alice" false).style hok hstyle⟩

/-- Texts can have a say in whether a deck is filled: one that a deck cannot hold ends the fill. -/
theorem fill_isOk_retext_false :
    ¬∀ (m : Mapping) (text' : Variable → Option String) (d : Deck),
      ((Deck.fill m d).outcome.isOk ↔ (Deck.fill { m with text := text' } d).outcome.isOk) := by
  intro h
  have hok : (Deck.fill (ChannelsWitness.mapping "Alice" true) ChannelsWitness.deck).outcome.isOk := by decide +kernel
  have hfault : (Deck.fill (ChannelsWitness.mapping "\uFFFE" true) ChannelsWitness.deck).outcome.isOk = false := by
    decide +kernel
  have hok' := (h _ (ChannelsWitness.mapping "\uFFFE" true).text _).mp hok
  exact Bool.false_ne_true (hfault.symm.trans hok')

end SlideFill
