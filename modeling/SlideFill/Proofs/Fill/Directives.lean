import SlideFill.Listing
import SlideFill.Proofs.Fill.Transformation

/-!
# No directive is left

A link that spells a variable is a directive of the template. A part is plain if it carries none; the parts of a filled
deck all are, so `fill_leaves_text_only` lists no variables of it but those in its text.
-/

namespace SlideFill

/-- A paragraph without directives. -/
def Paragraph.IsPlain (p : Paragraph) : Prop :=
  ∀ r ∈ p.runs, r.variable? = none

/-- A shape without directives, whose link leads somewhere if there is one. -/
def Shape.IsPlain (s : Shape) : Prop :=
  shapeVariable s.link = .ok none ∧ ∀ p ∈ s.paragraphs, p.IsPlain

/-! ## Paragraphs that are filled -/

/-- A run whose link has been followed does not link to a variable. -/
theorem Run.directed_variable (m : Mapping) (r : Run) : Run.variable? (r.directed m) = none := by
  rw [directed]
  cases hv : r.variable? with
  | none => exact hv
  | some v => rfl

/-- Setting a text keeps the link. -/
theorem Run.updateText_link (r : Run) (text : String) : (r.updateText text).1.link = r.link := by
  unfold updateText
  split
  · rfl
  · split <;> rfl

/-- Setting texts keeps all of an item that does not depend on its text. -/
theorem map_updateTexts {β : Type} {f : Item → β} (hf : ∀ r text, f (.run (Run.updateText r text).1) = f (.run r))
    (items : List Item) (texts : List String) : (updateTexts items texts).1.map f = items.map f := by
  induction items generalizing texts with
  | nil => cases texts <;> rfl
  | cons item rest ih =>
    cases item with
    | run r =>
      cases texts with
      | nil => rfl
      | cons t texts =>
        have hrun := hf r t
        rw [updateTexts]
        split
        · rename_i r' e h
          rw [h] at hrun
          exact congrArg (· :: _) hrun
        · rename_i r' h
          rw [h] at hrun
          exact congrArg₂ List.cons hrun (ih texts)
    | lineBreak =>
      rw [updateTexts_cons_fixed rfl]
      exact congrArg (_ :: ·) (ih texts)
    | field text =>
      rw [updateTexts_cons_fixed rfl]
      exact congrArg (_ :: ·) (ih texts)

/-- Setting texts keeps the links of all runs. -/
theorem updateTexts_links (items : List Item) (texts : List String) :
    ((updateTexts items texts).1.filterMap Paragraph.runOf?).map (·.link) =
      (items.filterMap Paragraph.runOf?).map (·.link) := by
  have hlinks := map_updateTexts (f := fun item => (Paragraph.runOf? item).map (·.link))
    (fun r text => congrArg some (r.updateText_link text)) items texts
  have hfiltered := congrArg (List.filterMap id) hlinks
  rwa [List.filterMap_map, List.filterMap_map, Function.id_comp, ← List.map_filterMap, ← List.map_filterMap] at hfiltered

namespace Paragraph

/-- A run whose link is that of a run without a directive has none itself. -/
theorem isPlain_of_links {p q : Paragraph} (h : p.runs.map (·.link) = q.runs.map (·.link)) (hq : q.IsPlain) :
    p.IsPlain := by
  intro r hr
  have hmem : r.link ∈ q.runs.map (·.link) := h ▸ List.mem_map_of_mem hr
  obtain ⟨r', hr', hlink⟩ := List.mem_map.mp hmem
  unfold Run.variable?
  rw [← hlink]
  exact hq r' hr'

/-- A paragraph that stays is left without directives. -/
theorem fill_isPlain {m : Mapping} {p : Paragraph} (h : (p.fill m).outcome.isOk) (hstays : p.isDoomed m = false) :
    (p.fill m).after.IsPlain := by
  have hdirected := directed_of_not_doomed (fill_isOk_iff.mp h).1 hstays
  rw [fill_after h]
  refine isPlain_of_links (q := p.directed m) (updateTexts_links _ _) ?_
  intro r hr
  rw [hdirected] at hr
  obtain ⟨item, hitem, hrun⟩ := List.mem_filterMap.mp hr
  obtain ⟨item', -, rfl⟩ := List.mem_map.mp hitem
  cases item' with
  | run r' =>
    rw [← Option.some.inj hrun]
    exact r'.directed_variable m
  | lineBreak => cases hrun
  | field text => cases hrun

end Paragraph

/-! ## Shapes that are filled -/

namespace Shape

/-- The paragraphs of a shape that is filled are those that it had and that are not doomed, filled. -/
theorem paragraphs_filled {m : Mapping} {s : Shape} {p : Paragraph} (h : p ∈ (s.filled m).paragraphs) :
    ∃ q ∈ s.paragraphs, q.isDoomed m = false ∧ p = (q.fill m).after := by
  have hbody : ∀ body, p ∈ filledBody m body → ∃ q ∈ body, q.isDoomed m = false ∧ p = (q.fill m).after := by
    intro body hp
    obtain ⟨q, hq, rfl⟩ := List.mem_map.mp hp
    obtain ⟨hmem, hstays⟩ := List.mem_filter.mp hq
    exact ⟨q, hmem, by simpa using hstays, rfl⟩
  cases s with
  | text box => exact hbody box.body h
  | table t =>
    simp only [filled, paragraphs, List.mem_flatMap, List.mem_flatten, List.mem_map] at h ⊢
    obtain ⟨cell', ⟨row', ⟨row, hrow, rfl⟩, hcell'⟩, hp⟩ := h
    obtain ⟨cell, hcell, rfl⟩ := List.mem_map.mp hcell'
    cases cell with
    | none => cases hp
    | some body =>
      obtain ⟨q, hq, hfill⟩ := hbody body hp
      exact ⟨q, ⟨some body, ⟨row, hrow, hcell⟩, hq⟩, hfill⟩
  | picture p => cases h
  | connector id name => cases h
  | group id name children => cases h

/-- A shape that has been filled keeps its link unless it is a variable. -/
theorem filled_link (m : Mapping) (s : Shape) : (s.filled m).link = settledLink s.link := by
  cases s <;> rfl

/-- A shape that stays is left without directives. -/
theorem filled_isPlain {m : Mapping} {s : Shape} (h : (s.fill m).outcome.isOk) (hshown : s.isHidden m = false) :
    (s.filled m).IsPlain := by
  obtain ⟨hlink, hparagraphs⟩ := fill_isOk_iff.mp h
  constructor
  · rw [filled_link]
    exact shapeVariable_settledLink hlink
  · intro p hp
    obtain ⟨q, hq, hstays, rfl⟩ := paragraphs_filled hp
    exact Paragraph.fill_isPlain (hparagraphs hshown q hq) hstays

end Shape

/-- The shapes of a filled slide are without directives: a shape with one is gone, replaced, or has lost it. -/
theorem Transformed.isPlain {m : Mapping} {n : Nat} {s after : List Shape} (h : Transformed m n s after)
    (hfill : ∀ x ∈ s, (x.fill m).outcome.isOk) : ∀ y ∈ after, y.IsPlain := by
  induction h with
  | nil n => simp
  | hidden hx _ ih => exact ih (List.forall_mem_cons.mp hfill).2
  | replaced hx hr hnew hid hlink _ ih =>
    refine List.forall_mem_cons.mpr ⟨⟨?_, ?_⟩, ih (List.forall_mem_cons.mp hfill).2⟩
    · rw [Shape.link, hlink]
      rfl
    · simp [Shape.paragraphs]
  | kept hx hr hkeeps _ ih =>
    obtain ⟨hok, hrest⟩ := List.forall_mem_cons.mp hfill
    exact List.forall_mem_cons.mpr ⟨Shape.filled_isPlain hok hx, ih hrest⟩

/-! ## What is listed -/

/-- A paragraph without directives holds variables in its text only. -/
theorem Paragraph.variables_isPlain {p : Paragraph} (h : p.IsPlain) : ∀ x ∈ p.variables, x.channel = .text := by
  intro x hx
  rcases List.mem_append.mp hx with hlink | htext
  · obtain ⟨r, hr, hsome⟩ := List.mem_filterMap.mp hlink
    rw [h r hr] at hsome
    cases hsome
  · obtain ⟨o, -, rfl⟩ := List.mem_map.mp htext
    rfl

/-- In plain paragraphs variables occur in the text only. -/
theorem bodyVariables_isPlain {body : List Paragraph} (h : ∀ p ∈ body, p.IsPlain) :
    ∀ x ∈ bodyVariables body, x.channel = .text := by
  intro x hx
  obtain ⟨p, hp, hx⟩ := List.mem_flatMap.mp hx
  exact p.variables_isPlain (h p hp) x hx

/-- A shape without directives holds variables in its text only. -/
theorem Shape.variables_isPlain {s : Shape} (h : s.IsPlain) :
    ∃ mets, s.variables = .ok mets ∧ ∀ x ∈ mets, x.channel = .text := by
  obtain ⟨hlink, hparagraphs⟩ := h
  cases s with
  | text box =>
    have hlink : shapeVariable box.link = .ok none := hlink
    refine ⟨bodyVariables box.body, ?_, bodyVariables_isPlain hparagraphs⟩
    rw [Shape.variables, linkVariables, hlink]
    rfl
  | table t =>
    refine ⟨_, rfl, ?_⟩
    intro x hx
    obtain ⟨row, hrow, hx⟩ := List.mem_flatMap.mp hx
    obtain ⟨cell, hcell, hx⟩ := List.mem_flatMap.mp hx
    refine bodyVariables_isPlain (fun p hp => hparagraphs p ?_) x hx
    exact List.mem_flatMap.mpr ⟨cell, List.mem_flatten.mpr ⟨row, hrow, hcell⟩, hp⟩
  | picture p =>
    have hlink : shapeVariable p.link = .ok none := hlink
    refine ⟨[], ?_, by simp⟩
    rw [Shape.variables, linkVariables, hlink]
    rfl
  | connector id name => exact ⟨[], rfl, by simp⟩
  | group id name children => exact ⟨[], rfl, by simp⟩

/-- A slide with plain shapes has its variables listed, and they are in texts. -/
theorem Slide.variables_isPlain (number : Nat) {s : List Shape} (h : ∀ x ∈ s, x.IsPlain) :
    ∃ mentions, Slide.variables number s = .ok mentions ∧ ∀ x ∈ mentions, x.channel = .text := by
  induction s with
  | nil => exact ⟨[], rfl, by simp⟩
  | cons x rest ih =>
    obtain ⟨hx, hrest⟩ := List.forall_mem_cons.mp h
    obtain ⟨mets, hmets, htext⟩ := x.variables_isPlain hx
    obtain ⟨mentions, hmentions, htexts⟩ := ih hrest
    refine ⟨mets.map (fun y => ⟨number, x.name, y.channel, y.var⟩) ++ mentions, ?_, ?_⟩
    · rw [Slide.variables, hmets, hmentions]
      rfl
    · intro y hy
      rcases List.mem_append.mp hy with hy | hy
      · obtain ⟨z, hz, rfl⟩ := List.mem_map.mp hy
        exact htext z hz
      · exact htexts y hy

/-- Slides with plain shapes have their variables listed, and they are in texts. -/
theorem Deck.variablesFrom_isPlain (number : Nat) {d : Deck} (h : ∀ s ∈ d, ∀ x ∈ s, x.IsPlain) :
    ∃ mentions, Deck.variablesFrom number d = .ok mentions ∧ ∀ x ∈ mentions, x.channel = .text := by
  induction d generalizing number with
  | nil => exact ⟨[], rfl, by simp⟩
  | cons s rest ih =>
    obtain ⟨hs, hrest⟩ := List.forall_mem_cons.mp h
    obtain ⟨first, hfirst, htext⟩ := Slide.variables_isPlain number hs
    obtain ⟨others, hothers, htexts⟩ := ih (number + 1) hrest
    refine ⟨first ++ others, ?_, ?_⟩
    · rw [variablesFrom, hfirst, hothers]
      rfl
    · intro y hy
      rcases List.mem_append.mp hy with hy | hy
      · exact htext y hy
      · exact htexts y hy

/-- No directive is left in a deck that is filled: its variables can be listed, and all of them stand in text. -/
theorem fill_leaves_text_only (m : Mapping) (d : Deck) (t : Tally) (h : (Deck.fill m d).outcome = .ok t) :
    ∃ mentions, Deck.variables (Deck.fill m d).after = .ok mentions ∧ ∀ x ∈ mentions, x.channel = .text := by
  have hok := isOk_iff.mpr ⟨t, h⟩
  have hslides := Deck.fillFrom_isOk_iff.mp (Deck.fill_isOk_iff.mp hok)
  apply Deck.variablesFrom_isPlain 1
  intro s hs
  rw [(Deck.fill_eq hok).1] at hs
  obtain ⟨original, horiginal, rfl⟩ := List.mem_map.mp hs
  obtain ⟨hfill, hreplace⟩ := Slide.fill_isOk_iff.mp (hslides original horiginal)
  obtain ⟨n, -, htrans⟩ := Slide.replaceAll_transforms hreplace
  exact htrans.isPlain hfill

namespace DirectivesWitness

/-- A mapping that hides what carries one variable and has no opinion on others. -/
def mapping : Mapping :=
  { Mapping.silent with hide := fun v => some (v.name == "secret") }

/-- A deck with a directive that is not known on a box and on a run, and with a hidden run that is alone. -/
def deck : Deck :=
  [[.text ⟨2, "Box", some ⟨.external "$/other/", none⟩,
    [⟨[.run ⟨"$/day/", some ⟨.external "$/other/", none⟩, {}⟩]⟩,
      ⟨[.run ⟨"hidden", some ⟨.external "$/secret/", none⟩, {}⟩]⟩]⟩]]

end DirectivesWitness

open DirectivesWitness in
/-- A mapping that knows no variable leaves those in texts, and clears the links to others. -/
theorem fill_leaves_text_only_unknown :
    (Deck.fill mapping deck).outcome = .ok ⟨0, 0⟩ ∧
      ∃ mentions, Deck.variables (Deck.fill mapping deck).after = .ok mentions ∧ ∀ x ∈ mentions, x.channel = .text := by
  have h : (Deck.fill mapping deck).outcome = .ok ⟨0, 0⟩ := eq_ok_of_toOption (by decide +kernel)
  exact ⟨h, fill_leaves_text_only mapping deck ⟨0, 0⟩ h⟩

end SlideFill
