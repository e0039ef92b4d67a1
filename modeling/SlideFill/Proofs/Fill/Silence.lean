import SlideFill.Proofs.Fill.Directives
import SlideFill.Proofs.Fill.Listing

/-!
# Filling without an opinion

A mapping that has no opinion on what is listed of a deck clears the directives and leaves all else as it is
(`silent_fill_clears_directives`). So a deck of which nothing is listed stays as it is whatever the mapping, and a deck
that has been filled stays as it is if the variables left in its text are left alone.
-/

namespace SlideFill

/-! ## Clearing directives -/

/-- A run without its directive, if it has one. -/
def Run.cleared (r : Run) : Run :=
  { r with link := if r.variable?.isSome then none else r.link }

/-- An item without its directive, if it has one. -/
def Item.cleared : Item → Item
  | .run r => .run r.cleared
  | item => item

/-- A paragraph whose runs have lost their directives. -/
def Paragraph.cleared (p : Paragraph) : Paragraph :=
  ⟨p.items.map Item.cleared⟩

/-- A shape that has lost its own directive and those of its runs. Connectors and groups stay. -/
def Shape.cleared : Shape → Shape
  | .text box => .text { box with link := settledLink box.link, body := box.body.map Paragraph.cleared }
  | .table t => .table { t with rows := t.rows.map fun row => row.map fun cell => cell.map (List.map Paragraph.cleared) }
  | .picture p => .picture { p with link := settledLink p.link }
  | s => s

/-- A deck that has lost its directives and nothing else. -/
def Deck.cleared (d : Deck) : Deck :=
  d.map fun s => s.map Shape.cleared

/-! ### Where there are none -/

/-- A plain paragraph has no links to clear. -/
theorem Paragraph.cleared_of_isPlain {p : Paragraph} (h : p.IsPlain) : p.cleared = p := by
  have hitem : ∀ item ∈ p.items, item.cleared = item := by
    intro item hitem
    cases item with
    | run r =>
      have hplain : r.variable? = none := h r (List.mem_filterMap.mpr ⟨.run r, hitem, rfl⟩)
      simp [Item.cleared, Run.cleared, hplain]
    | lineBreak => rfl
    | field text => rfl
  rw [cleared, List.map_congr_left hitem, List.map_id']

/-- A plain shape has no links to clear. -/
theorem Shape.cleared_of_isPlain {s : Shape} (h : s.IsPlain) : s.cleared = s := by
  obtain ⟨hlink, hparagraphs⟩ := h
  have hbody : ∀ body : List Paragraph, (∀ p ∈ body, p ∈ s.paragraphs) → body.map Paragraph.cleared = body := by
    intro body hbody
    rw [List.map_congr_left fun p hp => Paragraph.cleared_of_isPlain (hparagraphs p (hbody p hp)), List.map_id']
  cases s with
  | text box =>
    have hlink : shapeVariable box.link = .ok none := hlink
    rw [cleared, settledLink_of_none hlink, hbody box.body fun p hp => hp]
  | table t =>
    have hbodies := t.map_bodies_congr (g := fun body => body) hbody
    simp only [Option.map_id', List.map_id'] at hbodies
    rw [cleared, hbodies]
  | picture p =>
    have hlink : shapeVariable p.link = .ok none := hlink
    rw [cleared, settledLink_of_none hlink]
  | connector id name => rfl
  | group id name children => rfl

/-- A deck of plain shapes has no links to clear. -/
theorem Deck.cleared_of_isPlain {d : Deck} (h : ∀ s ∈ d, ∀ x ∈ s, x.IsPlain) : d.cleared = d := by
  have hslide : ∀ s ∈ d, s.map Shape.cleared = s := by
    intro s hs
    rw [List.map_congr_left fun x hx => Shape.cleared_of_isPlain (h s hs x hx), List.map_id']
  rw [cleared, List.map_congr_left hslide, List.map_id']

/-! ## The mapping without opinions -/

@[simp] theorem Mapping.silent_hides (v : Variable) : Mapping.silent.hides v = false := rfl

@[simp] theorem Mapping.silent_restyle (v : Variable) (f : Font) : Mapping.silent.restyle v f = (f, none) := rfl

/-- A run is given the text that it has. -/
theorem Run.updateText_self (r : Run) : r.updateText r.text = (r, .ok ()) := by
  rw [updateText, if_pos rfl]

/-- Items that are given their own texts stay as they are. -/
theorem updateTexts_self (items : List Item) : updateTexts items (items.filterMap Item.text?) = (items, .ok ()) := by
  induction items with
  | nil => rfl
  | cons item rest ih =>
    cases item with
    | run r =>
      have htexts : (Item.run r :: rest).filterMap Item.text? = r.text :: rest.filterMap Item.text? := rfl
      rw [htexts, updateTexts, Run.updateText_self]
      simp only [ih]
    | lineBreak =>
      rw [updateTexts_cons_fixed rfl]
      exact congrArg₂ Prod.mk (congrArg (_ :: ·) (congrArg Prod.fst ih)) (congrArg Prod.snd ih)
    | field text =>
      rw [updateTexts_cons_fixed rfl]
      exact congrArg₂ Prod.mk (congrArg (_ :: ·) (congrArg Prod.fst ih)) (congrArg Prod.snd ih)

/-- Where no variable has a text, each text is given as it is. -/
theorem substitute_silent (texts : List String) : (substitute Mapping.silent.askText texts).answer = (texts, 0) := by
  have hedits : (editsOf Mapping.silent.askText (String.join texts)).answer = [] := by
    simp [editsOf_answer, editOf?, Mapping.silent]
  simp [substitute, Asked.map, hedits, Edit.apply]

/-- Where no variable has a text, a paragraph is left as it is. -/
theorem Paragraph.substitute_silent (p : Paragraph) :
    (p.substitute .silent).after = p ∧ (p.substitute .silent).outcome = .ok 0 := by
  have hupdate : p.updateTexts (p.runs.map (·.text)) = (p, .ok ()) := by
    rw [updateTexts, runs_texts, updateTexts_self]
  simp [substitute, SlideFill.substitute_silent, hupdate, Except.map]

/-- A silent mapping clears the link of an item and does nothing else to it. -/
theorem Item.directed_silent (item : Item) : item.directed .silent = item.cleared := by
  cases item with
  | run r => cases h : r.variable? <;> simp [directed, Run.directed, cleared, Run.cleared, h]
  | lineBreak => rfl
  | field text => rfl

/-- A silent mapping has no styles that fail. -/
theorem Item.styleFault_silent (item : Item) : item.styleFault? .silent = none := by
  cases item with
  | run r => cases h : r.variable? <;> simp [styleFault?, Run.styleFault?, h]
  | lineBreak => rfl
  | field text => rfl

/-- A silent mapping hides no item. -/
theorem Item.isHidden_silent (item : Item) : item.isHidden .silent = false := by
  cases item with
  | run r => cases h : r.variable? <;> simp [isHidden, Run.isHidden, h]
  | lineBreak => rfl
  | field text => rfl

namespace Paragraph

/-- A silent mapping takes no paragraph away. -/
theorem isDoomed_silent (p : Paragraph) : p.isDoomed .silent = false := by
  simp [isDoomed, Item.isHidden_silent]

/-- A silent mapping clears the links of a paragraph and does nothing else to it. -/
theorem directed_silent (p : Paragraph) : p.directed .silent = p.cleared := by
  rw [directed_of_not_doomed (fun item _ => item.styleFault_silent) p.isDoomed_silent, cleared,
    funext Item.directed_silent]

/-- A silent mapping fills any paragraph. -/
theorem fill_isOk_silent (p : Paragraph) : (p.fill .silent).outcome.isOk := by
  rw [fill_isOk_iff, (substitute_silent _).2]
  exact ⟨fun item _ => item.styleFault_silent, rfl⟩

/-- A silent mapping leaves a paragraph with its links cleared. -/
theorem fill_after_silent (p : Paragraph) : (p.fill .silent).after = p.cleared := by
  rw [fill_after p.fill_isOk_silent, (substitute_silent _).1, directed_silent]

end Paragraph

/-- A silent mapping leaves a body of text with its links cleared. -/
theorem filledBody_silent (body : List Paragraph) : filledBody .silent body = body.map Paragraph.cleared := by
  simp [filledBody, Paragraph.isDoomed_silent, Paragraph.fill_after_silent]

namespace Shape

/-- A silent mapping hides no shape. -/
theorem isHidden_silent (s : Shape) : s.isHidden .silent = false := by
  cases h : linkVariable? s.link <;> simp [isHidden, h]

/-- A silent mapping leaves a shape with its links cleared. -/
theorem filled_silent (s : Shape) : s.filled .silent = s.cleared := by
  cases s with
  | text box => rw [filled, filledBody_silent, cleared]
  | table t => rw [filled, funext filledBody_silent, cleared]
  | picture p => rfl
  | connector id name => rfl
  | group id name children => rfl

end Shape

namespace Slide

/-- A silent mapping replaces no picture. -/
theorem replaceAll_silent (s : Slide) : replaceAll .silent s = (s.map Shape.cleared, [], .ok 0) := by
  have hshown : shown .silent s = s := by simp [shown, Shape.isHidden_silent]
  rw [replaceAll_of_imageless fun _ => rfl, hshown, funext Shape.filled_silent]

/-- A silent mapping fills a slide whose links can be read. -/
theorem fill_isOk_silent {number : Nat} {s : Slide} (h : ∀ x ∈ s, (shapeVariable x.link).isOk) :
    (fill .silent number s).outcome.isOk := by
  rw [fill_isOk_iff, replaceAll_silent]
  exact ⟨fun x hx => Shape.fill_isOk_iff.mpr ⟨h x hx, fun _ p _ => p.fill_isOk_silent⟩, rfl⟩

end Slide

namespace Deck

/-- The mapping without opinions fills every deck whose links lead somewhere, and clears its directives. -/
theorem fill_silent {d : Deck} (h : d.IsLinked) :
    (fill .silent d).outcome = .ok ⟨0, 0⟩ ∧ (fill .silent d).after = d.cleared := by
  have hok : (fillFrom .silent 1 d).outcome.isOk :=
    fillFrom_isOk_iff.mpr fun s hs => Slide.fill_isOk_silent (h s hs)
  obtain ⟨hafter, -, hout⟩ := fillFrom_eq hok
  have hremoved : (d.map fun s => s.countP (·.isHidden .silent)).sum = 0 := by simp [Shape.isHidden_silent]
  have hreplaced : (d.map fun s => s.countP (·.isReplaced .silent)).sum = 0 := by
    simp [Shape.isReplaced, Shape.replacement_eq_none (m := .silent) fun _ => rfl]
  rw [hremoved, hreplaced] at hout
  simp only [Slide.replaceAll_silent] at hafter
  exact ⟨by simp only [fill, hout], by simp only [fill, hout, hafter, cleared]⟩

end Deck

/-! ## Mappings without an opinion on what is listed -/

/-- Whether a mapping has no opinion on a variable: it hides nothing for it, and has no style, text or image. -/
structure Mapping.IsSilentOn (m : Mapping) (v : Variable) : Prop where
  hides : m.hides v = false
  style : m.style v.name = none
  text : m.text v = none
  image : m.image v.name = none

/-- A mapping that is silent on a variable agrees on it with the silent one. -/
theorem Mapping.IsSilentOn.agreesOn {m : Mapping} {v : Variable} (h : m.IsSilentOn v) : Mapping.silent.AgreesOn m v :=
  ⟨h.hides, h.style, h.text, h.image⟩

namespace Deck

/-- A mapping without an opinion on what is listed fills a deck as the mapping without any does. -/
theorem fill_eq_silent {m : Mapping} {d : Deck} {mentions : List Mention} (hlist : Deck.variables d = .ok mentions)
    (hm : ∀ x ∈ mentions, m.IsSilentOn x.var) : fill m d = fill .silent d := by
  obtain ⟨hlinked, hmentions⟩ := variablesFrom_eq_ok.mp hlist
  have hok : (fillFrom .silent 1 d).outcome.isOk := fill_isOk_iff.mp (isOk_iff.mpr ⟨_, (fill_silent hlinked).1⟩)
  have hasked : (fill .silent d).asked = mentions.flatMap Mention.requests := by
    rw [fill_asked, fillFrom_asked_eq_requests Mapping.silent_hides hok, hmentions]
  -- What is asked of the mapping without opinions is known, and what is asked of the other one is not.
  apply fill_congr
  intro r hr
  rw [hasked, List.mem_flatMap] at hr
  obtain ⟨x, hx, hr⟩ := hr
  obtain ⟨query, hquery, rfl⟩ := List.mem_map.mp hr
  exact (hm x hx).agreesOn.answersAlike hquery

/-- A mapping without an opinion on what is listed clears the directives of a deck. -/
theorem fill_eq_cleared {m : Mapping} {d : Deck} {mentions : List Mention} (hlist : Deck.variables d = .ok mentions)
    (hm : ∀ x ∈ mentions, m.IsSilentOn x.var) :
    (fill m d).outcome = .ok ⟨0, 0⟩ ∧ (fill m d).after = d.cleared := by
  rw [fill_eq_silent hlist hm]
  exact fill_silent (variablesFrom_eq_ok.mp hlist).1

end Deck

/-! ## Decks without directives -/

/-- A paragraph of which nothing but its text is listed carries no directive. -/
theorem Paragraph.isPlain_of_variables {p : Paragraph} (h : ∀ x ∈ p.variables, x.channel = .text) : p.IsPlain := by
  intro r hr
  obtain ⟨item, hitem, hrun⟩ := List.mem_filterMap.mp hr
  cases hv : r.variable? with
  | none => rfl
  | some v =>
    have hdirective : item.directive? = some ⟨.runLink, v⟩ := by
      cases item with
      | run r' =>
        cases hrun
        simp [Item.directive?, Run.directive?, hv]
      | lineBreak => cases hrun
      | field text => cases hrun
    rw [p.variables_eq] at h
    cases h _ (List.mem_append_left _ (List.mem_filterMap.mpr ⟨item, hitem, hdirective⟩))

/-- A shape of which nothing but its text is listed carries no directive. -/
theorem Shape.isPlain_of_mets {s : Shape} (hlink : (shapeVariable s.link).isOk)
    (h : ∀ x ∈ s.mets, x.channel = .text) : s.IsPlain := by
  constructor
  · obtain ⟨v, hv⟩ := isOk_iff.mp hlink
    cases v with
    | none => exact hv
    | some v =>
      have hdirective : s.directive? = some ⟨s.linkChannel, v⟩ := by
        rw [directive?, linkVariable?_of_ok hv, Option.map_some]
      have hchannel : s.linkChannel = .text :=
        h _ (List.mem_append_left _ (Option.mem_toList.mpr hdirective))
      cases s <;> cases hchannel
  · intro p hp
    exact Paragraph.isPlain_of_variables fun x hx =>
      h x (List.mem_append_right _ (List.mem_flatMap.mpr ⟨p, hp, hx⟩))

namespace Deck

/-- What is listed of a shape on one of the slides is mentioned. -/
theorem mem_mentionsFrom {number : Nat} {d : Deck} {s : Slide} {x : Shape} {y : Met} (hs : s ∈ d) (hx : x ∈ s)
    (hy : y ∈ x.mets) : ∃ mention ∈ mentionsFrom number d, mention.channel = y.channel := by
  rw [← List.zipIdx_map_fst number d] at hs
  obtain ⟨numbered, hnumbered, rfl⟩ := List.mem_map.mp hs
  exact ⟨⟨numbered.2, x.name, y.channel, y.var⟩, List.mem_flatMap.mpr ⟨numbered, hnumbered,
    List.mem_flatMap.mpr ⟨x, hx, List.mem_map_of_mem hy⟩⟩, rfl⟩

/-- A deck of which nothing but its text is listed carries no directive. -/
theorem isPlain_of_variables {d : Deck} {mentions : List Mention} (hlist : Deck.variables d = .ok mentions)
    (htext : ∀ x ∈ mentions, x.channel = .text) : ∀ s ∈ d, ∀ x ∈ s, x.IsPlain := by
  obtain ⟨hlinked, rfl⟩ := variablesFrom_eq_ok.mp hlist
  intro s hs x hx
  refine Shape.isPlain_of_mets (hlinked s hs x hx) fun y hy => ?_
  obtain ⟨mention, hmention, hchannel⟩ := mem_mentionsFrom hs hx hy
  rw [← hchannel]
  exact htext mention hmention

/-- A deck that is filled carries no directive. -/
theorem fill_isPlain {m : Mapping} {d : Deck} (h : (fill m d).outcome.isOk) :
    ∀ s ∈ (fill m d).after, ∀ x ∈ s, x.IsPlain := by
  intro s hs
  rw [(fill_eq h).1] at hs
  obtain ⟨original, horiginal, rfl⟩ := List.mem_map.mp hs
  obtain ⟨hshapes, hreplace⟩ := Slide.fill_isOk_iff.mp (fillFrom_isOk_iff.mp (fill_isOk_iff.mp h) original horiginal)
  obtain ⟨n, -, htrans⟩ := Slide.replaceAll_transforms hreplace
  exact htrans.isPlain hshapes

end Deck

/-- A mapping without an opinion on what is listed of a deck fills it, and clears its directives and nothing else. So a
deck of which nothing is listed stays as it is whatever the mapping, and so does a deck that has been filled, if the
second mapping has no opinion on the variables that are left in its text. -/
theorem silent_fill_clears_directives :
    (∀ (m : Mapping) (d : Deck) (mentions : List Mention), Deck.variables d = .ok mentions →
      (∀ x ∈ mentions, m.IsSilentOn x.var) → (Deck.fill m d).outcome = .ok ⟨0, 0⟩ ∧ (Deck.fill m d).after = d.cleared) ∧
    (∀ (m : Mapping) (d : Deck), Deck.variables d = .ok [] →
      (Deck.fill m d).outcome = .ok ⟨0, 0⟩ ∧ (Deck.fill m d).after = d) ∧
    ∀ (m m' : Mapping) (d : Deck) (t : Tally), (Deck.fill m d).outcome = .ok t →
      ∃ mentions, Deck.variables (Deck.fill m d).after = .ok mentions ∧
        ((∀ x ∈ mentions, x.channel = .text → m'.IsSilentOn x.var) →
          (Deck.fill m' (Deck.fill m d).after).outcome = .ok ⟨0, 0⟩ ∧
          (Deck.fill m' (Deck.fill m d).after).after = (Deck.fill m d).after) := by
  refine ⟨fun m d mentions hlist hm => Deck.fill_eq_cleared hlist hm, ?_, ?_⟩
  · intro m d hlist
    have hplain := Deck.isPlain_of_variables hlist (by simp)
    obtain ⟨hout, hafter⟩ := Deck.fill_eq_cleared (m := m) hlist (by simp)
    exact ⟨hout, hafter.trans (Deck.cleared_of_isPlain hplain)⟩
  · intro m m' d t h
    have hplain := Deck.fill_isPlain (isOk_iff.mpr ⟨t, h⟩)
    obtain ⟨mentions, hlist, htext⟩ := Deck.variablesFrom_isPlain 1 hplain
    refine ⟨mentions, hlist, fun hm => ?_⟩
    obtain ⟨hout, hafter⟩ := Deck.fill_eq_cleared hlist fun x hx => hm x hx (htext x hx)
    exact ⟨hout, hafter.trans (Deck.cleared_of_isPlain hplain)⟩

namespace SilenceWitness

/-- A link to a URL. -/
def link (url : String) : Option Link :=
  some ⟨.external url, none⟩

/-- A mapping with an opinion on one name, whatever it is asked. -/
def mapping (name : String) : Mapping :=
  { Mapping.silent with
    hide := fun v => some (v.name == name)
    text := fun v => if v.name = name then some "$/day/" else none }

/-- A deck with directives on a box, a run and a picture, and with links that are none. -/
def deck : Deck :=
  [[.text ⟨2, "Box", link "$/block/", [⟨[.run ⟨"$/day/", link "$/warning/", {}⟩, .run ⟨"more", link "https://x/", {}⟩]⟩]⟩,
    .picture ⟨3, "Logo", link "$/logo/", none, ⟨.png, ⟨.rgb, 1, [[0, 0, 0]]⟩⟩⟩,
    .text ⟨4, "Next", some ⟨.internal, none⟩, []⟩]]

/-- What is listed of that deck. -/
def mentions : List Mention :=
  [⟨1, "Box", .shapeLink, ⟨"block", none⟩⟩, ⟨1, "Box", .runLink, ⟨"warning", none⟩⟩, ⟨1, "Box", .text, ⟨"day", none⟩⟩,
    ⟨1, "Logo", .pictureLink, ⟨"logo", none⟩⟩]

/-- A deck of which nothing is listed. -/
def bare : Deck :=
  [[.text ⟨2, "Box", link "$/block/ ", [⟨[.run ⟨"$/day", link "$//", {}⟩, .lineBreak]⟩]⟩, .connector 3 "Line"]]

end SilenceWitness

open SilenceWitness in
/-- Mappings that know nothing of what is listed clear four directives, leave a deck without any, and leave a day in peace
that another mapping has put in. -/
theorem silent_fill_clears_directives_four :
    ((Deck.fill (mapping "other") deck).outcome = .ok ⟨0, 0⟩ ∧
      (Deck.fill (mapping "other") deck).after = deck.cleared ∧
      deck.cleared.map (List.map Shape.link) = [[none, none, some ⟨.internal, none⟩]] ∧
      deck.cleared.map (List.map fun x => x.paragraphs.map fun p => p.runs.map (·.link)) =
        [[[[none, link "https://x/"]], [], []]]) ∧
    ((Deck.fill (mapping "block") bare).outcome = .ok ⟨0, 0⟩ ∧ (Deck.fill (mapping "block") bare).after = bare) ∧
    (Deck.fill (mapping "day") deck).outcome = .ok ⟨0, 0⟩ ∧
      (Deck.fill (mapping "other") (Deck.fill (mapping "day") deck).after).after =
        (Deck.fill (mapping "day") deck).after := by
  obtain ⟨hlisted, hbare, htwice⟩ := silent_fill_clears_directives
  have hlist : Deck.variables deck = .ok mentions := eq_ok_of_toOption (by decide +kernel)
  have hnone : Deck.variables bare = .ok [] := eq_ok_of_toOption (by decide +kernel)
  have hfill : (Deck.fill (mapping "day") deck).outcome = .ok ⟨0, 0⟩ := eq_ok_of_toOption (by decide +kernel)
  have hsilent : ∀ x ∈ mentions, (mapping "other").hides x.var = false ∧ (mapping "other").text x.var = none := by
    decide +kernel
  have hfirst := hlisted (mapping "other") deck mentions hlist fun x hx =>
    ⟨(hsilent x hx).1, rfl, (hsilent x hx).2, rfl⟩
  refine ⟨⟨hfirst.1, hfirst.2, by decide +kernel, by decide +kernel⟩, hbare _ bare hnone, hfill, ?_⟩
  obtain ⟨left, hleft, hsecond⟩ := htwice (mapping "day") (mapping "other") deck _ hfill
  have hday : Deck.variables (Deck.fill (mapping "day") deck).after = .ok [⟨1, "Box", .text, ⟨"day", none⟩⟩] :=
    eq_ok_of_toOption (by decide +kernel)
  rw [hday, Except.ok.injEq] at hleft
  refine (hsecond fun x hx _ => ?_).2
  rw [← hleft, List.mem_singleton] at hx
  rw [hx]
  exact ⟨by decide +kernel, rfl, by decide +kernel, rfl⟩

end SlideFill
