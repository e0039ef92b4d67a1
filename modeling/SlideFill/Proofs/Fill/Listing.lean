import SlideFill.Listing
import SlideFill.Proofs.Fill.Asked
import SlideFill.Proofs.Fill.Secrecy

/-!
# What is listed and what a fill asks

The listing and the fill walk through a deck on their own. A paragraph asks about the directives of its runs, and then
about the variables in what is left of its text once hidden runs are empty (`Paragraph.fill_asked_eq`). So if nothing is
hidden, the fill asks about the variables that are listed, in the same order and in each channel what that channel
answers for, which is `fill_asks_what_is_listed`.
-/

namespace SlideFill

/-! ## The questions about a variable -/

/-- What is asked about a variable in a channel, in order, if nothing is hidden. -/
def Channel.queries : Channel → Variable → List Query
  | .shapeLink, v => [.hide v]
  | .pictureLink, v => [.hide v, .image v.name]
  | .runLink, v => [.style v.name, .hide v]
  | .text, v => [.text v]

/-- The calls for a variable of a shape. -/
def Met.calls (x : Met) : List Call :=
  (x.channel.queries x.var).map (⟨x.channel, ·⟩)

/-- The requests for a variable of a deck. -/
def Mention.requests (x : Mention) : List Request :=
  (x.channel.queries x.var).map (⟨x.slide, x.shape, x.channel, ·⟩)

/-- The variable that a request resolves. A name alone, as styles and images go by, does not tell it. -/
def Request.mention? (r : Request) : Option Mention :=
  match r.query with
  | .hide v => some ⟨r.slide, r.shape, r.channel, v⟩
  | .text v => some ⟨r.slide, r.shape, r.channel, v⟩
  | .style _ => none
  | .image _ => none

/-- Each variable is resolved by one of the requests for it. -/
theorem Mention.requests_mentions (x : Mention) : x.requests.filterMap Request.mention? = [x] := by
  obtain ⟨slide, shape, channel, v⟩ := x
  cases channel <;> rfl

/-- The mentions can be read off what is asked about them. -/
theorem Mention.flatMap_requests_mentions (mentions : List Mention) :
    (mentions.flatMap Mention.requests).filterMap Request.mention? = mentions := by
  rw [List.filterMap_flatMap]
  simp only [Mention.requests_mentions]
  exact List.flatMap_singleton' mentions

/-- A mapping that agrees on a variable answers alike whatever is asked about it in a channel. -/
theorem Mapping.AgreesOn.answersAlike {m m' : Mapping} {v : Variable} (h : m.AgreesOn m' v) {channel : Channel}
    {query : Query} (hquery : query ∈ channel.queries v) : m.AnswersAlike m' query := by
  have hstyle : m.AnswersAlike m' (.style v.name) := h.style
  have hhide : m.AnswersAlike m' (.hide v) := h.hides
  have himage : m.AnswersAlike m' (.image v.name) := h.image
  have htext : m.AnswersAlike m' (.text v) := h.text
  cases channel <;> simp only [Channel.queries, List.mem_cons, List.not_mem_nil, or_false] at hquery
  · rwa [hquery]
  · rcases hquery with rfl | rfl <;> assumption
  · rcases hquery with rfl | rfl <;> assumption
  · rwa [hquery]

/-! ## The listing in closed form -/

/-- The directive of a run, as it is listed. -/
def Run.directive? (r : Run) : Option Met :=
  r.variable?.map (⟨.runLink, ·⟩)

/-- The directive of an item: only runs have one. -/
def Item.directive? : Item → Option Met
  | .run r => r.directive?
  | _ => none

/-- The directives of the runs of a paragraph. -/
def Paragraph.directives (p : Paragraph) : List Met :=
  p.items.filterMap Item.directive?

/-- The variables in the text of a paragraph, as they are listed. -/
def Paragraph.textual (p : Paragraph) : List Met :=
  (Variable.occurrences p.joined).map fun o => ⟨.text, o.var⟩

/-- A paragraph lists the directives of its runs first, then the variables in its text. -/
theorem Paragraph.variables_eq (p : Paragraph) : p.variables = p.directives ++ p.textual := by
  have hruns : p.runs.filterMap Run.directive? = p.directives := by
    rw [runs, directives, List.filterMap_filterMap]
    congr 1
    funext item
    cases item <;> rfl
  rw [← hruns]
  rfl

namespace Shape

/-- The channel of the link of a shape. -/
def linkChannel : Shape → Channel
  | picture _ => .pictureLink
  | _ => .shapeLink

/-- The directive of a shape, as it is listed. -/
def directive? (s : Shape) : Option Met :=
  (linkVariable? s.link).map (⟨s.linkChannel, ·⟩)

/-- The variables of a shape, its directive first. -/
def mets (s : Shape) : List Met :=
  s.directive?.toList ++ s.paragraphs.flatMap Paragraph.variables

/-- A shape has its variables listed if its link can be read. -/
theorem variables_eq (s : Shape) : Shape.variables s = (shapeVariable s.link).map fun _ => s.mets := by
  cases s with
  | text box =>
    rw [Shape.variables, linkVariables, mets, directive?, link]
    cases h : shapeVariable box.link with
    | error e => rfl
    | ok v =>
      rw [linkVariable?_of_ok h]
      cases v <;> rfl
  | table t =>
    simp only [Shape.variables, mets, paragraphs, bodyVariables, List.flatMap_assoc, List.flatten_eq_flatMap]
    rfl
  | picture p =>
    rw [Shape.variables, linkVariables, mets, directive?, link]
    cases h : shapeVariable p.link with
    | error e => rfl
    | ok v =>
      rw [linkVariable?_of_ok h]
      cases v <;> rfl
  | connector id name => rfl
  | group id name children => rfl

/-- What a shape has listed are the variables that are met in it. -/
theorem variables_eq_ok {s : Shape} {mets : List Met} :
    Shape.variables s = .ok mets ↔ (shapeVariable s.link).isOk ∧ s.mets = mets := by
  rw [variables_eq, map_eq_ok, isOk_iff, exists_and_right]

end Shape

/-- The variables of a slide with a number. -/
def Slide.mentions (number : Nat) (s : Slide) : List Mention :=
  s.flatMap fun x => x.mets.map fun y => ⟨number, x.name, y.channel, y.var⟩

/-- The variables of slides, the first having a number. -/
def Deck.mentionsFrom (number : Nat) (d : Deck) : List Mention :=
  (d.zipIdx number).flatMap fun x => Slide.mentions x.2 x.1

/-- The first slide is mentioned first. -/
theorem Deck.mentionsFrom_cons (number : Nat) (s : Slide) (rest : Deck) :
    mentionsFrom number (s :: rest) = Slide.mentions number s ++ mentionsFrom (number + 1) rest := by
  rw [mentionsFrom, List.zipIdx_cons, List.flatMap_cons, mentionsFrom]

/-- Whether no link of a shape leads to a relationship that does not exist. -/
def Deck.IsLinked (d : Deck) : Prop :=
  ∀ s ∈ d, ∀ x ∈ s, (shapeVariable x.link).isOk

/-- What a slide has listed are its mentions, if all links can be read. -/
theorem Slide.variables_eq_ok {number : Nat} {s : Slide} {mentions : List Mention} :
    Slide.variables number s = .ok mentions ↔
      (∀ x ∈ s, (shapeVariable x.link).isOk) ∧ Slide.mentions number s = mentions := by
  induction s generalizing mentions with
  | nil => simp [Slide.variables, Slide.mentions]
  | cons x rest ih =>
    simp only [Slide.variables, bind_eq_ok, map_eq_ok, Shape.variables_eq_ok, ih, List.forall_mem_cons]
    constructor
    · rintro ⟨mets, ⟨hlink, rfl⟩, others, ⟨hrest, rfl⟩, rfl⟩
      exact ⟨⟨hlink, hrest⟩, rfl⟩
    · rintro ⟨⟨hlink, hrest⟩, rfl⟩
      exact ⟨x.mets, ⟨hlink, rfl⟩, _, ⟨hrest, rfl⟩, rfl⟩

/-- What slides have listed are their mentions, if all links can be read. -/
theorem Deck.variablesFrom_eq_ok {number : Nat} {d : Deck} {mentions : List Mention} :
    Deck.variablesFrom number d = .ok mentions ↔ d.IsLinked ∧ Deck.mentionsFrom number d = mentions := by
  induction d generalizing number mentions with
  | nil => simp [variablesFrom, mentionsFrom, IsLinked]
  | cons s rest ih =>
    simp only [variablesFrom, bind_eq_ok, map_eq_ok, Slide.variables_eq_ok, ih, IsLinked, List.forall_mem_cons]
    constructor
    · rintro ⟨first, ⟨hfirst, rfl⟩, others, ⟨hrest, rfl⟩, rfl⟩
      exact ⟨⟨hfirst, hrest⟩, rfl⟩
    · rintro ⟨⟨hfirst, hrest⟩, rfl⟩
      exact ⟨_, ⟨hfirst, rfl⟩, _, ⟨hrest, rfl⟩, rfl⟩

/-! ## Texts without what is hidden -/

/-- Of a run that is directed as much text is left as of one that is blanked. -/
theorem Item.directed_text (m : Mapping) (item : Item) : (item.directed m).text? = (item.blank m).text? := by
  cases item with
  | run r =>
    refine congrArg some ?_
    rw [Run.directed, Run.blank, Run.isHidden]
    cases r.variable? with
    | none => rfl
    | some v => cases h : m.hides v <;> simp [h]
  | lineBreak => rfl
  | field text => rfl

namespace Paragraph

/-- A paragraph as it is searched for variables: the texts of its hidden runs are gone, unless it goes as a whole. -/
def remaining (m : Mapping) (p : Paragraph) : Paragraph :=
  if p.runs.length == 1 then p else p.blank m

/-- The text of a paragraph is that of its runs. -/
theorem joined_congr {p q : Paragraph} (h : p.items.map Item.text? = q.items.map Item.text?) :
    p.joined = q.joined := by
  have htexts := congrArg (List.filterMap id) h
  rw [List.filterMap_map, List.filterMap_map, Function.id_comp, ← runs_texts, ← runs_texts] at htexts
  rw [joined, joined, htexts]

/-- Once links have been followed, a paragraph has the text that remains of it. -/
theorem directed_joined {m : Mapping} {p : Paragraph} (hstyles : ∀ item ∈ p.items, item.styleFault? m = none) :
    (p.directed m).joined = (p.remaining m).joined := by
  apply joined_congr
  cases halone : p.runs.length == 1 with
  | true =>
    rw [directed_texts_of_alone hstyles halone, remaining, if_pos halone]
  | false =>
    have hstays : p.isDoomed m = false := by rw [isDoomed, halone, Bool.false_and]
    rw [directed_of_not_doomed hstyles hstays, remaining, if_neg (by simp [halone]), blank, List.map_map, List.map_map]
    apply List.map_congr_left
    intro item _
    exact item.directed_text m

/-- Without its hidden run, a paragraph can spell another variable. -/
example :
    (remaining { Mapping.silent with hide := fun _ => some true }
      ⟨[.run ⟨"$/a", none, {}⟩, .run ⟨"X", some ⟨.external "$/h/", none⟩, {}⟩, .run ⟨"/", none, {}⟩]⟩).joined =
        "$/a/" := by
  decide +kernel

/-- The variables in a paragraph are those in its text. -/
theorem textual_congr {p q : Paragraph} (h : p.joined = q.joined) : p.textual = q.textual := by
  rw [textual, textual, h]

/-- Where nothing is hidden, the whole paragraph is searched. -/
theorem remaining_eq_self {m : Mapping} (hm : ∀ v, m.hides v = false) (p : Paragraph) : p.remaining m = p := by
  have hitem : ∀ item : Item, item.blank m = item := by
    intro item
    cases item with
    | run r =>
      have hshown : ¬r.isHidden m := by cases hv : r.variable? <;> simp [Run.isHidden, hv, hm]
      rw [Item.blank, Run.blank, if_neg hshown]
    | lineBreak => rfl
    | field text => rfl
  rw [remaining, blank, funext hitem, List.map_id', ite_self]

end Paragraph

/-! ## What is asked in a part -/

variable {m : Mapping}

/-- An item that can be styled asks about its directive. -/
theorem Item.direct_asked {alone : Bool} {item : Item} (h : item.styleFault? m = none) :
    (item.direct m alone).asked = item.directive?.toList.flatMap Met.calls := by
  cases item with
  | run r =>
    have hfault : r.styleFault? m = none := h
    rw [direct, Passage.mapAfter, Run.direct_asked, hfault, directive?, Run.directive?]
    cases r.variable? <;> rfl
  | lineBreak => rfl
  | field text => rfl

namespace Paragraph

/-- Searching a paragraph asks about the variables in its text. -/
theorem textCalls_eq (p : Paragraph) : p.textCalls = p.textual.flatMap Met.calls := by
  rw [textCalls, textual, List.flatMap_map, List.map_eq_flatMap]
  rfl

/-- A paragraph whose runs can be styled asks about the directives of its runs, and then about the variables in what is
left of its text. -/
theorem fill_asked_eq {p : Paragraph} (hstyles : ∀ item ∈ p.items, item.styleFault? m = none) :
    (p.fill m).asked = (p.directives ++ (p.remaining m).textual).flatMap Met.calls := by
  have hok : (Passage.each (Item.direct m (p.runs.length == 1)) p.items).outcome.isOk :=
    Passage.each_isOk_iff.mpr fun item hitem => Item.direct_isOk_iff.mpr (hstyles item hitem)
  have hdirectives : (Passage.each (Item.direct m (p.runs.length == 1)) p.items).asked =
      p.directives.flatMap Met.calls := by
    rw [Passage.each_asked hok, directives, List.filterMap_eq_flatMap_toList, List.flatMap_assoc]
    exact List.flatMap_congr fun item hitem => Item.direct_asked (hstyles item hitem)
  rw [fill_asked, List.flatMap_append, ← textual_congr (directed_joined hstyles), ← textCalls_eq]
  simp only [hdirectives, hok, if_true]
  rfl

end Paragraph

/-! ## What is asked in a shape -/

/-- A body of text that is filled asks what its paragraphs ask. -/
theorem fillBody_asked_eq {body : List Paragraph} (h : (fillBody m body).outcome.isOk) :
    (fillBody m body).asked = body.flatMap fun p => (p.fill m).asked := by
  rw [fillBody_asked, Passage.each_asked (Passage.each_isOk_iff.mpr (fillBody_isOk_iff.mp h))]

/-- A cell that is filled asks what its paragraphs ask. -/
theorem fillCell_asked_eq {cell : Option (List Paragraph)} (h : (fillCell m cell).outcome.isOk) :
    (fillCell m cell).asked = (cell.getD []).flatMap fun p => (p.fill m).asked := by
  cases cell with
  | none => rfl
  | some body => exact fillBody_asked_eq h

/-- A table that is filled asks what the paragraphs in its cells ask. -/
theorem Table.fill_asked_eq {t : Table} (h : (t.fill m).outcome.isOk) :
    (t.fill m).asked = (Shape.table t).paragraphs.flatMap fun p => (p.fill m).asked := by
  have hrows : (Passage.each (Passage.each (fillCell m)) t.rows).outcome.isOk := by simpa [fill] using h
  have hrow : ∀ row ∈ t.rows, (Passage.each (fillCell m) row).asked =
      row.flatMap fun cell => (cell.getD []).flatMap fun p => (p.fill m).asked := by
    intro row hrow
    have hcells := Passage.each_isOk_iff.mp hrows row hrow
    rw [Passage.each_asked hcells]
    exact List.flatMap_congr fun cell hcell => fillCell_asked_eq (Passage.each_isOk_iff.mp hcells cell hcell)
  rw [fill, Passage.each_asked hrows, List.flatMap_congr hrow]
  simp only [Shape.paragraphs, List.flatMap_assoc, List.flatten_eq_flatMap]
  rfl

namespace Shape

/-- A shape that is filled asks about its directive, and then what its paragraphs ask unless it is hidden. -/
theorem fill_asked_eq {s : Shape} (h : (s.fill m).outcome.isOk) (hshown : s.isHidden m = false) :
    (s.fill m).asked = s.directive?.toList.flatMap Met.calls ++ s.paragraphs.flatMap fun p => (p.fill m).asked := by
  -- The shape is shown, so a picture goes on to ask for its image, and a box for what is in its text.
  cases s with
  | text box =>
    obtain ⟨hlink, hparagraphs⟩ := TextBox.fill_isOk_iff.mp h
    obtain ⟨v, hv⟩ := isOk_iff.mp hlink
    have hbody := fillBody_asked_eq (fillBody_isOk_iff.mpr (hparagraphs hshown))
    rw [isHidden, link, linkVariable?_of_ok hv] at hshown
    rw [directive?, link, linkVariable?_of_ok hv]
    cases v with
    | none =>
      rw [fill, TextBox.fill, hv]
      exact hbody
    | some v =>
      rw [fill, TextBox.fill_of_shows hv hshown, hbody]
      rfl
  | table t => exact Table.fill_asked_eq h
  | picture p =>
    rw [fill, Picture.fill_outcome, isOk_map] at h
    obtain ⟨v, hv⟩ := isOk_iff.mp h
    rw [isHidden, link, linkVariable?_of_ok hv] at hshown
    rw [directive?, link, linkVariable?_of_ok hv]
    cases v with
    | none =>
      rw [fill, Picture.fill, hv]
      rfl
    | some v =>
      have hv' : m.hides v = false := hshown
      rw [fill, Picture.fill_of_variable hv, hv']
      rfl
  | connector id name => rfl
  | group id name children => rfl

/-- A shape that is filled asks about what is listed of it, if nothing is hidden. -/
theorem fill_asked_eq_mets {s : Shape} (hm : ∀ v, m.hides v = false) (h : (s.fill m).outcome.isOk) :
    (s.fill m).asked = s.mets.flatMap Met.calls := by
  have hshown : s.isHidden m = false := by cases hv : linkVariable? s.link <;> simp [isHidden, hv, hm]
  rw [fill_asked_eq h hshown, mets, List.flatMap_append, List.flatMap_assoc]
  congr 1
  apply List.flatMap_congr
  intro p hp
  have hstyles := (Paragraph.fill_isOk_iff.mp ((fill_isOk_iff.mp h).2 hshown p hp)).1
  rw [Paragraph.fill_asked_eq hstyles, p.remaining_eq_self hm, p.variables_eq]

end Shape

/-! ## What is asked in a deck -/

/-- A slide that is filled asks about what is listed of it, if nothing is hidden. -/
theorem Slide.fill_asked_eq_requests {number : Nat} {s : Slide} (hm : ∀ v, m.hides v = false)
    (h : (Slide.fill m number s).outcome.isOk) :
    (Slide.fill m number s).asked = (Slide.mentions number s).flatMap Mention.requests := by
  have hshapes := (Slide.fill_isOk_iff.mp h).1
  rw [Slide.fill_asked, Slide.read, Passage.each_asked ((Slide.read_isOk_iff number).mpr hshapes), Slide.mentions,
    List.flatMap_assoc]
  apply List.flatMap_congr
  intro x hx
  rw [Passage.mapAsked, Shape.fill_asked_eq_mets hm (hshapes x hx), List.map_flatMap, List.flatMap_map]
  apply List.flatMap_congr
  intro y _
  rw [Met.calls, List.map_map]
  rfl

/-- Slides that are filled ask about what is listed of them, if nothing is hidden. -/
theorem Deck.fillFrom_asked_eq_requests {number : Nat} {d : Deck} (hm : ∀ v, m.hides v = false)
    (h : (Deck.fillFrom m number d).outcome.isOk) :
    (Deck.fillFrom m number d).asked = (Deck.mentionsFrom number d).flatMap Mention.requests := by
  induction d generalizing number with
  | nil => rfl
  | cons s rest ih =>
    obtain ⟨t, ht⟩ := isOk_iff.mp (fillFrom_isOk_iff.mp h s List.mem_cons_self)
    rw [fillFrom_cons_ok ht, isOk_map] at h
    rw [fillFrom_cons_ok ht, ih h, Slide.fill_asked_eq_requests hm (isOk_iff.mpr ⟨t, ht⟩), mentionsFrom_cons,
      List.flatMap_append]

/-- If nothing is hidden, a fill that succeeds asks about what is listed and nothing else, in the same order: for a
shape's link whether to hide the shape, for a picture's also for an image, for a run's link for a style and whether to
hide the run, and for a variable in a text for its text. The variables so resolved are the listed ones, entry by entry.
No other answer matters: a mapping that answers the same to these questions fills the deck the same. -/
theorem fill_asks_what_is_listed (m : Mapping) (d : Deck) (mentions : List Mention)
    (hlist : Deck.variables d = .ok mentions) (hm : ∀ v, m.hides v = false) (t : Tally)
    (hfill : (Deck.fill m d).outcome = .ok t) :
    (Deck.fill m d).asked = mentions.flatMap Mention.requests ∧
      (Deck.fill m d).asked.filterMap Request.mention? = mentions ∧
      ∀ m' : Mapping, (∀ x ∈ mentions, ∀ r ∈ x.requests, m.AnswersAlike m' r.query) →
        Deck.fill m' d = Deck.fill m d := by
  have hok := Deck.fill_isOk_iff.mp (isOk_iff.mpr ⟨t, hfill⟩)
  have hasked : (Deck.fill m d).asked = mentions.flatMap Mention.requests := by
    rw [Deck.fill_asked, Deck.fillFrom_asked_eq_requests hm hok]
    exact congrArg (List.flatMap Mention.requests) (Deck.variablesFrom_eq_ok.mp hlist).2
  refine ⟨hasked, ?_, fun m' hm' => Deck.fill_congr ?_⟩
  · rw [hasked, Mention.flatMap_requests_mentions]
  · intro r hr
    rw [hasked, List.mem_flatMap] at hr
    obtain ⟨x, hx, hr⟩ := hr
    exact hm' x hx r hr

namespace ListingWitness

/-- A directive for a name. -/
def link (name : String) : Option Link :=
  some ⟨.external ("$/" ++ name ++ "/"), none⟩

/-- A deck with variables in all places: the links of a box, a run and a picture, and the texts of a box and a cell. -/
def deck : Deck :=
  [[],
    [.text ⟨2, "Box", link "block", [⟨[.run ⟨"Dear $/us", none, {}⟩, .lineBreak, .run ⟨"er/", link "warning", {}⟩]⟩]⟩,
      .connector 3 "Line",
      .picture ⟨4, "Logo", link "logo", none, ⟨.png, ⟨.rgb, 1, [[0, 0, 0]]⟩⟩⟩,
      .table ⟨5, "Table", [[none, some [⟨[.run ⟨"$/owner:'x'/", none, {}⟩]⟩]]]⟩]]

/-- What is listed of that deck. -/
def mentions : List Mention :=
  [⟨2, "Box", .shapeLink, ⟨"block", none⟩⟩, ⟨2, "Box", .runLink, ⟨"warning", none⟩⟩, ⟨2, "Box", .text, ⟨"user", none⟩⟩,
    ⟨2, "Logo", .pictureLink, ⟨"logo", none⟩⟩, ⟨2, "Table", .text, ⟨"owner", some "x"⟩⟩]

/-- A mapping that hides nothing, and has a style and two texts. -/
def mapping (day : String) : Mapping :=
  { Mapping.silent with
    hide := fun _ => some false
    style := fun name => if name = "warning" then some { bold := some true } else none
    text := fun v => if v.name = "user" then some "Eve" else if v.name = "day" then some day else none }

end ListingWitness

open ListingWitness in
/-- A fill asks about variables in each channel and at each place, and Tuesday fills the deck as Monday does. -/
theorem fill_asks_what_is_listed_everywhere :
    Deck.variables deck = .ok mentions ∧ (Deck.fill (mapping "Monday") deck).outcome = .ok ⟨0, 0⟩ ∧
      (Deck.fill (mapping "Monday") deck).asked = mentions.flatMap Mention.requests ∧
      (Deck.fill (mapping "Monday") deck).asked.filterMap Request.mention? = mentions ∧
      Deck.fill (mapping "Tuesday") deck = Deck.fill (mapping "Monday") deck := by
  have hlist : Deck.variables deck = .ok mentions := eq_ok_of_toOption (by decide +kernel)
  have hfill : (Deck.fill (mapping "Monday") deck).outcome = .ok ⟨0, 0⟩ := eq_ok_of_toOption (by decide +kernel)
  have htexts : ∀ x ∈ mentions, (mapping "Tuesday").text x.var = (mapping "Monday").text x.var := by decide +kernel
  obtain ⟨hasked, hmentions, hsame⟩ :=
    fill_asks_what_is_listed (mapping "Monday") deck mentions hlist (fun _ => rfl) _ hfill
  refine ⟨hlist, hfill, hasked, hmentions, hsame (mapping "Tuesday") fun x hx r hr => ?_⟩
  obtain ⟨query, hquery, rfl⟩ := List.mem_map.mp hr
  have hagree : (mapping "Monday").AgreesOn (mapping "Tuesday") x.var := ⟨rfl, rfl, htexts x hx, rfl⟩
  exact hagree.answersAlike hquery

end SlideFill
