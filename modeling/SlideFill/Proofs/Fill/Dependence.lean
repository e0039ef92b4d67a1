import SlideFill.Proofs.Fill.Listing

/-!
# What a fill depends on

A fill asks about what is listed. If runs are hidden, their texts are gone before a paragraph is searched, and what is
left of it can spell a variable that is not listed. `fill_depends_on_listed` says that the answers for both make the
outcome; those for what is listed do not suffice (`fill_depends_on_listed_only_false`).
-/

namespace SlideFill

variable {m : Mapping}

/-! ## What is asked in a part -/

/-- An item asks about its directive only, even if styling it fails. -/
theorem Item.mem_direct_asked {alone : Bool} {item : Item} {c : Call} (h : c ∈ (item.direct m alone).asked) :
    ∃ x ∈ item.directive?, c ∈ x.calls := by
  cases item with
  | run r =>
    rw [direct, Passage.mapAfter, Run.direct_asked] at h
    rw [directive?, Run.directive?]
    cases hv : r.variable? with
    | none => simp [hv] at h
    | some v =>
      simp only [hv, List.mem_cons] at h
      refine ⟨⟨.runLink, v⟩, rfl, ?_⟩
      rcases h with rfl | h
      · exact List.mem_cons_self
      · split at h
        · cases h
        · exact List.mem_cons_of_mem _ h
  | lineBreak => cases h
  | field text => cases h

/-- A paragraph asks about nothing but its directives and what is left of its text, even if the work on it stops. -/
theorem Paragraph.mem_fill_asked {p : Paragraph} {c : Call} (h : c ∈ (p.fill m).asked) :
    ∃ x ∈ p.directives ++ (p.remaining m).textual, c ∈ x.calls := by
  by_cases hstyles : ∀ item ∈ p.items, item.styleFault? m = none
  · rwa [fill_asked_eq hstyles, List.mem_flatMap] at h
  · have hstopped : ¬(Passage.each (Item.direct m (p.runs.length == 1)) p.items).outcome.isOk := fun hok =>
      hstyles fun item hitem => Item.direct_isOk_iff.mp (Passage.each_isOk_iff.mp hok item hitem)
    simp only [fill_asked, hstopped, Bool.false_eq_true, if_false, List.append_nil] at h
    obtain ⟨item, hitem, hc⟩ := Passage.mem_each_asked h
    obtain ⟨x, hx, hc⟩ := Item.mem_direct_asked hc
    exact ⟨x, List.mem_append_left _ (List.mem_filterMap.mpr ⟨item, hitem, hx⟩), hc⟩

/-- Whatever is asked in a cell is asked in one of its paragraphs, even if the work on it stops. -/
theorem mem_fillCell_asked {cell : Option (List Paragraph)} {c : Call} (h : c ∈ (fillCell m cell).asked) :
    ∃ p ∈ cell.getD [], c ∈ (p.fill m).asked := by
  cases cell with
  | none => cases h
  | some body =>
    rw [fillCell, Passage.mapAfter, fillBody_asked] at h
    exact Passage.mem_each_asked h

/-- A shape asks about its directive, or what one of its paragraphs asks unless it is hidden, even if the work on it
stops. -/
theorem Shape.mem_fill_asked {s : Shape} {c : Call} (h : c ∈ (s.fill m).asked) :
    (∃ x ∈ s.directive?, c ∈ x.calls) ∨
      (s.isHidden m = false ∧ ∃ p ∈ s.paragraphs, c ∈ (p.fill m).asked) := by
  -- A hidden box asks about its link and then about nothing, which is why its text cannot matter.
  cases s with
  | text box =>
    rw [fill] at h
    cases hv : shapeVariable box.link with
    | error e => simp [TextBox.fill, hv] at h
    | ok v =>
      rw [directive?, isHidden, link, linkVariable?_of_ok hv]
      cases v with
      | none =>
        simp only [TextBox.fill, hv, TextBox.fillText, fillBody_asked] at h
        exact .inr ⟨rfl, Passage.mem_each_asked h⟩
      | some v =>
        cases hh : m.hides v with
        | true =>
          rw [TextBox.fill_of_hides hv hh] at h
          exact .inl ⟨⟨.shapeLink, v⟩, rfl, h⟩
        | false =>
          rw [TextBox.fill_of_shows hv hh, fillBody_asked, List.mem_cons] at h
          refine h.imp (fun h => ⟨⟨.shapeLink, v⟩, rfl, ?_⟩) fun h => ⟨hh, Passage.mem_each_asked h⟩
          exact List.mem_singleton.mpr h
  | table t =>
    obtain ⟨row, hrow, hc⟩ := Passage.mem_each_asked h
    obtain ⟨cell, hcell, hc⟩ := Passage.mem_each_asked hc
    obtain ⟨p, hp, hc⟩ := mem_fillCell_asked hc
    exact .inr ⟨rfl, p, List.mem_flatMap.mpr ⟨cell, List.mem_flatten.mpr ⟨row, hrow, hcell⟩, hp⟩, hc⟩
  | picture p =>
    rw [fill] at h
    cases hv : shapeVariable p.link with
    | error e => simp [Picture.fill, hv] at h
    | ok v =>
      rw [directive?, link, linkVariable?_of_ok hv]
      cases v with
      | none => simp [Picture.fill, hv] at h
      | some v =>
        rw [Picture.fill_of_variable hv, List.mem_cons] at h
        refine .inl ⟨⟨.pictureLink, v⟩, rfl, ?_⟩
        rcases h with rfl | h
        · exact List.mem_cons_self
        · split at h
          · cases h
          · exact List.mem_cons_of_mem _ h
  | connector id name => cases h
  | group id name children => cases h

/-! ## What is listed or left -/

/-- The variables that the paragraphs of a slide spell once the texts of hidden runs are gone. -/
def Slide.spelled (m : Mapping) (s : Slide) : List Variable :=
  (s.shown m).flatMap fun x => x.paragraphs.flatMap fun p => (p.remaining m).textual.map (·.var)

/-- The variables that the paragraphs of a deck spell once the texts of hidden runs are gone. -/
def Deck.spelled (m : Mapping) (d : Deck) : List Variable :=
  d.flatMap (Slide.spelled m)

/-- What a shape asks is about what is listed of it, or about what is left of a paragraph's text. -/
theorem Shape.mem_fill_asked_cases {s : Shape} {c : Call} (h : c ∈ (s.fill m).asked) :
    ∃ x : Met, c ∈ x.calls ∧
      (x ∈ s.mets ∨ (s.isHidden m = false ∧ ∃ p ∈ s.paragraphs, x ∈ (p.remaining m).textual)) := by
  rcases mem_fill_asked h with ⟨x, hx, hc⟩ | ⟨hshown, p, hp, hc⟩
  · exact ⟨x, hc, .inl (List.mem_append_left _ (Option.mem_toList.mpr hx))⟩
  · obtain ⟨x, hx, hc⟩ := Paragraph.mem_fill_asked hc
    refine ⟨x, hc, ?_⟩
    rcases List.mem_append.mp hx with hx | hx
    · refine .inl (List.mem_append_right _ (List.mem_flatMap.mpr ⟨p, hp, ?_⟩))
      rw [p.variables_eq]
      exact List.mem_append_left _ hx
    · exact .inr ⟨hshown, p, hp, hx⟩

/-- What a slide asks is about what is listed of it, or for the text of what is left of a paragraph's text. -/
theorem Slide.mem_fill_asked_cases {number : Nat} {s : Slide} {r : Request}
    (h : r ∈ (Slide.fill m number s).asked) :
    (∃ x ∈ Slide.mentions number s, r ∈ x.requests) ∨ ∃ v ∈ s.spelled m, r.query = .text v := by
  rw [Slide.fill_asked] at h
  obtain ⟨y, hy, hr⟩ := Passage.mem_each_asked h
  obtain ⟨c, hc, rfl⟩ := List.mem_map.mp hr
  obtain ⟨x, hcalls, hx⟩ := Shape.mem_fill_asked_cases hc
  obtain ⟨query, hquery, rfl⟩ := List.mem_map.mp hcalls
  rcases hx with hx | ⟨hshown, p, hp, hx⟩
  · refine .inl ⟨⟨number, y.name, x.channel, x.var⟩, ?_, List.mem_map_of_mem hquery⟩
    exact List.mem_flatMap.mpr ⟨y, hy, List.mem_map_of_mem hx⟩
  · have hshown : y ∈ s.shown m := List.mem_filter.mpr ⟨hy, by simp [hshown]⟩
    obtain ⟨o, -, rfl⟩ := List.mem_map.mp hx
    refine .inr ⟨o.var, ?_, List.mem_singleton.mp hquery⟩
    exact List.mem_flatMap.mpr ⟨y, hshown, List.mem_flatMap.mpr ⟨p, hp, List.mem_map_of_mem hx⟩⟩

/-- What slides ask is about what is listed of them, or for the text of what is left of a paragraph's text. -/
theorem Deck.mem_fillFrom_asked_cases {number : Nat} {d : Deck} {r : Request}
    (h : r ∈ (Deck.fillFrom m number d).asked) :
    (∃ x ∈ Deck.mentionsFrom number d, r ∈ x.requests) ∨ ∃ v ∈ d.spelled m, r.query = .text v := by
  induction d generalizing number with
  | nil => cases h
  | cons s rest ih =>
    have hasked : r ∈ (Slide.fill m number s).asked ∨ r ∈ (fillFrom m (number + 1) rest).asked := by
      cases hout : (Slide.fill m number s).outcome with
      | error e =>
        rw [fillFrom_cons_error hout] at h
        exact .inl h
      | ok t =>
        rw [fillFrom_cons_ok hout] at h
        exact List.mem_append.mp h
    rw [mentionsFrom_cons, spelled, List.flatMap_cons]
    rcases hasked with hr | hr
    · exact (Slide.mem_fill_asked_cases hr).imp
        (fun ⟨x, hx, hr⟩ => ⟨x, List.mem_append_left _ hx, hr⟩) fun ⟨v, hv, hr⟩ => ⟨v, List.mem_append_left _ hv, hr⟩
    · exact (ih hr).imp
        (fun ⟨x, hx, hr⟩ => ⟨x, List.mem_append_right _ hx, hr⟩) fun ⟨v, hv, hr⟩ => ⟨v, List.mem_append_right _ hv, hr⟩

/-- What a fill asks is about what is listed, or for the text of what is left of a paragraph's text. -/
theorem Deck.mem_fill_asked_cases {d : Deck} {mentions : List Mention} (hlist : Deck.variables d = .ok mentions)
    {r : Request} (h : r ∈ (Deck.fill m d).asked) :
    (∃ x ∈ mentions, r ∈ x.requests) ∨ ∃ v ∈ d.spelled m, r.query = .text v := by
  rw [Deck.fill_asked] at h
  rw [← (Deck.variablesFrom_eq_ok.mp hlist).2]
  exact mem_fillFrom_asked_cases h

/-- A fill depends on the answers for what is listed, and on the texts for the variables that paragraphs spell once the
texts of hidden runs are gone. Two mappings that agree on these come to the same fill: the same deck or the same fault.
-/
theorem fill_depends_on_listed (m m' : Mapping) (d : Deck) (mentions : List Mention)
    (hlist : Deck.variables d = .ok mentions) (hlisted : ∀ x ∈ mentions, m.AgreesOn m' x.var)
    (hspelled : ∀ v ∈ d.spelled m, m'.text v = m.text v) : Deck.fill m' d = Deck.fill m d := by
  apply Deck.fill_congr
  intro r hr
  rcases Deck.mem_fill_asked_cases hlist hr with ⟨x, hx, hr⟩ | ⟨v, hv, hquery⟩
  · obtain ⟨query, hquery, rfl⟩ := List.mem_map.mp hr
    exact (hlisted x hx).answersAlike hquery
  · rw [hquery]
    exact hspelled v hv

namespace DependenceWitness

/-- A directive for a name. -/
def link (name : String) : Option Link :=
  some ⟨.external ("$/" ++ name ++ "/"), none⟩

/-- A deck with a paragraph that spells another variable once its second run is gone. -/
def deck : Deck :=
  [[.text ⟨2, "Box", none, [⟨[.run ⟨"$/a", none, {}⟩, .run ⟨"X", link "secret", {}⟩, .run ⟨"/", none, {}⟩]⟩]⟩]]

/-- What is listed of that deck. -/
def mentions : List Mention :=
  [⟨1, "Box", .runLink, ⟨"secret", none⟩⟩, ⟨1, "Box", .text, ⟨"aX", none⟩⟩]

/-- What the deck has listed. -/
theorem deck_variables : Deck.variables deck = .ok mentions :=
  eq_ok_of_toOption (by decide +kernel)

/-- A mapping that hides that run and has a text for one name. -/
def mapping (name text : String) : Mapping :=
  { Mapping.silent with
    hide := fun v => some (v.name == "secret")
    text := fun v => if v.name = name then some text else none }

end DependenceWitness

open DependenceWitness in
/-- A day that the deck does not mention can be any day. -/
theorem fill_depends_on_listed_day :
    Deck.variables deck = .ok mentions ∧ deck.spelled (mapping "day" "Monday") = [⟨"a", none⟩] ∧
      Deck.fill (mapping "day" "Tuesday") deck = Deck.fill (mapping "day" "Monday") deck := by
  have hspelled : deck.spelled (mapping "day" "Monday") = [⟨"a", none⟩] := by decide +kernel
  have htexts : ∀ x ∈ mentions, (mapping "day" "Tuesday").text x.var = (mapping "day" "Monday").text x.var := by
    decide +kernel
  refine ⟨deck_variables, hspelled, ?_⟩
  refine fill_depends_on_listed _ _ deck mentions deck_variables (fun x hx => ⟨rfl, rfl, htexts x hx, rfl⟩) ?_
  rw [hspelled]
  decide +kernel

/-- The answers for what is listed do not make the outcome. With its second run hidden, the paragraph spells a variable
that is not listed, and two mappings that differ in the text for that one leave different decks. -/
theorem fill_depends_on_listed_only_false :
    ¬∀ (m m' : Mapping) (d : Deck) (mentions : List Mention), Deck.variables d = .ok mentions →
      (∀ x ∈ mentions, m.AgreesOn m' x.var) → (Deck.fill m d).outcome.isOk → (Deck.fill m' d).outcome.isOk →
      (Deck.fill m' d).after = (Deck.fill m d).after := by
  intro h
  have htexts : ∀ x ∈ DependenceWitness.mentions,
      (DependenceWitness.mapping "a" "2").text x.var = (DependenceWitness.mapping "a" "1").text x.var := by
    decide +kernel
  have hsame := h (DependenceWitness.mapping "a" "1") (DependenceWitness.mapping "a" "2") _ _
    DependenceWitness.deck_variables (fun x hx => ⟨rfl, rfl, htexts x hx, rfl⟩) (by decide +kernel) (by decide +kernel)
  have hjoined := congrArg (List.map fun s => s.flatMap fun x => x.paragraphs.map Paragraph.joined) hsame
  revert hjoined
  decide +kernel

end SlideFill
