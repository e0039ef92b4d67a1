import SlideFill.Proofs.Fill.Shape
import SlideFill.Proofs.Fill.Substitution

/-!
# Filling text in one pass

Filling a body of text follows the links of all runs, then substitutes in each paragraph, and takes paragraphs out at the
end. `fillBody_in_one_pass` says that this comes to going through the body once: a paragraph whose only run is hidden
disappears, and of any other each run is given its link, its font and its text at once. It does so only if all runs can
be given their texts (`fillBody_in_one_pass_always_false`).
-/

namespace SlideFill

/-- The text that a run has once it has been given one: control characters are written out. A text that the run has
already stays as it is. -/
def givenText (old new : String) : String :=
  if old = new then new else String.ofList (new.toList.flatMap escapeControl)

namespace Run

/-- The text of a run without what is hidden. -/
def shownText (m : Mapping) (r : Run) : String :=
  if r.isHidden m then "" else r.text

/-- A run in one pass, `text` being what substitution makes of its text. It loses its link if that is a variable, and
takes the font that the style of this variable gives, if there is a style. -/
def inOnePass (m : Mapping) (r : Run) (text : String) : Run where
  text := givenText (r.shownText m) text
  link := if r.variable?.isSome then none else r.link
  font :=
    match r.variable?.bind fun v => m.style v.name with
    | some s => (s.apply r.font).1
    | none => r.font

end Run

/-- Items in one pass, with the texts for the runs among them. Breaks and fields stay. -/
def Item.inOnePassEach (m : Mapping) : List Item → List String → List Item
  | .run r :: items, text :: texts => .run (r.inOnePass m text) :: inOnePassEach m items texts
  | item :: items, texts => item :: inOnePassEach m items texts
  | [], _ => []

namespace Paragraph

/-- Whether a paragraph disappears: it has exactly one run, and that is hidden. -/
def disappears (m : Mapping) (p : Paragraph) : Bool :=
  match p.runs with
  | [r] => r.isHidden m
  | _ => false

/-- A paragraph in one pass. Variables are substituted in the texts of its runs without what is hidden. -/
def inOnePass (m : Mapping) (p : Paragraph) : Paragraph :=
  ⟨Item.inOnePassEach m p.items (SlideFill.substitute m.askText (p.runs.map (Run.shownText m))).answer.1⟩

/-- The texts in which variables are substituted. In a paragraph that disappears, nothing is taken away from them. -/
def textsRead (m : Mapping) (p : Paragraph) : List String :=
  if p.disappears m then p.runs.map (·.text) else p.runs.map (Run.shownText m)

/-- Whether all runs of a paragraph can be given what substitution makes of their texts: texts that they have already, or
such as a deck can hold. -/
def AcceptsTexts (m : Mapping) (p : Paragraph) : Prop :=
  ∀ x ∈ (p.textsRead m).zip (SlideFill.substitute m.askText (p.textsRead m)).answer.1,
    x.1 = x.2 ∨ isStorableText (givenText x.1 x.2)

instance (m : Mapping) (p : Paragraph) : Decidable (p.AcceptsTexts m) :=
  inferInstanceAs (Decidable (∀ x ∈ (p.textsRead m).zip (SlideFill.substitute m.askText (p.textsRead m)).answer.1,
    x.1 = x.2 ∨ isStorableText (givenText x.1 x.2)))

end Paragraph

/-! ## Giving texts -/

/-- A run is given a text that it has already, or such as a deck can hold; any other leaves it empty. -/
theorem Run.updateText_eq (r : Run) (text : String) :
    r.updateText text =
      if r.text = text ∨ isStorableText (givenText r.text text) then ({ r with text := givenText r.text text }, .ok ())
      else ({ r with text := "" }, .error .unstorableText) := by
  unfold updateText givenText
  by_cases hsame : r.text = text
  · simp [← hsame]
  · have hset : r.setText text = { r with text := String.ofList (text.toList.flatMap escapeControl) } := rfl
    have hempty : r.setText "" = { r with text := "" } := rfl
    simp only [hsame, false_or, if_false, hset, hempty]

/-- Items take texts exactly if each of the runs among them can be given its own. -/
theorem updateTexts_isOk_iff {items : List Item} {texts : List String} :
    (updateTexts items texts).2.isOk ↔
      ∀ x ∈ (items.filterMap Item.text?).zip texts, x.1 = x.2 ∨ isStorableText (givenText x.1 x.2) := by
  induction items generalizing texts with
  | nil => simp [updateTexts]
  | cons item rest ih =>
    cases item with
    | run r =>
      cases texts with
      | nil => simp [updateTexts]
      | cons text texts =>
        have hzip : ((Item.run r :: rest).filterMap Item.text?).zip (text :: texts) =
            (r.text, text) :: (rest.filterMap Item.text?).zip texts := rfl
        rw [updateTexts_cons_run, hzip, List.forall_mem_cons, ← ih, Run.updateText_eq]
        by_cases hr : r.text = text ∨ isStorableText (givenText r.text text)
        · simp only [hr, true_and]
          rfl
        · simp [hr, Except.bind]
    | lineBreak =>
      rw [updateTexts_cons_fixed rfl]
      exact ih
    | field text =>
      rw [updateTexts_cons_fixed rfl]
      exact ih

/-! ## Runs and items -/

variable {m : Mapping}

/-- Following the link of a run leaves the text that it shows. -/
theorem Run.directed_text (r : Run) : (r.directed m).text = r.shownText m := by
  unfold directed shownText isHidden
  cases r.variable? with
  | none => rfl
  | some v => simp

/-- A run whose link has been followed is the run in one pass but for its text. -/
theorem Run.directed_given (r : Run) (text : String) :
    { r.directed m with text := givenText (r.directed m).text text } = r.inOnePass m text := by
  rw [directed_text]
  unfold directed inOnePass
  cases hv : r.variable? with
  | none => rfl
  | some v =>
    simp only [Option.isSome_some, if_true, Option.bind_some, mk.injEq, true_and]
    unfold Mapping.restyle
    cases m.style v.name <;> rfl

/-- Following links leaves the texts that are shown. -/
theorem Item.directed_texts (items : List Item) :
    (items.map (Item.directed m)).filterMap Item.text? = (items.filterMap Paragraph.runOf?).map (Run.shownText m) := by
  rw [List.filterMap_map, List.map_filterMap]
  congr 1
  funext item
  cases item with
  | run r => exact congrArg some r.directed_text
  | lineBreak => rfl
  | field text => rfl

/-- Items whose links have been followed are the items in one pass once they have taken their texts. -/
theorem updateTexts_directed {items : List Item} {texts : List String}
    (hlength : texts.length = (items.filterMap Paragraph.runOf?).length)
    (h : (updateTexts (items.map (Item.directed m)) texts).2.isOk) :
    (updateTexts (items.map (Item.directed m)) texts).1 = Item.inOnePassEach m items texts := by
  -- Items and texts are walked together; breaks and fields take no text, so they do not advance the texts.
  induction items generalizing texts with
  | nil => rfl
  | cons item rest ih =>
    cases item with
    | run r =>
      cases texts with
      | nil => cases hlength
      | cons text texts =>
        rw [List.map_cons, Item.directed, updateTexts, Run.updateText_eq] at h ⊢
        by_cases hr : (r.directed m).text = text ∨ isStorableText (givenText (r.directed m).text text)
        · simp only [if_pos hr] at h ⊢
          rw [ih (Nat.succ.inj hlength) h, Run.directed_given]
          rfl
        · simp only [if_neg hr] at h
          cases h
    | lineBreak =>
      rw [List.map_cons, updateTexts_cons_fixed rfl] at h ⊢
      exact congrArg (_ :: ·) (ih hlength h)
    | field text =>
      rw [List.map_cons, updateTexts_cons_fixed rfl] at h ⊢
      exact congrArg (_ :: ·) (ih hlength h)

/-- The runs among items in one pass are the runs in one pass, each with its text. -/
theorem Item.runs_inOnePassEach {items : List Item} {texts : List String}
    (hlength : texts.length = (items.filterMap Paragraph.runOf?).length) :
    (Item.inOnePassEach m items texts).filterMap Paragraph.runOf? =
      List.zipWith (Run.inOnePass m) (items.filterMap Paragraph.runOf?) texts := by
  induction items generalizing texts with
  | nil => rfl
  | cons item rest ih =>
    cases item with
    | run r =>
      cases texts with
      | nil => cases hlength
      | cons text texts => exact congrArg (_ :: ·) (ih (Nat.succ.inj hlength))
    | lineBreak => exact ih hlength
    | field text => exact ih hlength

/-! ## What substitution makes of texts -/

/-- Each text is given one. -/
theorem length_substitute (ask : Variable → Asked (Option String)) (texts : List String) :
    (substitute ask texts).answer.1.length = texts.length := by
  rw [substitute_answer, List.length_map, Edit.length_rewriteEach, List.length_map]

/-- No variable starts in an empty text, so it stays empty. -/
theorem substitute_empty (ask : Variable → Asked (Option String)) {texts : List String} {k : Nat}
    (h : texts[k]? = some "") : (substitute ask texts).answer.1[k]? = some "" := by
  rw [substitute_answer, List.getElem?_map, getElem?_rewriteEach, List.getElem?_map, h]
  rfl

/-! ## Paragraphs -/

namespace Paragraph

/-- The paragraphs that a fill takes away are those that disappear. -/
theorem isDoomed_eq_disappears (m : Mapping) (p : Paragraph) : p.isDoomed m = p.disappears m := by
  have hany : p.items.any (Item.isHidden m) = p.runs.any (Run.isHidden m) := by
    rw [runs, List.any_filterMap]
    congr 1
    funext item
    cases item <;> rfl
  rw [isDoomed, disappears, hany]
  cases p.runs with
  | nil => rfl
  | cons r rest =>
    cases rest with
    | nil => simp
    | cons r' rest => simp

variable {p : Paragraph}

/-- Once the links have been followed, the texts are those that are read. -/
theorem directed_textsRead (hstyles : ∀ item ∈ p.items, item.styleFault? m = none) :
    (p.directed m).items.filterMap Item.text? = p.textsRead m := by
  rw [textsRead, ← isDoomed_eq_disappears]
  cases hdoomed : p.isDoomed m with
  | true =>
    have htexts := congrArg (List.filterMap id) (directed_texts hstyles hdoomed)
    rw [List.filterMap_map, List.filterMap_map, Function.id_comp] at htexts
    rw [htexts, if_pos rfl, runs_texts]
  | false =>
    rw [directed_of_not_doomed hstyles hdoomed, if_neg Bool.false_ne_true]
    exact Item.directed_texts p.items

/-- A paragraph whose styles do not fail is filled if it accepts its texts. -/
theorem fill_isOk_iff_acceptsTexts (hstyles : ∀ item ∈ p.items, item.styleFault? m = none) :
    (p.fill m).outcome.isOk ↔ p.AcceptsTexts m := by
  rw [fill_isOk_iff, and_iff_right hstyles, substitute, Passage.asking_outcome, isOk_map, updateTexts, updateTexts_isOk_iff, runs_texts,
    directed_textsRead hstyles, AcceptsTexts]

/-- A paragraph that stays is filled as in one pass. -/
theorem fill_after_eq_inOnePass (hok : (p.fill m).outcome.isOk) (hstays : p.disappears m = false) :
    (p.fill m).after = p.inOnePass m := by
  obtain ⟨hstyles, hsubstitute⟩ := fill_isOk_iff.mp hok
  have hread := directed_textsRead hstyles
  rw [textsRead, hstays, if_neg Bool.false_ne_true] at hread
  rw [fill_after hok]
  rw [substitute, Passage.asking_outcome, isOk_map, updateTexts, runs_texts, hread] at hsubstitute
  rw [substitute, Passage.asking_after, updateTexts, runs_texts, hread]
  rw [← isDoomed_eq_disappears] at hstays
  rw [directed_of_not_doomed hstyles hstays] at hsubstitute ⊢
  rw [inOnePass, mk.injEq]
  refine updateTexts_directed ?_ hsubstitute
  rw [length_substitute, List.length_map]
  rfl

/-- A paragraph whose runs can be styled fails only with a text that a deck cannot hold. -/
theorem fill_error_of_styles (hstyles : ∀ item ∈ p.items, item.styleFault? m = none) {e : Fault}
    (h : (p.fill m).outcome = .error e) : e = .unstorableText := by
  have hitems : (Passage.each (Item.direct m (p.runs.length == 1)) p.items).outcome.isOk :=
    Passage.each_isOk_iff.mpr fun item hitem => Item.direct_isOk_iff.mpr (hstyles item hitem)
  obtain ⟨flags, hflags⟩ := isOk_iff.mp hitems
  rw [(fill_eq_of_ok hflags).2, map_eq_error] at h
  exact substitute_fault h

/-- A hidden run of a paragraph in one pass is empty. -/
theorem inOnePass_hidden {k : Nat} {r : Run} (hr : p.runs[k]? = some r) (hhidden : r.isHidden m) :
    ((p.inOnePass m).runs[k]?).map (·.text) = some "" := by
  have hshown : r.shownText m = "" := by rw [Run.shownText, if_pos hhidden]
  have htext : (SlideFill.substitute m.askText (p.runs.map (Run.shownText m))).answer.1[k]? = some "" := by
    apply substitute_empty
    rw [List.getElem?_map, hr, Option.map_some, hshown]
  have hlength : (SlideFill.substitute m.askText (p.runs.map (Run.shownText m))).answer.1.length = p.runs.length := by
    rw [length_substitute, List.length_map]
  rw [inOnePass, runs, Item.runs_inOnePassEach hlength, List.getElem?_zipWith, htext]
  have hr' : (p.items.filterMap runOf?)[k]? = some r := hr
  simp [hr', Run.inOnePass, hshown, givenText]

end Paragraph

/-! ## Bodies of text -/

/-- Only runs have styles that can fail. -/
theorem Item.styleFault?_of_runs {p : Paragraph} (h : ∀ r ∈ p.runs, r.styleFault? m = none) :
    ∀ item ∈ p.items, item.styleFault? m = none := by
  intro item hitem
  cases item with
  | run r => exact h r (List.mem_filterMap.mpr ⟨.run r, hitem, rfl⟩)
  | lineBreak => rfl
  | field text => rfl

/-- A body of text in one pass: the paragraphs that do not disappear, each of them in one pass. -/
def bodyInOnePass (m : Mapping) (body : List Paragraph) : List Paragraph :=
  (body.filter (!·.disappears m)).map (Paragraph.inOnePass m)

/-- A body of text whose paragraphs are filled is what going through it once makes of it. -/
theorem filledBody_eq_inOnePass {body : List Paragraph} (h : ∀ p ∈ body, (p.fill m).outcome.isOk) :
    filledBody m body = bodyInOnePass m body := by
  simp only [filledBody, bodyInOnePass, Paragraph.isDoomed_eq_disappears]
  apply List.map_congr_left
  intro p hp
  obtain ⟨hmem, hstays⟩ := List.mem_filter.mp hp
  exact Paragraph.fill_after_eq_inOnePass (h p hmem) (by simpa using hstays)

/-- A body of text that is filled is left as going through it once leaves it. -/
theorem fillBody_after_eq_inOnePass {body : List Paragraph} (hok : (fillBody m body).outcome.isOk) :
    (fillBody m body).after = bodyInOnePass m body := by
  rw [fillBody_after hok]
  exact filledBody_eq_inOnePass (fillBody_isOk_iff.mp hok)

/-- A body of text whose styles do not fail can only fail for a text. -/
theorem fillBody_error_of_styles {body : List Paragraph}
    (hstyles : ∀ p ∈ body, ∀ item ∈ p.items, item.styleFault? m = none) {e : Fault}
    (h : (fillBody m body).outcome = .error e) : e = .unstorableText := by
  cases hall : (Passage.each (Paragraph.fill m) body).outcome with
  | error e' =>
    obtain ⟨before, p, behind, rfl, -, hp, -⟩ := Passage.each_error hall
    rw [fillBody] at h
    simp only [hall, Except.error.injEq] at h
    subst h
    exact Paragraph.fill_error_of_styles (hstyles p (List.mem_append_right _ List.mem_cons_self)) hp
  | ok flags =>
    rw [fillBody] at h
    simp [hall] at h

/-! ## Shapes -/

namespace Shape

/-- A shape in one pass: without its directive, and with its bodies of text in one pass. -/
def inOnePass (m : Mapping) : Shape → Shape
  | text box => .text { box with link := settledLink box.link, body := bodyInOnePass m box.body }
  | table t => .table { t with rows := t.rows.map fun row => row.map fun cell => cell.map (bodyInOnePass m) }
  | picture p => .picture { p with link := settledLink p.link }
  | s => s

/-- A shape once it has been read: a hidden one has lost its directive and no more, any other one is what one pass makes
of it. -/
def asRead (m : Mapping) (s : Shape) : Shape :=
  if s.isHidden m then s.undirected else s.inOnePass m

/-- A shape that is shown and filled is what one pass makes of it. -/
theorem filled_eq_inOnePass {s : Shape} (h : (s.fill m).outcome.isOk) (hshown : s.isHidden m = false) :
    s.filled m = s.inOnePass m := by
  have hparagraphs := (fill_isOk_iff.mp h).2 hshown
  cases s with
  | text box =>
    have hbody : filledBody m box.body = bodyInOnePass m box.body := filledBody_eq_inOnePass hparagraphs
    rw [filled, inOnePass, hbody]
  | table t =>
    rw [filled, inOnePass,
      t.map_bodies_congr fun body hbody => filledBody_eq_inOnePass fun p hp => hparagraphs p (hbody p hp)]
  | picture p => rfl
  | connector id name => rfl
  | group id name children => rfl

/-- A shape that is filled is left as it is once it has been read. -/
theorem fill_after_asRead {s : Shape} (h : (s.fill m).outcome.isOk) : (s.fill m).after = s.asRead m := by
  rw [asRead]
  by_cases hhidden : s.isHidden m
  · rw [if_pos hhidden, fill_after_of_hidden hhidden]
  · have hshown : s.isHidden m = false := by simpa using hhidden
    rw [if_neg hhidden, fill_after h hshown, filled_eq_inOnePass h hshown]

/-- Filling a shape in one pass keeps what it is. -/
theorem inOnePass_keeps (m : Mapping) (s : Shape) : s.Keeps (s.inOnePass m) := by
  cases s with
  | text box => exact ⟨rfl, rfl⟩
  | table t => exact ⟨rfl, rfl⟩
  | picture p => exact rfl
  | connector id name => exact rfl
  | group id name children => exact rfl

/-- Reading a shape keeps what it is. -/
theorem asRead_keeps (m : Mapping) (s : Shape) : s.Keeps (s.asRead m) := by
  rw [asRead]
  split
  · exact s.undirected_keeps
  · exact s.inOnePass_keeps m

end Shape

/-! ## The body of text as a whole -/

/-- Filling a body of text whose runs can all be styled and given their texts leaves it as going through it once does: the
paragraphs whose only run is hidden have disappeared, and of the others each run has its link, its font and its text; so
a hidden run in one of them is empty. If a run cannot be given its text, that is the fault. -/
theorem fillBody_in_one_pass (m : Mapping) (body : List Paragraph)
    (hstyles : ∀ p ∈ body, ∀ r ∈ p.runs, r.styleFault? m = none) :
    ((∀ p ∈ body, p.AcceptsTexts m) →
      (fillBody m body).outcome = .ok () ∧
      (fillBody m body).after = (body.filter (!·.disappears m)).map (Paragraph.inOnePass m) ∧
      ∀ p ∈ body, p.disappears m = false → ∀ (k : Nat) (r : Run), p.runs[k]? = some r → r.isHidden m →
        p.inOnePass m ∈ (fillBody m body).after ∧ ((p.inOnePass m).runs[k]?).map (·.text) = some "") ∧
    ((∃ p ∈ body, ¬p.AcceptsTexts m) → (fillBody m body).outcome = .error .unstorableText) := by
  have hitems : ∀ p ∈ body, ∀ item ∈ p.items, item.styleFault? m = none :=
    fun p hp => Item.styleFault?_of_runs (hstyles p hp)
  refine ⟨fun haccepts => ?_, ?_⟩
  · have hfills : ∀ p ∈ body, (p.fill m).outcome.isOk :=
      fun p hp => (Paragraph.fill_isOk_iff_acceptsTexts (hitems p hp)).mpr (haccepts p hp)
    have hok := fillBody_isOk_iff.mpr hfills
    have hafter := fillBody_after_eq_inOnePass hok
    refine ⟨?_, hafter, ?_⟩
    · obtain ⟨u, hu⟩ := isOk_iff.mp hok
      exact hu
    · intro p hp hstays k r hr hhidden
      refine ⟨?_, Paragraph.inOnePass_hidden hr hhidden⟩
      rw [hafter]
      exact List.mem_map_of_mem (List.mem_filter.mpr ⟨hp, by simp [hstays]⟩)
  · rintro ⟨p, hp, hrefuses⟩
    -- Styles do not fail, so whatever stops the fill is a text; and it cannot succeed over a text that is refused.
    cases hout : (fillBody m body).outcome with
    | error e => rw [fillBody_error_of_styles hitems hout]
    | ok u =>
      have hok : (fillBody m body).outcome.isOk := by rw [hout]; rfl
      have hfills := fillBody_isOk_iff.mp hok p hp
      exact absurd ((Paragraph.fill_isOk_iff_acceptsTexts (hitems p hp)).mp hfills) hrefuses

/-- A link to a page is none of the template's: its run stays, even if it is alone and all variables are hidden. -/
example :
    (fillBody { Mapping.silent with hide := fun _ => some true }
      [⟨[.run ⟨"x", some ⟨.external "http://x/", none⟩, {}⟩]⟩]).after =
      [⟨[.run ⟨"x", some ⟨.external "http://x/", none⟩, {}⟩]⟩] := by
  decide +kernel

namespace OnePassWitness

/-- A mapping that hides what carries one variable, has a style for another one and a text for a third. -/
def mapping (text : String) : Mapping :=
  { Mapping.silent with
    hide := fun v => some (v.name == "secret")
    style := fun name => if name = "loud" then some { bold := some true } else none
    text := fun v => if v.name = "user" then some text else none }

/-- A link to a variable. -/
def directive (url : String) : Option Link :=
  some ⟨.external url, none⟩

/-- A paragraph with a hidden run amid a variable in the text, and with a run that carries a style. -/
def greeting : Paragraph :=
  ⟨[.run ⟨"Dear $/us", none, {}⟩, .run ⟨"x", directive "$/secret/", {}⟩, .lineBreak, .run ⟨"er/", directive "$/loud/", {}⟩,
    .field "3"]⟩

/-- A body of text in which two paragraphs around it disappear. -/
def body : List Paragraph :=
  [⟨[.run ⟨"y", directive "$/secret/", {}⟩, .lineBreak]⟩, greeting, ⟨[.run ⟨"z", directive "$/secret/", {}⟩]⟩]

end OnePassWitness

open OnePassWitness in
/-- A greeting in which runs are hidden, styled and substituted. -/
theorem fillBody_in_one_pass_greeting :
    (∀ p ∈ body, ∀ r ∈ p.runs, r.styleFault? (mapping "Bob") = none) ∧
    (∀ p ∈ body, p.AcceptsTexts (mapping "Bob")) ∧
    (fillBody (mapping "Bob") body).outcome = .ok () ∧
    (fillBody (mapping "Bob") body).after =
      [⟨[.run ⟨"Dear Bob", none, {}⟩, .run ⟨"", none, {}⟩, .lineBreak, .run ⟨"", none, { bold := some true }⟩,
        .field "3"]⟩] ∧
    (∃ p ∈ [greeting], ¬p.AcceptsTexts (mapping "\uFFFE")) ∧
    (fillBody (mapping "\uFFFE") [greeting]).outcome = .error .unstorableText := by
  have hstyles : ∀ p ∈ body, ∀ r ∈ p.runs, r.styleFault? (mapping "Bob") = none := by decide +kernel
  have haccepts : ∀ p ∈ body, p.AcceptsTexts (mapping "Bob") := by decide +kernel
  obtain ⟨hok, hafter, -⟩ := (fillBody_in_one_pass (mapping "Bob") body hstyles).1 haccepts
  have hone : (body.filter (!·.disappears (mapping "Bob"))).map (Paragraph.inOnePass (mapping "Bob")) =
      [⟨[.run ⟨"Dear Bob", none, {}⟩, .run ⟨"", none, {}⟩, .lineBreak, .run ⟨"", none, { bold := some true }⟩,
        .field "3"]⟩] := by decide +kernel
  have hstyles' : ∀ p ∈ [greeting], ∀ r ∈ p.runs, r.styleFault? (mapping "\uFFFE") = none := by decide +kernel
  have hrefuses : ∃ p ∈ [greeting], ¬p.AcceptsTexts (mapping "\uFFFE") := by decide +kernel
  exact ⟨hstyles, haccepts, hok, hafter.trans hone, hrefuses,
    (fillBody_in_one_pass (mapping "\uFFFE") [greeting] hstyles').2 hrefuses⟩

/-- Styles that can be applied are not enough: a run can be given a text that a deck cannot hold, and filling stops. -/
theorem fillBody_in_one_pass_always_false :
    ¬∀ (m : Mapping) (body : List Paragraph), (∀ p ∈ body, ∀ r ∈ p.runs, r.styleFault? m = none) →
      (fillBody m body).outcome = .ok () ∧
        (fillBody m body).after = (body.filter (!·.disappears m)).map (Paragraph.inOnePass m) := by
  intro h
  have hstyles : ∀ p ∈ [OnePassWitness.greeting], ∀ r ∈ p.runs, r.styleFault? (OnePassWitness.mapping "\uFFFE") = none := by
    decide +kernel
  have hfault : (fillBody (OnePassWitness.mapping "\uFFFE") [OnePassWitness.greeting]).outcome.isOk = false := by
    decide +kernel
  rw [(h _ _ hstyles).1] at hfault
  cases hfault

end SlideFill
