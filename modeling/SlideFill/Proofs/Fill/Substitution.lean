import Mathlib.Algebra.GroupWithZero.Nat
import SlideFill.Fill.Text
import SlideFill.Proofs.Fill.Passage
import SlideFill.Proofs.Variable.Rewriting

/-!
# Substitution in a paragraph

`substitute_rewrites_runs` says run by run what substituting the variables of a paragraph comes to: each run is given
its characters outside the occurrences that have a value, and the values of those that start in it. A text that a deck
cannot hold ends the work, so it is not true that a paragraph takes all its texts whatever they are.
-/

namespace SlideFill

/-- The edits that a mapping makes in a paragraph: one for each occurrence in the joined text that has a value. -/
def Paragraph.edits (m : Mapping) (p : Paragraph) : List Edit :=
  (editsOf m.askText p.joined).answer

namespace Run

/-- The text of a run that starts at an offset, once edits are made. -/
def rewrittenText (edits : List Edit) (i : Nat) (r : Run) : String :=
  String.ofList (Edit.rewrite edits i r.text.toList)

/-- The run that starts at an offset, once edits are made. Only a text that becomes another one is set. -/
def rewritten (edits : List Edit) (i : Nat) (r : Run) : Run :=
  if r.text = r.rewrittenText edits i then r else r.setText (r.rewrittenText edits i)

/-- Whether a run that starts at an offset can be given its text: it has it already, or a deck can hold it. -/
def canTake (edits : List Edit) (i : Nat) (r : Run) : Bool :=
  r.text = r.rewrittenText edits i || isStorableText (r.setText (r.rewrittenText edits i)).text

end Run

namespace Item

/-- How many characters an item has in the joined text of its paragraph. -/
def width : Item → Nat
  | .run r => r.text.length
  | _ => 0

/-- The item that starts at an offset, once edits are made. Breaks and fields stay. -/
def rewritten (edits : List Edit) (i : Nat) : Item → Item
  | .run r => .run (r.rewritten edits i)
  | item => item

/-- Whether an item that starts at an offset can be given its text, if it takes one. -/
def canTake (edits : List Edit) (i : Nat) : Item → Bool
  | .run r => r.canTake edits i
  | _ => true

/-- The items from an offset on, once edits are made. -/
def rewriteEach (edits : List Edit) : Nat → List Item → List Item
  | _, [] => []
  | i, item :: rest => item.rewritten edits i :: rewriteEach edits (i + item.width) rest

/-- Whether all items from an offset on can be given their texts. -/
def canTakeEach (edits : List Edit) : Nat → List Item → Bool
  | _, [] => true
  | i, item :: rest => item.canTake edits i && canTakeEach edits (i + item.width) rest

/-- The texts that the runs among the items from an offset on are to be given. -/
def textsFrom (edits : List Edit) (i : Nat) (items : List Item) : List String :=
  (Edit.rewriteEach edits i ((items.filterMap Paragraph.runOf?).map (·.text.toList))).map String.ofList

end Item

/-- How the texts of items are updated: all runs take theirs, or those before the first one that cannot do so, which is
left empty. -/
inductive Updated (edits : List Edit) (i : Nat) (items : List Item) : List Item × Except Fault Unit → Prop where
  | all (h : Item.canTakeEach edits i items) : Updated edits i items (Item.rewriteEach edits i items, .ok ())
  | upTo (before : List Item) (r : Run) (behind : List Item) (hitems : items = before ++ .run r :: behind)
      (hbefore : Item.canTakeEach edits i before)
      (hr : r.canTake edits (i + (before.map Item.width).sum) = false) :
      Updated edits i items
        (Item.rewriteEach edits i before ++ .run { r with text := "" } :: behind, .error .unstorableText)

/-! ## The texts that are given -/

/-- Substitution gives each text its characters where there is no edit, and the values of the edits that start in it. -/
theorem substitute_answer (ask : Variable → Asked (Option String)) (texts : List String) :
    (substitute ask texts).answer =
      ((Edit.rewriteEach (editsOf ask (String.join texts)).answer 0 (texts.map String.toList)).map String.ofList,
        (editsOf ask (String.join texts)).answer.length) := by
  have hto : ∀ e ∈ (editsOf ask (String.join texts)).answer, e.stop ≤ (texts.map String.toList).flatten.length := by
    intro e he
    have hle := stop_le_of_mem_editsOf he
    rwa [← String.length_toList, String.toList_join, List.flatMap_def] at hle
  rw [substitute, Asked.map, Edit.apply_eq_rewriteEach (editsOf_inOrder _ _) hto]

/-- Substitution asks for the text of each variable, from left to right. -/
theorem substitute_queries (m : Mapping) (texts : List String) :
    (substitute m.askText texts).queries = (Variable.occurrences (String.join texts)).map fun o => .text o.var := by
  rw [substitute, Asked.map, editsOf_queries, List.map_eq_flatMap]
  rfl

/-- The texts that the runs of a paragraph are given. -/
theorem Paragraph.substitute_given (m : Mapping) (p : Paragraph) :
    (SlideFill.substitute m.askText (p.runs.map (·.text))).answer =
      (Item.textsFrom (p.edits m) 0 p.items, (p.edits m).length) := by
  rw [SlideFill.substitute_answer, List.map_map]
  rfl

/-- A run whose text is rewritten holds it, or is left empty if it cannot take it. -/
theorem Run.updateText_rewrittenText (edits : List Edit) (i : Nat) (r : Run) :
    r.updateText (r.rewrittenText edits i) =
      if r.canTake edits i then (r.rewritten edits i, .ok ()) else ({ r with text := "" }, .error .unstorableText) := by
  unfold Run.updateText Run.canTake Run.rewritten
  by_cases hsame : r.text = r.rewrittenText edits i
  · simp [← hsame]
  · have hempty : r.setText "" = { r with text := "" } := rfl
    by_cases hstore : isStorableText (r.setText (r.rewrittenText edits i)).text
    · simp [hsame, hstore]
    · simp [hsame, hstore, hempty]

/-- An item that can be given its text goes before what is updated behind it. -/
theorem Updated.cons {edits : List Edit} {i : Nat} {item : Item} {rest : List Item}
    {result : List Item × Except Fault Unit} (hitem : item.canTake edits i)
    (h : Updated edits (i + item.width) rest result) :
    Updated edits i (item :: rest) (item.rewritten edits i :: result.1, result.2) := by
  cases h with
  | all h => exact .all (by simp [Item.canTakeEach, hitem, h])
  | upTo before r behind hitems hbefore hr =>
    refine .upTo (item :: before) r behind (by rw [hitems]; rfl) ?_ ?_
    · simp [Item.canTakeEach, hitem, hbefore]
    · simpa [Nat.add_assoc] using hr

/-- The runs take their texts one by one, until one cannot. -/
theorem updated_updateTexts (edits : List Edit) (i : Nat) (items : List Item) :
    Updated edits i items (updateTexts items (Item.textsFrom edits i items)) := by
  induction items generalizing i with
  | nil => exact .all rfl
  | cons item rest ih =>
    cases item with
    | run r =>
      have htexts : Item.textsFrom edits i (.run r :: rest) =
          r.rewrittenText edits i :: Item.textsFrom edits (i + r.text.length) rest := by
        simp [Item.textsFrom, Paragraph.runOf?, Edit.rewriteEach, Run.rewrittenText, String.length_toList]
      rw [htexts, updateTexts, Run.updateText_rewrittenText]
      by_cases hr : r.canTake edits i
      · have hitem : Item.canTake edits i (.run r) := hr
        rw [if_pos hr]
        exact .cons hitem (ih (i + r.text.length))
      · rw [if_neg hr]
        exact .upTo [] r rest rfl rfl (by simpa using hr)
    | lineBreak =>
      have hitem : Item.canTake edits i .lineBreak := rfl
      exact .cons hitem (ih i)
    | field text =>
      have hitem : Item.canTake edits i (.field text) := rfl
      exact .cons hitem (ih i)

/-- Whether items can take their texts is told part by part. -/
theorem Item.canTakeEach_append (edits : List Edit) (i : Nat) (a b : List Item) :
    Item.canTakeEach edits i (a ++ b) =
      (Item.canTakeEach edits i a && Item.canTakeEach edits (i + (a.map Item.width).sum) b) := by
  induction a generalizing i with
  | nil => rfl
  | cons item a ih => simp [canTakeEach, ih, Nat.add_assoc, Bool.and_assoc]

/-- Updating succeeds exactly when all runs can be given their texts. -/
theorem Updated.isOk_iff {edits : List Edit} {i : Nat} {items : List Item} {result : List Item × Except Fault Unit}
    (h : Updated edits i items result) : result.2.isOk ↔ Item.canTakeEach edits i items := by
  cases h with
  | all h => simp [h]
  | upTo before r behind hitems _ hr =>
    have hrun : Item.canTake edits (i + (before.map Item.width).sum) (.run r) = false := hr
    simp [hitems, Item.canTakeEach_append, Item.canTakeEach, hrun]

/-- What substitution comes to: the runs are given their texts one by one, and the edits are counted. -/
theorem Paragraph.substitute_eq (m : Mapping) (p : Paragraph) :
    p.substitute m =
      ⟨⟨(SlideFill.updateTexts p.items (Item.textsFrom (p.edits m) 0 p.items)).1⟩,
        (Variable.occurrences p.joined).map fun o => ⟨.text, .text o.var⟩,
        (SlideFill.updateTexts p.items (Item.textsFrom (p.edits m) 0 p.items)).2.map fun _ => (p.edits m).length⟩ := by
  rw [substitute, Passage.asking, p.substitute_given m, substitute_queries, List.map_map, List.append_nil]
  rfl

/-- A paragraph can be substituted exactly when all its runs can be given their texts. -/
theorem Paragraph.substitute_isOk_iff {m : Mapping} {p : Paragraph} :
    (p.substitute m).outcome.isOk ↔ Item.canTakeEach (p.edits m) 0 p.items := by
  rw [← (updated_updateTexts (p.edits m) 0 p.items).isOk_iff, substitute_eq, isOk_map]

/-- The one fault in updating texts is a text that a deck cannot hold. -/
theorem Updated.fault {edits : List Edit} {i : Nat} {items : List Item} {result : List Item × Except Fault Unit}
    (h : Updated edits i items result) {e : Fault} (he : result.2 = .error e) : e = .unstorableText := by
  cases h with
  | all h => cases he
  | upTo before r behind hitems hbefore hr =>
    cases he
    rfl

/-- The one fault in substituting a paragraph is a text that a deck cannot hold. -/
theorem Paragraph.substitute_fault {m : Mapping} {p : Paragraph} {e : Fault}
    (h : (p.substitute m).outcome = .error e) : e = .unstorableText := by
  rw [p.substitute_eq m, map_eq_error] at h
  exact (updated_updateTexts (p.edits m) 0 p.items).fault h

/-- The text that a run is given, by its place among the runs. -/
theorem getElem?_rewriteEach (edits : List Edit) (i : Nat) (texts : List (List Char)) (k : Nat) :
    (Edit.rewriteEach edits i texts)[k]? =
      texts[k]?.map fun t => Edit.rewrite edits (i + ((texts.take k).map List.length).sum) t := by
  induction texts generalizing i k with
  | nil => rfl
  | cons t rest ih =>
    cases k with
    | zero => rfl
    | succ k => simp [Edit.rewriteEach, ih, Nat.add_assoc]

namespace SubstitutionWitness

/-- A paragraph in which a variable is spread over three runs, one of them empty, and another follows. -/
def paragraph : Paragraph :=
  ⟨[.run ⟨"Dear $/us", none, {}⟩, .run ⟨"", none, {}⟩, .lineBreak, .run ⟨"er/, $/day/", none, {}⟩]⟩

/-- A mapping with a text for one variable. -/
def mapping (text : String) : Mapping :=
  { Mapping.silent with text := fun v => if v.name = "user" then some text else none }

end SubstitutionWitness

end SlideFill
