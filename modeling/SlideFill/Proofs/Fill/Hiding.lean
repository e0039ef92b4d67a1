import Mathlib.Data.List.Flatten
import SlideFill.Proofs.Fill.OnePass

/-!
# What goes along with a hidden run

A hidden run that is the only run of its paragraph takes the paragraph along. Runs are all that is counted, and fields are
none: hiding loses nothing but hidden runs exactly if no paragraph that disappears has a field with text
(`hiding_loses_hidden_runs`), and a field beside a single hidden run is lost with it (`hiding_loses_field`).
-/

namespace SlideFill

namespace Item

/-- The text of an item, if it is a field and has one. -/
def fieldText? : Item → Option String
  | .field text => if text = "" then none else some text
  | _ => none

/-- Whether an item still shows something when what is hidden is taken away: a run that has text and is not hidden does,
and so does a field that has text. -/
def isVisible (m : Mapping) : Item → Bool
  | .run r => r.text ≠ "" && !r.isHidden m
  | .lineBreak => false
  | .field text => text ≠ ""

end Item

/-- The texts of the fields of a paragraph. -/
def Paragraph.fieldTexts (p : Paragraph) : List String :=
  p.items.filterMap Item.fieldText?

variable {m : Mapping}

/-- Fields stay as they are in one pass. -/
theorem Item.fieldTexts_inOnePassEach (items : List Item) (texts : List String) :
    (Item.inOnePassEach m items texts).filterMap Item.fieldText? = items.filterMap Item.fieldText? := by
  induction items generalizing texts with
  | nil => rfl
  | cons item rest ih =>
    cases item with
    | run r =>
      cases texts with
      | nil => exact ih []
      | cons text texts => exact ih texts
    | lineBreak => exact ih texts
    | field text =>
      rw [inOnePassEach, List.filterMap_cons, List.filterMap_cons, ih texts]
      exact fun _ _ _ _ h => by cases h

namespace Paragraph

/-- Filling in one pass keeps the fields of a paragraph. -/
theorem fieldTexts_inOnePass (p : Paragraph) : (p.inOnePass m).fieldTexts = p.fieldTexts :=
  Item.fieldTexts_inOnePassEach p.items _

/-- All runs of a paragraph that disappears are hidden. -/
theorem isHidden_of_disappears {p : Paragraph} (h : p.disappears m) : ∀ r ∈ p.runs, r.isHidden m := by
  unfold disappears at h
  split at h
  · rename_i r hruns
    intro r' hr'
    rw [hruns, List.mem_singleton] at hr'
    rwa [hr']
  · cases h

/-- What a paragraph that disappears shows besides hidden runs is its fields. -/
theorem visible_iff_fieldTexts {p : Paragraph} (h : p.disappears m) :
    (∀ item ∈ p.items, item.isVisible m = false) ↔ p.fieldTexts = [] := by
  rw [fieldTexts, List.filterMap_eq_nil_iff]
  refine forall₂_congr fun item hitem => ?_
  cases item with
  | run r =>
    have hhidden := isHidden_of_disappears h r (List.mem_filterMap.mpr ⟨.run r, hitem, rfl⟩)
    simp [Item.fieldText?, Item.isVisible, hhidden]
  | lineBreak => simp [Item.fieldText?, Item.isVisible]
  | field text => simp [Item.fieldText?, Item.isVisible]

/-- Paragraphs go without a loss of fields exactly if those that go have none. -/
theorem fieldTexts_remaining_iff (body : List Paragraph) :
    (body.filter (!·.disappears m)).flatMap fieldTexts = body.flatMap fieldTexts ↔
      ∀ p ∈ body, p.disappears m → p.fieldTexts = [] := by
  induction body with
  | nil => simp
  | cons p rest ih =>
    rw [List.forall_mem_cons, ← ih, List.flatMap_cons]
    cases hgoes : p.disappears m with
    | true =>
      rw [List.filter_cons_of_neg (by simp [hgoes])]
      refine ⟨fun heq => ?_, fun ⟨hfirst, hrest⟩ => by rw [hfirst rfl, List.nil_append, hrest]⟩
      -- what is left of the rest is no longer than the rest, so there is no room for the fields of this paragraph
      have hle := ((List.filter_sublist (p := fun q => !q.disappears m) (l := rest)).flatMap fieldTexts).length_le
      have hlength := congrArg List.length heq
      rw [List.length_append] at hlength
      have hnil : p.fieldTexts = [] := List.eq_nil_of_length_eq_zero (by omega)
      rw [hnil, List.nil_append] at heq
      exact ⟨fun _ => hnil, heq⟩
    | false =>
      rw [List.filter_cons_of_pos (by simp [hgoes]), List.flatMap_cons, List.append_cancel_left_eq]
      simp

end Paragraph

/-- Filling a body of text takes out the paragraphs whose only run is hidden, and all other paragraphs keep their items.
Nothing that shows is lost with the hidden runs, and all fields keep their texts, exactly if no paragraph that disappears
has a field with text. -/
theorem hiding_loses_hidden_runs (m : Mapping) (body : List Paragraph) (hok : (fillBody m body).outcome.isOk) :
    (fillBody m body).after = (body.filter (!·.disappears m)).map (Paragraph.inOnePass m) ∧
      ((∀ p ∈ body, p.disappears m → ∀ item ∈ p.items, item.isVisible m = false) ↔
        ∀ p ∈ body, p.disappears m → p.fieldTexts = []) ∧
      ((fillBody m body).after.flatMap Paragraph.fieldTexts = body.flatMap Paragraph.fieldTexts ↔
        ∀ p ∈ body, p.disappears m → p.fieldTexts = []) := by
  have hafter := fillBody_after_eq_inOnePass hok
  have htexts : (fillBody m body).after.flatMap Paragraph.fieldTexts =
      (body.filter (!·.disappears m)).flatMap Paragraph.fieldTexts := by
    rw [hafter, bodyInOnePass, List.flatMap_map]
    simp only [Paragraph.fieldTexts_inOnePass]
  refine ⟨hafter, forall₂_congr fun p _ => forall_congr' Paragraph.visible_iff_fieldTexts, ?_⟩
  rw [htexts]
  exact Paragraph.fieldTexts_remaining_iff body

namespace HidingWitness

/-- A mapping that hides what carries one variable. -/
def mapping : Mapping :=
  { Mapping.silent with hide := fun v => some (v.name == "draft") }

/-- A run that is hidden. -/
def draft : Item :=
  .run ⟨"Draft", some ⟨.external "$/draft/", none⟩, {}⟩

/-- A body of text with hidden runs alone, beside a field that is empty, and beside a run and a page number. -/
def body : List Paragraph :=
  [⟨[draft]⟩, ⟨[draft, .lineBreak, .field ""]⟩, ⟨[.run ⟨"Page ", none, {}⟩, .field "3", draft]⟩]

end HidingWitness

open HidingWitness in
/-- A page number beside a hidden run and a run that is shown stays. -/
theorem hiding_loses_hidden_runs_page :
    (fillBody mapping body).outcome.isOk ∧
      (fillBody mapping body).after = [⟨[.run ⟨"Page ", none, {}⟩, .field "3", .run ⟨"", none, {}⟩]⟩] ∧
      (∀ p ∈ body, p.disappears mapping → ∀ item ∈ p.items, item.isVisible mapping = false) ∧
      (fillBody mapping body).after.flatMap Paragraph.fieldTexts = ["3"] := by
  have hok : (fillBody mapping body).outcome.isOk := by decide +kernel
  have hfields : ∀ p ∈ body, p.disappears mapping → p.fieldTexts = [] := by decide +kernel
  have hone : (body.filter (!·.disappears mapping)).map (Paragraph.inOnePass mapping) =
      [⟨[.run ⟨"Page ", none, {}⟩, .field "3", .run ⟨"", none, {}⟩]⟩] := by decide +kernel
  obtain ⟨hafter, hvisible, htexts⟩ := hiding_loses_hidden_runs mapping body hok
  exact ⟨hok, hafter.trans hone, hvisible.mpr hfields, (htexts.mpr hfields).trans (by decide +kernel)⟩

open HidingWitness in
/-- A page number beside a hidden run is lost if the paragraph has no other run. -/
theorem hiding_loses_field :
    (fillBody mapping [⟨[draft, .field "3"]⟩]).outcome.isOk ∧
      (fillBody mapping [⟨[draft, .field "3"]⟩]).after = [] ∧
      ¬∀ (m : Mapping) (body : List Paragraph), (fillBody m body).outcome.isOk →
        (∀ p ∈ body, p.disappears m → ∀ item ∈ p.items, item.isVisible m = false) ∧
          (fillBody m body).after.flatMap Paragraph.fieldTexts = body.flatMap Paragraph.fieldTexts := by
  have hok : (fillBody mapping [⟨[draft, .field "3"]⟩]).outcome.isOk := by decide +kernel
  have hafter : (fillBody mapping [⟨[draft, .field "3"]⟩]).after = [] := by decide +kernel
  refine ⟨hok, hafter, fun h => ?_⟩
  have hlost := (h mapping [⟨[draft, .field "3"]⟩] hok).2
  rw [hafter] at hlost
  revert hlost
  decide +kernel

end SlideFill
