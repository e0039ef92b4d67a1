import Mathlib.Algebra.GroupWithZero.Nat
import SlideFill.Fill.Deck
import SlideFill.Proofs.Fill.Shape

/-!
# What filling a slide comes to

A slide is filled if all its shapes are and all pictures that have an image are replaced (`Slide.fill_isOk_iff`). Then
`Slide.fill_after` and `Slide.fill_log` say how it is left and what is told, both by way of `Slide.replaceAll`, the
replacement of pictures among the shapes that are shown; `Slide.fill_result` counts what was done. The same is said of
all slides of a deck by `Deck.fillFrom_isOk_iff` and `Deck.fill_eq`.
-/

namespace SlideFill

/-- Of a shape is one thing true: it is hidden, it is a picture that has an image to be replaced with, or it stays. -/
theorem Shape.fates (m : Mapping) (s : Shape) :
    s.isHidden m ∨
      (s.isHidden m = false ∧ ∃ p r, s = .picture p ∧ (Shape.picture p).replacement? m = some r) ∨
      (s.isHidden m = false ∧ s.replacement? m = none) := by
  cases hs : s.isHidden m with
  | true => exact .inl rfl
  | false =>
    cases hr : s.replacement? m with
    | none => exact .inr (.inr ⟨rfl, rfl⟩)
    | some r =>
      cases s with
      | picture p => exact .inr (.inl ⟨rfl, p, r, rfl, hr⟩)
      | text box => cases hr
      | table t => cases hr
      | connector id name => cases hr
      | group id name children => cases hr

/-- A mapping without images replaces nothing. -/
theorem Shape.replacement_eq_none {m : Mapping} (h : ∀ name, m.image name = none) (s : Shape) :
    s.replacement? m = none := by
  cases s with
  | picture p => simp [replacement?, h]
  | text box => rfl
  | table t => rfl
  | connector id name => rfl
  | group id name children => rfl

namespace Slide

/-- The shapes of a slide that a mapping does not hide. -/
def shown (m : Mapping) (s : Slide) : Slide :=
  s.filter (!·.isHidden m)

/-- The shapes that are shown, filled, and what becomes of each of them. -/
def judged (m : Mapping) (s : Slide) : List (Shape × Verdict) :=
  (shown m s).map fun x => (x.filled m, x.verdict m)

/-- The replacement of pictures among the shapes that are shown. -/
def replaceAll (m : Mapping) (s : Slide) : List Shape × List Note × Except Fault Nat :=
  replaceFrom [] (judged m s)

/-- The notes on a slide that is filled. -/
def notes (m : Mapping) (s : Slide) : List Note :=
  ((s.filter (·.isHidden m)).map fun x => .removing x.name) ++ (replaceAll m s).2.1

variable {m : Mapping}

/-! ## Shapes that are hidden, replaced or kept -/

/-- A hidden shape is not among those that are shown. -/
theorem shown_cons_of_hidden {x : Shape} (hx : x.isHidden m) (rest : Slide) : shown m (x :: rest) = shown m rest :=
  List.filter_cons_of_neg (by simpa using hx)

/-- A shape that is not hidden is among those that are shown. -/
theorem shown_cons_of_shown {x : Shape} (hx : x.isHidden m = false) (rest : Slide) :
    shown m (x :: rest) = x :: shown m rest :=
  List.filter_cons_of_pos (by simpa using hx)

/-- A hidden shape is not judged any further. -/
theorem judged_cons_of_hidden {x : Shape} (hx : x.isHidden m) (rest : Slide) :
    judged m (x :: rest) = judged m rest := by
  rw [judged, judged, shown_cons_of_hidden hx]

/-- A shape that is shown is filled and judged. -/
theorem judged_cons_of_shown {x : Shape} (hx : x.isHidden m = false) (rest : Slide) :
    judged m (x :: rest) = (x.filled m, x.verdict m) :: judged m rest := by
  rw [judged, judged, shown_cons_of_shown hx]
  rfl

/-- The shapes that are judged are those that are shown, filled. -/
theorem judged_fst (m : Mapping) (s : Slide) : (judged m s).map (·.1) = (shown m s).map (Shape.filled m) := by
  rw [judged, List.map_map]
  rfl

/-- A hidden shape is removed. -/
theorem verdict_of_hidden {x : Shape} (hx : x.isHidden m) : x.verdict m = .remove := by
  rw [Shape.verdict, if_pos hx]

/-- A picture that is shown and has a replacement is replaced. -/
theorem verdict_of_replacement {x : Shape} {r : Replacement} (hx : x.isHidden m = false)
    (hr : x.replacement? m = some r) : x.verdict m = .replace r := by
  rw [Shape.verdict, if_neg (by simp [hx]), hr]

/-- A shape that is shown and has no replacement is kept. -/
theorem verdict_of_kept {x : Shape} (hx : x.isHidden m = false) (hr : x.replacement? m = none) :
    x.verdict m = .keep := by
  rw [Shape.verdict, if_neg (by simp [hx]), hr]

/-- A picture to be replaced is judged as such. It has lost its directive by then. -/
theorem judged_cons_of_replacement {p : Picture} {r : Replacement} (hx : (Shape.picture p).isHidden m = false)
    (hr : (Shape.picture p).replacement? m = some r) (rest : Slide) :
    judged m (.picture p :: rest) = (.picture { p with link := settledLink p.link }, .replace r) :: judged m rest := by
  rw [judged_cons_of_shown hx, verdict_of_replacement hx hr, Shape.filled]

/-- A shape that is shown and has no replacement is filled and kept. -/
theorem judged_cons_of_kept {x : Shape} (hx : x.isHidden m = false) (hr : x.replacement? m = none) (rest : Slide) :
    judged m (x :: rest) = (x.filled m, .keep) :: judged m rest := by
  rw [judged_cons_of_shown hx, verdict_of_kept hx hr]

/-! ## The first step -/

/-- A slide is read exactly if all its shapes are filled. -/
theorem read_isOk_iff (number : Nat) {s : Slide} :
    (read m number s).outcome.isOk ↔ ∀ x ∈ s, (x.fill m).outcome.isOk :=
  Passage.each_isOk_iff

/-- What a slide that is read comes to: its shapes as they are left, each with its verdict. -/
theorem read_zip {number : Nat} {s : Slide} {verdicts : List Verdict} (h : (read m number s).outcome = .ok verdicts) :
    (read m number s).after.zip verdicts = s.map fun x => ((x.fill m).after, x.verdict m) := by
  have hafter : (read m number s).after = s.map fun x => (x.fill m).after := Passage.each_after (isOk_iff.mpr ⟨_, h⟩)
  have hverdicts : verdicts = s.map (Shape.verdict m) := Passage.each_results (fun x v hx => x.fill_result v hx) h
  rw [hafter, hverdicts, List.zip_map']

/-- What is told of removals names the hidden shapes. -/
theorem removalNotes_eq (m : Mapping) (s : Slide) :
    removalNotes (s.map fun x => ((x.fill m).after, x.verdict m)) =
      (s.filter (·.isHidden m)).map fun x => .removing x.name := by
  induction s with
  | nil => rfl
  | cons x rest ih =>
    rw [List.map_cons]
    rcases x.fates m with hx | ⟨hx, p, r, rfl, hr⟩ | ⟨hx, hr⟩
    · rw [verdict_of_hidden hx, removalNotes, ih, List.filter_cons_of_pos hx, Shape.fill_name]
      rfl
    · rw [verdict_of_replacement hx hr, List.filter_cons_of_neg (by simp [hx]), ← ih]
      rfl
    · rw [verdict_of_kept hx hr, List.filter_cons_of_neg (by simp [hx]), ← ih]
      rfl

/-- What remains of a slide that has been read are the shapes that are judged. -/
theorem remaining_eq {s : Slide} (h : ∀ x ∈ s, (x.fill m).outcome.isOk) :
    remaining (s.map fun x => ((x.fill m).after, x.verdict m)) = judged m s := by
  induction s with
  | nil => rfl
  | cons x rest ih =>
    obtain ⟨hfill, hrest⟩ := List.forall_mem_cons.mp h
    rw [List.map_cons]
    rcases x.fates m with hx | ⟨hx, p, r, rfl, hr⟩ | ⟨hx, hr⟩
    · rw [verdict_of_hidden hx, remaining, ih hrest, judged_cons_of_hidden hx]
    · rw [judged_cons_of_shown hx, verdict_of_replacement hx hr, ← ih hrest, Shape.fill_after hfill hx]
      rfl
    · rw [judged_cons_of_shown hx, verdict_of_kept hx hr, ← ih hrest, Shape.fill_after hfill hx]
      rfl

/-! ## The second step -/

/-- One step of the replacement, for a picture that can be replaced. -/
theorem replaceFrom_cons_replaced {behind : List Shape} {p new : Picture} {r : Replacement} {note : Note}
    {rest : List (Shape × Verdict)}
    (h : p.replaceBy r (Slide.nextId (behind ++ .picture p :: rest.map (·.1))) = .ok (new, note)) :
    replaceFrom behind ((.picture p, .replace r) :: rest) =
      ((replaceFrom (behind ++ [.picture new]) rest).1, note :: (replaceFrom (behind ++ [.picture new]) rest).2.1,
        (replaceFrom (behind ++ [.picture new]) rest).2.2.map (· + 1)) := by
  rw [replaceFrom]
  simp only [h]

/-- One step of the replacement, for a picture that cannot be replaced. -/
theorem replaceFrom_cons_error {behind : List Shape} {p : Picture} {r : Replacement} {e : Fault}
    {rest : List (Shape × Verdict)}
    (h : p.replaceBy r (Slide.nextId (behind ++ .picture p :: rest.map (·.1))) = .error e) :
    replaceFrom behind ((.picture p, .replace r) :: rest) = (behind ++ .picture p :: rest.map (·.1), [], .error e) := by
  rw [replaceFrom]
  simp only [h]

/-- One step of the replacement, for a shape that is no picture to be replaced. -/
theorem replaceFrom_cons_passed {x : Shape} {v : Verdict} (h : ∀ p r, (x, v) ≠ (.picture p, .replace r))
    (behind : List Shape) (rest : List (Shape × Verdict)) :
    replaceFrom behind ((x, v) :: rest) = replaceFrom (behind ++ [x]) rest := by
  rw [replaceFrom]
  intro p r hx hv
  exact h p r (by rw [hx, hv])

/-- One step of the replacement, for a shape that stays. -/
theorem replaceFrom_cons_kept (behind : List Shape) (x : Shape) (rest : List (Shape × Verdict)) :
    replaceFrom behind ((x, .keep) :: rest) = replaceFrom (behind ++ [x]) rest :=
  replaceFrom_cons_passed (by simp) behind rest

/-- Shapes that all stay are passed by. -/
theorem replaceFrom_kept (behind shapes : List Shape) :
    replaceFrom behind (shapes.map fun x => (x, .keep)) = (behind ++ shapes, [], .ok 0) := by
  induction shapes generalizing behind with
  | nil => simp [replaceFrom]
  | cons x rest ih => rw [List.map_cons, replaceFrom_cons_kept, ih, ← List.append_cons]

/-- Where there are no images to replace pictures with, the shapes that are shown are filled and no more. -/
theorem replaceAll_of_imageless (h : ∀ name, m.image name = none) (s : Slide) :
    replaceAll m s = ((shown m s).map (Shape.filled m), [], .ok 0) := by
  have hjudged : judged m s = ((shown m s).map (Shape.filled m)).map fun x => (x, .keep) := by
    rw [judged, List.map_map]
    apply List.map_congr_left
    intro x hx
    rw [verdict_of_kept (by simpa using (List.mem_filter.mp hx).2) (x.replacement_eq_none h)]
    rfl
  rw [replaceAll, hjudged, replaceFrom_kept, List.nil_append]

/-- Replacing pictures that all can be replaced counts them. -/
theorem replaceFrom_result {s : Slide} {behind : List Shape} {n : Nat}
    (h : (replaceFrom behind (judged m s)).2.2 = .ok n) : n = s.countP (·.isReplaced m) := by
  induction s generalizing behind n with
  | nil => exact (Except.ok.inj h).symm
  | cons x rest ih =>
    rcases x.fates m with hx | ⟨hx, p, r, rfl, hr⟩ | ⟨hx, hr⟩
    · rw [judged_cons_of_hidden hx] at h
      rw [ih h, List.countP_cons_of_neg (by simp [Shape.isReplaced, hx])]
    · rw [judged_cons_of_replacement hx hr] at h
      generalize ({ p with link := settledLink p.link } : Picture) = q at h
      cases hnew : q.replaceBy r (Slide.nextId (behind ++ Shape.picture q :: (judged m rest).map (·.1))) with
      | error e =>
        rw [replaceFrom_cons_error hnew] at h
        cases h
      | ok result =>
        rw [replaceFrom_cons_replaced hnew] at h
        obtain ⟨k, hk, rfl⟩ := map_eq_ok.mp h
        rw [ih hk, List.countP_cons_of_pos (by simp [Shape.isReplaced, hx, hr])]
    · rw [judged_cons_of_kept hx hr, replaceFrom_cons_kept] at h
      rw [ih h, List.countP_cons_of_neg (by simp [Shape.isReplaced, hr])]

/-! ## Both steps -/

/-- A slide whose shapes are all filled. -/
theorem fill_eq {number : Nat} {s : Slide} (h : ∀ x ∈ s, (x.fill m).outcome.isOk) :
    fill m number s =
      ⟨(replaceAll m s).1, (read m number s).asked, notes m s,
        (replaceAll m s).2.2.map fun replaced => ⟨s.countP (·.isHidden m), replaced⟩⟩ := by
  obtain ⟨verdicts, hread⟩ := isOk_iff.mp ((read_isOk_iff number).mpr h)
  rw [fill]
  simp only [hread, read_zip hread, removalNotes_eq, remaining_eq h, List.length_map, ← List.countP_eq_length_filter]
  rfl

/-- A slide is filled exactly if all its shapes are and all its pictures can be replaced. -/
theorem fill_isOk_iff {number : Nat} {s : Slide} :
    (fill m number s).outcome.isOk ↔ (∀ x ∈ s, (x.fill m).outcome.isOk) ∧ (replaceAll m s).2.2.isOk := by
  by_cases h : ∀ x ∈ s, (x.fill m).outcome.isOk
  · rw [fill_eq h, isOk_map]
    exact (and_iff_right h).symm
  · have hread : ¬(read m number s).outcome.isOk := fun hok => h ((read_isOk_iff number).mp hok)
    cases hout : (read m number s).outcome with
    | error e => simp [fill, hout, h]
    | ok verdicts => simp [hout] at hread

/-- A slide that is filled is left with its pictures replaced. -/
theorem fill_after {number : Nat} {s : Slide} (h : (fill m number s).outcome.isOk) :
    (fill m number s).after = (replaceAll m s).1 := by
  rw [fill_eq (fill_isOk_iff.mp h).1]

/-- What is told of a slide that is filled. -/
theorem fill_log {number : Nat} {s : Slide} (h : (fill m number s).outcome.isOk) :
    (fill m number s).log = notes m s := by
  rw [fill_eq (fill_isOk_iff.mp h).1]

/-- A slide that is filled counts its hidden and its replaced shapes. -/
theorem fill_result {number : Nat} {s : Slide} {t : Tally} (h : (fill m number s).outcome = .ok t) :
    t = ⟨s.countP (·.isHidden m), s.countP (·.isReplaced m)⟩ := by
  rw [fill_eq (fill_isOk_iff.mp (isOk_iff.mpr ⟨t, h⟩)).1] at h
  obtain ⟨n, hn, rfl⟩ := map_eq_ok.mp h
  rw [replaceFrom_result hn]

end Slide

/-! ## Decks -/

namespace Deck

variable {m : Mapping}

/-- After a slide that is filled, the others are. -/
theorem fillFrom_cons_ok {number : Nat} {s : Slide} {t : Tally} (h : (Slide.fill m number s).outcome = .ok t)
    (rest : List Slide) :
    fillFrom m number (s :: rest) =
      ⟨(Slide.fill m number s).after :: (fillFrom m (number + 1) rest).after,
        (Slide.fill m number s).asked ++ (fillFrom m (number + 1) rest).asked,
        (Slide.fill m number s).log ++ (fillFrom m (number + 1) rest).log,
        (fillFrom m (number + 1) rest).outcome.map fun u => ⟨t.removed + u.removed, t.replaced + u.replaced⟩⟩ := by
  rw [fillFrom]
  simp only [h]

/-- After a slide that is not filled, the others are left as they are. -/
theorem fillFrom_cons_error {number : Nat} {s : Slide} {e : Fault} (h : (Slide.fill m number s).outcome = .error e)
    (rest : List Slide) :
    fillFrom m number (s :: rest) =
      ⟨(Slide.fill m number s).after :: rest, (Slide.fill m number s).asked, (Slide.fill m number s).log, .error e⟩ := by
  rw [fillFrom]
  simp only [h]

/-- Slides are filled exactly if each of them is; their numbers do not matter. -/
theorem fillFrom_isOk_iff {number : Nat} {d : Deck} :
    (fillFrom m number d).outcome.isOk ↔ ∀ s ∈ d, (Slide.fill m number s).outcome.isOk := by
  induction d generalizing number with
  | nil => simp [fillFrom]
  | cons s rest ih =>
    have hnumber : ∀ s' : Slide, (Slide.fill m (number + 1) s').outcome.isOk ↔ (Slide.fill m number s').outcome.isOk :=
      fun s' => Slide.fill_isOk_iff.trans Slide.fill_isOk_iff.symm
    cases h : (Slide.fill m number s).outcome with
    | error e => simp [fillFrom, h]
    | ok t =>
      rw [fillFrom_cons_ok h, isOk_map, ih]
      simp [h, hnumber]

/-- Slides that are all filled, what is told of them, and what was done to them. -/
theorem fillFrom_eq {number : Nat} {d : Deck} (h : (fillFrom m number d).outcome.isOk) :
    (fillFrom m number d).after = d.map (fun s => (Slide.replaceAll m s).1) ∧
      (fillFrom m number d).log = d.flatMap (Slide.notes m) ∧
      (fillFrom m number d).outcome = .ok
        ⟨(d.map fun s => s.countP (·.isHidden m)).sum, (d.map fun s => s.countP (·.isReplaced m)).sum⟩ := by
  induction d generalizing number with
  | nil => exact ⟨rfl, rfl, rfl⟩
  | cons s rest ih =>
    obtain ⟨t, ht⟩ := isOk_iff.mp (fillFrom_isOk_iff.mp h s List.mem_cons_self)
    rw [fillFrom_cons_ok ht] at h ⊢
    obtain ⟨hafter, hlog, hout⟩ := ih (by simpa using h)
    have hok := isOk_iff.mpr ⟨t, ht⟩
    refine ⟨?_, ?_, ?_⟩
    · rw [List.map_cons, ← hafter, Slide.fill_after hok]
    · rw [List.flatMap_cons, ← hlog, Slide.fill_log hok]
    · rw [hout, Slide.fill_result ht]
      rfl

/-- A deck is filled exactly if its slides are. -/
theorem fill_isOk_iff {d : Deck} : (fill m d).outcome.isOk ↔ (fillFrom m 1 d).outcome.isOk := by
  rw [fill]
  cases h : (fillFrom m 1 d).outcome <;> simp [h]

/-- A deck that is filled. The last note sums up what was done to all its slides. -/
theorem fill_eq {d : Deck} (h : (fill m d).outcome.isOk) :
    (fill m d).after = d.map (fun s => (Slide.replaceAll m s).1) ∧
      (fill m d).log = d.flatMap (Slide.notes m) ++
        [.filled d.length (d.map fun s => s.countP (·.isHidden m)).sum
          (d.map fun s => s.countP (·.isReplaced m)).sum] := by
  obtain ⟨hafter, hlog, hout⟩ := fillFrom_eq (fill_isOk_iff.mp h)
  constructor
  · rw [fill]
    simp only [hout]
    exact hafter
  · rw [fill]
    simp only [hout, hlog]

end Deck

end SlideFill
