import SlideFill.Fill.Passage
import SlideFill.Mapping.Basic

/-!
# Work along a list

`Passage.each` succeeds exactly when it does in every item (`each_isOk_iff`), and then all items are left as the work on
each of them leaves it, with one result for each.
-/

namespace SlideFill

@[simp] theorem isOk_ok {ε α : Type} (a : α) : (Except.ok a : Except ε α).isOk = true := rfl

@[simp] theorem isOk_error {ε α : Type} (e : ε) : (Except.error e : Except ε α).isOk = false := rfl

@[simp] theorem isOk_map {ε α β : Type} (f : α → β) (e : Except ε α) : (e.map f).isOk = e.isOk := by
  cases e <;> rfl

/-- A result is good exactly if it is some value. -/
theorem isOk_iff {ε α : Type} {e : Except ε α} : e.isOk = true ↔ ∃ a, e = .ok a := by
  cases e <;> simp

/-- A result that has a value is good. -/
theorem eq_ok_of_toOption {ε α : Type} {e : Except ε α} {a : α} (h : e.toOption = some a) : e = .ok a := by
  cases e with
  | error e => cases h
  | ok b => exact congrArg Except.ok (Option.some.inj h)

/-- A mapped result is good exactly if the result is. -/
theorem map_eq_ok {ε α β : Type} {f : α → β} {e : Except ε α} {b : β} :
    e.map f = .ok b ↔ ∃ a, e = .ok a ∧ f a = b := by
  cases e <;> simp [Except.map]

/-- Mapping a result keeps its fault. -/
theorem map_eq_error {ε α β : Type} {f : α → β} {e : Except ε α} {x : ε} : e.map f = .error x ↔ e = .error x := by
  cases e <;> simp [Except.map]

/-- Two steps are good exactly if the first is and the second one is with what it gives. -/
theorem bind_eq_ok {ε α β : Type} {e : Except ε α} {f : α → Except ε β} {b : β} :
    e.bind f = .ok b ↔ ∃ a, e = .ok a ∧ f a = .ok b := by
  cases e <;> simp [Except.bind]

namespace Mapping

variable (m : Mapping) (v : Variable) (name : String)

@[simp] theorem askHide_answer : (m.askHide v).answer = m.hides v := rfl

@[simp] theorem askHide_queries : (m.askHide v).queries = [.hide v] := rfl

@[simp] theorem askStyle_queries : (m.askStyle name).queries = [.style name] := rfl

@[simp] theorem askText_answer : (m.askText v).answer = m.text v := rfl

@[simp] theorem askImage_answer : (m.askImage name).answer = m.image name := rfl

@[simp] theorem askImage_queries : (m.askImage name).queries = [.image name] := rfl

end Mapping

namespace Passage

section asking

variable {α β γ : Type} (channel : Channel) (a : Asked γ) (next : γ → Passage Call α β)

@[simp] theorem asking_after : (asking channel a next).after = (next a.answer).after := rfl

@[simp] theorem asking_outcome : (asking channel a next).outcome = (next a.answer).outcome := rfl

@[simp] theorem asking_asked :
    (asking channel a next).asked = a.queries.map (⟨channel, ·⟩) ++ (next a.answer).asked := rfl

end asking

section done

variable {ι α β : Type} (after : α) (b : β) (e : Fault)

@[simp] theorem done_after : (done after b : Passage ι α β).after = after := rfl

@[simp] theorem done_asked : (done after b : Passage ι α β).asked = [] := rfl

@[simp] theorem done_outcome : (done after b : Passage ι α β).outcome = .ok b := rfl

@[simp] theorem stop_after : (stop after e : Passage ι α β).after = after := rfl

@[simp] theorem stop_asked : (stop after e : Passage ι α β).asked = [] := rfl

@[simp] theorem stop_outcome : (stop after e : Passage ι α β).outcome = .error e := rfl

end done

variable {ι α β : Type} {work : α → Passage ι α β}

/-- After work that succeeds, the rest of a list is worked on. -/
theorem each_cons_ok {a : α} {b : β} (h : (work a).outcome = .ok b) (rest : List α) :
    each work (a :: rest) =
      ⟨(work a).after :: (each work rest).after, (work a).asked ++ (each work rest).asked,
        (each work rest).outcome.map (b :: ·)⟩ := by
  rw [each]
  simp only [h]

/-- After work that fails, the rest of a list is left as it is. -/
theorem each_cons_error {a : α} {e : Fault} (h : (work a).outcome = .error e) (rest : List α) :
    each work (a :: rest) = ⟨(work a).after :: rest, (work a).asked, .error e⟩ := by
  rw [each]
  simp only [h]

/-- Work along a list succeeds exactly when it succeeds in each of its items. -/
theorem each_isOk_iff {xs : List α} : (each work xs).outcome.isOk ↔ ∀ a ∈ xs, (work a).outcome.isOk := by
  induction xs with
  | nil => simp [each, done]
  | cons a rest ih =>
    cases h : (work a).outcome with
    | error e => simp [each_cons_error h, h]
    | ok b =>
      rw [each_cons_ok h, isOk_map, ih]
      simp [h]

/-- Work that succeeds leaves each item as the work on it does. -/
theorem each_after {xs : List α} (h : (each work xs).outcome.isOk) :
    (each work xs).after = xs.map fun a => (work a).after := by
  induction xs with
  | nil => rfl
  | cons a rest ih =>
    rw [each_isOk_iff] at h
    obtain ⟨b, hb⟩ := isOk_iff.mp (h a List.mem_cons_self)
    rw [each_cons_ok hb, List.map_cons, ih (each_isOk_iff.mpr fun x hx => h x (List.mem_cons_of_mem _ hx))]

/-- Work that succeeds asks what the work on each item asks, one item after the other. -/
theorem each_asked {xs : List α} (h : (each work xs).outcome.isOk) :
    (each work xs).asked = xs.flatMap fun a => (work a).asked := by
  induction xs with
  | nil => rfl
  | cons a rest ih =>
    rw [each_isOk_iff] at h
    obtain ⟨b, hb⟩ := isOk_iff.mp (h a List.mem_cons_self)
    rw [each_cons_ok hb, List.flatMap_cons, ih (each_isOk_iff.mpr fun x hx => h x (List.mem_cons_of_mem _ hx))]

/-- Work along a list asks nothing but what the work on its items asks, even if it stops. -/
theorem mem_each_asked {xs : List α} {x : ι} (h : x ∈ (each work xs).asked) : ∃ a ∈ xs, x ∈ (work a).asked := by
  induction xs with
  | nil => cases h
  | cons a rest ih =>
    cases ha : (work a).outcome with
    | error e =>
      rw [each_cons_error ha] at h
      exact ⟨a, List.mem_cons_self, h⟩
    | ok b =>
      rw [each_cons_ok ha, List.mem_append] at h
      rcases h with h | h
      · exact ⟨a, List.mem_cons_self, h⟩
      · obtain ⟨c, hc, hx⟩ := ih h
        exact ⟨c, List.mem_cons_of_mem _ hc, hx⟩

/-- Work along a list succeeds if it does so for each item whose questions are all in order, and all questions that are
asked are. -/
theorem each_isOk_of_asked {Sound : ι → Prop} {xs : List α}
    (hwork : ∀ a ∈ xs, (∀ x ∈ (work a).asked, Sound x) → (work a).outcome.isOk)
    (hasked : ∀ x ∈ (each work xs).asked, Sound x) : (each work xs).outcome.isOk := by
  induction xs with
  | nil => rfl
  | cons a rest ih =>
    obtain ⟨hfirst, hrest⟩ := List.forall_mem_cons.mp hwork
    cases ha : (work a).outcome with
    | error e =>
      rw [each_cons_error ha] at hasked
      rw [ha] at hfirst
      cases hfirst hasked
    | ok b =>
      rw [each_cons_ok ha] at hasked ⊢
      rw [isOk_map]
      exact ih hrest fun x hx => hasked x (List.mem_append_right _ hx)

/-- Other work comes to the same if it does so for each item whose questions are all answered, and all questions that
are met are. -/
theorem each_congr {work' : α → Passage ι α β} {Alike : ι → Prop} {xs : List α}
    (hwork : ∀ a ∈ xs, (∀ x ∈ (work a).asked, Alike x) → work' a = work a)
    (hasked : ∀ x ∈ (each work xs).asked, Alike x) : each work' xs = each work xs := by
  induction xs with
  | nil => rfl
  | cons a rest ih =>
    obtain ⟨hfirst, hrest⟩ := List.forall_mem_cons.mp hwork
    cases ha : (work a).outcome with
    | error e =>
      rw [each_cons_error ha] at hasked ⊢
      have heq := hfirst hasked
      rw [← heq] at ha ⊢
      exact each_cons_error ha rest
    | ok b =>
      rw [each_cons_ok ha] at hasked ⊢
      have heq := hfirst fun x hx => hasked x (List.mem_append_left _ hx)
      rw [← ih hrest fun x hx => hasked x (List.mem_append_right _ hx)]
      rw [← heq] at ha ⊢
      exact each_cons_ok ha rest

/-- Work that stops has succeeded in the items before one in which it fails, and leaves those behind as they were. -/
theorem each_error {xs : List α} {e : Fault} (h : (each work xs).outcome = .error e) :
    ∃ before a behind, xs = before ++ a :: behind ∧ (∀ x ∈ before, (work x).outcome.isOk) ∧
      (work a).outcome = .error e ∧
      (each work xs).after = before.map (fun x => (work x).after) ++ (work a).after :: behind := by
  induction xs with
  | nil => cases h
  | cons a rest ih =>
    cases ha : (work a).outcome with
    | error e' =>
      rw [each_cons_error ha] at h
      cases h
      exact ⟨[], a, rest, rfl, by simp, ha, by rw [each_cons_error ha]; rfl⟩
    | ok b =>
      rw [each_cons_ok ha, map_eq_error] at h
      obtain ⟨before, a', behind, rfl, hbefore, hfault, hafter⟩ := ih h
      refine ⟨a :: before, a', behind, rfl, ?_, hfault, ?_⟩
      · exact List.forall_mem_cons.mpr ⟨by rw [ha]; rfl, hbefore⟩
      · rw [each_cons_ok ha, hafter]
        rfl

/-- If the result for an item is known, so are the results of work that succeeds. -/
theorem each_results {f : α → β} (hf : ∀ a b, (work a).outcome = .ok b → b = f a) {xs : List α} {bs : List β}
    (h : (each work xs).outcome = .ok bs) : bs = xs.map f := by
  induction xs generalizing bs with
  | nil =>
    cases h
    rfl
  | cons a rest ih =>
    cases ha : (work a).outcome with
    | error e =>
      rw [each_cons_error ha] at h
      cases h
    | ok b =>
      rw [each_cons_ok ha] at h
      obtain ⟨cs, hcs, rfl⟩ := map_eq_ok.mp h
      rw [List.map_cons, hf a b ha, ih hcs]

end Passage

end SlideFill
