import SlideFill.Fault
import SlideFill.Mapping.Query

/-!
# Work that can stop

Filling works through a deck part by part and stops at the first fault. What was done before stays done, so the work on
a part comes to a `Passage`: the part as it was left, what was asked on the way, and the outcome. Nothing is asked but
by `Passage.asking`, which hands the answer on.
-/

namespace SlideFill

/-- Where a variable stands. -/
inductive Channel where
  | shapeLink
  | pictureLink
  | runLink
  | text
deriving DecidableEq

/-- A question to the mapping, and where the variable stands that it is about. -/
structure Call where
  channel : Channel
  query : Query
deriving DecidableEq

/-- The work on a part of type `α`, which asked `ι`s and came, unless it stopped, to a `β`. -/
structure Passage (ι α β : Type) where
  after : α
  asked : List ι
  outcome : Except Fault β

namespace Passage

/-- The passage that only comes to a result. -/
def done {ι α β : Type} (after : α) (result : β) : Passage ι α β :=
  ⟨after, [], .ok result⟩

/-- The passage that only stops. -/
def stop {ι α β : Type} (after : α) (fault : Fault) : Passage ι α β :=
  ⟨after, [], .error fault⟩

/-- The passage with other names for what was asked. -/
def mapAsked {ι κ α β : Type} (f : ι → κ) (p : Passage ι α β) : Passage κ α β :=
  ⟨p.after, p.asked.map f, p.outcome⟩

/-- The passage of a whole whose part it was. -/
def mapAfter {ι α α₂ β : Type} (f : α → α₂) (p : Passage ι α β) : Passage ι α₂ β :=
  ⟨f p.after, p.asked, p.outcome⟩

/-- The work that goes on from an answer, behind the questions for it. -/
def asking {α β γ : Type} (channel : Channel) (a : Asked γ) (next : γ → Passage Call α β) : Passage Call α β :=
  ⟨(next a.answer).after, a.queries.map (⟨channel, ·⟩) ++ (next a.answer).asked, (next a.answer).outcome⟩

/-- Works through a list from its head on. A fault leaves the items behind it as they were. -/
def each {ι α β : Type} (work : α → Passage ι α β) : List α → Passage ι (List α) (List β)
  | [] => done [] []
  | a :: rest =>
    let first := work a
    match first.outcome with
    | .error e => ⟨first.after :: rest, first.asked, .error e⟩
    | .ok b =>
      let others := each work rest
      ⟨first.after :: others.after, first.asked ++ others.asked, others.outcome.map (b :: ·)⟩

end Passage

end SlideFill
