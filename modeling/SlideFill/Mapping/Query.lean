import SlideFill.Variable.Basic

/-!
# Questions to a mapping

Whoever fills a deck does not look into a mapping but asks it. An answer travels with the questions that were asked for
it (`Asked`), so that what was asked is known to the end.
-/

namespace SlideFill

/-- A question to a mapping: whether to hide what carries a variable, how to style a run, and what text or what image to
put in. -/
inductive Query where
  | hide (v : Variable)
  | style (name : String)
  | text (v : Variable)
  | image (name : String)
deriving DecidableEq

/-- An answer, and the questions that were asked for it. -/
structure Asked (α : Type) where
  queries : List Query
  answer : α

namespace Asked

variable {α β : Type}

/-- The answer to a single question. -/
def single (query : Query) (answer : α) : Asked α :=
  ⟨[query], answer⟩

/-- What an answer gives. -/
def map (f : α → β) (a : Asked α) : Asked β :=
  ⟨a.queries, f a.answer⟩

/-- Asks about the items of a list, one after the other. -/
def each (ask : α → Asked β) : List α → Asked (List β)
  | [] => ⟨[], []⟩
  | x :: rest => ⟨(ask x).queries ++ (each ask rest).queries, (ask x).answer :: (each ask rest).answer⟩

end Asked

end SlideFill
