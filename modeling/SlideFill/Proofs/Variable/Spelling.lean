import SlideFill.Proofs.Variable.Grammar

/-!
# Variables and their spellings

A variable is read from one text only, its spelling, and the variables that can be read are exactly those whose name and
argument a spelling can have (`spellings_correspond`). Which arguments those are is said by `IsArgument`, character by
character: they are what tokens stand for.
-/

namespace SlideFill

namespace Variable

/-- The arguments that a spelling can have. They are made of quotes, of characters that are neither a quote nor a
backslash, and of backslashes each with a character behind it that is neither a quote nor a line feed. -/
inductive IsArgument : List Char → Prop where
  | nil : IsArgument []
  | quote {rest : List Char} (h : IsArgument rest) : IsArgument ('\'' :: rest)
  | plain {c : Char} {rest : List Char} (hc : c ≠ '\'' ∧ c ≠ '\\') (h : IsArgument rest) : IsArgument (c :: rest)
  | escaped {c : Char} {rest : List Char} (hc : c ≠ '\'' ∧ c ≠ '\n') (h : IsArgument rest) :
    IsArgument ('\\' :: c :: rest)

/-- Whether a variable has a name and an argument, if any, that a spelling can have. -/
structure IsSpellable (v : Variable) : Prop where
  name_ne_empty : v.name ≠ ""
  name_chars : ∀ c ∈ v.name.toList, c ≠ '/' ∧ c ≠ ':'
  argument : ∀ a, v.argument = some a → IsArgument a.toList

/-! ## Arguments from tokens -/

/-- What tokens mean can be an argument. -/
theorem isArgument_meant (tokens : List Token) : IsArgument (tokens.flatMap Token.meant) := by
  induction tokens with
  | nil => exact .nil
  | cons token tokens ih =>
    rw [List.flatMap_cons]
    cases token with
    | escaped c hc =>
      rw [Token.meant]
      by_cases hquote : c = '\''
      · rw [if_pos hquote, hquote]
        exact .quote ih
      · rw [if_neg hquote]
        exact .escaped ⟨hquote, hc⟩ ih
    | plain c hquote hbackslash => exact .plain ⟨hquote, hbackslash⟩ ih

/-- The arguments that a spelling can have are what tokens stand for. -/
theorem isArgument_iff {cs : List Char} : IsArgument cs ↔ ∃ tokens : List Token, tokens.flatMap Token.meant = cs := by
  constructor
  · intro h
    induction h with
    | nil => exact ⟨[], rfl⟩
    | quote _ ih =>
      obtain ⟨tokens, rfl⟩ := ih
      exact ⟨.escaped '\'' (by decide) :: tokens, rfl⟩
    | plain hc _ ih =>
      obtain ⟨tokens, rfl⟩ := ih
      exact ⟨.plain _ hc.1 hc.2 :: tokens, rfl⟩
    | escaped hc _ ih =>
      obtain ⟨tokens, rfl⟩ := ih
      refine ⟨.escaped _ hc.2 :: tokens, ?_⟩
      rw [List.flatMap_cons, Token.meant, if_neg hc.1]
      rfl
  · rintro ⟨tokens, rfl⟩
    exact isArgument_meant tokens

/-- Putting a backslash before each quote gives the tokens back: only quotes lose theirs when they are read. -/
theorem escape_meant (tokens : List Token) : escape (tokens.flatMap Token.meant) = raw tokens := by
  induction tokens with
  | nil => rfl
  | cons token tokens ih =>
    rw [raw, List.flatMap_cons, List.flatMap_cons, ← raw, ← ih]
    cases token with
    | escaped c hc =>
      by_cases hquote : c = '\''
      · subst hquote
        rfl
      · simp [Token.meant, Token.spelled, escape, hquote]
    | plain c hquote hbackslash => simp [Token.meant, Token.spelled, escape, hquote]

/-! ## Spelling what is read, and reading what is spelled -/

/-- A variable is spelled as it was read. -/
theorem Spelled.spelling_toVariable (s : Spelled) : s.toVariable.spelling = s.text := by
  obtain ⟨name, argument, hne, hchars⟩ := s
  cases argument with
  | none => rfl
  | some tokens =>
    simp only [spelling, toVariable, Option.map_some, text, String.toList_ofList, escape_meant]

/-- The variables that can be spelled are those that can be read. -/
theorem isSpellable_iff {v : Variable} : v.IsSpellable ↔ ∃ s : Spelled, s.toVariable = v := by
  constructor
  · rintro ⟨hne, hchars, hargument⟩
    obtain ⟨name, argument⟩ := v
    cases argument with
    | none => exact ⟨⟨name, none, hne, hchars⟩, rfl⟩
    | some a =>
      obtain ⟨tokens, htokens⟩ := isArgument_iff.mp (hargument a rfl)
      refine ⟨⟨name, some tokens, hne, hchars⟩, ?_⟩
      rw [Spelled.toVariable, Option.map_some, htokens, String.ofList_toList]
  · rintro ⟨s, rfl⟩
    refine ⟨s.name_ne_empty, s.name_chars, ?_⟩
    intro a ha
    obtain ⟨tokens, -, rfl⟩ := Option.map_eq_some_iff.mp ha
    rw [String.toList_ofList]
    exact isArgument_meant tokens

/-- A text that is a variable is the spelling of what it is read as. -/
theorem spelling_of_parse? {t : String} {v : Variable} (h : parse? t = some v) : v.spelling = t := by
  obtain ⟨s, rfl, rfl⟩ := parse?_eq_some_iff.mp h
  exact s.spelling_toVariable

/-- A variable that is read from a text has that text as its spelling, so no two texts are read as the same variable. A
variable is read back from its spelling exactly if its name and argument are such as a spelling can have. -/
theorem spellings_correspond :
    (∀ (t : String) (v : Variable), parse? t = some v → v.spelling = t) ∧
    (∀ (t t' : String) (v : Variable), parse? t = some v → parse? t' = some v → t = t') ∧
    ∀ v : Variable, v.IsSpellable ↔ parse? v.spelling = some v := by
  refine ⟨fun t v => spelling_of_parse?, ?_, ?_⟩
  · intro t t' v h h'
    rw [← spelling_of_parse? h, ← spelling_of_parse? h']
  · intro v
    constructor
    · intro h
      obtain ⟨s, rfl⟩ := isSpellable_iff.mp h
      exact parse?_eq_some_iff.mpr ⟨s, s.spelling_toVariable.symm, rfl⟩
    · intro h
      obtain ⟨s, -, rfl⟩ := parse?_eq_some_iff.mp h
      exact isSpellable_iff.mpr ⟨s, rfl⟩

/-- A variable whose argument holds a quote and, before it, a backslash that keeps another one. -/
theorem spellings_correspond_quoted :
    (parse? "$/a:'\\\\\\''/" = some ⟨"a", some "\\\\'"⟩ ∧ spelling ⟨"a", some "\\\\'"⟩ = "$/a:'\\\\\\''/") ∧
    (∀ t, parse? t = some ⟨"a", some "\\\\'"⟩ → t = "$/a:'\\\\\\''/") ∧
    IsSpellable ⟨"a", some "\\\\'"⟩ ∧ parse? (spelling ⟨"a", some "\\\\'"⟩) = some ⟨"a", some "\\\\'"⟩ := by
  have hread : parse? "$/a:'\\\\\\''/" = some ⟨"a", some "\\\\'"⟩ := by decide +kernel
  have hspellable : IsSpellable ⟨"a", some "\\\\'"⟩ := by
    refine ⟨by decide, by simp, ?_⟩
    rintro a ⟨⟩
    exact .escaped (by decide) (.quote .nil)
  have h := spellings_correspond
  exact ⟨⟨hread, h.1 _ _ hread⟩, fun t ht => h.2.1 t _ _ ht hread, hspellable, (h.2.2 _).mp hspellable⟩

end Variable

end SlideFill
