import Mathlib.Data.List.TakeWhile
import SlideFill.Variable.Basic

/-!
# The grammar of variables

A variable is spelled by a name and, if it has an argument, by the tokens of that (`Spelled`). What a text starts with is
read as a variable exactly if the text starts with a spelled one, and what follows that is left over
(`lead?_eq_some_iff`). `parse_reads_grammar` says so of whole texts; it also says that a text is spelled in one way only,
and that taking the backslashes off the quotes of an argument as a whole is reading it token by token.
-/

namespace SlideFill

namespace Variable

/-- A piece of an argument as spelled: a backslash with the character behind it, or a character alone. -/
inductive Token where
  | escaped (c : Char) (h : c ≠ '\n')
  | plain (c : Char) (hquote : c ≠ '\'') (hbackslash : c ≠ '\\')
deriving DecidableEq

namespace Token

/-- The characters of a token. -/
def spelled : Token → List Char
  | escaped c _ => ['\\', c]
  | plain c _ _ => [c]

/-- What a token stands for: a quote if that is what is escaped, and its own characters otherwise. -/
def meant : Token → List Char
  | escaped c _ => if c = '\'' then [c] else ['\\', c]
  | plain c _ _ => [c]

end Token

/-- The characters of an argument as spelled. -/
def raw (tokens : List Token) : List Char :=
  tokens.flatMap Token.spelled

/-- A variable as spelled: a name that is not empty and holds neither `/` nor `:`, and the tokens of the argument if there
is one. -/
structure Spelled where
  name : String
  argument : Option (List Token)
  name_ne_empty : name ≠ ""
  name_chars : ∀ c ∈ name.toList, c ≠ '/' ∧ c ≠ ':'

namespace Spelled

/-- The text that spells a variable. -/
def text (s : Spelled) : String :=
  match s.argument with
  | none => "$/" ++ s.name ++ "/"
  | some tokens => "$/" ++ s.name ++ ":'" ++ String.ofList (raw tokens) ++ "'/"

/-- The variable that is spelled: each token of the argument gives what it stands for. -/
def toVariable (s : Spelled) : Variable :=
  ⟨s.name, s.argument.map fun tokens => String.ofList (tokens.flatMap Token.meant)⟩

/-- The characters of a text behind the name. -/
def ending : Option (List Token) → List Char
  | none => ['/']
  | some tokens => ':' :: '\'' :: (raw tokens ++ ['\'', '/'])

/-- A spelled variable begins with its marker, and its name and ending follow. -/
theorem toList_text (s : Spelled) : s.text.toList = '$' :: '/' :: (s.name.toList ++ ending s.argument) := by
  rw [text]
  cases s.argument with
  | none => simp [ending]
  | some tokens => simp [ending]

end Spelled

/-! ## Arguments -/

/-- A character that is neither a quote nor a backslash stands for itself. -/
theorem rawArgument?_plain {c : Char} (hquote : c ≠ '\'') (hbackslash : c ≠ '\\') (rest : List Char) :
    rawArgument? (c :: rest) = (rawArgument? rest).map fun (raw, after) => (c :: raw, after) := by
  rw [rawArgument?] <;> simp_all

/-- Tokens are read up to the quote behind them, since none of them is a quote alone. -/
theorem rawArgument?_raw (tokens : List Token) (rest : List Char) :
    rawArgument? (raw tokens ++ '\'' :: rest) = some (raw tokens, rest) := by
  induction tokens with
  | nil => rfl
  | cons token tokens ih =>
    rw [raw] at ih
    cases token with
    | escaped c h => simp [raw, Token.spelled, rawArgument?, h, ih]
    | plain c hquote hbackslash => simp [raw, Token.spelled, rawArgument?_plain hquote hbackslash, ih]

/-- What is read as an argument is made of tokens. -/
theorem eq_raw_of_rawArgument? {cs r rest : List Char} (h : rawArgument? cs = some (r, rest)) :
    ∃ tokens, r = raw tokens ∧ cs = r ++ '\'' :: rest := by
  fun_induction rawArgument? cs generalizing r rest with
  | case1 => cases h
  | case2 after =>
    cases h
    exact ⟨[], rfl, rfl⟩
  | case3 => cases h
  | case4 after => cases h
  | case5 c after hc ih =>
    obtain ⟨⟨r', rest'⟩, hr', heq⟩ := Option.map_eq_some_iff.mp h
    cases heq
    obtain ⟨tokens, rfl, rfl⟩ := ih hr'
    exact ⟨.escaped c hc :: tokens, rfl, rfl⟩
  | case6 c after hquote hend hescaped ih =>
    have hbackslash : c ≠ '\\' := by
      rintro rfl
      cases after with
      | nil => exact hend rfl rfl
      | cons d after => exact hescaped d after rfl rfl
    obtain ⟨⟨r', rest'⟩, hr', heq⟩ := Option.map_eq_some_iff.mp h
    cases heq
    obtain ⟨tokens, rfl, rfl⟩ := ih hr'
    exact ⟨.plain c hquote hbackslash :: tokens, rfl, rfl⟩

/-- The first character tells which kind of token comes first, so an argument is made of tokens in one way only. -/
theorem raw_injective : Function.Injective raw := by
  intro tokens tokens' h
  induction tokens generalizing tokens' with
  | nil =>
    cases tokens' with
    | nil => rfl
    | cons token' tokens' => cases token' <;> cases h
  | cons token tokens ih =>
    cases tokens' with
    | nil => cases token <;> cases h
    | cons token' tokens' =>
      simp only [raw, List.flatMap_cons] at h ih
      -- A plain token is never a backslash, so tokens of different kinds differ in their first character.
      cases token with
      | escaped c hc =>
        cases token' with
        | escaped d hd =>
          simp only [Token.spelled, List.cons_append, List.nil_append, List.cons.injEq] at h
          obtain ⟨-, rfl, hrest⟩ := h
          rw [ih hrest]
        | plain d hquote hbackslash => exact absurd (List.cons.inj h).1.symm hbackslash
      | plain c hquote hbackslash =>
        cases token' with
        | escaped d hd => exact absurd (List.cons.inj h).1 hbackslash
        | plain d hquote' hbackslash' =>
          obtain ⟨rfl, hrest⟩ := List.cons.inj h
          rw [ih hrest]

/-! ## Quotes in arguments -/

/-- No token starts with a quote. -/
theorem raw_ne_quote_cons (tokens : List Token) (rest : List Char) : raw tokens ≠ '\'' :: rest := by
  intro h
  cases tokens with
  | nil => cases h
  | cons token tokens =>
    cases token with
    | escaped c hc => cases h
    | plain c hquote hbackslash => exact hquote (List.cons.inj h).1

/-- A character that is no backslash before a quote is kept. -/
theorem unescape_cons {c : Char} {cs : List Char} (h : c = '\\' → ∀ rest, cs ≠ '\'' :: rest) :
    unescape (c :: cs) = c :: unescape cs := by
  rw [unescape]
  rintro rest rfl
  exact h rfl rest

/-- Taking the backslashes off the quotes is reading token by token: a backslash that another one escapes is the last
character of its token, and no token behind it starts with a quote. -/
theorem unescape_raw (tokens : List Token) : unescape (raw tokens) = tokens.flatMap Token.meant := by
  induction tokens with
  | nil => rfl
  | cons token tokens ih =>
    have hquote : ∀ rest, raw tokens ≠ '\'' :: rest := raw_ne_quote_cons tokens
    rw [List.flatMap_cons, ← ih]
    cases token with
    | escaped c hc =>
      change unescape ('\\' :: c :: raw tokens) = _
      by_cases hc : c = '\''
      · subst hc
        rfl
      · rw [unescape_cons fun _ rest h => hc (List.cons.inj h).1, unescape_cons fun _ => hquote, Token.meant, if_neg hc]
        rfl
    | plain c _ hbackslash => exact unescape_cons fun h => absurd h hbackslash

/-! ## What a text starts with -/

/-- A name has neither slashes nor colons. -/
theorem isNameChar_iff {c : Char} : isNameChar c ↔ c ≠ '/' ∧ c ≠ ':' := by
  simp [isNameChar]

namespace Spelled

/-- Two arguments with one spelling are one argument. -/
theorem ending_injective : Function.Injective ending := by
  intro argument argument' h
  cases argument with
  | none =>
    cases argument' with
    | none => rfl
    | some tokens' => cases h
  | some tokens =>
    cases argument' with
    | none => cases h
    | some tokens' =>
      simp only [ending, List.cons.injEq, true_and, List.append_cancel_right_eq] at h
      rw [raw_injective h]

/-- The name ends where the ending starts. -/
theorem exists_ending_cons (argument : Option (List Token)) (rest : List Char) :
    ∃ d tail, ending argument ++ rest = d :: tail ∧ ¬isNameChar d := by
  cases argument with
  | none => exact ⟨'/', rest, rfl, by decide⟩
  | some tokens => exact ⟨':', _, rfl, by decide⟩

/-- A spelled ending is read as what its tokens mean, whatever follows it. -/
theorem ending?_ending (argument : Option (List Token)) (rest : List Char) :
    ending? (ending argument ++ rest) =
      some (argument.map fun tokens => String.ofList (tokens.flatMap Token.meant), rest) := by
  cases argument with
  | none => rfl
  | some tokens =>
    have hraw := rawArgument?_raw tokens ('/' :: rest)
    simp [ending, ending?, hraw, unescape_raw]

end Spelled

/-- What is read as an ending is the spelling of one. -/
theorem eq_ending_of_ending? {cs rest : List Char} {argument : Option String}
    (h : ending? cs = some (argument, rest)) :
    ∃ tokens?, cs = Spelled.ending tokens? ++ rest ∧
      argument = tokens?.map fun tokens => String.ofList (tokens.flatMap Token.meant) := by
  unfold ending? at h
  split at h
  · cases h
    exact ⟨none, rfl, rfl⟩
  · split at h
    · rename_i r after hr
      cases h
      obtain ⟨tokens, rfl, rfl⟩ := eq_raw_of_rawArgument? hr
      refine ⟨some tokens, ?_, by rw [unescape_raw]; rfl⟩
      simp [Spelled.ending]
    · cases h
  · cases h

/-- A spelled variable is read at the start of a text, whatever follows it. -/
theorem lead?_spelled (s : Spelled) (rest : List Char) :
    lead? (s.text.toList ++ rest) = some (s.toVariable, rest) := by
  obtain ⟨d, tail, hending, hd⟩ := Spelled.exists_ending_cons s.argument rest
  have hname : ∀ c ∈ s.name.toList, isNameChar c := fun c hc => isNameChar_iff.mpr (s.name_chars c hc)
  have hne : s.name.toList ≠ [] := fun h => s.name_ne_empty (String.toList_eq_nil_iff.mp h)
  have htake : (s.name.toList ++ (Spelled.ending s.argument ++ rest)).takeWhile isNameChar = s.name.toList := by
    rw [hending, List.takeWhile_append_of_pos hname, List.takeWhile_cons_of_neg hd, List.append_nil]
  have hdrop : (s.name.toList ++ (Spelled.ending s.argument ++ rest)).dropWhile isNameChar =
      Spelled.ending s.argument ++ rest := by
    rw [List.dropWhile_append_of_pos hname, hending, List.dropWhile_cons_of_neg hd]
  rw [Spelled.toList_text, List.cons_append, List.cons_append, List.append_assoc, lead?]
  simp [htake, hdrop, Spelled.ending?_ending, hne, Spelled.toVariable]

/-- What is read at the start of a text is a spelled variable. -/
theorem exists_spelled_of_lead? {cs rest : List Char} {v : Variable} (h : lead? cs = some (v, rest)) :
    ∃ s : Spelled, s.text.toList ++ rest = cs ∧ s.toVariable = v := by
  unfold lead? at h
  split at h
  · rename_i body
    dsimp only at h
    split at h
    · cases h
    · rename_i hne
      obtain ⟨⟨argument, rest'⟩, hending, heq⟩ := Option.map_eq_some_iff.mp h
      cases heq
      obtain ⟨tokens?, hdrop, rfl⟩ := eq_ending_of_ending? hending
      refine ⟨⟨String.ofList (body.takeWhile isNameChar), tokens?, ?_, ?_⟩, ?_, rfl⟩
      · intro hempty
        rw [String.ofList_eq_empty_iff] at hempty
        simp [hempty] at hne
      · intro c hc
        rw [String.toList_ofList] at hc
        exact isNameChar_iff.mp (List.mem_takeWhile_imp hc)
      · rw [Spelled.toList_text]
        change '$' :: '/' :: ((String.ofList (body.takeWhile isNameChar)).toList ++ Spelled.ending tokens? ++ rest') = _
        rw [String.toList_ofList, List.append_assoc, ← hdrop, List.takeWhile_append_dropWhile]
  · cases h

/-- A text starts with a variable exactly if it starts with a text that spells it. -/
theorem lead?_eq_some_iff {cs rest : List Char} {v : Variable} :
    lead? cs = some (v, rest) ↔ ∃ s : Spelled, s.text.toList ++ rest = cs ∧ s.toVariable = v := by
  constructor
  · exact exists_spelled_of_lead?
  · rintro ⟨s, rfl, rfl⟩
    exact lead?_spelled s rest

/-- A text starts with one spelled variable at most: none is the start of another one. -/
theorem Spelled.eq_of_append_eq {s s' : Spelled} {rest rest' : List Char}
    (h : s.text.toList ++ rest = s'.text.toList ++ rest') : s = s' ∧ rest = rest' := by
  have hlead := lead?_spelled s rest
  rw [h, lead?_spelled s' rest'] at hlead
  obtain ⟨hv, rfl⟩ := Prod.mk.inj (Option.some.inj hlead)
  have htext := List.append_cancel_right h
  obtain ⟨name, argument, hne, hchars⟩ := s
  obtain ⟨name', argument', hne', hchars'⟩ := s'
  obtain rfl : name' = name := congrArg Variable.name hv
  rw [toList_text, toList_text, List.cons.injEq, List.cons.injEq, List.append_cancel_left_eq] at htext
  obtain rfl : argument = argument' := ending_injective htext.2.2
  exact ⟨rfl, rfl⟩

/-! ## Whole texts -/

/-- A text is a variable exactly if one is read at its start and nothing follows. -/
theorem parse?_eq_some {t : String} {v : Variable} : parse? t = some v ↔ lead? t.toList = some (v, []) := by
  unfold parse?
  split
  · rename_i v' h
    simp [h]
  · rename_i h
    constructor
    · intro hv
      cases hv
    · intro hv
      exact absurd hv (h v)

/-- A text is a variable exactly if it is the spelling of one. -/
theorem parse?_eq_some_iff {t : String} {v : Variable} :
    parse? t = some v ↔ ∃ s : Spelled, s.text = t ∧ s.toVariable = v := by
  rw [parse?_eq_some, lead?_eq_some_iff]
  simp only [List.append_nil, String.toList_inj]

/-- A text is read as a variable exactly if it spells that: its name, and for each token of its argument what the token
stands for. It spells a variable in one way only, and an argument comes out the same if the backslashes are taken off
its quotes without regard to the tokens. -/
theorem parse_reads_grammar :
    (∀ (t : String) (v : Variable), parse? t = some v ↔ ∃ s : Spelled, s.text = t ∧ s.toVariable = v) ∧
    Function.Injective Spelled.text ∧
    ∀ tokens : List Token, unescape (raw tokens) = tokens.flatMap Token.meant := by
  refine ⟨fun t v => parse?_eq_some_iff, ?_, unescape_raw⟩
  intro s s' h
  exact (Spelled.eq_of_append_eq (congrArg (fun t => t.toList ++ []) h)).1

/-- An even number of backslashes before a quote closes the argument, an odd number does not. -/
example : parse? "$/a:'x\\\\'/" = some ⟨"a", some "x\\\\"⟩ ∧ parse? "$/a:'x\\\\\\'/" = none := by
  decide +kernel

end Variable

end SlideFill
