import SlideFill.Proofs.Fill.Text
import SlideFill.Proofs.Mapping.Checked
import SlideFill.Proofs.Mapping.Spelling

/-!
# Checked styles

The check of a style and its reading do not ask the same: the one looks which keys are there and matches digits, the other
asks what counts as true and reads numbers that may fail. `checked_style_sets` says that they agree: a style that passes the
check sets each property that it has a key for to what is given there, and leaves all others alone.
-/

namespace SlideFill

/-- What became of a property: it is as before if there is no value for it, or else what the value gives. -/
inductive IsSet {α : Type} (Gives : Json → α → Prop) (before : Option α) : Option Json → Option α → Prop where
  | absent : IsSet Gives before none before
  | given {j : Json} {a : α} (h : Gives j a) : IsSet Gives before (some j) (some a)

/-- What a value gives as a size: a whole number of points in units of length, or the last whole hundredth of a point up to
any other number of points. -/
inductive GivesSize : Json → Nat → Prop where
  | whole {n : Int} {units : Nat} (h : (units : Int) = n * unitsPerPoint) : GivesSize (.int n) units
  | broken {x : Float} {exact : Int} {units : Nat} (hexact : truncate? (x * Float.ofNat unitsPerPoint) = some exact)
      (hundredths : unitsPerHundredth ∣ units) (hle : units ≤ exact) (hlt : exact < units + unitsPerHundredth) :
      GivesSize (.float x) units

/-- What a value gives as a colour: six hexadecimal digits in capitals, with perhaps a `#` before them and blanks around. -/
inductive GivesColor : Json → Color → Prop where
  | spelled {before mark digits behind : List Char} {c : Color} (hbefore : before.all Text.isBlank)
      (hmark : mark = [] ∨ mark = ['#']) (hlength : digits.length = 6)
      (hdigits : ∀ d ∈ digits, d ∈ "0123456789abcdefABCDEF".toList) (hbehind : behind.all Text.isBlank)
      (hcolor : c.hex = String.ofList (digits.map Char.toUpper)) :
      GivesColor (.string (String.ofList (before ++ mark ++ digits ++ behind))) c

/-- A flag of a font. -/
def Font.flag (f : Font) : StyleFlag → Option Bool
  | .bold => f.bold
  | .italic => f.italic
  | .underline => f.underline

/-- Whether a font is another one with the properties set that the fields of a style have values for. -/
structure Style.Sets (fields : List (String × Json)) (before after : Font) : Prop where
  flags : ∀ k : StyleFlag, IsSet (fun j b => j = .bool b) (before.flag k) (fields.lookup k.name) (after.flag k)
  size : IsSet GivesSize before.size (fields.lookup "size") after.size
  color : IsSet GivesColor before.color (fields.lookup "color") after.color
  name : IsSet (fun j s => j = .string s) before.name (fields.lookup "font") after.name

/-! ## Colours -/

namespace Color

/-- The hexadecimal digits in capitals. -/
def capitals : List Char :=
  "0123456789ABCDEF".toList

/-- Two characters make a byte if they are a number in its range. -/
theorem byte?_eq (cs : List Char) :
    byte? cs = (Literal.signed? 16 (Literal.core cs)).bind fun n =>
      if 0 ≤ n ∧ n < 256 then some n.toNat.toUInt8 else none := by
  rw [byte?, Literal.int?, String.toList_ofList]
  cases Literal.signed? 16 (Literal.core cs) <;> rfl

/-- Two digits are read as the byte that they are the digits of. -/
theorem byte?_pair {a b : Char} (ha : a ∈ capitals) (hb : b ∈ capitals) :
    ∃ n, byte? [a, b] = some n ∧ pair n = [a, b] := by
  have htable : capitals.all fun a => capitals.all fun b => (byte? [a, b]).map pair == some [a, b] := by
    -- the table is computed from characters, since a text of them would be encoded and decoded for each pair
    simp only [byte?_eq]
    decide +kernel
  have hpair := List.all_eq_true.mp (List.all_eq_true.mp htable a ha) b hb
  exact Option.map_eq_some_iff.mp (beq_iff_eq.mp hpair)

/-- Six digits are read as the colour that they are the digits of. -/
theorem ofDigits?_of_capitals {cs : List Char} (hlength : cs.length = 6) (hcapitals : ∀ c ∈ cs, c ∈ capitals) :
    ∃ c, ofDigits? cs = some c ∧ c.hex = String.ofList cs := by
  obtain ⟨c₁, c₂, c₃, c₄, c₅, c₆, rfl⟩ : ∃ c₁ c₂ c₃ c₄ c₅ c₆, cs = [c₁, c₂, c₃, c₄, c₅, c₆] := by
    match cs, hlength with
    | [c₁, c₂, c₃, c₄, c₅, c₆], _ => exact ⟨c₁, c₂, c₃, c₄, c₅, c₆, rfl⟩
  simp only [List.forall_mem_cons] at hcapitals
  obtain ⟨h₁, h₂, h₃, h₄, h₅, h₆, -⟩ := hcapitals
  obtain ⟨red, hred, hredPair⟩ := byte?_pair h₁ h₂
  obtain ⟨green, hgreen, hgreenPair⟩ := byte?_pair h₃ h₄
  obtain ⟨blue, hblue, hbluePair⟩ := byte?_pair h₅ h₆
  refine ⟨⟨red, green, blue⟩, ?_, ?_⟩
  · simp only [ofDigits?, List.take_succ_cons, List.take_zero, List.drop_succ_cons, List.drop_zero, hred, hgreen, hblue]
  · simp only [hex, hredPair, hgreenPair, hbluePair, List.cons_append, List.nil_append]

/-- Hexadecimal digits are ASCII. -/
theorem toNat_of_hex {c : Char} (h : (Json.Reader.hex? c).isSome) : c.toNat < 128 := by
  by_contra hlarge
  have hnot : ∀ d : Char, d.toNat < 128 → ¬c ≤ d := by
    intro d hd hle
    have hle' : c.toNat ≤ d.toNat := hle
    omega
  rw [Json.Reader.hex?, if_neg fun hrange => hnot '9' (by decide) hrange.2,
    if_neg fun hrange => hnot 'f' (by decide) hrange.2, if_neg fun hrange => hnot 'F' (by decide) hrange.2] at h
  cases h

/-- A hexadecimal digit is an ASCII one, and its capital form is a single digit. -/
theorem capital_of_hex {c : Char} (h : (Json.Reader.hex? c).isSome) :
    c ∈ "0123456789abcdefABCDEF".toList ∧ Text.capital c = [c.toUpper] ∧ c.toUpper ∈ capitals :=
  Text.ascii_forall (P := fun c => (Json.Reader.hex? c).isSome →
    c ∈ "0123456789abcdefABCDEF".toList ∧ Text.capital c = [c.toUpper] ∧ c.toUpper ∈ capitals)
    (by decide +kernel) (toNat_of_hex h) h

/-- A mark in front is all that is taken off. -/
theorem withoutHash_split (cs : List Char) : ∃ mark, cs = mark ++ withoutHash cs ∧ (mark = [] ∨ mark = ['#']) := by
  unfold withoutHash
  split
  · exact ⟨['#'], rfl, .inr rfl⟩
  · exact ⟨[], rfl, .inl rfl⟩

/-- What passes the check is a string whose digits are hexadecimal and six. -/
theorem digits_of_checked {j : Json} (h : Check.isColor j) :
    ∃ s, j = .string s ∧ (withoutHash (Text.trimChars s.toList)).length = 6 ∧
      ∀ c ∈ withoutHash (Text.trimChars s.toList), (Json.Reader.hex? c).isSome := by
  cases j with
  | string s =>
    refine ⟨s, rfl, ?_⟩
    have hdigits : (withoutHash (Text.trimChars s.toList)).length = 6 &&
        (withoutHash (Text.trimChars s.toList)).all fun c => (Json.Reader.hex? c).isSome := h
    simpa using hdigits
  | _ => cases h

/-- A colour that passes its check is read as what is spelled. -/
theorem gives_of_checked {j : Json} (h : Check.isColor j) : ∃ c, ofJson? j = some c ∧ GivesColor j c := by
  obtain ⟨s, rfl, hlength, hhex⟩ := digits_of_checked h
  obtain ⟨before, behind, hchars, hbefore, hbehind⟩ := Text.trimChars_split s.toList
  obtain ⟨mark, hmarked, hmark⟩ := withoutHash_split (Text.trimChars s.toList)
  have hread : ofJson? (.string s) = ofDigits? ((withoutHash (Text.trimChars s.toList)).flatMap Text.capital) := by
    rw [ofJson?, spellingOf_string]
    exact if_pos hlength
  generalize withoutHash (Text.trimChars s.toList) = digits at *
  have hupper : digits.flatMap Text.capital = digits.map Char.toUpper := by
    rw [List.map_eq_flatMap]
    exact List.flatMap_congr fun c hc => (capital_of_hex (hhex c hc)).2.1
  have hcapitals : ∀ c ∈ digits.map Char.toUpper, c ∈ capitals :=
    List.forall_mem_map.mpr fun d hd => (capital_of_hex (hhex d hd)).2.2
  obtain ⟨c, hc, hcolor⟩ := ofDigits?_of_capitals (by rw [List.length_map]; exact hlength) hcapitals
  refine ⟨c, by rw [hread, hupper, hc], ?_⟩
  have hs : s = String.ofList (before ++ mark ++ digits ++ behind) := by
    rw [List.append_assoc before, ← hmarked, ← hchars, String.ofList_toList]
  rw [hs]
  exact .spelled hbefore hmark hlength (fun d hd => (capital_of_hex (hhex d hd)).1) hbehind hcolor

end Color

/-! ## Sizes -/

/-- A size that a font can have is the last whole hundredth of a point up to what is given. -/
theorem fontSize_of_ok {units : Int} {size : Nat} (h : fontSize units = .ok size) :
    unitsPerHundredth ∣ size ∧ size ≤ units ∧ units < size + unitsPerHundredth := by
  unfold fontSize at h
  simp only [unitsPerHundredth, Int.fdiv_eq_ediv_of_nonneg _ (Int.natCast_nonneg _)] at h ⊢
  split at h
  · obtain rfl := Except.ok.inj h
    omega
  · split at h <;> cases h

/-- A floating-point number gives its integer part, if it has one. -/
theorem wholeOfFloat_eq_ok {x : Float} {n : Int} : Json.wholeOfFloat x = .ok n ↔ truncate? x = some n := by
  unfold Json.wholeOfFloat
  constructor
  · intro h
    split at h
    · rename_i hwhole
      rw [hwhole, Except.ok.inj h]
    · cases h
    · cases h
  · intro h
    rw [h]

/-- A size that passes its check and can be set is what is given. -/
theorem gives_of_fontSize {j : Json} {size : Nat} (hpass : Check.isPositive j)
    (h : (unitsOfPoints j).bind fontSize = .ok size) : GivesSize j size := by
  cases j with
  | int n =>
    have hsize : fontSize (n * unitsPerPoint) = .ok size := h
    obtain ⟨hdvd, hle, hlt⟩ := fontSize_of_ok hsize
    refine .whole ?_
    -- a whole point has a hundred hundredths
    simp only [unitsPerPoint, unitsPerHundredth] at *
    omega
  | float x =>
    rw [unitsOfPoints] at h
    cases hwhole : Json.wholeOfFloat (x * Float.ofNat unitsPerPoint) with
    | error fault =>
      rw [hwhole] at h
      cases h
    | ok exact =>
      rw [hwhole] at h
      obtain ⟨hdvd, hle, hlt⟩ := fontSize_of_ok h
      exact .broken (wholeOfFloat_eq_ok.mp hwhole) hdvd hle hlt
  | _ => cases hpass

/-! ## Properties -/

namespace IsSet

/-- A property that a style has something for if there is a value is set to what the value gives. -/
theorem of_or {α : Type} {Gives : Json → α → Prop} {before set : Option α} {given : Option Json}
    (hnone : given = none → set = none) (hsome : ∀ j, given = some j → ∃ a, set = some a ∧ Gives j a) :
    IsSet Gives before given (set.or before) := by
  cases given with
  | none =>
    rw [hnone rfl, Option.none_or]
    exact .absent
  | some j =>
    obtain ⟨a, hset, ha⟩ := hsome j rfl
    rw [hset, Option.some_or]
    exact .given ha

variable {fields : List (String × Json)} {issue : Issue}

/-- A flag that passes its check is set to what it says. -/
theorem flag {key : String} (h : Check.field fields key Check.isBool issue = []) (before : Option Bool) :
    IsSet (fun j b => j = .bool b) before (fields.lookup key) (((fields.lookup key).map Json.truthy).or before) := by
  refine of_or (fun hnone => by rw [hnone]; rfl) fun j hj => ?_
  have hbool := Check.pass_of_field h hj
  rw [hj]
  cases j with
  | bool b => exact ⟨b, rfl, rfl⟩
  | _ => cases hbool

/-- A size that passes its check is set to the units that it gives. -/
theorem size (h : Check.field fields "size" Check.isPositive issue = []) {set : Option Nat}
    (hset : (fields.lookup "size").map (fun j => (unitsOfPoints j).bind fontSize) = set.map .ok) (before : Option Nat) :
    IsSet GivesSize before (fields.lookup "size") (set.or before) := by
  refine of_or (fun hnone => by simpa [hnone] using hset.symm) fun j hj => ?_
  rw [hj, Option.map_some] at hset
  obtain ⟨units, hunits, hok⟩ := Option.map_eq_some_iff.mp hset.symm
  exact ⟨units, hunits, gives_of_fontSize (Check.pass_of_field h hj) hok.symm⟩

/-- A colour that passes its check is set to what its digits give. -/
theorem color (h : Check.field fields "color" Check.isColor issue = []) (before : Option Color) :
    IsSet GivesColor before (fields.lookup "color") (((fields.lookup "color").bind Color.ofJson?).or before) := by
  refine of_or (fun hnone => by rw [hnone]; rfl) fun j hj => ?_
  rw [hj, Option.bind_some]
  exact Color.gives_of_checked (Check.pass_of_field h hj)

/-- The name of a font that passes its check is set to what it says. -/
theorem name (h : Check.field fields "font" Check.isFilledString issue = []) (before : Option String) :
    IsSet (fun j s => j = .string s) before (fields.lookup "font")
      ((((fields.lookup "font").filter Json.truthy).map Json.text).or before) := by
  refine of_or (fun hnone => by rw [hnone]; rfl) fun j hj => ?_
  have hfilled := Check.pass_of_field h hj
  cases j with
  | string s =>
    have htrue : (Json.string s).truthy := by
      rw [Json.truthy, bne_iff_ne]
      rintro rfl
      cases hfilled
    rw [hj, Option.filter_some, if_pos htrue]
    exact ⟨s, rfl, rfl⟩
  | _ => cases hfilled

end IsSet

/-! ## Styles -/

namespace Style

/-- A style that is applied to its end leaves the font with all that it sets. -/
theorem applyFace_of_done {s : Style} {f : Font} (h : (s.applyFace f).2 = none) : (s.applyFace f).1 = s.withFace f := by
  unfold applyFace at h ⊢
  split
  · rfl
  · rename_i hunstorable
    rw [if_neg hunstorable] at h
    cases h

/-- A style that sets all that it has leaves each property as it was or makes it what the style has. The size is one that
a font can have. -/
theorem apply_of_done {s : Style} {f : Font} (h : (s.apply f).2 = none) :
    ∃ size : Option Nat, s.size = size.map .ok ∧
      (s.apply f).1 = ⟨s.bold.or f.bold, s.italic.or f.italic, s.underline.or f.underline, s.font.or f.name,
        size.or f.size, s.color.or f.color⟩ := by
  unfold apply at h ⊢
  cases hsize : s.size with
  | none =>
    rw [hsize] at h
    exact ⟨none, rfl, applyFace_of_done h⟩
  | some outcome =>
    cases outcome with
    | ok units =>
      rw [hsize] at h
      exact ⟨some units, rfl, applyFace_of_done h⟩
    | error fault =>
      rw [hsize] at h
      cases h

/-- A style that passes its check and can be applied sets what its fields have values for, and nothing else. -/
theorem sets_of_checked {name : String} {fields : List (String × Json)} (hcheck : Check.style name (.object fields) = [])
    {f : Font} (hdone : ((ofFields fields).apply f).2 = none) : Sets fields f ((ofFields fields).apply f).1 := by
  obtain ⟨size, hsize, hafter⟩ := apply_of_done hdone
  simp only [Check.style, List.append_eq_nil_iff, List.flatMap_eq_nil_iff] at hcheck
  obtain ⟨⟨⟨⟨-, hflags⟩, hpositive⟩, hcolor⟩, hfont⟩ := hcheck
  rw [hafter]
  refine ⟨fun k => ?_, .size hpositive hsize f.size, .color hcolor f.color, .name hfont f.name⟩
  have hflag := IsSet.flag (hflags k (by cases k <;> decide)) (f.flag k)
  cases k <;> exact hflag

end Style

/-- A run that a style is applied to is the run as it is without a style, but for the font. -/
theorem Run.direct_of_styled {m : Mapping} {r : Run} {v : Variable} {s : Style} (hvar : r.variable? = some v)
    (hstyle : m.style v.name = some s) (hdone : (s.apply r.font).2 = none) (alone : Bool) :
    (r.direct m alone).after =
      { (r.direct { m with style := fun _ => none } alone).after with font := (s.apply r.font).1 } := by
  have hhides : ({ m with style := fun _ => none } : Mapping).hides v = m.hides v := rfl
  have hstyled : m.restyle v r.font = s.apply r.font := by rw [Mapping.restyle, hstyle, Font.restyle]
  have hplain : ({ m with style := fun _ => none } : Mapping).restyle v r.font = (r.font, none) := rfl
  rw [direct_eq, direct_eq, hvar]
  cases hh : m.hides v <;> cases alone <;> simp [hstyled, hplain, hdone, hhides, hh]

/-- A style of data without issues can be read. Where it is applied without a fault, each property that it has a key for is
as given there and each other one as before, and a run that it styles is the run as it is without it, but for the font. -/
theorem checked_style_sets {data : Json} {name : String} {fields : List (String × Json)} (hvalid : validate data = .ok data)
    (hentry : (name, .object fields) ∈ data.entriesOf .style) :
    ∃ s, Style.ofJson (.object fields) = .ok s ∧
      (∀ f, (s.apply f).2 = none → Style.Sets fields f (s.apply f).1) ∧
      ∀ (m : Mapping) (alone : Bool) (r : Run) (v : Variable), r.variable? = some v → m.style v.name = some s →
        (s.apply r.font).2 = none →
          (r.direct m alone).after =
            { (r.direct { m with style := fun _ => none } alone).after with font := (s.apply r.font).1 } := by
  have hcheck := (OfData.entries_eq (checkData_of_validate hvalid) .style).2 _ hentry
  exact ⟨Style.ofFields fields, rfl, fun f => Style.sets_of_checked hcheck, fun m alone r v hvar hstyle hdone =>
    Run.direct_of_styled hvar hstyle hdone alone⟩

/-- The fields of a style that turns bold off and sets size, colour and font name. -/
def plainFields : List (String × Json) :=
  [("bold", .bool false), ("size", .int 14), ("color", .string " #c0ffee\t"), ("font", .string "Arial")]

/-- A style that sets a flag, a size, a colour and a font, and leaves the other flags of the run. -/
theorem checked_style_sets_plain :
    ∃ s, Style.ofJson (.object plainFields) = .ok s ∧
      Style.Sets plainFields { bold := some true, italic := some true }
        ⟨some false, some true, none, some "Arial", some 177800, some ⟨0xC0, 0xFF, 0xEE⟩⟩ := by
  have hvalid : validate (.object [("style", .object [("title", .object plainFields)])]) =
      .ok (.object [("style", .object [("title", .object plainFields)])]) := if_pos (by decide +kernel)
  have hentry : ("title", .object plainFields) ∈
      (Json.object [("style", .object [("title", .object plainFields)])]).entriesOf .style := List.mem_cons_self
  obtain ⟨s, hread, hsets, -⟩ := checked_style_sets hvalid hentry
  obtain rfl : Style.ofFields plainFields = s := Except.ok.inj hread
  have happly : ((Style.ofFields plainFields).apply { bold := some true, italic := some true }).2 = none :=
    Option.isNone_iff_eq_none.mp (by decide +kernel)
  have hafter : ((Style.ofFields plainFields).apply { bold := some true, italic := some true }).1 =
      ⟨some false, some true, none, some "Arial", some 177800, some ⟨0xC0, 0xFF, 0xEE⟩⟩ := by decide +kernel
  exact ⟨_, hread, hafter ▸ hsets _ happly⟩

end SlideFill
