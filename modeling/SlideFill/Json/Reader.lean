import SlideFill.Json.Basic
import SlideFill.Number.Literal

/-!
# Reading data documents

Reads JSON, with the words `NaN`, `Infinity` and `-Infinity` as numbers besides. `Json.read` gives the value of a
document or the first place where it is no document. A field given twice keeps its first place and its last value.
Whole numbers may have up to `Json.maxDigits` digits, and up to `Json.maxDepth` lists and objects may stand inside each
other. Half of a surrogate pair that stands alone is read as a character that no deck can hold (`Json.Reader.loneHalf`).
-/

namespace SlideFill

namespace Json

/-- What can be wrong with a document. -/
inductive Problem where
  | noValue
  | noPropertyName
  | noColon
  | noComma
  | extraData
  | unterminated
  | controlCharacter
  | badEscape
  | badUnicodeEscape
  | byteOrderMark
deriving DecidableEq

/-- The wording of a problem. -/
def Problem.message : Problem → String
  | .noValue => "Expecting value"
  | .noPropertyName => "Expecting property name enclosed in double quotes"
  | .noColon => "Expecting ':' delimiter"
  | .noComma => "Expecting ',' delimiter"
  | .extraData => "Extra data"
  | .unterminated => "Unterminated string starting at"
  | .controlCharacter => "Invalid control character at"
  | .badEscape => "Invalid \\escape"
  | .badUnicodeEscape => "Invalid \\uXXXX escape"
  | .byteOrderMark => "Unexpected UTF-8 BOM (decode using utf-8-sig)"

/-- A value that holds others. -/
inductive Container where
  | list
  | object
deriving DecidableEq

/-- The name of a container in messages. -/
def Container.name : Container → String
  | .list => "array"
  | .object => "object"

/-- Why reading stops: a problem at an offset, a whole number of too many digits, or a container too far inside
others. -/
inductive Stop where
  | problem (p : Problem) (offset : Nat)
  | tooManyDigits (count : Nat)
  | tooDeep (c : Container)
deriving DecidableEq

/-- The most digits that a whole number may have. -/
def maxDigits : Nat := 4300

/-- How many lists and objects may stand inside each other. -/
def maxDepth : Nat := 991

namespace Reader

/-- What is left to read, and its offset in the document. -/
structure Rest where
  offset : Nat
  chars : List Char

/-- A problem at the place where reading has come to. -/
def Rest.fail {α : Type} (r : Rest) (p : Problem) : Except Stop α :=
  .error (.problem p r.offset)

/-- Whether a character may stand between the parts of a document. -/
def isSpace (c : Char) : Bool :=
  c = ' ' || c = '\t' || c = '\n' || c = '\r'

/-- Reads past the longest stretch of characters of a class. -/
def Rest.past (r : Rest) (p : Char → Bool) : Rest :=
  ⟨r.offset + (r.chars.takeWhile p).length, r.chars.dropWhile p⟩

/-- Reads past the spaces. -/
def Rest.skip (r : Rest) : Rest :=
  r.past isSpace

/-- Reads past one character. -/
def Rest.next (r : Rest) : Rest :=
  ⟨r.offset + 1, r.chars.drop 1⟩

/-- What an escape of one letter stands for. -/
def escapeOf? : Char → Option Char
  | '"' => some '"'
  | '\\' => some '\\'
  | '/' => some '/'
  | 'b' => some '\x08'
  | 'f' => some '\x0c'
  | 'n' => some '\n'
  | 'r' => some '\r'
  | 't' => some '\t'
  | _ => none

/-- The value of a hexadecimal digit. -/
def hex? (c : Char) : Option Nat :=
  if '0' ≤ c ∧ c ≤ '9' then some (c.toNat - 48)
  else if 'a' ≤ c ∧ c ≤ 'f' then some (c.toNat - 87)
  else if 'A' ≤ c ∧ c ≤ 'F' then some (c.toNat - 55)
  else none

/-- The value of four hexadecimal digits. -/
def hex4? (a b c d : Char) : Option Nat :=
  match hex? a, hex? b, hex? c, hex? d with
  | some a, some b, some c, some d => some (((a * 16 + b) * 16 + c) * 16 + d)
  | _, _, _, _ => none

/-- The character that is read for half of a pair that stands alone. Such a half is no character and no deck can hold it,
so it is read as the last code point of the first plane, which no deck can hold either. -/
def loneHalf : Char :=
  '\uFFFF'

/-- The character of a code point. -/
def charOf (code : Nat) : Char :=
  if 0xD800 ≤ code ∧ code < 0xE000 then loneHalf else Char.ofNat code

/-- The characters of a string up to its closing quote, read from an offset on. `start` is where its opening quote
stands. Two escapes that are the halves of a pair give one character. -/
def stringBody (start : Nat) : Nat → List Char → Except Stop (List Char × Rest)
  | _, [] => .error (.problem .unterminated start)
  | pos, '"' :: rest => .ok ([], ⟨pos + 1, rest⟩)
  | _, ['\\'] => .error (.problem .unterminated start)
  | pos, '\\' :: 'u' :: a :: b :: c :: d :: '\\' :: 'u' :: a₂ :: b₂ :: c₂ :: d₂ :: x :: rest =>
    match hex4? a b c d with
    | none => .error (.problem .badUnicodeEscape (pos + 1))
    | some high =>
      if 0xD800 ≤ high ∧ high < 0xDC00 then
        match hex4? a₂ b₂ c₂ d₂ with
        | none => .error (.problem .badUnicodeEscape (pos + 7))
        | some low =>
          if 0xDC00 ≤ low ∧ low < 0xE000 then
            (stringBody start (pos + 12) (x :: rest)).map fun (s, r) =>
              (Char.ofNat (0x10000 + (high - 0xD800) * 0x400 + (low - 0xDC00)) :: s, r)
          else
            (stringBody start (pos + 6) ('\\' :: 'u' :: a₂ :: b₂ :: c₂ :: d₂ :: x :: rest)).map fun (s, r) =>
              (charOf high :: s, r)
      else
        (stringBody start (pos + 6) ('\\' :: 'u' :: a₂ :: b₂ :: c₂ :: d₂ :: x :: rest)).map fun (s, r) =>
          (charOf high :: s, r)
  | pos, '\\' :: 'u' :: a :: b :: c :: d :: x :: rest =>
    match hex4? a b c d with
    | none => .error (.problem .badUnicodeEscape (pos + 1))
    | some code => (stringBody start (pos + 6) (x :: rest)).map fun (s, r) => (charOf code :: s, r)
  | pos, '\\' :: 'u' :: _ => .error (.problem .badUnicodeEscape (pos + 1))
  | pos, '\\' :: c :: rest =>
    match escapeOf? c with
    | none => .error (.problem .badEscape pos)
    | some e => (stringBody start (pos + 2) rest).map fun (s, r) => (e :: s, r)
  | pos, c :: rest =>
    if c.toNat < 0x20 then .error (.problem .controlCharacter pos)
    else (stringBody start (pos + 1) rest).map fun (s, r) => (c :: s, r)

/-- A string, read from its opening quote on. -/
def string (r : Rest) : Except Stop (String × Rest) :=
  (stringBody r.offset (r.offset + 1) (r.chars.drop 1)).map fun (s, rest) => (String.ofList s, rest)

/-- Whether a character is one of the ten digits. -/
def isDigit (c : Char) : Bool :=
  '0' ≤ c && c ≤ '9'

/-- The number that digits spell. -/
def digitsValue (cs : List Char) : Nat :=
  cs.foldl (fun n c => n * 10 + (c.toNat - 48)) 0

/-- The longest stretch of digits at the place reading has come to, and the rest. -/
def digits (r : Rest) : List Char × Rest :=
  (r.chars.takeWhile isDigit, r.past isDigit)

/-- The digits of a fraction, if a point and a digit come next. -/
def fraction? (r : Rest) : Option (List Char × Rest) :=
  match r.chars with
  | '.' :: c :: _ => if isDigit c then some (digits r.next) else none
  | _ => none

/-- The exponent, if the mark of one, perhaps a sign, and a digit come next. -/
def exponent? (r : Rest) : Option (Int × Rest) :=
  match r.chars with
  | 'e' :: _ | 'E' :: _ =>
    let signed := match r.next.chars with
      | '-' :: _ => (true, r.next.next)
      | '+' :: _ => (false, r.next.next)
      | _ => (false, r.next)
    let (ds, rest) := digits signed.2
    if ds.isEmpty then none else some (if signed.1 then -(digitsValue ds : Int) else digitsValue ds, rest)
  | _ => none

/-- A number, read from its sign or first digit on. Without fraction and exponent it is whole. -/
def number (r : Rest) : Except Stop (Json × Rest) :=
  let negative := r.chars.head? = some '-'
  let start := if negative then r.next else r
  let (whole, afterWhole) := match start.chars with
    | '0' :: _ => (['0'], start.next)
    | _ => digits start
  let fraction := fraction? afterWhole
  let afterFraction := (fraction.map (·.2)).getD afterWhole
  let exponent := exponent? afterFraction
  let rest := (exponent.map (·.2)).getD afterFraction
  if whole.isEmpty then r.fail .noValue
  else if fraction.isNone && exponent.isNone then
    if maxDigits < whole.length then .error (.tooManyDigits whole.length)
    else .ok (.int (if negative then -(digitsValue whole : Int) else digitsValue whole), rest)
  else
    let places := (fraction.map (·.1)).getD []
    let x := Literal.float (digitsValue (whole ++ places)) ((exponent.map (·.1)).getD 0 - places.length)
    .ok (.float (if negative then -x else x), rest)

/-- The words that stand for a value. -/
def words : List (List Char × Json) :=
  [("null".toList, .null), ("true".toList, .bool true), ("false".toList, .bool false),
    ("NaN".toList, .float (Float.ofBits 0x7FF8000000000000)),
    ("Infinity".toList, .float (Float.ofBits 0x7FF0000000000000)),
    ("-Infinity".toList, .float (Float.ofBits 0xFFF0000000000000))]

/-- A word or a number. -/
def atomValue (r : Rest) : Except Stop (Json × Rest) :=
  match words.find? fun w => w.1.isPrefixOf r.chars with
  | some w => .ok (w.2, ⟨r.offset + w.1.length, r.chars.drop w.1.length⟩)
  | none => number r

mutual

/-- The value at the place reading has come to, with room for so many containers inside each other. Of any two steps
into or along a value one reads a character, so `fuel` beyond twice the number of characters is never used up. -/
def value : Nat → Nat → Rest → Except Stop (Json × Rest)
  | 0, _, r => r.fail .noValue
  | fuel + 1, room, r =>
    match r.chars, room with
    | '"' :: _, _ => (string r).map fun (s, rest) => (.string s, rest)
    | '{' :: _, 0 => .error (.tooDeep .object)
    | '{' :: _, room + 1 =>
      let r := r.next.skip
      if r.chars.head? = some '}' then .ok (.object [], r.next) else members fuel room [] r
    | '[' :: _, 0 => .error (.tooDeep .list)
    | '[' :: _, room + 1 =>
      let r := r.next.skip
      if r.chars.head? = some ']' then .ok (.array [], r.next) else elements fuel room [] r
    | _, _ => atomValue r

/-- The fields of an object from a name on, after the fields already read. -/
def members : Nat → Nat → List (String × Json) → Rest → Except Stop (Json × Rest)
  | 0, _, _, r => r.fail .noValue
  | fuel + 1, room, fields, r =>
    if r.chars.head? ≠ some '"' then r.fail .noPropertyName
    else
      match string r with
      | .error e => .error e
      | .ok (key, r) =>
        let r := r.skip
        if r.chars.head? ≠ some ':' then r.fail .noColon
        else
          match value fuel room r.next.skip with
          | .error e => .error e
          | .ok (j, r) =>
            let r := r.skip
            let fields := setField fields key j
            match r.chars with
            | '}' :: _ => .ok (.object fields, r.next)
            | ',' :: _ => members fuel room fields r.next.skip
            | _ => r.fail .noComma

/-- The values of a list from one on, after the values already read, which come last first. -/
def elements : Nat → Nat → List Json → Rest → Except Stop (Json × Rest)
  | 0, _, _, r => r.fail .noValue
  | fuel + 1, room, items, r =>
    match value fuel room r with
    | .error e => .error e
    | .ok (j, r) =>
      let r := r.skip
      match r.chars with
      | ']' :: _ => .ok (.array (j :: items).reverse, r.next)
      | ',' :: _ => elements fuel room (j :: items) r.next.skip
      | _ => r.fail .noComma

end

/-- The value of a document. -/
def document (cs : List Char) : Except Stop Json :=
  if cs.head? = some '\uFEFF' then .error (.problem .byteOrderMark 0)
  else
    match value (2 * cs.length + 2) maxDepth (Rest.skip ⟨0, cs⟩) with
    | .error e => .error e
    | .ok (j, r) => if r.skip.chars.isEmpty then .ok j else r.skip.fail .extraData

/-- The line and the column of an offset, both counted from one. -/
def place (cs : List Char) (offset : Nat) : Nat × Nat :=
  let before := cs.take offset
  (before.count '\n' + 1, (before.reverse.takeWhile (· ≠ '\n')).length + 1)

end Reader

/-- A problem with the place where it is. -/
structure Misread where
  problem : Problem
  offset : Nat
  line : Nat
  column : Nat
deriving DecidableEq

/-- The wording of a problem with its place. -/
def Misread.message (m : Misread) : String :=
  s!"{m.problem.message}: line {m.line} column {m.column} (char {m.offset})"

/-- Why a document cannot be read. -/
inductive ReadFault where
  | misread (m : Misread)
  | tooManyDigits (count : Nat)
  | tooDeep (c : Container)
deriving DecidableEq

/-- Reads a document. -/
def read (s : String) : Except ReadFault Json :=
  match Reader.document s.toList with
  | .ok j => .ok j
  | .error (.tooManyDigits n) => .error (.tooManyDigits n)
  | .error (.tooDeep c) => .error (.tooDeep c)
  | .error (.problem p offset) =>
    let spot := Reader.place s.toList offset
    .error (.misread { problem := p, offset, line := spot.1, column := spot.2 })

end Json

end SlideFill
