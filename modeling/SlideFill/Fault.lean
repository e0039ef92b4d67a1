import SlideFill.Data.Rejection
import SlideFill.Json.Reader
import SlideFill.Text.Quoted
import SlideFill.Text.Utf8

/-!
# What can go wrong

Every cause for which reading, filling or saving stops, and its wording.
-/

namespace SlideFill

/-- A value that is no usable number. -/
inductive NumberFault where
  /-- A text that spells no whole number. -/
  | notWhole (text : String)
  | tooManyDigits (count : Nat)
  /-- A whole number that has too many digits to be written out. -/
  | tooLong
  | nan
  | infinite
  /-- A quotient of whole numbers that is beyond the range of floating-point numbers. -/
  | quotientTooLarge
  /-- A whole number that is beyond the range of floating-point numbers. -/
  | wholeTooLarge
  /-- A number of pixels that no side of an image can have, beyond 32 bits or even beyond 64. -/
  | sideTooLarge (beyondWord : Bool)
  /-- A value of a kind that is not converted to a number. -/
  | noNumber (kind : String)
  /-- A value of a kind that is not multiplied. -/
  | noProduct (kind : String)
  /-- A font size, in hundredths of a point, that no font can have. -/
  | sizeOutOfRange (hundredths : Int)
deriving DecidableEq

/-- A part of unchecked template data that is of the wrong kind for its use. -/
inductive KindFault where
  | noEntries (kind : String)
  | noFields (kind : String)
  | noItems (kind : String)
  /-- A list or an object given as an argument. -/
  | noArgument (kind : String)
  | noPath
  | noSubscript (kind : String)
  | listSubscript
  | notAPath (kind : String)
deriving DecidableEq

/-- Why a picture cannot be replaced by an image. -/
inductive ImageFault where
  | unknownFormat (given : String)
  | unknownMode (given : String)
  | emptyBox (width height : Int)
  | undecodable
  | unencodable (format reason : String)
deriving DecidableEq

/-- Why a file cannot be read or written. -/
inductive FileFault where
  | isDirectory (path : String)
  | notDirectory (path : String)
  | alreadyExists (path : String)
  | missing (path : String)
  | nameTooLong (path : String)
  /-- A path with a null character. -/
  | nullInPath
  /-- A file that holds no deck. -/
  | noDeck (path : String)
deriving DecidableEq

/-- A cause for which work stops. -/
inductive Fault where
  | rejected (r : Rejection)
  | misread (m : Json.Misread)
  | encoding (f : Utf8.Fault)
  | number (f : NumberFault)
  | kind (f : KindFault)
  | image (f : ImageFault)
  | file (f : FileFault)
  /-- A picture to be replaced has no position or size. -/
  | noAnchor (picture : String)
  /-- A shape links to a relationship that its slide does not have, by the id of the relationship. -/
  | brokenLink (id : String)
  /-- A position outside a list, and the list has no items at all or has some. -/
  | noSuchPosition (empty : Bool)
  /-- A position beyond 64 bits. -/
  | positionTooLarge
  /-- A document with more values inside each other than are read. -/
  | tooDeep (c : Json.Container)
  /-- A text that a deck cannot hold. -/
  | unstorableText
  /-- An image with a side too long for its format. -/
  | sideTooLong
  /-- An image too large to be made. -/
  | noMemory
  /-- An image with more pixels than are read. -/
  | tooManyPixels (count : Nat)
deriving DecidableEq

/-- The most pixels of an image that is read. -/
def mostPixels : Nat := 178956970

/-- The bound on digits as messages give it. -/
def digitLimit : String :=
  s!"Exceeds the limit ({Json.maxDigits} digits) for integer string conversion"

/-- How the bound on digits is raised, as messages tell it. -/
def digitLimitHint : String :=
  "use sys.set_int_max_str_digits() to increase the limit"

/-- The wording of a value that is no usable number. -/
def NumberFault.message : NumberFault → String
  | .notWhole text =>
    "invalid literal for int() with base 10: " ++ String.ofList ((Text.quoted text).toList.take 200)
  | .tooManyDigits count => s!"{digitLimit}: value has {count} digits; {digitLimitHint}"
  | .tooLong => s!"{digitLimit}; {digitLimitHint}"
  | .nan => "cannot convert float NaN to integer"
  | .infinite => "cannot convert float infinity to integer"
  | .quotientTooLarge => "integer division result too large for a float"
  | .wholeTooLarge => "int too large to convert to float"
  | .sideTooLarge beyondWord =>
    if beyondWord then "Python int too large to convert to C long" else "signed integer is greater than maximum"
  | .noNumber kind => s!"int() argument must be a string, a bytes-like object or a real number, not '{kind}'"
  | .noProduct kind => s!"unsupported operand type(s) for *: '{kind}' and 'int'"
  | .sizeOutOfRange hundredths => s!"value must be in range 100 to 400000 inclusive, got {hundredths}"

/-- The wording of data of the wrong kind. -/
def KindFault.message : KindFault → String
  | .noEntries kind => s!"'{kind}' object has no attribute 'items'"
  | .noFields kind => s!"'{kind}' object has no attribute 'get'"
  | .noItems kind => s!"'{kind}' object is not iterable"
  | .noArgument kind => s!"unhashable type: '{kind}'"
  | .noPath => "'path'"
  | .noSubscript kind => s!"'{kind}' object is not subscriptable"
  | .listSubscript => "list indices must be integers or slices, not str"
  | .notAPath kind => s!"expected str, bytes or os.PathLike object, not {kind}"

/-- The wording of an image that cannot take a place. -/
def ImageFault.message : ImageFault → String
  | .unknownFormat given => s!"Unsupported image format '{given}' (supported: png, jpeg, gif, bmp, tiff)"
  | .unknownMode given => s!"Unknown image replacement mode: {given}"
  | .emptyBox width height => s!"Invalid destination size {width}x{height} for image replacement"
  | .undecodable => "Cannot decode replacement image"
  | .unencodable format reason => s!"Cannot encode replacement image as {format}: {reason}"

/-- A file fault with its number and the path in quotes. -/
def FileFault.numbered (number : Nat) (reason path : String) : String :=
  s!"[Errno {number}] {reason}: {Text.quoted path}"

/-- The wording of a file that cannot be read or written. -/
def FileFault.message : FileFault → String
  | .isDirectory path => numbered 21 "Is a directory" path
  | .notDirectory path => numbered 20 "Not a directory" path
  | .alreadyExists path => numbered 17 "File exists" path
  | .missing path => numbered 2 "No such file or directory" path
  | .nameTooLong path => numbered 36 "File name too long" path
  | .nullInPath => "embedded null byte"
  | .noDeck path => s!"Package not found at '{path}'"

/-- The wording of a fault in a sequence of bytes. -/
def Utf8.Fault.message (f : Utf8.Fault) : String :=
  if f.width = 1 then
    let byte := String.ofList (Text.hexDigits 2 f.byte.toNat)
    s!"'utf-8' codec can't decode byte 0x{byte} in position {f.offset}: {f.problem.message}"
  else
    let last := f.offset + f.width - 1
    s!"'utf-8' codec can't decode bytes in position {f.offset}-{last}: {f.problem.message}"

/-- The wording of a fault. -/
def Fault.message : Fault → String
  | .rejected r => r.message
  | .misread m => m.message
  | .encoding f => f.message
  | .number f => f.message
  | .kind f => f.message
  | .image f => f.message
  | .file f => f.message
  | .noAnchor picture => s!"Picture '{picture}' has no position or size to replace"
  | .brokenLink id => Text.quoted s!"no relationship with key '{id}'"
  | .noSuchPosition empty => if empty then "pop from empty list" else "pop index out of range"
  | .positionTooLarge => "Python int too large to convert to C ssize_t"
  | .tooDeep c => s!"maximum recursion depth exceeded while decoding a JSON {c.name} from a unicode string"
  | .unstorableText => "All strings must be XML compatible: Unicode or ASCII, no NULL bytes or control characters"
  | .sideTooLong => "ushort format requires 0 <= number <= 65535"
  | .noMemory => ""
  | .tooManyPixels count =>
    s!"Image size ({count} pixels) exceeds limit of {mostPixels} pixels, could be decompression bomb DOS attack."

end SlideFill
