import Testbed.Idna.Punycode
import Testbed.Text.Charset.Labels
import Testbed.Text.Charset.Switched
import Testbed.Text.Escapes
import Testbed.Text.Utf7

/-!
# Text from bytes

Decoders for the encodings that bodies come in.  Each decoder reads one character at a time and
says where the bytes stop making sense, so that a text can be read strictly or with a replacement
character for every maximal ill-formed part.
-/

namespace Testbed.Text

set_option autoImplicit false

inductive Endian where
  | little
  | big
  deriving DecidableEq

def unit16 : Endian → UInt8 → UInt8 → Nat
  | .little, a, b => b.toNat * 256 + a.toNat
  | .big, a, b => a.toNat * 256 + b.toNat

def utf16Step (e : Endian) (a : UInt8) (rest : List UInt8) : Step :=
  match rest with
  | [] => (none, [])
  | b :: rest =>
    let unit := unit16 e a b
    if 0xD800 ≤ unit && unit < 0xDC00 then
      match rest with
      | c :: d :: tail =>
        let low := unit16 e c d
        if 0xDC00 ≤ low && low < 0xE000 then
          (some (Char.ofNat (0x10000 + (unit - 0xD800) * 0x400 + (low - 0xDC00))), tail)
        else (none, rest)
      | _ => (none, [])
    else if 0xDC00 ≤ unit && unit < 0xE000 then (none, rest)
    else (some (Char.ofNat unit), rest)

def utf32Step (e : Endian) (a : UInt8) (rest : List UInt8) : Step :=
  match rest with
  | b :: c :: d :: tail =>
    let code := match e with
      | .little => unit16 e c d * 65536 + unit16 e a b
      | .big => unit16 e a b * 65536 + unit16 e c d
    if code < 0xD800 || (0xE000 ≤ code && code < 0x110000) then (some (Char.ofNat code), tail)
    else (none, tail)
  | _ => (none, [])

def latin1Step (b : UInt8) (rest : List UInt8) : Step := (some (Char.ofNat b.toNat), rest)

def asciiStep (b : UInt8) (rest : List UInt8) : Step :=
  (if b < 0x80 then some (Char.ofNat b.toNat) else none, rest)

def pageStep (p : CodePage) (b : UInt8) (rest : List UInt8) : Step := (p.char? b, rest)

/-- One character of ASCII, or of an encoding of a large script. -/
def doubleStep (e : DoubleByte) (b : UInt8) (rest : List UInt8) : Step :=
  if b < 0x80 then (some (Char.ofNat b.toNat), rest) else e.step b rest

/-- The bytes before the last hyphen, and those after it; without a hyphen all are numbers. -/
def punycodeParts (bytes : List UInt8) : List UInt8 × List UInt8 :=
  let numbers := (bytes.reverse.takeWhile (· != 0x2D)).reverse
  (bytes.take (bytes.length - numbers.length - 1), numbers)

inductive Encoding where
  | ascii
  | latin1
  | utf7
  | utf8
  | utf8Marked
  | utf16
  | utf16In (order : Endian)
  | utf32
  | utf32In (order : Endian)
  | page (p : CodePage)
  | double (e : DoubleByte)
  | combined (c : Combined)
  | switching (w : Switching)
  | tildes
  | escapes
  | codeEscapes
  | punycode

/-- The characters of a byte string, with `none` for each ill-formed part.  A byte order mark is
taken off by the encodings that announce one. -/
def Encoding.characters (e : Encoding) (bytes : List UInt8) : List (Option Char) :=
  let run (step : UInt8 → List UInt8 → Step) (bs : List UInt8) := decodeWith step bs.length bs
  match e with
  | .ascii => run asciiStep bytes
  | .latin1 => run latin1Step bytes
  | .utf7 => Text.utf7 none bytes
  | .utf8 => run utf8Step bytes
  | .utf8Marked =>
    match bytes with
    | 0xEF :: 0xBB :: 0xBF :: rest => run utf8Step rest
    | _ => run utf8Step bytes
  | .utf16 =>
    match bytes with
    | 0xFF :: 0xFE :: rest => run (utf16Step .little) rest
    | 0xFE :: 0xFF :: rest => run (utf16Step .big) rest
    | _ => run (utf16Step .little) bytes
  | .utf16In order => run (utf16Step order) bytes
  | .utf32 =>
    match bytes with
    | 0xFF :: 0xFE :: 0 :: 0 :: rest => run (utf32Step .little) rest
    | 0 :: 0 :: 0xFE :: 0xFF :: rest => run (utf32Step .big) rest
    | _ => run (utf32Step .little) bytes
  | .utf32In order => run (utf32Step order) bytes
  | .page p => run (pageStep p) bytes
  | .double d => run (doubleStep d) bytes
  | .switching w => w.run bytes.length {} bytes
  | .tildes => Text.tildes false bytes
  | .combined c => readPieces c.step bytes.length bytes
  | .escapes => readPieces (escapedPiece ofEscape) bytes.length bytes
  | .codeEscapes => readPieces (escapedPiece ofCodeEscape) bytes.length bytes
  | .punycode =>
    let (basics, numbers) := punycodeParts bytes
    (Idna.ofPunycode (run asciiStep basics) (numbers.map fun b => Char.ofNat b.toNat))

/-- The text of a byte string, when all of it is well-formed. -/
def Encoding.decode? (e : Encoding) (bytes : List UInt8) : Option (List Char) :=
  (e.characters bytes).mapM id

/-- The text of a byte string with a replacement character for every ill-formed part. -/
def Encoding.decode (e : Encoding) (bytes : List UInt8) : List Char :=
  (e.characters bytes).map (·.getD '\uFFFD')

inductive LabelProblem where
  | nul
  /-- The label is of an encoding that is not for reading. -/
  | refused (label reason : String)
  /-- A byte beyond ASCII stands where no replacement character can. -/
  | foreign (byte : UInt8) (position : Nat)

def LabelProblem.message : LabelProblem → String
  | nul => "embedded null character"
  | refused label reason => s!"decoding with '{label}' codec failed (UnicodeError: {reason})"
  | foreign byte position =>
    let digits := String.ofList (Literal.hex 2 byte.toNat)
    s!"'ascii' codec can't decode byte 0x{digits} in position {position}: ordinal not in range(128)"

/-- Why some bytes cannot be read at all. -/
def Encoding.problem? (e : Encoding) (bytes : List UInt8) : Option LabelProblem :=
  match e with
  | .punycode =>
    let numbers := (punycodeParts bytes).2
    (numbers.findIdx? (0x80 ≤ ·)).bind fun i => (numbers[i]?).map (.foreign · i)
  | _ => none

def encodingNames : List (String × Encoding) := [
  ("ascii", .ascii), ("latin_1", .latin1), ("iso8859_1", .latin1), ("charmap", .latin1),
  ("utf_7", .utf7), ("utf_8", .utf8), ("utf_8_sig", .utf8Marked), ("utf_16", .utf16),
  ("utf_16_le", .utf16In .little), ("utf_16_be", .utf16In .big), ("utf_32", .utf32),
  ("utf_32_le", .utf32In .little), ("utf_32_be", .utf32In .big),
  ("euc_jp", .double .japaneseUnix), ("shift_jis", .double .japaneseShifted),
  ("cp932", .double .japaneseWide), ("gb2312", .double .chinese), ("gbk", .double .chineseWide),
  ("gb18030", .double .chineseWidest), ("big5", .double .taiwanese),
  ("cp950", .double .taiwaneseWide), ("euc_kr", .double .korean), ("cp949", .double .koreanWide),
  ("johab", .double .koreanLetters),
  ("big5hkscs", .combined .hongKong), ("euc_jisx0213", .combined (.japaneseUnix .first)),
  ("euc_jis_2004", .combined (.japaneseUnix .second)),
  ("shift_jisx0213", .combined (.japaneseShifted .first)),
  ("shift_jis_2004", .combined (.japaneseShifted .second)), ("hz", .tildes), ("unicode_escape", .escapes),
  ("raw_unicode_escape", .codeEscapes), ("punycode", .punycode)]

def Encoding.named? (name : String) : Option Encoding :=
  (encodingNames.lookup name).or <|
    ((codePages.lookup name).map .page).or ((switchings.lookup name).map .switching)

/-- The encodings that are not for reading, with the reasons. -/
def refusedEncodings : List (String × String) :=
  [("idna", "Unsupported error handling replace"), ("undefined", "undefined encoding")]

def Encoding.ofLabel (label : String) : Except LabelProblem (Option Encoding) :=
  let names := namesOfLabel label
  if label.toList.contains '\x00' then .error .nul
  else match names.findSome? fun name => refusedEncodings.lookup name with
    | some reason => .error (.refused label reason)
    | none => .ok (names.findSome? named?)

end Testbed.Text
