import BuildVariants.Xml.Account
import BuildVariants.Xml.Codepage
import BuildVariants.Xml.Declaration

/-!
# The encoding of a document

The first bytes tell whether the characters have one byte or two; without a byte order mark the
zero byte beside an ASCII character tells it. The declaration may then name the encoding, which
must fit what the bytes have told; with nothing named, characters are in UTF-8 or UTF-16. A code
page that is named counts from the end of the declaration, whatever has been told before.
-/

namespace BuildVariants.Xml

inductive EncodingFault where
  | malformed
  | unknown
  | multiByte
  | unmapped
  | escaped
  deriving DecidableEq, Repr

/-- A document behind its declaration, with what has been counted up to there. -/
structure Source where
  form : Form
  standalone : Bool
  account : Account
  text : List Char

inductive ByteOrder where
  | big
  | little
  deriving DecidableEq, Repr

/-- What the first bytes tell, the size of a byte order mark, and the bytes behind it. -/
inductive Family where
  | bytes (mark : Nat) (content : List UInt8)
  | units (mark : Nat) (order : ByteOrder) (content : List UInt8)

def Family.detect : List UInt8 → Family
  | 0xFE :: 0xFF :: rest => .units 2 .big rest
  | 0xFF :: 0xFE :: rest => .units 2 .little rest
  | 0xEF :: 0xBB :: 0xBF :: rest => .bytes 3 rest
  | 0x00 :: b :: rest => .units 0 .big (0x00 :: b :: rest)
  | a :: 0x00 :: rest => .units 0 .little (a :: 0x00 :: rest)
  | content => .bytes 0 content

/-! ## Two bytes for a unit -/

/-- The units behind those that have been read, which are in reverse, and whether all bytes make up
units. -/
def unitsBehind (order : ByteOrder) (read : List Nat) : List UInt8 → List Nat × Bool
  | [] => (read.reverse, true)
  | [_] => (read.reverse, false)
  | a :: b :: rest =>
    let unit := match order with
      | .big => a.toNat * 0x100 + b.toNat
      | .little => b.toNat * 0x100 + a.toNat
    unitsBehind order (unit :: read) rest

/-- A unit from the first half of the surrogate range makes one character with the next unit,
whichever it is, and one from the second half makes none. -/
def charsBehind (read : List Char) : List Nat → Option (List Char)
  | [] => some read.reverse
  | unit :: rest =>
    if unit < 0xD800 ∨ 0xE000 ≤ unit then charsBehind (Char.ofNat unit :: read) rest
    else if unit < 0xDC00 then
      match rest with
      | [] => none
      | low :: after =>
        charsBehind (Char.ofNat (0x10000 + unit % 0x400 * 0x400 + low % 0x400) :: read) after
    else none

/-- ASCII characters are as they are; enough to read a declaration. -/
def plainChars (units : List Nat) : List Char :=
  units.map fun unit => if unit < 0x80 then Char.ofNat unit else '\uFFFD'

/-! ## One byte or more for a character -/

def charsOfUtf8 (content : List UInt8) : Option (List Char) :=
  (String.fromUTF8? ⟨content.toArray⟩).map (·.toList)

def charsOfCodepage (page : Codepage) (content : List UInt8) : Option (List Char) :=
  let upper := page.upper.toList.toArray
  content.mapM fun b => Codepage.char? upper page.first b.toNat

/-- Each byte as the character of its number. -/
def charsOfBytes (content : List UInt8) : List Char := content.map fun b => Char.ofNat b.toNat

/-! ## Named encodings -/

/-- Names that are compared without regard to case and nothing else. -/
def isNamed (name : List Char) (expected : String) : Bool :=
  name.map Char.toUpper = expected.toList

def ofOption {α : Type} : Option α → Except EncodingFault α
  | some a => .ok a
  | none => .error .malformed

/-- The characters of bytes in a code page that is named. -/
def decodeNamed (name : List Char) (content : List UInt8) : Except EncodingFault (List Char) :=
  let comparable := comparableName name
  match codepages.find? (·.names.covers comparable) with
  | some page => ofOption (charsOfCodepage page content)
  | none =>
    if multiByteNames.covers comparable then .error .multiByte
    else if foreignNames.covers comparable then .error .malformed
    else if unmappedNames.covers comparable then .error .unmapped
    else if escapedNames.covers comparable then .error .escaped
    else .error .unknown

/-- Bytes that are one character each, or that are to be read in UTF-8. -/
def decodeBytes (mark : Nat) (content : List UInt8) : Except EncodingFault Source := do
  let (d, length) ← ofOption (Declaration.read (charsOfBytes content))
  let source := fun (form : Form) (text : List Char) =>
    (⟨form, d.standalone, { written := mark + length }, text⟩ : Source)
  let rest := content.drop length
  match d.encoding with
  | none => source .utf8 <$> ofOption (charsOfUtf8 rest)
  | some name =>
    if isNamed name "UTF-8" then source .utf8 <$> ofOption (charsOfUtf8 rest)
    else if isNamed name "ISO-8859-1" then .ok (source .latin (charsOfBytes rest))
    else if isNamed name "US-ASCII" then
      if rest.all (· < 0x80) then .ok (source .utf8 (charsOfBytes rest)) else .error .malformed
    else if ["UTF-16", "UTF-16BE", "UTF-16LE"].any (isNamed name) then .error .malformed
    else source .codepage <$> decodeNamed name rest

def decodeUnits (mark : Nat) (order : ByteOrder) (content : List UInt8) :
    Except EncodingFault Source := do
  let (units, isWhole) := unitsBehind order [] content
  let (d, length) ← ofOption (Declaration.read (plainChars units))
  let source := fun (form : Form) (text : List Char) =>
    (⟨form, d.standalone, { written := mark + 2 * length }, text⟩ : Source)
  let own : Except EncodingFault Source :=
    if isWhole then source .utf16 <$> ofOption (charsBehind [] (units.drop length))
    else .error .malformed
  match d.encoding with
  | none => own
  | some name =>
    if isNamed name "UTF-16" then own
    else if isNamed name (match order with | .big => "UTF-16BE" | .little => "UTF-16LE") then own
    else if ["UTF-8", "ISO-8859-1", "US-ASCII", "UTF-16BE", "UTF-16LE"].any (isNamed name) then
      .error .malformed
    else source .codepage <$> decodeNamed name (content.drop (2 * length))

/-- The characters of a document behind its declaration. -/
def decode (bytes : List UInt8) : Except EncodingFault Source :=
  match Family.detect bytes with
  | .bytes mark content => decodeBytes mark content
  | .units mark order content => decodeUnits mark order content

end BuildVariants.Xml
