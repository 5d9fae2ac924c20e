import BuildVariants.Decimal.Binary
import BuildVariants.Document.Value

/-!
# JSON documents

The grammar of JSON with three more numbers: `NaN`, `Infinity` and `-Infinity`. A key that is given
twice keeps its first place and its last value. Whole numbers have at most `maxDigits` digits.

Every reader takes the characters that are left and gives what it has read and what is left then.
-/

namespace BuildVariants

/-- The longest whole number in decimal notation that a description may hold. -/
def maxDigits : Nat := 4300

def digitsValue (digits : List Char) : Nat :=
  digits.foldl (fun n c => 10 * n + (c.toNat - 0x30)) 0

def hexValue? (c : Char) : Option Nat :=
  if c.isDigit then some (c.toNat - 0x30)
  else if 'a' ≤ c ∧ c ≤ 'f' then some (c.toNat - 0x57)
  else if 'A' ≤ c ∧ c ≤ 'F' then some (c.toNat - 0x37)
  else none

def hexValues? (cs : List Char) : Option Nat :=
  cs.foldlM (fun n c => (hexValue? c).map (16 * n + ·)) 0

/-- Whole part, fraction and exponent of a number in decimal notation. -/
structure DecimalNotation where
  negative : Bool
  whole : List Char
  fraction : List Char
  exponent : Int
  deriving DecidableEq, Repr

def DecimalNotation.toFloat (d : DecimalNotation) : Float :=
  let x := (Decimal.Scaled.mk (digitsValue (d.whole ++ d.fraction))
    (d.exponent - d.fraction.length)).toFloat
  if d.negative then -x else x

namespace Json

abbrev Reader (α : Type) := List Char → Option (α × List Char)

def skipBlank (cs : List Char) : List Char :=
  cs.dropWhile fun c => c = ' ' || c = '\t' || c = '\n' || c = '\r'

/-! ## Texts -/

/-- Two escapes may name the halves of one character; a half on its own is replaced. The characters
read so far are in reverse. -/
def joinHalves (read : List Char) : List Nat → List Char
  | [] => read.reverse
  | high :: low :: rest =>
    if 0xD800 ≤ high ∧ high < 0xDC00 ∧ 0xDC00 ≤ low ∧ low < 0xE000 then
      joinHalves (Char.ofNat (0x10000 + (high - 0xD800) * 0x400 + (low - 0xDC00)) :: read) rest
    else
      joinHalves ((if 0xD800 ≤ high ∧ high < 0xE000 then '\uFFFD' else Char.ofNat high) :: read)
        (low :: rest)
  | [n] =>
    ((if 0xD800 ≤ n ∧ n < 0xE000 then '\uFFFD' else Char.ofNat n) :: read).reverse

def simpleEscape? (c : Char) : Option Char :=
  match c with
  | '"' => some '"'
  | '\\' => some '\\'
  | '/' => some '/'
  | 'b' => some '\x08'
  | 'f' => some '\x0C'
  | 'n' => some '\n'
  | 'r' => some '\r'
  | 't' => some '\t'
  | _ => none

/-- Reads on from behind the opening quote; the codes read so far are in reverse. -/
def codes (read : List Nat) : Reader (List Nat)
  | [] => none
  | '\\' :: 'u' :: a :: b :: c :: d :: rest =>
    match hexValues? [a, b, c, d] with
    | none => none
    | some n => codes (n :: read) rest
  | '\\' :: c :: rest =>
    match simpleEscape? c with
    | none => none
    | some e => codes (e.toNat :: read) rest
  | c :: rest =>
    if c = '"' then some (read.reverse, rest)
    else if c = '\\' ∨ c.toNat < 0x20 then none
    else codes (c.toNat :: read) rest

def text : Reader String := fun cs =>
  (codes [] cs).map fun r => (String.ofList (joinHalves [] r.1), r.2)

/-! ## Numbers -/

def takeDigits (cs : List Char) : List Char × List Char := cs.span (·.isDigit)

/-- No digit may follow a zero at the start. -/
def wholeDigits : Reader (List Char)
  | '0' :: rest => some (['0'], rest)
  | cs => match takeDigits cs with
    | ([], _) => none
    | r => some r

/-- A point counts only with a digit behind it. -/
def fractionDigits : List Char → List Char × List Char
  | '.' :: rest => match takeDigits rest with
    | ([], _) => ([], '.' :: rest)
    | r => r
  | cs => ([], cs)

/-- An exponent counts only if it has a digit. -/
def exponentPart : List Char → Option Int × List Char
  | e :: rest =>
    if e = 'e' ∨ e = 'E' then
      let (negative, unsigned) := match rest with
        | '-' :: r => (true, r)
        | '+' :: r => (false, r)
        | r => (false, r)
      match takeDigits unsigned with
      | ([], _) => (none, e :: rest)
      | (ds, r) => (some (if negative then -(digitsValue ds : Int) else digitsValue ds), r)
    else (none, e :: rest)
  | [] => (none, [])

def number (negative : Bool) : Reader Value := fun cs =>
  match wholeDigits cs with
  | none => none
  | some (whole, afterWhole) =>
    let (fraction, afterFraction) := fractionDigits afterWhole
    let (exponent, rest) := exponentPart afterFraction
    if fraction = [] ∧ exponent = none then
      if whole.length ≤ maxDigits then
        some (.integer (if negative then -(digitsValue whole : Int) else digitsValue whole), rest)
      else none
    else some (.number (DecimalNotation.mk negative whole fraction (exponent.getD 0)).toFloat, rest)

/-! ## Values -/

def word (expected : List Char) (v : Value) : Reader Value := fun cs =>
  if expected.isPrefixOf cs then some (v, cs.drop expected.length) else none

def scalar : Reader Value := fun cs =>
  match cs with
  | '"' :: rest => (text rest).map fun r => (.string r.1, r.2)
  | 'n' :: _ => word "null".toList .nothing cs
  | 't' :: _ => word "true".toList (.flag true) cs
  | 'f' :: _ => word "false".toList (.flag false) cs
  | 'N' :: _ => word "NaN".toList (.number (0 / 0)) cs
  | 'I' :: _ => word "Infinity".toList (.number (1 / 0)) cs
  | '-' :: 'I' :: _ => word "-Infinity".toList (.number (-1 / 0)) cs
  | '-' :: rest => number true rest
  | _ => number false cs

mutual

/-- Each level of nesting and each element uses up one unit; there are no more than characters. -/
def value : Nat → Reader Value
  | 0, _ => none
  | n + 1, '[' :: rest =>
    match skipBlank rest with
    | ']' :: r => some (.list [], r)
    | r => elements n [] r
  | n + 1, '\x7b' :: rest =>
    match skipBlank rest with
    | '\x7d' :: r => some (.table [], r)
    | r => entries n [] r
  | _ + 1, cs => scalar cs

/-- The elements read so far are in reverse. -/
def elements : Nat → List Value → Reader Value
  | 0, _, _ => none
  | n + 1, read, cs =>
    match value n cs with
    | none => none
    | some (v, rest) =>
      match skipBlank rest with
      | ',' :: r => elements n (v :: read) (skipBlank r)
      | ']' :: r => some (.list (v :: read).reverse, r)
      | _ => none

def entries : Nat → Table → Reader Value
  | 0, _, _ => none
  | n + 1, read, '"' :: cs =>
    match text cs with
    | none => none
    | some (key, afterKey) =>
      match skipBlank afterKey with
      | ':' :: afterColon =>
        match value n (skipBlank afterColon) with
        | none => none
        | some (v, rest) =>
          match skipBlank rest with
          | ',' :: r => entries n (read.set key v) (skipBlank r)
          | '\x7d' :: r => some (.table (read.set key v), r)
          | _ => none
      | _ => none
  | _ + 1, _, _ => none

end

/-- One value with blank space around it and nothing else. -/
def parse? (cs : List Char) : Option Value :=
  match value (cs.length + 1) (skipBlank cs) with
  | some (v, rest) => if skipBlank rest = [] then some v else none
  | none => none

end Json

end BuildVariants
