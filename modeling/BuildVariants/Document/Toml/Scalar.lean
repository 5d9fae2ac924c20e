import BuildVariants.Document.Json

/-!
# TOML scalars

Texts, numbers, dates and times of TOML 1.0. Line breaks have been made single line feeds before.
As for JSON, a reader takes the characters that are left and gives a value and what is left then.
-/

namespace BuildVariants.Toml

abbrev Reader (α : Type) := List Char → Option (α × List Char)

def isBlank (c : Char) : Bool := c = ' ' || c = '\t'

def isBlankOrBreak (c : Char) : Bool := c = ' ' || c = '\t' || c = '\n'

def skipBlank (cs : List Char) : List Char := cs.dropWhile isBlank

/-- Control characters that no text and no comment may hold. -/
def isForbidden (c : Char) : Bool := (c.toNat < 0x20 && c ≠ '\t') || c.toNat = 0x7F

/-- A number sign starts a comment, which goes on to the end of the line. -/
def skipComment : List Char → Option (List Char)
  | '#' :: rest =>
    let (comment, after) := rest.span (· ≠ '\n')
    if comment.any isForbidden then none else some after
  | cs => some cs

/-! ## Texts -/

def scalarValue? (n : Nat) : Option Char :=
  if n < 0xD800 ∨ (0xE000 ≤ n ∧ n < 0x110000) then some (Char.ofNat n) else none

def simpleEscape? (c : Char) : Option Char :=
  match c with
  | 'b' => some '\x08'
  | 't' => some '\t'
  | 'n' => some '\n'
  | 'f' => some '\x0C'
  | 'r' => some '\r'
  | '"' => some '"'
  | '\\' => some '\\'
  | _ => none

/-- Reads the character that an escape stands for, from behind the backslash. -/
def escape : Reader Char
  | 'u' :: a :: b :: c :: d :: rest =>
    ((hexValues? [a, b, c, d]).bind scalarValue?).map (·, rest)
  | 'U' :: a :: b :: c :: d :: e :: f :: g :: h :: rest =>
    ((hexValues? [a, b, c, d, e, f, g, h]).bind scalarValue?).map (·, rest)
  | c :: rest => (simpleEscape? c).map (·, rest)
  | [] => none

theorem length_escape {cs rest : List Char} {c : Char} (h : escape cs = some (c, rest)) :
    rest.length < cs.length := by
  unfold escape at h
  split at h
  · obtain ⟨_, _, h⟩ := Option.map_eq_some_iff.mp h
    cases h
    simp
    omega
  · obtain ⟨_, _, h⟩ := Option.map_eq_some_iff.mp h
    cases h
    simp
    omega
  · obtain ⟨_, _, h⟩ := Option.map_eq_some_iff.mp h
    cases h
    simp
  · cases h

/-- A backslash at the end of a line takes away the blank space up to the next text. -/
def afterContinuation (cs : List Char) : Option (List Char) :=
  match skipBlank cs with
  | '\n' :: rest => some (rest.dropWhile isBlankOrBreak)
  | _ => none

theorem length_dropWhile_le (p : Char → Bool) (cs : List Char) :
    (cs.dropWhile p).length ≤ cs.length := (List.dropWhile_sublist p).length_le

theorem length_afterContinuation {cs rest : List Char} (h : afterContinuation cs = some rest) :
    rest.length < cs.length := by
  unfold afterContinuation at h
  split at h
  · rename_i r hr
    cases h
    have h₁ := length_dropWhile_le isBlankOrBreak r
    have h₂ := length_dropWhile_le isBlank cs
    rw [show cs.dropWhile isBlank = '\n' :: r from hr] at h₂
    simp at h₂
    omega
  · cases h

/-- Reads on from behind the opening quote of a text on one line. -/
def basic (read cs : List Char) : Option (List Char × List Char) :=
  match cs with
  | [] => none
  | '"' :: rest => some (read.reverse, rest)
  | '\\' :: rest =>
    match _h : escape rest with
    | none => none
    | some (c, after) => basic (c :: read) after
  | c :: rest => if isForbidden c then none else basic (c :: read) rest
termination_by cs.length
decreasing_by
  · have := length_escape _h
    simp
    omega
  · simp

/-- Reads on from behind the three opening quotes, up to the first three quotes in a row. -/
def multilineBasic (read cs : List Char) : Option (List Char × List Char) :=
  match cs with
  | [] => none
  | '"' :: '"' :: '"' :: rest => some (read.reverse, rest)
  | '\\' :: rest =>
    match _h : escape rest with
    | some (c, after) => multilineBasic (c :: read) after
    | none =>
      match _h' : afterContinuation rest with
      | some after => multilineBasic read after
      | none => none
  | c :: rest => if isForbidden c && c ≠ '\n' then none else multilineBasic (c :: read) rest
termination_by cs.length
decreasing_by
  · have := length_escape _h
    simp
    omega
  · have := length_afterContinuation _h'
    simp
    omega
  · simp

def literal (read : List Char) : Reader (List Char)
  | [] => none
  | c :: rest =>
    if c = '\'' then some (read.reverse, rest)
    else if isForbidden c then none
    else literal (c :: read) rest

def multilineLiteral (read : List Char) : Reader (List Char)
  | [] => none
  | '\'' :: '\'' :: '\'' :: rest => some (read.reverse, rest)
  | c :: rest =>
    if isForbidden c && c ≠ '\n' then none else multilineLiteral (c :: read) rest

/-- Up to two more quotes at the end still belong to the text. -/
def withExtraQuotes (quote : Char) : List Char × List Char → List Char × List Char
  | (read, c :: rest) =>
    if c = quote then
      match rest with
      | d :: rest' => if d = quote then (read ++ [quote, quote], rest') else (read ++ [quote], rest)
      | [] => (read ++ [quote], [])
    else (read, c :: rest)
  | (read, []) => (read, [])

def dropFirstBreak : List Char → List Char
  | '\n' :: rest => rest
  | cs => cs

/-- A text in any of the four notations; the first character is a quote or an apostrophe. -/
def text : Reader String := fun cs =>
  let found : Option (List Char × List Char) := match cs with
    | '"' :: '"' :: '"' :: rest =>
      (multilineBasic [] (dropFirstBreak rest)).map (withExtraQuotes '"')
    | '\'' :: '\'' :: '\'' :: rest =>
      (multilineLiteral [] (dropFirstBreak rest)).map (withExtraQuotes '\'')
    | '"' :: rest => basic [] rest
    | '\'' :: rest => literal [] rest
    | _ => none
  found.map fun r => (String.ofList r.1, r.2)

/-! ## Dates and times -/

/-- Exactly `count` digits. -/
def fixedDigits (count : Nat) : Reader Nat := fun cs =>
  let ds := cs.take count
  if ds.length = count && ds.all Char.isDigit then some (digitsValue ds, cs.drop count) else none

/-- Two digits that stand for a number within bounds. -/
def twoDigits (least greatest : Nat) : Reader Nat := fun cs =>
  match fixedDigits 2 cs with
  | some (n, rest) => if least ≤ n ∧ n ≤ greatest then some (n, rest) else none
  | none => none

def mark (c : Char) : List Char → Option (List Char)
  | d :: rest => if d = c then some rest else none
  | [] => none

/-- Six places of the fraction of a second count. -/
def microseconds : List Char → Nat × List Char
  | '.' :: rest =>
    match rest.span Char.isDigit with
    | ([], _) => (0, '.' :: rest)
    | (ds, after) => (digitsValue ((ds ++ ['0', '0', '0', '0', '0', '0']).take 6), after)
  | cs => (0, cs)

def time : Reader TimeOfDay := fun cs => do
  let (hour, cs) ← twoDigits 0 23 cs
  let cs ← mark ':' cs
  let (minute, cs) ← twoDigits 0 59 cs
  let cs ← mark ':' cs
  let (second, cs) ← twoDigits 0 59 cs
  let (microsecond, cs) := microseconds cs
  some (⟨hour, minute, second, microsecond⟩, cs)

def date : Reader Date := fun cs => do
  let (year, cs) ← fixedDigits 4 cs
  let cs ← mark '-' cs
  let (month, cs) ← twoDigits 1 12 cs
  let cs ← mark '-' cs
  let (day, cs) ← twoDigits 1 31 cs
  some (⟨year, month, day⟩, cs)

def isLeapYear (year : Nat) : Bool := year % 4 = 0 && (year % 100 ≠ 0 || year % 400 = 0)

def daysInMonth (year month : Nat) : Nat :=
  if month = 2 then (if isLeapYear year then 29 else 28)
  else if month = 4 || month = 6 || month = 9 || month = 11 then 30
  else 31

def isCalendarDay (d : Date) : Bool := 1 ≤ d.year && d.day ≤ daysInMonth d.year d.month

/-- Minutes from universal time, if they are given. -/
def offset (cs : List Char) : Option Int × List Char :=
  match cs with
  | [] => (none, [])
  | c :: rest =>
    if c = 'Z' || c = 'z' then (some 0, rest)
    else if c = '+' || c = '-' then
      let minutes := do
        let (hour, r) ← twoDigits 0 23 rest
        let r ← mark ':' r
        let (minute, r) ← twoDigits 0 59 r
        some (60 * hour + minute, r)
      match minutes with
      | some (n, r) => (some (if c = '-' then -(n : Int) else n), r)
      | none => (none, cs)
    else (none, cs)

/-- A date, with the time behind it if there is one. The outer option is for other values, the inner
one for days that no calendar has. -/
def dateOrDateTime (cs : List Char) : Option (Option (Value × List Char)) :=
  match date cs with
  | none => none
  | some (d, afterDate) =>
    let moment := match afterDate with
      | c :: rest => if c = 'T' || c = 't' || c = ' ' then time rest else none
      | [] => none
    if !isCalendarDay d then some none
    else match moment with
      | none => some (some (.date d, afterDate))
      | some (t, afterTime) =>
        let (o, rest) := offset afterTime
        some (some (.dateTime ⟨d, t, o⟩, rest))

/-! ## Numbers -/

/-- Digits of a class, with single underscores between them. -/
def digitRun (isDigit : Char → Bool) : Reader (List Char)
  | [] => none
  | c :: rest => if isDigit c then some (goOn [c] rest) else none
where
  goOn (read : List Char) : List Char → List Char × List Char
    | '_' :: c :: rest =>
      if isDigit c then goOn (c :: read) rest else (read.reverse, '_' :: c :: rest)
    | c :: rest => if isDigit c then goOn (c :: read) rest else (read.reverse, c :: rest)
    | [] => (read.reverse, [])

def digitsIn (base : Nat) (digits : List Char) : Nat :=
  digits.foldl (fun n c => base * n + (hexValue? c).getD 0) 0

/-- Whole numbers to the bases two, eight and sixteen, which take no sign. -/
def baseNumber : Reader Value
  | '0' :: 'x' :: rest =>
    (digitRun (fun c => (hexValue? c).isSome) rest).map fun r => (.integer (digitsIn 16 r.1), r.2)
  | '0' :: 'o' :: rest =>
    (digitRun (fun c => '0' ≤ c && c ≤ '7') rest).map fun r => (.integer (digitsIn 8 r.1), r.2)
  | '0' :: 'b' :: rest =>
    (digitRun (fun c => c = '0' || c = '1') rest).map fun r => (.integer (digitsIn 2 r.1), r.2)
  | _ => none

/-- No digit may follow a zero at the start. -/
def wholeDigits : Reader (List Char)
  | '0' :: rest => some (['0'], rest)
  | cs => digitRun Char.isDigit cs

def sign : List Char → Bool × List Char
  | '-' :: rest => (true, rest)
  | '+' :: rest => (false, rest)
  | cs => (false, cs)

def fraction : List Char → List Char × List Char
  | '.' :: rest => (digitRun Char.isDigit rest).getD ([], '.' :: rest)
  | cs => ([], cs)

def exponent : List Char → Option Int × List Char
  | e :: rest =>
    if e = 'e' || e = 'E' then
      let (negative, unsigned) := sign rest
      match digitRun Char.isDigit unsigned with
      | some (ds, r) => (some (if negative then -(digitsValue ds : Int) else digitsValue ds), r)
      | none => (none, e :: rest)
    else (none, e :: rest)
  | [] => (none, [])

def decimalNumber : Reader Value := fun cs =>
  let (negative, unsigned) := sign cs
  match wholeDigits unsigned with
  | none => none
  | some (whole, afterWhole) =>
    let (frac, afterFraction) := fraction afterWhole
    let (exp, rest) := exponent afterFraction
    if frac = [] ∧ exp = none then
      if whole.length ≤ maxDigits then
        some (.integer (if negative then -(digitsValue whole : Int) else digitsValue whole), rest)
      else none
    else some (.number (DecimalNotation.mk negative whole frac (exp.getD 0)).toFloat, rest)

def specialNumber : Reader Value := fun cs =>
  let (negative, unsigned) := sign cs
  match unsigned with
  | 'i' :: 'n' :: 'f' :: rest => some (.number (if negative then -1 / 0 else 1 / 0), rest)
  | 'n' :: 'a' :: 'n' :: rest => some (.number (0 / 0), rest)
  | _ => none

def orElse (first second : Reader Value) : Reader Value := fun cs =>
  match first cs with
  | some r => some r
  | none => second cs

def numberOrTime : Reader Value :=
  orElse (fun cs => (time cs).map fun r => (.time r.1, r.2))
    (orElse baseNumber (orElse decimalNumber specialNumber))

/-- Any value but an array and an inline table. -/
def scalar : Reader Value := fun cs =>
  match cs with
  | '"' :: _ => (text cs).map fun r => (.string r.1, r.2)
  | '\'' :: _ => (text cs).map fun r => (.string r.1, r.2)
  | 't' :: 'r' :: 'u' :: 'e' :: rest => some (.flag true, rest)
  | 'f' :: 'a' :: 'l' :: 's' :: 'e' :: rest => some (.flag false, rest)
  | _ =>
    match dateOrDateTime cs with
    | some found => found
    | none => numberOrTime cs

end BuildVariants.Toml
