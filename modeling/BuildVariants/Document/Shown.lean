import BuildVariants.Decimal.Binary
import BuildVariants.Document.Value

/-!
# Values in messages

A value in a message is shown as it is if it is a text; inside a list or a table a text is quoted.
Other values are shown by a notation of their own, the same in both places except for dates and
times, which are shown plainly on their own and as constructor calls inside. A value with an integer
of too many digits in it cannot be shown at all.
-/

namespace BuildVariants

def padded (width n : Nat) : String :=
  let s := toString n
  "".pushn '0' (width - s.length) ++ s

/-! ## Numbers -/

/-- Positional from the fourth place behind the point to the sixteenth before it. -/
def decimalText (s : Decimal.Scaled) : String :=
  let digits := toString s.digits
  let count := digits.length
  let leading := s.exponent + (count : Int) - 1
  if leading < -4 ∨ 15 < leading then
    let tail := digits.drop 1
    (digits.take 1).toString ++ (if tail.isEmpty then "" else "." ++ tail.toString) ++ "e" ++
      (if leading < 0 then "-" else "+") ++ padded 2 leading.natAbs
  else if leading < 0 then "0." ++ "".pushn '0' (-leading - 1).toNat ++ digits
  else if 0 ≤ s.exponent then digits ++ "".pushn '0' s.exponent.toNat ++ ".0"
  else
    let whole := leading.toNat + 1
    (digits.take whole).toString ++ "." ++ (digits.drop whole).toString

def numberText (x : Float) : String :=
  if x.isNaN then "nan"
  else
    let sign := if x.toBits ≥ 0x8000000000000000 then "-" else ""
    if x.isInf then sign ++ "inf"
    else if x == 0 then sign ++ "0.0"
    else sign ++ decimalText (Decimal.Binary.ofBits x.toBits).shortest

/-! ## Dates and times -/

def Date.text (d : Date) : String :=
  padded 4 d.year ++ "-" ++ padded 2 d.month ++ "-" ++ padded 2 d.day

def TimeOfDay.text (t : TimeOfDay) : String :=
  padded 2 t.hour ++ ":" ++ padded 2 t.minute ++ ":" ++ padded 2 t.second ++
    if t.microsecond = 0 then "" else "." ++ padded 6 t.microsecond

def offsetText (minutes : Int) : String :=
  (if minutes < 0 then "-" else "+") ++ padded 2 (minutes.natAbs / 60) ++ ":" ++
    padded 2 (minutes.natAbs % 60)

def DateTime.text (d : DateTime) : String :=
  d.date.text ++ " " ++ d.time.text ++ d.offset.elim "" offsetText

def call (function : String) (arguments : List String) : String :=
  function ++ "(" ++ String.intercalate ", " arguments ++ ")"

def Date.arguments (d : Date) : List String := [d.year, d.month, d.day].map toString

/-- Seconds and microseconds are left out from the right while they are zero. -/
def TimeOfDay.arguments (t : TimeOfDay) : List String :=
  let shown :=
    if t.microsecond ≠ 0 then [t.hour, t.minute, t.second, t.microsecond]
    else if t.second ≠ 0 then [t.hour, t.minute, t.second]
    else [t.hour, t.minute]
  shown.map toString

/-- A negative offset is a day back and some seconds forward. -/
def zoneLiteral (minutes : Int) : String :=
  if minutes = 0 then "datetime.timezone.utc"
  else
    let seconds := minutes * 60
    call "datetime.timezone"
      [call "datetime.timedelta"
        (if seconds < 0 then ["days=-1", "seconds=" ++ toString (seconds + 86400)]
        else ["seconds=" ++ toString seconds])]

def Date.literal (d : Date) : String := call "datetime.date" d.arguments

def TimeOfDay.literal (t : TimeOfDay) : String := call "datetime.time" t.arguments

def DateTime.literal (d : DateTime) : String :=
  call "datetime.datetime"
    (d.date.arguments ++ d.time.arguments ++
      d.offset.elim [] fun minutes => ["tzinfo=" ++ zoneLiteral minutes])

/-! ## Values -/

mutual

def Value.literal : Value → String
  | .string s => Text.quoted s
  | .integer n => toString n
  | .number x => numberText x
  | .flag b => if b then "True" else "False"
  | .nothing => "None"
  | .list elements => "[" ++ String.intercalate ", " (literals elements) ++ "]"
  | .table entries => "\x7b" ++ String.intercalate ", " (entryLiterals entries) ++ "\x7d"
  | .dateTime d => d.literal
  | .date d => d.literal
  | .time t => t.literal

def literals : List Value → List String
  | [] => []
  | v :: vs => v.literal :: literals vs

def entryLiterals : List (String × Value) → List String
  | [] => []
  | (key, v) :: rest => (Text.quoted key ++ ": " ++ v.literal) :: entryLiterals rest

end

def Value.text : Value → String
  | .string s => s
  | .dateTime d => d.text
  | .date d => d.text
  | .time t => t.text
  | v => v.literal

/-- The most digits of an integer that is shown. -/
def longestInteger : Nat := 4300

mutual

def Value.isShowable : Value → Bool
  | .integer n => n.natAbs < 10 ^ longestInteger
  | .list elements => areShowable elements
  | .table entries => haveShowable entries
  | _ => true

def areShowable : List Value → Bool
  | [] => true
  | v :: vs => v.isShowable && areShowable vs

def haveShowable : List (String × Value) → Bool
  | [] => true
  | (_, v) :: rest => v.isShowable && haveShowable rest

end

def Value.shown (v : Value) : Except Fault String :=
  if v.isShowable then .ok v.text else .error (.value .notShowable)

end BuildVariants
