import BuildVariants.Text.Blank

/-!
# Log levels

A log level is named in any case, with blank characters around it. The upper case of some letters
outside ASCII lies inside it, so these letters can stand in a name too.
-/

namespace BuildVariants

inductive LogLevel where
  | trace
  | debug
  | info
  | warning
  | error
  | critical
  deriving DecidableEq, Repr, Inhabited

namespace LogLevel

def text : LogLevel → String
  | .trace => "TRACE"
  | .debug => "DEBUG"
  | .info => "INFO"
  | .warning => "WARNING"
  | .error => "ERROR"
  | .critical => "CRITICAL"

def all : List LogLevel := [.trace, .debug, .info, .warning, .error, .critical]

/-- The upper case of a character where it is ASCII; other characters are kept. -/
def upperCase (c : Char) : List Char :=
  if c.toNat < 0x80 then [c.toUpper]
  else match c with
    | 'ß' => ['S', 'S']
    | 'ı' => ['I']
    | 'ſ' => ['S']
    | 'ﬀ' => ['F', 'F']
    | 'ﬁ' => ['F', 'I']
    | 'ﬂ' => ['F', 'L']
    | 'ﬃ' => ['F', 'F', 'I']
    | 'ﬄ' => ['F', 'F', 'L']
    | 'ﬅ' => ['S', 'T']
    | 'ﬆ' => ['S', 'T']
    | _ => [c]

/-- A text that names no level. -/
structure Invalid where
  value : String
  deriving DecidableEq, Repr

def Invalid.message (i : Invalid) : String := "Invalid log level: " ++ i.value

def ofString? (s : String) : Option LogLevel :=
  let name := (Text.trim s.toList).flatMap upperCase
  all.find? fun level => level.text.toList = name

def parse (s : String) : Except Invalid LogLevel :=
  match ofString? s with
  | some level => .ok level
  | none => .error ⟨s⟩

/-- The level of a process: what its environment says, else warnings and worse. -/
def ofEnvironment (value : Option String) : Except Invalid LogLevel :=
  match value with
  | none => .ok .warning
  | some s => parse s

end LogLevel

end BuildVariants
