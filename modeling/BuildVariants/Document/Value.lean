import BuildVariants.Fault

/-!
# Values of a description

A description is written in one of two data formats; either gives a tree of these values. A table
keeps its entries in the order in which their keys first appear.

Where a list is expected, a text stands for its characters and a table for its keys; where nothing
or an empty value stands for an absent one, `isEmpty` says which values are empty.
-/

namespace BuildVariants

structure Date where
  year : Nat
  month : Nat
  day : Nat
  deriving DecidableEq, Repr, Inhabited

structure TimeOfDay where
  hour : Nat
  minute : Nat
  second : Nat
  microsecond : Nat
  deriving DecidableEq, Repr, Inhabited

/-- The offset of a moment from universal time, if it has one, is in minutes. -/
structure DateTime where
  date : Date
  time : TimeOfDay
  offset : Option Int
  deriving DecidableEq, Repr, Inhabited

inductive Value where
  | string (s : String)
  | integer (n : Int)
  | number (x : Float)
  | flag (b : Bool)
  | nothing
  | list (elements : List Value)
  | table (entries : List (String × Value))
  | dateTime (d : DateTime)
  | date (d : Date)
  | time (t : TimeOfDay)
  deriving Inhabited

abbrev Table := List (String × Value)

namespace Table

def get? (t : Table) (key : String) : Option Value := (t.find? fun e => e.1 = key).map (·.2)

def has (t : Table) (key : String) : Bool := t.any fun e => e.1 = key

def keys (t : Table) : List String := t.map (·.1)

/-- A key that is there already keeps its place and gets the new value. -/
def set (t : Table) (key : String) (v : Value) : Table :=
  if t.has key then t.map fun e => if e.1 = key then (key, v) else e
  else t ++ [(key, v)]

/-- The value of a key, or the one that stands for a missing key. -/
def getD (t : Table) (key : String) (missing : Value) : Value := (t.get? key).getD missing

end Table

namespace Value

def type : Value → ValueType
  | .string _ => .string
  | .integer _ => .integer
  | .number _ => .number
  | .flag _ => .flag
  | .nothing => .nothing
  | .list _ => .list
  | .table _ => .table
  | .dateTime _ => .dateTime
  | .date _ => .date
  | .time _ => .time

/-- Whether a value given as an override counts. -/
def isSet : Value → Bool
  | .nothing => false
  | .string s => s != ""
  | _ => true

def isEmpty : Value → Bool
  | .string s => s == ""
  | .integer n => n == 0
  | .number x => x == 0
  | .flag b => !b
  | .nothing => true
  | .list elements => elements.isEmpty
  | .table entries => entries.isEmpty
  | .dateTime _ => false
  | .date _ => false
  | .time _ => false

/-- What stands for a list of values. -/
def elements : Value → Except Fault (List Value)
  | .list elements => .ok elements
  | .string s => .ok (s.toList.map fun c => .string (String.singleton c))
  | .table entries => .ok ((Table.keys entries).map .string)
  | _ => .error (.value .notIterable)

/-- Lists and tables cannot be looked up as names. -/
def isName : Value → Bool
  | .list _ => false
  | .table _ => false
  | _ => true

def asTable : Value → Except Fault Table
  | .table entries => .ok entries
  | _ => .error (.value .notTable)

def asText : Value → Except Fault String
  | .string s => .ok s
  | _ => .error (.value .notText)

end Value

end BuildVariants
