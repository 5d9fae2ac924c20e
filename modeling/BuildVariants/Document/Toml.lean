import BuildVariants.Document.Toml.Scalar

/-!
# TOML documents

A document is read statement by statement into one table. What has been declared is kept beside it:
tables that a header or a dotted key has opened, and arrays and inline tables, which nothing may
add to later.
-/

namespace BuildVariants.Toml

abbrev Key := List String

def isBareChar (c : Char) : Bool := c.isAlphanum || c = '-' || c = '_'

/-! ## Keys -/

def keyPart : Reader String
  | [] => none
  | c :: rest =>
    if isBareChar c then
      let (name, after) := (c :: rest).span isBareChar
      some (String.ofList name, after)
    else if c = '"' then (basic [] rest).map fun r => (String.ofList r.1, r.2)
    else if c = '\'' then (literal [] rest).map fun r => (String.ofList r.1, r.2)
    else none

/-- Parts with dots between them; blanks may stand around the dots and behind the last part. Each
part uses up one unit of the limit. -/
def key : Nat → Reader Key
  | 0, _ => none
  | n + 1, cs =>
    match keyPart cs with
    | none => none
    | some (part, rest) =>
      match skipBlank rest with
      | '.' :: r => (key n (skipBlank r)).map fun found => (part :: found.1, found.2)
      | r => some ([part], r)

/-! ## Tables -/

/-- Changes the table at a key, making the tables on the way that are not there. In an array of
tables the last table is meant, if arrays may be entered at all. -/
def change (enterArrays : Bool) (f : Table → Option Table) : Key → Table → Option Table
  | [], t => f t
  | k :: ks, t =>
    match t.get? k with
    | none => (change enterArrays f ks []).map fun sub => t.set k (.table sub)
    | some (.table sub) => (change enterArrays f ks sub).map fun sub => t.set k (.table sub)
    | some (.list elements) =>
      match enterArrays, elements.getLast? with
      | true, some (.table sub) =>
        (change enterArrays f ks sub).map fun sub =>
          t.set k (.list (elements.dropLast ++ [.table sub]))
      | _, _ => none
    | some _ => none

def insertNew (name : String) (v : Value) (t : Table) : Option Table :=
  if t.has name then none else some (t.set name v)

/-- One more table in an array of tables. -/
def appendTable (name : String) (t : Table) : Option Table :=
  match t.get? name with
  | none => some (t.set name (.list [.table []]))
  | some (.list elements) => some (t.set name (.list (elements ++ [.table []])))
  | some _ => none

/-- The proper beginnings of a key that have at least one part. -/
def beginnings (k : Key) : List Key :=
  (List.range (k.length - 1)).map fun i => k.take (i + 1)

def isClosed : Value → Bool
  | .list _ => true
  | .table _ => true
  | _ => false

/-- A key lies in what is closed if a closed key is a beginning of it or the key itself. -/
def liesIn (closed : List Key) (k : Key) : Bool := closed.any fun c => c.isPrefixOf k

/-! ## Values -/

/-- Blanks, line breaks and comments inside an array. Each comment uses up one unit. -/
def skipInArray : Nat → List Char → Option (List Char)
  | 0, cs => some cs
  | n + 1, cs =>
    match cs.dropWhile isBlankOrBreak with
    | '#' :: rest =>
      match skipComment ('#' :: rest) with
      | none => none
      | some after => skipInArray n after
    | after => some after

mutual

/-- Each opening and each closing bracket, each comma and each comment uses up at most one unit, so
as many units as characters are enough. -/
def value : Nat → Reader Value
  | 0, _ => none
  | n + 1, '[' :: rest =>
    match skipInArray n rest with
    | none => none
    | some (']' :: r) => some (.list [], r)
    | some r => elements n [] r
  | n + 1, '\x7b' :: rest =>
    match skipBlank rest with
    | '\x7d' :: r => some (.table [], r)
    | r => entries n [] [] r
  | _ + 1, cs => scalar cs

/-- The elements read so far are in reverse. -/
def elements : Nat → List Value → Reader Value
  | 0, _, _ => none
  | n + 1, read, cs =>
    match value n cs with
    | none => none
    | some (v, rest) =>
      match skipInArray n rest with
      | some (']' :: r) => some (.list (v :: read).reverse, r)
      | some (',' :: r) =>
        match skipInArray n r with
        | none => none
        | some (']' :: r') => some (.list (v :: read).reverse, r')
        | some r' => elements n (v :: read) r'
      | _ => none

/-- The entries of an inline table; `closed` has the keys of the arrays and tables among them. -/
def entries : Nat → List Key → Table → Reader Value
  | 0, _, _, _ => none
  | n + 1, closed, read, cs =>
    match key n cs with
    | some (k, '=' :: afterMark) =>
      match value n (skipBlank afterMark) with
      | none => none
      | some (v, rest) =>
        if liesIn closed k then none
        else match change false (insertNew (k.getLast?.getD "") v) k.dropLast read with
          | none => none
          | some read =>
            match skipBlank rest with
            | '\x7d' :: r => some (.table read, r)
            | ',' :: r =>
              entries n (if isClosed v then k :: closed else closed) read (skipBlank r)
            | _ => none
    | _ => none

end

/-! ## Statements -/

structure Progress where
  document : Table := []
  /-- The key of the header that the next statements belong to. -/
  header : Key := []
  /-- Tables that may not be opened by a header again. -/
  opened : List Key := []
  /-- Tables that dotted keys have opened since the last header. -/
  pending : List Key := []
  /-- Arrays and inline tables. -/
  closed : List Key := []

namespace Progress

def endSection (p : Progress) : Progress :=
  { p with opened := p.pending ++ p.opened, pending := [] }

def openTable (p : Progress) (k : Key) : Option Progress :=
  if p.opened.contains k || liesIn p.closed k then none
  else (change true some k p.document).map fun document =>
    { p with document := document, header := k, opened := k :: p.opened }

/-- What was declared below an array of tables does not bind the new table. -/
def openArrayTable (p : Progress) (k : Key) : Option Progress :=
  if liesIn p.closed k then none
  else (change true (appendTable (k.getLast?.getD "")) k.dropLast p.document).map fun document =>
    { p with
      document := document
      header := k
      opened := k :: p.opened.filter fun o => !k.isPrefixOf o
      closed := p.closed.filter fun c => !k.isPrefixOf c }

def assign (p : Progress) (k : Key) (v : Value) : Option Progress :=
  let above := (beginnings k).map (p.header ++ ·)
  if above.any p.opened.contains then none
  else if liesIn p.closed (p.header ++ k.dropLast) then none
  else
    (change true (insertNew (k.getLast?.getD "") v) (p.header ++ k.dropLast) p.document).map
      fun document =>
        { p with
          document := document
          pending := above ++ p.pending
          closed := if isClosed v then (p.header ++ k) :: p.closed else p.closed }

end Progress

/-! The limit of a statement is one for the whole document, a number above that of its characters,
which no key and no value in it can use up. -/

def assignment (limit : Nat) (p : Progress) (cs : List Char) : Option (Progress × List Char) :=
  match key limit cs with
  | some (k, '=' :: afterMark) =>
    match value limit (skipBlank afterMark) with
    | some (v, rest) => (p.assign k v).map (·, rest)
    | none => none
  | _ => none

def tableHeader (limit : Nat) (p : Progress) (cs : List Char) : Option (Progress × List Char) :=
  match key limit (skipBlank cs) with
  | some (k, ']' :: rest) => (p.endSection.openTable k).map (·, rest)
  | _ => none

def arrayTableHeader (limit : Nat) (p : Progress) (cs : List Char) :
    Option (Progress × List Char) :=
  match key limit (skipBlank cs) with
  | some (k, ']' :: ']' :: rest) => (p.endSection.openArrayTable k).map (·, rest)
  | _ => none

/-- One statement at the start of a line, if there is one. -/
def statement (limit : Nat) (p : Progress) (cs : List Char) : Option (Progress × List Char) :=
  match cs with
  | [] => some (p, [])
  | '\n' :: _ => some (p, cs)
  | '#' :: _ => some (p, cs)
  | '[' :: '[' :: rest => arrayTableHeader limit p rest
  | '[' :: rest => tableHeader limit p rest
  | _ => assignment limit p cs

/-- Each line uses up one unit. -/
def lines (limit : Nat) : Nat → Progress → List Char → Option Table
  | 0, _, _ => none
  | n + 1, p, cs =>
    match statement limit p (skipBlank cs) with
    | none => none
    | some (p, rest) =>
      match skipComment (skipBlank rest) with
      | none => none
      | some [] => some p.document
      | some ('\n' :: next) => lines limit n p next
      | some _ => none

/-- A carriage return before a line feed does not count. The characters read so far are in
reverse. -/
def joinBreaks (read : List Char) : List Char → List Char
  | '\r' :: '\n' :: rest => joinBreaks ('\n' :: read) rest
  | c :: rest => joinBreaks (c :: read) rest
  | [] => read.reverse

def parse? (cs : List Char) : Option Table :=
  let text := joinBreaks [] cs
  let limit := text.length + 1
  lines limit limit {} text

end BuildVariants.Toml
