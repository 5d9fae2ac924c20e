import BuildVariants.Xml.Account
import BuildVariants.Xml.Name
import Std.Data.HashMap

/-!
# References and attribute values

A reference stands between an ampersand and a semicolon: the number of a character or the name of
an entity. Text is cut into parts first, which are references, blanks and the runs between them;
what an entity stands for is cut and expanded in the same way, and no entity may stand for itself.
-/

namespace BuildVariants.Xml

inductive Part where
  | run (cs : List Char)
  | blank (cs : List Char)
  | given (c : Char) (digits : List Char)
  | entity (name : List Char)
  deriving DecidableEq, Repr

/-- The text that a part is cut from. -/
def Part.source : Part → List Char
  | .run cs => cs
  | .blank cs => cs
  | .given _ digits => '&' :: digits ++ [';']
  | .entity name => '&' :: name ++ [';']

def digitValue? (base : Nat) (c : Char) : Option Nat :=
  let n :=
    if c.isDigit then c.toNat - 0x30
    else if 'a' ≤ c ∧ c ≤ 'f' then c.toNat - 0x57
    else if 'A' ≤ c ∧ c ≤ 'F' then c.toNat - 0x37
    else base
  if n < base then some n else none

/-- A character that a document may hold, by its number. -/
def charOfDigits? (base : Nat) (digits : List Char) : Option Char :=
  if digits = [] then none
  else match digits.foldlM (fun n c => (digitValue? base c).map (base * n + ·)) 0 with
    | none => none
    | some n =>
      if n < 0xD800 ∨ (0xE000 ≤ n ∧ n < 0x110000) then
        if isXmlChar (Char.ofNat n) then some (Char.ofNat n) else none
      else none

def predefined? (name : List Char) : Option Char :=
  if name = "lt".toList then some '<'
  else if name = "gt".toList then some '>'
  else if name = "amp".toList then some '&'
  else if name = "quot".toList then some '"'
  else if name = "apos".toList then some '\''
  else none

/-- What stands between ampersand and semicolon. -/
def reference? (f : Form) (inner : List Char) : Option Part :=
  match inner with
  | '#' :: 'x' :: digits => (charOfDigits? 16 digits).map (.given · inner)
  | '#' :: digits => (charOfDigits? 10 digits).map (.given · inner)
  | _ =>
    match plainName f inner with
    | some (name, []) => some (.entity name)
    | _ => none

def isRunChar (c : Char) : Bool := c ≠ '&' && !isBlank c

/-- Cuts text behind the parts that have been read, which are in reverse. A line break is one blank,
except in what an entity stands for. Each part uses up one unit. -/
def partsBehind (f : Form) : Nat → List Part → List Char → Option (List Part)
  | 0, _, _ => none
  | n + 1, read, cs =>
    match cs with
    | [] => some read.reverse
    | c :: rest =>
      if c = '&' then
        match rest.span (· ≠ ';') with
        | (inner, _ :: after) =>
          match reference? f inner with
          | some p => partsBehind f n (p :: read) after
          | none => none
        | _ => none
      else if isBlank c then
        let (line, after) := f.lineBreak c rest
        partsBehind f n (.blank line :: read) after
      else
        let (run, after) := cs.span isRunChar
        partsBehind f n (.run run :: read) after

def parts (f : Form) (cs : List Char) : Option (List Part) := partsBehind f (cs.length + 1) [] cs

/-! ## Entities -/

inductive Entity where
  | internal (text : List Char)
  | external
  | unparsed
  deriving DecidableEq, Repr

/-- What is known of the entities. Unless all declarations have been read, an entity that is not
known may have been declared elsewhere. -/
structure Entities where
  declared : Std.HashMap String Entity := {}
  complete : Bool := true

def Entities.find? (es : Entities) (name : List Char) : Option Entity :=
  es.declared[String.ofList name]?

def Entities.insert (es : Entities) (name : List Char) (e : Entity) : Entities :=
  { es with declared := es.declared.insert (String.ofList name) e }

/-- What an entity stands for: characters given by number are put in, other references wait until
the entity is used. -/
def entityText (f : Form) (raw : List Char) : Option (List Char) :=
  if raw.contains '%' then none
  else (parts f raw).map fun ps => ps.flatMap fun
    | .run cs => cs
    | .blank cs => if cs.contains '\r' then ['\n'] else cs
    | .given c _ => [c]
    | .entity name => '&' :: name ++ [';']

/-! ## Expansion -/

/-- The bytes that a part of a value counts for. A carriage return at the end of what is written
counts for nothing. -/
def Part.size (f : Form) (p : Part) (rest : List Part) : Nat :=
  if p = .blank ['\r'] ∧ rest = [] ∧ f ≠ .replacement then 0 else f.size p.source

/-- The expansion of a value, behind what has been expanded before, in reverse. Blank characters in
it are spaces, but a character given by its number is kept. An entity is replaced by its own
expansion; one that may be declared elsewhere gives nothing. The less-than sign can only be given by
its number or its entity. Each entity inside another uses up one unit of depth; none is left where
an entity stands inside itself. -/
def expand (es : Entities) (depth : Nat) (f : Form) (share : Share) (read : List Char)
    (a : Account) (ps : List Part) : Option (List Char × Account) :=
  match ps with
  | [] => some (read, a)
  | p :: rest =>
    match a.charge share (p.size f rest) with
    | none => none
    | some a =>
      match p with
      | .run cs =>
        if cs.contains '<' then none
        else expand es depth f share (cs.reverseAux read) a rest
      | .blank _ => expand es depth f share (' ' :: read) a rest
      | .given c _ => expand es depth f share (c :: read) a rest
      | .entity name =>
        match predefined? name with
        | some c => expand es depth f share (c :: read) (a.add .expanded 1) rest
        | none =>
          match es.find? name with
          | none => if es.complete then none else expand es depth f share read a rest
          | some (.internal text) =>
            match depth with
            | 0 => none
            | d + 1 =>
              match parts .replacement text with
              | none => none
              | some inner =>
                match expand es d .replacement .expanded read a inner with
                | none => none
                | some (read, a) => expand es (d + 1) f share read a rest
          | some _ => none
termination_by (depth, ps.length)

/-- The text of which the characters are given in reverse, with one space between words and none at
the ends. -/
def collapseSpaces (reversed : List Char) : List Char :=
  (reversed.foldl
    (fun kept c => if c = ' ' && kept.head?.all (· = ' ') then kept else c :: kept)
    []).dropWhile (· = ' ')

/-- The value of an attribute from what stands between its quotes. Only values of character data
keep all their spaces. -/
def attributeValue (f : Form) (es : Entities) (share : Share) (isCharacterData : Bool)
    (raw : List Char) (a : Account) : Option (List Char × Account) :=
  match parts f raw with
  | none => none
  | some ps =>
    match expand es es.declared.size f share [] a ps with
    | none => none
    | some (read, a) =>
      some (if isCharacterData then read.reverse else collapseSpaces read, a)

/-- Whether a value stands for itself: no references, and single spaces between words as the only
blanks. -/
def isNormal (afterSpace : Bool) : List Char → Bool
  | [] => !afterSpace
  | c :: rest =>
    if c = ' ' then !afterSpace && isNormal true rest
    else isRunChar c && isNormal false rest

end BuildVariants.Xml
