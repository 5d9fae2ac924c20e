import BuildVariants.Xml.Name

/-!
# The XML declaration

The line that may open a document gives a version, an encoding and whether the document stands
alone, in this order; only the version must be there, and its value is free.
-/

namespace BuildVariants.Xml

structure Declaration where
  encoding : Option (List Char) := none
  standalone : Bool := false
  deriving DecidableEq, Repr

namespace Declaration

def opening : List Char := "<?xml".toList

def ending : List Char := "?>".toList

def isValueChar (c : Char) : Bool := c.isAlphanum || c = '.' || c = '-' || c = '_'

structure Item where
  name : List Char
  value : List Char

/-- One item with blanks before it; no item where only blanks are left. -/
def item (cs : List Char) : Option (Option Item × List Char) :=
  match cs with
  | [] => some (none, [])
  | c :: _ =>
    if !isBlank c then none
    else match skipBlank cs with
      | [] => some (none, [])
      | start =>
        let (name, afterName) := start.span fun c => !isBlank c && c ≠ '='
        if name = [] ∨ name.any (fun c => 0x80 ≤ c.toNat) then none
        else match skipBlank afterName with
          | '=' :: afterMark =>
            match skipBlank afterMark with
            | [] => none
            | quote :: rest =>
              if quote ≠ '"' ∧ quote ≠ '\'' then none
              else
                let (value, afterValue) := rest.span isValueChar
                match afterValue with
                | close :: after => if close = quote then some (some ⟨name, value⟩, after) else none
                | [] => none
          | _ => none

/-- The item that says whether the document stands alone is the last one. -/
def ofStandalone (d : Declaration) (i : Item) (rest : List Char) : Option Declaration :=
  if i.name ≠ "standalone".toList ∨ skipBlank rest ≠ [] then none
  else if i.value = "yes".toList then some { d with standalone := true }
  else if i.value = "no".toList then some { d with standalone := false }
  else none

def ofEncoding (i : Item) (rest : List Char) : Option Declaration :=
  if i.name ≠ "encoding".toList then ofStandalone {} i rest
  else match i.value with
    | [] => none
    | first :: _ =>
      if !first.isAlpha then none
      else match item rest with
        | none => none
        | some (none, _) => some { encoding := some i.value }
        | some (some next, after) => ofStandalone { encoding := some i.value } next after

/-- What stands between the name of the declaration and its end. -/
def ofContent? (cs : List Char) : Option Declaration :=
  match item cs with
  | some (some first, rest) =>
    if first.name ≠ "version".toList then none
    else match item rest with
      | none => none
      | some (none, _) => some {}
      | some (some second, after) => ofEncoding second after
  | _ => none

/-- The declaration at the start of a document with the number of its characters, of which there are
none if there is no declaration. -/
def read (cs : List Char) : Option (Declaration × Nat) :=
  if opening.isPrefixOf cs then
    match cs.drop opening.length with
    | [] => none
    | c :: rest =>
      if isBlank c || c = '?' then
        match splitAt? ending [] (c :: rest) with
        | none => none
        | some (content, _) =>
          (ofContent? content).map (·, opening.length + content.length + ending.length)
      else some ({}, 0)
  else some ({}, 0)

end Declaration

end BuildVariants.Xml
