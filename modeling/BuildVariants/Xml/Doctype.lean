import BuildVariants.Xml.Reference
import BuildVariants.Xml.Token

/-!
# Document types

The declaration of a document type names the root element and may hold declarations of entities,
attributes, elements and notations. Entities and default values of attributes are kept; of
everything else only the grammar counts. Declarations behind a reference to a parameter entity do
not count unless the document stands alone.
-/

namespace BuildVariants.Xml

structure AttributeRule where
  element : List Char
  attr : List Char
  isCharacterData : Bool
  default : Option (List Char)
  deriving DecidableEq, Repr

structure Doctype where
  entities : Entities := {}
  /-- The first rule for an attribute of an element is the one that counts. -/
  rules : List AttributeRule := []
  standalone : Bool := false
  /-- Whether declarations still count. -/
  counts : Bool := true

namespace Doctype

/-- From here on entities may be declared elsewhere, unless the document stands alone. -/
def mayMiss (d : Doctype) : Doctype :=
  { d with entities := { d.entities with complete := d.standalone } }

def addEntity (d : Doctype) (name : List Char) (e : Entity) : Doctype :=
  if (predefined? name).isSome || !d.counts || (d.entities.find? name).isSome then d
  else { d with entities := d.entities.insert name e }

def rule? (d : Doctype) (element attr : List Char) : Option AttributeRule :=
  d.rules.find? fun r => r.element = element ∧ r.attr = attr

def addRule (d : Doctype) (r : AttributeRule) : Doctype :=
  if !d.counts || (d.rule? r.element r.attr).isSome then d
  else { d with rules := d.rules ++ [r] }

/-! ## Names and literals -/

def name : Reading (List Char) := do
  match ← Reading.next with
  | .name .plain text false => pure text
  | _ => failure

def tagName? : Token → Option (List Char)
  | .name .plain text false => some text
  | .name .qualified text false => some text
  | _ => none

def tagName : Reading (List Char) := do
  match tagName? (← Reading.next) with
  | some text => pure text
  | none => failure

/-- Whether one of the pieces of a text, of at most 1024 bytes in UTF-8 each, begins with an
ampersand; `used` bytes of a piece are in use when the text begins. -/
def hasPieceAtReference (used : Nat) : List Char → Bool
  | [] => false
  | c :: rest =>
    if used + c.utf8Size ≤ 1024 then hasPieceAtReference (used + c.utf8Size) rest
    else c = '&' || hasPieceAtReference c.utf8Size rest

/-- Outside UTF-8 a literal of a declaration is looked at in pieces, and a piece that begins like a
reference is taken for one to an unknown entity. -/
def admits (f : Form) (text : List Char) : Bool := f = .utf8 || !hasPieceAtReference 1 text

def admitted (text : List Char) : Reading (List Char) := do
  if admits (← Reading.form) text then pure text else failure

/-- Any literal at all. -/
def anyLiteral : Reading (List Char) := do
  match ← Reading.next with
  | .literal text => pure text
  | _ => failure

def literal : Reading (List Char) := do
  admitted (← anyLiteral)

def isPublicIdChar (c : Char) : Bool :=
  c.isAlphanum || " \r\n-'()+,./:=?;!*#@$_%".toList.contains c

def publicId : Reading Unit := do
  if (← anyLiteral).all isPublicIdChar then pure () else failure

/-- Where an external part is found, from behind the word that tells what stands there: a system
identifier, or a public one and then a system one. -/
def externalId (word : List Char) (systemId : Reading (List Char)) : Reading Unit := do
  if word = "PUBLIC".toList then publicId
  else if word ≠ "SYSTEM".toList then failure
  let _ ← systemId

/-! ## Entities and notations -/

/-- What an entity stands for; declarations that do not count stand for nothing. -/
def replacementText (d : Doctype) (raw : List Char) : Reading (List Char) := do
  let raw ← admitted raw
  if !d.counts then pure []
  else match entityText (← Reading.form) raw with
    | some text => pure text
    | none => failure

def parameterEntity (d : Doctype) : Reading Doctype := do
  let _ ← name
  match ← Reading.next with
  | .literal raw =>
    let _ ← d.replacementText raw
  | .name .plain word false => externalId word literal
  | _ => failure
  Reading.expect .closing
  pure d

def generalEntity (d : Doctype) (n : List Char) : Reading Doctype := do
  match ← Reading.next with
  | .literal raw =>
    let text ← d.replacementText raw
    Reading.expect .closing
    pure (d.addEntity n (.internal text))
  | .name .plain word false =>
    externalId word literal
    match ← Reading.next with
    | .closing => pure (d.addEntity n .external)
    | .name .plain data false =>
      if data ≠ "NDATA".toList then failure
      let _ ← name
      Reading.expect .closing
      pure (d.addEntity n .unparsed)
    | _ => failure
  | _ => failure

def entityDeclaration (d : Doctype) : Reading Doctype := do
  match ← Reading.next with
  | .percent => d.parameterEntity
  | .name .plain n false => d.generalEntity n
  | _ => failure

def notationDeclaration : Reading Unit := do
  let _ ← name
  let word ← name
  if word = "SYSTEM".toList then
    let _ ← literal
    Reading.expect .closing
  else if word = "PUBLIC".toList then
    publicId
    match ← Reading.next with
    | .closing => pure ()
    | .literal text =>
      let _ ← admitted text
      Reading.expect .closing
    | _ => failure
  else failure

/-! ## Attributes -/

/-- Alternatives from behind the opening parenthesis. Each uses up one unit. -/
def alternatives (isOption : Token → Bool) : Nat → Reading Unit
  | 0 => failure
  | n + 1 => do
    if isOption (← Reading.next) then
      match ← Reading.next with
      | .bar => alternatives isOption n
      | .endParenthesis none => pure ()
      | _ => failure
    else failure

/-- A choice between values may list any tokens, one between notations only plain names. -/
def isValueOption : Token → Bool
  | .name _ _ isRepeated => !isRepeated
  | _ => false

def isNotationOption : Token → Bool
  | .name .plain _ isRepeated => !isRepeated
  | _ => false

def plainTypes : List String :=
  ["CDATA", "ID", "IDREF", "IDREFS", "ENTITY", "ENTITIES", "NMTOKEN", "NMTOKENS"]

/-- The type of an attribute: whether it is character data. -/
def attributeType (n : Nat) : Reading Bool := do
  match ← Reading.next with
  | .parenthesis =>
    alternatives isValueOption n
    pure false
  | .name .plain word false =>
    if plainTypes.any (·.toList = word) then pure (word = "CDATA".toList)
    else if word = "NOTATION".toList then
      Reading.expect .parenthesis
      alternatives isNotationOption n
      pure false
    else failure
  | _ => failure

/-- The default of an attribute: none, or the text of a literal. -/
def attributeDefault : Reading (Option (List Char)) := do
  match ← Reading.next with
  | .hash word =>
    if word = "IMPLIED".toList ∨ word = "REQUIRED".toList then pure none
    else if word = "FIXED".toList then some <$> literal
    else failure
  | .literal text => some <$> admitted text
  | _ => failure

/-- The value of a default; the text in the literal is not counted once more. -/
def defaultValue (d : Doctype) (isCharacterData : Bool) (raw : List Char) :
    Reading (List Char) := do
  let f ← Reading.form
  Reading.charge (attributeValue f d.entities .uncounted isCharacterData raw)

/-- The attributes of an element, each with type and default. Each uses up one unit. -/
def attributeRules (element : List Char) : Nat → Doctype → Reading Doctype
  | 0, _ => failure
  | n + 1, d => do
    let t ← Reading.next
    if t = .closing then pure d
    else match tagName? t with
      | none => failure
      | some attr =>
        let isCharacterData ← attributeType n
        match ← attributeDefault with
        | none => attributeRules element n (d.addRule ⟨element, attr, isCharacterData, none⟩)
        | some raw =>
          if d.counts then
            let value ← d.defaultValue isCharacterData raw
            attributeRules element n (d.addRule ⟨element, attr, isCharacterData, some value⟩)
          else attributeRules element n d

def attributeDeclaration (d : Doctype) (n : Nat) : Reading Doctype := do
  attributeRules (← tagName) n d

/-! ## Elements -/

/-- A model of child elements, inside at least one parenthesis. Each open group has the mark between
its members, once one has been seen. Each token uses up one unit. -/
def children : Nat → List (Option Token) → Bool → Reading Unit
  | 0, _, _ => failure
  | n + 1, groups, expectsMember => do
    match groups with
    | [] => pure ()
    | mark :: outer =>
      let t ← Reading.next
      if expectsMember then
        match t with
        | .parenthesis => children n (none :: mark :: outer) true
        | .name kind _ _ => if kind = .token then failure else children n (mark :: outer) false
        | _ => failure
      else match t with
        | .endParenthesis _ => children n outer false
        | _ =>
          if (t = .comma ∨ t = .bar) ∧ (mark = none ∨ mark = some t) then
            children n (some t :: outer) true
          else failure

/-- Names that may stand among text, behind the mark for text. Each uses up one unit. -/
def mixed : Nat → Bool → Reading Unit
  | 0, _ => failure
  | n + 1, isFirst => do
    match ← Reading.next with
    | .endParenthesis mark =>
      if mark = some '*' ∨ (isFirst ∧ mark = none) then pure () else failure
    | .bar =>
      let _ ← tagName
      mixed n false
    | _ => failure

def contentModel (n : Nat) : Reading Unit := do
  match ← Reading.next with
  | .parenthesis =>
    match ← Reading.next with
    | .hash word => if word = "PCDATA".toList then mixed n true else failure
    | .parenthesis => children n [none, none] true
    | .name kind _ _ => if kind = .token then failure else children n [none] false
    | _ => failure
  | .name .plain word false =>
    if word = "EMPTY".toList ∨ word = "ANY".toList then pure () else failure
  | _ => failure

def elementDeclaration (n : Nat) : Reading Unit := do
  let _ ← tagName
  contentModel n
  Reading.expect .closing

/-! ## The declaration itself -/

def declaration (d : Doctype) (n : Nat) (word : List Char) : Reading Doctype := do
  if word = "ENTITY".toList then d.entityDeclaration
  else if word = "ATTLIST".toList then d.attributeDeclaration n
  else if word = "ELEMENT".toList then
    elementDeclaration n
    pure d
  else if word = "NOTATION".toList then
    notationDeclaration
    pure d
  else failure

/-- Declarations up to the closing bracket. Each uses up one unit, and so do the tokens of each. -/
def internalSubset : Nat → Doctype → Reading Doctype
  | 0, _ => failure
  | n + 1, d => do
    match ← Reading.next with
    | .endBracket => pure d
    | .parameter => internalSubset n { d.mayMiss with counts := d.standalone }
    | .comment => internalSubset n d
    | .instruction => internalSubset n d
    | .opening word =>
      let d ← d.declaration n word
      internalSubset n d
    | _ => failure

def subsetAndEnd (d : Doctype) (n : Nat) : Reading Doctype := do
  let d ← internalSubset n d
  Reading.expect .closing
  pure d

/-- Reads on from behind the opening word, up to the end of the declaration. Each token uses up one
unit. -/
def read (d : Doctype) (n : Nat) : Reading Doctype := do
  let _ ← tagName
  match ← Reading.next with
  | .closing => pure d
  | .bracket => d.subsetAndEnd n
  | .name .plain word false =>
    externalId word anyLiteral
    match ← Reading.next with
    | .closing => pure d.mayMiss
    | .bracket => d.mayMiss.subsetAndEnd n
    | _ => failure
  | _ => failure

end Doctype

end BuildVariants.Xml
