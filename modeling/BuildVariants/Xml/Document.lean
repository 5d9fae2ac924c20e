import BuildVariants.Xml.Doctype
import BuildVariants.Xml.Encoding

/-!
# XML documents

A document is well-formed with regard to namespaces, or it is refused as a whole. Of a well-formed
document the attributes of the root element are kept, those in no namespace.

Elements are followed with a stack of those that are open. What an entity stands for must close
every element that it opens, and no other.
-/

namespace BuildVariants.Xml

/-! ## Namespaces -/

def xmlNamespace : String := "http://www.w3.org/XML/1998/namespace"

def prefixNamespace : String := "http://www.w3.org/2000/xmlns/"

/-- Namespaces by prefix, the innermost first; the empty prefix is that of the default namespace. -/
abbrev Bindings := List (List Char × List Char)

def Bindings.initial : Bindings := [("xml".toList, xmlNamespace.toList)]

def Bindings.find? (bs : Bindings) (pfx : List Char) : Option (List Char) :=
  (List.find? (fun b => b.1 = pfx) bs).map (·.2)

/-- The prefix and the namespace of XML belong together and to nothing else; the prefix and the
namespace of the declarations themselves cannot be declared. -/
def Bindings.bind? (bs : Bindings) (pfx uri : List Char) : Option Bindings :=
  if uri = [] ∧ pfx ≠ [] then none
  else if pfx = "xmlns".toList then none
  else if decide (pfx = "xml".toList) != decide (uri = xmlNamespace.toList) then none
  else if uri = prefixNamespace.toList then none
  else if uri.contains '\x7d' then none
  else some ((pfx, uri) :: bs)

/-! ## Start tags -/

structure Attribute where
  name : List Char
  value : List Char
  deriving DecidableEq, Repr

/-- The prefix that an attribute declares, if it is a declaration of a namespace. -/
def declaredPrefix? (name : List Char) : Option (List Char) :=
  match splitName name with
  | (none, localPart) => if localPart = "xmlns".toList then some [] else none
  | (some pfx, localPart) => if pfx = "xmlns".toList then some localPart else none

structure StartTag where
  name : List Char
  attributes : List Attribute
  isEmpty : Bool
  deriving DecidableEq, Repr

/-- Attributes with what stands between their quotes, up to the end of the tag; the tag of an empty
element ends in a slash. Each attribute uses up one unit. -/
def rawAttributes (f : Form) : Nat → List Attribute → List Char → Option (List Attribute × Bool)
  | 0, _, _ => none
  | n + 1, read, cs =>
    match skipBlank cs with
    | [] => some (read.reverse, false)
    | ['/'] => some (read.reverse, true)
    | start =>
      if !Lexeme.startsWith isBlank cs then none
      else match qualifiedName f start with
        | none => none
        | some (name, afterName) =>
          match skipBlank afterName with
          | '=' :: afterMark =>
            match skipBlank afterMark with
            | [] => none
            | quote :: rest =>
              if quote ≠ '"' ∧ quote ≠ '\'' then none
              else match rest.span (· ≠ quote) with
                | (raw, _ :: after) =>
                  if raw.contains '<' then none
                  else rawAttributes f n (⟨name, raw⟩ :: read) after
                | _ => none
          | _ => none

/-- The tag that stands between two angle brackets. -/
def StartTag.ofText? (f : Form) (cs : List Char) : Option StartTag :=
  match qualifiedName f cs with
  | none => none
  | some (name, rest) =>
    (rawAttributes f (cs.length + 1) [] rest).map fun r => ⟨name, r.1, r.2⟩

def hasRepetition {α : Type} [DecidableEq α] : List α → Bool
  | [] => false
  | a :: rest => rest.contains a || hasRepetition rest

/-- The values of attributes behind those that are done, which are in reverse. -/
def writtenAttributes (f : Form) (share : Share) (d : Doctype) (element : List Char)
    (done : List Attribute) (a : Account) :
    List Attribute → Option (List Attribute × Account)
  | [] => some (done.reverse, a)
  | r :: rest =>
    if isNormal true r.value then writtenAttributes f share d element (r :: done) a rest
    else
      let isCharacterData := (d.rule? element r.name).elim true (·.isCharacterData)
      match attributeValue f d.entities share isCharacterData r.value a with
      | none => none
      | some (value, a) => writtenAttributes f share d element (⟨r.name, value⟩ :: done) a rest

/-- Values as they count, with the defaults of attributes that the tag leaves out. Values of an
element that is not empty are counted apart from the tag, unless they stand for themselves. -/
def attributesOf (f : Form) (share : Share) (d : Doctype) (t : StartTag) (a : Account) :
    Option (List Attribute × Account) :=
  if hasRepetition (t.attributes.map (·.name)) then none
  else
    let isWritten := fun name => t.attributes.any (·.name = name)
    let defaults := d.rules.filterMap fun r =>
      if r.element = t.name ∧ isWritten r.attr = false then r.default.map (Attribute.mk r.attr)
      else none
    let share := if t.isEmpty then .uncounted else share
    match writtenAttributes f share d t.name [] a t.attributes with
    | none => none
    | some (written, a) => some (written ++ defaults, a)

def declareAll : List Attribute → Bindings → Option Bindings
  | [], bs => some bs
  | a :: rest, bs =>
    match declaredPrefix? a.name with
    | none => declareAll rest bs
    | some pfx => (bs.bind? pfx a.value).bind (declareAll rest)

/-- Namespace and local part of an attribute with a prefix; no prefix means no namespace. -/
def expandedName (bs : Bindings) (name : List Char) : Option (List Char × List Char) :=
  match splitName name with
  | (none, localPart) => some ([], localPart)
  | (some pfx, localPart) => (bs.find? pfx).map (·, localPart)

/-- An element that has been entered. -/
structure Entered where
  bindings : Bindings
  /-- The attributes in no namespace. -/
  attributes : List Attribute
  account : Account

/-- The namespaces inside an element and its attributes that are in none. -/
def enter (f : Form) (share : Share) (d : Doctype) (bs : Bindings) (t : StartTag) (a : Account) :
    Option Entered := do
  let (all, a) ← attributesOf f share d t a
  let bs ← declareAll all bs
  let proper := all.filter fun a => (declaredPrefix? a.name).isNone
  let expanded ← proper.mapM fun a => expandedName bs a.name
  let _ ← expandedName bs t.name
  if hasRepetition expanded then none
  else some ⟨bs, proper.filter fun a => (splitName a.name).1.isNone, a⟩

/-! ## Content -/

/-- What the next characters of content are. -/
inductive Item where
  | openTag (t : StartTag)
  | closeTag (name : List Char)
  | entity (name : List Char)
  /-- The inside of a section, which counts apart from its opening. -/
  | verbatim (cs : List Char)
  | plain
  deriving DecidableEq, Repr

/-- An item with the number of its bytes and what follows it. -/
structure Item.Cut where
  item : Item
  size : Nat
  rest : List Char

/-- The inside of a tag, up to the first closing bracket that does not stand between quotes. -/
def tagText (open? : Option Char) (read : List Char) : List Char → Option (List Char × List Char)
  | [] => none
  | c :: rest =>
    match open? with
    | some quote => tagText (if c = quote then none else open?) (c :: read) rest
    | none =>
      if c = '>' then some (read.reverse, rest)
      else tagText (if c = '"' ∨ c = '\'' then some c else none) (c :: read) rest

def startTagCut (f : Form) (cs : List Char) : Option Item.Cut :=
  match tagText none [] cs with
  | none => none
  | some (inside, rest) =>
    (StartTag.ofText? f inside).map fun t => ⟨.openTag t, f.size ('<' :: '>' :: inside), rest⟩

/-- From behind the slash of an end tag. -/
def endTagCut (f : Form) (cs : List Char) : Option Item.Cut :=
  match cs.span (· ≠ '>') with
  | (inside, _ :: rest) =>
    match inside.span fun c => f.isNameChar c || c = ':' with
    | ([], _) => none
    | (name, blanks) =>
      if blanks.all isBlank then
        some ⟨.closeTag name, f.size ('<' :: '/' :: '>' :: inside), rest⟩
      else none
  | _ => none

def referenceCut (f : Form) (cs : List Char) : Option Item.Cut :=
  match cs.span (· ≠ ';') with
  | (inner, _ :: rest) =>
    (reference? f inner).map fun p =>
      match p with
      | .entity name => ⟨.entity name, f.size p.source, rest⟩
      | _ => ⟨.plain, f.size p.source, rest⟩
  | _ => none

def ofLexeme (f : Form) (c : Lexeme.Cut) : Option Item.Cut :=
  c.map fun r => ⟨.plain, f.size r.1.source, r.2⟩

def sectionStart : List Char := "<![CDATA[".toList

/-- The item at the start of content that is not used up. -/
def itemCut (f : Form) (c : Char) (rest : List Char) : Option Item.Cut :=
  if c = '<' then
    match rest with
    | '/' :: after => endTagCut f after
    | '!' :: '-' :: '-' :: after => ofLexeme f (Lexeme.comment after)
    | '!' :: _ =>
      if sectionStart.isPrefixOf (c :: rest) then
        (splitAt? "]]>".toList [] ((c :: rest).drop sectionStart.length)).map fun r =>
          ⟨.verbatim r.1, f.size sectionStart, r.2⟩
      else none
    | '?' :: after => ofLexeme f (Lexeme.instruction f after)
    | _ => startTagCut f rest
  else if c = '&' then referenceCut f rest
  else if f.isBreak c then
    let (line, after) := f.lineBreak c rest
    some ⟨.plain, f.size line, after⟩
  else
    let (run, after) := (c :: rest).span fun c => c ≠ '<' && c ≠ '&' && !f.isBreak c
    if (splitAt? "]]>".toList [] run).isSome then none else some ⟨.plain, f.size run, after⟩

/-- Charges the inside of a section and its end. A line break counts on its own, and so does what
begins with a closing bracket. Each part uses up one unit. -/
def chargeVerbatim (f : Form) (share : Share) : Nat → Account → List Char → Option Account
  | 0, _, _ => none
  | n + 1, a, cs =>
    match cs with
    | [] => a.charge share (f.size "]]>".toList)
    | c :: rest =>
      let (run, after) :=
        if f.isBreak c then f.lineBreak c rest
        else
          let (more, after) := rest.span fun c => !f.isBreak c && c ≠ ']'
          (c :: more, after)
      (a.charge share (f.size run)).bind fun a => chargeVerbatim f share n a after

structure OpenElement where
  name : List Char
  /-- The namespaces around the element. -/
  outer : Bindings

/-- Follows content with the elements that are open, innermost first. A document's content ends
where its root element ends; an entity's ends with its text. Each item uses up one unit, and each
entity inside another one unit of depth; none is left where an entity stands inside itself. -/
def content (f : Form) (share : Share) (d : Doctype) (depth n : Nat) (isEntity : Bool)
    (stack : List OpenElement) (bs : Bindings) (a : Account) (cs : List Char) :
    Option (List Char × Account) :=
  match n, cs with
  | 0, _ => none
  | _ + 1, [] => if isEntity ∧ stack.isEmpty then some ([], a) else none
  | n + 1, c :: rest =>
    match itemCut f c rest with
    | none => none
    | some ⟨item, size, after⟩ =>
      match a.charge share size with
      | none => none
      | some a =>
        match item with
        | .plain => content f share d depth n isEntity stack bs a after
        | .verbatim cs =>
          match chargeVerbatim f share (cs.length + 1) a cs with
          | none => none
          | some a => content f share d depth n isEntity stack bs a after
        | .openTag t =>
          match enter f share d bs t a with
          | none => none
          | some e =>
            if t.isEmpty then content f share d depth n isEntity stack bs e.account after
            else
              content f share d depth n isEntity (⟨t.name, bs⟩ :: stack) e.bindings
                e.account after
        | .closeTag name =>
          match stack with
          | [] => none
          | e :: outer =>
            if e.name ≠ name then none
            else if outer.isEmpty ∧ isEntity = false then some (after, a)
            else content f share d depth n isEntity outer e.outer a after
        | .entity name =>
          if (predefined? name).isSome then
            content f share d depth n isEntity stack bs (a.add .expanded 1) after
          else match depth, d.entities.find? name with
            | depth + 1, some (.internal text) =>
              match content .replacement .expanded d depth (text.length + 1) true [] bs a text with
              | none => none
              | some (_, a) => content f share d (depth + 1) n isEntity stack bs a after
            | _, _ => none
termination_by (depth, n)

/-! ## Documents -/

/-- Comments, instructions and blanks behind the root element. -/
def epilog : Nat → Reading Unit
  | 0 => failure
  | n + 1 => do
    match ← Reading.next? with
    | none => pure ()
    | some .comment => epilog n
    | some .instruction => epilog n
    | some _ => failure

/-- What stands before the root element, with at most one document type. Each token uses up one
unit. -/
def prolog : Nat → Bool → Doctype → Reading Doctype
  | 0, _, _ => failure
  | n + 1, mayDeclare, d => do
    match ← Reading.next? with
    | none => pure d
    | some .comment => prolog n mayDeclare d
    | some .instruction => prolog n mayDeclare d
    | some (.opening word) =>
      if mayDeclare && word = "DOCTYPE".toList then
        let d ← d.read n
        prolog n false d
      else failure
    | some _ => failure

/-- The root element and its content, up to its end. -/
def root (f : Form) (d : Doctype) (a : Account) (cs : List Char) :
    Option (List Attribute × List Char × Account) :=
  match cs with
  | '<' :: rest =>
    match startTagCut f rest with
    | some ⟨.openTag t, size, after⟩ =>
      match a.charge .written size with
      | none => none
      | some a =>
        match enter f .written d .initial t a with
        | none => none
        | some e =>
          if t.isEmpty then some (e.attributes, after, e.account)
          else
            (content f .written d d.entities.declared.size (after.length + 1) false
              [⟨t.name, .initial⟩] e.bindings e.account after).map (e.attributes, ·)
    | _ => none
  | _ => none

/-- The attributes of the root element in no namespace, if the document is well-formed. -/
def rootAttributes? (s : Source) : Option (List Attribute) :=
  if !s.text.all isXmlChar then none
  else match Lexeme.list? s.form s.text with
    | none => none
    | some (before, cs) =>
      match (prolog (before.length + 1) true { standalone := s.standalone }).run
          ⟨s.form, before, s.account⟩ with
      | none => none
      | some (d, r) =>
        match root s.form d r.account cs with
        | none => none
        | some (attributes, rest, a) =>
          match Lexeme.list? s.form rest with
          | some (behind, []) =>
            ((epilog (behind.length + 1)).run ⟨s.form, behind, a⟩).map fun _ => attributes
          | _ => none

end BuildVariants.Xml
