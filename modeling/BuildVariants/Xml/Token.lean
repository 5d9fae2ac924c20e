import BuildVariants.Xml.Account
import BuildVariants.Xml.Name

/-!
# Tokens around the root element

What stands before and behind the root element is cut into tokens: blanks, comments, instructions,
and the words and marks of declarations. The cutting decides on its own what may stand right behind
a name, a literal or a parenthesis; `Reading` then takes one token after another and charges each
to the account of the document.
-/

namespace BuildVariants.Xml

/-- A name may have a namespace prefix; a token may begin like the rest of a name, and colons count
as letters in it. -/
inductive NameKind where
  | plain
  | qualified
  | token
  deriving DecidableEq, Repr

inductive Token where
  | blank
  | comment
  | instruction
  /-- The opening of a declaration. -/
  | opening (word : List Char)
  | closing
  /-- A name, with a mark of repetition if it has one. -/
  | name (kind : NameKind) (text : List Char) (isRepeated : Bool)
  | hash (word : List Char)
  | literal (text : List Char)
  | percent
  /-- A reference to a parameter entity. -/
  | parameter
  | bracket
  | endBracket
  | parenthesis
  /-- A closing parenthesis, with the mark of repetition behind it. -/
  | endParenthesis (mark : Option Char)
  | comma
  | bar
  deriving DecidableEq, Repr

/-- A token with the text it is cut from. -/
structure Lexeme where
  token : Token
  source : List Char
  deriving DecidableEq, Repr

namespace Lexeme

abbrev Cut := Option (Lexeme × List Char)

def startsWith (p : Char → Bool) : List Char → Bool
  | [] => false
  | c :: _ => p c

/-! ## Comments and instructions -/

/-- From behind the opening of a comment; two hyphens only stand at its end. -/
def comment (cs : List Char) : Cut :=
  match splitAt? ['-', '-'] [] cs with
  | some (text, '>' :: rest) =>
    some (⟨.comment, '<' :: '!' :: '-' :: '-' :: text ++ ['-', '-', '>']⟩, rest)
  | _ => none

/-- From behind the opening of an instruction, whose target is not `xml` in any case of letters. -/
def instruction (f : Form) (cs : List Char) : Cut :=
  match plainName f cs with
  | none => none
  | some (target, rest) =>
    if target.map Char.toLower = "xml".toList then none
    else if startsWith isBlank rest || "?>".toList.isPrefixOf rest then
      match splitAt? ['?', '>'] [] cs with
      | some (text, rest) => some (⟨.instruction, '<' :: '?' :: text ++ ['?', '>']⟩, rest)
      | none => none
    else none

/-! ## Words of declarations -/

def isKeywordChar (c : Char) : Bool := c.isAlpha || c = '_'

/-- From behind the opening of a declaration; its first word stands before a blank. -/
def opening (cs : List Char) : Cut :=
  match cs.span isKeywordChar with
  | ([], _) => none
  | (word, rest) =>
    if startsWith isBlank rest then some (⟨.opening word, '<' :: '!' :: word⟩, rest) else none

def endsName (c : Char) : Bool := isBlank c || ['>', ')', ',', '|', '[', '%'].contains c

def isRepetition (c : Char) : Bool := c = '?' || c = '*' || c = '+'

/-- A colon in a name has a part of the name behind it, and there is only one. -/
def nameKind (f : Form) (text : List Char) : NameKind :=
  if !startsWith f.isNameStart text then .token
  else match text.span (· ≠ ':') with
    | (_, []) => .plain
    | (_, _ :: localPart) => if localPart = [] ∨ localPart.contains ':' then .token else .qualified

def name (f : Form) (cs : List Char) : Cut :=
  match cs.span fun c => f.isNameChar c || c = ':' with
  | ([], _) => none
  | (text, rest) =>
    let kind := nameKind f text
    match rest with
    | [] => none
    | c :: after =>
      if endsName c then some (⟨.name kind text false, text⟩, rest)
      else if isRepetition c && kind ≠ .token then
        some (⟨.name kind text true, text ++ [c]⟩, after)
      else none

def hash (f : Form) (cs : List Char) : Cut :=
  match plainName f cs with
  | none => none
  | some (word, rest) =>
    if startsWith (fun c => isBlank c || ['>', ')', '%', '|'].contains c) rest then
      some (⟨.hash word, '#' :: word⟩, rest)
    else none

/-- From behind the quote that opens a literal. -/
def literal (quote : Char) (cs : List Char) : Cut :=
  match cs.span (· ≠ quote) with
  | (text, _ :: rest) =>
    if startsWith (fun c => isBlank c || c = '>' || c = '%' || c = '[') rest then
      some (⟨.literal text, quote :: text ++ [quote]⟩, rest)
    else none
  | _ => none

/-- From behind a percent sign, which stands on its own before a blank. -/
def percent (f : Form) (cs : List Char) : Cut :=
  if startsWith (fun c => isBlank c || c = '%') cs then some (⟨.percent, ['%']⟩, cs)
  else match plainName f cs with
    | some (text, ';' :: rest) => some (⟨.parameter, '%' :: text ++ [';']⟩, rest)
    | _ => none

/-- From behind a closing parenthesis. -/
def endParenthesis : List Char → Cut
  | [] => none
  | c :: rest =>
    if isRepetition c then some (⟨.endParenthesis (some c), [')', c]⟩, rest)
    else if isBlank c || ['>', ',', '|', ')'].contains c then
      some (⟨.endParenthesis none, [')']⟩, c :: rest)
    else none

/-- The token at the start of a text that is not used up. -/
def read (f : Form) (c : Char) (rest : List Char) : Cut :=
  if isBlank c then
    let (blanks, after) := rest.span isBlank
    some (⟨.blank, c :: blanks⟩, after)
  else match c with
    | '<' =>
      match rest with
      | '!' :: '-' :: '-' :: after => comment after
      | '!' :: after => opening after
      | '?' :: after => instruction f after
      | _ => none
    | '>' => some (⟨.closing, [c]⟩, rest)
    | '"' => literal c rest
    | '\'' => literal c rest
    | '#' => hash f rest
    | '%' => percent f rest
    | '[' => some (⟨.bracket, [c]⟩, rest)
    | ']' => some (⟨.endBracket, [c]⟩, rest)
    | '(' => some (⟨.parenthesis, [c]⟩, rest)
    | ')' => endParenthesis rest
    | ',' => some (⟨.comma, [c]⟩, rest)
    | '|' => some (⟨.bar, [c]⟩, rest)
    | _ => name f (c :: rest)

/-- Whether an element starts here. -/
def startsElement (f : Form) : List Char → Bool
  | '<' :: c :: _ => f.isNameStart c
  | _ => false

/-- The tokens up to the next element or the end, behind those that have been read, which are in
reverse. Each token uses up one unit. -/
def readAll (f : Form) : Nat → List Lexeme → List Char → Option (List Lexeme × List Char)
  | 0, _, _ => none
  | n + 1, before, cs =>
    match cs with
    | [] => some (before.reverse, [])
    | c :: rest =>
      if startsElement f cs then some (before.reverse, cs)
      else match read f c rest with
        | none => none
        | some (l, after) => readAll f n (l :: before) after

def list? (f : Form) (cs : List Char) : Option (List Lexeme × List Char) :=
  readAll f (cs.length + 1) [] cs

end Lexeme

/-! ## Taking tokens -/

/-- The tokens that are left to a reader, and the account of the document. -/
structure Reading.State where
  form : Form
  lexemes : List Lexeme
  account : Account

/-- A reader of tokens, which may refuse them. -/
abbrev Reading := StateT Reading.State Option

namespace Reading

/-- The first token that is not blank, and what is left behind it. Blanks count as well. -/
def takeFrom (f : Form) (a : Account) : List Lexeme → Option (Option Token × State)
  | [] => some (none, ⟨f, [], a⟩)
  | l :: rest =>
    match a.charge .written (f.size l.source) with
    | none => none
    | some a => if l.token = .blank then takeFrom f a rest else some (some l.token, ⟨f, rest, a⟩)

/-- The next token, or none at the end. -/
def next? : Reading (Option Token) := fun s => takeFrom s.form s.account s.lexemes

def next : Reading Token := do
  match ← next? with
  | some t => pure t
  | none => failure

/-- Takes the next token, which is to be the given one. -/
def expect (t : Token) : Reading Unit := do
  if (← next) = t then pure () else failure

/-- Does something to the account that may be refused. -/
def charge {α : Type} (step : Account → Option (α × Account)) : Reading α := fun s =>
  match step s.account with
  | none => none
  | some (r, a) => some (r, { s with account := a })

def form : Reading Form := do
  return (← get).form

end Reading

end BuildVariants.Xml
