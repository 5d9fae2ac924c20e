/-!
# Arguments of a command

Options have a long name behind two hyphens or a letter behind one. Letters can be written together;
a value stands behind an equals sign, behind the letter, or in the next argument, whatever that
looks like. Two hyphens on their own end the options.
-/

namespace BuildVariants.CommandLine

/-- What an option means, by itself or with its value. -/
inductive Meaning (α : Type) where
  | flag (a : α)
  | value (f : String → α)

structure Options (α : Type) where
  long : String → Option (Meaning α)
  short : Char → Option (Meaning α)

/-- The options given, in order, and the other arguments. -/
structure Arguments (α : Type) where
  options : List α
  positional : List String

variable {α : Type}

def Arguments.withOptions (found : List α) (a : Arguments α) : Arguments α :=
  { a with options := found ++ a.options }

/-- What an argument with options gives, and what it still needs the next argument for. -/
structure Found (α : Type) where
  options : List α
  waiting : Option (String → α)

/-- Letters written together. All that follows a letter with a value is its value. -/
def letters (o : Options α) : List Char → Option (Found α)
  | [] => some ⟨[], none⟩
  | c :: cs =>
    match o.short c with
    | none => none
    | some (.flag a) => (letters o cs).map fun f => ⟨a :: f.options, f.waiting⟩
    | some (.value f) =>
      if cs = [] then some ⟨[], some f⟩ else some ⟨[f (String.ofList cs)], none⟩

/-- An argument that begins with a hyphen and is longer. -/
def optionArgument (o : Options α) (cs : List Char) : Option (Found α) :=
  match cs with
  | '-' :: '-' :: text =>
    match text.span (· ≠ '=') with
    | (name, explicit) =>
      match o.long (String.ofList name), explicit with
      | some (.flag a), [] => some ⟨[a], none⟩
      | some (.flag _), _ :: _ => none
      | some (.value f), [] => some ⟨[], some f⟩
      | some (.value f), _ :: text => some ⟨[f (String.ofList text)], none⟩
      | none, _ => none
  | _ :: cs => letters o cs
  | [] => none

/-- Reads arguments up to the first one that is no option, or to the end if options may stand
behind others; none if an option is not known or its value is not as it should be. -/
def Options.read (o : Options α) (mixed : Bool) : List String → Option (Arguments α)
  | [] => some ⟨[], []⟩
  | arg :: rest =>
    if arg = "--" then some ⟨[], rest⟩
    else match arg.toList with
      | '-' :: c :: cs =>
        match optionArgument o ('-' :: c :: cs) with
        | none => none
        | some ⟨found, none⟩ => (o.read mixed rest).map (·.withOptions found)
        | some ⟨found, some f⟩ =>
          match rest with
          | [] => none
          | v :: rest => (o.read mixed rest).map (·.withOptions (found ++ [f v]))
      | _ =>
        if mixed then
          (o.read mixed rest).map fun a => { a with positional := arg :: a.positional }
        else some ⟨[], arg :: rest⟩

end BuildVariants.CommandLine
