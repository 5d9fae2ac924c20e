import BuildVariants.Variant.Configuration

/-!
# Worlds

A world holds the variants made so far and the libraries they share. A variant is known by its
place, so a test sees what becomes of the variant that it tests. Commands change a world one after
another; a command that fails leaves behind what it had done before.
-/

namespace BuildVariants

structure World where
  libraries : LibraryGraph := .empty
  variants : Array Variant := #[]

namespace World

def variant? (w : World) (id : VariantId) : Option Variant := w.variants[id]?

/-- A variant can only test one that was made before it. -/
def configuration? (w : World) (id : VariantId) : Option Configuration :=
  match w.variant? id with
  | none => none
  | some v =>
    match v.role with
    | .test tested => if tested < id then (w.configuration? tested).map (.testOf v) else none
    | _ => some (.plain v)
termination_by id

/-- The new variant is found under the number of variants that there were before. -/
def add (w : World) (v : Variant) : World := { w with variants := w.variants.push v }

def replace (w : World) (id : VariantId) (v : Variant) : World :=
  { w with variants := w.variants.setIfInBounds id v }

/-! ## Commands -/

inductive Command where
  | create (workingDirectory : Path) (isFile : Path → Bool) (plan : Variant.Plan)
  | addFlavor (variant : VariantId) (flavor : Flavor) (sources : SourceSet)
  | setLibraries (variant : VariantId) (direct : List LibraryId)
  | setJars (variant : VariantId) (jars : List Jar)
  | setOutput (variant : VariantId) (output : LibraryId)

/-- The world after a command, and whether the command succeeded. A variant that does not exist is
left alone, and no test is made of one. -/
def perform (w : World) : Command → World × Except Fault Unit
  | .create workingDirectory isFile plan =>
    match Variant.create workingDirectory isFile plan with
    | .error fault => (w, .error fault)
    | .ok v =>
      match v.tested with
      | none => (w.add v, .ok ())
      | some tested => if tested < w.variants.size then (w.add v, .ok ()) else (w, .ok ())
  | .addFlavor id flavor sources =>
    match w.variant? id with
    | none => (w, .ok ())
    | some v => (w.replace id (v.addFlavor flavor sources), .ok ())
  | .setLibraries id direct =>
    match w.variant? id with
    | none => (w, .ok ())
    | some v =>
      let r := v.setLibraries w.libraries (v.tested.bind w.variant?) direct
      (w.replace id r.1, r.2.mapError .structural)
  | .setJars id jars =>
    match w.variant? id with
    | none => (w, .ok ())
    | some v => (w.replace id (v.setJars jars), .ok ())
  | .setOutput id output =>
    match w.variant? id with
    | none => (w, .ok ())
    | some v =>
      match v.setOutput output with
      | .error fault => (w, .error (.structural fault))
      | .ok changed => (w.replace id changed, .ok ())

def run (w : World) (commands : List Command) : World :=
  commands.foldl (fun w c => (w.perform c).1) w

end World

end BuildVariants
