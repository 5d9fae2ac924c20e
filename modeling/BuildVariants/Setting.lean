/-!
# Settings

A setting is a value that a layer may give or leave open. The empty text leaves it open as well;
any number gives it, zero too. `Setting.overlay` keeps a given value and otherwise takes the one
below it.
-/

namespace BuildVariants

/-- Kinds of value a setting holds, with the value that counts as leaving it open. -/
class Blankable (α : Type) where
  isBlank : α → Bool

instance : Blankable String := ⟨(· == "")⟩

instance : Blankable Int := ⟨fun _ => false⟩

abbrev Setting (α : Type) := Option α

namespace Setting

variable {α : Type} [Blankable α]

def isSet : Setting α → Bool
  | none => false
  | some a => !Blankable.isBlank a

/-- The value that the setting gives. -/
def given? (own : Setting α) : Option α :=
  if own.isSet then own else none

def overlay (own base : Setting α) : Setting α :=
  if own.isSet then own else base

theorem overlay_of_isSet {own : Setting α} (h : own.isSet = true) (base : Setting α) :
    own.overlay base = own := if_pos h

theorem overlay_of_not_isSet {own : Setting α} (h : own.isSet = false) (base : Setting α) :
    own.overlay base = base := if_neg (by simp [h])

theorem overlay_self (own : Setting α) : own.overlay own = own := ite_self own

theorem overlay_assoc (a b c : Setting α) : (a.overlay b).overlay c = a.overlay (b.overlay c) := by
  unfold overlay
  cases h : a.isSet <;> simp [h]

end Setting

end BuildVariants
