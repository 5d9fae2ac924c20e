/-!
# Decimals and binary numbers

A finite binary number is read as `mantissa * 2 ^ exponent` and written with the fewest decimal
digits that read back as the same number: of all multiples of a power of ten that round to it, one
of the highest power, and of two such the nearer one.
-/

namespace BuildVariants.Decimal

/-- A whole number times a power of ten. -/
structure Scaled where
  digits : Nat
  exponent : Int
  deriving DecidableEq, Repr, Inhabited

/-- A positive binary number and whether the numbers below it lie twice as close as those above. -/
structure Binary where
  mantissa : Nat
  exponent : Int
  narrowBelow : Bool
  deriving DecidableEq, Repr, Inhabited

/-- The number, without its sign, that the 64 bits of a finite number stand for. -/
def Binary.ofBits (bits : UInt64) : Binary :=
  let n := bits.toNat % Nat.pow 2 63
  let field : Nat := n / Nat.pow 2 52
  let fraction : Nat := n % Nat.pow 2 52
  if field = 0 then { mantissa := fraction, exponent := -1074, narrowBelow := false }
  else
    { mantissa := fraction + Nat.pow 2 52
      exponent := (field : Int) - 1075
      narrowBelow := fraction = 0 && field ≠ 1 }

/-- Quarters of the number's last place, over the scale of the grid: the number itself, and the
bounds within which everything rounds to it. -/
structure Grid where
  value : Nat
  lower : Nat
  upper : Nat
  unit : Nat
  deriving DecidableEq, Repr

def Binary.onGrid (b : Binary) (power : Int) : Grid :=
  let up := Nat.pow 2 (b.exponent - 2).toNat * Nat.pow 10 (-power).toNat
  { value := 4 * b.mantissa * up
    lower := (4 * b.mantissa - if b.narrowBelow then 1 else 2) * up
    upper := (4 * b.mantissa + 2) * up
    unit := Nat.pow 2 (2 - b.exponent).toNat * Nat.pow 10 power.toNat }

/-- A number with an even mantissa also takes the bounds themselves. -/
def Binary.takes (b : Binary) (g : Grid) (multiple : Nat) : Bool :=
  let x := multiple * g.unit
  if b.mantissa % 2 = 0 then decide (g.lower ≤ x ∧ x ≤ g.upper)
  else decide (g.lower < x ∧ x < g.upper)

/-- The multiple of a power of ten that rounds to the number, if there is one. -/
def Binary.multiple? (b : Binary) (power : Int) : Option Nat :=
  let g := b.onGrid power
  let below := g.value / g.unit
  let distance := g.value % g.unit
  match b.takes g below && below ≠ 0, b.takes g (below + 1) with
  | true, false => some below
  | false, true => some (below + 1)
  | false, false => none
  | true, true =>
    if 2 * distance < g.unit ∨ (2 * distance = g.unit ∧ below % 2 = 0) then some below
    else some (below + 1)

/-- Tries powers of ten from the highest one downwards. -/
def Binary.search (b : Binary) : Nat → Int → Scaled
  | 0, power => ⟨0, power⟩
  | tries + 1, power =>
    match b.multiple? power with
    | some digits => ⟨digits, power⟩
    | none => b.search tries (power - 1)

def Binary.shortest (b : Binary) : Scaled := b.search 650 309

/-- The number nearest to a decimal. Powers far outside the range of numbers need no arithmetic. -/
def Scaled.toFloat (s : Scaled) : Float :=
  if s.digits = 0 then 0
  else
    let size := (Nat.repr s.digits).length + s.exponent
    if 400 < size then 1 / 0
    else if size < -400 then 0
    else if 0 ≤ s.exponent then Float.ofScientific s.digits false s.exponent.toNat
    else Float.ofScientific s.digits true (-s.exponent).toNat

end BuildVariants.Decimal
