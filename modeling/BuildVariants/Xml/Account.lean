/-!
# The growth of a document

Entities can stand for far more text than is written. An account counts the bytes that are written
apart from those that come out of entities, token by token. A document is refused as soon as both
kinds together are many and are more than a hundred times those that are written.
-/

namespace BuildVariants.Xml

structure Account where
  written : Nat := 0
  expanded : Nat := 0
  deriving DecidableEq, Repr

/-- Which bytes a piece of text is counted among, if it is counted. -/
inductive Share where
  | written
  | expanded
  | uncounted
  deriving DecidableEq, Repr

/-- The nearest number with no more than 24 significant binary digits; a tie goes to the even
one. -/
def rounded (n : Nat) : Nat :=
  if n < Nat.pow 2 24 then n
  else
    let unit := Nat.pow 2 (n.log2 - 23)
    let rest := n % unit
    let isUp := unit < 2 * rest || (2 * rest = unit && n / unit % 2 = 1)
    (if isUp then n / unit + 1 else n / unit) * unit

namespace Account

def total (a : Account) : Nat := a.written + a.expanded

/-- With fewer bytes no growth is too much. -/
def tolerance : Nat := 8 * 1024 * 1024

/-- Whether the growth is more than a hundredfold, to the precision of 24 binary digits. -/
def isExcessive (a : Account) : Bool :=
  tolerance ≤ a.total &&
    (100 * Nat.pow 2 18 + 1) * rounded a.written < Nat.pow 2 18 * rounded a.total

/-- Counts bytes without a look at the growth. -/
def add (a : Account) (share : Share) (bytes : Nat) : Account :=
  match share with
  | .written => { a with written := a.written + bytes }
  | .expanded => { a with expanded := a.expanded + bytes }
  | .uncounted => a

/-- Counts the bytes of a token, if the document may still go on. -/
def charge (a : Account) (share : Share) (bytes : Nat) : Option Account :=
  if share = .uncounted then some a
  else
    let a := a.add share bytes
    if a.isExcessive then none else some a

end Account

end BuildVariants.Xml
