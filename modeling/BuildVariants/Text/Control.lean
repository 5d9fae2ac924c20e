/-!
# Control sequences

A control sequence steers a terminal: escape and a bracket, parameters, intermediate characters and
one final character. Text that is written for reading goes out without them; an escape that begins
no such sequence stays.
-/

namespace BuildVariants.Text

def isParameter (c : Char) : Bool := '0' ≤ c && c ≤ '?'

def isIntermediate (c : Char) : Bool := ' ' ≤ c && c ≤ '/'

def isFinal (c : Char) : Bool := '@' ≤ c && c ≤ '~'

/-- What follows a control sequence, from behind its bracket. -/
def afterControl? (cs : List Char) : Option (List Char) :=
  match (cs.dropWhile isParameter).dropWhile isIntermediate with
  | [] => none
  | c :: rest => if isFinal c then some rest else none

theorem length_dropWhile_le {α : Type} (p : α → Bool) (cs : List α) :
    (cs.dropWhile p).length ≤ cs.length :=
  (List.dropWhile_sublist p).length_le

theorem length_afterControl?_lt {cs rest : List Char} (h : afterControl? cs = some rest) :
    rest.length < cs.length := by
  have hp := length_dropWhile_le isParameter cs
  have hi := length_dropWhile_le isIntermediate (cs.dropWhile isParameter)
  unfold afterControl? at h
  split at h
  · simp at h
  · next found =>
    split at h
    · simp only [found, List.length_cons, Option.some.injEq] at hi h
      subst h
      omega
    · simp at h

/-- Drops control sequences from the left; `read` is what has been kept, in reverse. -/
def keepOutside (read : List Char) : List Char → List Char
  | [] => read.reverse
  | '\x1b' :: '[' :: rest =>
    match _h : afterControl? rest with
    | some after => keepOutside read after
    | none => keepOutside ('[' :: '\x1b' :: read) rest
  | c :: rest => keepOutside (c :: read) rest
termination_by cs => cs.length
decreasing_by
  · have := length_afterControl?_lt _h
    simp only [List.length_cons]
    omega
  · simp only [List.length_cons]
    omega
  · simp

def withoutControl (s : String) : String := String.ofList (keepOutside [] s.toList)

end BuildVariants.Text
