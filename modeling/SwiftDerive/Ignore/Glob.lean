/-! # Globs

What one name along a pattern matches: stars, question marks, sets of characters and escapes. A
glob is read into steps. A step takes a part of a path and leaves a rest; the rests it may leave
are tried in order, those behind longer parts first.
-/

namespace SwiftDerive.Ignore

set_option autoImplicit false

structure CharSet where
  negated : Bool
  ranges : List (Char × Char)
  deriving DecidableEq, Repr

def CharSet.contains (s : CharSet) (c : Char) : Bool :=
  s.ranges.any (fun (low, high) => low ≤ c && c ≤ high) != s.negated

/-- The ranges that are written in brackets; a dash at the start or at the end is itself. -/
def rangesOf : List Char → List (Char × Char)
  | low :: '-' :: high :: cs => (low, high) :: rangesOf cs
  | c :: cs => (c, c) :: rangesOf cs
  | [] => []

inductive Step where
  | char (c : Char)
  | anyChar
  | oneOf (set : CharSet)
  | anyChars
  | someChars
  /-- Nothing, or names with a slash behind them. -/
  | leadingFolders
  /-- Nothing, or a slash with names behind it. -/
  | innerFolders
  deriving DecidableEq, Repr

/-- What is left behind the parts at the start whose characters all satisfy the test, longest part
first. -/
def restsAfter (p : Char → Bool) : List Char → List (List Char)
  | [] => [[]]
  | c :: cs => if p c then restsAfter p cs ++ [c :: cs] else [c :: cs]

def inName (c : Char) : Bool := c != '/'

def inLine (c : Char) : Bool := c != '\n'

def behindSlash? : List Char → Option (List Char)
  | '/' :: cs => some cs
  | _ => none

def restsAfterSome (p : Char → Bool) : List Char → List (List Char)
  | [] => []
  | c :: cs => if p c then restsAfter p cs else []

def Step.rests : Step → List Char → List (List Char)
  | .char c, d :: cs => if c = d then [cs] else []
  | .anyChar, d :: cs => if inName d then [cs] else []
  | .oneOf set, d :: cs => if set.contains d then [cs] else []
  | .char _, [] | .anyChar, [] | .oneOf _, [] => []
  | .anyChars, cs => restsAfter inName cs
  | .someChars, cs => restsAfterSome inName cs
  | .leadingFolders, cs => (restsAfterSome inLine cs).filterMap behindSlash? ++ [cs]
  | .innerFolders, cs =>
    (match behindSlash? cs with
      | some inner => restsAfterSome inLine inner
      | none => []) ++ [cs]

def negation : List Char → Bool × List Char
  | '!' :: cs | '^' :: cs => (true, cs)
  | cs => (false, cs)

/-- A bracket that stands first in a set and belongs to it, and what follows it. -/
def firstBracket : List Char → List Char × List Char
  | ']' :: cs => ([']'], cs)
  | cs => ([], cs)

/-- The set in front of which there is an opening bracket, and what follows its closing bracket. -/
def set? (cs : List Char) : Option (CharSet × List Char) :=
  let (negated, inside) := negation cs
  let (first, inside) := firstBracket inside
  match inside.dropWhile (· != ']') with
  | [] => none
  | _ :: rest => some (⟨negated, rangesOf (first ++ inside.takeWhile (· != ']'))⟩, rest)

theorem length_negation_le (cs : List Char) : (negation cs).2.length ≤ cs.length := by
  unfold negation
  split <;> simp

theorem length_firstBracket_le (cs : List Char) : (firstBracket cs).2.length ≤ cs.length := by
  unfold firstBracket
  split <;> simp

theorem length_rest_lt_of_set? {cs rest : List Char} {s : CharSet}
    (h : set? cs = some (s, rest)) : rest.length < cs.length := by
  unfold set? at h
  simp only at h
  split at h
  · cases h
  · rename_i heq
    have h1 := (List.dropWhile_sublist (· != ']') (l := (firstBracket (negation cs).2).2)).length_le
    rw [heq] at h1
    have h2 := length_firstBracket_le (negation cs).2
    have h3 := length_negation_le cs
    simp only [Option.some.injEq, Prod.mk.injEq] at h
    obtain ⟨_, rfl⟩ := h
    simp only [List.length_cons] at h1
    omega

/-- The steps of a glob; nothing if it ends in the middle of an escape or of a set. -/
def globSteps? : List Char → Option (List Step)
  | [] => some []
  | ['\\'] => none
  | '\\' :: c :: cs => (Step.char c :: ·) <$> globSteps? cs
  | '*' :: cs => (Step.anyChars :: ·) <$> globSteps? cs
  | '?' :: cs => (Step.anyChar :: ·) <$> globSteps? cs
  | '[' :: cs =>
    match _h : set? cs with
    | some (set, rest) => (Step.oneOf set :: ·) <$> globSteps? rest
    | none => none
  | c :: cs => (Step.char c :: ·) <$> globSteps? cs
termination_by cs => cs.length
decreasing_by
  · exact Nat.lt_succ_of_lt (Nat.lt_succ_self _)
  · exact Nat.lt_succ_self _
  · exact Nat.lt_succ_self _
  · exact Nat.lt_succ_of_lt (length_rest_lt_of_set? _h)
  · exact Nat.lt_succ_self _

end SwiftDerive.Ignore
