import SwiftDerive.Ignore.Glob
import SwiftDerive.Text.Blank

/-! # Patterns of paths

A line of a file of patterns. A pattern with a slash before its end is anchored at the root, one
without matches at every depth; two stars stand for any number of folders. A pattern matches the
paths it describes and everything below them, and one with a slash at its end only folders.
-/

namespace SwiftDerive.Ignore

set_option autoImplicit false

inductive Hit where
  | itself | above
  deriving DecidableEq, Repr

inductive Ending where
  | anywhere
  | folder
  /-- Inside a folder; what is in it counts as described. -/
  | inside
  deriving DecidableEq, Repr

/-- What a pattern that ends before the given rest of a path has matched. -/
def Ending.hit? : Ending → List Char → Option Hit
  | .anywhere, [] | .anywhere, ['\n'] => some .itself
  | .anywhere, '/' :: _ | .folder, '/' :: _ => some .above
  | .inside, '/' :: _ => some .itself
  | _, _ => none

/-- What steps and an ending match of a path: the first hit in the order of the rests. -/
def hitSteps? (ending : Ending) : List Step → List Char → Option Hit
  | [], cs => ending.hit? cs
  | step :: later, cs => (step.rests cs).findSome? (hitSteps? ending later)

inductive Shape where
  | all
  /-- All paths below some folder, by that folder or by themselves. -/
  | nested (hit : Hit)
  | steps (steps : List Step) (ending : Ending)
  deriving DecidableEq, Repr

def Shape.hit? : Shape → List Char → Option Hit
  | .all, cs => if cs.any inLine then some .itself else none
  | .nested hit, cs => if cs.contains '/' then some hit else none
  | .steps taken ending, cs => hitSteps? ending taken cs

structure Pattern where
  negated : Bool
  shape : Shape
  deriving DecidableEq, Repr

abbrev Segment := List Char

def anyFolders : Segment := ['*', '*']

/-- The segments without the empty one in front of a first slash; a single name gets the folders
in front of it that make it match at every depth. -/
def anchored : List Segment → List Segment
  | [] :: segments => segments
  | [name] => if name = anyFolders then [name] else [anyFolders, name]
  | [name, []] => if name = anyFolders then [name, []] else [anyFolders, name, []]
  | segments => segments

/-- The segments with any folders for an empty one at the end. -/
def opened : List Segment → List Segment
  | [] => []
  | [[]] => [anyFolders]
  | segment :: segments => segment :: opened segments

def collapsed : List Segment → List Segment
  | [] => []
  | segment :: segments =>
    if segment = anyFolders && segments.head? = some anyFolders then collapsed segments
    else segment :: collapsed segments

/-- The steps and the ending of segments behind others. -/
def laterSteps? (folderOnly : Bool) (needsSlash : Bool) :
    List Segment → Option (List Step × Ending)
  | [] => some ([], .anywhere)
  | segment :: segments =>
    if segment = anyFolders then
      if segments.isEmpty then some ([], if folderOnly then .folder else .inside)
      else do
        let (steps, ending) ← laterSteps? folderOnly true segments
        return (.innerFolders :: steps, ending)
    else do
      let name ← if segment = ['*'] then some [.someChars] else globSteps? segment
      let (steps, ending) ← laterSteps? folderOnly true segments
      return ((if needsSlash then [.char '/'] else []) ++ name ++ steps, ending)

def patternSteps? (folderOnly : Bool) : List Segment → Option (List Step × Ending)
  | [] => none
  | segment :: segments =>
    if segment = anyFolders then do
      let (steps, ending) ← laterSteps? folderOnly false segments
      return (.leadingFolders :: steps, ending)
    else laterSteps? folderOnly false (segment :: segments)

def shape? (text : List Char) : Option Shape :=
  let written := text.splitOn '/'
  let folderOnly := written.getLast? == some []
  let below : Shape := .nested (if folderOnly then .above else .itself)
  match collapsed (opened (anchored written)) with
  | [['*', '*']] => some (if folderOnly then below else .all)
  | [['*', '*'], ['*']] => some .all
  | [['*', '*'], ['*'], ['*', '*']] => some below
  | segments => (patternSteps? folderOnly segments).map fun (steps, ending) => .steps steps ending

/-- A line without the blank characters at its end, unless the last of them is escaped. -/
def trimLine (line : List Char) : List Char :=
  if [' ', '\\'].isPrefixOf line.reverse then line else Text.dropEndWhile Text.isBlank line

/-- The pattern of a line; blank lines, comments and a lone slash are none. -/
def pattern? (line : List Char) : Option Pattern :=
  match trimLine line with
  | [] | '#' :: _ | ['/'] => none
  | '!' :: text => (shape? text).map fun shape => ⟨true, shape⟩
  | text => (shape? text).map fun shape => ⟨false, shape⟩

/-- The last hit of patterns on a path: the last on the path itself, or else the last on a folder
above it. Patterns are given with what they match. -/
def lastHit? (hits : List (Hit × Pattern)) : Option Pattern :=
  match (hits.filter (·.1 = .itself)).getLast? with
  | some hit => some hit.2
  | none => hits.getLast?.map (·.2)

def ignores (patterns : List Pattern) (path : List Char) : Bool :=
  match lastHit? (patterns.filterMap fun p => (p.shape.hit? path).map fun hit => (hit, p)) with
  | some p => !p.negated
  | none => false

end SwiftDerive.Ignore
