/-! # Paths

A path is the list of names along it. Repeated slashes, single dots and a slash at the end say
nothing and are dropped.
-/

namespace SwiftDerive

set_option autoImplicit false

/-- A path: the slashes it starts with, none, one or two, and its names. -/
structure Path where
  root : String
  names : List String
  deriving DecidableEq, Repr

namespace Path

/-- The slashes with which a path starts. More than two count as one. -/
def rootOf (cs : List Char) : String :=
  match (cs.takeWhile (· == '/')).length with
  | 0 => ""
  | 2 => "//"
  | _ => "/"

def ofString (text : String) : Path where
  root := rootOf text.toList
  names := ((text.toList.splitOn '/').filter fun name => name != [] && name != ['.']).map
    String.ofList

def joined (names : List String) : String := "/".intercalate names

/-- The text of a path; a single dot where there is no name. -/
def render (p : Path) : String :=
  if p.root.isEmpty && p.names.isEmpty then "." else p.root ++ joined p.names

def append (p : Path) (names : List String) : Path := ⟨p.root, p.names ++ names⟩

def parent (p : Path) : Path := ⟨p.root, p.names.dropLast⟩

def name (p : Path) : String := p.names.getLast?.getD ""

end Path

/-- What stands behind the last dot of a name, if there is something on both sides of the dot. -/
def extension? (name : String) : Option String :=
  let reversed := name.toList.reverse
  match reversed.takeWhile (· != '.'), reversed.dropWhile (· != '.') with
  | [], _ => none
  | _, [] => none
  | _, [_] => none
  | ext, _ => some (String.ofList ext.reverse)

def isSourceName (name : String) : Bool := extension? name == some "swift"

end SwiftDerive
