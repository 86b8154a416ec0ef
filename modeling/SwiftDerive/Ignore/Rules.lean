import SwiftDerive.Ignore.Pattern

/-! # Rules of a tree

The patterns of all files of patterns in a tree, told from its root. A line of a file in a folder
is moved to the root by putting the folder in front of it.
-/

namespace SwiftDerive.Ignore

set_option autoImplicit false

def isComment (line : List Char) : Bool :=
  match line.dropWhile Text.isBlank with
  | '#' :: _ => true
  | _ => false

def movedPattern (base pattern : List Char) : List Char :=
  match pattern with
  | ['/'] => '/' :: base
  | '/' :: rest => '/' :: base ++ '/' :: rest
  | [] => base
  -- The slash that is put in anchors the pattern even if it had none before.
  | rest => base ++ '/' :: rest

/-- A line of the file of patterns in the folder `base`, as a line for the root. Comments stay as
they are, and so do lines that start with an escaped mark. -/
def movedLine (base line : List Char) : List Char :=
  if base.isEmpty || line.isEmpty || isComment line then line
  else
    match line with
    | '\\' :: '!' :: _ | '\\' :: '#' :: _ => line
    | '!' :: pattern => '!' :: movedPattern base pattern
    | pattern => movedPattern base pattern

def skips (patterns : List Pattern) (path : String) (isFolder : Bool) : Bool :=
  ignores patterns path.toList || (isFolder && ignores patterns (path.toList ++ ['/']))

end SwiftDerive.Ignore
