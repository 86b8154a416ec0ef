import SwiftDerive.Text.Lines
import SwiftDerive.Unicode.CellWidth

/-! # Cells of a line

The cells that a line takes on a terminal, where some characters join those before them to one
glyph. A line that is too long is cut between glyphs, and tabs lead to the next of the columns that
are eight cells apart.
-/

namespace SwiftDerive.Console

set_option autoImplicit false

open Unicode

def selectorWidth (widens : Bool) : Nat := if widens then 1 else 0

/-- Whether a selector would add a cell behind a character: a character without a cell of its own
leaves that as it is. -/
def widensBehind (widens : Bool) (c : Char) : Bool :=
  if cellWidth c = 0 then widens else hasWideEmoji c

/-- The number of cells of a text; a joiner takes the character behind it into the cells of those
before. The flag says whether a selector at the start adds a cell. -/
def cellsFrom (widens : Bool) : List Char → Nat
  | [] => 0
  | c :: cs =>
    if c = joiner then
      match cs with
      | [] => 0
      | _ :: rest => cellsFrom widens rest
    else if c = emojiSelector then selectorWidth widens + cellsFrom false cs
    else cellWidth c + cellsFrom (widensBehind widens c) cs

def cells (cs : List Char) : Nat := cellsFrom false cs

/-- Characters that stand together, and the number of their cells. -/
structure Glyph where
  chars : List Char
  width : Nat
  deriving DecidableEq, Repr

def Glyph.extend (g : Glyph) (chars : List Char) (width : Nat) : Glyph :=
  ⟨g.chars ++ chars, g.width + width⟩

def glyphsFrom (current : Glyph) (widens : Bool) : List Char → List Glyph
  | [] => [current]
  | c :: cs =>
    if c = joiner then
      match cs with
      | [] => [current.extend [c] 0]
      | d :: rest => glyphsFrom (current.extend [c, d] 0) widens rest
    else if c = emojiSelector then
      glyphsFrom (current.extend [c] (selectorWidth widens)) false cs
    else if cellWidth c = 0 then glyphsFrom (current.extend [c] 0) widens cs
    else current :: glyphsFrom ⟨[c], cellWidth c⟩ (hasWideEmoji c) cs

def glyphs : List Char → List Glyph
  | [] => []
  | c :: cs => glyphsFrom ⟨[c], cellWidth c⟩ (widensBehind false c) cs

/-- The glyphs that fit into the given number of cells, and a space where a wide one does not fit
by half. -/
def crop : (width : Nat) → List Glyph → List Char
  | _, [] => []
  | width, g :: gs =>
    if g.width ≤ width then g.chars ++ crop (width - g.width) gs
    else if width = 0 then []
    else [' ']

/-- A text that takes at most the given number of cells, the last of them for an ellipsis if the
text is too long. -/
def truncate (width : Nat) (cs : List Char) : List Char :=
  if cells cs ≤ width then cs else crop (width - 1) (glyphs cs) ++ ['…']

/-- The number of cells of parts of a line that are counted each by itself. -/
def cellsOfParts (parts : List (List Char)) : Nat :=
  parts.foldl (fun sum part => sum + cells part) 0

def cropParts : (width : Nat) → List (List Char) → List Char
  | _, [] => []
  | width, part :: parts =>
    if cells part < width then part ++ cropParts (width - cells part) parts
    else if cells part = width then part
    else crop width (glyphs part)

def fitted (width : Nat) (parts : List (List Char)) : List Char :=
  if cellsOfParts parts ≤ width then parts.flatten else cropParts width parts

def tabWidth : Nat := 8

/-- What stands between two tab stops, with a space and as many more as lead to the second. -/
def tabbed (cs : List Char) : List Char :=
  let spaced := cs ++ [' ']
  spaced ++ List.replicate ((tabWidth - cells spaced % tabWidth) % tabWidth) ' '

def expandTabsOfLine (line : List Char) : List Char :=
  let parts := line.splitOn '\t'
  parts.dropLast.flatMap tabbed ++ parts.getLast?.getD []

def expandTabs (cs : List Char) : List Char :=
  Text.joinLines ((Text.lines cs).map expandTabsOfLine)

end SwiftDerive.Console
