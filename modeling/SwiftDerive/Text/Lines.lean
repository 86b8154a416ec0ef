import SwiftDerive.Text.Blank

/-! # Lines and indentation

A text is read as its lines, separated by line feeds. Raw source text is kept without the
indentation it had in its file: a declaration loses the indentation of its first line, the text
between braces loses what its lines have in common.
-/

namespace SwiftDerive.Text

set_option autoImplicit false

abbrev Line := List Char

/-- The lines of a text; a text has one line more than line feeds. -/
def lines (cs : List Char) : List Line :=
  cs.splitOn '\n'

def joinLines (ls : List Line) : List Char :=
  ['\n'].intercalate ls

def isIndent (c : Char) : Bool :=
  c == ' ' || c == '\t'

def indentOf (line : Line) : Line :=
  line.takeWhile isIndent

def dropIndent (width : Nat) (line : Line) : Line :=
  line.drop (min (indentOf line).length width)

/-- A text whose lines after the first lose at most `width` characters of indentation. -/
def stripIndent (width : Nat) (cs : List Char) : List Char :=
  match lines cs with
  | [] => []
  | first :: rest => joinLines (first :: rest.map (dropIndent width))

def commonStart : Line → Line → Line
  | a :: as, b :: bs => if a = b then a :: commonStart as bs else []
  | _, _ => []

/-- The indentation that all lines have in common; empty lines do not count. -/
def margin (ls : List Line) : Line :=
  match (ls.filter fun line => !line.isEmpty).map indentOf with
  | [] => []
  | first :: rest => rest.foldl commonStart first

/-- Lines of spaces and tabs become empty, and the others lose the indentation they have in
common. -/
def dedent (ls : List Line) : List Line :=
  let cleared := ls.map fun line => if line.all isIndent then [] else line
  cleared.map fun line => line.drop (margin cleared).length

def trimNewlines (cs : List Char) : List Char :=
  dropEndWhile (· == '\n') (cs.dropWhile (· == '\n'))

/-- The text between two braces as statement text: what follows the opening brace on its line is
trimmed, the lines below it lose their common indentation, and blank lines at the end go. -/
def normalizeBody (cs : List Char) : List Char :=
  match lines cs with
  | [] => []
  | opening :: rest =>
    let first := trimChars opening
    let body := trimNewlines (joinLines (dedent (dropEndWhile isBlankText rest)))
    if first.isEmpty then body
    else if body.isEmpty then first
    else first ++ '\n' :: body

/-- A text in which each carriage return, with the line feed after it if there is one, is read as
a line feed. -/
def universalNewlines : List Char → List Char
  | [] => []
  | '\r' :: '\n' :: rest => '\n' :: universalNewlines rest
  | '\r' :: rest => '\n' :: universalNewlines rest
  | c :: rest => c :: universalNewlines rest

/-- The characters that end a line in a file of patterns: line feed, carriage return, vertical
tab, form feed, the separators of files, groups and records, next line, and the line and
paragraph separators. -/
def isLineEnd (c : Char) : Bool :=
  let n := c.toNat
  (0x0A ≤ n && n ≤ 0x0D) || (0x1C ≤ n && n ≤ 0x1E) || n == 0x85 || n == 0x2028 || n == 0x2029

/-- The lines of a text by all line ends; no empty line follows a final line end. -/
def allLines (cs : List Char) : List Line :=
  let parts := (universalNewlines cs).splitOnP isLineEnd
  if parts.getLast? = some [] then parts.dropLast else parts

end SwiftDerive.Text
