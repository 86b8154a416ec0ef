/-! # Blank characters, trimming and words

A character is blank when it is white space or a separator of lines or of records. Texts are
trimmed at blank characters and cut into words at them.
-/

namespace SwiftDerive.Text

set_option autoImplicit false

/-- White space and separators: the controls from tab to carriage return, the four information
separators, and the spaces, line and paragraph separators of Unicode. -/
def isBlank (c : Char) : Bool :=
  let n := c.toNat
  (0x09 ≤ n && n ≤ 0x0D) || (0x1C ≤ n && n ≤ 0x20) || n == 0x85 || n == 0xA0 || n == 0x1680 ||
    (0x2000 ≤ n && n ≤ 0x200A) || n == 0x2028 || n == 0x2029 || n == 0x202F || n == 0x205F ||
    n == 0x3000

/-- The list without the longest run at its end whose members all satisfy the test. -/
def dropEndWhile {α : Type} (p : α → Bool) (items : List α) : List α :=
  (items.reverse.dropWhile p).reverse

def trimChars (cs : List Char) : List Char :=
  dropEndWhile isBlank (cs.dropWhile isBlank)

def trim (s : String) : String :=
  String.ofList (trimChars s.toList)

def isBlankText (cs : List Char) : Bool :=
  cs.all isBlank

/-- The words of a text: its longest runs of characters that are not blank. -/
def words (cs : List Char) : List (List Char) :=
  (cs.splitOnP isBlank).filter fun word => !word.isEmpty

def collapseBlanks (s : String) : String :=
  String.ofList ([' '].intercalate (words s.toList))

def eraseBlanks (s : String) : String :=
  String.ofList (s.toList.filter fun c => !isBlank c)

theorem isBlank_newline : isBlank '\n' = true := by decide

end SwiftDerive.Text
