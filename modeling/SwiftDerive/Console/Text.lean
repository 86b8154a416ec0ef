import SwiftDerive.Console.Cells
import SwiftDerive.Console.Markup

/-! # Text on a terminal

Texts as a terminal shows them. Controls that move the cursor are left out, and codes that set
colours are no text.
-/

namespace SwiftDerive.Console

set_option autoImplicit false

/-- Whether a character is a control that moves the cursor or rings: bell, backspace, vertical
tab, form feed or carriage return. -/
def isCursorControl (c : Char) : Bool := [0x07, 0x08, 0x0B, 0x0C, 0x0D].contains c.toNat

def withoutControls (cs : List Char) : List Char := cs.filter fun c => !isCursorControl c

def isColourNumber (c : Char) : Bool := c.isDigit || c == ';'

/-- The number of characters of the code for colours that a text starts with: an escape, a bracket,
numbers and the letter `m`. -/
def colourLength : List Char → Nat
  | '\x1b' :: '[' :: cs =>
    let numbers := cs.takeWhile isColourNumber
    if (cs.drop numbers.length).head? = some 'm' then numbers.length + 3 else 0
  | _ => 0

def withoutColoursFrom : (skipped : Nat) → List Char → List Char
  | _, [] => []
  | skipped + 1, _ :: cs => withoutColoursFrom skipped cs
  | 0, c :: cs =>
    match colourLength (c :: cs) with
    | 0 => c :: withoutColoursFrom 0 cs
    | length + 1 => withoutColoursFrom length cs

def withoutColours (cs : List Char) : List Char := withoutColoursFrom 0 cs

def shown (text : String) : String :=
  String.ofList (withoutColours (expandTabs (withoutControls text.toList)))

def shownCell (text : String) : String :=
  String.ofList (withoutColours (withoutControls (withoutMarkup text.toList)))

end SwiftDerive.Console
