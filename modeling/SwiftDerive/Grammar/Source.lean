import SwiftDerive.Grammar.Node
import SwiftDerive.Syntax.Decl
import SwiftDerive.Text.Lines

/-! # Source texts

The text under a concrete tree. Nodes are cut out of it by their ranges of bytes, and the place of
a node is given in characters. A text may stand behind lines that are not the reader's own and do
not count.
-/

namespace SwiftDerive

set_option autoImplicit false

inductive ParseFault where
  | missing (kind : String)
  | near (snippet : String)
  | unexpectedEnd
  | noDeclaration
  | severalDeclarations
  | notOneType
  deriving DecidableEq, Repr

def ParseFault.message : ParseFault → String
  | .missing kind => "syntax error: missing '" ++ kind ++ "'"
  | .near snippet => "syntax error near '" ++ snippet ++ "'"
  | .unexpectedEnd => "syntax error: unexpected end of input"
  | .noDeclaration => "expected declaration"
  | .severalDeclarations => "expected a single declaration"
  | .notOneType => "expected a single type"

structure ParseError where
  fault : ParseFault
  position : Position
  deriving DecidableEq, Repr

def ParseError.message (e : ParseError) : String :=
  e.position.render ++ ": " ++ e.fault.message

namespace Grammar

def dropBytes : Nat → List Char → List Char
  | 0, cs => cs
  | _ + 1, [] => []
  | n + 1, c :: cs => dropBytes (n + 1 - c.utf8Size) cs

/-- The characters that start before the given byte. -/
def takeBytes : Nat → List Char → List Char
  | 0, _ => []
  | _ + 1, [] => []
  | n + 1, c :: cs => c :: takeBytes (n + 1 - c.utf8Size) cs

/-- A source text; its first `lineOffset` lines do not count. -/
structure Source where
  content : List Char
  lineOffset : Nat

namespace Source

def slice (src : Source) (start stop : Nat) : List Char :=
  takeBytes (stop - start) (dropBytes start src.content)

def chars (src : Source) (n : Node) : List Char :=
  src.slice n.start n.stop

def text (src : Source) (n : Node) : String :=
  String.ofList (src.chars n)

/-- The words of the node's text with one space between neighbours. -/
def collapsed (src : Source) (n : Node) : String :=
  Text.collapseBlanks (src.text n)

def before (src : Source) (n : Node) : List Char :=
  takeBytes n.start src.content

/-- The place of a node: one more than the line feeds before it, and one more than the characters
since the last of them. -/
def position (src : Source) (n : Node) : Position where
  line := (src.before n).count '\n' + 1 - src.lineOffset
  column := ((src.before n).reverse.takeWhile (· != '\n')).length + 1

def lineOf (src : Source) (n : Node) : Text.Line :=
  ((Text.lines src.content)[(src.before n).count '\n']?).getD []

/-- The text of a node, its later lines without the indentation of its first. -/
def raw (src : Source) (n : Node) : String :=
  String.ofList
    (Text.stripIndent (Text.indentOf (src.lineOf n)).length (src.chars n))

/-- The first line of a node's text, at most thirty characters of it. -/
def snippet (src : Source) (n : Node) : List Char :=
  (((Text.lines (Text.trimChars (src.chars n))).head?).getD []).take 30

def error (src : Source) (n : Node) : ParseError where
  fault :=
    if n.missing then .missing n.kind
    else if (src.snippet n).isEmpty then .unexpectedEnd
    else .near (String.ofList (src.snippet n))
  position := src.position n

/-- Where a closing brace starts that ends at the given byte. One that ends where the text starts
is taken for the last byte of the text. -/
def closingBrace (src : Source) (stop : Nat) : Nat :=
  (if stop = 0 then (String.ofList src.content).utf8ByteSize else stop) - 1

def block (src : Source) (opening stop : Nat) : Statement :=
  let body := Text.normalizeBody (src.slice (opening + 1) (src.closingBrace stop))
  .block (if body.isEmpty then [] else [.raw (String.ofList body)])

end Source

end Grammar

end SwiftDerive
