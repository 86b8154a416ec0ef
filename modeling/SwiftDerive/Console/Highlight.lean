import SwiftDerive.Text.Regex
import SwiftDerive.Unicode.Digit

/-! # Highlights

The parts of a title that a terminal sets apart, each by a style of its own: tags, assignments,
brackets, addresses, numbers, paths, quoted texts and some words.
-/

namespace SwiftDerive.Console.Highlight

set_option autoImplicit false

open Text Text.Regex Unicode

def isPlainDigit (c : Char) : Bool := '0' ≤ c && c ≤ '9'

def isHexDigit (c : Char) : Bool :=
  isPlainDigit c || ('a' ≤ c && c ≤ 'f') || ('A' ≤ c && c ≤ 'F')

def isPathChar (c : Char) : Bool := isWord c || ['-', '.', '+'].contains c

def isTagChar (c : Char) : Bool := isWord c || ['-', '.', ':', '|'].contains c

def isAddressChar (c : Char) : Bool :=
  isPlainDigit c || ('a' ≤ c && c ≤ 'z') || ('A' ≤ c && c ≤ 'Z') ||
    "-$_+!`(),.?/;:&=%#~@".toList.contains c

def isQuotable (c : Char) : Bool := c != '\n'

def hexRun (least most : Nat) : Regex := charsBetween least most isHexDigit

def hexGroups (least most : Nat) (separator : String) (count : Nat) : Regex :=
  all [.repeated false count (some count) (all [hexRun least most, literal separator]),
    hexRun least most]

/-- An address of hardware: bytes with one of two separators, or pairs of bytes with dots. -/
def hardwareAddress (bytes : Nat) : Regex :=
  .marked (oneOf [hexGroups 1 2 "-" (bytes - 1), hexGroups 1 2 ":" (bytes - 1),
    hexGroups 4 4 "." (bytes / 2 - 1)])

def shortAddress : Regex :=
  let number := charsBetween 1 3 isPlainDigit
  .marked (all [number, literal ".", number, literal ".", number, literal ".", number])

def longAddress : Regex :=
  .marked (all [.repeated false 1 (some 7)
    (all [hexRun 1 4, literal ":", optional (literal ":")]), hexRun 1 4])

def identifier : Regex :=
  .marked (all [hexRun 8 8, literal "-", hexRun 4 4, literal "-", hexRun 4 4, literal "-",
    hexRun 4 4, literal "-", hexRun 12 12])

def decimal : Regex := all [someChars isPlainDigit, optional (literal "."), chars isPlainDigit]

/-- The exponent of a number; a `lazy` one has as few digits as possible. -/
def exponent (lazy : Bool) : Regex :=
  all [literal "e", optional (.char fun c => c == '-' || c == '+'),
    .repeated lazy 1 none (.char isDecimalDigit)]

def complexNumber : Regex :=
  .marked (all [.notBehind isWord, optional (literal "-"), decimal, optional (exponent true),
    optional (all [.char fun c => c == '-' || c == '+', decimal, optional (exponent false)]),
    literal "j"])

def number : Regex :=
  .marked (oneOf [all [.notBehind isWord, optional (literal "-"), decimal,
    optional (exponent true), .wordEdge true], all [literal "0x", chars isHexDigit]])

/-- The folders of a path, and its last name by itself. -/
def path : Regex :=
  all [.marked (all [.wordEdge false,
      .repeated false 0 none (all [literal "/", someChars isPathChar]), literal "/"]),
    .marked (chars isPathChar)]

/-- A text between quotes; a quote behind a backslash does not end it. -/
def quotedBy (quote : String) : Regex :=
  all [optional (literal "b"), literal quote, fewChars isQuotable, .notBehind (· == '\\'),
    literal quote]

def quotedText : Regex :=
  all [.notBehind fun c => c == '\\' || isWord c,
    .marked (oneOf (["'''", "'", "\"\"\"", "\""].map quotedBy))]

def wholeWord (word : String) : Regex :=
  all [.wordEdge true, .marked (literal word), .wordEdge true]

def webAddress : Regex :=
  .marked (all [oneOf (["file", "https", "http", "ws", "wss"].map literal), literal "://",
    chars isAddressChar])

/-- A tag between angle brackets, which reaches as far as it can. -/
def angleTag : Regex :=
  all [.marked (literal "<"), .marked (chars isTagChar), .marked (chars fun _ => true),
    .marked (literal ">")]

def assignment : Regex :=
  all [.marked (charsBetween 1 50 isWord), literal "=",
    optional (.marked (all [optional (literal "\""), someChars isWord, optional (literal "\"")]))]

def bracket : Regex :=
  .marked (.char fun c => ['[', ']', '\x7b', '\x7d', '(', ')'].contains c)

def call : Regex := all [.marked (fewChars fun c => isWord c || c == '.'), literal "("]

/-- What is set apart where none of it overlaps; the first that matches counts. -/
def value : Regex :=
  oneOf [shortAddress, longAddress, hardwareAddress 8, hardwareAddress 6, identifier, call,
    oneOf (["True", "False", "None"].map wholeWord), .marked (literal "..."), complexNumber, number,
    path, quotedText, webAddress]

def styleEdges (cs : List Char) : List Nat :=
  [angleTag, assignment, bracket, value].flatMap fun r => r.edges cs

end SwiftDerive.Console.Highlight
