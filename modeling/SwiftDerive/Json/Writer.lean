import SwiftDerive.Json.Basic
import SwiftDerive.Decimal.Shortest
import SwiftDerive.Text.Quoted

/-! # Writing values of the data format

Texts are written in ASCII, with short escapes where there are any. Values stand on one line, or
each item on a line of its own.
-/

namespace SwiftDerive.Json

set_option autoImplicit false

/-- Numbers from `0.0001` up to below `10 ^ 16` are written without an exponent, others with one of
at least two digits. -/
def numberStyle : Decimal.NumberStyle where
  leastPositional := -3
  greatestPositional := 16
  exponentDigits := 2
  nan := "NaN"
  infinity := "Infinity"

def unitEscape (n : Nat) : List Char :=
  '\\' :: 'u' :: Text.hexDigits 4 n

def charText (c : Char) : List Char :=
  let n := c.toNat
  if c == '\x22' || c == '\\' then ['\\', c]
  else if c == '\n' then ['\\', 'n']
  else if c == '\r' then ['\\', 'r']
  else if c == '\t' then ['\\', 't']
  else if n == 0x08 then ['\\', 'b']
  else if n == 0x0C then ['\\', 'f']
  else if 0x20 ≤ n && n < 0x7F then [c]
  else if n < 0x10000 then unitEscape n
  else unitEscape (0xD800 + (n - 0x10000) / 0x400) ++ unitEscape (0xDC00 + (n - 0x10000) % 0x400)

def textOf (s : String) : String :=
  String.ofList ('\x22' :: s.toList.flatMap charText ++ ['\x22'])

def lineBreak (width depth : Nat) : String :=
  "\n" ++ String.ofList (List.replicate (width * depth) ' ')

/-- Items between brackets, on one line or on lines of their own. -/
def enclose (indent : Option Nat) (depth : Nat) (opening closing : String) (items : List String) :
    String :=
  match items, indent with
  | [], _ => opening ++ closing
  | items, none => opening ++ ", ".intercalate items ++ closing
  | items, some width =>
    opening ++ lineBreak width (depth + 1) ++
      ("," ++ lineBreak width (depth + 1)).intercalate items ++ lineBreak width depth ++ closing

mutual

def write (indent : Option Nat) (depth : Nat) : Json → String
  | .null => "null"
  | .bool true => "true"
  | .bool false => "false"
  | .int n => toString n
  | .float x => numberStyle.render x
  | .string s => textOf s
  | .array items => enclose indent depth "[" "]" (writeAll indent (depth + 1) items)
  | .object entries =>
    enclose indent depth "\x7b" "\x7d" (writeEntries indent (depth + 1) entries)

def writeAll (indent : Option Nat) (depth : Nat) : List Json → List String
  | [] => []
  | item :: items => item.write indent depth :: writeAll indent depth items

def writeEntries (indent : Option Nat) (depth : Nat) : List (String × Json) → List String
  | [] => []
  | (key, value) :: entries =>
    (textOf key ++ ": " ++ value.write indent depth) :: writeEntries indent depth entries

end

def compact (value : Json) : String := value.write none 0

def indented (width : Nat) (value : Json) : String := value.write (some width) 0

mutual

def sorted : Json → Json
  | .array items => .array (sortedAll items)
  | .object entries =>
    .object ((sortedEntries entries).mergeSort fun a b => decide (a.1 ≤ b.1))
  | value => value

def sortedAll : List Json → List Json
  | [] => []
  | item :: items => item.sorted :: sortedAll items

def sortedEntries : List (String × Json) → List (String × Json)
  | [] => []
  | (key, value) :: entries => (key, value.sorted) :: sortedEntries entries

end

def literalNumberStyle : Decimal.NumberStyle :=
  { numberStyle with nan := "nan", infinity := "inf" }

mutual

/-- A value as a literal: texts quoted, words for null and the booleans capitalised. -/
def literal : Json → String
  | .null => "None"
  | .bool true => "True"
  | .bool false => "False"
  | .int n => toString n
  | .float x => literalNumberStyle.render x
  | .string s => Text.quoted s
  | .array items => "[" ++ ", ".intercalate (literalAll items) ++ "]"
  | .object entries => "\x7b" ++ ", ".intercalate (literalEntries entries) ++ "\x7d"

def literalAll : List Json → List String
  | [] => []
  | item :: items => item.literal :: literalAll items

def literalEntries : List (String × Json) → List String
  | [] => []
  | (key, value) :: entries =>
    (Text.quoted key ++ ": " ++ value.literal) :: literalEntries entries

end

end SwiftDerive.Json
