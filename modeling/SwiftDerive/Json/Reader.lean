import SwiftDerive.Json.Basic

/-! # Reading values of the data format

The reader goes through the text once and stops at the first fault. A fault is kept with the
number of characters that are left at it, from which its line and column follow.
-/

namespace SwiftDerive.Json

set_option autoImplicit false

inductive Fault where
  | value | propertyName | colon | comma | unterminated | control | escape | unicodeEscape
  | extraData | byteOrderMark
  deriving DecidableEq, Repr

def Fault.message : Fault → String
  | .value => "Expecting value"
  | .propertyName => "Expecting property name enclosed in double quotes"
  | .colon => "Expecting ':' delimiter"
  | .comma => "Expecting ',' delimiter"
  | .unterminated => "Unterminated string starting at"
  | .control => "Invalid control character at"
  | .escape => "Invalid \\escape"
  | .unicodeEscape => "Invalid \\uXXXX escape"
  | .extraData => "Extra data"
  | .byteOrderMark => "Unexpected UTF-8 BOM (decode using utf-8-sig)"

/-- A fault and the number of characters from it to the end of the text. -/
structure FaultAt where
  fault : Fault
  left : Nat
  deriving DecidableEq, Repr

def FaultAt.message (e : FaultAt) (text : List Char) : String :=
  let offset := text.length - e.left
  let before := text.take offset
  let line := before.count '\n' + 1
  let column := (before.reverse.takeWhile (· != '\n')).length + 1
  e.fault.message ++ ": line " ++ toString line ++ " column " ++ toString column ++ " (char " ++
    toString offset ++ ")"

abbrev Reading (α : Type) := Except FaultAt (α × List Char)

def isGap (c : Char) : Bool :=
  c == ' ' || c == '\t' || c == '\n' || c == '\r'

def skipGap (cs : List Char) : List Char := cs.dropWhile isGap

def hexValue? (c : Char) : Option Nat :=
  if '0' ≤ c && c ≤ '9' then some (c.toNat - 48)
  else if 'a' ≤ c && c ≤ 'f' then some (c.toNat - 87)
  else if 'A' ≤ c && c ≤ 'F' then some (c.toNat - 55)
  else none

def unit? (a b c d : Char) : Option Nat := do
  return ((← hexValue? a) * 16 + (← hexValue? b)) * 256 + (← hexValue? c) * 16 + (← hexValue? d)

def escaped? (c : Char) : Option Char :=
  if c == '\x22' || c == '\\' || c == '/' then some c
  else if c == 'b' then some '\x08'
  else if c == 'f' then some '\x0c'
  else if c == 'n' then some '\n'
  else if c == 'r' then some '\r'
  else if c == 't' then some '\t'
  else none

def isHighHalf (n : Nat) : Bool := 0xD800 ≤ n && n ≤ 0xDBFF

def isLowHalf (n : Nat) : Bool := 0xDC00 ≤ n && n ≤ 0xDFFF

/-- The characters of code points, two halves of a pair in a row being one character. Half a pair
on its own is the replacement character. -/
def joinHalves : List Nat → List Char
  | [] => []
  | [n] => [if isHighHalf n || isLowHalf n then '\uFFFD' else Char.ofNat n]
  | high :: low :: rest =>
    if isHighHalf high then
      if isLowHalf low then
        Char.ofNat (0x10000 + (high - 0xD800) * 0x400 + (low - 0xDC00)) :: joinHalves rest
      else '\uFFFD' :: joinHalves (low :: rest)
    else (if isLowHalf high then '\uFFFD' else Char.ofNat high) :: joinHalves (low :: rest)

/-- The code points of a text behind its opening quote, in reverse order in front of `seen`.
`start` is the number of characters left at the opening quote. -/
def readPoints (start : Nat) (seen : List Nat) : List Char → Reading (List Nat)
  | [] => .error ⟨.unterminated, start⟩
  | '\x22' :: rest => .ok (seen.reverse, rest)
  | '\\' :: 'u' :: a :: b :: c :: d :: next :: rest =>
    match unit? a b c d with
    | none => .error ⟨.unicodeEscape, rest.length + 6⟩
    | some n => readPoints start (n :: seen) (next :: rest)
  | '\\' :: 'u' :: rest => .error ⟨.unicodeEscape, rest.length + 1⟩
  | ['\\'] => .error ⟨.unterminated, start⟩
  | '\\' :: c :: rest =>
    match escaped? c with
    | some c => readPoints start (c.toNat :: seen) rest
    | none => .error ⟨.escape, rest.length + 2⟩
  | c :: rest =>
    if c.toNat ≤ 0x1F then .error ⟨.control, rest.length + 1⟩
    else readPoints start (c.toNat :: seen) rest

def readText (start : Nat) (cs : List Char) : Reading String :=
  match readPoints start [] cs with
  | .ok (points, rest) => .ok (String.ofList (joinHalves points), rest)
  | .error e => .error e

def digits (cs : List Char) : List Char × List Char :=
  (cs.takeWhile Char.isDigit, cs.dropWhile Char.isDigit)

def natOfDigits (ds : List Char) : Nat :=
  ds.foldl (fun n d => 10 * n + (d.toNat - 48)) 0

/-- The digits of a fraction behind its point; without a digit the point is no part of the
number. -/
def readFraction : List Char → List Char × List Char
  | '.' :: rest =>
    match digits rest with
    | ([], _) => ([], '.' :: rest)
    | result => result
  | cs => ([], cs)

/-- The sign and the digits of an exponent; without a digit its letter is no part of the number. -/
def readExponent (cs : List Char) : Option Int × List Char :=
  match cs with
  | e :: rest =>
    if e == 'e' || e == 'E' then
      let (negative, rest) := match rest with
        | '-' :: rest => (true, rest)
        | '+' :: rest => (false, rest)
        | rest => (false, rest)
      match digits rest with
      | ([], _) => (none, cs)
      | (ds, rest) =>
        let n : Int := natOfDigits ds
        (some (if negative then -n else n), rest)
    else (none, cs)
  | [] => (none, cs)

/-- A number without its sign: digits of which only a lone first may be zero, then a fraction and
an exponent. With either of these it is a floating-point number. -/
def readNumber? (negative : Bool) (cs : List Char) : Option (Json × List Char) :=
  let (whole, rest) := match cs with
    | '0' :: rest => (['0'], rest)
    | cs => digits cs
  if whole.isEmpty then none
  else
    let (fraction, rest) := readFraction rest
    let (exponent, rest) := readExponent rest
    if fraction.isEmpty && exponent.isNone then
      let n : Int := natOfDigits whole
      some (.int (if negative then -n else n), rest)
    else
      some (.float (Binary64.ofDecimal negative (natOfDigits (whole ++ fraction))
        (exponent.getD 0 - fraction.length)), rest)

/-- A number or a word; all else is no value. -/
def readScalar (cs : List Char) : Reading Json :=
  let refused : Reading Json := .error ⟨.value, cs.length⟩
  match cs with
  | 'n' :: 'u' :: 'l' :: 'l' :: rest => .ok (.null, rest)
  | 't' :: 'r' :: 'u' :: 'e' :: rest => .ok (.bool true, rest)
  | 'f' :: 'a' :: 'l' :: 's' :: 'e' :: rest => .ok (.bool false, rest)
  | 'N' :: 'a' :: 'N' :: rest => .ok (.float .nan, rest)
  | 'I' :: 'n' :: 'f' :: 'i' :: 'n' :: 'i' :: 't' :: 'y' :: rest =>
    .ok (.float (.infinite false), rest)
  | '-' :: 'I' :: 'n' :: 'f' :: 'i' :: 'n' :: 'i' :: 't' :: 'y' :: rest =>
    .ok (.float (.infinite true), rest)
  | '-' :: rest => ((readNumber? true rest).map Except.ok).getD refused
  | cs => ((readNumber? false cs).map Except.ok).getD refused

mutual

/-- The value that a text starts with. The first argument bounds the number of steps. -/
def readValue : Nat → List Char → Reading Json
  | 0, cs => .error ⟨.value, cs.length⟩
  | steps + 1, cs =>
    match cs with
    | '\x22' :: rest =>
      match readText cs.length rest with
      | .ok (s, rest) => .ok (.string s, rest)
      | .error e => .error e
    | '\x5b' :: rest =>
      match skipGap rest with
      | '\x5d' :: rest => .ok (.array [], rest)
      | rest =>
        match readItems steps rest with
        | .ok (items, rest) => .ok (.array items, rest)
        | .error e => .error e
    | '\x7b' :: rest =>
      match skipGap rest with
      | '\x7d' :: rest => .ok (.object [], rest)
      | rest =>
        match readEntries steps rest with
        | .ok (entries, rest) => .ok (.object (mergeEntries entries), rest)
        | .error e => .error e
    | cs => readScalar cs

def readItems : Nat → List Char → Reading (List Json)
  | 0, cs => .error ⟨.value, cs.length⟩
  | steps + 1, cs =>
    match readValue steps cs with
    | .error e => .error e
    | .ok (item, rest) =>
      match skipGap rest with
      | '\x5d' :: rest => .ok ([item], rest)
      | ',' :: rest =>
        match readItems steps (skipGap rest) with
        | .ok (items, rest) => .ok (item :: items, rest)
        | .error e => .error e
      | rest => .error ⟨.comma, rest.length⟩

def readEntries : Nat → List Char → Reading (List (String × Json))
  | 0, cs => .error ⟨.value, cs.length⟩
  | steps + 1, cs =>
    match cs with
    | '\x22' :: rest =>
      match readText cs.length rest with
      | .error e => .error e
      | .ok (key, rest) =>
        match skipGap rest with
        | ':' :: rest =>
          match readValue steps (skipGap rest) with
          | .error e => .error e
          | .ok (value, rest) =>
            match skipGap rest with
            | '\x7d' :: rest => .ok ([(key, value)], rest)
            | ',' :: rest =>
              match readEntries steps (skipGap rest) with
              | .ok (entries, rest) => .ok ((key, value) :: entries, rest)
              | .error e => .error e
            | rest => .error ⟨.comma, rest.length⟩
        | rest => .error ⟨.colon, rest.length⟩
    | cs => .error ⟨.propertyName, cs.length⟩

end

def readChars (cs : List Char) : Except FaultAt Json :=
  if cs.head? = some '\uFEFF' then .error ⟨.byteOrderMark, cs.length⟩
  else
    match readValue (2 * cs.length + 2) (skipGap cs) with
    | .error e => .error e
    | .ok (value, rest) =>
      match skipGap rest with
      | [] => .ok value
      | rest => .error ⟨.extraData, rest.length⟩

def read (s : String) : Except String Json :=
  match readChars s.toList with
  | .ok value => .ok value
  | .error e => .error (e.message s.toList)

end SwiftDerive.Json
