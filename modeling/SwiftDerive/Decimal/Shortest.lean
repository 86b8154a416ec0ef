import SwiftDerive.Decimal.Binary64

/-! # The shortest decimal that reads back

Of the decimals that round to a given number, one with the fewest digits is written, and of those
the nearest to the number. On the grid of decimals with a given number of digits only the two
neighbours of the number have to be tried.
-/

namespace SwiftDerive.Decimal

set_option autoImplicit false

open Binary64 (twoTo tenTo)

def decimalLE (left : Nat) (tens : Int) (right : Nat) (twos : Int) : Bool :=
  left * tenTo tens * twoTo (-twos) ≤ right * twoTo twos * tenTo (-tens)

def binaryLE (left : Nat) (twos : Int) (right : Nat) (tens : Int) : Bool :=
  left * twoTo twos * tenTo (-tens) ≤ right * tenTo tens * twoTo (-twos)

/-- The reals that round to `significand * 2 ^ exponent`, in quarters of its last place. The ends
belong to the interval when the significand is even. -/
structure Rounding where
  low : Nat
  middle : Nat
  high : Nat
  twos : Int
  closed : Bool

/-- The rounding interval of a positive number; below a power of two it is half as wide. -/
def Rounding.of (significand : Nat) (exponent : Int) : Rounding where
  low := if significand = twoTo 52 && exponent > Binary64.leastExponent then 4 * significand - 1
    else 4 * significand - 2
  middle := 4 * significand
  high := 4 * significand + 2
  twos := exponent - 2
  closed := significand % 2 == 0

def Rounding.contains (r : Rounding) (digits : Nat) (tens : Int) : Bool :=
  let atLeast := binaryLE r.low r.twos digits tens
  let atMost := decimalLE digits tens r.high r.twos
  if r.closed then atLeast && atMost
  else atLeast && atMost && !decimalLE digits tens r.low r.twos &&
    !binaryLE r.high r.twos digits tens

/-- The integer part of the middle of the interval divided by `10 ^ tens`. -/
def Rounding.floorAt (r : Rounding) (tens : Int) : Nat :=
  r.middle * twoTo r.twos * tenTo (-tens) / (tenTo tens * twoTo (-r.twos))

/-- Whether the upper of two neighbouring decimals is the one to write: it is nearer, or as near
and even. -/
def Rounding.prefersUpper (r : Rounding) (lower : Nat) (tens : Int) : Bool :=
  let half := 2 * lower + 1
  let above := decimalLE half tens (2 * r.middle) r.twos
  let below := binaryLE (2 * r.middle) r.twos half tens
  above && (!below || lower % 2 == 1)

def Rounding.atGrid? (r : Rounding) (tens : Int) : Option Nat :=
  let lower := r.floorAt tens
  let lowerHits := lower > 0 && r.contains lower tens
  let upperHits := r.contains (lower + 1) tens
  if lowerHits && upperHits then some (if r.prefersUpper lower tens then lower + 1 else lower)
  else if lowerHits then some lower
  else if upperHits then some (lower + 1)
  else none

/-- The number of digits before the point, negative when zeros follow it. -/
def Rounding.magnitude (r : Rounding) : Int :=
  (Nat.toDigits 10 (r.floorAt (-400))).length - 400

/-- The first of the next `count` grids, each with one digit more, that has a hit. -/
def Rounding.search (r : Rounding) (magnitude : Int) : (count size : Nat) → Nat × Int
  | 0, size => (r.floorAt (magnitude - size), magnitude - size)
  | count + 1, size =>
    match r.atGrid? (magnitude - size) with
    | some digits => (digits, magnitude - size)
    | none => r.search magnitude count (size + 1)

/-- The number without zeros at its end, and how many there were, at most `count`. -/
def dropZeros : (count : Nat) → Nat → Nat × Nat
  | 0, n => (n, 0)
  | count + 1, n =>
    if n != 0 && n % 10 == 0 then
      let (m, zeros) := dropZeros count (n / 10)
      (m, zeros + 1)
    else (n, 0)

def shortest (significand : Nat) (exponent : Int) : List Char × Int :=
  let r := Rounding.of significand exponent
  let (digits, tens) := r.search r.magnitude 17 1
  let (digits, zeros) := dropZeros 20 digits
  (Nat.toDigits 10 digits, tens + zeros)

/-- How a number is written: which magnitudes go without an exponent, and the words for the
numbers that have no digits. -/
structure NumberStyle where
  leastPositional : Int
  greatestPositional : Int
  exponentDigits : Nat
  nan : String
  infinity : String

/-- The digits with a point after the first `point` of them, and at least one on each side. -/
def positional (digits : List Char) (point : Int) : List Char :=
  if point ≤ 0 then '0' :: '.' :: List.replicate (-point).toNat '0' ++ digits
  else
    let whole := point.toNat
    if digits.length ≤ whole then
      digits ++ List.replicate (whole - digits.length) '0' ++ ['.', '0']
    else digits.take whole ++ '.' :: digits.drop whole

def signedDigits (width : Nat) (n : Int) : List Char :=
  let digits := Nat.toDigits 10 n.natAbs
  (if n < 0 then '-' else '+') :: List.replicate (width - digits.length) '0' ++ digits

def scientific (width : Nat) (digits : List Char) (power : Int) : List Char :=
  (match digits with
    | first :: second :: rest => first :: '.' :: second :: rest
    | digits => digits) ++ 'e' :: signedDigits width power

def NumberStyle.render (style : NumberStyle) : Binary64 → String
  | .nan => style.nan
  | .infinite negative => (if negative then "-" else "") ++ style.infinity
  | .finite negative significand exponent =>
    let sign := if negative then "-" else ""
    if significand = 0 then sign ++ "0.0"
    else
      let (digits, tens) := shortest significand exponent
      let point := tens + digits.length
      sign ++ String.ofList
        (if style.leastPositional ≤ point && point ≤ style.greatestPositional then
          positional digits point
        else scientific style.exponentDigits digits (point - 1))

end SwiftDerive.Decimal
