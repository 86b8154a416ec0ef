/-! # Floating-point numbers of 64 bits

A finite number is a significand of at most 53 bits times a power of two, kept in exact integers.
Rounding goes to the nearest such number, and a tie to the even significand.
-/

namespace SwiftDerive

set_option autoImplicit false

/-- A floating-point number with a 53-bit significand. -/
inductive Binary64 where
  | nan
  | infinite (negative : Bool)
  /-- The number `significand * 2 ^ exponent`, or its negative. -/
  | finite (negative : Bool) (significand : Nat) (exponent : Int)
  deriving DecidableEq, Repr

namespace Binary64

def leastExponent : Int := -1074

def greatestExponent : Int := 971

def zero (negative : Bool) : Binary64 := .finite negative 0 leastExponent

/-- A quotient rounded to the nearest integer, a half to the even one. -/
def roundDiv (num den : Nat) : Nat :=
  let q := num / den
  let r := num % den
  if 2 * r > den || (2 * r == den && q % 2 == 1) then q + 1 else q

/-- A power of two; one with a negative exponent counts as one. -/
def twoTo (exponent : Int) : Nat := Nat.pow 2 exponent.toNat

def tenTo (exponent : Int) : Nat := Nat.pow 10 exponent.toNat

def scaleDown (num den : Nat) (exponent : Int) : Nat × Nat :=
  (num * twoTo (-exponent), den * twoTo exponent)

def ofQuotient (negative : Bool) (num den : Nat) : Binary64 :=
  let guess : Int := max ((num.log2 : Int) - den.log2 - 52) leastExponent
  let (n, d) := scaleDown num den guess
  let exponent := if n / d < twoTo 52 && guess > leastExponent then guess - 1 else guess
  let (n, d) := scaleDown num den exponent
  let significand := roundDiv n d
  let (significand, exponent) :=
    if significand = twoTo 53 then (twoTo 52, exponent + 1) else (significand, exponent)
  if exponent > greatestExponent then .infinite negative
  else .finite negative significand exponent

/-- The number nearest to `significand * 10 ^ exponent`. Powers far outside the range are not
computed: they are infinite or zero. -/
def ofDecimal (negative : Bool) (significand : Nat) (exponent : Int) : Binary64 :=
  let magnitude := exponent + (Nat.toDigits 10 significand).length
  if significand = 0 then zero negative
  else if magnitude > 400 then .infinite negative
  else if magnitude < -400 then zero negative
  else ofQuotient negative (significand * tenTo exponent) (tenTo (-exponent))

end Binary64

end SwiftDerive
