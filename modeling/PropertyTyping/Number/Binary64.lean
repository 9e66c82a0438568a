/-! Double-precision numbers as 64-bit words, with the exact rational that a finite word stands for
and the word nearest to an exact number. No machine arithmetic on fractions is involved. -/

namespace PropertyTyping

/-- A sign bit, eleven exponent bits and fifty-two fraction bits. -/
structure Binary64 where
  bits : BitVec 64
  deriving DecidableEq

namespace Binary64

def isNegative (x : Binary64) : Bool := x.bits.msb

def fraction (x : Binary64) : Nat := x.bits.toNat % Nat.pow 2 52

def exponentField (x : Binary64) : Nat := x.bits.toNat / Nat.pow 2 52 % Nat.pow 2 11

def isFinite (x : Binary64) : Bool := decide (x.exponentField ≠ 2047)

def isNaN (x : Binary64) : Bool := !x.isFinite && decide (x.fraction ≠ 0)

/-- The integer factor of a finite number. -/
def significand (x : Binary64) : Nat :=
  if x.exponentField = 0 then x.fraction else Nat.pow 2 52 + x.fraction

/-- The power of two that the significand is multiplied by. -/
def exponent (x : Binary64) : Int := max x.exponentField 1 - 1075

def isZero (x : Binary64) : Bool := x.isFinite && decide (x.significand = 0)

/-- A number times a power of two. -/
def scale (m : Nat) (q : Int) : Rat :=
  if 0 ≤ q then (m * Nat.pow 2 q.toNat : Nat) else mkRat m (Nat.pow 2 (-q).toNat)

/-- The exact number that a finite word stands for. Both zeros stand for zero. -/
def toRat (x : Binary64) : Rat :=
  if x.isNegative then -scale x.significand x.exponent else scale x.significand x.exponent

/-- The word of a sign and the other sixty-three bits. -/
def ofMagnitude (negative : Bool) (magnitude : Nat) : Binary64 :=
  ⟨BitVec.ofNat 64 (if negative then Nat.pow 2 63 + magnitude else magnitude)⟩

def infinity (negative : Bool) : Binary64 := ofMagnitude negative (2047 * Nat.pow 2 52)

def zero (negative : Bool) : Binary64 := ofMagnitude negative 0

def nan : Binary64 := ofMagnitude false (2047 * Nat.pow 2 52 + Nat.pow 2 51)

/-- The quotient rounded to the nearest integer, a half to the even neighbour. -/
def divideNearest (num den : Nat) : Nat :=
  let quotient := num / den
  let twice := 2 * (num % den)
  if twice < den then quotient
  else if den < twice then quotient + 1
  else quotient + quotient % 2

/-- The largest power of two not above a positive quotient. -/
def floorLog2 (num den : Nat) : Int :=
  let e : Int := num.log2 - den.log2
  let reached :=
    if 0 ≤ e then den * Nat.pow 2 e.toNat ≤ num else den ≤ num * Nat.pow 2 (-e).toNat
  if reached then e else e - 1

/-- The word nearest to a quotient. Its magnitude bits are the rounded significand, carried into
the exponent field; from the largest exponent on, the number is infinite. -/
def nearest (negative : Bool) (num den : Nat) : Binary64 :=
  if num = 0 then zero negative
  else
    let q := max (floorLog2 num den - 52) (-1074)
    let m := if 0 ≤ q then divideNearest num (den * Nat.pow 2 q.toNat)
      else divideNearest (num * Nat.pow 2 (-q).toNat) den
    ofMagnitude negative (min ((q + 1074).toNat * Nat.pow 2 52 + m) (2047 * Nat.pow 2 52))

/-- The word nearest to a number written as digits and a power of ten. Beyond the range of words
the power itself is not computed. -/
def ofDecimal (negative : Bool) (digits : Nat) (power : Int) : Binary64 :=
  let places : Int := (Nat.toDigits 10 digits).length
  if digits = 0 ∨ places + power < -330 then zero negative
  else if 310 < places + power then infinity negative
  else if 0 ≤ power then nearest negative (digits * Nat.pow 10 power.toNat) 1
  else nearest negative digits (Nat.pow 10 (-power).toNat)

/-- The word nearest to an exact number. -/
def ofRat (r : Rat) : Binary64 := nearest (decide (r < 0)) r.num.natAbs r.den

/-- The sum of two numbers that are not negative. -/
def sum (x y : Binary64) : Binary64 :=
  if x.isFinite && y.isFinite then ofRat (x.toRat + y.toRat) else infinity false

/-- The product of a number that is not negative with a positive finite one. -/
def product (x y : Binary64) : Binary64 :=
  if x.isFinite then ofRat (x.toRat * y.toRat) else infinity false

def negate (x : Binary64) : Binary64 := ofMagnitude (!x.isNegative) (x.bits.toNat % Nat.pow 2 63)

end Binary64

end PropertyTyping
