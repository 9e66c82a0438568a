import PropertyTyping.Number.Binary64
import PropertyTyping.Text

/-! The shortest decimal text that reads back as a given double-precision number. The numbers that
round to it form an interval; the digits are those of the first decimal grid, from coarse to fine,
that has a point in the interval, and of two such points the nearer. -/

namespace PropertyTyping

/-- Digits and the power of ten that they are multiplied by. -/
structure Decimal where
  digits : Nat
  power : Int
  deriving DecidableEq

namespace Decimal

/-- A positive quotient that stands for itself in comparisons with decimals. -/
structure Quotient where
  num : Nat
  den : Nat

/-- How a decimal lies to a quotient: by cross multiplication, nothing is rounded. -/
def compare (d : Decimal) (x : Quotient) : Ordering :=
  if 0 ≤ d.power then Ord.compare (d.digits * Nat.pow 10 d.power.toNat * x.den) x.num
  else Ord.compare (d.digits * x.den) (x.num * Nat.pow 10 (-d.power).toNat)

/-- The numbers that round to one word. -/
structure Interval where
  low : Quotient
  high : Quotient
  closed : Bool

def Interval.contains (i : Interval) (d : Decimal) : Bool :=
  match d.compare i.low, d.compare i.high with
  | .gt, .lt => true
  | .eq, _ | _, .eq => i.closed
  | _, _ => false

/-- A number of quarters of a power of two. -/
def quarters (n : Nat) (q : Int) : Quotient :=
  if 2 ≤ q then ⟨n * Nat.pow 2 (q - 2).toNat, 1⟩ else ⟨n, Nat.pow 2 (2 - q).toNat⟩

/-- Half the way to both neighbours. Below a power of two the neighbours lie twice as close. -/
def roundingInterval (x : Binary64) : Interval :=
  let m := x.significand
  let narrow := decide (x.fraction = 0) && decide (1 < x.exponentField)
  ⟨quarters (4 * m - if narrow then 1 else 2) x.exponent, quarters (4 * m + 2) x.exponent,
    decide (m % 2 = 0)⟩

/-- The power of ten of the leading digit. -/
def leadingPower (x : Quotient) : Int :=
  if x.den ≤ x.num then ((Nat.toDigits 10 (x.num / x.den)).length : Int) - 1
  else
    let places := (Nat.toDigits 10 (x.den / x.num)).length
    if x.den ≤ x.num * Nat.pow 10 (places - 1) then -((places : Int) - 1) else -(places : Int)

/-- The point of the grid of a power of ten that lies next below a quotient, or on it. -/
def below (x : Quotient) (power : Int) : Nat :=
  if 0 ≤ power then x.num / (x.den * Nat.pow 10 power.toNat)
  else x.num * Nat.pow 10 (-power).toNat / x.den

/-- The nearer of the two neighbours on a grid that lie in the interval, if one does. The middle
between the neighbours decides which is nearer, and on the middle itself the even one is taken. -/
def onGrid? (i : Interval) (x : Quotient) (power : Int) : Option Decimal :=
  let d : Decimal := ⟨below x power, power⟩
  let u : Decimal := ⟨d.digits + 1, power⟩
  match i.contains d, i.contains u with
  | true, true =>
    match Decimal.compare ⟨10 * d.digits + 5, power - 1⟩ x with
    | .gt => some d
    | .lt => some u
    | .eq => some (if d.digits % 2 = 0 then d else u)
  | true, false => some d
  | false, true => some u
  | false, false => none

/-- The digits without the zeros they end in. -/
def trim : Nat → Decimal → Decimal
  | 0, d => d
  | n + 1, d =>
    if d.digits ≠ 0 ∧ d.digits % 10 = 0 then trim n ⟨d.digits / 10, d.power + 1⟩ else d

/-- The shortest decimal that rounds to a positive finite number. Seventeen digits always do. -/
def shortest (x : Binary64) : Decimal :=
  let v := quarters (4 * x.significand) x.exponent
  let lead := leadingPower v
  let grids := (List.range 17).map fun (n : Nat) => lead - (n : Int)
  let found := grids.findSome? (onGrid? (roundingInterval x) v)
  trim 17 (found.getD ⟨below v (lead - 16), lead - 16⟩)

end Decimal

/-- How the digits of a number are laid out. -/
structure NumberLayout where
  /-- The leading powers of ten that are written without an exponent. -/
  positional : Int → Bool
  /-- The fewest digits of an exponent. -/
  exponentDigits : Nat

/-- Exponents are written below a ten-thousandth and from ten to the sixteenth on, with a sign and
at least two digits. -/
def NumberLayout.standard : NumberLayout where
  positional power := decide (-4 ≤ power) && decide (power < 16)
  exponentDigits := 2

namespace NumberLayout

/-- Digits with the point after the first, and an exponent. -/
def scientific (l : NumberLayout) (ds : List Char) (power : Int) : List Char :=
  let mantissa := match ds with
    | d :: e :: rest => d :: '.' :: e :: rest
    | _ => ds
  let exponent := Nat.toDigits 10 power.natAbs
  mantissa ++ 'e' :: (if power < 0 then '-' else '+')
    :: List.replicate (l.exponentDigits - exponent.length) '0' ++ exponent

/-- Digits with the point in its place, and a digit on each side of it. -/
def fixed (ds : List Char) (power : Int) : List Char :=
  if power < 0 then '0' :: '.' :: List.replicate (-power - 1).toNat '0' ++ ds
  else
    let whole := (power + 1).toNat
    let fraction := ds.drop whole
    ds.take whole ++ List.replicate (whole - ds.length) '0'
      ++ '.' :: (if fraction.isEmpty then ['0'] else fraction)

/-- A positive decimal whose digits do not end in zero. -/
def write (l : NumberLayout) (d : Decimal) : List Char :=
  let ds := Nat.toDigits 10 d.digits
  let lead := d.power + (ds.length - 1)
  if l.positional lead then fixed ds lead else l.scientific ds lead

end NumberLayout

namespace Binary64

/-- The text of a number: its sign and the shortest digits that read back as it. -/
def toText (x : Binary64) : Text :=
  if x.isNaN then "nan"
  else
    let magnitude : Text :=
      if !x.isFinite then "inf"
      else if x.isZero then "0.0"
      else Text.ofChars (NumberLayout.standard.write (Decimal.shortest x))
    if x.isNegative then .scalar '-' :: magnitude else magnitude

end Binary64

end PropertyTyping
