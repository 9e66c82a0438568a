import PropertyTyping.Value
import PropertyTyping.Yaml.Fault

/-! The numbers that plain scalars spell by the rules of version 1.1 of the format: integers of four
bases, fractions, and both in base sixty with colons between the parts. Underscores may stand among
the digits. -/

namespace PropertyTyping.Yaml.Plain

def isOctal (c : Char) : Bool := decide ('0' ≤ c) && decide (c ≤ '7')

def isBinary (c : Char) : Bool := c == '0' || c == '1'

def isHex (c : Char) : Bool := (Digits.hex? c).isSome

/-- Whether there are only digits of a class and underscores. -/
def areDigits (p : Char → Bool) (cs : List Char) : Bool := cs.all fun c => p c || c == '_'

def withoutUnderscores (cs : List Char) : List Char := cs.filter (· ≠ '_')

/-- A part of a number in base sixty after the first: at most two digits, below sixty. -/
def isSixtieth (part : List Char) : Bool :=
  match part with
  | [d] => Digits.isDecimal d
  | [t, d] => decide ('0' ≤ t) && decide (t ≤ '5') && Digits.isDecimal d
  | _ => false

/-- The parts between colons. -/
def colonParts (cs : List Char) : List (List Char) :=
  cs.foldr (fun c parts => match c, parts with
    | ':', parts => [] :: parts
    | c, part :: parts => (c :: part) :: parts
    | c, [] => [[c]]) [[]]

/-- The digits of the parts of a number in base sixty, if there are several. -/
def sixtieths? (cs : List Char) : Option (List (List Char)) :=
  match colonParts cs with
  | part :: next :: parts =>
    if areDigits Digits.isDecimal part && (next :: parts).all isSixtieth then
      some (withoutUnderscores part :: next :: parts)
    else none
  | _ => none

/-- Digits in the base that their beginning tells. -/
def baseDigits? : List Char → Option (Nat × List Char)
  | '0' :: 'b' :: ds => if !ds.isEmpty && areDigits isBinary ds then some (2, ds) else none
  | '0' :: 'x' :: ds => if !ds.isEmpty && areDigits isHex ds then some (16, ds) else none
  | '0' :: d :: ds => if areDigits isOctal (d :: ds) then some (8, d :: ds) else none
  | _ => none

/-- The number that digits of a base spell. After the mark of a base there must be one. -/
def baseNumber (base : Nat) (ds : List Char) : Except Fault Nat :=
  let ds := withoutUnderscores ds
  if ds.isEmpty && base != 8 then .error (.noDigits base) else .ok (Digits.number base ds)

def decimalNumber (ds : List Char) : Except Fault Nat :=
  if Digits.limit < ds.length then .error (.longInteger ds.length) else .ok (Digits.decimal ds)

/-- The number that parts in base sixty spell. -/
def sixtiethsNumber (parts : List (List Char)) : Except Fault Nat :=
  parts.foldlM (fun n part => return 60 * n + (← decimalNumber part)) 0

/-- The number behind a sign, if an integer stands there. Only a zero alone starts with zero. -/
def natural? (cs : List Char) : Option (Except Fault Nat) :=
  match baseDigits? cs, cs with
  | some (base, ds), _ => some (baseNumber base ds)
  | none, ['0'] => some (.ok 0)
  | none, d :: _ =>
    if !Digits.isDecimal d || d == '0' then none
    else if areDigits Digits.isDecimal cs then some (decimalNumber (withoutUnderscores cs))
    else (sixtieths? cs).map sixtiethsNumber
  | none, [] => none

def integer? (cs : List Char) : Option (Except Fault Value) :=
  let (negative, body) := Digits.signPart cs
  (natural? body).map fun n => do return .int (Digits.signed negative (← n))

/-- The exponent of a fraction: a letter, a sign and digits, or nothing. -/
def exponent? : List Char → Option Int
  | [] => some 0
  | e :: s :: ds =>
    if (e == 'e' || e == 'E') && Digits.isSign s && !ds.isEmpty && ds.all Digits.isDecimal then
      some (Digits.signed (s == '-') (Digits.decimal ds))
    else none
  | _ => none

/-- The number of digits before and after a point, with an exponent. -/
def fraction? (negative : Bool) (whole rest : List Char) : Option Binary64 :=
  let isPlace (c : Char) : Bool := Digits.isDecimal c || c == '_'
  let places := withoutUnderscores (rest.takeWhile isPlace)
  (exponent? (rest.dropWhile isPlace)).map fun e =>
    .ofDecimal negative (Digits.decimal (withoutUnderscores whole ++ places)) (e - places.length)

/-- The sum of parts in base sixty, the last one first. Every step is rounded, and the weight of a
part must itself be a number of double precision. -/
def sumSixtieths (parts : List Binary64) : Except Fault Binary64 :=
  parts.zipIdx.foldlM (fun sum part =>
    let weight := Binary64.nearest false (Nat.pow 60 part.2) 1
    if weight.isFinite then .ok (sum.sum (part.1.product weight)) else .error .manyParts)
    (.zero false)

/-- The number of parts in base sixty, the last of which has digits after a point. -/
def sixtiethsFraction (negative : Bool) (parts : List (List Char)) (places : List Char) :
    Except Fault Binary64 := do
  let parts := match parts.reverse with
    | last :: before =>
      Binary64.ofDecimal false (Digits.decimal (last ++ places)) (-(places.length : Int))
        :: before.map fun part => .ofDecimal false (Digits.decimal part) 0
    | [] => []
  let sum ← sumSixtieths parts
  return if negative then sum.negate else sum

def infinityWords : List String := [".inf", ".Inf", ".INF"]

def nanWords : List String := [".nan", ".NaN", ".NAN"]

/-- A number with a point. Without digits before the point, it has no sign. -/
def float? (cs : List Char) : Option (Except Fault Binary64) :=
  let (negative, body) := Digits.signPart cs
  let hasSign := body.length < cs.length
  if infinityWords.contains (String.ofList body) then some (.ok (.infinity negative))
  else if nanWords.contains (String.ofList cs) then some (.ok .nan)
  else
    let whole := body.takeWhile (· ≠ '.')
    match whole, body.drop whole.length with
    | _, [] => none
    | [], _ :: rest =>
      if !hasSign && rest.head?.any Digits.isDecimal then (fraction? negative [] rest).map .ok
      else none
    | d :: more, _ :: rest =>
      if !Digits.isDecimal d then none
      else if areDigits Digits.isDecimal more then (fraction? negative whole rest).map .ok
      else if areDigits Digits.isDecimal rest then
        (sixtieths? whole).map fun parts =>
          sixtiethsFraction negative parts (withoutUnderscores rest)
      else none

/-- The number that a plain scalar spells, if it spells one. -/
def number? (cs : List Char) : Option (Except Fault Value) :=
  match integer? cs with
  | some n => some n
  | none => (float? cs).map fun x => x.map .float

end PropertyTyping.Yaml.Plain
