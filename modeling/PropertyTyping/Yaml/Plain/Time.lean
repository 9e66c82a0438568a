import PropertyTyping.Yaml.Fault
import PropertyTyping.Yaml.Place

/-! The days and times that plain scalars spell. A day alone has all its digits; before a time, a
month and a day may have one. Each reader returns what it read and the characters left over. -/

namespace PropertyTyping.Yaml.Plain

/-- A number of at least and at most so many digits. -/
def count? (fewest most : Nat) (cs : List Char) : Option (Nat × List Char) :=
  let ds := (cs.take most).takeWhile Digits.isDecimal
  if ds.length < fewest then none else some (Digits.decimal ds, cs.drop ds.length)

/-- What follows a given character. -/
def after? (c : Char) : List Char → Option (List Char)
  | d :: rest => if d = c then some rest else none
  | [] => none

/-- A number of at least and at most so many digits after a given character. -/
def countAfter? (c : Char) (fewest most : Nat) (cs : List Char) : Option (Nat × List Char) :=
  (after? c cs).bind (count? fewest most)

/-- A day, its month and itself of at least so many digits. -/
def day? (fewest : Nat) (cs : List Char) : Option (Moment × List Char) := do
  let (year, cs) ← count? 4 4 cs
  let (month, cs) ← countAfter? '-' fewest 2 cs
  let (day, cs) ← countAfter? '-' fewest 2 cs
  return (⟨year, month, day, none⟩, cs)

/-- What follows the letter or the blanks before a time. -/
def afterDay? : List Char → Option (List Char)
  | c :: rest =>
    if c = 'T' ∨ c = 't' then some rest
    else if isBlank c then some (rest.dropWhile isBlank)
    else none
  | [] => none

/-- The millionths of a second after a point. Further digits do not count. -/
def microseconds : List Char → Nat × List Char
  | '.' :: cs =>
    let ds := cs.takeWhile Digits.isDecimal
    (Digits.decimal ((ds ++ List.replicate 6 '0').take 6), cs.drop ds.length)
  | cs => (0, cs)

/-- The minutes from universal time, up to the end. -/
def offset? (cs : List Char) : Option (Option Int) :=
  match cs, cs.dropWhile isBlank with
  | [], _ => some none
  | _, ['Z'] => some (some 0)
  | _, s :: cs =>
    if Digits.isSign s then do
      let (hours, cs) ← count? 1 2 cs
      let (minutes, cs) ← if cs.isEmpty then some (0, []) else countAfter? ':' 2 2 cs
      if cs.isEmpty then some (some (Digits.signed (s == '-') (60 * hours + minutes))) else none
    else none
  | _, [] => none

def clock? (cs : List Char) : Option Clock := do
  let (hour, cs) ← count? 1 2 cs
  let (minute, cs) ← countAfter? ':' 2 2 cs
  let (second, cs) ← countAfter? ':' 2 2 cs
  let (microsecond, cs) := microseconds cs
  return ⟨hour, minute, second, microsecond, ← offset? cs⟩

/-- The day or time that a plain scalar spells, if it spells one, whether or not there is such a
day or time. -/
def spelledMoment? (cs : List Char) : Option Moment :=
  match day? 2 cs with
  | some (day, []) => some day
  | _ => do
    let (day, cs) ← day? 1 cs
    return { day with clock := some (← clock? (← afterDay? cs)) }

def moment? (cs : List Char) : Option (Except Fault Moment) :=
  (spelledMoment? cs).map fun m => m.check.mapError .moment

end PropertyTyping.Yaml.Plain
