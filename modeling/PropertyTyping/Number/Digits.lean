import PropertyTyping.Text

/-! Numbers as they are spelled: digits of a base, with a sign in front. Integers beyond a number of
digits are refused. -/

namespace PropertyTyping.Digits

def isDecimal (c : Char) : Bool := decide ('0' ≤ c) && decide (c ≤ '9')

/-- The number that a hexadecimal digit stands for. -/
def hex? (c : Char) : Option Nat :=
  if '0' ≤ c ∧ c ≤ '9' then some (c.toNat - '0'.toNat)
  else if 'a' ≤ c ∧ c ≤ 'f' then some (c.toNat - 'a'.toNat + 10)
  else if 'A' ≤ c ∧ c ≤ 'F' then some (c.toNat - 'A'.toNat + 10)
  else none

/-- The number that hexadecimal digits spell. -/
def hexNumber? (ds : List Char) : Option Nat :=
  ds.foldlM (fun n d => (hex? d).map (16 * n + ·)) 0

/-- The number that digits of a base up to sixteen spell. -/
def number (base : Nat) (ds : List Char) : Nat :=
  ds.foldl (fun n d => base * n + (hex? d).getD 0) 0

/-- The number that decimal digits spell. -/
def decimal (ds : List Char) : Nat := number 10 ds

def isSign (c : Char) : Bool := c == '-' || c == '+'

/-- A sign in front, negative or not, and what follows it. -/
def signPart : List Char → Bool × List Char
  | '-' :: rest => (true, rest)
  | '+' :: rest => (false, rest)
  | cs => (false, cs)

/-- A number in its sign. -/
def signed (negative : Bool) (n : Nat) : Int := if negative then -n else n

/-- The most decimal digits that an integer may have. -/
def limit : Nat := 4300

/-- Whether an integer has no more digits than it may have. -/
def fits (n : Int) : Bool := decide (n.natAbs < Nat.pow 10 limit)

def unwritableMessage : Text :=
  ("Exceeds the limit (" : Text) ++ Text.ofNat limit
    ++ " digits) for integer string conversion; use sys.set_int_max_str_digits() to increase the "
    ++ "limit"

def tooManyMessage (digits : Nat) : Text :=
  ("Exceeds the limit (" : Text) ++ Text.ofNat limit
    ++ " digits) for integer string conversion: value has " ++ Text.ofNat digits
    ++ " digits; use sys.set_int_max_str_digits() to increase the limit"

end PropertyTyping.Digits
