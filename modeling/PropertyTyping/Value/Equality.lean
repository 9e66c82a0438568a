import PropertyTyping.Value

/-! When two values count as equal. Truth values count as the numbers zero and one, numbers compare
by their exact value whatever their form, a storage type equals its name, and objects compare
without regard to the order of their fields. -/

namespace PropertyTyping

/-- What a number is compared by. -/
inductive NumberKey where
  | finite (r : Rat)
  | infinite (negative : Bool)
  deriving DecidableEq

def Binary64.key? (x : Binary64) : Option NumberKey :=
  if x.isNaN then none
  else if x.isFinite then some (.finite x.toRat)
  else some (.infinite x.isNegative)

namespace Value

/-- The number that a value counts as. What is not a number at all, in either sense, has none. -/
def number? : Value → Option NumberKey
  | bool b => some (.finite (if b then 1 else 0))
  | int n => some (.finite n)
  | float x => x.key?
  | _ => none

def isNaN : Value → Bool
  | float x => x.isNaN
  | _ => false

mutual

/-- Equality of values. A number that is none equals nothing, itself included. -/
def equals : Value → Value → Bool
  | null, null => true
  | moment m, moment n => m == n
  | list as, list bs => equalItems as bs
  | object as, object bs => as.length == bs.length && equalFields as bs
  | a, b =>
    match a.text?, b.text?, a.number?, b.number? with
    | some s, some t, _, _ => s == t
    | _, _, some m, some n => m == n
    | _, _, _, _ => false

/-- Items in pairs. Within a collection a number that is none matches another. -/
def equalItems : List Value → List Value → Bool
  | [], [] => true
  | a :: as, b :: bs => (a.isNaN && b.isNaN || equals a b) && equalItems as bs
  | _, _ => false

/-- Whether each field has a partner of its key. -/
def equalFields : List (Text × Value) → List (Text × Value) → Bool
  | [], _ => true
  | (k, a) :: as, bs =>
    (match field? k bs with
      | some b => a.isNaN && b.isNaN || equals a b
      | none => false) && equalFields as bs

end

/-- Whether a list holds a value, by equality. -/
def holds (items : List Value) (v : Value) : Bool := items.any (equals · v)

end Value

end PropertyTyping
