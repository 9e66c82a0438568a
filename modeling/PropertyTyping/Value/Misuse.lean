import PropertyTyping.Number.Digits
import PropertyTyping.Value

/-! What can be asked of a value only if it is a fitting one, and the faults of asking it of
another. -/

namespace PropertyTyping

inductive Misuse where
  /-- Going through the members of a value that has none. -/
  | notIterable (k : Kind)
  /-- Asking for a key in a value that holds nothing. -/
  | notContainer (k : Kind)
  /-- Fetching a field from a value that has no fields. -/
  | noFields (k : Kind)
  /-- Indexing a list by a key. -/
  | listKey
  /-- Indexing a text by a key. -/
  | textKey
  /-- Using a collection where equality must stay fixed. -/
  | unhashable (k : Kind)
  /-- Rewriting a value that is not a text. -/
  | notText (k : Kind)
  /-- Joining a member that is not a text. -/
  | memberNotText (position : Nat) (k : Kind)
  /-- Capitalising a value that is not a text. -/
  | noCapitals (k : Kind)
  /-- Writing out an integer of too many digits. -/
  | longInteger
  deriving DecidableEq

namespace Misuse

def kindMark (k : Kind) : Text := ("'" : Text) ++ k.fullName ++ "'"

def message : Misuse → Text
  | notIterable k => kindMark k ++ " object is not iterable"
  | notContainer k => ("argument of type " : Text) ++ kindMark k ++ " is not iterable"
  | noFields k => kindMark k ++ " object has no attribute 'get'"
  | listKey => "list indices must be integers or slices, not str"
  | textKey => "string indices must be integers, not 'str'"
  | unhashable k => ("unhashable type: " : Text) ++ kindMark k
  | notText k => ("expected string or bytes-like object, got " : Text) ++ kindMark k
  | memberNotText i k =>
    ("sequence item " : Text) ++ Text.ofNat i ++ ": expected str instance, " ++ k.fullName
      ++ " found"
  | noCapitals k => kindMark k ++ " object has no attribute 'upper'"
  | longInteger => Digits.unwritableMessage

end Misuse

namespace Value

/-- The members of a value in order: a text has its code points and an object its keys. -/
def members : Value → Except Misuse (List Value)
  | list items => .ok items
  | object fields => .ok (fields.map fun f => text f.1)
  | v => match v.text? with
    | some t => .ok (t.map fun c => text [c])
    | none => .error (.notIterable v.kind)

/-- Whether a value can stand in a set: anything but a collection. -/
def isHashable : Value → Bool
  | list _ | object _ => false
  | _ => true

/-- The fault of the first collection among values that go into a set. -/
def checkHashable (vs : List Value) : Except Misuse Unit :=
  match vs.find? (!·.isHashable) with
  | some v => .error (.unhashable v.kind)
  | none => .ok ()

end Value

end PropertyTyping
