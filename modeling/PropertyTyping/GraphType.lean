import PropertyTyping.Text

/-! The language of GraphQL types that properties receive: one of nine scalars, alone or as a list,
with or without the mark of a value that is always there. -/

namespace PropertyTyping

inductive Scalar where
  | int
  | float
  | string
  | boolean
  | date
  | dateTime
  | localTime
  | localDateTime
  | time
  deriving DecidableEq

def Scalar.name : Scalar → String
  | .int => "Int"
  | .float => "Float"
  | .string => "String"
  | .boolean => "Boolean"
  | .date => "Date"
  | .dateTime => "DateTime"
  | .localTime => "LocalTime"
  | .localDateTime => "LocalDateTime"
  | .time => "Time"

structure GraphType where
  scalar : Scalar
  isList : Bool
  isRequired : Bool
  deriving DecidableEq

namespace GraphType

/-- The type of what is not known any better. -/
def fallback : GraphType := ⟨.string, false, false⟩

/-- The same type, with the mark of a value that is always there or without it. -/
def required (t : GraphType) (mandatory : Bool) : GraphType := { t with isRequired := mandatory }

/-- The written type: brackets around a list's scalar, then the mark. -/
def render (t : GraphType) : Text :=
  let base : Text := t.scalar.name
  let listed := if t.isList then ("[" : Text) ++ base ++ "]" else base
  if t.isRequired then listed ++ "!" else listed

end GraphType

end PropertyTyping
