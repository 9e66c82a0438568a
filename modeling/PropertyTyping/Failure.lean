import PropertyTyping.File.Load
import PropertyTyping.Label
import PropertyTyping.Payload

/-! Everything that can go wrong between a path and a report, and the categories of failures by
which handlers choose what they catch. -/

namespace PropertyTyping

inductive Failure where
  | load (f : LoadFault)
  | rejected (r : Rejection)
  | label (f : Label.Fault)
  | misuse (m : Misuse)

def Failure.message : Failure → Text
  | .load f => f.message
  | .rejected r => r.message
  | .label f => f.message
  | .misuse m => m.message

/-- The categories of failures that the package declares, and those it builds on. -/
inductive Category where
  | any
  | wrongValue
  | wrongKind
  | package
  | invalidArgument
  | propertyRecord
  deriving DecidableEq

namespace Category

def all : List Category :=
  [any, package, invalidArgument, propertyRecord, wrongKind, wrongValue]

def name : Category → String
  | any => "Exception"
  | wrongValue => "ValueError"
  | wrongKind => "TypeError"
  | package => "GraphTypesException"
  | invalidArgument => "InvalidArgumentError"
  | propertyRecord => "PropertyRecordError"

/-- The categories directly above one. -/
def parents : Category → List Category
  | any => []
  | wrongValue | wrongKind | package => [any]
  | invalidArgument => [package, wrongValue]
  | propertyRecord => [package]

/-- Whether a handler for one category catches the failures of another. No category lies more than
two steps below the one of all failures. -/
def catches (handler c : Category) : Bool :=
  handler == c || c.parents.contains handler
    || c.parents.any fun p => p.parents.contains handler

/-- The handlers that catch the failures of a category, in the order of their names. -/
def handlers (c : Category) : List Category := all.filter (·.catches c)

def ofName? (t : Text) : Option Category := all.find? fun c => Text.ofString c.name = t

end Category

end PropertyTyping
