import PropertyTyping.Value.Display

/-! Names of GraphQL types from the labels of nodes and relationships. Blanks and colons become
underscores and nothing else is touched; several labels are joined by underscores first. -/

namespace PropertyTyping.Label

def underscore : CodePoint := .scalar '_'

/-- What separates the words of a label. -/
def isSeparator (c : CodePoint) : Bool := decide (c = .scalar ' ') || decide (c = .scalar ':')

def typeName (label : Text) : Text := label.replaceEach isSeparator underscore

def typeNameOfAll (labels : List Text) : Text := typeName (Text.join [underscore] labels)

/-- Why labels name no type. -/
inductive Fault where
  | noLabel
  | noLabels
  /-- Null among labels, which are written out. -/
  | nullAmong (labels : Text)
  | misuse (m : Misuse)

def Fault.message : Fault → Text
  | .noLabel => "Cannot convert nil label to GraphQL type"
  | .noLabels => "Cannot convert empty label set to GraphQL type"
  | .nullAmong labels => ("Label set contains a nil label: " : Text) ++ labels
  | .misuse m => m.message

/-- The type name of a label that may be any value. -/
def ofValue : Value → Except Fault Text
  | .null => .error .noLabel
  | v => match v.text? with
    | some t => .ok (typeName t)
    | none => .error (.misuse (.notText v.kind))

/-- The texts of some members, the first of them at a given position. -/
def textsFrom (position : Nat) : List Value → Except Misuse (List Text)
  | [] => .ok []
  | v :: vs => do
    match v.text? with
    | some t => return t :: (← textsFrom (position + 1) vs)
    | none => .error (.memberNotText position v.kind)

def isNull : Value → Bool
  | .null => true
  | _ => false

/-- The type name of the labels that are the members of a value. -/
def ofValues (labels : Value) : Except Fault Text :=
  if !labels.isTruthy then .error .noLabels
  else do
    let members ← labels.members.mapError .misuse
    if members.any isNull then
      let labels ← (Value.list members).describe.mapError .misuse
      .error (.nullAmong labels)
    else
      let texts ← (textsFrom 0 members).mapError .misuse
      return typeNameOfAll texts

/-- The text of a type as the query language writes it, such as two labels in backquotes after
colons, without the backquotes and without the colons in front. -/
def ofCypher (t : Text) : Text :=
  (t.filter (· ≠ .scalar '\x60')).dropWhile (· = .scalar ':')

end PropertyTyping.Label
