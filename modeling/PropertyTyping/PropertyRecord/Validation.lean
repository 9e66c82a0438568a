import PropertyTyping.PropertyRecord

/-! Reading a property record from a document value. All faults of a record are found, in the order
of its declared fields, and each names the place where it lies. -/

namespace PropertyTyping

/-- One step from a value to a value inside it. -/
inductive Step where
  | key (k : Text)
  | index (i : Nat)
  deriving DecidableEq

/-- What is wrong at a place. -/
inductive Complaint where
  | notObject
  | notText
  | notList
  | notBool
  /-- A value of a fitting kind that spells no truth value. -/
  | unreadableBool
  deriving DecidableEq

def Complaint.name : Complaint → String
  | .notObject => "model_type"
  | .notText => "string_type"
  | .notList => "list_type"
  | .notBool => "bool_type"
  | .unreadableBool => "bool_parsing"

structure Issue where
  complaint : Complaint
  place : List Step
  deriving DecidableEq

/-- The same issue seen from a value that holds the faulty one. -/
def Issue.within (s : Step) (i : Issue) : Issue := { i with place := s :: i.place }

/-- Either what was read, or every issue met on the way. -/
abbrev Checked (α : Type) := Except (List Issue) α

namespace Checked

variable {α β : Type}

def issue (c : Complaint) : Checked α := .error [⟨c, []⟩]

def issues : Checked α → List Issue
  | .ok _ => []
  | .error is => is

/-- A reading seen from a value that holds what was read. -/
def within (s : Step) : Checked α → Checked α
  | .ok a => .ok a
  | .error is => .error (is.map (·.within s))

/-- Two readings side by side: the issues of the first come first. -/
def apply : Checked (α → β) → Checked α → Checked β
  | .ok f, .ok a => .ok (f a)
  | f, a => .error (f.issues ++ a.issues)

def cons : Checked α → Checked (List α) → Checked (List α)
  | .ok a, .ok as => .ok (a :: as)
  | a, as => .error (a.issues ++ as.issues)

/-- Every item of a list read, the first at a given index. -/
def itemsFrom (read : Value → Checked α) (index : Nat) : List Value → Checked (List α)
  | [] => .ok []
  | v :: vs => cons ((read v).within (.index index)) (itemsFrom read (index + 1) vs)

/-- A list whose items are read one by one. -/
def list (read : Value → Checked α) : Value → Checked (List α)
  | .list items => itemsFrom read 0 items
  | _ => issue .notList

/-- A value that may be null. -/
def optional (read : Value → Checked α) : Value → Checked (Option α)
  | .null => .ok none
  | v => (read v).map some

def text (v : Value) : Checked Text :=
  match v.text? with
  | some t => .ok t
  | none => issue .notText

def trueWords : List Text := ["1", "true", "t", "yes", "y", "on"]

def falseWords : List Text := ["0", "false", "f", "no", "n", "off"]

def lowerCase : CodePoint → CodePoint
  | .scalar c => .scalar c.toLower
  | c => c

/-- A truth value spelled as a word, without regard to the case of ASCII letters. -/
def boolOfText (t : Text) : Checked Bool :=
  let word := t.map lowerCase
  if trueWords.contains word then .ok true
  else if falseWords.contains word then .ok false
  else issue .unreadableBool

/-- A truth value given as a number: one and zero are, any other of 64 bits spells none. -/
def boolOfInt (fits : Int → Bool) (n : Int) : Checked Bool :=
  if n = 0 then .ok false
  else if n = 1 then .ok true
  else if fits n then issue .unreadableBool
  else issue .notBool

def fitsWord (n : Int) : Bool := decide (-Int.pow 2 63 ≤ n) && decide (n < Int.pow 2 63)

def fitsWordInside (n : Int) : Bool := decide (-Int.pow 2 63 < n) && decide (n < Int.pow 2 63)

/-- A truth value, or a number or word that stands for one. -/
def bool : Value → Checked Bool
  | .bool b => .ok b
  | .int n => boolOfInt fitsWord n
  | .float x =>
    if x.isFinite ∧ x.toRat.den = 1 then boolOfInt fitsWordInside x.toRat.num else issue .notBool
  | .text t => boolOfText t
  | .tag s => boolOfText s.name
  | _ => issue .notBool

end Checked

namespace PropertyRecord

/-- A field of an object, which has a value of its own where the object lacks it. -/
def Field.read {α : Type} (f : Field) (read : Value → Checked α) (absent : α)
    (fields : List (Text × Value)) : Checked α :=
  match f.find? fields with
  | some (key, v) => (read v).within (.key key)
  | none => .ok absent

/-- Null stands for a property that need not be there. -/
def readMandatory : Value → Checked Bool
  | .null => .ok false
  | v => Checked.bool v

/-- Null stands for no labels. -/
def readLabels : Value → Checked (List Text)
  | .null => .ok []
  | v => Checked.list Checked.text v

/-- The record of an object's fields. Keys that name no field are passed over. -/
def ofFields (fields : List (Text × Value)) : Checked PropertyRecord :=
  let optionalText := Checked.optional Checked.text
  Checked.apply (Checked.apply (Checked.apply (Checked.apply (Checked.apply (Except.map mk
    (Field.propertyName.read optionalText none fields))
    (Field.propertyTypes.read (Checked.optional (Checked.list optionalText)) none fields))
    (Field.mandatory.read readMandatory false fields))
    (Field.nodeType.read optionalText none fields))
    (Field.nodeLabels.read readLabels [] fields))
    (Field.relType.read optionalText none fields)

/-- The record that a value describes. -/
def ofValue : Value → Checked PropertyRecord
  | .object fields => ofFields fields
  | _ => Checked.issue .notObject

end PropertyRecord

end PropertyTyping
