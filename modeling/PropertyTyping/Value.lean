import PropertyTyping.Moment
import PropertyTyping.Number.Shortest
import PropertyTyping.StorageType

/-! Document values: what a record, a tag or a payload may be before anything is known about it. -/

namespace PropertyTyping

/-- A value of a document. A storage type may stand wherever its name may; the fields of an object
are in order, each key once. -/
inductive Value where
  | null
  | bool (b : Bool)
  | int (n : Int)
  | float (x : Binary64)
  | text (t : Text)
  | tag (s : StorageType)
  | moment (m : Moment)
  | list (items : List Value)
  | object (fields : List (Text × Value))

/-- The kind of a value, for messages about a value of the wrong kind. -/
inductive Kind where
  | null
  | bool
  | int
  | float
  | text
  | tag
  | day
  | time
  | list
  | object
  deriving DecidableEq

def Kind.name : Kind → String
  | .null => "NoneType"
  | .bool => "bool"
  | .int => "int"
  | .float => "float"
  | .text => "str"
  | .tag => "Neo4jType"
  | .day => "date"
  | .time => "datetime"
  | .list => "list"
  | .object => "dict"

/-- The name of a kind with the module that it comes from, where that is not the language. -/
def Kind.fullName : Kind → String
  | .day => "datetime.date"
  | .time => "datetime.datetime"
  | k => k.name

namespace Value

def kind : Value → Kind
  | null => .null
  | bool _ => .bool
  | int _ => .int
  | float _ => .float
  | text _ => .text
  | tag _ => .tag
  | moment m => if m.clock.isNone then .day else .time
  | list _ => .list
  | object _ => .object

/-- What holds in a condition: all but null, false, zeros and whatever is empty. -/
def isTruthy : Value → Bool
  | null => false
  | bool b => b
  | int n => n != 0
  | float x => !x.isZero
  | text t => !t.isEmpty
  | tag _ => true
  | moment _ => true
  | list items => !items.isEmpty
  | object fields => !fields.isEmpty

/-- The text of a value that is one: a storage type reads as its name. -/
def text? : Value → Option Text
  | text t => some t
  | tag s => some s.name
  | _ => none

/-- The field of a key. -/
def field? (key : Text) (fields : List (Text × Value)) : Option Value :=
  (fields.find? (·.1 = key)).map (·.2)

/-- The fields with one set: an old field keeps its place, a new one comes last. -/
def setField (fields : List (Text × Value)) (key : Text) (v : Value) : List (Text × Value) :=
  if fields.any (·.1 = key) then fields.map fun f => if f.1 = key then (key, v) else f
  else fields ++ [(key, v)]

/-- An object of fields given one after another. A later field overrides an earlier one of its
key. -/
def ofFields (fields : List (Text × Value)) : Value :=
  object (fields.foldl (fun fs f => setField fs f.1 f.2) [])

end Value

end PropertyTyping
