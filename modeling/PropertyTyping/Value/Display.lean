import PropertyTyping.Text.Quoted
import PropertyTyping.Value.Misuse

/-! Values as they are shown in messages. An integer of too many digits cannot be written, and so
neither can what holds one. -/

namespace PropertyTyping.Value

/-- A storage type by its identifier and its name. -/
def describeTag (s : StorageType) : Text :=
  ("<Neo4jType." : Text) ++ s.constant ++ ": " ++ s.name.quoted ++ ">"

def describeInt (n : Int) : Except Misuse Text :=
  if Digits.fits n then .ok (Text.ofInt n) else .error .longInteger

mutual

/-- A value written out: texts in quotation marks, lists in brackets, objects in braces. -/
def describe : Value → Except Misuse Text
  | null => .ok "None"
  | bool b => .ok (if b then "True" else "False")
  | int n => describeInt n
  | float x => .ok x.toText
  | text t => .ok t.quoted
  | tag s => .ok (describeTag s)
  | moment m => .ok m.describe
  | list items => do return ("[" : Text) ++ Text.join ", " (← describeItems items) ++ "]"
  | object fields => do
    return ("\x7b" : Text) ++ Text.join ", " (← describeFields fields) ++ "\x7d"

def describeItems : List Value → Except Misuse (List Text)
  | [] => .ok []
  | v :: vs => do return (← describe v) :: (← describeItems vs)

def describeFields : List (Text × Value) → Except Misuse (List Text)
  | [] => .ok []
  | (k, v) :: fields => do
    return (k.quoted ++ ": " ++ (← describe v)) :: (← describeFields fields)

end

/-- A value within a sentence: a text or a moment as it is, anything else written out. -/
def shown : Value → Except Misuse Text
  | text t => .ok t
  | tag s => .ok (("Neo4jType." : Text) ++ s.constant)
  | moment m => .ok m.toText
  | v => describe v

end PropertyTyping.Value
