import PropertyTyping.Yaml.Plain.Number
import PropertyTyping.Yaml.Plain.Time

/-! The value of a plain scalar: null, a truth value, a number, a day or time, or else its text. -/

namespace PropertyTyping.Yaml.Plain

def nullWords : List String := ["", "~", "null", "Null", "NULL"]

def trueWords : List String :=
  ["yes", "Yes", "YES", "true", "True", "TRUE", "on", "On", "ON"]

def falseWords : List String :=
  ["no", "No", "NO", "false", "False", "FALSE", "off", "Off", "OFF"]

/-- As a key, it merges the entries of its value. -/
def mergeMark : Text := "<<"

/-- As a key, it is an ordinary text. -/
def defaultMark : Text := "="

/-- The value that is spelled. The two marks mean something as keys only. -/
def value (t : Text) : Except Fault Value :=
  let word := Text.toString t
  let cs := t.map CodePoint.toChar
  if nullWords.contains word then .ok .null
  else if trueWords.contains word then .ok (.bool true)
  else if falseWords.contains word then .ok (.bool false)
  else if t = mergeMark ∨ t = defaultMark then refuse .unsupported
  else match number? cs, moment? cs with
    | some n, _ => n
    | none, some m => m.map .moment
    | none, none => .ok (.text t)

end PropertyTyping.Yaml.Plain
