import PropertyTyping.PropertyRecord.Validation
import PropertyTyping.Value.Display

/-! Payloads: whole documents of property records, either a list of them or an object that has such
a list under one key. -/

namespace PropertyTyping

/-- Why a payload is refused: a reason, details where there are any, and the message of both. -/
structure Rejection where
  reason : Value
  details : Value
  message : Text

namespace Rejection

/-- Details that say nothing are an empty object. The message is put together at once, so parts
that cannot be written make no refusal. -/
def ofParts (reason details : Value) : Except Misuse Rejection := do
  let shown ← reason.shown
  if details.isTruthy then return ⟨reason, details, shown ++ " - " ++ (← details.shown)⟩
  else return ⟨reason, .object [], shown⟩

def unexpectedReason : Text :=
  "Expected a list of property records or an object with a 'properties' key"

/-- The refusal of a value that is no payload at all. -/
def unexpected (k : Kind) : Rejection where
  reason := .text unexpectedReason
  details := .object [("type", .text k.name)]
  message := unexpectedReason ++ " - \x7b'type': " ++ Text.quoted k.name ++ "\x7d"

def invalidReason : Text := "Invalid property records"

/-- The refusal of a payload with a number of issues. -/
def invalid (issues : Nat) : Rejection where
  reason := .text invalidReason
  details := .object [("errors", .int issues)]
  message := invalidReason ++ " - \x7b'errors': " ++ Text.ofNat issues ++ "\x7d"

end Rejection

namespace Payload

def recordsKey : Text := "properties"

inductive Fault where
  | unexpected (k : Kind)
  | invalid (issues : List Issue)

/-- The records of the value under the key of a payload. -/
def readRecords (v : Value) : Except Fault (List PropertyRecord) :=
  ((Checked.list PropertyRecord.ofValue v).within (.key recordsKey)).mapError .invalid

/-- The records of a payload. -/
def records : Value → Except Fault (List PropertyRecord)
  | .list items => readRecords (.list items)
  | .object fields => match Value.field? recordsKey fields with
    | some v => readRecords v
    | none => .error (.unexpected .object)
  | v => .error (.unexpected v.kind)

/-- How a fault is reported once the issues need not be told apart. -/
def Fault.rejection : Fault → Rejection
  | .unexpected k => .unexpected k
  | .invalid issues => .invalid issues.length

end Payload

end PropertyTyping
