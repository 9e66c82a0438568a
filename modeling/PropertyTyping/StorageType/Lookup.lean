import PropertyTyping.Value.Display

/-! Looking storage types up by a value that may be anything. -/

namespace PropertyTyping.StorageType

/-- Why a value leads to no storage type. -/
inductive LookupFault where
  | noConstant (v : Value)
  /-- No name, with what is there instead written out. -/
  | noName (shown : Text)
  | misuse (m : Misuse)

/-- A value that is no identifier is written out only when the message is asked for. -/
def LookupFault.message : LookupFault → Except Misuse Text
  | .noConstant v => v.describe
  | .noName shown => .ok (shown ++ " is not a valid Neo4jType")
  | .misuse m => .ok m.message

/-- The storage type that a value is the identifier of. -/
def byConstant (v : Value) : Except LookupFault StorageType :=
  match v.text?.bind ofConstant? with
  | some s => .ok s
  | none => if v.isHashable then .error (.noConstant v) else .error (.misuse (.unhashable v.kind))

/-- The storage type that a value is, or is the name of. -/
def byName (v : Value) : Except LookupFault StorageType :=
  match v.text?.bind ofName? with
  | some s => .ok s
  | none => do
    let shown ← v.describe.mapError .misuse
    .error (.noName shown)

end PropertyTyping.StorageType
