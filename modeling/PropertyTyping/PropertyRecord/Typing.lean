import PropertyTyping.Label
import PropertyTyping.PropertyRecord
import PropertyTyping.Resolution

/-! What a property record says in GraphQL terms: the name of the type that owns the property, and
the type of the property itself. The type can also be chosen from a record that was not read yet. -/

namespace PropertyTyping

namespace PropertyRecord

/-- The type name of a non-empty text in the query language's spelling. -/
def cypherName? : Option Text → Option Text
  | some t => if t.isEmpty then none else some (Label.typeName (Label.ofCypher t))
  | none => none

/-- The type that owns the property: named by the labels of a node, else by the relationship, else
by the node's type text. -/
def ownerName (r : PropertyRecord) : Except Label.Fault (Option Text) :=
  if r.nodeLabels.isEmpty then .ok ((cypherName? r.relType).orElse fun _ => cypherName? r.nodeType)
  else (Label.ofValues (.list (r.nodeLabels.map .text))).map some

end PropertyRecord

namespace Resolution

/-- The type of the property that a record is about. -/
def ofRecord (r : PropertyRecord) : Except Misuse Resolution :=
  ofObserved (r.fieldValue .propertyTypes) r.mandatory

/-- A field fetched from a value that should be an object. -/
def rawField (f : PropertyRecord.Field) : Value → Except Misuse Value
  | .object fields => .ok (((f.find? fields).map (·.2)).getD .null)
  | .list items => .error (if Value.holds items (.text f.camelKey) then .listKey else .noFields .list)
  | v => match v.text? with
    | some t => .error (if t.hasPart f.camelKey then .textKey else .noFields v.kind)
    | none => .error (.notContainer v.kind)

/-- The type of the property that a value describes, the value being taken as it is. Anything that
holds in a condition makes the property mandatory. -/
def ofRaw : Value → Except Misuse Resolution
  | .null => ofObserved .null false
  | v => do
    let observed ← rawField .propertyTypes v
    let mandatory ← rawField .mandatory v
    ofObserved observed mandatory.isTruthy

end Resolution

end PropertyTyping
