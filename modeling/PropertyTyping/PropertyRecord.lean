import PropertyTyping.Value.Misuse

/-! Property records: one row of what the database tells about one property of a node or a
relationship. -/

namespace PropertyTyping

structure PropertyRecord where
  propertyName : Option Text
  propertyTypes : Option (List (Option Text))
  mandatory : Bool
  nodeType : Option Text
  nodeLabels : List Text
  relType : Option Text
  deriving DecidableEq

namespace PropertyRecord

inductive Field where
  | propertyName
  | propertyTypes
  | mandatory
  | nodeType
  | nodeLabels
  | relType
  deriving DecidableEq

namespace Field

/-- The spelling that wins when a record has both. -/
def camelKey : Field → Text
  | propertyName => "propertyName"
  | propertyTypes => "propertyTypes"
  | mandatory => "mandatory"
  | nodeType => "nodeType"
  | nodeLabels => "nodeLabels"
  | relType => "relType"

def snakeKey : Field → Text
  | propertyName => "property_name"
  | propertyTypes => "property_types"
  | mandatory => "mandatory"
  | nodeType => "node_type"
  | nodeLabels => "node_labels"
  | relType => "rel_type"

/-- The key under which an object has the field, with its value. -/
def find? (f : Field) (fields : List (Text × Value)) : Option (Text × Value) :=
  match Value.field? f.camelKey fields with
  | some v => some (f.camelKey, v)
  | none => (Value.field? f.snakeKey fields).map (f.snakeKey, ·)

end Field

def optionalText : Option Text → Value
  | some t => .text t
  | none => .null

/-- The value of each field of a record. -/
def fieldValue (r : PropertyRecord) : Field → Value
  | .propertyName => optionalText r.propertyName
  | .propertyTypes => match r.propertyTypes with
    | some tags => .list (tags.map optionalText)
    | none => .null
  | .mandatory => .bool r.mandatory
  | .nodeType => optionalText r.nodeType
  | .nodeLabels => .list (r.nodeLabels.map .text)
  | .relType => optionalText r.relType

/-- The fields in the order in which they are declared. -/
def fields : List Field :=
  [.propertyName, .propertyTypes, .mandatory, .nodeType, .nodeLabels, .relType]

/-- The record written back as an object, with a chosen spelling of each field. -/
def toValue (r : PropertyRecord) (key : Field → Text) : Value :=
  .object (fields.map fun f => (key f, r.fieldValue f))

end PropertyRecord

end PropertyTyping
