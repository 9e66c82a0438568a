import PropertyTyping.GraphType

/-! The closed set of types under which the database stores a property: eleven primitives, each
alone or in arrays. -/

namespace PropertyTyping

inductive Primitive where
  | long
  | integer
  | float
  | double
  | string
  | boolean
  | date
  | dateTime
  | localTime
  | localDateTime
  | time
  deriving DecidableEq

namespace Primitive

def all : List Primitive :=
  [long, integer, float, double, string, boolean, date, dateTime, localTime, localDateTime, time]

theorem mem_all (p : Primitive) : p ∈ all := by
  cases p <;> simp [all]

def name : Primitive → String
  | long => "Long"
  | integer => "Integer"
  | float => "Float"
  | double => "Double"
  | string => "String"
  | boolean => "Boolean"
  | date => "Date"
  | dateTime => "DateTime"
  | localTime => "LocalTime"
  | localDateTime => "LocalDateTime"
  | time => "Time"

/-- The identifier of a primitive in listings. -/
def constant : Primitive → String
  | long => "LONG"
  | integer => "INTEGER"
  | float => "FLOAT"
  | double => "DOUBLE"
  | string => "STRING"
  | boolean => "BOOLEAN"
  | date => "DATE"
  | dateTime => "DATE_TIME"
  | localTime => "LOCAL_TIME"
  | localDateTime => "LOCAL_DATE_TIME"
  | time => "TIME"

/-- Both widths of integers are one scalar, and so are both widths of fractions. -/
def scalar : Primitive → Scalar
  | long | integer => .int
  | float | double => .float
  | string => .string
  | boolean => .boolean
  | date => .date
  | dateTime => .dateTime
  | localTime => .localTime
  | localDateTime => .localDateTime
  | time => .time

end Primitive

structure StorageType where
  primitive : Primitive
  isArray : Bool
  deriving DecidableEq

namespace StorageType

/-- The scalars in order, then their arrays in the same order. -/
def all : List StorageType :=
  Primitive.all.map (⟨·, false⟩) ++ Primitive.all.map (⟨·, true⟩)

theorem mem_all (s : StorageType) : s ∈ all := by
  rcases s with ⟨p, _ | _⟩ <;> simp [all, Primitive.mem_all]

/-- The name under which the database reports the type. -/
def name (s : StorageType) : Text :=
  if s.isArray then (s.primitive.name : Text) ++ "Array" else s.primitive.name

/-- The identifier of the type in listings. -/
def constant (s : StorageType) : Text :=
  if s.isArray then (s.primitive.constant : Text) ++ "_ARRAY" else s.primitive.constant

def graphType (s : StorageType) : GraphType := ⟨s.primitive.scalar, s.isArray, false⟩

def ofName? (t : Text) : Option StorageType := all.find? (·.name = t)

def ofConstant? (t : Text) : Option StorageType := all.find? (·.constant = t)

/-- The database name of the type that absorbs every other. -/
def stringName : Text := "String"

end StorageType

end PropertyTyping
