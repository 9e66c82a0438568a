import PropertyTyping.Value.Equality
import PropertyTyping.Value.Misuse

/-! Tags: the reports of the storage types under which a property was seen. A tag should name a
storage type, but may be anything. Two tags unify to the broader of them: an absent tag gives way
to any other, the string type absorbs every other, an integer is also a long and also a float, and
tags of any other two kinds have only the string type above them. -/

namespace PropertyTyping.Tag

/-- The storage type that a tag names. -/
def storageType? : Value → Option StorageType
  | .tag s => some s
  | .text t => StorageType.ofName? t
  | _ => none

def isArray (tag : Value) : Bool :=
  match storageType? tag with
  | some s => s.isArray
  | none => false

/-- The GraphQL type of one tag; a tag that names no storage type gets the fallback. -/
def graphType (tag : Value) : GraphType :=
  match storageType? tag with
  | some s => s.graphType
  | none => .fallback

/-- A tag as it is compared: a storage type by its name, anything else by itself. -/
def plain : Value → Value
  | .tag s => .text s.name
  | v => v

/-- Tags that report nothing are null and the empty text. -/
def isPresent : Value → Bool
  | .null => false
  | .text t => !t.isEmpty
  | _ => true

def string : Value := .text StorageType.stringName

/-- The pairs that have a broader type of their own, which is the second of the three. -/
def widenings : List (Primitive × Primitive × Primitive) :=
  [(.integer, .long, .long), (.integer, .float, .float)]

/-- The value that is compared for a primitive. -/
def ofPrimitive (p : Primitive) : Value := .text p.name

/-- The broader type of a pair that has one, whichever of the two comes first. -/
def widen? (a b : Value) : Option Value :=
  (widenings.find? fun (p, q, _) =>
    a.equals (ofPrimitive p) && b.equals (ofPrimitive q)
      || a.equals (ofPrimitive q) && b.equals (ofPrimitive p)).map fun (_, _, w) => ofPrimitive w

/-- The broader of two tags. Unequal tags are looked up as a set, so neither may be a collection,
unless the other is the string type. -/
def unify (a b : Value) : Except Misuse Value :=
  match plain a, plain b with
  | .null, b => .ok b
  | a, .null => .ok a
  | a, b =>
    if a.equals b then .ok a
    else if a.equals string || b.equals string then .ok string
    else do
      Value.checkHashable [a, b]
      return (widen? a b).getD string

/-- The broadest of several tags, from the left. -/
def unifyAll (tags : List Value) : Except Misuse Value := tags.foldlM unify .null

/-- What the unification from the left has reached after each tag. A tag that does not unify leaves
it where it was. -/
def unifySteps (reached : Value) : List Value → List (Except Misuse Value)
  | [] => []
  | tag :: tags =>
    let step := unify reached tag
    step :: unifySteps (step.toOption.getD reached) tags

end PropertyTyping.Tag
