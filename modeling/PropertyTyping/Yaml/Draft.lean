import PropertyTyping.Json.Printer
import PropertyTyping.Value.Equality
import PropertyTyping.Yaml.Node
import PropertyTyping.Yaml.Plain.Value

/-! A document whose scalars have been read, each with its value or its fault. A collection is filled
only after everything that stands beside it was read, so of several faults the outermost comes
first, and of those the first in the text. -/

namespace PropertyTyping.Yaml

inductive Draft where
  | scalar (result : Except Fault Value)
  | list (items : List Draft)
  | object (entries : List (Except Fault Value × Draft))

namespace Draft

def ofScalar (t : Text) (isPlain : Bool) : Except Fault Value :=
  if isPlain then Plain.value t else .ok (.text t)

/-- The value of a node as a key, which a collection cannot be. -/
def ofKey : Node → Except Fault Value
  | .scalar t isPlain => if t = Plain.defaultMark then .ok (.text t) else ofScalar t isPlain
  | .sequence _ | .mapping _ => refuse .collectionAsKey

def isMerge : Node → Bool
  | .scalar t isPlain => isPlain && t == Plain.mergeMark
  | .sequence _ | .mapping _ => false

/-- The entries of a mapping: those merged in, then its own. -/
structure Entries where
  merged : List (Except Fault Value × Draft)
  own : List (Except Fault Value × Draft)

def Entries.all (e : Entries) : List (Except Fault Value × Draft) := e.merged ++ e.own

/-- The object of a mapping's entries. What cannot be merged is a fault among them. -/
def ofEntries : Except Fault Entries → Draft
  | .ok e => .object e.all
  | .error f => .object [(.error f, .list [])]

mutual

def ofNode : Node → Draft
  | .scalar t isPlain => .scalar (ofScalar t isPlain)
  | .sequence items => .list (ofNodes items)
  | .mapping entries => ofEntries (entriesOf entries)

def ofNodes : List Node → List Draft
  | [] => []
  | node :: nodes => ofNode node :: ofNodes nodes

def entriesOf : List (Node × Node) → Except Fault Entries
  | [] => .ok ⟨[], []⟩
  | (k, v) :: entries =>
    if isMerge k then do
      let more ← mergedFrom v
      let e ← entriesOf entries
      return { e with merged := more ++ e.merged }
    else do
      let e ← entriesOf entries
      return { e with own := (ofKey k, ofNode v) :: e.own }

/-- The entries that a mapping, or a sequence of mappings, gives to another. -/
def mergedFrom : Node → Except Fault (List (Except Fault Value × Draft))
  | .scalar _ _ => refuse .unsupported
  | .sequence items => mergedFromAll items
  | .mapping entries => do return (← entriesOf entries).all

/-- The entries of mappings, those of the last one first. -/
def mergedFromAll : List Node → Except Fault (List (Except Fault Value × Draft))
  | [] => .ok []
  | .mapping entries :: nodes => do
    let e ← entriesOf entries
    return (← mergedFromAll nodes) ++ e.all
  | _ :: _ => refuse .unsupported

end

/-- The faults on two sides, level by level. -/
def beside : List (List Fault) → List (List Fault) → List (List Fault)
  | [], bs => bs
  | as, [] => as
  | a :: as, b :: bs => (a ++ b) :: beside as bs

def faultsOf : Except Fault Value → List (List Fault)
  | .ok _ => []
  | .error f => [[f]]

mutual

/-- The faults of a draft by their depth. -/
def faults : Draft → List (List Fault)
  | .scalar r => faultsOf r
  | .list items => [] :: faultsOfItems items
  | .object entries => [] :: faultsOfEntries entries

def faultsOfItems : List Draft → List (List Fault)
  | [] => []
  | d :: ds => beside (faults d) (faultsOfItems ds)

def faultsOfEntries : List (Except Fault Value × Draft) → List (List Fault)
  | [] => []
  | (k, d) :: entries => beside (faultsOf k) (beside (faults d) (faultsOfEntries entries))

end

/-- The text that a key has in an object. -/
def keyText : Value → Text
  | .null => "null"
  | .bool b => if b then "true" else "false"
  | .int n => Text.ofInt n
  | .float x => Text.ofChars (Json.renderFloat x)
  | .text t => t
  | .tag s => s.name
  | .moment m => m.toText
  | .list _ | .object _ => []

/-- Whether two keys are one. -/
def isSameKey (a b : Value) : Bool := a.isNaN && b.isNaN || a.equals b

/-- Entries with one set. The key and the place of an equal one stay. -/
def setEntry (entries : List (Value × Value)) (key v : Value) : List (Value × Value) :=
  if entries.any (isSameKey ·.1 key) then
    entries.map fun e => if isSameKey e.1 key then (e.1, v) else e
  else entries ++ [(key, v)]

/-- The object of entries, a later one overriding an earlier one of an equal key. -/
def objectOf (entries : List (Value × Value)) : Value :=
  Value.ofFields ((entries.foldl (fun es e => setEntry es e.1 e.2) []).map fun e =>
    (keyText e.1, e.2))

mutual

/-- The value of a draft without faults. -/
def value : Draft → Except Fault Value
  | .scalar r => r
  | .list items => do return .list (← values items)
  | .object entries => do return objectOf (← fields entries)

def values : List Draft → Except Fault (List Value)
  | [] => .ok []
  | d :: ds => do return (← value d) :: (← values ds)

def fields : List (Except Fault Value × Draft) → Except Fault (List (Value × Value))
  | [] => .ok []
  | (k, d) :: entries => do return (← k, ← value d) :: (← fields entries)

end

/-- The value of a draft, or its first fault of the least depth. -/
def result (d : Draft) : Except Fault Value :=
  match d.faults.flatten with
  | f :: _ => .error f
  | [] => d.value

end Draft

/-- The value of a document; a text without one is null. -/
def parse (s : Source) : Except Fault Value := do
  match ← Node.ofTokens? (Token.scan s) with
  | some node => (Draft.ofNode node).result
  | none => return .null

end PropertyTyping.Yaml
