import PropertyTyping.PropertyRecord.Typing
import PropertyTyping.Traced

/-! Reports: the types chosen for all the records of a payload, in order. -/

namespace PropertyTyping

/-- One property of the report: the type that owns it, its name, and its type. -/
structure ReportEntry where
  typeName : Option Text
  propertyName : Option Text
  graphType : GraphType
  deriving DecidableEq

structure Report where
  entries : List ReportEntry
  deriving DecidableEq

def ReportEntry.toValue (e : ReportEntry) : Value :=
  .object [("typeName", PropertyRecord.optionalText e.typeName),
    ("propertyName", PropertyRecord.optionalText e.propertyName),
    ("graphqlType", .text e.graphType.render)]

/-- The document that is printed for a report. -/
def Report.toValue (r : Report) : Value :=
  .object [("status", .text "success"), ("count", .int r.entries.length),
    ("properties", .list (r.entries.map ReportEntry.toValue))]

namespace Report

def logger : Text := Log.package ++ ".cli"

/-- The entry of one record. The owner is named before the type is chosen. -/
def entry (r : PropertyRecord) : Traced ReportEntry := do
  let owner ← Traced.ofExcept (r.ownerName.mapError .label)
  let resolution ← Traced.ofExcept ((Resolution.ofRecord r).mapError .misuse)
  match resolution.event? with
  | some event => Traced.log event
  | none => pure ()
  return ⟨owner, r.propertyName, resolution.type⟩

def entriesOf : List PropertyRecord → Traced (List ReportEntry)
  | [] => .pure []
  | r :: rs => do
    let e ← entry r
    let es ← entriesOf rs
    return e :: es

def resolved (count : Nat) : Log.Event where
  level := .info
  logger := logger
  message := ("Resolved " : Text) ++ Text.ofNat count ++ " property types"

/-- The report on a payload. -/
def ofPayload (payload : Value) : Traced Report := do
  let records ← Traced.ofExcept ((Payload.records payload).mapError fun f => .rejected f.rejection)
  let es ← entriesOf records
  Traced.log (resolved es.length)
  return ⟨es⟩

def loaded (path : Text) : Log.Event where
  level := .info
  logger := logger
  message := ("Loaded property records from " : Text) ++ path

def failed (f : Failure) : Log.Event where
  level := .error
  logger := logger
  message := ("Type resolution failed: " : Text) ++ f.message

/-- A piece of work with its failure logged. -/
def reportingFailure {α : Type} (t : Traced α) : Traced α :=
  match t.answer with
  | .ok _ => t
  | .error f => { t with events := t.events ++ [failed f] }

/-- The report on the payload in a file. -/
def ofFile (s : FileSource) (path : Text) : Traced Report :=
  reportingFailure do
    let payload ← Traced.ofExcept ((s.load path).mapError .load)
    Traced.log (loaded path)
    ofPayload payload

end Report

end PropertyTyping
