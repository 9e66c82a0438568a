import PropertyTyping.Proofs.TypeChoice
import PropertyTyping.Report

/-! What a report on a payload consists of and what is logged on the way. Once the records of a
payload are read nothing can fail, and each record adds one entry and at most one event. -/

namespace PropertyTyping

namespace Traced

variable {α β : Type}

theorem bind_ok {t : Traced α} {a : α} (h : t.answer = .ok a) (next : α → Traced β) :
    t >>= next = ⟨t.events ++ (next a).events, (next a).answer⟩ := by
  change t.bind next = _
  rw [bind, h]

end Traced

namespace Label

theorem textsFrom_texts (position : Nat) (ts : List Text) :
    textsFrom position (ts.map .text) = .ok ts := by
  induction ts generalizing position with
  | nil => rfl
  | cons t ts ih =>
      rw [List.map_cons, textsFrom]
      simp only [Value.text?]
      rw [ih]
      rfl

/-- Labels that are texts name a type as soon as there is one of them. -/
theorem ofValues_texts {ts : List Text} (h : ts ≠ []) :
    ofValues (.list (ts.map .text)) = .ok (typeNameOfAll ts) := by
  have htruthy : (Value.list (ts.map .text)).isTruthy = true := by
    cases ts with
    | nil => exact absurd rfl h
    | cons t ts => rfl
  have hnull : (ts.map Value.text).any isNull = false := by
    rw [List.any_eq_false]
    intro v hv
    obtain ⟨t, _, rfl⟩ := List.mem_map.mp hv
    exact Bool.false_ne_true
  rw [ofValues, htruthy]
  change (if (ts.map Value.text).any isNull = true then _ else _) = _
  rw [hnull, textsFrom_texts]
  rfl

end Label

namespace Tag

/-- What the tag of a record tells. -/
def Finding.ofText : Option Text → Finding
  | none => nothing
  | some t => named t

theorem Finding.value_ofText (t : Option Text) :
    (ofText t).value = PropertyRecord.optionalText t := by
  cases t <;> rfl

end Tag

namespace PropertyRecord

/-- The type that owns the property. -/
def owner (r : PropertyRecord) : Option Text :=
  if r.nodeLabels.isEmpty then (cypherName? r.relType).orElse fun _ => cypherName? r.nodeType
  else some (Label.typeNameOfAll r.nodeLabels)

theorem ownerName_eq (r : PropertyRecord) : r.ownerName = .ok r.owner := by
  unfold ownerName owner
  split
  · rfl
  · rename_i h
    have hne : r.nodeLabels ≠ [] := fun he => h (List.isEmpty_iff.mpr he)
    rw [Label.ofValues_texts hne]
    rfl

/-- The tags of a record. A record without them is like one with none. -/
def observations (r : PropertyRecord) : List Tag.Observation :=
  (r.propertyTypes.getD []).map fun t => .plain (.ofText t)

/-- What is logged when the type of the property is chosen. -/
def event? (r : PropertyRecord) : Option Log.Event :=
  if r.observations.length < 2 then none else some (Resolution.eventOf r.observations)

def resolution (r : PropertyRecord) : Resolution :=
  ⟨(Tag.graphType (Tag.broadestOf (Tag.seen r.observations)).value).required r.mandatory, r.event?⟩

theorem ofRecord_eq (r : PropertyRecord) : Resolution.ofRecord r = .ok r.resolution := by
  have htags : Resolution.ofRecord r =
      Resolution.ofTags (r.observations.map Tag.Observation.value) r.mandatory := by
    rw [observations, Resolution.ofRecord, fieldValue, List.map_map]
    cases r.propertyTypes with
    | none => rfl
    | some tags =>
        have hmap : tags.map optionalText =
            tags.map (Tag.Observation.value ∘ fun t => .plain (.ofText t)) := by
          refine congrArg (List.map · tags) ?_
          funext t
          exact (Tag.Finding.value_ofText t).symm
        simp only [Option.getD_some, hmap]
        rfl
  rw [htags, Resolution.ofTags_observed]
  rfl

/-- The entry of a record in a report. -/
def entry (r : PropertyRecord) : ReportEntry := ⟨r.owner, r.propertyName, r.resolution.type⟩

end PropertyRecord

namespace Report

theorem entry_eq (r : PropertyRecord) : entry r = ⟨r.event?.toList, .ok r.entry⟩ := by
  unfold entry
  rw [r.ownerName_eq, PropertyRecord.ofRecord_eq, Traced.bind_ok rfl, Traced.bind_ok rfl]
  cases h : r.event? <;> simp only [PropertyRecord.resolution, h] <;> rfl

/-- The entries of records and the events of choosing their types, one record after another. -/
theorem entriesOf_eq (rs : List PropertyRecord) :
    entriesOf rs = ⟨rs.filterMap PropertyRecord.event?, .ok (rs.map PropertyRecord.entry)⟩ := by
  induction rs with
  | nil => rfl
  | cons r rs ih =>
      rw [entriesOf, entry_eq, ih, Traced.bind_ok rfl, Traced.bind_ok rfl, List.filterMap_cons]
      have hnil : rs.filterMap PropertyRecord.event? ++ [] = rs.filterMap PropertyRecord.event? :=
        List.append_nil _
      cases r.event? with
      | none => exact congrArg (Traced.mk · _) hnil
      | some event => exact congrArg (fun es => Traced.mk (event :: es) _) hnil

/-- The report on records. -/
def ofRecords (rs : List PropertyRecord) : Report := ⟨rs.map PropertyRecord.entry⟩

/-- A payload is reported as soon as its records are read. -/
theorem ofPayload_eq {payload : Value} {rs : List PropertyRecord}
    (h : Payload.records payload = .ok rs) :
    ofPayload payload =
      ⟨rs.filterMap PropertyRecord.event? ++ [resolved rs.length], .ok (ofRecords rs)⟩ := by
  unfold ofPayload
  rw [h, Traced.bind_ok rfl, entriesOf_eq, Traced.bind_ok rfl, Traced.bind_ok rfl]
  have hlen : (rs.map PropertyRecord.entry).length = rs.length := List.length_map _
  simp only [hlen]
  rfl

theorem ofPayload_rejected {payload : Value} {f : Payload.Fault}
    (h : Payload.records payload = .error f) :
    ofPayload payload = ⟨[], .error (.rejected f.rejection)⟩ := by
  unfold ofPayload
  rw [h]
  rfl

/-- What is logged when a file of records is reported. -/
def events (path : Text) (rs : List PropertyRecord) : List Log.Event :=
  loaded path :: (rs.filterMap PropertyRecord.event? ++ [resolved rs.length])

/-- A report on a file fails when the file is not loaded or when its payload is rejected, and both
failures are logged. -/
theorem ofFile_eq (s : FileSource) (path : Text) :
    ofFile s path = match s.load path with
      | .error f => ⟨[failed (.load f)], .error (.load f)⟩
      | .ok payload => match Payload.records payload with
        | .error f =>
          ⟨[loaded path, failed (.rejected f.rejection)], .error (.rejected f.rejection)⟩
        | .ok rs => ⟨events path rs, .ok (ofRecords rs)⟩ := by
  unfold ofFile
  cases s.load path with
  | error f => rfl
  | ok payload =>
      rw [Traced.bind_ok rfl, Traced.bind_ok rfl]
      cases h : Payload.records payload with
      | error f => simp only [ofPayload_rejected h, h]; rfl
      | ok rs => simp only [ofPayload_eq h, h]; rfl

theorem ofFile_eq_ok {s : FileSource} {path : Text} {report : Report}
    (h : (ofFile s path).answer = .ok report) :
    ∃ payload rs, s.load path = .ok payload ∧ Payload.records payload = .ok rs ∧
      report = ofRecords rs ∧ (ofFile s path).events = events path rs := by
  rw [ofFile_eq] at h ⊢
  cases hl : s.load path with
  | error f => rw [hl] at h; cases h
  | ok payload =>
      rw [hl] at h
      simp only at h ⊢
      cases hr : Payload.records payload with
      | error f => rw [hr] at h; cases h
      | ok rs =>
          rw [hr] at h
          exact ⟨payload, rs, rfl, hr, (Except.ok.inj h).symm, rfl⟩

end Report

end PropertyTyping
