import PropertyTyping.Proofs.PayloadReading
import PropertyTyping.Proofs.ReportTrace

/-! The report on a payload. It is there exactly when the payload offers records that can all be
read, and the only other answer is a refusal. The records do not act on each other: a report on
several is made of the reports on each, and a refusal counts the errors of each. -/

namespace PropertyTyping

/-- The number of errors that the details of a refusal give. -/
def Rejection.errors? (r : Rejection) : Option Int :=
  match r.details with
  | .object fields => match Value.field? "errors" fields with
    | some (.int n) => some n
    | _ => none
  | _ => none

theorem Rejection.errors?_invalid (n : Nat) : (invalid n).errors? = some (n : Int) := rfl

namespace Report

/-- What a report says about a record: the owner and the type that are found for it, by its name. -/
def Describes (r : PropertyRecord) (v : Value) : Prop :=
  ∃ owner resolution, r.ownerName = .ok owner ∧ Resolution.ofRecord r = .ok resolution ∧
    v = .object [("typeName", PropertyRecord.optionalText owner),
      ("propertyName", PropertyRecord.optionalText r.propertyName),
      ("graphqlType", .text resolution.type.render)]

theorem describes_entry (r : PropertyRecord) : Describes r r.entry.toValue :=
  ⟨_, _, r.ownerName_eq, r.ofRecord_eq, rfl⟩

theorem answer_ofPayload_eq_ok {payload : Value} {report : Report} :
    (ofPayload payload).answer = .ok report ↔
      ∃ rs, Payload.records payload = .ok rs ∧ ofRecords rs = report := by
  cases h : Payload.records payload with
  | ok rs =>
      rw [ofPayload_eq h, Except.ok.injEq]
      constructor
      · intro he
        exact ⟨rs, rfl, he⟩
      · rintro ⟨_, ⟨⟩, he⟩
        exact he
  | error f =>
      rw [ofPayload_rejected h]
      exact ⟨nofun, nofun⟩

theorem exists_answer_iff {payload : Value} :
    (∃ report, (ofPayload payload).answer = .ok report) ↔
      ∃ items, Payload.Offers payload items ∧
        ∀ v ∈ items, ∃ r, PropertyRecord.ofValue v = .ok r := by
  simp only [answer_ofPayload_eq_ok, Payload.records_eq_ok, ← Checked.exists_forall₂_iff]
  constructor
  · rintro ⟨_, rs, ⟨items, hoffers, hitems⟩, _⟩
    exact ⟨items, hoffers, rs, hitems⟩
  · rintro ⟨items, hoffers, rs, hitems⟩
    exact ⟨_, rs, ⟨items, hoffers, hitems⟩, rfl⟩

theorem length_ofRecords (rs : List PropertyRecord) : (ofRecords rs).entries.length = rs.length :=
  List.length_map _

theorem forall₂_describes (rs : List PropertyRecord) :
    List.Forall₂ Describes rs ((ofRecords rs).entries.map ReportEntry.toValue) := by
  induction rs with
  | nil => exact .nil
  | cons r rs ih => exact .cons (describes_entry r) ih

/-- Every payload is reported or refused. It is reported exactly when it offers items of which each
is read as a record; then nothing that is asked of a record can fail, and the report counts the
records and describes each of them in order. -/
theorem answer_ofPayload_total (payload : Value) :
    ((∃ report, (ofPayload payload).answer = .ok report) ∨
      ∃ r, (ofPayload payload).answer = .error (.rejected r)) ∧
    ((∃ report, (ofPayload payload).answer = .ok report) ↔
      ∃ items, Payload.Offers payload items ∧
        ∀ v ∈ items, ∃ r, PropertyRecord.ofValue v = .ok r) ∧
    (∀ r : PropertyRecord, (∃ owner, r.ownerName = .ok owner) ∧
      ∃ resolution, Resolution.ofRecord r = .ok resolution) ∧
    ∀ report, (ofPayload payload).answer = .ok report →
      ∃ items rs entries, Payload.Offers payload items ∧
        List.Forall₂ (fun v r => PropertyRecord.ofValue v = .ok r) items rs ∧
        List.Forall₂ Describes rs entries ∧ entries.length = items.length ∧
        report.toValue = .object [("status", .text "success"), ("count", .int items.length),
          ("properties", .list entries)] := by
  refine ⟨?_, exists_answer_iff, ?_, ?_⟩
  · cases h : Payload.records payload with
    | ok rs => exact .inl ⟨_, answer_ofPayload_eq_ok.mpr ⟨rs, h, rfl⟩⟩
    | error f => exact .inr ⟨f.rejection, by rw [ofPayload_rejected h]⟩
  · intro r
    exact ⟨⟨_, r.ownerName_eq⟩, ⟨_, r.ofRecord_eq⟩⟩
  · intro report h
    obtain ⟨rs, hr, rfl⟩ := answer_ofPayload_eq_ok.mp h
    obtain ⟨items, hoffers, hitems⟩ := Payload.records_eq_ok.mp hr
    refine ⟨items, rs, _, hoffers, hitems, forall₂_describes rs, ?_, ?_⟩
    · rw [List.length_map, length_ofRecords, hitems.length_eq]
    · rw [toValue, length_ofRecords, hitems.length_eq]

/-- A record that is read. -/
def ageRecord : Value := .object [("nodeType", .text ":\x60Person\x60"),
  ("propertyName", .text "age"), ("propertyTypes", .list [.text "Long"]), ("mandatory", .bool true)]

theorem answer_ofPayload_total_of_age :
    ∃ report, (ofPayload (.object [("properties", .list [ageRecord])])).answer = .ok report ∧
      ∃ r entry, PropertyRecord.ofValue ageRecord = .ok r ∧ Describes r entry ∧
        report.toValue = .object [("status", .text "success"), ("count", .int 1),
          ("properties", .list [entry])] := by
  obtain ⟨_, hreported, _, hdescribed⟩ :=
    answer_ofPayload_total (.object [("properties", .list [ageRecord])])
  have hread : ∀ v ∈ [ageRecord], ∃ r, PropertyRecord.ofValue v = .ok r := by
    rw [List.forall_mem_singleton]
    exact ⟨_, rfl⟩
  obtain ⟨report, h⟩ := hreported.mpr ⟨[ageRecord], .keyed rfl, hread⟩
  obtain ⟨items, rs, entries, hoffers, hrs, hentries, _, hvalue⟩ := hdescribed report h
  cases hoffers with
  | keyed hitems =>
      cases hitems
      obtain ⟨r, _, hr, hnil, rfl⟩ := List.forall₂_cons_left_iff.mp hrs
      cases hnil
      obtain ⟨entry, _, hentry, hnil, rfl⟩ := List.forall₂_cons_left_iff.mp hentries
      cases hnil
      exact ⟨report, h, r, entry, hr, hentry, hvalue⟩

/-- The number of errors for which a payload is refused. -/
def errors? (payload : Value) : Option Int :=
  match (ofPayload payload).answer with
  | .error (.rejected r) => r.errors?
  | _ => none

theorem ofPayload_object {fields : List (Text × Value)} {vs : List Value}
    (h : Value.field? Payload.recordsKey fields = some (.list vs)) :
    ofPayload (.object fields) = ofPayload (.list vs) := by
  rw [ofPayload, ofPayload, Payload.records_object h]

theorem answer_list_eq_ok {vs : List Value} {report : Report} :
    (ofPayload (.list vs)).answer = .ok report ↔ ∃ rs,
      List.Forall₂ (fun v r => PropertyRecord.ofValue v = .ok r) vs rs ∧ ofRecords rs = report := by
  simp only [answer_ofPayload_eq_ok, Payload.records_list_eq_ok]

theorem answer_single_eq_ok {v : Value} {report : Report} :
    (ofPayload (.list [v])).answer = .ok report ↔
      ∃ r, PropertyRecord.ofValue v = .ok r ∧ ofRecords [r] = report := by
  rw [answer_list_eq_ok]
  constructor
  · rintro ⟨_, hrs, he⟩
    obtain ⟨r, _, hr, hnil, rfl⟩ := List.forall₂_cons_left_iff.mp hrs
    cases hnil
    exact ⟨r, hr, he⟩
  · rintro ⟨r, hr, he⟩
    exact ⟨[r], .cons hr .nil, he⟩

theorem exists_answer_list_iff {vs : List Value} :
    (∃ report, (ofPayload (.list vs)).answer = .ok report) ↔
      ∀ v ∈ vs, ∃ r, PropertyRecord.ofValue v = .ok r := by
  rw [← Checked.exists_forall₂_iff]
  simp only [answer_list_eq_ok]
  constructor
  · rintro ⟨_, rs, hrs, _⟩
    exact ⟨rs, hrs⟩
  · rintro ⟨rs, hrs⟩
    exact ⟨_, rs, hrs, rfl⟩

theorem exists_answer_single_iff {v : Value} :
    (∃ report, (ofPayload (.list [v])).answer = .ok report) ↔
      ∃ r, PropertyRecord.ofValue v = .ok r :=
  exists_answer_list_iff.trans List.forall_mem_singleton

theorem entries_of_reports {vs : List Value} {reports : List Report}
    (h : List.Forall₂ (fun v report => (ofPayload (.list [v])).answer = .ok report) vs reports) :
    ∃ rs, List.Forall₂ (fun v r => PropertyRecord.ofValue v = .ok r) vs rs ∧
      (ofRecords rs).entries = reports.flatMap entries := by
  induction h with
  | nil => exact ⟨[], .nil, rfl⟩
  | cons hv _ ih =>
      -- The report on the head has one entry, which comes before those of the tail.
      obtain ⟨r, hr, rfl⟩ := answer_single_eq_ok.mp hv
      obtain ⟨rs, hrs, hentries⟩ := ih
      exact ⟨r :: rs, .cons hr hrs, congrArg (List.cons r.entry) hentries⟩

theorem refused_list {vs : List Value}
    (h : ¬ ∃ report, (ofPayload (.list vs)).answer = .ok report) :
    (ofPayload (.list vs)).answer =
      .error (.rejected (.invalid (vs.map Payload.issueCount).sum)) := by
  cases hr : Payload.records (.list vs) with
  | ok rs => exact absurd ⟨_, answer_ofPayload_eq_ok.mpr ⟨rs, hr, rfl⟩⟩ h
  | error f =>
      obtain ⟨issues, rfl, hcount⟩ := Payload.records_list_eq_error hr
      rw [ofPayload_rejected hr, ← hcount]
      rfl

theorem errors?_single (v : Value) : errors? (.list [v]) =
    match PropertyRecord.ofValue v with
    | .ok _ => none
    | .error issues => some (issues.length : Int) := by
  unfold errors?
  cases hv : PropertyRecord.ofValue v with
  | ok r => rw [answer_single_eq_ok.mpr ⟨r, hv, rfl⟩]
  | error issues =>
      have hnone : ¬ ∃ report, (ofPayload (.list [v])).answer = .ok report := by
        rw [exists_answer_single_iff, hv]
        rintro ⟨r, hr⟩
        cases hr
      have hcount : ([v].map Payload.issueCount).sum = issues.length := by
        rw [List.map_singleton, List.sum_singleton, Payload.issueCount, hv]
        rfl
      rw [refused_list hnone, hcount]
      rfl

theorem isSome_errors?_single (v : Value) : (errors? (.list [v])).isSome ↔
    ¬ ∃ report, (ofPayload (.list [v])).answer = .ok report := by
  rw [errors?_single, exists_answer_single_iff]
  cases PropertyRecord.ofValue v with
  | ok r => exact iff_of_false Bool.false_ne_true fun h => h ⟨r, rfl⟩
  | error issues => exact iff_of_true rfl nofun

theorem sum_errors?_single (vs : List Value) :
    (vs.filterMap fun v => errors? (.list [v])).sum = (vs.map Payload.issueCount).sum := by
  induction vs with
  | nil => rfl
  | cons v vs ih =>
      rw [List.filterMap_cons, errors?_single, List.map_cons, List.sum_cons, Int.natCast_add, ← ih,
        Payload.issueCount]
      -- A record that is read is left out of one sum and adds nothing to the other.
      cases PropertyRecord.ofValue v with
      | ok r => exact (Int.zero_add _).symm
      | error issues => rfl

/-- A list of records is reported as each record alone would be. It does not matter whether the list
is bare or within an object. It is reported exactly when each record alone is, and then the report
puts the reports on the single records one after another. Else it is refused with the errors of
those records that alone would be refused. -/
theorem answer_list_itemwise (vs : List Value) :
    (∀ fields, Value.field? Payload.recordsKey fields = some (.list vs) →
      ofPayload (.object fields) = ofPayload (.list vs)) ∧
    ((∃ report, (ofPayload (.list vs)).answer = .ok report) ↔
      ∀ v ∈ vs, ∃ report, (ofPayload (.list [v])).answer = .ok report) ∧
    (∀ reports,
      List.Forall₂ (fun v report => (ofPayload (.list [v])).answer = .ok report) vs reports →
      ∃ report, (ofPayload (.list vs)).answer = .ok report ∧
        report.toValue = .object [("status", .text "success"), ("count", .int vs.length),
          ("properties", .list (reports.flatMap fun one => one.entries.map ReportEntry.toValue))]) ∧
    ((¬ ∃ report, (ofPayload (.list vs)).answer = .ok report) →
      ∃ r, (ofPayload (.list vs)).answer = .error (.rejected r) ∧
        r.errors? = some (vs.filterMap fun v => errors? (.list [v])).sum) ∧
    ∀ v ∈ vs, ((errors? (.list [v])).isSome ↔
      ¬ ∃ report, (ofPayload (.list [v])).answer = .ok report) := by
  refine ⟨fun fields => ofPayload_object, ?_, ?_, ?_, fun v _ => isSome_errors?_single v⟩
  · rw [exists_answer_list_iff]
    exact forall₂_congr fun v _ => exists_answer_single_iff.symm
  · intro reports h
    obtain ⟨rs, hrs, hentries⟩ := entries_of_reports h
    refine ⟨_, answer_list_eq_ok.mpr ⟨rs, hrs, rfl⟩, ?_⟩
    rw [toValue, length_ofRecords, hrs.length_eq, hentries, List.map_flatMap]
  · intro h
    refine ⟨_, refused_list h, ?_⟩
    rw [sum_errors?_single, Rejection.errors?_invalid]

/-- A record with two faults. -/
def faultyRecord : Value := .object [("propertyName", .int 1), ("mandatory", .text "maybe")]

/-- Items of which only the first is read. -/
def mixedItems : List Value := [ageRecord, faultyRecord, .int 3]

/-- The faults of all items are counted together; items that are all read are all reported. -/
theorem answer_list_itemwise_of_mixed :
    ofPayload (.object [("source", .null), ("properties", .list mixedItems)]) =
      ofPayload (.list mixedItems) ∧
    (∃ r, (ofPayload (.list mixedItems)).answer = .error (.rejected r) ∧ r.errors? = some 3) ∧
    ∃ report, (ofPayload (.list [ageRecord, .object []])).answer = .ok report ∧
      report.toValue = .object [("status", .text "success"), ("count", .int 2),
        ("properties", .list [
          .object [("typeName", .text "Person"), ("propertyName", .text "age"),
            ("graphqlType", .text "Int!")],
          .object [("typeName", .null), ("propertyName", .null),
            ("graphqlType", .text "String")]])] := by
  obtain ⟨hshape, hall, _, hrefused, _⟩ := answer_list_itemwise mixedItems
  obtain ⟨_, _, hreported, _⟩ := answer_list_itemwise [ageRecord, .object []]
  have hmem : faultyRecord ∈ mixedItems := .tail _ (.head _)
  have hfaulty : ¬ ∃ report, (ofPayload (.list [faultyRecord])).answer = .ok report := by
    rintro ⟨report, h⟩
    cases h
  obtain ⟨r, hr, herrors⟩ := hrefused fun h => hfaulty (hall.mp h faultyRecord hmem)
  have hcount : (mixedItems.filterMap fun v => errors? (.list [v])).sum = 3 := rfl
  rw [hcount] at herrors
  exact ⟨hshape _ rfl, ⟨r, hr, herrors⟩, hreported [_, _] (.cons rfl (.cons rfl .nil))⟩

end Report

end PropertyTyping
