import PropertyTyping.Proofs.LogHistory
import PropertyTyping.Proofs.PayloadReport
import PropertyTyping.Run

/-! What a run on a file logs from its start to its end. The run takes one of three courses, and all
that it logs on any of them bears its identity. When it is over the run before is current again. -/

namespace PropertyTyping

namespace Log.State

theorem runId_push {runId : Value} (h : runId.isTruthy) (s : State) :
    (s.push runId).1.runId = runId := by
  rw [push_of_truthy h]

theorem runId_reset_push (runId : Value) (s : State) :
    ((s.push runId).1.reset (s.push runId).2).1.runId = s.runId := by
  by_cases h : runId.isTruthy
  · -- The ticket is the last one given out and was not used yet.
    have hticket : (s.tickets ++ [⟨s.runId, false⟩])[s.tickets.length]? = some ⟨s.runId, false⟩ :=
      List.getElem?_concat_length
    rw [push_of_truthy h, reset_unused hticket]
  · rw [push_of_not_truthy h]
    rfl

end Log.State

namespace Traced

variable {α : Type} (t : Traced α) (runId : Value) (s : Log.State)

theorem records_inRun :
    (t.inRun runId s).records = t.events.map (·.inRun (s.push runId).1.runId) := rfl

theorem runId_inRun : (t.inRun runId s).state.runId = s.runId := s.runId_reset_push runId

end Traced

/-- The identity of a run: the text that is asked for unless it is empty, else the fresh one. -/
inductive Identifies (fresh : Text) : Option Text → Text → Prop
  | asked {t : Text} : t ≠ [] → Identifies fresh (some t) t
  | empty : Identifies fresh (some []) fresh
  | absent : Identifies fresh none fresh

theorem Identifies.ne_nil {fresh : Text} (h : fresh ≠ []) {asked : Option Text} {id : Text}
    (hid : Identifies fresh asked id) : id ≠ [] := by
  cases hid with
  | asked ht => exact ht
  | empty => exact h
  | absent => exact h

theorem exists_identifies (fresh : Text) (asked : Option Text) :
    ∃ id, Identifies fresh asked id := by
  cases asked with
  | none => exact ⟨fresh, .absent⟩
  | some t =>
      by_cases ht : t = []
      · subst ht
        exact ⟨fresh, .empty⟩
      · exact ⟨t, .asked ht⟩

theorem Identifies.runIdentity_eq {fresh : Text} {asked : Option Text} {id : Text}
    (h : Identifies fresh asked id) : runIdentity asked fresh = .text id := by
  cases h with
  | asked ht =>
      cases id with
      | nil => exact absurd rfl ht
      | cons c t => rfl
  | empty => rfl
  | absent => rfl

theorem randomIdentity_ne_nil (octets : List UInt8) : randomIdentity octets ≠ [] := by
  -- Whatever the octets are, there is a dash behind the first group of digits.
  change _ ++ (("-" : Text) ++ _) ≠ []
  exact List.append_ne_nil_of_right_ne_nil _ (List.cons_ne_nil _ _)

namespace PropertyRecord

/-- Records that were given two tags or more, whatever the tags are. -/
def hasSeveralTags (r : PropertyRecord) : Bool := decide (2 ≤ (r.propertyTypes.getD []).length)

theorem hasSeveralTags_iff {r : PropertyRecord} :
    r.hasSeveralTags ↔ ¬ r.observations.length < 2 := by
  rw [hasSeveralTags, decide_eq_true_iff, observations, List.length_map, Nat.not_lt]

theorem event?_of_several {r : PropertyRecord} (h : r.hasSeveralTags) :
    r.event? = some (Resolution.eventOf r.observations) :=
  if_neg (hasSeveralTags_iff.mp h)

theorem event?_of_few {r : PropertyRecord} (h : ¬ r.hasSeveralTags) : r.event? = none :=
  if_pos (not_not.mp fun hn => h (hasSeveralTags_iff.mpr hn))

/-- The tags of a record that say something. -/
def tagNames (r : PropertyRecord) : List Text :=
  (r.propertyTypes.getD []).filterMap fun t => t.filter (· ≠ [])

/-- The tags of a record that say something, as a list in brackets. -/
def quotedTags (r : PropertyRecord) : Text :=
  ("[" : Text) ++ Text.join ", " (r.tagNames.map Text.quoted) ++ "]"

theorem describe_present_ofText (ts : List (Option Text)) :
    (Tag.present (ts.map fun t => .plain (.ofText t))).map Tag.Observation.describe =
      (ts.filterMap fun t => t.filter (· ≠ [])).map Text.quoted := by
  induction ts with
  | nil => rfl
  | cons t ts ih =>
      rw [Tag.present] at ih
      rw [Tag.present, List.map_cons]
      cases t with
      | none =>
          rw [List.filter_cons_of_neg Bool.false_ne_true, ih]
          rfl
      | some t =>
          cases t with
          | nil =>
              rw [List.filter_cons_of_neg Bool.false_ne_true, ih]
              rfl
          | cons c t =>
              rw [List.filter_cons_of_pos rfl, List.map_cons, ih]
              rfl

theorem listing_observations (r : PropertyRecord) :
    Resolution.listing r.observations = r.quotedTags := by
  rw [Resolution.listing, observations, describe_present_ofText, quotedTags, tagNames]

end PropertyRecord

namespace Report

/-- What the note on a choice of type says: that only the string type is left of the tags, as a
warning, or what they were unified to, as a detail. -/
inductive Note (r : PropertyRecord) : Log.Event → Prop
  | warning : Resolution.Degrades (Tag.seen r.observations) →
      Note r ⟨30, "graphtypes.types.resolver", ("Inconsistent property types " : Text) ++
        r.quotedTags ++ " cannot be widened; using String"⟩
  | detail : ¬ Resolution.Degrades (Tag.seen r.observations) →
      Note r ⟨10, "graphtypes.types.resolver", ("Unified property types " : Text) ++
        r.quotedTags ++ " -> " ++ (Tag.broadestOf (Tag.seen r.observations)).describe⟩

/-- An event notes how the type of a record was chosen. -/
def Notes (r : PropertyRecord) (e : Log.Event) : Prop :=
  Note r e ∧ ∃ type, Resolution.ofRecord r = .ok ⟨type, some e⟩

theorem resolver_eq : Resolution.logger = "graphtypes.types.resolver" := by decide

theorem note_eventOf (r : PropertyRecord) : Note r (Resolution.eventOf r.observations) := by
  have hlisting := r.listing_observations
  by_cases h : Resolution.Degrades (Tag.seen r.observations)
  · rw [Resolution.eventOf, if_pos h, Resolution.degraded, hlisting, resolver_eq]
    exact .warning h
  · rw [Resolution.eventOf, if_neg h, Resolution.unified, hlisting, resolver_eq]
    exact .detail h

theorem notes_eventOf {r : PropertyRecord} (h : r.hasSeveralTags) :
    Notes r (Resolution.eventOf r.observations) := by
  refine ⟨note_eventOf r, r.resolution.type, ?_⟩
  rw [r.ofRecord_eq, PropertyRecord.resolution, PropertyRecord.event?_of_several h]

theorem forall₂_notes (rs : List PropertyRecord) :
    List.Forall₂ Notes (rs.filter PropertyRecord.hasSeveralTags)
      (rs.filterMap PropertyRecord.event?) := by
  induction rs with
  | nil => exact .nil
  | cons r rs ih =>
      by_cases h : r.hasSeveralTags
      · rw [List.filter_cons_of_pos h,
          List.filterMap_cons_some (PropertyRecord.event?_of_several h)]
        exact .cons (notes_eventOf h) ih
      · rw [List.filter_cons_of_neg h, List.filterMap_cons_none (PropertyRecord.event?_of_few h)]
        exact ih

theorem logger_eq : logger = "graphtypes.cli" := by decide

theorem failed_eq (f : Failure) :
    failed f = ⟨40, "graphtypes.cli", ("Type resolution failed: " : Text) ++ f.message⟩ := by
  rw [failed, logger_eq]
  rfl

theorem loaded_eq (path : Text) :
    loaded path = ⟨20, "graphtypes.cli", ("Loaded property records from " : Text) ++ path⟩ := by
  rw [loaded, logger_eq]
  rfl

theorem resolved_eq (count : Nat) : resolved count = ⟨20, "graphtypes.cli",
    ("Resolved " : Text) ++ Text.ofNat count ++ " property types"⟩ := by
  rw [resolved, logger_eq]
  rfl

/-- The courses that the report on a file can take: what is logged, and what comes of it. A fault is
logged once and handed on as it is. -/
inductive Course (source : FileSource) (path : Text) :
    List Log.Event → Except Failure Report → Prop
  | unloaded {f : LoadFault} : source.load path = .error f →
      Course source path
        [⟨40, "graphtypes.cli", ("Type resolution failed: " : Text) ++ f.message⟩]
        (.error (.load f))
  | refused {payload : Value} {f : Payload.Fault} : source.load path = .ok payload →
      Payload.records payload = .error f →
      (ofPayload payload).answer = .error (.rejected f.rejection) →
      Course source path
        [⟨20, "graphtypes.cli", ("Loaded property records from " : Text) ++ path⟩,
          ⟨40, "graphtypes.cli", ("Type resolution failed: " : Text) ++ f.rejection.message⟩]
        (.error (.rejected f.rejection))
  | reported {payload : Value} {rs : List PropertyRecord} {report : Report}
      {notes : List Log.Event} : source.load path = .ok payload →
      Payload.records payload = .ok rs → (ofPayload payload).answer = .ok report →
      List.Forall₂ Notes (rs.filter PropertyRecord.hasSeveralTags) notes →
      Course source path
        (⟨20, "graphtypes.cli", ("Loaded property records from " : Text) ++ path⟩ :: (notes ++
          [⟨20, "graphtypes.cli", ("Resolved " : Text) ++ Text.ofNat rs.length ++
            " property types"⟩]))
        (.ok report)

theorem course_ofFile (source : FileSource) (path : Text) :
    Course source path (ofFile source path).events (ofFile source path).answer := by
  rw [ofFile_eq]
  cases hload : source.load path with
  | error f =>
      simp only [failed_eq]
      exact .unloaded hload
  | ok payload =>
      simp only
      cases hrecords : Payload.records payload with
      | error f =>
          simp only [loaded_eq, failed_eq]
          exact .refused hload hrecords (by rw [ofPayload_rejected hrecords])
      | ok rs =>
          simp only [events, loaded_eq, resolved_eq]
          exact .reported hload hrecords (by rw [ofPayload_eq hrecords]) (forall₂_notes rs)

theorem answer_run (source : FileSource) (path : Text) (asked : Option Text) (fresh : Text)
    (s : Log.State) : (run source path asked fresh s).answer = (ofFile source path).answer := rfl

theorem records_run {fresh : Text} (h : fresh ≠ []) {asked : Option Text} {id : Text}
    (hid : Identifies fresh asked id) (source : FileSource) (path : Text) (s : Log.State) :
    (run source path asked fresh s).records =
      (ofFile source path).events.map fun e => ⟨e, .text id⟩ := by
  have htruthy : (Value.text id).isTruthy := by
    cases hne : id with
    | nil => exact absurd hne (hid.ne_nil h)
    | cons c t => rfl
  rw [run, Traced.records_inRun, hid.runIdentity_eq, s.runId_push htruthy]
  rfl

/-- However a run on a file ends, it takes one of the courses, every record of it bears the one
identity of the run, and the run before is current again. -/
theorem run_takes_course {fresh : Text} (h : fresh ≠ []) (source : FileSource) (path : Text)
    (asked : Option Text) (s : Log.State) :
    (run source path asked fresh s).state.runId = s.runId ∧
    ∃ id events, Identifies fresh asked id ∧ id ≠ [] ∧
      ((run source path asked fresh s).records = events.map fun e => ⟨e, .text id⟩) ∧
      Course source path events (run source path asked fresh s).answer := by
  obtain ⟨id, hid⟩ := exists_identifies fresh asked
  refine ⟨Traced.runId_inRun _ _ s, id, _, hid, hid.ne_nil h, records_run h hid source path s, ?_⟩
  rw [answer_run]
  exact course_ofFile source path

/-- A tree with one file of two records, of which the first has tags at odds. -/
def conflictingFile : FileSource where
  find := (FileTree.mk [([("p.json" : Text)], .file (("[\x7b\"propertyTypes\": " ++
    "[\"Long\", null, \"Date\"]\x7d, \x7b\"propertyTypes\": [\"Long\"]\x7d]").toList.map
      fun c => UInt8.ofNat c.toNat))]).find
  indented? := none

/-- A state in which another run is current already. -/
def outerRun : Log.State := (Log.State.initial.push (.text "outer")).1

def someIdentity : Text := randomIdentity (List.replicate 16 7)

/-- A run that is asked for by the empty text. -/
def innerRun : Run Report := run conflictingFile "p.json" (some []) someIdentity outerRun

theorem run_takes_course_of_conflict :
    someIdentity ≠ [] ∧ innerRun.state.runId = .text "outer" ∧
    ∃ events : List Log.Event, events.map (·.level) = [20, 30, 20] ∧
      (innerRun.records = events.map fun e => ⟨e, .text someIdentity⟩) ∧
      Course conflictingFile "p.json" events innerRun.answer := by
  have hne : someIdentity ≠ [] := randomIdentity_ne_nil _
  obtain ⟨hstate, id, events, hid, _, hrecords, hcourse⟩ :=
    run_takes_course hne conflictingFile "p.json" (some []) outerRun
  have hlevels : innerRun.records.map (·.event.level) = [20, 30, 20] := by
    decide +kernel
  rw [innerRun, hrecords, List.map_map] at hlevels
  cases hid with
  | asked h => exact absurd rfl h
  | empty => exact ⟨hne, hstate, events, hlevels, hrecords, hcourse⟩

end Report

end PropertyTyping
